import HeaderRecovery.Proofs.NearestPatterns

/-!
Shortest decimals. On every decimal grid the two points around a number are tried, and if any point
of the grid rounds to the number, one of these does. So the search stops at the coarsest grid that
has such a point, and a decimal with fewer digits than the one found would leave a coarser grid
with one.
-/
namespace HeaderRecovery.Number

/-- The number that a decimal stands for. -/
def Decimal.value (d : Decimal) : ℚ := d.coefficient * 10 ^ d.exponent

namespace FiniteFloat

variable {x : FiniteFloat} {e : ℤ} {d : Decimal}

/-! The interval -/

lemma Holds.convex {a b y : ℚ} (ha : x.Holds a) (hb : x.Holds b) (hay : a ≤ y) (hyb : y ≤ b) :
    x.Holds y := by
  unfold Holds at *
  split
  · rename_i heven
    rw [if_pos heven] at ha hb
    exact ⟨ha.1.trans hay, hyb.trans hb.2⟩
  · rename_i hodd
    rw [if_neg hodd] at ha hb
    exact ⟨ha.1.trans_le hay, hyb.trans_lt hb.2⟩

lemma holds_of_between {y : ℚ} (hlow : x.low < y) (hhigh : y < x.high) : x.Holds y := by
  unfold Holds
  split
  · exact ⟨hlow.le, hhigh.le⟩
  · exact ⟨hlow, hhigh⟩

lemma Holds.bounds {y : ℚ} (h : x.Holds y) : x.low ≤ y ∧ y ≤ x.high := by
  unfold Holds at h
  split at h
  · exact h
  · exact ⟨h.1.le, h.2.le⟩

lemma low_pos (hx : 0 < x.mantissa) : 0 < x.low := by
  have hmantissa : (1 : ℚ) ≤ x.mantissa := by exact_mod_cast hx
  unfold low
  split <;> exact mul_pos (by linarith) (by positivity)

/-! One grid -/

/-- Both sides of a comparison between binary and decimal multiples are made whole by the same
factor. -/
lemma scaled_le_iff (a b : ℕ) (q e : ℤ) :
    (a * (2 ^ q.toNat * 10 ^ (-e).toNat) ≤ b * (2 ^ (-q).toNat * 10 ^ e.toNat) ↔
      (a : ℚ) * 2 ^ q ≤ b * 10 ^ e) ∧
    (b * (2 ^ (-q).toNat * 10 ^ e.toNat) ≤ a * (2 ^ q.toNat * 10 ^ (-e).toNat) ↔
      (b : ℚ) * 10 ^ e ≤ a * 2 ^ q) := by
  have hwhole : ∀ (base : ℚ) (z : ℤ), base ≠ 0 →
      base ^ z.toNat = base ^ z * base ^ (-z).toNat := by
    intro base z hbase
    rw [← zpow_natCast, ← zpow_natCast, ← zpow_add₀ hbase]
    congr 1
    omega
  have hfactor : (0 : ℚ) < 2 ^ (-q).toNat * 10 ^ (-e).toNat := by positivity
  have hbinary : ((a * (2 ^ q.toNat * 10 ^ (-e).toNat) : ℕ) : ℚ) =
      a * 2 ^ q * (2 ^ (-q).toNat * 10 ^ (-e).toNat) := by
    push_cast
    rw [hwhole 2 q two_ne_zero]
    ring
  have hdecimal : ((b * (2 ^ (-q).toNat * 10 ^ e.toNat) : ℕ) : ℚ) =
      b * 10 ^ e * (2 ^ (-q).toNat * 10 ^ (-e).toNat) := by
    push_cast
    rw [hwhole 10 e (by norm_num)]
    ring
  constructor
  · rw [← Nat.cast_le (α := ℚ), hbinary, hdecimal, mul_le_mul_iff_left₀ hfactor]
  · rw [← Nat.cast_le (α := ℚ), hbinary, hdecimal, mul_le_mul_iff_left₀ hfactor]

section Grid
variable (x : FiniteFloat) (e : ℤ)

/-- A quarter of a unit in the last place, as a whole number. -/
def scale : ℕ := 2 ^ (x.exponent - 2).toNat * 10 ^ (-e).toNat

/-- The distance of the points of a grid on the same scale. -/
def unit : ℕ := 2 ^ (-(x.exponent - 2)).toNat * 10 ^ e.toNat

/-- The greatest point of a grid that is not above the number. -/
def below : ℕ := 4 * x.mantissa * x.scale e / x.unit e

/-- The lower point is not too low. -/
def FitsBelow : Prop :=
  0 < x.below e ∧ if x.mantissa % 2 = 0 then
      (4 * x.mantissa - if x.narrowBelow then 1 else 2) * x.scale e ≤ x.below e * x.unit e
    else (4 * x.mantissa - if x.narrowBelow then 1 else 2) * x.scale e < x.below e * x.unit e

/-- The upper point is not too high. -/
def FitsAbove : Prop :=
  if x.mantissa % 2 = 0 then (x.below e + 1) * x.unit e ≤ (4 * x.mantissa + 2) * x.scale e
  else (x.below e + 1) * x.unit e < (4 * x.mantissa + 2) * x.scale e

instance : Decidable (x.FitsBelow e) := by
  unfold FitsBelow
  infer_instance

instance : Decidable (x.FitsAbove e) := by
  unfold FitsAbove
  infer_instance

variable {x e}

lemma onGrid?_eq :
    x.onGrid? e =
      if x.FitsBelow e ∧ (¬ x.FitsAbove e ∨
        2 * (4 * x.mantissa * x.scale e - x.below e * x.unit e) < x.unit e) then
        some ⟨x.below e, e⟩
      else if x.FitsAbove e then some ⟨x.below e + 1, e⟩ else none := rfl

lemma scale_le_unit_iff {a b : ℕ} :
    a * x.scale e ≤ b * x.unit e ↔ (a : ℚ) * 2 ^ (x.exponent - 2) ≤ b * 10 ^ e :=
  (scaled_le_iff a b _ _).1

lemma unit_le_scale_iff {a b : ℕ} :
    b * x.unit e ≤ a * x.scale e ↔ (b : ℚ) * 10 ^ e ≤ a * 2 ^ (x.exponent - 2) :=
  (scaled_le_iff a b _ _).2

lemma scale_lt_unit_iff {a b : ℕ} :
    a * x.scale e < b * x.unit e ↔ (a : ℚ) * 2 ^ (x.exponent - 2) < b * 10 ^ e :=
  lt_iff_lt_of_le_iff_le unit_le_scale_iff

lemma unit_lt_scale_iff {a b : ℕ} :
    b * x.unit e < a * x.scale e ↔ (b : ℚ) * 10 ^ e < a * 2 ^ (x.exponent - 2) :=
  lt_iff_lt_of_le_iff_le scale_le_unit_iff

lemma unit_pos : 0 < x.unit e := by
  unfold unit
  positivity

/-- The number lies between the two points. -/
lemma below_le : (x.below e : ℚ) * 10 ^ e ≤ 4 * x.mantissa * 2 ^ (x.exponent - 2) := by
  have h : x.below e * x.unit e ≤ 4 * x.mantissa * x.scale e := Nat.div_mul_le_self _ _
  rw [unit_le_scale_iff] at h
  exact_mod_cast h

lemma lt_above : 4 * x.mantissa * 2 ^ (x.exponent - 2) < ((x.below e + 1 : ℕ) : ℚ) * 10 ^ e := by
  have h : 4 * x.mantissa * x.scale e < (x.below e + 1) * x.unit e := by
    rw [← Nat.div_lt_iff_lt_mul unit_pos]
    exact Nat.lt_succ_self _
  rw [← not_le, unit_le_scale_iff, not_le] at h
  exact_mod_cast h

lemma fitsBelow_iff (hx : 0 < x.mantissa) : x.FitsBelow e ↔ x.Holds (x.below e * 10 ^ e) := by
  have hunit : (0 : ℚ) < 2 ^ (x.exponent - 2) := by positivity
  have hlow : ((4 * x.mantissa - if x.narrowBelow then 1 else 2 : ℕ) : ℚ) * 2 ^ (x.exponent - 2) =
      x.low := by
    rw [low, Nat.cast_sub (by split <;> omega)]
    split <;> norm_num
  have hhigh : (x.below e : ℚ) * 10 ^ e < x.high := by
    refine below_le.trans_lt ?_
    rw [high]
    linarith
  have hpos : x.low ≤ x.below e * 10 ^ e → 0 < x.below e := by
    intro h
    by_contra hzero
    rw [Nat.eq_zero_of_not_pos hzero, Nat.cast_zero, zero_mul] at h
    exact (low_pos hx).not_ge h
  rw [FitsBelow, scale_le_unit_iff, scale_lt_unit_iff, hlow, Holds]
  split
  · exact ⟨fun h => ⟨h.2, hhigh.le⟩, fun h => ⟨hpos h.1, h.1⟩⟩
  · exact ⟨fun h => ⟨h.2, hhigh⟩, fun h => ⟨hpos h.1.le, h.1⟩⟩

lemma fitsAbove_iff : x.FitsAbove e ↔ x.Holds ((x.below e + 1 : ℕ) * 10 ^ e) := by
  have hunit : (0 : ℚ) < 2 ^ (x.exponent - 2) := by positivity
  have hhigh : ((4 * x.mantissa + 2 : ℕ) : ℚ) * 2 ^ (x.exponent - 2) = x.high := by
    rw [high]
    push_cast
    ring
  have hlow : x.low < ((x.below e + 1 : ℕ) : ℚ) * 10 ^ e := by
    refine lt_of_le_of_lt ?_ lt_above
    rw [low]
    split <;> linarith
  rw [FitsAbove, unit_le_scale_iff, unit_lt_scale_iff, hhigh, Holds]
  split
  · exact (and_iff_right hlow.le).symm
  · exact (and_iff_right hlow).symm

/-- A point that is found rounds to the number. -/
lemma onGrid?_some (hx : 0 < x.mantissa) (h : x.onGrid? e = some d) :
    d.exponent = e ∧ x.Holds d.value := by
  rw [onGrid?_eq] at h
  split at h
  · rename_i hbelow
    cases h
    exact ⟨rfl, (fitsBelow_iff hx).mp hbelow.1⟩
  · split at h
    · rename_i habove
      cases h
      exact ⟨rfl, fitsAbove_iff.mp habove⟩
    · cases h

/-- If none is found, there is none: the two points around the number are the nearest. -/
lemma onGrid?_none (hx : 0 < x.mantissa) (h : x.onGrid? e = none) (n : ℕ) :
    ¬ x.Holds (n * 10 ^ e) := by
  have hgrid : (0 : ℚ) < 10 ^ e := by positivity
  have hnumber : x.Holds (4 * x.mantissa * 2 ^ (x.exponent - 2)) := by
    have hunit : (0 : ℚ) < 2 ^ (x.exponent - 2) := by positivity
    refine holds_of_between ?_ ?_
    · rw [low]
      split <;> linarith
    · rw [high]
      linarith
  rw [onGrid?_eq] at h
  split at h
  · cases h
  · rename_i hbelow
    split at h
    · cases h
    · rename_i habove
      intro hn
      rcases Nat.lt_or_ge (x.below e) n with hlt | hle
      · refine habove (fitsAbove_iff.mpr (hnumber.convex hn lt_above.le ?_))
        gcongr
        exact hlt
      · refine hbelow ⟨(fitsBelow_iff hx).mpr (hn.convex hnumber ?_ below_le), Or.inl habove⟩
        gcongr

end Grid

/-- A grid as fine as a quarter of a unit in the last place has a point for the number. -/
lemma onGrid?_fine (hx : 0 < x.mantissa) (h : (10 : ℚ) ^ e ≤ 2 ^ (x.exponent - 2)) :
    x.onGrid? e ≠ none := by
  intro hnone
  have hunit : (0 : ℚ) < 2 ^ (x.exponent - 2) := by positivity
  refine onGrid?_none hx hnone (x.below e + 1) (holds_of_between ?_ ?_)
  · refine lt_of_le_of_lt ?_ lt_above
    rw [low]
    split <;> linarith
  · have hbelow := x.below_le (e := e)
    rw [high]
    push_cast
    linarith

/-! The search -/

/-- The search ends at the first grid on which a point is found. -/
lemma coarsest_first (fuel : ℕ) {finest : ℤ} (hfound : x.onGrid? finest ≠ none)
    (hle : finest ≤ e) (hfuel : e - finest < fuel) :
    ∃ i ≤ e, x.onGrid? i = some (x.coarsest fuel e) ∧ ∀ j, i < j → j ≤ e → x.onGrid? j = none := by
  induction fuel generalizing e with
  | zero => omega
  | succ fuel ih =>
    rw [coarsest]
    cases hgrid : x.onGrid? e with
    | some d => exact ⟨e, le_rfl, hgrid, fun j hlt hje => by omega⟩
    | none =>
      have hne : finest ≠ e := fun heq => hfound (heq ▸ hgrid)
      obtain ⟨i, hi, hd, hnone⟩ := ih (e := e - 1) (by omega) (by omega)
      refine ⟨i, by omega, hd, fun j hlt hje => ?_⟩
      rcases eq_or_lt_of_le hje with rfl | hje
      · exact hgrid
      · exact hnone j hlt (by omega)

/-- The numbers among which the search succeeds, those of the widest format. -/
structure InRange (x : FiniteFloat) : Prop where
  mantissa_pos : 0 < x.mantissa
  mantissa_lt : x.mantissa < 2 ^ 53
  le_exponent : -1074 ≤ x.exponent
  exponent_le : x.exponent ≤ 971

namespace InRange

/-- The points of the first grid, but for zero, are all too high. -/
lemma high_lt (h : x.InRange) : x.high < 10 ^ (310 : ℤ) := by
  have hmantissa : 4 * (x.mantissa : ℚ) + 2 ≤ 2 ^ 55 := by
    have hlt := h.mantissa_lt
    have hle : 4 * x.mantissa + 2 ≤ 2 ^ 55 := by omega
    exact_mod_cast hle
  have hunit : (2 : ℚ) ^ (x.exponent - 2) ≤ 2 ^ (969 : ℤ) :=
    zpow_le_zpow_right₀ one_le_two (by linarith [h.exponent_le])
  have hpower : 2 ^ 1024 < 10 ^ 310 := by decide +kernel
  calc x.high ≤ 2 ^ 55 * 2 ^ (969 : ℤ) := by
        rw [high]
        gcongr
    _ = 2 ^ 1024 := by
        rw [← zpow_natCast, ← zpow_natCast, ← zpow_add₀ two_ne_zero]
        norm_num
    _ < 10 ^ (310 : ℤ) := by exact_mod_cast hpower

/-- The last grid is fine enough. -/
lemma onGrid?_last (h : x.InRange) : x.onGrid? (-389) ≠ none := by
  have hpower : 2 ^ 1076 ≤ 10 ^ 389 := by decide +kernel
  have hinverse : (10 : ℚ) ^ (-389 : ℤ) ≤ 2 ^ (-1076 : ℤ) := by
    rw [zpow_neg, zpow_neg]
    exact inv_anti₀ (by positivity) (by exact_mod_cast hpower)
  refine onGrid?_fine h.mantissa_pos (hinverse.trans ?_)
  exact zpow_le_zpow_right₀ one_le_two (by linarith [h.le_exponent])

/-- No grid coarser than that of the shortest decimal has a point that rounds to the number. -/
lemma shortest_coarsest (h : x.InRange) :
    x.Holds x.shortest.value ∧
      ∀ j > x.shortest.exponent, ∀ n : ℕ, ¬ x.Holds (n * 10 ^ j) := by
  obtain ⟨i, -, hfound, hnone⟩ :=
    coarsest_first 700 (e := 310) h.onGrid?_last (by norm_num) (by norm_num)
  have hshortest : x.shortest = x.coarsest 700 310 := if_neg h.mantissa_pos.ne'
  rw [← hshortest] at hfound
  obtain ⟨rfl, hholds⟩ := onGrid?_some h.mantissa_pos hfound
  refine ⟨hholds, fun j hj n hn => ?_⟩
  by_cases hle : j ≤ 310
  · exact onGrid?_none h.mantissa_pos (hnone j hj hle) n hn
  · obtain ⟨hlow, hhigh⟩ := hn.bounds
    have hpos : (0 : ℚ) < n := by
      have hproduct := (low_pos h.mantissa_pos).trans_le hlow
      exact pos_of_mul_pos_left hproduct (by positivity)
    have hone : (1 : ℚ) ≤ n := by exact_mod_cast hpos
    have hgrid : (10 : ℚ) ^ (310 : ℤ) ≤ 10 ^ j := zpow_le_zpow_right₀ (by norm_num) (by omega)
    have hpoint : (10 : ℚ) ^ j ≤ n * 10 ^ j := le_mul_of_one_le_left (by positivity) hone
    linarith [h.high_lt]

end InRange

/-- The decimal that is found rounds to the number, and none with fewer digits does. -/
theorem shortest_spec (h : x.InRange) :
    x.Holds x.shortest.value ∧ ∀ (c : ℕ) (e : ℤ), x.Holds (c * 10 ^ e) →
      (Nat.digits 10 x.shortest.coefficient).length ≤ (Nat.digits 10 c).length := by
  obtain ⟨hholds, hcoarser⟩ := h.shortest_coarsest
  refine ⟨hholds, fun c e hc => ?_⟩
  by_contra hlt
  -- The power of ten between the two decimals is the point of a coarser grid.
  generalize hk : (Nat.digits 10 c).length = k at hlt
  have hbelow : c < 10 ^ k := hk ▸ Nat.lt_base_pow_length_digits (by norm_num)
  have habove : 10 ^ k ≤ x.shortest.coefficient :=
    (Nat.lt_digits_length_iff (by norm_num) _).mp (not_le.mp hlt)
  have hexponent : e ≤ x.shortest.exponent := by
    by_contra hgt
    exact hcoarser e (not_le.mp hgt) c hc
  have hbetween : x.Holds ((1 : ℕ) * 10 ^ (x.shortest.exponent + k)) := by
    have hsplit : ((1 : ℕ) : ℚ) * 10 ^ (x.shortest.exponent + k) =
        (10 ^ k : ℕ) * 10 ^ x.shortest.exponent := by
      rw [zpow_add₀ (by norm_num), zpow_natCast]
      push_cast
      ring
    rw [hsplit]
    refine hc.convex hholds ?_ ?_
    · have hgrid : (10 : ℚ) ^ e ≤ 10 ^ x.shortest.exponent :=
        zpow_le_zpow_right₀ (by norm_num) hexponent
      gcongr
    · rw [Decimal.value]
      gcongr
  cases k with
  | zero =>
    have hzero : c = 0 := by omega
    rw [hzero, Nat.cast_zero, zero_mul] at hc
    exact (low_pos h.mantissa_pos).not_ge hc.bounds.1
  | succ k => exact hcoarser _ (by omega) 1 hbetween

end FiniteFloat

namespace BinaryFormat

/-- The formats all of whose numbers the search succeeds for. -/
structure Searchable (f : BinaryFormat) : Prop where
  two_le_precision : 2 ≤ f.precision
  precision_le : f.precision ≤ 53
  two_le_exponentBits : 2 ≤ f.exponentBits
  le_leastExponent : -1074 ≤ f.leastExponent
  greatestExponent_le : f.greatestExponent ≤ 971

namespace Searchable
variable {f : BinaryFormat} (h : f.Searchable) {n : ℕ}
include h

lemma one_le_precision : 1 ≤ f.precision := one_le_two.trans h.two_le_precision

lemma unpacked_inRange (hn : n ≠ 0) (hfinite : n < f.infinity) : (f.unpacked n).InRange := by
  have hfraction := Nat.mod_lt n f.binade_pos
  have hbinade : f.binade * 2 ≤ 2 ^ 53 := by
    rw [binade, ← pow_succ, Nat.sub_add_cancel h.one_le_precision]
    exact Nat.pow_le_pow_right two_pos h.precision_le
  have hfield : n / f.binade < 2 ^ f.exponentBits - 1 :=
    (Nat.div_lt_iff_lt_mul f.binade_pos).mpr hfinite
  have hfields : 2 ^ 2 ≤ 2 ^ f.exponentBits := Nat.pow_le_pow_right two_pos h.two_le_exponentBits
  refine ⟨?_, ?_, ?_, ?_⟩
  · change 0 < f.significand n
    unfold significand
    split <;> omega
  · change f.significand n < 2 ^ 53
    unfold significand
    split
    · rename_i hzero
      rw [Nat.div_eq_zero_iff_lt f.binade_pos] at hzero
      omega
    · omega
  · exact h.le_leastExponent.trans (Int.le_add_of_nonneg_right (Int.natCast_nonneg _))
  · refine le_trans ?_ h.greatestExponent_le
    change f.leastExponent + (n / f.binade - 1 : ℕ) ≤ f.leastExponent + Nat.pow 2 f.exponentBits - 3
    rw [Nat.pow_eq]
    push_cast
    generalize hpower : 2 ^ f.exponentBits = fields at hfield hfields
    have hcast : (2 : ℤ) ^ f.exponentBits = fields := by exact_mod_cast hpower
    rw [hcast]
    omega

/-- The shortest decimal of a finite pattern rounds to it, and none with fewer digits does. -/
lemma shortest_nearest (hfinite : n < f.infinity) :
    f.IsNearest (f.unpacked n).shortest.value n ∧ ∀ d : Decimal, f.IsNearest d.value n →
      (Nat.digits 10 (f.unpacked n).shortest.coefficient).length ≤
        (Nat.digits 10 d.coefficient).length := by
  by_cases hn : n = 0
  · subst hn
    have hshortest : (f.unpacked 0).shortest = ⟨0, 0⟩ := if_pos (by simp [unpacked, significand])
    rw [hshortest]
    refine ⟨?_, fun d _ => Nat.zero_le _⟩
    simpa [Decimal.value] using f.isNearest_zero
  · have hholds : ∀ y, f.IsNearest y n ↔ (f.unpacked n).Holds y := fun y =>
      isNearest_iff_holds h.two_le_precision hn hfinite
    obtain ⟨hvalue, hdigits⟩ := FiniteFloat.shortest_spec (h.unpacked_inRange hn hfinite)
    exact ⟨(hholds _).mpr hvalue, fun d hd => hdigits _ _ ((hholds _).mp hd)⟩

end Searchable
end BinaryFormat

lemma binary32_searchable : binary32.Searchable := by
  constructor <;> decide

lemma binary64_searchable : binary64.Searchable := by
  constructor <;> decide

end HeaderRecovery.Number
