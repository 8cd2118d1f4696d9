import Mathlib
import HeaderRecovery.Number.Rounding

/-!
Rounding to the nearest pattern. Without their sign, the patterns of a binary format are a ladder
of numbers, and the pattern of infinity stands where the next one would be. A pattern is the
nearest to the numbers between the middles of its two gaps, and to a middle itself if it is even.
What a pattern decodes to gives these bounds.
-/
namespace HeaderRecovery.Number

namespace BinaryFormat

variable (f : BinaryFormat)

/-- Patterns are written in this many bits. -/
def width : ℕ := f.precision + f.exponentBits

/-- Patterns of one exponent. -/
def binade : ℕ := 2 ^ (f.precision - 1)

/-- The pattern of infinity. -/
def infinity : ℕ := (2 ^ f.exponentBits - 1) * f.binade

/-- Neither infinity nor no number at all: the exponent field is not full. -/
def IsFinite (bits : ℕ) : Prop :=
  bits / 2 ^ (f.precision - 1) % 2 ^ f.exponentBits ≠ 2 ^ f.exponentBits - 1

instance (bits : ℕ) : Decidable (f.IsFinite bits) := inferInstanceAs (Decidable (_ ≠ _))

/-- The digits of a pattern without sign; the leading one is written only if the exponent field is
zero. -/
def significand (n : ℕ) : ℕ := if n / f.binade = 0 then n else f.binade + n % f.binade

/-- The exponent of a pattern without sign. The least numbers share theirs with the fields zero
and one. -/
def exponentOf (n : ℕ) : ℤ := f.leastExponent + (n / f.binade - 1 : ℕ)

/-- The number that a pattern without sign stands for; at infinity, the one that would follow the
greatest. -/
def magnitude (n : ℕ) : ℚ := f.significand n * 2 ^ f.exponentOf n

/-- Of all patterns without sign, `n` stands for the number nearest to `x`; of two that are equally
near it is the even one. -/
structure IsNearest (x : ℚ) (n : ℕ) : Prop where
  le_infinity : n ≤ f.infinity
  nearest : ∀ m ≤ f.infinity, |x - f.magnitude n| ≤ |x - f.magnitude m|
  even : ∀ m ≤ f.infinity, m ≠ n → |x - f.magnitude m| = |x - f.magnitude n| → n % 2 = 0

/-- A number, given by its sign and its distance from zero, is rounded to a pattern. -/
def Rounds (negative : Bool) (x : ℚ) (pattern : ℕ) : Prop :=
  ∃ n, f.IsNearest x n ∧ pattern = (if negative then 2 ^ (f.width - 1) else 0) + n

/-! The ladder -/

variable {f}

lemma binade_pos : 0 < f.binade := Nat.two_pow_pos _

/-- A pattern read as its exponent field and its fraction. -/
lemma magnitude_fields (field : ℕ) {fraction : ℕ} (h : fraction < f.binade) :
    f.magnitude (f.binade * field + fraction) =
      (if field = 0 then fraction else f.binade + fraction : ℕ) *
        2 ^ (f.leastExponent + (field - 1 : ℕ)) := by
  have hfield : (f.binade * field + fraction) / f.binade = field := by
    rw [Nat.mul_add_div f.binade_pos, Nat.div_eq_of_lt h, Nat.add_zero]
  have hfraction : (f.binade * field + fraction) % f.binade = fraction := by
    rw [Nat.mul_add_mod, Nat.mod_eq_of_lt h]
  rw [magnitude, significand, exponentOf, hfield, hfraction]
  by_cases hzero : field = 0 <;> simp [hzero]

/-- The next pattern is one unit in the last place away. -/
lemma magnitude_succ (n : ℕ) : f.magnitude (n + 1) = f.magnitude n + 2 ^ f.exponentOf n := by
  obtain ⟨field, fraction, hfraction, rfl⟩ :
      ∃ field fraction, fraction < f.binade ∧ n = f.binade * field + fraction :=
    ⟨n / f.binade, n % f.binade, Nat.mod_lt n f.binade_pos, (Nat.div_add_mod n f.binade).symm⟩
  have hexponent : f.exponentOf (f.binade * field + fraction) =
      f.leastExponent + (field - 1 : ℕ) := by
    rw [exponentOf, Nat.mul_add_div f.binade_pos, Nat.div_eq_of_lt hfraction, Nat.add_zero]
  rw [hexponent, magnitude_fields field hfraction]
  by_cases hlast : fraction + 1 < f.binade
  · rw [Nat.add_assoc, magnitude_fields field hlast]
    by_cases hzero : field = 0
    · simp only [if_pos hzero]
      push_cast
      ring
    · simp only [if_neg hzero]
      push_cast
      ring
  · -- The fraction is full, and the next pattern begins a binade.
    have hfull : f.binade = fraction + 1 := by omega
    have hnext : f.binade * field + fraction + 1 = f.binade * (field + 1) + 0 := by
      rw [Nat.mul_add, Nat.mul_one]
      omega
    rw [hnext, magnitude_fields (field + 1) f.binade_pos]
    cases field with
    | zero =>
      rw [if_pos rfl, if_neg (Nat.succ_ne_zero _), hfull]
      push_cast
      ring
    | succ field =>
      have hdouble : (2 : ℚ) ^ (f.leastExponent + (field + 1 : ℕ)) =
          2 * 2 ^ (f.leastExponent + field) := by
        rw [← zpow_one_add₀ two_ne_zero]
        congr 1
        push_cast
        ring
      simp only [if_neg (Nat.succ_ne_zero _), Nat.add_sub_cancel, hdouble, Nat.add_zero]
      rw [hfull]
      push_cast
      ring

lemma magnitude_strictMono : StrictMono f.magnitude := by
  refine strictMono_nat_of_lt_succ fun n => ?_
  have hgap : (0 : ℚ) < 2 ^ f.exponentOf n := by positivity
  rw [magnitude_succ]
  linarith

lemma magnitude_zero : f.magnitude 0 = 0 := by
  simp [magnitude, significand]

/-! Middles -/

/-- Of two numbers the lower one is as near as the upper one up to their middle. -/
lemma abs_sub_le_iff {x a b : ℚ} (h : a < b) : |x - a| ≤ |x - b| ↔ 2 * x ≤ a + b := by
  rw [← sq_le_sq, ← sub_nonneg]
  have hsplit : (x - b) ^ 2 - (x - a) ^ 2 = (b - a) * (a + b - 2 * x) := by ring
  rw [hsplit, mul_nonneg_iff_of_pos_left (sub_pos.mpr h), sub_nonneg]

lemma le_abs_sub_iff {x a b : ℚ} (h : a < b) : |x - b| ≤ |x - a| ↔ a + b ≤ 2 * x := by
  rw [← sq_le_sq, ← sub_nonneg]
  have hsplit : (x - a) ^ 2 - (x - b) ^ 2 = (b - a) * (2 * x - (a + b)) := by ring
  rw [hsplit, mul_nonneg_iff_of_pos_left (sub_pos.mpr h), sub_nonneg]

/-- A finite pattern is the nearest to the numbers between the middles of the gaps around it, and
to the middles themselves if it is even. -/
lemma isNearest_iff {x : ℚ} {n : ℕ} (hn : n < f.infinity) :
    f.IsNearest x n ↔
      (∀ k, k + 1 = n → f.magnitude k + f.magnitude n ≤ 2 * x ∧
        (f.magnitude k + f.magnitude n = 2 * x → n % 2 = 0)) ∧
      2 * x ≤ f.magnitude n + f.magnitude (n + 1) ∧
      (2 * x = f.magnitude n + f.magnitude (n + 1) → n % 2 = 0) := by
  have hmono := f.magnitude_strictMono
  constructor
  · intro h
    refine ⟨fun k hk => ?_, ?_, fun hmiddle => ?_⟩
    · subst hk
      have hlt := hmono (Nat.lt_succ_self k)
      have hbelow := (le_abs_sub_iff hlt).mp (h.nearest k (by omega))
      refine ⟨hbelow, fun hmiddle => h.even k (by omega) (by omega) ?_⟩
      exact le_antisymm ((abs_sub_le_iff hlt).mpr hmiddle.ge) ((le_abs_sub_iff hlt).mpr hmiddle.le)
    · exact (abs_sub_le_iff (hmono (Nat.lt_succ_self n))).mp (h.nearest (n + 1) hn)
    · have hlt := hmono (Nat.lt_succ_self n)
      refine h.even (n + 1) hn (by omega) ?_
      exact le_antisymm ((le_abs_sub_iff hlt).mpr hmiddle.ge) ((abs_sub_le_iff hlt).mpr hmiddle.le)
  · rintro ⟨hbelow, habove, heven⟩
    -- All that lies further off has a middle that lies further off.
    have hlower : ∀ m < n, f.magnitude m + f.magnitude n ≤ 2 * x ∧
        (f.magnitude m + f.magnitude n = 2 * x → n % 2 = 0) := by
      intro m hm
      obtain ⟨k, rfl⟩ := Nat.exists_eq_add_of_lt hm
      obtain ⟨hle, hmiddle⟩ := hbelow (m + k) rfl
      have hfar := hmono.monotone (Nat.le_add_right m k)
      exact ⟨by linarith, fun heq => hmiddle (by linarith)⟩
    have hupper : ∀ m > n, 2 * x ≤ f.magnitude n + f.magnitude m ∧
        (2 * x = f.magnitude n + f.magnitude m → n % 2 = 0) := by
      intro m hm
      have hfar := hmono.monotone (Nat.succ_le_of_lt hm)
      exact ⟨by linarith, fun heq => heven (by linarith)⟩
    refine ⟨hn.le, fun m _ => ?_, fun m _ hne heq => ?_⟩
    · rcases lt_trichotomy m n with hm | rfl | hm
      · exact (le_abs_sub_iff (hmono hm)).mpr (hlower m hm).1
      · exact le_rfl
      · exact (abs_sub_le_iff (hmono hm)).mpr (hupper m hm).1
    · rcases lt_or_gt_of_ne hne with hm | hm
      · exact (hlower m hm).2
          (le_antisymm (hlower m hm).1 ((abs_sub_le_iff (hmono hm)).mp heq.le))
      · exact (hupper m hm).2
          (le_antisymm (hupper m hm).1 ((le_abs_sub_iff (hmono hm)).mp heq.le))

/-- There is only one nearest pattern: of neighbours one is odd, and between others lies a nearer
one. -/
lemma IsNearest.unique {x : ℚ} {n n' : ℕ} (h : f.IsNearest x n) (h' : f.IsNearest x n') :
    n = n' := by
  have hmono := f.magnitude_strictMono
  have hlt : ∀ {n n' : ℕ}, f.IsNearest x n → f.IsNearest x n' → ¬ n < n' := by
    intro n n' h h' hlt
    have heq := le_antisymm (h.nearest n' h'.le_infinity) (h'.nearest n h.le_infinity)
    have hn := h.even n' h'.le_infinity hlt.ne' heq.symm
    have hn' := h'.even n h.le_infinity hlt.ne heq
    have hfar : n + 1 < n' := by omega
    have hmiddle := (le_abs_sub_iff (hmono hlt)).mp heq.ge
    have hnext := (abs_sub_le_iff (hmono (Nat.lt_succ_self n))).mp
      (h.nearest (n + 1) (hfar.le.trans h'.le_infinity))
    have hbetween := hmono hfar
    linarith
  exact le_antisymm (not_lt.mp (hlt h' h)) (not_lt.mp (hlt h h'))

/-! What a pattern decodes to -/

/-- The number of a finite pattern without sign. The least number of a binade, but for the lowest
one, has a narrower gap below it. -/
def unpacked (f : BinaryFormat) (n : ℕ) : FiniteFloat :=
  ⟨f.significand n, f.exponentOf n, 2 ≤ n / f.binade && n % f.binade = 0⟩

lemma exponentOf_pred {k n : ℕ} (h : k + 1 = n) :
    f.exponentOf k = f.exponentOf n - (if (f.unpacked n).narrowBelow then 1 else 0) := by
  subst h
  have hfield : (k + 1) / f.binade = k / f.binade + if (k + 1) % f.binade = 0 then 1 else 0 := by
    rw [Nat.succ_div]
    simp only [Nat.dvd_iff_mod_eq_zero]
  unfold exponentOf unpacked
  simp only [Bool.and_eq_true, decide_eq_true_eq]
  generalize (k + 1) / f.binade = field at *
  generalize k / f.binade = below at *
  split_ifs at hfield ⊢ <;> omega

lemma width_pred (hprecision : 1 ≤ f.precision) :
    f.width - 1 = f.precision - 1 + f.exponentBits := by
  unfold width
  omega

/-- The exponent field is what stands between the fraction and the sign. -/
lemma field_eq (hprecision : 1 ≤ f.precision) (bits : ℕ) :
    bits / 2 ^ (f.precision - 1) % 2 ^ f.exponentBits = bits % 2 ^ (f.width - 1) / f.binade := by
  rw [binade, width_pred hprecision, pow_add, Nat.mod_mul_right_div_self]

lemma isFinite_iff (hprecision : 1 ≤ f.precision) {bits : ℕ} :
    f.IsFinite bits ↔ bits % 2 ^ (f.width - 1) < f.infinity := by
  have hfield : bits / 2 ^ (f.precision - 1) % 2 ^ f.exponentBits < 2 ^ f.exponentBits :=
    Nat.mod_lt _ (Nat.two_pow_pos _)
  rw [infinity, ← Nat.div_lt_iff_lt_mul f.binade_pos, ← field_eq hprecision, IsFinite]
  omega

/-- A finite pattern is decoded to its number, and its sign bit to the sign. -/
lemma decode_finite (hprecision : 1 ≤ f.precision) {bits : ℕ} (hfinite : f.IsFinite bits) :
    f.decode bits =
      .finite (bits / 2 ^ (f.width - 1) % 2 = 1) (f.unpacked (bits % 2 ^ (f.width - 1))) := by
  have hwidth := f.width_pred hprecision
  have hfield := f.field_eq hprecision bits
  rw [IsFinite, hfield] at hfinite
  generalize hn : bits % 2 ^ (f.width - 1) = n at hfield hfinite
  have hfraction : bits % 2 ^ (f.precision - 1) = n % f.binade := by
    rw [binade, ← hn, Nat.mod_mod_of_dvd bits (pow_dvd_pow 2 (by omega))]
  unfold decode unpacked significand exponentOf leastExponent
  simp only [Nat.pow_eq, hfraction, hfield, ← hwidth, if_neg hfinite]
  by_cases hzero : n / f.binade = 0
  · have hall : n % f.binade = n := by
      have hsplit := Nat.div_add_mod n f.binade
      rw [hzero] at hsplit
      omega
    simp only [hzero, hall, if_pos]
    congr 2
    push_cast
    omega
  · simp only [if_neg hzero]
    generalize n / f.binade = field at *
    congr 2
    · push_cast
      omega
    · have hsecond : (field != 1) = decide (2 ≤ field) := by
        rw [Bool.eq_iff_iff, bne_iff_ne, decide_eq_true_eq]
        omega
      rw [hsecond, Bool.and_comm]

lemma infinity_lt (hprecision : 1 ≤ f.precision) : f.infinity < 2 ^ (f.width - 1) := by
  rw [width_pred hprecision, pow_add, Nat.mul_comm, infinity, binade]
  have hpos := Nat.two_pow_pos f.exponentBits
  gcongr
  omega

/-- The sign bit of a pattern is that of the number, and the rest of it is nearest. -/
lemma rounds_iff (hprecision : 1 ≤ f.precision) {negative : Bool} {x : ℚ} {pattern : ℕ}
    (hpattern : pattern < 2 ^ f.width) :
    f.Rounds negative x pattern ↔
      negative = decide (pattern / 2 ^ (f.width - 1) % 2 = 1) ∧
        f.IsNearest x (pattern % 2 ^ (f.width - 1)) := by
  have hinfinity := f.infinity_lt hprecision
  have hhalf : 2 ^ f.width = 2 ^ (f.width - 1) * 2 := by
    rw [← pow_succ, width_pred hprecision, width]
    congr 1
    omega
  rw [hhalf] at hpattern
  unfold Rounds
  generalize 2 ^ (f.width - 1) = half at *
  constructor
  · rintro ⟨n, hn, rfl⟩
    have hlt : n < half := hn.le_infinity.trans_lt hinfinity
    cases negative with
    | true => simpa [Nat.div_eq_of_lt hlt, Nat.mod_eq_of_lt hlt, Nat.zero_lt_of_lt hlt] using hn
    | false => simpa [Nat.div_eq_of_lt hlt, Nat.mod_eq_of_lt hlt] using hn
  · rintro ⟨rfl, hnearest⟩
    refine ⟨pattern % half, hnearest, ?_⟩
    have hbit : pattern / half < 2 := Nat.div_lt_of_lt_mul hpattern
    have hsplit := Nat.div_add_mod pattern half
    interval_cases pattern / half
    · simpa using hsplit.symm
    · simpa using hsplit.symm

lemma Rounds.unique {negative : Bool} {x : ℚ} {pattern pattern' : ℕ}
    (h : f.Rounds negative x pattern) (h' : f.Rounds negative x pattern') : pattern = pattern' := by
  obtain ⟨n, hn, rfl⟩ := h
  obtain ⟨n', hn', rfl⟩ := h'
  rw [hn.unique hn']

end BinaryFormat

/-! The interval of a number -/

namespace FiniteFloat

/-- The middle of the gap below a number. -/
def low (x : FiniteFloat) : ℚ :=
  (4 * x.mantissa - (if x.narrowBelow then 1 else 2)) * 2 ^ (x.exponent - 2)

/-- The middle of the gap above a number. -/
def high (x : FiniteFloat) : ℚ := (4 * x.mantissa + 2) * 2 ^ (x.exponent - 2)

/-- What lies between the middles of the gaps around a number rounds to it, and so do the middles
if it is even. -/
def Holds (x : FiniteFloat) (y : ℚ) : Prop :=
  if x.mantissa % 2 = 0 then x.low ≤ y ∧ y ≤ x.high else x.low < y ∧ y < x.high

end FiniteFloat

namespace BinaryFormat

variable {f : BinaryFormat}

lemma two_zpow_add (e : ℤ) (k : ℕ) : (2 : ℚ) ^ (e + k) = 2 ^ k * 2 ^ e := by
  rw [zpow_add₀ two_ne_zero, zpow_natCast, mul_comm]

lemma magnitude_unpacked (n : ℕ) :
    f.magnitude n = (f.unpacked n).mantissa * 2 ^ (f.unpacked n).exponent := rfl

lemma unpacked_high (n : ℕ) :
    2 * (f.unpacked n).high = f.magnitude n + f.magnitude (n + 1) := by
  have hunit := two_zpow_add ((f.unpacked n).exponent - 2) 2
  rw [Nat.cast_two, sub_add_cancel] at hunit
  have hgap : f.exponentOf n = (f.unpacked n).exponent := rfl
  rw [magnitude_succ, magnitude_unpacked, hgap, hunit, FiniteFloat.high]
  ring

lemma unpacked_low (k : ℕ) :
    2 * (f.unpacked (k + 1)).low = f.magnitude k + f.magnitude (k + 1) := by
  have hunit := two_zpow_add ((f.unpacked (k + 1)).exponent - 2) 2
  have hhalf := two_zpow_add ((f.unpacked (k + 1)).exponent - 2) 1
  have hgap : f.exponentOf k =
      (f.unpacked (k + 1)).exponent - (if (f.unpacked (k + 1)).narrowBelow then 1 else 0) :=
    exponentOf_pred rfl
  have hpred : f.magnitude k = f.magnitude (k + 1) - 2 ^ f.exponentOf k := by
    rw [magnitude_succ]
    ring
  rw [Nat.cast_two, sub_add_cancel] at hunit
  rw [hpred, magnitude_unpacked, hgap, FiniteFloat.low, hunit]
  split
  · have hone : (f.unpacked (k + 1)).exponent - 1 =
        (f.unpacked (k + 1)).exponent - 2 + (1 : ℕ) := by
      push_cast
      ring
    rw [hone, hhalf]
    ring
  · rw [sub_zero, hunit]
    ring

/-- A binade has an even number of patterns, so that a pattern is even with its digits. -/
lemma significand_parity (hprecision : 2 ≤ f.precision) (n : ℕ) :
    f.significand n % 2 = n % 2 := by
  have htwo : 2 ∣ f.binade := dvd_pow_self 2 (by omega)
  unfold significand
  split
  · rfl
  · rw [Nat.add_mod, Nat.mod_mod_of_dvd n htwo, Nat.mod_eq_zero_of_dvd htwo, Nat.zero_add,
      Nat.mod_mod]

/-- A finite pattern other than zero is the nearest to the numbers in its interval. -/
lemma isNearest_iff_holds (hprecision : 2 ≤ f.precision) {n : ℕ} (hn : n ≠ 0)
    (hfinite : n < f.infinity) {y : ℚ} : f.IsNearest y n ↔ (f.unpacked n).Holds y := by
  obtain ⟨k, rfl⟩ := Nat.exists_eq_succ_of_ne_zero hn
  have hlow := f.unpacked_low k
  have hhigh := f.unpacked_high (k + 1)
  have hparity : (f.unpacked (k + 1)).mantissa % 2 = (k + 1) % 2 :=
    significand_parity hprecision (k + 1)
  rw [isNearest_iff hfinite, FiniteFloat.Holds, hparity]
  simp only [Nat.succ_eq_add_one, Nat.add_right_cancel_iff, forall_eq, ← hlow, ← hhigh]
  split
  · rename_i heven
    simp [heven]
  · rename_i hodd
    simp only [hodd, imp_false]
    constructor
    · rintro ⟨⟨hle, hne⟩, hge, hne'⟩
      exact ⟨lt_of_le_of_ne (by linarith) fun heq => hne (by rw [heq]),
        lt_of_le_of_ne (by linarith) fun heq => hne' (by rw [heq])⟩
    · rintro ⟨hlt, hgt⟩
      exact ⟨⟨by linarith, by linarith⟩, by linarith, by linarith⟩

/-- Zero rounds to the pattern zero. -/
lemma isNearest_zero : f.IsNearest 0 0 where
  le_infinity := Nat.zero_le _
  nearest m _ := by
    rw [magnitude_zero, sub_zero, abs_zero]
    exact abs_nonneg _
  even _ _ _ _ := rfl

end BinaryFormat
end HeaderRecovery.Number
