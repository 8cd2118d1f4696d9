import HeaderRecovery.Dwarf.MemberOffset
import HeaderRecovery.Proofs.VariableLength

/-!
Member locations that are one constant. An expression has a value exactly if it is one of three
operations with one whole operand that fits 64 bits; no such expression starts with another.
-/
namespace HeaderRecovery.Dwarf.MemberOffset

open Leb128

variable {expression operand rest : List UInt8} {v w : UInt64}

/-- An expression of one operation, and the constant that it stands for. -/
inductive Denotes : List UInt8 → UInt64 → Prop
  | unsigned {operation : UInt8} {operand : List UInt8} {v : UInt64}
      (known : operation = 0x10 ∨ operation = 0x23) (fits : Fits 64 operand v.toNat) :
      Denotes (operation :: operand) v
  | signed {operand : List UInt8} {n : Int} {v : UInt64} (fits : FitsSigned 64 operand n)
      (wrapped : (v.toNat : Int) = n % 2 ^ 64) : Denotes (0x11 :: operand) v

lemma eval?_eq_some_iff : eval? expression = some v ↔ operand? expression = some (v, []) := by
  unfold eval?
  split
  · rename_i value h
    simp [h]
  · rename_i hother
    exact iff_of_false (by simp) fun h => hother v h

lemma toNat_ofInt (n : Int) : ((UInt64.ofInt n).toNat : Int) = n % 2 ^ 64 := by
  have hmod : (n % 2 ^ 64).toNat < 2 ^ 64 := by omega
  rw [UInt64.ofInt, UInt64.toNat_ofNat_of_lt' hmod]
  omega

/-- What has a value is one operation with one whole operand. -/
lemma denotes_of_operand? (h : operand? expression = some (v, [])) : Denotes expression v := by
  cases expression with
  | nil => cases h
  | cons operation operands =>
    rw [operand?] at h
    split at h
    · rename_i known
      obtain ⟨⟨n, rest⟩, hread, heq⟩ := Option.map_eq_some_iff.mp h
      cases heq
      obtain ⟨operand, rfl, hfits⟩ := fits_of_unsigned? (by decide) hread
      rw [List.append_nil]
      refine .unsigned known ?_
      rwa [UInt64.toNat_ofNat_of_lt' hfits.lt]
    · split at h
      · rename_i hsigned
        obtain ⟨⟨n, rest⟩, hread, heq⟩ := Option.map_eq_some_iff.mp h
        cases heq
        obtain ⟨operand, rfl, hfits⟩ := fitsSigned_of_signed? (by decide) hread
        rw [List.append_nil, hsigned]
        exact .signed hfits (toNat_ofInt n)
      · cases h

lemma Denotes.operand? (h : Denotes expression v) : operand? expression = some (v, []) := by
  cases h with
  | unsigned known fits =>
    have hread := fits.unsigned? (by decide) []
    rw [List.append_nil] at hread
    rw [MemberOffset.operand?, if_pos known, hread]
    exact congrArg (fun w => some (w, [])) UInt64.ofNat_toNat
  | @signed operand n v fits wrapped =>
    have hread := fits.signed? (by decide) []
    have hv : UInt64.ofInt n = v := by
      apply UInt64.toNat_inj.mp
      have hofInt := toNat_ofInt n
      omega
    rw [List.append_nil] at hread
    rw [MemberOffset.operand?, if_neg (by decide), if_pos rfl, hread]
    exact congrArg (fun w => some (w, [])) hv

lemma Denotes.exists_whole (h : Denotes expression v) :
    ∃ operation operand, expression = operation :: operand ∧ IsWhole operand := by
  cases h with
  | unsigned _ fits => exact ⟨_, _, rfl, fits.whole⟩
  | signed fits _ => exact ⟨_, _, rfl, fits.whole⟩

/-- No expression that has a value starts with another one. -/
lemma Denotes.append_eq_nil (h : Denotes expression v) (hmore : Denotes (expression ++ rest) w) :
    rest = [] := by
  obtain ⟨operation, operand, rfl, hwhole⟩ := h.exists_whole
  obtain ⟨operation', operand', heq, hwhole'⟩ := hmore.exists_whole
  obtain ⟨-, rfl⟩ := List.cons.inj heq
  exact hwhole.append_eq_nil hwhole'

lemma eval?_iff : eval? expression = some v ↔ Denotes expression v :=
  eval?_eq_some_iff.trans ⟨denotes_of_operand?, Denotes.operand?⟩

lemma eval?_eq_none (h : ∀ v, ¬ Denotes expression v) : eval? expression = none :=
  Option.eq_none_iff_forall_ne_some.mpr fun v heq => h v (eval?_iff.mp heq)

/-- An unsigned operation on the shortest form of any number of 64 bits gives that number, and the
signed one on that of any number in two's complement gives it modulo `2 ^ 64`. What has a value is
one such operation with one whole operand of this value, and no byte may follow it or be missing
at its end. -/
theorem eval?_one_operation :
    (∀ v : UInt64, IsShortest value v.toNat (encode v.toNat) ∧
      eval? (0x10 :: encode v.toNat) = some v ∧ eval? (0x23 :: encode v.toNat) = some v) ∧
    (∀ s : Int64, IsShortest signedValue s.toInt (encodeSigned s.toInt) ∧
      ∃ v, eval? (0x11 :: encodeSigned s.toInt) = some v ∧ (v.toNat : Int) = s.toInt % 2 ^ 64) ∧
    (∀ expression v, eval? expression = some v ↔ Denotes expression v) ∧
    ∀ expression v, eval? expression = some v →
      (∀ b, eval? (expression ++ [b]) = none) ∧ eval? expression.dropLast = none := by
  refine ⟨fun v => ?_, fun s => ?_, fun _ _ => eval?_iff, fun expression v h => ?_⟩
  · have hfits : Fits 64 (encode v.toNat) v.toNat := fits_encode (by decide) v.toNat_lt
    exact ⟨encode_isShortest _, eval?_iff.mpr (.unsigned (.inl rfl) hfits),
      eval?_iff.mpr (.unsigned (.inr rfl) hfits)⟩
  · have hfits : FitsSigned 64 (encodeSigned s.toInt) s.toInt :=
      fitsSigned_encodeSigned (by decide) s.le_toInt s.toInt_lt
    exact ⟨encodeSigned_isShortest _, UInt64.ofInt s.toInt,
      eval?_iff.mpr (.signed hfits (toNat_ofInt _)), toNat_ofInt _⟩
  · have hdenotes := eval?_iff.mp h
    obtain ⟨operation, operand, hsplit, hwhole⟩ := hdenotes.exists_whole
    have hne : expression ≠ [] := hsplit ▸ List.cons_ne_nil operation operand
    constructor
    · exact fun b => eval?_eq_none fun w hmore =>
        List.cons_ne_nil b [] (hdenotes.append_eq_nil hmore)
    · refine eval?_eq_none fun w hless => ?_
      rw [← List.dropLast_append_getLast hne] at hdenotes
      exact List.cons_ne_nil _ [] (hless.append_eq_nil hdenotes)

/-- Ten bytes for the largest number, with nothing but the highest bit in the last. -/
example : eval? [0x10, 0xff, 0xff, 0xff, 0xff, 0xff, 0xff, 0xff, 0xff, 0xff, 0x01] =
    some 0xffffffffffffffff := by
  decide

end HeaderRecovery.Dwarf.MemberOffset
