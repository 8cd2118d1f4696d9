import Mathlib
import HeaderRecovery.Number.Leb128

/-!
Numbers of variable length and their bytes. What is read is one whole number, as long and as large
as its width allows, and every such number is read; the bytes behind it do not matter. Among the
ways to write a number one is the shortest.
-/
namespace HeaderRecovery.Leb128

variable {width n : Nat} {bs rest operand : List UInt8} {b : UInt8}

/-- The bytes of one number: all but the last have their high bit. -/
inductive IsWhole : List UInt8 → Prop
  | last {b : UInt8} (h : b.toNat < 128) : IsWhole [b]
  | more {b : UInt8} {bs : List UInt8} (h : 128 ≤ b.toNat) (rest : IsWhole bs) : IsWhole (b :: bs)

/-- The groups of seven bits as one number, the lowest first. -/
def value : List UInt8 → Nat
  | [] => 0
  | b :: rest => b.toNat % 128 + 128 * value rest

/-- The same bits in two's complement. -/
def signedValue (bs : List UInt8) : Int :=
  if 2 * value bs < 128 ^ bs.length then value bs else value bs - 128 ^ bs.length

/-- A way to write a number that takes no more bytes than any other. -/
structure IsShortest {α : Type} (number : List UInt8 → α) (n : α) (bs : List UInt8) : Prop where
  whole : IsWhole bs
  number_eq : number bs = n
  least : ∀ other, IsWhole other → number other = n → bs.length ≤ other.length

/-! Whole numbers -/

lemma isWhole_last_iff (hb : b.toNat < 128) : IsWhole (b :: rest) ↔ rest = [] := by
  constructor
  · intro h
    cases h with
    | last _ => rfl
    | more hhigh _ => omega
  · rintro rfl
    exact .last hb

lemma isWhole_more_iff (hb : 128 ≤ b.toNat) : IsWhole (b :: rest) ↔ IsWhole rest := by
  constructor
  · intro h
    cases h with
    | last hlow => omega
    | more _ htail => exact htail
  · exact .more hb

namespace IsWhole

lemma length_pos (h : IsWhole bs) : 0 < bs.length := by
  cases h <;> exact Nat.succ_pos _

/-- No number starts with another one. -/
lemma append_eq_nil (h : IsWhole operand) (hmore : IsWhole (operand ++ rest)) : rest = [] := by
  induction h with
  | last hb => exact (isWhole_last_iff hb).mp hmore
  | more hb _ ih => exact ih ((isWhole_more_iff hb).mp hmore)

/-- The sign is that of the last group. -/
lemma signedValue_more (h : IsWhole rest) (b : UInt8) :
    signedValue (b :: rest) = (b.toNat % 128 : Nat) + 128 * signedValue rest := by
  obtain ⟨half, hhalf⟩ : 2 ∣ 128 ^ rest.length := dvd_pow (by decide) h.length_pos.ne'
  have hpow : 128 ^ (b :: rest).length = 128 * 128 ^ rest.length := by
    rw [List.length_cons, Nat.pow_succ, Nat.mul_comm]
  have hcast : (128 : Int) ^ rest.length = ((128 ^ rest.length : Nat) : Int) := by norm_num
  have hcast' : (128 : Int) ^ (b :: rest).length = ((128 * 128 ^ rest.length : Nat) : Int) := by
    rw [← hpow]
    norm_num
  rw [signedValue, signedValue, hcast, hcast', hpow, hhalf, value]
  split <;> split <;> omega

end IsWhole

lemma value_last (hb : b.toNat < 128) : value [b] = b.toNat := by
  rw [value, value, Nat.mul_zero, Nat.add_zero, Nat.mod_eq_of_lt hb]

lemma value_more (hb : 128 ≤ b.toNat) (rest : List UInt8) :
    value (b :: rest) = b.toNat - 128 + 128 * value rest := by
  have hlt := b.toNat_lt
  rw [value]
  omega

lemma signedValue_last (hb : b.toNat < 128) :
    signedValue [b] = if b.toNat < 64 then (b.toNat : Int) else b.toNat - 128 := by
  have hlow : 2 * b.toNat < 128 ↔ b.toNat < 64 := by omega
  simp [signedValue, value_last hb, hlow]

/-! Reading -/

/-- A number that fits its width and takes no more bytes than a number of this width may take. -/
structure Fits (width : Nat) (operand : List UInt8) (n : Nat) : Prop where
  whole : IsWhole operand
  value_eq : value operand = n
  lt : n < 2 ^ width
  short : operand.length ≤ maxLength width

/-- A number in two's complement that fits its width. -/
structure FitsSigned (width : Nat) (operand : List UInt8) (n : Int) : Prop where
  whole : IsWhole operand
  value_eq : signedValue operand = n
  ge : -2 ^ (width - 1) ≤ n
  lt : n < 2 ^ (width - 1)
  short : operand.length ≤ maxLength width

lemma maxLength_step (h : 7 < width) : maxLength width = maxLength (width - 7) + 1 := by
  unfold maxLength
  omega

lemma maxLength_pos (h : 0 < width) : 1 ≤ maxLength width := by
  unfold maxLength
  omega

/-- A number of more than one byte has room for a group and more. -/
lemma wide_of_more (hwhole : IsWhole operand) (hshort : (b :: operand).length ≤ maxLength width) :
    7 < width := by
  have hlong := hwhole.length_pos
  rw [List.length_cons, maxLength] at hshort
  omega

lemma two_pow_step (h : 7 ≤ width) : 2 ^ width = 128 * 2 ^ (width - 7) := by
  conv_lhs => rw [← Nat.add_sub_cancel' h, Nat.pow_add]

/-- A group for which no width is left holds no more than the rest of the width. -/
lemma two_pow_narrow (h : width < 7) : 2 ^ width ≤ 64 :=
  Nat.pow_le_pow_right (by decide) (Nat.le_of_lt_succ h)

lemma fits_last (hwidth : 0 < width) (hb : b.toNat < 128) (h : b.toNat < 2 ^ width) :
    Fits width [b] b.toNat :=
  ⟨.last hb, value_last hb, h, maxLength_pos hwidth⟩

lemma fits_more_iff (hwidth : 7 < width) (hb : 128 ≤ b.toNat) :
    Fits width (b :: operand) n ↔
      ∃ m, n = b.toNat - 128 + 128 * m ∧ Fits (width - 7) operand m := by
  have hlt := b.toNat_lt
  have hpow := two_pow_step hwidth.le
  have hlength := maxLength_step hwidth
  constructor
  · rintro ⟨hwhole, hvalue, hfits, hshort⟩
    rw [value_more hb] at hvalue
    refine ⟨value operand, hvalue.symm, (isWhole_more_iff hb).mp hwhole, rfl, ?_, ?_⟩
    · omega
    · rw [hlength, List.length_cons] at hshort
      omega
  · rintro ⟨m, rfl, hwhole, rfl, hfits, hshort⟩
    refine ⟨.more hb hwhole, value_more hb operand, ?_, ?_⟩
    · omega
    · rw [hlength, List.length_cons]
      omega

/-- What is read is a number that fits. -/
lemma fits_of_unsigned? (hwidth : width % 7 ≠ 0) (h : unsigned? width bs = some (n, rest)) :
    ∃ operand, bs = operand ++ rest ∧ Fits width operand n := by
  induction bs generalizing width n with
  | nil => cases h
  | cons b bs ih =>
    rw [unsigned?] at h
    split at h
    · cases h
    · rename_i hrange
      split at h
      · rename_i hb
        cases h
        refine ⟨[b], rfl, fits_last (by omega) hb ?_⟩
        by_cases hnarrow : width < 7
        · exact Nat.not_le.mp fun hle => hrange ⟨hnarrow, hle⟩
        · have hpow := two_pow_step (Nat.not_lt.mp hnarrow)
          have hpos := Nat.two_pow_pos (width - 7)
          omega
      · rename_i hb
        obtain ⟨⟨m, rest'⟩, hmore, heq⟩ := Option.map_eq_some_iff.mp h
        cases heq
        -- Where seven bits are too many for the width, a byte that announces more is out of range.
        have hwide : 7 < width := by
          by_contra hnarrow
          have hlow : width < 7 := by omega
          have hpow := two_pow_narrow hlow
          exact hrange ⟨hlow, show 2 ^ width ≤ b.toNat by omega⟩
        obtain ⟨operand, rfl, hfits⟩ := ih (by omega) hmore
        exact ⟨b :: operand, rfl, (fits_more_iff hwide (Nat.not_lt.mp hb)).mpr ⟨m, rfl, hfits⟩⟩

/-- A number that fits is read, whatever stands behind it. -/
lemma Fits.unsigned? (h : Fits width operand n) (hwidth : width % 7 ≠ 0) (rest : List UInt8) :
    unsigned? width (operand ++ rest) = some (n, rest) := by
  induction operand generalizing width n with
  | nil => cases h.whole
  | cons b operand ih =>
    rw [List.cons_append, Leb128.unsigned?]
    by_cases hb : b.toNat < 128
    · have hnil := (isWhole_last_iff hb).mp h.whole
      subst hnil
      have hn : n = b.toNat := h.value_eq.symm.trans (value_last hb)
      have hin : ¬ (width < 7 ∧ Nat.pow 2 width ≤ b.toNat) :=
        fun hrange => Nat.not_le.mpr (hn ▸ h.lt) hrange.2
      rw [if_neg hin, if_pos hb, hn, List.nil_append]
    · have hwhole := (isWhole_more_iff (Nat.not_lt.mp hb)).mp h.whole
      have hwide := wide_of_more hwhole h.short
      obtain ⟨m, rfl, hmore⟩ := (fits_more_iff hwide (Nat.not_lt.mp hb)).mp h
      rw [if_neg (by omega), if_neg hb, ih hmore (by omega)]
      rfl

/-! Reading in two's complement -/

lemma two_pow_signed_step (h : 7 < width) :
    (2 : Int) ^ (width - 1) = 128 * 2 ^ (width - 7 - 1) := by
  have heq : width - 1 = 7 + (width - 7 - 1) := by omega
  rw [heq, pow_add]
  norm_num

lemma fitsSigned_more_iff (hwidth : 7 < width) (hb : 128 ≤ b.toNat) (hwhole : IsWhole operand)
    {n : Int} :
    FitsSigned width (b :: operand) n ↔
      ∃ m, n = b.toNat - 128 + 128 * m ∧ FitsSigned (width - 7) operand m := by
  have hlt := b.toNat_lt
  have hpow := two_pow_signed_step hwidth
  have hlength := maxLength_step hwidth
  have hvalue := hwhole.signedValue_more b
  constructor
  · rintro ⟨-, rfl, hge, hfits, hshort⟩
    refine ⟨signedValue operand, ?_, hwhole, rfl, ?_, ?_, ?_⟩
    · omega
    · omega
    · omega
    · rw [hlength, List.length_cons] at hshort
      omega
  · rintro ⟨m, rfl, -, rfl, hge, hfits, hshort⟩
    refine ⟨.more hb hwhole, ?_, ?_, ?_, ?_⟩
    · omega
    · omega
    · omega
    · rw [hlength, List.length_cons]
      omega

/-- One group fits, if what reaches beyond the width holds copies of the sign. -/
lemma fitsSigned_last_iff (hwidth : width % 7 = 1) (hb : b.toNat < 128) {n : Int} :
    FitsSigned width [b] n ↔ ¬ (width < 7 ∧ b ≠ 0 ∧ b ≠ 0x7f) ∧
      n = if b.toNat < 64 then (b.toNat : Int) else b.toNat - 128 := by
  have hvalue := signedValue_last hb
  have hzero : b = 0 ↔ b.toNat = 0 := UInt8.toNat_inj.symm
  have hsign : b = 0x7f ↔ b.toNat = 127 := UInt8.toNat_inj.symm
  rw [hzero.ne, hsign.ne]
  by_cases hnarrow : width < 7
  · obtain rfl : width = 1 := by omega
    constructor
    · rintro ⟨-, rfl, hge, hlt, -⟩
      norm_num at hge hlt
      refine ⟨?_, hvalue⟩
      split at hvalue <;> omega
    · rintro ⟨hcopies, rfl⟩
      refine ⟨.last hb, hvalue, ?_, ?_, maxLength_pos Nat.one_pos⟩
      · norm_num
        split <;> omega
      · norm_num
        split <;> omega
  · have hpow : (128 : Int) ≤ 2 ^ (width - 1) :=
      pow_le_pow_right₀ (by norm_num : (1 : Int) ≤ 2) (by omega : 7 ≤ width - 1)
    constructor
    · rintro ⟨-, rfl, -, -, -⟩
      exact ⟨fun h => hnarrow h.1, hvalue⟩
    · rintro ⟨-, rfl⟩
      refine ⟨.last hb, hvalue, ?_, ?_, maxLength_pos (by omega)⟩
      · split <;> omega
      · split <;> omega

lemma signed?_last (hb : b.toNat < 128) (hcopies : ¬ (width < 7 ∧ b ≠ 0 ∧ b ≠ 0x7f))
    (rest : List UInt8) : signed? width (b :: rest) =
      some (if b.toNat < 64 then (b.toNat : Int) else b.toNat - 128, rest) := by
  rw [signed?, if_neg hcopies, if_pos hb]
  split <;> rfl

lemma signed?_more (hb : 128 ≤ b.toNat) (hwidth : 7 ≤ width) (rest : List UInt8) :
    signed? width (b :: rest) = (signed? (width - 7) rest).map fun (n, rest) =>
      (b.toNat - 128 + 128 * n, rest) := by
  rw [signed?, if_neg (by omega), if_neg (by omega), if_neg (by omega)]

/-- What is read in two's complement is a number that fits. -/
lemma fitsSigned_of_signed? (hwidth : width % 7 = 1) {n : Int}
    (h : signed? width bs = some (n, rest)) :
    ∃ operand, bs = operand ++ rest ∧ FitsSigned width operand n := by
  induction bs generalizing width n with
  | nil => cases h
  | cons b bs ih =>
    have hcopies : ¬ (width < 7 ∧ b ≠ 0 ∧ b ≠ 0x7f) := by
      intro hcopies
      rw [signed?, if_pos hcopies] at h
      cases h
    by_cases hb : b.toNat < 128
    · rw [signed?_last hb hcopies] at h
      cases h
      exact ⟨[b], rfl, (fitsSigned_last_iff hwidth hb).mpr ⟨hcopies, rfl⟩⟩
    · have hhigh := Nat.not_lt.mp hb
      have hwide : 7 < width := by
        by_contra hnarrow
        refine hcopies ⟨by omega, ?_, ?_⟩
        · rintro rfl
          exact hb (by decide)
        · rintro rfl
          exact hb (by decide)
      rw [signed?_more hhigh hwide.le] at h
      obtain ⟨⟨m, rest'⟩, hmore, heq⟩ := Option.map_eq_some_iff.mp h
      cases heq
      obtain ⟨operand, rfl, hfits⟩ := ih (by omega) hmore
      exact ⟨b :: operand, rfl,
        (fitsSigned_more_iff hwide hhigh hfits.whole).mpr ⟨m, rfl, hfits⟩⟩

lemma FitsSigned.signed? {n : Int} (h : FitsSigned width operand n) (hwidth : width % 7 = 1)
    (rest : List UInt8) : signed? width (operand ++ rest) = some (n, rest) := by
  induction operand generalizing width n with
  | nil => cases h.whole
  | cons b operand ih =>
    rw [List.cons_append]
    by_cases hb : b.toNat < 128
    · have hnil := (isWhole_last_iff hb).mp h.whole
      subst hnil
      obtain ⟨hcopies, rfl⟩ := (fitsSigned_last_iff hwidth hb).mp h
      exact signed?_last hb hcopies rest
    · have hhigh := Nat.not_lt.mp hb
      have hwhole := (isWhole_more_iff hhigh).mp h.whole
      have hwide := wide_of_more hwhole h.short
      obtain ⟨m, rfl, hmore⟩ := (fitsSigned_more_iff hwide hhigh hwhole).mp h
      rw [signed?_more hhigh hwide.le, ih hmore (by omega)]
      rfl

/-! Shortest numbers -/

/-- The bytes of a number, written group by group until nothing is left. -/
def encode (n : Nat) : List UInt8 :=
  if n < 128 then [UInt8.ofNat n] else UInt8.ofNat (n % 128 + 128) :: encode (n / 128)
termination_by n
decreasing_by omega

/-- The bytes of a number in two's complement, written until nothing but the sign is left. -/
def encodeSigned (n : Int) : List UInt8 :=
  if -64 ≤ n ∧ n < 64 then [UInt8.ofNat (n % 128).toNat]
  else UInt8.ofNat ((n % 128).toNat + 128) :: encodeSigned (n / 128)
termination_by n.natAbs
decreasing_by omega

lemma toNat_byte {n : Nat} (h : n < 256) : (UInt8.ofNat n).toNat = n := by
  rw [UInt8.toNat_ofNat', Nat.mod_eq_of_lt h]

lemma encode_spec (n : Nat) : IsWhole (encode n) ∧ value (encode n) = n := by
  induction n using encode.induct with
  | case1 n hn =>
    have hbyte := toNat_byte (show n < 256 by omega)
    rw [encode, if_pos hn]
    exact ⟨.last (by omega), by rw [value_last (by omega), hbyte]⟩
  | case2 n hn ih =>
    obtain ⟨hwhole, hvalue⟩ := ih
    have hbyte := toNat_byte (show n % 128 + 128 < 256 by omega)
    rw [encode, if_neg hn]
    refine ⟨.more (by omega) hwhole, ?_⟩
    rw [value_more (by omega), hvalue]
    omega

lemma length_encode_le (h : IsWhole bs) : (encode (value bs)).length ≤ bs.length := by
  induction h with
  | last hb =>
    rw [value_last hb, encode, if_pos hb]
    rfl
  | @more b bs hb _ ih =>
    rw [encode]
    split
    · exact Nat.succ_pos _
    · have hrest : value (b :: bs) / 128 = value bs := by
        rw [value]
        omega
      rw [hrest]
      exact Nat.succ_le_succ ih

/-- No way to write a number is shorter than `encode`. -/
lemma encode_isShortest (n : Nat) : IsShortest value n (encode n) where
  whole := (encode_spec n).1
  number_eq := (encode_spec n).2
  least := by
    rintro other hwhole rfl
    exact length_encode_le hwhole

lemma encodeSigned_spec (n : Int) :
    IsWhole (encodeSigned n) ∧ signedValue (encodeSigned n) = n := by
  induction n using encodeSigned.induct with
  | case1 n hn =>
    have hbyte := toNat_byte (show (n % 128).toNat < 256 by omega)
    rw [encodeSigned, if_pos hn]
    refine ⟨.last (by omega), ?_⟩
    rw [signedValue_last (by omega), hbyte]
    split <;> omega
  | case2 n hn ih =>
    obtain ⟨hwhole, hvalue⟩ := ih
    have hbyte := toNat_byte (show (n % 128).toNat + 128 < 256 by omega)
    rw [encodeSigned, if_neg hn]
    refine ⟨.more (by omega) hwhole, ?_⟩
    rw [hwhole.signedValue_more, hvalue]
    omega

lemma length_encodeSigned_le (h : IsWhole bs) :
    (encodeSigned (signedValue bs)).length ≤ bs.length := by
  induction h with
  | last hb =>
    rw [signedValue_last hb, encodeSigned, if_pos (by split <;> omega)]
    rfl
  | @more b bs hb hwhole ih =>
    rw [encodeSigned]
    split
    · exact Nat.succ_pos _
    · have hrest : signedValue (b :: bs) / 128 = signedValue bs := by
        rw [hwhole.signedValue_more]
        omega
      rw [hrest]
      exact Nat.succ_le_succ ih

lemma encodeSigned_isShortest (n : Int) : IsShortest signedValue n (encodeSigned n) where
  whole := (encodeSigned_spec n).1
  number_eq := (encodeSigned_spec n).2
  least := by
    rintro other hwhole rfl
    exact length_encodeSigned_le hwhole

/-- A number of a width is written in no more bytes than the width takes. -/
lemma fits_encode (hwidth : 0 < width) (h : n < 2 ^ width) : Fits width (encode n) n := by
  refine ⟨(encode_spec n).1, (encode_spec n).2, h, ?_⟩
  induction n using encode.induct generalizing width with
  | case1 n hn =>
    rw [encode, if_pos hn]
    exact maxLength_pos hwidth
  | case2 n hn ih =>
    have hwide : 7 < width := by
      by_contra hnarrow
      have hpow : 2 ^ width ≤ 2 ^ 7 := Nat.pow_le_pow_right (by decide) (Nat.not_lt.mp hnarrow)
      omega
    have hpow := two_pow_step hwide.le
    have hrest : (encode (n / 128)).length ≤ maxLength (width - 7) := ih (by omega) (by omega)
    rw [encode, if_neg hn, maxLength_step hwide]
    exact Nat.succ_le_succ hrest

lemma fitsSigned_encodeSigned (hwidth : 0 < width) {n : Int} (hge : -2 ^ (width - 1) ≤ n)
    (hlt : n < 2 ^ (width - 1)) : FitsSigned width (encodeSigned n) n := by
  refine ⟨(encodeSigned_spec n).1, (encodeSigned_spec n).2, hge, hlt, ?_⟩
  induction n using encodeSigned.induct generalizing width with
  | case1 n hn =>
    rw [encodeSigned, if_pos hn]
    exact maxLength_pos hwidth
  | case2 n hn ih =>
    have hwide : 7 < width := by
      by_contra hnarrow
      have hpow : (2 : Int) ^ (width - 1) ≤ 2 ^ 6 :=
        pow_le_pow_right₀ (by norm_num) (by omega)
      omega
    have hpow := two_pow_signed_step hwide
    have hrest : (encodeSigned (n / 128)).length ≤ maxLength (width - 7) :=
      ih (by omega) (by omega) (by omega)
    rw [encodeSigned, if_neg hn, maxLength_step hwide]
    exact Nat.succ_le_succ hrest

end HeaderRecovery.Leb128
