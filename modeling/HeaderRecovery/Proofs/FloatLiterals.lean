import HeaderRecovery.Constant
import HeaderRecovery.Proofs.ShortestDecimals

/-!
Floating-point initializers as exact decimals. The digits of the shortest decimal are written
around a point, with zeros up to it on either side; read as an exact number and rounded again, the
text gives back the pattern that it was written from.
-/
namespace HeaderRecovery

namespace Number

/-- The number that a text of digits around a point stands for, and whether it has a sign. -/
def readDecimal? (text : String) : Option (Bool × ℚ) :=
  let negative := decide (text.toList.head? = some '-')
  let digits := if negative then text.toList.tail else text.toList
  match digits.splitOn '.' with
  | [whole, fraction] =>
    if whole ≠ [] ∧ fraction ≠ [] ∧ ∀ c ∈ whole ++ fraction, c.isDigit then
      some (negative, Nat.ofDigitChars 10 (whole ++ fraction) 0 / 10 ^ fraction.length)
    else none
  | _ => none

/-- Digits without the zeros in front of them and behind them. -/
def stripped (digits : List Char) : List Char :=
  Text.dropEndWhile (· = '0') (digits.dropWhile (· = '0'))

/-- The number of significant digits in a text. -/
def significantDigits (text : String) : ℕ := (stripped (text.toList.filter Char.isDigit)).length

variable {d : Decimal} {whole fraction : List Char}

lemma length_stripped_le (front back : ℕ) (digits : List Char) :
    (stripped (List.replicate front '0' ++ digits ++ List.replicate back '0')).length ≤
      digits.length := by
  have hzeros : ∀ n, ∀ c ∈ List.replicate n '0', decide (c = '0') = true := by
    intro n c hc
    simp [List.eq_of_mem_replicate hc]
  rw [stripped, List.append_assoc, List.dropWhile_append_of_pos (hzeros front),
    List.dropWhile_append]
  split
  · have hnone : (List.replicate back '0').dropWhile (· = '0') = [] :=
      List.dropWhile_eq_nil_iff.mpr (hzeros back)
    rw [hnone]
    exact Nat.zero_le _
  · rw [Text.dropEndWhile, List.reverse_append, List.reverse_replicate,
      List.dropWhile_append_of_pos (hzeros back), List.length_reverse]
    calc _ ≤ (digits.dropWhile (· = '0')).reverse.length := List.length_dropWhile_le _ _
      _ ≤ digits.length := by
        rw [List.length_reverse]
        exact List.length_dropWhile_le _ _

/-- The digits of a decimal around the point, with zeros up to it. -/
structure Laid (d : Decimal) (whole fraction : List Char) : Prop where
  whole_ne : whole ≠ []
  fraction_ne : fraction ≠ []
  digits : ∃ front back, whole ++ fraction =
    List.replicate front '0' ++ Nat.toDigits 10 d.coefficient ++ List.replicate back '0' ∧
      (d.coefficient ≠ 0 → (back : ℤ) - fraction.length = d.exponent)

lemma positional_laid (d : Decimal) :
    ∃ whole fraction, d.positional = String.ofList (whole ++ '.' :: fraction) ∧
      Laid d whole fraction := by
  unfold Decimal.positional
  dsimp only
  split
  · -- Of a whole number, the zeros of its exponent are written and one more behind the point.
    rename_i hexponent
    refine ⟨Nat.toDigits 10 d.coefficient ++
      List.replicate (if d.coefficient = 0 then 0 else d.exponent.toNat) '0', ['0'], ?_, ?_, ?_, ?_⟩
    · apply String.toList_injective
      simp
    · simp [Nat.toDigits_ne_nil]
    · simp
    · refine ⟨0, (if d.coefficient = 0 then 0 else d.exponent.toNat) + 1, ?_, fun hne => ?_⟩
      · simp [List.replicate_succ']
      · simp [hne, hexponent]
  · -- Else zeros in front make the digits one more than the places behind the point.
    rename_i hexponent
    generalize hplaces : (-d.exponent).toNat = places
    generalize hpadded : List.replicate (places + 1 - (Nat.toDigits 10 d.coefficient).length) '0' ++
      Nat.toDigits 10 d.coefficient = padded
    have hlength : places < padded.length := by
      rw [← hpadded, List.length_append, List.length_replicate]
      omega
    refine ⟨padded.take (padded.length - places), padded.drop (padded.length - places), rfl,
      ?_, ?_, places + 1 - (Nat.toDigits 10 d.coefficient).length, 0, ?_, fun _ => ?_⟩
    · rw [← List.length_pos_iff, List.length_take]
      omega
    · rw [← List.length_pos_iff, List.length_drop]
      omega
    · simp [hpadded]
    · rw [List.length_drop]
      omega

namespace Laid

lemma isDigit (h : Laid d whole fraction) {c : Char} (hc : c ∈ whole ++ fraction) : c.isDigit := by
  obtain ⟨front, back, hdigits, -⟩ := h.digits
  rw [hdigits, List.mem_append, List.mem_append] at hc
  rcases hc with (hc | hc) | hc
  · rw [List.eq_of_mem_replicate hc]
    decide
  · exact Nat.isDigit_of_mem_toDigits (by norm_num) (by norm_num) hc
  · rw [List.eq_of_mem_replicate hc]
    decide

/-- The digits around the point stand for the decimal. -/
lemma value_eq (h : Laid d whole fraction) :
    (Nat.ofDigitChars 10 (whole ++ fraction) 0 : ℚ) / 10 ^ fraction.length = d.value := by
  obtain ⟨front, back, hdigits, hpoint⟩ := h.digits
  have hall : Nat.ofDigitChars 10 (whole ++ fraction) 0 = 10 ^ back * d.coefficient := by
    rw [hdigits, Nat.ofDigitChars_append, Nat.ofDigitChars_append, Nat.ofDigitChars_replicate_zero,
      Nat.ofDigitChars_replicate_zero, Nat.mul_zero, Nat.ofDigitChars_ten_toDigits]
  rw [hall, Decimal.value]
  by_cases hzero : d.coefficient = 0
  · simp [hzero]
  · rw [← hpoint hzero, zpow_sub₀ (by norm_num), zpow_natCast, zpow_natCast]
    push_cast
    ring

/-- Behind a sign or none, the text is read as the decimal. -/
lemma readDecimal?_eq (h : Laid d whole fraction) (negative : Bool) :
    readDecimal? ((if negative then "-" else "") ++ String.ofList (whole ++ '.' :: fraction)) =
      some (negative, d.value) := by
  have hpoint : '.' ∉ whole ++ fraction := fun hmem => absurd (h.isDigit hmem) (by decide)
  rw [List.mem_append, not_or] at hpoint
  have hsplit : (whole ++ '.' :: fraction).splitOn '.' = [whole, fraction] := by
    rw [List.splitOn_append_cons_self_of_not_mem hpoint.1, List.splitOn_eq_singleton hpoint.2]
  have hread : whole ≠ [] ∧ fraction ≠ [] ∧ ∀ c ∈ whole ++ fraction, c.isDigit :=
    ⟨h.whole_ne, h.fraction_ne, fun c hc => h.isDigit hc⟩
  have hsign : (whole ++ '.' :: fraction).head? ≠ some '-' := by
    obtain ⟨c, rest, hwhole⟩ := List.exists_cons_of_ne_nil h.whole_ne
    have hc : c.isDigit := h.isDigit (by simp [hwhole])
    rw [hwhole]
    rintro ⟨⟩
    exact absurd hc (by decide)
  have hchars : ((if negative then "-" else "") ++
      String.ofList (whole ++ '.' :: fraction)).toList =
        (if negative then ['-'] else []) ++ (whole ++ '.' :: fraction) := by
    cases negative <;> simp
  rw [readDecimal?, hchars]
  cases negative with
  | true =>
    simp only [if_true, List.singleton_append, List.head?_cons, decide_true, List.tail_cons,
      hsplit, if_pos hread, h.value_eq]
  | false =>
    simp only [Bool.false_eq_true, if_false, List.nil_append, hsign, decide_false, hsplit,
      if_pos hread, h.value_eq]

/-- Without the zeros around them, the digits of the text are among those of the decimal. -/
lemma significantDigits_le (h : Laid d whole fraction) (negative : Bool) :
    significantDigits ((if negative then "-" else "") ++
        String.ofList (whole ++ '.' :: fraction)) ≤ (Nat.digits 10 d.coefficient).length := by
  obtain ⟨front, back, hdigits, -⟩ := h.digits
  have hkept : ((if negative then "-" else "") ++
      String.ofList (whole ++ '.' :: fraction)).toList.filter Char.isDigit = whole ++ fraction := by
    have hfilter : (whole ++ fraction).filter Char.isDigit = whole ++ fraction :=
      List.filter_eq_self.mpr fun c hc => h.isDigit hc
    have hdash : ('-').isDigit = false := by decide
    have hdot : ('.').isDigit = false := by decide
    rw [List.filter_append] at hfilter
    cases negative <;> simp [List.filter_append, hfilter, hdash, hdot]
  rw [significantDigits, hkept, hdigits]
  by_cases hzero : d.coefficient = 0
  · -- The digit of the number zero is one more of the zeros in front.
    have hfront : List.replicate front '0' ++ Nat.toDigits 10 d.coefficient =
        List.replicate (front + 1) '0' ++ [] := by
      rw [hzero, Nat.toDigits_zero, List.replicate_succ', List.append_nil]
    rw [hfront]
    exact (length_stripped_le _ _ _).trans (Nat.zero_le _)
  · have hpos : 0 < (Nat.digits 10 d.coefficient).length :=
      List.length_pos_of_ne_nil (Nat.digits_ne_nil_iff_ne_zero.mpr hzero)
    refine (length_stripped_le _ _ _).trans ?_
    rw [Nat.length_toDigits_le_iff (by norm_num) hpos]
    exact Nat.lt_base_pow_length_digits (by norm_num)

/-- All characters of the text but the sign and the point are digits. -/
lemma mem_text (h : Laid d whole fraction) {negative : Bool} {c : Char}
    (hc : c ∈ ((if negative then "-" else "") ++
      String.ofList (whole ++ '.' :: fraction)).toList) : c = '-' ∨ c = '.' ∨ c.isDigit := by
  rw [String.toList_append, List.mem_append, String.toList_ofList, List.mem_append,
    List.mem_cons] at hc
  rcases hc with hc | hc | rfl | hc
  · cases negative with
    | true => exact Or.inl (List.mem_singleton.mp hc)
    | false => cases hc
  · exact Or.inr (Or.inr (h.isDigit (List.mem_append_left _ hc)))
  · exact Or.inr (Or.inl rfl)
  · exact Or.inr (Or.inr (h.isDigit (List.mem_append_right _ hc)))

end Laid

/-! Spellings of patterns -/

/-- A text is a shortest decimal for a pattern. -/
structure BinaryFormat.Spells (f : BinaryFormat) (text : String) (pattern : ℕ) : Prop where
  point : '.' ∈ text.toList
  no_exponent : 'e' ∉ text.toList ∧ 'E' ∉ text.toList
  reads_back : ∃ negative x, readDecimal? text = some (negative, x) ∧
    ∀ other, f.Rounds negative x other ↔ other = pattern
  shortest : ∀ (negative : Bool) (d : Decimal), f.Rounds negative d.value pattern →
    significantDigits text ≤ (Nat.digits 10 d.coefficient).length

/-- A decimal that rounds to a pattern, when none with fewer digits does, spells the pattern. -/
lemma Decimal.spells {f : BinaryFormat} {negative : Bool} {pattern : ℕ}
    (hrounds : f.Rounds negative d.value pattern)
    (hshortest : ∀ (negative : Bool) (d' : Decimal), f.Rounds negative d'.value pattern →
      (Nat.digits 10 d.coefficient).length ≤ (Nat.digits 10 d'.coefficient).length) :
    f.Spells ((if negative then "-" else "") ++ d.positional) pattern := by
  obtain ⟨whole, fraction, htext, hlaid⟩ := positional_laid d
  rw [htext]
  refine ⟨?_, ⟨fun he => ?_, fun he => ?_⟩, ⟨negative, d.value, hlaid.readDecimal?_eq negative,
    fun other => ⟨fun hother => hother.unique hrounds, ?_⟩⟩, fun negative' d' hd' => ?_⟩
  · simp
  · exact absurd (hlaid.mem_text he) (by decide)
  · exact absurd (hlaid.mem_text he) (by decide)
  · rintro rfl
    exact hrounds
  · exact (hlaid.significantDigits_le negative).trans (hshortest negative' d' hd')

/-- A finite pattern is spelled by what it decodes to. -/
lemma BinaryFormat.Searchable.floating_spells {f : BinaryFormat} (h : f.Searchable) {pattern : ℕ}
    (hpattern : pattern < 2 ^ f.width) (hfinite : f.IsFinite pattern) (name : String) :
    f.Spells (Literal.floating name (f.decode pattern)) pattern := by
  have hprecision := h.one_le_precision
  obtain ⟨hnearest, hdigits⟩ := h.shortest_nearest ((isFinite_iff hprecision).mp hfinite)
  rw [decode_finite hprecision hfinite]
  exact Decimal.spells ((rounds_iff hprecision hpattern).mpr ⟨rfl, hnearest⟩)
    fun _ d' hd' => hdigits d' ((rounds_iff hprecision hpattern).mp hd').2

end Number

namespace Literal

/-- The format of the types with floating-point constants. -/
def Style.format? : Style → Option Number.BinaryFormat
  | .float => some Number.binary32
  | .double => some Number.binary64
  | _ => none

/-- The initializer of a finite floating-point constant is a shortest decimal for its bits, of
which a `float` has the lower half. -/
theorem initializer_spells {type : String} {f : Number.BinaryFormat}
    (htype : (styleOf type).format? = some f) (value : Constant)
    (hfinite : f.IsFinite (value.bits.toNat % 2 ^ f.width)) :
    f.Spells (initializer type value) (value.bits.toNat % 2 ^ f.width) := by
  have hpattern : value.bits.toNat % 2 ^ f.width < 2 ^ f.width := Nat.mod_lt _ (Nat.two_pow_pos _)
  unfold initializer
  cases hstyle : styleOf type with
  | float =>
    rw [hstyle] at htype
    cases htype
    exact Number.binary32_searchable.floating_spells hpattern hfinite "float"
  | double =>
    rw [hstyle] at htype
    cases htype
    have hall : value.bits.toNat % 2 ^ Number.binary64.width = value.bits.toNat :=
      Nat.mod_eq_of_lt value.bits.toNat_lt
    rw [hall] at hpattern hfinite ⊢
    exact Number.binary64_searchable.floating_spells hpattern hfinite "double"
  | _ =>
    rw [hstyle] at htype
    cases htype

/-- The negative number next to zero, in the lower half of a payload whose upper half is not zero,
takes 45 places. -/
theorem negative_subnormal_spelled :
    (styleOf "const float").format? = some Number.binary32 ∧
      Number.binary32.IsFinite 0x80000001 ∧
      initializer "const float" (.unsigned 0xffffffff80000001) =
        "-0." ++ String.ofList (List.replicate 44 '0') ++ "1" ∧
      Number.binary32.Spells (initializer "const float" (.unsigned 0xffffffff80000001))
        0x80000001 := by
  have hstyle : styleOf "const float" = .float := by decide +kernel
  have htype : (styleOf "const float").format? = some Number.binary32 := by
    rw [hstyle, Style.format?]
  have hfinite : Number.binary32.IsFinite 0x80000001 := by decide
  have hbits : (Constant.unsigned 0xffffffff80000001).bits.toNat % 2 ^ Number.binary32.width =
      0x80000001 := by decide +kernel
  have hspells := initializer_spells htype (.unsigned 0xffffffff80000001) (hbits.symm ▸ hfinite)
  rw [hbits] at hspells
  exact ⟨htype, hfinite, by decide +kernel, hspells⟩

end Literal
end HeaderRecovery
