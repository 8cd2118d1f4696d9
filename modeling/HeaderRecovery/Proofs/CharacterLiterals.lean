import Mathlib
import HeaderRecovery.Constant

/-!
Character literals as numbers. A literal is read by the escapes of its language, which fix how many
hexadecimal digits follow; the longest takes eight or more. Main statement: every payload is read
back from its literal, but for a byte that was extended by ones, which is read as the byte.
-/
namespace HeaderRecovery.Literal

variable {raw : UInt64} {v n width : Nat}

/-! ### Reading -/

/-- The number that a hexadecimal digit stands for, in upper or lower case. -/
def hexDigit? (c : Char) : Option Nat :=
  if '0' ≤ c ∧ c ≤ '9' then some (c.toNat - '0'.toNat)
  else if 'A' ≤ c ∧ c ≤ 'F' then some (c.toNat - 'A'.toNat + 10)
  else if 'a' ≤ c ∧ c ≤ 'f' then some (c.toNat - 'a'.toNat + 10)
  else none

/-- The number that digits stand for behind those of another number. -/
def hexFrom? : Nat → List Char → Option Nat
  | n, [] => some n
  | n, c :: rest => (hexDigit? c).bind fun d => hexFrom? (16 * n + d) rest

/-- What stands behind a backslash. -/
def readEscape? : List Char → Option Nat
  | ['\''] => some 0x27
  | ['\\'] => some 0x5C
  | 'x' :: digits => if digits.length = 2 then hexFrom? 0 digits else none
  | 'u' :: digits => if digits.length = 4 then hexFrom? 0 digits else none
  | 'U' :: digits => if 8 ≤ digits.length then hexFrom? 0 digits else none
  | _ => none

/-- What stands between the quotes: an escape, or one character that needs none. -/
def readInner? : List Char → Option Nat
  | '\\' :: escape => readEscape? escape
  | [c] => if c = '\'' ∨ c = '\n' then none else some c.toNat
  | _ => none

/-- The number that a character literal stands for. -/
def readChar? (text : String) : Option Nat :=
  match text.toList with
  | '\'' :: rest => if rest.getLast? = some '\'' then readInner? rest.dropLast else none
  | _ => none

/-- The upper 56 bits of a payload are all ones. -/
def IsExtended (raw : UInt64) : Prop := ∀ bit < 64, 8 ≤ bit → raw.toNat.testBit bit

instance : Decidable (IsExtended raw) :=
  inferInstanceAs (Decidable (∀ bit < 64, 8 ≤ bit → raw.toNat.testBit bit))

/-- The number that a payload stands for: the lower byte of an extended one. -/
def folded (raw : UInt64) : Nat := if IsExtended raw then raw.toNat % 256 else raw.toNat

lemma readChar?_quoted (body : List Char) :
    readChar? (String.ofList ('\'' :: (body ++ ['\'']))) = readInner? body := by
  simp [readChar?]

/-! ### Hexadecimal digits -/

lemma hexFrom?_append (n : Nat) (cs ds : List Char) :
    hexFrom? n (cs ++ ds) = (hexFrom? n cs).bind (hexFrom? · ds) := by
  induction cs generalizing n with
  | nil => rfl
  | cons c cs ih =>
    rw [List.cons_append, hexFrom?, hexFrom?, Option.bind_assoc]
    exact congrArg (Option.bind (hexDigit? c)) (funext fun d => ih (16 * n + d))

lemma hexFrom?_zeros (k : Nat) : hexFrom? 0 (List.replicate k '0') = some 0 := by
  induction k with
  | zero => rfl
  | succ k ih => exact ih

lemma hexDigit?_digitChar (hn : n < 16) : hexDigit? n.digitChar.toUpper = some n := by
  interval_cases n <;> rfl

lemma hexFrom?_toDigits (n : Nat) : hexFrom? 0 ((Nat.toDigits 16 n).map Char.toUpper) = some n := by
  induction n using Nat.strong_induction_on with
  | h n ih =>
    rcases Nat.lt_or_ge n 16 with hsmall | hlarge
    · rw [Nat.toDigits_of_lt_base hsmall, List.map_singleton, hexFrom?, hexDigit?_digitChar hsmall]
      simp [hexFrom?]
    · have hhead := ih (n / 16) (by omega)
      have hlast := hexDigit?_digitChar (Nat.mod_lt n (show 0 < 16 by decide))
      rw [Nat.toDigits_of_base_le (by decide) hlarge, List.map_append, hexFrom?_append, hhead,
        Option.bind_some, List.map_singleton, hexFrom?, hlast, Option.bind_some, hexFrom?,
        Nat.div_add_mod]

/-- Digits with zeros in front of them stand for their number. -/
lemma hexFrom?_hex (width n : Nat) : hexFrom? 0 (hex width n).toList = some n := by
  rw [hex, String.toList_ofList, hexFrom?_append, hexFrom?_zeros, Option.bind_some,
    hexFrom?_toDigits]

lemma length_hex (width n : Nat) :
    (hex width n).toList.length = max width (Nat.toDigits 16 n).length := by
  rw [hex, String.toList_ofList, List.length_append, List.length_replicate, List.length_map]
  omega

/-- A number that fits takes exactly the digits it is given. -/
lemma length_hex_of_lt (hwidth : 0 < width) (hn : n < 16 ^ width) :
    (hex width n).toList.length = width := by
  have hshort := (Nat.length_toDigits_le_iff (by decide) hwidth).mpr hn
  rw [length_hex, max_eq_left hshort]

/-! ### Payloads -/

lemma isExtended_iff (raw : UInt64) : IsExtended raw ↔ raw.toNat / 2 ^ 8 = 2 ^ 56 - 1 := by
  have hbits : ∀ bit, (raw.toNat / 2 ^ 8).testBit bit = raw.toNat.testBit (bit + 8) :=
    Nat.testBit_div_two_pow raw.toNat
  constructor
  · intro h
    refine Nat.eq_of_testBit_eq fun bit => ?_
    rw [hbits, Nat.testBit_two_pow_sub_one]
    rcases Nat.lt_or_ge bit 56 with hbit | hbit
    · rw [h (bit + 8) (by omega) (by omega), decide_eq_true hbit]
    · have hlt : raw.toNat < 2 ^ (bit + 8) :=
        Nat.lt_of_lt_of_le raw.toNat_lt (Nat.pow_le_pow_right (by decide) (by omega))
      rw [Nat.testBit_lt_two_pow hlt, decide_eq_false (Nat.not_lt.mpr hbit)]
  · intro h bit hbit hupper
    have hplace := hbits (bit - 8)
    rw [h, Nat.testBit_two_pow_sub_one, decide_eq_true (by omega), Nat.sub_add_cancel hupper]
      at hplace
    exact hplace.symm

/-- The fold by division is the one by bits. -/
lemma foldByte_eq_folded (raw : UInt64) : foldByte raw = folded raw := by
  have hmask : (0xffffffffffffff : Nat) = 2 ^ 56 - 1 := rfl
  rw [foldByte, folded, hmask]
  exact if_congr (isExtended_iff raw).symm rfl rfl

/-! ### Literals -/

/-- A character that needs no escape is read as its code point. -/
lemma readInner?_plain (hquote : v ≠ 0x27) (hslash : v ≠ 0x5C) (hplain : 0x20 ≤ v ∧ v ≤ 0x7E) :
    readInner? [Char.ofNat v] = some v := by
  have hchar : (Char.ofNat v).toNat = v := by
    rw [Char.toNat_ofNat, if_pos (Or.inl (by omega))]
  have hne : ∀ d : Char, v ≠ d.toNat → Char.ofNat v ≠ d := by
    rintro d hd rfl
    exact hd hchar.symm
  have hfeed : v ≠ '\n'.toNat := Nat.ne_of_gt (Nat.lt_of_lt_of_le (by decide) hplain.1)
  rw [readInner?, if_neg (not_or.mpr ⟨hne '\'' hquote, hne '\n' hfeed⟩), hchar]
  -- What is left to show is that the character does not start an escape.
  exact hne '\\' hslash

/-- An escape of a kind with so many digits is read as the number that they spell. -/
lemma char_escaped (kind : Char) (width v : Nat)
    (h : readEscape? (kind :: (hex width v).toList) = hexFrom? 0 (hex width v).toList) :
    ∃ body, "'\\" ++ String.singleton kind ++ hex width v ++ "'" =
      String.ofList ('\'' :: (body ++ ['\''])) ∧ readInner? body = some v := by
  refine ⟨'\\' :: kind :: (hex width v).toList, ?_, ?_⟩
  · apply String.toList_injective
    simp
  · rw [readInner?, h, hexFrom?_hex]

/-- What is written between the quotes is read as the number that the payload stands for. -/
lemma char_quoted (raw : UInt64) :
    ∃ body, char raw = String.ofList ('\'' :: (body ++ ['\''])) ∧
      readInner? body = some (foldByte raw) := by
  rw [char]
  generalize foldByte raw = v
  split_ifs with hquote hslash hplain hbyte hshort
  · exact ⟨['\\', '\''], rfl, by rw [hquote]; rfl⟩
  · exact ⟨['\\', '\\'], rfl, by rw [hslash]; rfl⟩
  · refine ⟨[Char.ofNat v], ?_, ?_⟩
    · apply String.toList_injective
      simp
    · exact readInner?_plain hquote hslash hplain
  · refine char_escaped 'x' 2 v ?_
    rw [readEscape?, if_pos (length_hex_of_lt (by decide) (by omega))]
  · refine char_escaped 'u' 4 v ?_
    rw [readEscape?, if_pos (length_hex_of_lt (by decide) (by omega))]
  · refine char_escaped 'U' 8 v ?_
    rw [readEscape?, if_pos (by rw [length_hex]; exact Nat.le_max_left _ _)]

/-- Every payload is read back from its character literal, an extended byte as the byte; so the
literals of two payloads are the same exactly if they stand for the same number. -/
theorem char_read_back (raw : UInt64) :
    readChar? (char raw) = some (folded raw) ∧
      ∀ other, char raw = char other ↔ folded raw = folded other := by
  have hread : ∀ raw, readChar? (char raw) = some (folded raw) := by
    intro raw
    obtain ⟨body, htext, hbody⟩ := char_quoted raw
    rw [htext, readChar?_quoted, hbody, foldByte_eq_folded]
  refine ⟨hread raw, fun other => ⟨fun htext => ?_, fun hfolded => ?_⟩⟩
  · have hsame := hread raw
    rw [htext, hread other] at hsame
    exact (Option.some.inj hsame).symm
  · rw [← foldByte_eq_folded, ← foldByte_eq_folded] at hfolded
    rw [char, char, hfolded]

/-- Minus one in a signed character is its byte, but not the same bits in 16 of them. -/
example : [0xff, 0xffffffffffffffff, 0xffff].map char = ["'\\xFF'", "'\\xFF'", "'\\uFFFF'"] := by
  decide +kernel

end HeaderRecovery.Literal
