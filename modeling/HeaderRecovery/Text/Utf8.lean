/-!
Text from bytes that ought to be UTF-8. Wherever they are not, the longest start of a character
that is there, or else a single byte, becomes one replacement character.
-/
namespace HeaderRecovery.Text.Utf8

/-- A character of which `owed` bytes are still to come; the next has to lie between `low` and
`high`. -/
structure Pending where
  code : Nat
  owed : Nat
  low : UInt8
  high : UInt8

def replacement : Char := Char.ofNat 0xFFFD

/-- A byte where a character may start: a whole character, the start of one, or neither. The
bounds on the second byte rule out overlong forms, surrogates and codes above the last one. -/
def lead (b : UInt8) : Char ⊕ Pending :=
  let n := b.toNat
  if n < 0x80 then .inl (Char.ofNat n)
  else if 0xC2 ≤ n ∧ n < 0xE0 then .inr ⟨n - 0xC0, 1, 0x80, 0xBF⟩
  else if n = 0xE0 then .inr ⟨0, 2, 0xA0, 0xBF⟩
  else if n = 0xED then .inr ⟨0xD, 2, 0x80, 0x9F⟩
  else if 0xE1 ≤ n ∧ n < 0xF0 then .inr ⟨n - 0xE0, 2, 0x80, 0xBF⟩
  else if n = 0xF0 then .inr ⟨0, 3, 0x90, 0xBF⟩
  else if 0xF1 ≤ n ∧ n < 0xF4 then .inr ⟨n - 0xF0, 3, 0x80, 0xBF⟩
  else if n = 0xF4 then .inr ⟨4, 3, 0x80, 0x8F⟩
  else .inl replacement

/-- The next byte of a started character, if `b` can be it. -/
def Pending.extend? (p : Pending) (b : UInt8) : Option (Char ⊕ Pending) :=
  if p.low ≤ b ∧ b ≤ p.high then
    let code := p.code * 64 + (b.toNat - 0x80)
    some (if p.owed ≤ 1 then .inl (Char.ofNat code) else .inr ⟨code, p.owed - 1, 0x80, 0xBF⟩)
  else none

def decodeFrom : Option Pending → List UInt8 → List Char
  | none, [] => []
  | some _, [] => [replacement]
  | none, b :: rest =>
    match lead b with
    | .inl c => c :: decodeFrom none rest
    | .inr p => decodeFrom (some p) rest
  | some p, b :: rest =>
    match p.extend? b with
    | some (.inl c) => c :: decodeFrom none rest
    | some (.inr p) => decodeFrom (some p) rest
    | none =>
      match lead b with
      | .inl c => replacement :: c :: decodeFrom none rest
      | .inr p => replacement :: decodeFrom (some p) rest

def decodeLossy (bytes : List UInt8) : String := String.ofList (decodeFrom none bytes)

end HeaderRecovery.Text.Utf8
