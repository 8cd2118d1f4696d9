/-!
Numbers of variable length: groups of seven bits, the lowest first, one group in a byte. The high
bit of a byte says that another one follows. Reading fails on bytes that end inside a number and
on a number that does not fit its width; it leaves the bytes behind the number untouched.
-/
namespace HeaderRecovery.Leb128

/-- An unsigned number of `width` bits and the bytes behind it. -/
def unsigned? (width : Nat) : List UInt8 → Option (Nat × List UInt8)
  | [] => none
  | b :: rest =>
    if width < 7 ∧ Nat.pow 2 width ≤ b.toNat then none
    else if b.toNat < 128 then some (b.toNat, rest)
    else (unsigned? (width - 7) rest).map fun (n, rest) => (b.toNat - 128 + 128 * n, rest)

/-- A number in two's complement of `width` bits. Bit six of its last byte is the sign; a byte
that reaches beyond the width holds copies of the sign only. -/
def signed? (width : Nat) : List UInt8 → Option (Int × List UInt8)
  | [] => none
  | b :: rest =>
    if width < 7 ∧ b ≠ 0 ∧ b ≠ 0x7f then none
    else if b.toNat < 64 then some (b.toNat, rest)
    else if b.toNat < 128 then some (b.toNat - 128, rest)
    else (signed? (width - 7) rest).map fun (n, rest) => (b.toNat - 128 + 128 * n, rest)

/-- A byte takes seven bits of the width, the last one perhaps fewer. -/
def maxLength (width : Nat) : Nat := (width + 6) / 7

end HeaderRecovery.Leb128
