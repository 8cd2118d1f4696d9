import HeaderRecovery.Number.Leb128

/-! Where a member lies in its aggregate, when a location expression says so by one constant. -/
namespace HeaderRecovery.Dwarf.MemberOffset

/-- The constant that a single operation pushes, or adds to the start of the aggregate. A signed
one counts modulo `2 ^ 64`. -/
def operand? : List UInt8 → Option (UInt64 × List UInt8)
  | [] => none
  | operation :: operands =>
    if operation = 0x10 ∨ operation = 0x23 then
      (Leb128.unsigned? 64 operands).map fun (n, rest) => (UInt64.ofNat n, rest)
    else if operation = 0x11 then
      (Leb128.signed? 64 operands).map fun (n, rest) => (UInt64.ofInt n, rest)
    else none

/-- The value of an expression that is one such operation and no more. -/
def eval? (expression : List UInt8) : Option UInt64 :=
  match operand? expression with
  | some (value, []) => some value
  | _ => none

end HeaderRecovery.Dwarf.MemberOffset
