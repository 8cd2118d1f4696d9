import HeaderRecovery.Number.Shortest

/-!
Rounding of decimals to binary floating-point numbers: to the nearest number, and of two equally
near ones to the one with the even mantissa.
-/
namespace HeaderRecovery.Number

/-- The whole number nearest to `num / den`, the even one of two. -/
def nearestEven (num den : Nat) : Nat :=
  let below := num / den
  let twice := 2 * (num - below * den)
  if twice < den ∨ (twice = den ∧ below % 2 = 0) then below else below + 1

/-- The greatest `e` with `2 ^ e ≤ num / den`, for positive `num` and `den`. -/
def binaryExponent (num den : Nat) : Int :=
  let e : Int := (Nat.log2 num : Int) - Nat.log2 den
  if num * Nat.pow 2 (-e).toNat < den * Nat.pow 2 e.toNat then e - 1 else e

namespace BinaryFormat

/-- The exponent of subnormal numbers. -/
def leastExponent (f : BinaryFormat) : Int :=
  2 - Nat.pow 2 (f.exponentBits - 1) - (f.precision - 1)

/-- The exponent of the greatest finite numbers. -/
def greatestExponent (f : BinaryFormat) : Int :=
  f.leastExponent + Nat.pow 2 f.exponentBits - 3

/-- The finite number nearest to `num / den`, with `none` above all of them. -/
def nearestQuotient? (f : BinaryFormat) (num den : Nat) : Option FiniteFloat :=
  let exponent := max f.leastExponent (binaryExponent num den + 1 - f.precision)
  let mantissa := nearestEven (num * Nat.pow 2 (-exponent).toNat) (den * Nat.pow 2 exponent.toNat)
  let least := Nat.pow 2 (f.precision - 1)
  let carried := mantissa = 2 * least
  let exponent := if carried then exponent + 1 else exponent
  let mantissa := if carried then least else mantissa
  if f.greatestExponent < exponent then none
  else some ⟨mantissa, exponent, mantissa = least && exponent != f.leastExponent⟩

/-- The number nearest to a decimal. Decimals far outside of the format's range are told by their
number of digits: `10 ^ n` lies beyond `2 ^ (3 * n)`. -/
def nearest (f : BinaryFormat) (negative : Bool) (d : Decimal) : FloatValue :=
  let zero : FiniteFloat := ⟨0, f.leastExponent, false⟩
  let magnitude := (Nat.toDigits 10 d.coefficient).length + d.exponent
  if d.coefficient = 0 ∨ 3 * magnitude < f.leastExponent - 1 then .finite negative zero
  else if f.greatestExponent + f.precision < 3 * (magnitude - 1) then .infinite negative
  else
    let num := d.coefficient * Nat.pow 10 d.exponent.toNat
    let den := Nat.pow 10 (-d.exponent).toNat
    match f.nearestQuotient? num den with
    | some x => .finite negative x
    | none => .infinite negative

end BinaryFormat
end HeaderRecovery.Number
