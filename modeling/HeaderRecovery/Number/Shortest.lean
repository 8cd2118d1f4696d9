/-!
Shortest decimals of binary floating-point numbers.

A finite number is `mantissa * 2 ^ exponent`. The reals that round to it form an interval,
closed when the mantissa is even. The shortest decimal is the point of the coarsest decimal
grid that meets this interval; of two such points it is the nearer one, and of two equally
near ones the larger.
-/
namespace HeaderRecovery.Number

/-- A binary interchange format: significand bits, the leading one included, and bits of the
exponent field. -/
structure BinaryFormat where
  precision : Nat
  exponentBits : Nat

def binary32 : BinaryFormat := ⟨24, 8⟩

def binary64 : BinaryFormat := ⟨53, 11⟩

/-- A finite number `mantissa * 2 ^ exponent`. `narrowBelow` holds for the least mantissa of
a binade, whose lower neighbour is only half as far away as the upper one. -/
structure FiniteFloat where
  mantissa : Nat
  exponent : Int
  narrowBelow : Bool
  deriving DecidableEq, Repr

inductive FloatValue where
  | finite (negative : Bool) (value : FiniteFloat)
  | infinite (negative : Bool)
  | notANumber
  deriving DecidableEq, Repr

/-- Reads a bit pattern; bits above the format's width are left out. -/
def BinaryFormat.decode (f : BinaryFormat) (bits : Nat) : FloatValue :=
  let fractionBits := f.precision - 1
  let fraction := bits % Nat.pow 2 fractionBits
  let field := bits / Nat.pow 2 fractionBits % Nat.pow 2 f.exponentBits
  let negative := bits / Nat.pow 2 (fractionBits + f.exponentBits) % 2 = 1
  let top := Nat.pow 2 f.exponentBits - 1
  let bias : Int := Nat.pow 2 (f.exponentBits - 1) - 1
  if field = top then if fraction = 0 then .infinite negative else .notANumber
  else if field = 0 then .finite negative ⟨fraction, 1 - bias - fractionBits, false⟩
  else .finite negative
    ⟨Nat.pow 2 fractionBits + fraction, field - bias - fractionBits, fraction = 0 && field != 1⟩

/-- The number `coefficient * 10 ^ exponent`. -/
structure Decimal where
  coefficient : Nat
  exponent : Int
  deriving DecidableEq, Repr

/-- The point of the grid of multiples of `10 ^ e` that rounds to `x` and lies nearest to it.
Values are compared in quarters of a unit in the last place of `x`, so that the ends of the
interval are whole numbers. -/
def FiniteFloat.onGrid? (x : FiniteFloat) (e : Int) : Option Decimal :=
  let quarter := x.exponent - 2
  let scale := Nat.pow 2 quarter.toNat * Nat.pow 10 (-e).toNat
  let unit := Nat.pow 2 (-quarter).toNat * Nat.pow 10 e.toNat
  let value := 4 * x.mantissa * scale
  let low := (4 * x.mantissa - if x.narrowBelow then 1 else 2) * scale
  let high := (4 * x.mantissa + 2) * scale
  let closed := x.mantissa % 2 = 0
  let below := value / unit
  let above := below + 1
  let belowFits := 0 < below ∧ if closed then low ≤ below * unit else low < below * unit
  let aboveFits := if closed then above * unit ≤ high else above * unit < high
  if belowFits ∧ (¬ aboveFits ∨ 2 * (value - below * unit) < unit) then some ⟨below, e⟩
  else if aboveFits then some ⟨above, e⟩
  else none

/-- The first grid that has a point for `x`, from the exponent `e` downwards. -/
def FiniteFloat.coarsest (x : FiniteFloat) : Nat → Int → Decimal
  | 0, e => ⟨0, e⟩
  | fuel + 1, e =>
    match x.onGrid? e with
    | some d => d
    | none => x.coarsest fuel (e - 1)

/-- The shortest decimal that reads back as `x`. The search starts above the largest finite
number of the widest format and ends below its smallest one. -/
def FiniteFloat.shortest (x : FiniteFloat) : Decimal :=
  if x.mantissa = 0 then ⟨0, 0⟩ else x.coarsest 700 310

/-- Digits with a decimal point and without an exponent; whole numbers end in `.0`. -/
def Decimal.positional (d : Decimal) : String :=
  let digits := Nat.toDigits 10 d.coefficient
  if 0 ≤ d.exponent then
    String.ofList (digits ++ List.replicate (if d.coefficient = 0 then 0 else d.exponent.toNat) '0')
      ++ ".0"
  else
    let places := (-d.exponent).toNat
    let digits := List.replicate (places + 1 - digits.length) '0' ++ digits
    let whole := digits.length - places
    String.ofList (digits.take whole ++ '.' :: digits.drop whole)

end HeaderRecovery.Number
