import HeaderRecovery.Number.Rounding
import HeaderRecovery.Toml.Text

/-! Whole numbers of 64 bits, floating-point numbers, dates and times of day. -/
namespace HeaderRecovery.Toml.Scanner

open Number (FloatValue binary64)

/-! ## Numbers -/

/-- Digits behind a first one. An underscore stands between two digits. -/
def moreDigits (isDigit : Char → Bool) : Scanner (List Char) :=
  many (either (one isDigit) (char '_' *> committed (one isDigit)))

def digits (isDigit : Char → Bool) : Scanner (List Char) :=
  return (← one isDigit) :: (← moreDigits isDigit)

/-- Whether a minus sign stands here; a sign is passed. -/
def negativeSign : Scanner Bool :=
  return (← optional (one fun c => c = '+' || c = '-')) = some '-'

/-- Digits of which the first is zero only if it is alone. -/
def wholePart : Scanner (List Char) :=
  either (return (← one fun c => '1' ≤ c && c ≤ '9') :: (← moreDigits Char.isDigit))
    (return [← one Char.isDigit])

def fits64 (n : Int) : Bool := Int64.minValue.toInt ≤ n && n ≤ Int64.maxValue.toInt

def decimalInteger : Scanner Int :=
  certain .hard do
    let negative ← negativeSign
    let n : Int := numeral 10 (← wholePart)
    let n := if negative then -n else n
    return if fits64 n then some n else none

/-- A number from behind the letter of its base. -/
def basedInteger (lead : List Char) (base : Nat) (isDigit : Char → Bool) : Scanner Int :=
  committed (certain .hard do
    exactly lead
    let n : Int := numeral base (← digits isDigit)
    return if fits64 n then some n else none)

def integer : Scanner Int := do
  match (← get).rest with
  | '0' :: 'x' :: _ => basedInteger ['0', 'x'] 16 isHexDigit
  | '0' :: 'o' :: _ => basedInteger ['0', 'o'] 8 fun c => '0' ≤ c && c ≤ '7'
  | '0' :: 'b' :: _ => basedInteger ['0', 'b'] 2 fun c => c = '0' || c = '1'
  | _ => decimalInteger

def exponent : Scanner Int := do
  let _ ← one fun c => c = 'e' || c = 'E'
  let negative ← negativeSign
  let n : Int := numeral 10 (← committed (digits Char.isDigit))
  return if negative then -n else n

def fraction : Scanner (List Char) := char '.' *> committed (digits Char.isDigit)

/-- A number with a fraction or an exponent. One that is too large is refused, unless it is
negative. -/
def finiteFloat : Scanner FloatValue :=
  certain .hard do
    let negative ← negativeSign
    let whole ← wholePart
    let (places, shift) ← either (return ([], ← exponent))
      (return (← fraction, (← optional exponent).getD 0))
    let value := binary64.nearest negative ⟨numeral 10 (whole ++ places), shift - places.length⟩
    return if value = .infinite false then none else some value

def specialFloat : Scanner FloatValue := do
  let negative ← negativeSign
  either
    (do exactly "inf".toList; return .infinite negative)
    (do exactly "nan".toList; return .notANumber)

def float : Scanner FloatValue := either finiteFloat specialFloat

/-! ## Dates and times of day -/

/-- The number that `n` digits write, between bounds. -/
def field (n low high : Nat) : Scanner Nat :=
  certain .soft do
    let written ← upTo Char.isDigit n
    let value := numeral 10 written
    return if written.length = n ∧ low ≤ value ∧ value ≤ high then some value else none

def daysIn (year month : Nat) : Nat :=
  if month = 2 then
    if year % 4 = 0 ∧ (year % 100 ≠ 0 ∨ year % 400 = 0) then 29 else 28
  else if month = 4 ∨ month = 6 ∨ month = 9 ∨ month = 11 then 30
  else 31

def date : Scanner Unit := do
  let year ← field 4 0 9999
  let _ ← char '-'
  committed do
    let month ← field 2 1 12
    let _ ← char '-'
    discard (field 2 1 (daysIn year month))

def timeOfDay : Scanner Unit := do
  let _ ← field 2 0 23
  let _ ← char ':'
  committed do
    let _ ← field 2 0 59
    let _ ← char ':'
    let _ ← field 2 0 60
    discard (optional (char '.' *> some1 Char.isDigit))

def zone : Scanner Unit :=
  either (discard (one fun c => c = 'Z' || c = 'z')) do
    let _ ← one fun c => c = '+' || c = '-'
    committed do
      let _ ← field 2 0 23
      let _ ← char ':'
      discard (field 2 0 59)

def moment : Scanner Unit :=
  either
    (do
      date
      discard (optional (do
        let _ ← one fun c => c = 'T' || c = 't' || c = ' '
        timeOfDay
        optional zone)))
    timeOfDay

end HeaderRecovery.Toml.Scanner
