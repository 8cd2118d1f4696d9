import HeaderRecovery.Number.Shortest
import HeaderRecovery.Text.Blank

/-! Constant values of fields and enumerators and how an initializer spells them. -/
namespace HeaderRecovery

/-- A constant as it was encoded. -/
inductive Constant where
  | signed (value : Int64)
  | unsigned (value : UInt64)
  deriving DecidableEq, Repr

namespace Constant

/-- The 64-bit pattern, two's complement for signed values. -/
def bits : Constant → UInt64
  | signed v => v.toUInt64
  | unsigned v => v

/-- The number in decimal digits. -/
def decimal : Constant → String
  | signed v => toString v.toInt
  | unsigned v => toString v.toNat

end Constant

namespace Literal

/-- The spelling of a decoded float, with the named limits of the C++ type for values that
have no digits. -/
def floating (type : String) : Number.FloatValue → String
  | .notANumber => "std::numeric_limits<" ++ type ++ ">::quiet_NaN()"
  | .infinite negative =>
    (if negative then "-" else "") ++ "std::numeric_limits<" ++ type ++ ">::infinity()"
  | .finite negative x => (if negative then "-" else "") ++ x.shortest.positional

/-- A `float` literal from the low 32 bits. -/
def float (bits : UInt64) : String :=
  floating "float" (Number.binary32.decode (bits.toNat % UInt32.size))

def double (bits : UInt64) : String := floating "double" (Number.binary64.decode bits.toNat)

/-- Upper-case hexadecimal digits, at least `width` of them. -/
def hex (width n : Nat) : String :=
  let digits := (Nat.toDigits 16 n).map Char.toUpper
  String.ofList (List.replicate (width - digits.length) '0' ++ digits)

/-- A payload whose upper 56 bits are all ones is a negative single-byte value; it stands for
that byte. -/
def foldByte (raw : UInt64) : Nat :=
  if raw.toNat / 256 = 0xffffffffffffff then raw.toNat % 256 else raw.toNat

/-- A character literal for a code point. -/
def char (raw : UInt64) : String :=
  let v := foldByte raw
  if v = 0x27 then "'\\''"
  else if v = 0x5C then "'\\\\'"
  else if 0x20 ≤ v ∧ v ≤ 0x7E then "'" ++ String.singleton (Char.ofNat v) ++ "'"
  else if v ≤ 0xFF then "'\\x" ++ hex 2 v ++ "'"
  else if v ≤ 0xFFFF then "'\\u" ++ hex 4 v ++ "'"
  else "'\\U" ++ hex 8 v ++ "'"

/-- How an initializer of a type is written. -/
inductive Style where
  | float | double | char | bool | integer
  deriving DecidableEq, Repr

/-- The style of a type spelling: decided by its last word that is no qualifier. -/
def styleOf (type : String) : Style :=
  match ((Text.words type).filter fun w => w ≠ "const" && w ≠ "volatile").getLast? with
  | some "float" => .float
  | some "double" => .double
  | some "bool" => .bool
  | some base =>
    if base ∈ ["char", "char8_t", "char16_t", "char32_t", "wchar_t"] then .char else .integer
  | none => .integer

/-- The initializer text of `value` for a field whose type is spelled `type`. -/
def initializer (type : String) (value : Constant) : String :=
  match styleOf type with
  | .float => float value.bits
  | .double => double value.bits
  | .char => char value.bits
  | .bool => if value.bits ≠ 0 then "true" else "false"
  | .integer => value.decimal

end Literal
end HeaderRecovery
