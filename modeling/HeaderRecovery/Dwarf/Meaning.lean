import HeaderRecovery.Debug.Entry
import HeaderRecovery.Dwarf.Form
import HeaderRecovery.Dwarf.LineTable
import HeaderRecovery.Dwarf.MemberOffset

/-!
What a written value means as the value of its attribute. Constants are kept; references become
keys, file numbers become paths and strings are looked up; addresses and places in other sections
are left out.
-/
namespace HeaderRecovery.Dwarf

open Debug (Attribute Value EntryKey Section)

/-- How an attribute reads its constants. -/
inductive ConstantUse where
  /-- As an unsigned number. -/
  | quantity
  /-- As a code up to `limit`; larger constants stay as they are written. -/
  | code (limit : Nat)
  /-- As a code up to `limit` that nothing here needs. -/
  | ignored (limit : Nat)
  | fileNumber
  /-- As written. -/
  | plain

/-- Sizes, strides, the end of a code range, lines, columns and member locations are quantities.
Access, virtuality, visibility, inlining, encoding, calling convention and language are codes;
ordering, case, sign, byte order, address class and the identity of a split unit are ignored. -/
def constantUse (attr : Attribute) : ConstantUse :=
  match attr.code.toNat with
  | 0x0b | 0x0d | 0x12 | 0x2e | 0x38 | 0x39 | 0x3b | 0x51 | 0x57 | 0x59 => .quantity
  | 0x17 | 0x20 | 0x32 | 0x36 | 0x3e | 0x4c => .code 0xff
  | 0x13 => .code 0xffff
  | 0x09 | 0x42 | 0x5e | 0x65 => .ignored 0xff
  | 0x33 | 0x2131 => .ignored (UInt64.size - 1)
  | 0x3a | 0x58 => .fileNumber
  | _ => .plain

/-- Whether a word of the attribute is an offset into another section: locations, lists of ranges,
the line table and the like, and before version 4 the location of a member. -/
def mayBeOffset (version : Nat) (attr : Attribute) : Bool :=
  match attr.code.toNat with
  | 0x02 | 0x10 | 0x19 | 0x2a | 0x2c | 0x40 | 0x43 | 0x46 | 0x48 | 0x4a | 0x4d | 0x55 | 0x79 => true
  | 0x38 => version = 2 ∨ version = 3
  | _ => false

/-- What the values of a unit refer to. -/
structure Surroundings where
  part : Section
  /-- Where the unit starts. -/
  base : UInt64
  text? : StringSource → Option String
  files : FileTable

namespace Surroundings

variable (s : Surroundings)

def keyAt (offset : UInt64) : EntryKey := ⟨s.part, s.base + offset⟩

/-- The value in its own right, whatever the attribute. -/
def plainValue? : RawValue → Option Value
  | .unsigned n => some (.unsigned n)
  | .signed n => some (.signed n)
  | .flag set => some (.flag set)
  | .block bytes => some (.block bytes)
  | .string text => (s.text? text).map .string
  | .unitReference offset => some (.ref (s.keyAt offset))
  | .infoReference offset => some (.ref ⟨.info, offset⟩)
  | .signature value => some (.signature value)
  | .sectionOffset _ | .addressIndex _ | .unused => none

/-- A constant that is not negative. -/
def constant? : RawValue → Option UInt64
  | .unsigned n => some n
  | .signed n => if 0 ≤ n.toInt then some n.toUInt64 else none
  | _ => none

/-- The value of an attribute; `none` when it is left out. -/
def value? (attr : Attribute) (raw : RawValue) : Option Value :=
  match attr, raw with
  | .declaredFile, _ =>
    ((constant? raw).bind fun n => s.files.path? n.toNat).map .string
  | .memberLocation, .block bytes =>
    some (match MemberOffset.eval? bytes with
      | some offset => .unsigned offset
      | none => .block bytes)
  | _, _ =>
    match constantUse attr, constant? raw with
    | .quantity, some n | .fileNumber, some n => some (.unsigned n)
    | .code limit, some n =>
      if n.toNat ≤ limit then some (.unsigned n) else s.plainValue? raw
    | .ignored limit, some n => if n.toNat ≤ limit then none else s.plainValue? raw
    | _, _ => s.plainValue? raw

end Surroundings
end HeaderRecovery.Dwarf
