import HeaderRecovery.Debug.Lookup
import HeaderRecovery.Proofs.EntryOffsets

/-!
References inside a unit. What stands in the file is a distance from the unit's first byte; the key
is the start of the unit and this distance in 64 bits. A distance of fewer than eight bytes always
leads forward. A longer one is taken as it stands, and leads in front of the unit exactly where the
sum passes 64 bits.
-/
namespace HeaderRecovery

namespace Binary.Reader

variable {α β : Type} {c c' : Cursor}

/-! What readers give -/

/-- Whatever the reader gives has the property. -/
def Gives (P : α → Prop) (m : Reader α) : Prop := ∀ c a c', m c = some (a, c') → P a

namespace Gives

variable {P : α → Prop} {Q : β → Prop}

lemma pure {a : α} (h : P a) : Gives P (Pure.pure a : Reader α) := by
  intro c b c' hread
  cases hread
  exact h

lemma fail : Gives P Reader.fail := by
  intro c a c' hread
  cases hread

lemma bind {m : Reader β} {f : β → Reader α} (h : Gives Q m) (h' : ∀ b, Q b → Gives P (f b)) :
    Gives P (m >>= f) := by
  intro c a c' hread
  obtain ⟨b, c₁, hfirst, hrest⟩ := bind_eq_some hread
  exact h' b (h _ _ _ hfirst) _ _ _ hrest

/-- Of what is read in front nothing needs to be known. -/
lemma behind {m : Reader β} {f : β → Reader α} (h : ∀ b, Gives P (f b)) : Gives P (m >>= f) := by
  intro c a c' hread
  obtain ⟨b, c₁, -, hrest⟩ := bind_eq_some hread
  exact h b _ _ _ hrest

end Gives

end Binary.Reader

namespace Dwarf
open Binary Binary.Reader Debug

/-- Whether a unit reference of this form may take eight bytes or more: it has such a width, or a
variable length, or its form is given where it stands. -/
def Form.MayBeLong : Form → Prop
  | .unitReference width => ∀ n ∈ width, 8 ≤ n
  | .indirect => True
  | _ => False

namespace UnitHeader

end UnitHeader

namespace UnitBlock

variable {s : Sections} {u : UnitBlock} {units : List UnitBlock}

end UnitBlock

/-! Keys -/

namespace UnitBlock

/-- Where a key stands that a unit gives for a distance: so far behind its first byte, in 64 bits;
and in front of that byte if the sum does not fit them, then only. -/
structure Reaches (u : UnitBlock) (distance : UInt64) (key : EntryKey) : Prop where
  part : key.part = u.part
  offset : key.offset.toNat = (u.offset + distance.toNat) % UInt64.size
  before_iff : key.offset.toNat < u.offset ↔ UInt64.size ≤ u.offset + distance.toNat

variable {u : UnitBlock}

end UnitBlock

namespace Surroundings

variable (s : Surroundings)

end Surroundings

namespace UnitBlock

/-- What the references of an entry have to do with what is written in its place, in a shape of
`table`. -/
structure Follows (u : UnitBlock) (table : List Abbreviation) (written : EntryRecord RawValue)
    (entry : EntryRecord Value) : Prop where
  /-- Every distance has its key, unless it is read as a file number. -/
  reached : ∀ attr distance, attr ≠ .declaredFile →
    (attr, .unitReference distance) ∈ written.attributes →
      ∃ key, (attr, .ref key) ∈ entry.attributes ∧ u.Reaches distance key
  /-- The only other keys are those that the file gives as they are. -/
  given : ∀ attr key, (attr, .ref key) ∈ entry.attributes →
    (∃ distance, (attr, .unitReference distance) ∈ written.attributes ∧ u.Reaches distance key) ∨
      ∃ offset, (attr, .infoReference offset) ∈ written.attributes ∧ key = ⟨.info, offset⟩
  /-- A distance that leads out of 64 bits is written in a form that may be long. -/
  long : ∃ shape ∈ table, shape.tag = written.tag ∧
    ∀ attr distance, (attr, .unitReference distance) ∈ written.attributes →
      UInt64.size ≤ u.offset + distance.toNat →
        ∃ a ∈ shape.attributes, a.name = attr ∧ ∃ form ∈ a.form, form.MayBeLong

variable {s : Sections} {u : UnitBlock}

end UnitBlock

end Dwarf
end HeaderRecovery
