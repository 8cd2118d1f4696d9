import Mathlib
import HeaderRecovery.Dwarf.Loading

/-!
Where readers stand. A reader moves on in its bytes and never past their end, and whatever starts
with a number takes a byte at least. So the entries of a unit start at ascending places among the
unit's bytes, and the units of a section take up one stretch behind the other.
-/
namespace HeaderRecovery

namespace Binary.Reader

variable {α β : Type} {c c' : Cursor}

/-- Two readers in a row give what the second gives where the first one ends. -/
lemma bind_eq_some {m : Reader α} {f : α → Reader β} {b : β} (h : (m >>= f) c = some (b, c')) :
    ∃ a c₁, m c = some (a, c₁) ∧ f a c₁ = some (b, c') := by
  obtain ⟨⟨a, c₁⟩, hfirst, hrest⟩ := Option.bind_eq_some_iff.mp h
  exact ⟨a, c₁, hfirst, hrest⟩

/-- What a reader does to its cursor: it stays in the same bytes and does not move back. -/
structure Onward (c c' : Cursor) : Prop where
  bytes : c'.bytes = c.bytes
  stop : c'.stop = c.stop
  position : c.position ≤ c'.position

lemma Onward.refl (c : Cursor) : Onward c c := ⟨rfl, rfl, Nat.le_refl _⟩

lemma Onward.trans {c'' : Cursor} (h : Onward c c') (h' : Onward c' c'') : Onward c c'' :=
  ⟨h'.bytes.trans h.bytes, h'.stop.trans h.stop, Nat.le_trans h.position h'.position⟩

lemma onward_advance (c : Cursor) (n : Nat) : Onward c (c.advance n) :=
  ⟨rfl, rfl, Nat.le_add_right _ _⟩

/-- A reader that moves on wherever it starts. -/
def Forward (m : Reader α) : Prop := ∀ c a c', m c = some (a, c') → Onward c c'

namespace Forward

lemma pure (a : α) : Forward (Pure.pure a : Reader α) := by
  intro c b c' h
  cases h
  exact .refl c

lemma get : Forward (MonadState.get : Reader Cursor) := by
  intro c b c' h
  cases h
  exact .refl c

lemma bind {m : Reader α} {f : α → Reader β} (h : Forward m) (h' : ∀ a, Forward (f a)) :
    Forward (m >>= f) := by
  intro c b c' hbind
  obtain ⟨a, c₁, hfirst, hrest⟩ := bind_eq_some hbind
  exact (h _ _ _ hfirst).trans (h' a _ _ _ hrest)

lemma map {m : Reader α} (h : Forward m) (f : α → β) :
    Forward (m >>= fun a => Pure.pure (f a)) :=
  h.bind fun a => pure (f a)

lemma fail : Forward (fail : Reader α) := by
  intro c a c' h
  cases h

lemma ofOption (value : Option α) : Forward (ofOption value) := by
  intro c a c' h
  obtain ⟨b, -, heq⟩ := Option.map_eq_some_iff.mp h
  cases heq
  exact .refl c

lemma require (condition : Bool) : Forward (require condition) := by
  cases condition
  · exact fail
  · exact pure ()

lemma byte : Forward byte := by
  intro c a c' h
  unfold Reader.byte at h
  split at h
  · obtain ⟨b, -, heq⟩ := Option.map_eq_some_iff.mp h
    cases heq
    exact onward_advance c 1
  · cases h

lemma skip (n : Nat) : Forward (skip n) := by
  intro c a c' h
  unfold Reader.skip at h
  split at h
  · cases h
    exact onward_advance c n
  · cases h

lemma bytes (n : Nat) : Forward (bytes n) := by
  intro c a c' h
  unfold Reader.bytes at h
  split at h
  · cases h
    exact onward_advance c n
  · cases h

lemma number (n : Nat) : Forward (number n) :=
  (bytes n).bind fun _ => get.bind fun _ => pure _

lemma untilZero (fuel : Nat) : Forward (untilZero fuel) := by
  induction fuel with
  | zero => exact fail
  | succ fuel ih =>
    refine byte.bind fun b => ?_
    split
    · exact pure []
    · exact ih.map (b :: ·)

lemma zeroTerminated : Forward zeroTerminated := fun c => untilZero c.remaining c

lemma variableLength (width : Nat) (decode : Nat → List UInt8 → Option (α × List UInt8)) :
    Forward (variableLength width decode) := by
  intro c a c' h
  obtain ⟨⟨value, rest⟩, -, heq⟩ := Option.map_eq_some_iff.mp h
  cases heq
  exact onward_advance c _

lemma count (width : Option Nat) : Forward (count width) := by
  cases width with
  | none => exact variableLength 64 _
  | some width => exact number width

end Forward

/-- A number of variable length takes a byte at least. -/
lemma length_unsigned? {width n : Nat} {window rest : List UInt8}
    (h : Leb128.unsigned? width window = some (n, rest)) : rest.length < window.length := by
  induction window generalizing width n rest with
  | nil => cases h
  | cons b window ih =>
    rw [Leb128.unsigned?] at h
    split at h
    · cases h
    · split at h
      · cases h
        exact Nat.lt_succ_self _
      · obtain ⟨⟨n', rest'⟩, hmore, heq⟩ := Option.map_eq_some_iff.mp h
        cases heq
        exact Nat.lt_succ_of_lt (ih hmore)

lemma length_upcoming (c : Cursor) (n : Nat) : (c.upcoming n).length ≤ c.stop - c.position := by
  simp only [Cursor.upcoming, Array.length_toList, Array.size_extract]
  omega

/-- What starts with a number starts before the end, and ends behind its start. -/
lemma unsigned_within {width n : Nat} (h : unsigned width c = some (n, c')) :
    c.position < c.stop ∧ c.position < c'.position := by
  obtain ⟨⟨value, rest⟩, hread, heq⟩ := Option.map_eq_some_iff.mp h
  cases heq
  have hshorter := length_unsigned? hread
  have hwindow := length_upcoming c (Leb128.maxLength width)
  constructor
  · omega
  · exact Nat.lt_add_of_pos_right (Nat.sub_pos_of_lt hshorter)

end Binary.Reader

namespace Dwarf
open Binary Binary.Reader Debug

/-! Entries -/

lemma forward_readWord (e : Encoding) : Forward (readWord e) := .number _

lemma forward_readDirect (e : Encoding) (form : Form) : Forward (form.readDirect e) := by
  cases form with
  | address => exact (Forward.skip _).map _
  | addressIndex width => exact (Forward.count width).map _
  | block length => exact (Forward.count length).bind fun n => (Forward.bytes n).map _
  | longData => exact (Forward.bytes 16).map _
  | data width => exact (Forward.number width).map _
  | unsigned => exact (Forward.variableLength 64 _).map _
  | signed => exact (Forward.variableLength 64 _).map _
  | flag => exact Forward.byte.map _
  | present => exact .pure _
  | inlineString => exact Forward.zeroTerminated.map _
  | string => exact (forward_readWord e).map _
  | lineString => exact (forward_readWord e).map _
  | stringIndex width => exact (Forward.count width).map _
  | stringElsewhere => exact (Forward.skip _).map _
  | unitReference width => exact (Forward.count width).map _
  | infoReference => exact (Forward.number _).map _
  | signature => exact (Forward.number 8).map _
  | referenceElsewhere width => exact (Forward.skip _).map _
  | sectionOffset => exact (forward_readWord e).map _
  | listIndex => exact (Forward.variableLength 64 _).map _
  | implicit => exact .fail
  | indirect => exact .fail

lemma forward_settle (fuel : Nat) (form : Form) : Forward (form.settle fuel) := by
  induction fuel generalizing form with
  | zero => cases form <;> exact .fail
  | succ fuel ih =>
    cases form with
    | indirect =>
      exact (Forward.variableLength 16 _).bind fun code =>
        (Forward.ofOption (Form.ofCode? code)).bind ih
    | _ => exact .pure _

lemma forward_read (e : Encoding) (mayBeOffset : Bool) (implicit : Option Int64) (form : Form) :
    Forward (form.read e mayBeOffset implicit) := by
  unfold Form.read
  split
  · exact (Forward.ofOption implicit).map _
  · refine Forward.get.bind fun c => (forward_settle _ form).bind fun settled => ?_
    split
    · exact (forward_readWord e).map _
    · exact forward_readDirect e settled

lemma readAttributes_onward {e : Encoding} {shapes : List AttributeShape} {c last : Cursor}
    {values : List (Attribute × RawValue)}
    (h : readAttributes e shapes c = (values, some last)) : Onward c last := by
  induction shapes generalizing c values with
  | nil =>
    cases h
    exact .refl _
  | cons shape rest ih =>
    simp only [readAttributes] at h
    split at h
    · cases h
    · rename_i value c₁ hread
      have hforward := (Forward.ofOption shape.form).bind fun form =>
        forward_read e (mayBeOffset e.version shape.name) shape.implicit form
      have hrest := ih (Prod.ext rfl (Prod.mk.inj h).2)
      exact (hforward _ _ _ hread).trans hrest

/-- What an entry starts with stands before the end, and takes a byte at least. -/
lemma readShape_within {table : List Abbreviation} {shape : Option Abbreviation} {c c' : Cursor}
    (h : readShape table c = some (shape, c')) :
    c.position < c.stop ∧ c.position < c'.position ∧ c'.stop = c.stop := by
  obtain ⟨code, c₁, hcode, hrest⟩ := bind_eq_some h
  obtain ⟨hstop, hposition⟩ := unsigned_within hcode
  have hforward : Forward (if code = 0 then (return none : Reader (Option Abbreviation)) else
      some <$> Reader.ofOption (table.find? (·.code = code))) := by
    split
    · exact .pure none
    · exact (Forward.ofOption _).map _
  have hcode' := Forward.variableLength 64 _ _ _ _ hcode
  have hrest' := hforward _ _ _ hrest
  exact ⟨hstop, Nat.lt_of_lt_of_le hposition hrest'.position, hrest'.stop.trans hcode'.stop⟩

/-- Places that ascend from the first bound on and stay below the second. -/
structure Ascends (low high : Nat) (places : List Nat) : Prop where
  pairwise : places.Pairwise (· < ·)
  within : ∀ place ∈ places, low ≤ place ∧ place < high

namespace Ascends

variable {low high first : Nat} {places : List Nat}

lemma nil (low high : Nat) : Ascends low high [] := ⟨.nil, fun _ hmem => by cases hmem⟩

lemma mono (h : Ascends low high places) (hfirst : first ≤ low) : Ascends first high places :=
  ⟨h.pairwise, fun place hmem => ⟨hfirst.trans (h.within place hmem).1, (h.within place hmem).2⟩⟩

lemma cons (h : Ascends low high places) (hlow : first < low) (hhigh : first < high) :
    Ascends first high (first :: places) where
  pairwise := List.pairwise_cons.mpr
    ⟨fun place hmem => hlow.trans_le (h.within place hmem).1, h.pairwise⟩
  within place hmem := by
    rcases List.mem_cons.mp hmem with rfl | hmem
    · exact ⟨Nat.le_refl _, hhigh⟩
    · exact (h.mono hlow.le).within place hmem

end Ascends

/-- The entries start one behind the other, from the cursor on and before the end. -/
lemma readEntries_offsets (e : Encoding) (table : List Abbreviation) (fuel depth : Nat)
    (c : Cursor) :
    Ascends c.position c.stop ((readEntries e table fuel depth c).map (·.offset)) := by
  induction fuel generalizing depth c with
  | zero => exact .nil _ _
  | succ fuel ih =>
    rw [readEntries]
    split
    · exact .nil _ _
    · rename_i c' hshape
      obtain ⟨-, hposition, hstop⟩ := readShape_within hshape
      split
      · exact .nil _ _
      · rw [← hstop]
        exact (ih (depth - 1) c').mono hposition.le
    · rename_i shape c' hshape
      obtain ⟨hbefore, hposition, hstop⟩ := readShape_within hshape
      cases hattributes : readAttributes e shape.attributes c' with
      | mk attributes last =>
        cases last with
        | none => exact (Ascends.nil c.stop c.stop).cons hbefore hbefore
        | some last =>
          have honward := readAttributes_onward hattributes
          have hbelow := ih (if shape.hasChildren then depth + 1 else depth) last
          rw [honward.stop, hstop] at hbelow
          exact hbelow.cons (hposition.trans_le honward.position) hbefore

/-- Where the entries of a unit start, counted from its first byte. -/
def UnitContents.offsets (u : UnitContents) : List Nat := (u.root :: u.below).map (·.offset)

lemma readRoot?_within {e : Encoding} {table : List Abbreviation} {c : Cursor}
    {root : EntryRecord RawValue} {children : Option Cursor}
    (h : readRoot? e table c = some (root, children)) :
    root.offset = c.position ∧ c.position < c.stop ∧
      ∀ c' ∈ children, c.position < c'.position ∧ c'.stop = c.stop := by
  unfold readRoot? at h
  split at h
  · rename_i shape c' hshape
    obtain ⟨hbefore, hposition, hstop⟩ := readShape_within hshape
    split at h
    · rename_i attributes last hattributes
      have honward := readAttributes_onward hattributes
      cases h
      refine ⟨rfl, hbefore, fun c'' hc'' => ?_⟩
      split at hc''
      · cases hc''
        exact ⟨Nat.lt_of_lt_of_le hposition honward.position, honward.stop.trans hstop⟩
      · cases hc''
    · cases h
  · cases h

/-- Meaning does not move an entry. -/
lemma offsets_interpret (surroundings : Surroundings) (entries : List (EntryRecord RawValue)) :
    (entries.map (·.interpret surroundings)).map (·.offset) = entries.map (·.offset) := by
  rw [List.map_map]
  rfl

/-- The contents of a unit have its family and offset, and the places of the entries ascend among
its bytes. -/
lemma UnitContents.ofBlock?_offsets {s : Sections} {u : UnitBlock} {contents : UnitContents}
    (h : UnitContents.ofBlock? s u = some contents) :
    contents.part = u.part ∧ contents.base = UInt64.ofNat u.offset ∧
      contents.offsets.Pairwise (· < ·) ∧ ∀ offset ∈ contents.offsets, offset < u.bytes.size := by
  unfold UnitContents.ofBlock? at h
  simp only [Option.bind_eq_bind, Option.bind_eq_some_iff, Option.pure_def, Option.some.injEq] at h
  obtain ⟨table, -, ⟨root, children⟩, hroot, files, -, -, -, rfl⟩ := h
  obtain ⟨hoffset, hbefore, hchildren⟩ := readRoot?_within hroot
  rw [← hoffset, show ((s.cursor u.bytes).advance u.start).stop = u.bytes.size from rfl]
    at hbefore hchildren
  suffices hascends : Ascends root.offset u.bytes.size (UnitContents.offsets _) from
    ⟨rfl, rfl, hascends.pairwise, fun offset hmem => (hascends.within offset hmem).2⟩
  rw [UnitContents.offsets, List.map_cons, offsets_interpret]
  cases children with
  | none => exact (Ascends.nil u.bytes.size u.bytes.size).cons hbefore hbefore
  | some c =>
    obtain ⟨hposition, hstop⟩ := hchildren c rfl
    have hbelow := readEntries_offsets u.header.encoding table (c.remaining + 1) 1 c
    rw [hstop] at hbelow
    exact hbelow.cons hposition hbefore

/-! Units -/

lemma forward_readInitialLength : Forward readInitialLength := by
  refine (Forward.number 4).bind fun length => ?_
  split
  · exact .pure _
  · exact (Forward.require _).bind fun _ => (Forward.number 8).map _

lemma skip_advance {n : Nat} {c c' : Cursor} {x : Unit} (h : skip n c = some (x, c')) :
    c' = c.advance n := by
  unfold skip at h
  split at h
  · cases h
    rfl
  · cases h

namespace UnitBlock

/-- A unit starts where it was found, and takes up bytes of the section in front of the next. -/
lemma read_within {inTypes : Bool} {c c' : Cursor} {u : UnitBlock}
    (h : read inTypes c = some (u, c')) :
    u.offset = c.position ∧ u.offset + u.bytes.size ≤ c'.position ∧ c'.bytes = c.bytes ∧
      ∀ offset < u.bytes.size, u.offset + offset < c.bytes.size := by
  obtain ⟨_, _, hget, h⟩ := bind_eq_some h
  cases hget
  obtain ⟨⟨length, wide⟩, c₁, hlength, h⟩ := bind_eq_some h
  obtain ⟨_, _, hget, h⟩ := bind_eq_some h
  cases hget
  obtain ⟨_, c₂, hskip, h⟩ := bind_eq_some h
  obtain ⟨⟨header, entries⟩, c₃, hheader, heq⟩ := bind_eq_some h
  cases heq
  obtain ⟨hbytes, -, hlead⟩ := forward_readInitialLength _ _ _ hlength
  obtain ⟨_, -, hsame⟩ := Option.map_eq_some_iff.mp hheader
  cases hsame
  rw [skip_advance hskip]
  dsimp only [Cursor.advance]
  refine ⟨rfl, ?_, hbytes, ?_⟩
  · rw [Array.size_extract]
    omega
  · intro offset hoffset
    rw [Array.size_extract] at hoffset
    omega

/-- The units of a section stand one behind the other, among its bytes. -/
lemma readAll_apart {inTypes : Bool} {c c' : Cursor} {units : List UnitBlock}
    (h : readAll inTypes c = some (units, c')) :
    units.Pairwise (fun u v => u.offset + u.bytes.size ≤ v.offset) ∧
      ∀ u ∈ units, ∀ offset < u.bytes.size, u.offset + offset < c.bytes.size := by
  suffices hmany : ∀ fuel (c c' : Cursor) units, manyUpTo (do
      if (← get).atEnd then return none
      return some (← read inTypes)) fuel c = some (units, c') →
      units.Pairwise (fun u v => u.offset + u.bytes.size ≤ v.offset) ∧
        ∀ u ∈ units, c.position ≤ u.offset ∧
          ∀ offset < u.bytes.size, u.offset + offset < c.bytes.size by
    obtain ⟨hapart, hwithin⟩ := hmany _ _ _ _ h
    exact ⟨hapart, fun u hu => (hwithin u hu).2⟩
  -- On the rounds that are left, from every cursor: what is read later starts behind it.
  intro fuel
  induction fuel with
  | zero =>
    intro c c' units h
    cases h
  | succ fuel ih =>
    intro c c' units h
    obtain ⟨u?, c₁, hstep, hrest⟩ := bind_eq_some h
    cases u? with
    | none =>
      cases hrest
      exact ⟨.nil, fun u hu => by cases hu⟩
    | some u =>
      obtain ⟨rest, c₂, hmany, heq⟩ := bind_eq_some hrest
      cases heq
      have hread : read inTypes c = some (u, c₁) := by
        obtain ⟨_, _, hget, hstep⟩ := bind_eq_some hstep
        cases hget
        split at hstep
        · cases hstep
        · obtain ⟨_, _, hread, heq⟩ := bind_eq_some hstep
          cases heq
          exact hread
      obtain ⟨hoffset, hend, hbytes, hwithin⟩ := read_within hread
      obtain ⟨hapart, hothers⟩ := ih c₁ _ rest hmany
      rw [hbytes] at hothers
      constructor
      · refine List.pairwise_cons.mpr ⟨?_, hapart⟩
        intro v hv
        exact Nat.le_trans hend (hothers v hv).1
      · intro v hv
        rcases List.mem_cons.mp hv with rfl | hv
        · exact ⟨hoffset.ge, hwithin⟩
        · obtain ⟨hfrom, hwithin'⟩ := hothers v hv
          exact ⟨by omega, hwithin'⟩

end UnitBlock
end Dwarf
end HeaderRecovery
