import Mathlib
import HeaderRecovery.SortedMap

/-! Lookups in maps whose entries ascend: what an alteration changes, and that it keeps the
order. Ascending keys are distinct, so every entry is the one found under its key. -/
namespace HeaderRecovery.SortedMap

variable {κ α : Type} [LT κ] [DecidableLT κ] [DecidableEq κ]

/-- The keys strictly ascend. -/
def Ascending (m : SortedMap κ α) : Prop := m.entries.Pairwise fun a b => a.1 < b.1

omit [DecidableLT κ] [DecidableEq κ] in
@[simp] lemma empty_ascending : (empty : SortedMap κ α).Ascending := List.Pairwise.nil

omit [LT κ] [DecidableLT κ] in
@[simp] lemma find?_empty (key : κ) : (empty : SortedMap κ α).find? key = none := rfl

omit [LT κ] [DecidableLT κ] in
lemma lookup_cons (k : κ) (a : α) (rest : List (κ × α)) (key : κ) :
    ((k, a) :: rest).lookup key = if key = k then some a else rest.lookup key := by
  by_cases h : key = k
  · simp [h]
  · have hk : (key == k) = false := by simpa using h
    simp [List.lookup_cons, hk, h]

omit [LT κ] [DecidableLT κ] in
lemma lookup_eq_none {entries : List (κ × α)} {key : κ} (h : ∀ e ∈ entries, e.1 ≠ key) :
    entries.lookup key = none := by
  rw [List.lookup_eq_none_iff]
  intro e he
  simpa using fun heq => h e he heq.symm

omit [LT κ] [DecidableLT κ] in
lemma find?_map {β : Type} (f : α → β) (m : SortedMap κ α) (key : κ) :
    (m.map f).find? key = (m.find? key).map f := by
  obtain ⟨entries⟩ := m
  simp only [map, find?]
  induction entries with
  | nil => rfl
  | cons entry rest ih =>
    rw [List.map_cons, lookup_cons, lookup_cons, ih]
    split <;> rfl

lemma mem_alterEntries {key : κ} {f : Option α → α} {entries : List (κ × α)} {e : κ × α}
    (h : e ∈ alterEntries key f entries) : e.1 = key ∨ e ∈ entries := by
  induction entries with
  | nil =>
    rw [alterEntries, List.mem_singleton] at h
    exact Or.inl (by rw [h])
  | cons first rest ih =>
    obtain ⟨k, a⟩ := first
    simp only [alterEntries] at h
    split at h
    · rcases List.mem_cons.mp h with rfl | h
      · exact Or.inl rfl
      · exact Or.inr h
    · split at h
      · rename_i heq
        rcases List.mem_cons.mp h with rfl | h
        · exact Or.inl heq.symm
        · exact Or.inr (List.mem_cons_of_mem _ h)
      · rcases List.mem_cons.mp h with rfl | h
        · exact Or.inr List.mem_cons_self
        · exact (ih h).imp_right (List.mem_cons_of_mem _)

section Ordered
variable [LE κ] [Std.IsLinearOrder κ] [Std.LawfulOrderLT κ]

omit [DecidableLT κ] [DecidableEq κ] in
lemma lt_of_not_lt_of_ne {a b : κ} (h : ¬ a < b) (hne : a ≠ b) : b < a :=
  (Std.lt_trichotomy a b).resolve_left h |>.resolve_left hne

lemma Ascending.alter {m : SortedMap κ α} (h : m.Ascending) (key : κ) (f : Option α → α) :
    (m.alter key f).Ascending := by
  obtain ⟨entries⟩ := m
  simp only [Ascending, SortedMap.alter] at h ⊢
  induction entries with
  | nil => simp [alterEntries]
  | cons first rest ih =>
    obtain ⟨k, a⟩ := first
    obtain ⟨hfirst, hrest⟩ := List.pairwise_cons.mp h
    simp only [alterEntries]
    split
    · rename_i hlt
      refine List.pairwise_cons.mpr ⟨?_, h⟩
      intro e he
      rcases List.mem_cons.mp he with rfl | he
      · exact hlt
      · exact Std.lt_trans hlt (hfirst e he)
    · rename_i hnot
      split
      · exact List.pairwise_cons.mpr ⟨hfirst, hrest⟩
      · rename_i hne
        refine List.pairwise_cons.mpr ⟨?_, ih hrest⟩
        intro e he
        rcases mem_alterEntries he with heq | he
        · rw [heq]
          exact lt_of_not_lt_of_ne hnot hne
        · exact hfirst e he

/-- An alteration sets one key and leaves the others alone. -/
lemma find?_alter {m : SortedMap κ α} (h : m.Ascending) (key : κ) (f : Option α → α)
    (other : κ) :
    (m.alter key f).find? other =
      if other = key then some (f (m.find? key)) else m.find? other := by
  obtain ⟨entries⟩ := m
  simp only [Ascending, SortedMap.alter, find?] at h ⊢
  induction entries with
  | nil => simp [alterEntries, lookup_cons]
  | cons first rest ih =>
    obtain ⟨k, a⟩ := first
    obtain ⟨hfirst, hrest⟩ := List.pairwise_cons.mp h
    simp only [alterEntries]
    split
    · rename_i hlt
      -- A key below the first one is nowhere in the list.
      have habsent : ((k, a) :: rest).lookup key = none := by
        apply lookup_eq_none
        intro e he heq
        rcases List.mem_cons.mp he with rfl | he
        · exact Std.lt_irrefl (heq ▸ hlt)
        · exact Std.lt_irrefl (heq ▸ Std.lt_trans hlt (hfirst e he))
      rw [habsent, lookup_cons]
    · split
      · rename_i heq
        subst heq
        by_cases hother : other = key <;> simp [lookup_cons, hother]
      · rename_i hne
        by_cases hother : other = k
        · subst hother
          simp [Ne.symm hne]
        · simpa [lookup_cons, hne, hother] using ih hrest

/-- An alteration that gives a key the value it has changes nothing. -/
lemma alter_eq_self {m : SortedMap κ α} (h : m.Ascending) {key : κ} {a : α}
    (ha : m.find? key = some a) {f : Option α → α} (hf : f (some a) = a) : m.alter key f = m := by
  obtain ⟨entries⟩ := m
  simp only [Ascending, SortedMap.alter, find?, SortedMap.mk.injEq] at h ha ⊢
  induction entries with
  | nil => simp at ha
  | cons first rest ih =>
    obtain ⟨k, b⟩ := first
    obtain ⟨hfirst, hrest⟩ := List.pairwise_cons.mp h
    rw [lookup_cons] at ha
    by_cases hkey : key = k
    · subst hkey
      rw [if_pos rfl, Option.some.injEq] at ha
      subst ha
      simp [alterEntries, Std.lt_irrefl, hf]
    · rw [if_neg hkey] at ha
      have hlt : k < key := Decidable.byContradiction fun hnot => by
        have habsent : rest.lookup key = none := lookup_eq_none fun e he heq =>
          hnot (heq ▸ hfirst e he)
        rw [habsent] at ha
        cases ha
      have hnot : ¬ key < k := fun hgt => Std.lt_irrefl (Std.lt_trans hlt hgt)
      rw [alterEntries, if_neg hnot, if_neg hkey, ih hrest ha]

omit [DecidableLT κ] [Std.IsLinearOrder κ] in
lemma mem_entries_iff {m : SortedMap κ α} (h : m.Ascending) {key : κ} {a : α} :
    (key, a) ∈ m.entries ↔ m.find? key = some a := by
  obtain ⟨entries⟩ := m
  simp only [Ascending, find?] at h ⊢
  induction entries with
  | nil => simp
  | cons first rest ih =>
    obtain ⟨k, b⟩ := first
    obtain ⟨hfirst, hrest⟩ := List.pairwise_cons.mp h
    by_cases heq : key = k
    · subst heq
      have hnot : (key, a) ∉ rest := fun hmem => Std.lt_irrefl (hfirst (key, a) hmem)
      simp [hnot, eq_comm]
    · simp [lookup_cons, heq, ih hrest]

omit [DecidableLT κ] in
/-- Ascending maps that agree on every key are the same. -/
lemma ext {m m' : SortedMap κ α} (h : m.Ascending) (h' : m'.Ascending)
    (hfind : ∀ key, m.find? key = m'.find? key) : m = m' := by
  have hnodup : ∀ {m : SortedMap κ α}, m.Ascending → m.entries.Nodup := by
    intro m h
    refine List.Pairwise.imp ?_ h
    rintro a b hlt rfl
    exact Std.lt_irrefl hlt
  have hperm : m.entries.Perm m'.entries := by
    rw [List.perm_ext_iff_of_nodup (hnodup h) (hnodup h')]
    rintro ⟨key, a⟩
    rw [mem_entries_iff h, mem_entries_iff h', hfind]
  have hentries : m.entries = m'.entries := by
    refine hperm.eq_of_pairwise ?_ h h'
    intro a b _ _ hab hba
    exact absurd (Std.lt_trans hab hba) Std.lt_irrefl
  cases m
  cases m'
  exact congrArg _ hentries

end Ordered
end HeaderRecovery.SortedMap
