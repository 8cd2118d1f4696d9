import HeaderRecovery.Proofs.SortedMap
import HeaderRecovery.Registry

/-!
What a registry stores, seen line by line. The bucket of a file and a line is the list of
declarations there; every operation on a registry changes one bucket, and says how.
-/
namespace HeaderRecovery

namespace SourceFile

variable {f : SourceFile}

lemma modify_cap (line : UInt64) (index : Nat) (g : Declaration → Declaration) :
    (f.modify line index g).maxEntriesPerLine = f.maxEntriesPerLine := by
  unfold modify
  split <;> rfl

lemma modify_ascending (h : f.lines.Ascending) (line : UInt64) (index : Nat)
    (g : Declaration → Declaration) : (f.modify line index g).lines.Ascending := by
  unfold modify
  split
  · exact h.alter _ _
  · exact h

/-- Past the end of a line there is nothing to change, and nothing is changed. -/
lemma line_modify (h : f.lines.Ascending) (line : UInt64) (index : Nat)
    (g : Declaration → Declaration) (other : UInt64) :
    (f.modify line index g).line other =
      if other = line then (f.line line).modify index g else f.line other := by
  by_cases hi : (f.get? line index).isSome
  · simp only [modify, hi, if_true, SourceFile.line, SortedMap.find?_alter h]
    by_cases heq : other = line <;> simp [heq]
  · have hlen : (f.line line).length ≤ index := by
      simpa [get?] using hi
    simp only [modify, hi]
    by_cases heq : other = line
    · simp [heq, List.modify_eq_self hlen]
    · simp [heq]

lemma add_cap (line : UInt64) (d : Declaration) :
    (f.add line d).1.maxEntriesPerLine = f.maxEntriesPerLine := by
  unfold add
  dsimp only
  split <;> rfl

lemma add_ascending (h : f.lines.Ascending) (line : UInt64) (d : Declaration) :
    (f.add line d).1.lines.Ascending := by
  unfold add
  dsimp only
  split <;> exact h.alter _ _

lemma line_add_full (h : f.lines.Ascending) {line : UInt64} {d : Declaration}
    (full : f.maxEntriesPerLine ≤ (f.line line).length) (other : UInt64) :
    (f.add line d).1.line other = f.line other := by
  have hadd : f.add line d = ({ f with lines := f.lines.alter line fun g => g.getD [] }, none) :=
    if_pos full
  simp only [hadd, SourceFile.line, SortedMap.find?_alter h]
  by_cases heq : other = line <;> simp [heq]

lemma line_add_room (h : f.lines.Ascending) {line : UInt64} {d : Declaration}
    (room : ¬ f.maxEntriesPerLine ≤ (f.line line).length) (other : UInt64) :
    (f.add line d).1.line other = if other = line then f.line line ++ [d] else f.line other := by
  have hadd : f.add line d = ({ f with lines := f.lines.alter line fun g => g.getD [] ++ [d] },
      some (f.line line).length) := if_neg room
  simp only [hadd, SourceFile.line, SortedMap.find?_alter h]
  by_cases heq : other = line <;> simp [heq]

end SourceFile

namespace Registry

variable {r : Registry}

/-- The declarations of one line of one file. -/
def bucket (r : Registry) (file : String) (line : UInt64) : List Declaration :=
  ((r.files.find? file).map fun f => f.line line).getD []

/-- Files and lines ascend, and every file has the line limit of the registry. -/
structure Ordered (r : Registry) : Prop where
  files : r.files.Ascending
  lines : ∀ {path f}, r.files.find? path = some f → f.lines.Ascending
  cap : ∀ {path f}, r.files.find? path = some f →
    f.maxEntriesPerLine = r.options.maxEntriesPerLine

lemma get?_eq_bucket (r : Registry) (l : Location) :
    r.get? l = (r.bucket l.file l.line)[l.index]? := by
  simp only [get?, bucket, SourceFile.get?]
  cases r.files.find? l.file <;> rfl

lemma Ordered.congr (h : r.Ordered) {r' : Registry} (hfiles : r'.files = r.files)
    (hoptions : r'.options = r.options) : r'.Ordered where
  files := hfiles ▸ h.files
  lines hf := h.lines (hfiles ▸ hf)
  cap hf := hoptions ▸ h.cap (hfiles ▸ hf)

lemma empty_ordered (options : Options) : (empty options).Ordered where
  files := SortedMap.empty_ascending
  lines h := by simp [empty] at h
  cap h := by simp [empty] at h

lemma bucket_empty (options : Options) (file : String) (line : UInt64) :
    (empty options).bucket file line = [] := rfl

/-- The file that a declaration goes to, a new one if there is none yet. -/
def fileFor (r : Registry) (file : String) : SourceFile :=
  (r.files.find? file).getD (.empty r.options.maxEntriesPerLine)

lemma line_fileFor (r : Registry) (file : String) (line : UInt64) :
    (r.fileFor file).line line = r.bucket file line := by
  unfold fileFor bucket
  cases r.files.find? file <;> rfl

lemma Ordered.fileFor_ascending (h : r.Ordered) (file : String) :
    (r.fileFor file).lines.Ascending := by
  unfold fileFor
  cases hf : r.files.find? file with
  | none => exact SortedMap.empty_ascending
  | some f => exact h.lines hf

lemma Ordered.fileFor_cap (h : r.Ordered) (file : String) :
    (r.fileFor file).maxEntriesPerLine = r.options.maxEntriesPerLine := by
  unfold fileFor
  cases hf : r.files.find? file with
  | none => rfl
  | some f => exact h.cap hf

/-- The registry with one file replaced. -/
def setFile (r : Registry) (file : String) (f : SourceFile) : Registry :=
  { r with files := r.files.alter file fun _ => f }

lemma bucket_setFile (h : r.Ordered) (file : String) (f : SourceFile) (other : String)
    (line : UInt64) :
    (r.setFile file f).bucket other line =
      if other = file then f.line line else r.bucket other line := by
  simp only [setFile, bucket, SortedMap.find?_alter h.files]
  by_cases heq : other = file <;> simp [heq]

lemma Ordered.setFile (h : r.Ordered) (file : String) {f : SourceFile}
    (hf : f.lines.Ascending) (hcap : f.maxEntriesPerLine = r.options.maxEntriesPerLine) :
    (r.setFile file f).Ordered where
  files := h.files.alter _ _
  lines {path g} hg := by
    simp only [Registry.setFile, SortedMap.find?_alter h.files] at hg
    split at hg
    · cases hg; exact hf
    · exact h.lines hg
  cap {path g} hg := by
    simp only [Registry.setFile, SortedMap.find?_alter h.files] at hg
    split at hg
    · cases hg; exact hcap
    · exact h.cap hg

lemma modify_eq_setFile (r : Registry) (l : Location) (g : Declaration → Declaration) :
    r.modify l g = r ∧ r.files.find? l.file = none ∨
      r.modify l g = r.setFile l.file ((r.fileFor l.file).modify l.line l.index g) := by
  unfold modify fileFor setFile
  cases r.files.find? l.file with
  | none => exact Or.inl ⟨rfl, rfl⟩
  | some f => exact Or.inr rfl

lemma Ordered.modify (h : r.Ordered) (l : Location) (g : Declaration → Declaration) :
    (r.modify l g).Ordered := by
  rcases modify_eq_setFile r l g with ⟨heq, -⟩ | heq
  · rwa [heq]
  · rw [heq]
    refine h.setFile _ (SourceFile.modify_ascending (h.fileFor_ascending _) _ _ _) ?_
    rw [SourceFile.modify_cap, h.fileFor_cap]

/-- A change at a location touches one declaration of one line. -/
lemma bucket_modify (h : r.Ordered) (l : Location) (g : Declaration → Declaration)
    (file : String) (line : UInt64) :
    (r.modify l g).bucket file line =
      if file = l.file ∧ line = l.line then (r.bucket l.file l.line).modify l.index g
      else r.bucket file line := by
  rcases modify_eq_setFile r l g with ⟨heq, hnone⟩ | heq
  · rw [heq]
    split
    · rename_i hl
      have hb : r.bucket l.file l.line = [] := by simp [bucket, hnone]
      rw [hl.1, hl.2, hb]
      cases l.index <;> rfl
    · rfl
  · rw [heq, bucket_setFile h]
    by_cases hfile : file = l.file
    · subst hfile
      rw [if_pos rfl, SourceFile.line_modify (h.fileFor_ascending _), line_fileFor, line_fileFor]
      by_cases hline : line = l.line <;> simp [hline]
    · simp [hfile]

lemma modify_files (r : Registry) (l : Location) (g : Declaration → Declaration) :
    r.modify l g = { r with files := (r.modify l g).files } := by
  unfold modify
  split <;> rfl

@[simp] lemma modify_options (r : Registry) (l : Location) (g : Declaration → Declaration) :
    (r.modify l g).options = r.options := by
  rw [modify_files]

@[simp] lemma modify_locations (r : Registry) (l : Location) (g : Declaration → Declaration) :
    (r.modify l g).locations = r.locations := by
  rw [modify_files]

/-- The index on a line of the first declaration of the same thing. -/
def recognise? (r : Registry) (file : String) (line : UInt64) (d : Declaration) : Option Nat :=
  (r.bucket file line).findIdx? fun present => present.sameAs d

lemma get?_of_recognise? {file : String} {line : UInt64} {d : Declaration} {index : Nat}
    (known : r.recognise? file line d = some index) :
    ∃ present, r.get? ⟨file, line, index⟩ = some present ∧ present.sameAs d := by
  obtain ⟨hlt, hsame, -⟩ := List.findIdx?_eq_some_iff_getElem.mp known
  exact ⟨_, by rw [get?_eq_bucket, List.getElem?_eq_getElem hlt], hsame⟩

/-- A declaration to be stored is merged into one that is recognised, appended to a line with
room, or dropped. -/
inductive Stored (r : Registry) (file : String) (line : UInt64) (d : Declaration) :
    Registry × Option Location → Prop
  | found {index : Nat} (known : r.recognise? file line d = some index) :
      Stored r file line d
        (r.modify ⟨file, line, index⟩ (fun present => present.merge d), some ⟨file, line, index⟩)
  | added (unknown : r.recognise? file line d = none)
      (room : (r.bucket file line).length < r.options.maxEntriesPerLine) :
      Stored r file line d
        (r.setFile file ((r.fileFor file).add line d).1,
          some ⟨file, line, (r.bucket file line).length⟩)
  | dropped (unknown : r.recognise? file line d = none)
      (full : r.options.maxEntriesPerLine ≤ (r.bucket file line).length) :
      Stored r file line d (r.setFile file ((r.fileFor file).add line d).1, none)

lemma stored (h : r.Ordered) (file : String) (line : UInt64) (d : Declaration) :
    Stored r file line d (r.store file line d) := by
  have hsame : (r.fileFor file).findSame? line d = r.recognise? file line d := by
    rw [SourceFile.findSame?, line_fileFor, recognise?]
  unfold store
  dsimp only
  split
  case h_1 index hfound =>
    have hr : r.recognise? file line d = some index := hsame.symm.trans hfound
    have hmodify : r.setFile file ((r.fileFor file).modify line index fun p => p.merge d) =
        r.modify ⟨file, line, index⟩ fun p => p.merge d := by
      rcases modify_eq_setFile r ⟨file, line, index⟩ fun p => p.merge d with ⟨-, hnone⟩ | heq
      · simp [recognise?, bucket, hnone] at hr
      · exact heq.symm
    change Stored r file line d (r.setFile file _, _)
    rw [← fileFor, hmodify]
    exact .found hr
  case h_2 hnone =>
    have hr : r.recognise? file line d = none := hsame.symm.trans hnone
    have hadd : ((r.fileFor file).add line d).2 =
        if r.options.maxEntriesPerLine ≤ (r.bucket file line).length then none
        else some (r.bucket file line).length := by
      simp only [SourceFile.add, h.fileFor_cap, line_fileFor]
      split <;> rfl
    change Stored r file line d (r.setFile file _, _)
    rw [← fileFor, hadd]
    split
    · exact .dropped hr ‹_›
    · exact .added hr (Nat.lt_of_not_le ‹_›)

lemma add_ordered (h : r.Ordered) (file : String) (line : UInt64) (d : Declaration) :
    (r.setFile file ((r.fileFor file).add line d).1).Ordered := by
  refine h.setFile _ (SourceFile.add_ascending (h.fileFor_ascending _) _ _) ?_
  rw [SourceFile.add_cap, h.fileFor_cap]

lemma bucket_add_full (h : r.Ordered) {file : String} {line : UInt64} {d : Declaration}
    (full : r.options.maxEntriesPerLine ≤ (r.bucket file line).length)
    (other : String) (otherLine : UInt64) :
    (r.setFile file ((r.fileFor file).add line d).1).bucket other otherLine =
      r.bucket other otherLine := by
  rw [bucket_setFile h]
  split
  · rename_i heq
    rw [SourceFile.line_add_full (h.fileFor_ascending _)
      (by rw [h.fileFor_cap, line_fileFor]; exact full), line_fileFor, heq]
  · rfl

lemma bucket_add_room (h : r.Ordered) {file : String} {line : UInt64} {d : Declaration}
    (room : (r.bucket file line).length < r.options.maxEntriesPerLine)
    (other : String) (otherLine : UInt64) :
    (r.setFile file ((r.fileFor file).add line d).1).bucket other otherLine =
      if other = file ∧ otherLine = line then r.bucket file line ++ [d]
      else r.bucket other otherLine := by
  rw [bucket_setFile h]
  by_cases hfile : other = file
  · subst hfile
    rw [if_pos rfl, SourceFile.line_add_room (h.fileFor_ascending _)
      (by rw [h.fileFor_cap, line_fileFor]; exact Nat.not_le_of_lt room),
      line_fileFor, line_fileFor]
    by_cases hline : otherLine = line <;> simp [hline]
  · simp [hfile]

/-- A change that changes nothing there leaves the registry as it is. -/
lemma modify_eq_self (h : r.Ordered) {l : Location} {g : Declaration → Declaration}
    (hg : ∀ d, r.get? l = some d → g d = d) : r.modify l g = r := by
  unfold modify
  cases hfile : r.files.find? l.file with
  | none => rfl
  | some f =>
    have hsame : f.modify l.line l.index g = f := by
      unfold SourceFile.modify
      split
      · rename_i hpresent
        obtain ⟨d, hd⟩ := Option.isSome_iff_exists.mp hpresent
        have hfixed : g d = d := hg d (by rw [get?, hfile]; exact hd)
        unfold SourceFile.get? SourceFile.line at hd
        cases hline : f.lines.find? l.line with
        | none => simp [hline] at hd
        | some group =>
          rw [hline, Option.getD_some] at hd
          have hmodify : group.modify l.index g = group := by
            refine List.ext_getElem? fun j => ?_
            rw [List.getElem?_modify]
            by_cases hj : l.index = j
            · rw [← hj, hd]
              simp [hfixed]
            · cases group[j]? <;> simp [hj]
          rw [SortedMap.alter_eq_self (h.lines hfile) hline (by rw [Option.getD_some, hmodify])]
      · rfl
    dsimp only
    rw [hsame, SortedMap.alter_eq_self h.files hfile rfl]

/-- The line is there, if only as an empty one. -/
def HasLine (r : Registry) (file : String) (line : UInt64) : Prop :=
  ∃ f, r.files.find? file = some f ∧ (f.lines.find? line).isSome

lemma HasLine.setFile (h : r.Ordered) {file : String} {f : SourceFile}
    (hf : ∀ line, r.HasLine file line → (f.lines.find? line).isSome) {other : String}
    {line : UInt64} (hline : r.HasLine other line) : (r.setFile file f).HasLine other line := by
  unfold HasLine
  simp only [Registry.setFile, SortedMap.find?_alter h.files]
  by_cases heq : other = file
  · subst heq
    exact ⟨f, by simp, hf line hline⟩
  · obtain ⟨g, hg, hsome⟩ := hline
    exact ⟨g, by simpa [heq] using hg, hsome⟩

lemma HasLine.modify (h : r.Ordered) {l : Location} {g : Declaration → Declaration}
    {file : String} {line : UInt64} (hline : r.HasLine file line) :
    (r.modify l g).HasLine file line := by
  rcases modify_eq_setFile r l g with ⟨heq, -⟩ | heq
  · rwa [heq]
  · rw [heq]
    refine hline.setFile h fun line hline => ?_
    obtain ⟨f, hfile, hsome⟩ := hline
    unfold fileFor SourceFile.modify
    rw [hfile, Option.getD_some]
    split
    · rw [SortedMap.find?_alter (h.lines hfile)]
      split <;> simp [hsome]
    · exact hsome

/-- Adding to a line makes it, even where the line is full. -/
lemma hasLine_add (h : r.Ordered) (file : String) (line : UInt64) (d : Declaration) :
    (r.setFile file ((r.fileFor file).add line d).1).HasLine file line := by
  refine ⟨((r.fileFor file).add line d).1, by simp [setFile, SortedMap.find?_alter h.files], ?_⟩
  unfold SourceFile.add
  dsimp only
  split <;> simp [SortedMap.find?_alter (h.fileFor_ascending file)]

lemma HasLine.add (h : r.Ordered) {file : String} {line : UInt64} {d : Declaration}
    {other : String} {otherLine : UInt64} (hline : r.HasLine other otherLine) :
    (r.setFile file ((r.fileFor file).add line d).1).HasLine other otherLine := by
  refine hline.setFile h fun line' hline' => ?_
  obtain ⟨f, hfile, hsome⟩ := hline'
  unfold fileFor SourceFile.add
  rw [hfile, Option.getD_some]
  dsimp only
  split <;> rw [SortedMap.find?_alter (h.lines hfile)] <;> split <;> simp [hsome]

/-- A declaration that a full line drops leaves the registry as it is, once the line is there. -/
lemma add_full_eq_self (h : r.Ordered) {file : String} {line : UInt64} (d : Declaration)
    (hline : r.HasLine file line)
    (full : r.options.maxEntriesPerLine ≤ (r.bucket file line).length) :
    r.setFile file ((r.fileFor file).add line d).1 = r := by
  obtain ⟨f, hfile, hsome⟩ := hline
  obtain ⟨group, hgroup⟩ := Option.isSome_iff_exists.mp hsome
  have hfor : r.fileFor file = f := by rw [fileFor, hfile, Option.getD_some]
  have hfull : f.maxEntriesPerLine ≤ (f.line line).length := by
    rw [← hfor, h.fileFor_cap, line_fileFor]
    exact full
  have hadd : (f.add line d).1 = f := by
    unfold SourceFile.add
    dsimp only
    rw [if_pos hfull, SortedMap.alter_eq_self (h.lines hfile) hgroup rfl]
  rw [hfor, hadd, setFile, SortedMap.alter_eq_self h.files hfile rfl]

end Registry
end HeaderRecovery
