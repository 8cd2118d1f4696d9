import HeaderRecovery.Proofs.OmittedDefaults

/-!
Leaving out default arguments line by line. A bracket is closed on its own line or not at all, so
one line says nothing about the containers of another, with one exception: the scan ends at the
first container that is left open. Main statement: two texts that a line feed joins lose their
default arguments each on its own exactly if no container of the first is left open or the second
has no default arguments to lose.
-/
namespace HeaderRecovery.Cleanup

variable {before : Option Char} {text tail inner rest out : List Char} {c : Char}
variable {container : Container} {depth : Nat}

/-- Somewhere in a text a container starts whose bracket is not closed on its line. -/
def LeavesOpen (before : Option Char) (text : List Char) : Prop :=
  ∃ start behind container tail, text = start ++ behind ∧
    Opens (start.getLast?.or before) behind container tail ∧ IsUnclosed tail

lemma not_leavesOpen_nil : ¬ LeavesOpen before [] := by
  rintro ⟨start, behind, container, tail, htext, opens, -⟩
  obtain ⟨-, rfl⟩ := List.append_eq_nil_iff.mp htext.symm
  exact opens.ne_nil rfl

/-- An open container starts a text or stands further on in it. -/
lemma leavesOpen_cons_iff :
    LeavesOpen before (c :: rest) ↔
      (∃ container tail, Opens before (c :: rest) container tail ∧ IsUnclosed tail) ∨
        LeavesOpen (some c) rest := by
  have hlast : ∀ start : List Char, (c :: start).getLast?.or before =
      start.getLast?.or (some c) := by
    intro start
    rw [List.getLast?_cons]
    cases start.getLast? <;> rfl
  constructor
  · rintro ⟨_ | ⟨d, start⟩, behind, container, tail, htext, opens, unclosed⟩
    · obtain rfl : c :: rest = behind := htext
      exact Or.inl ⟨container, tail, opens, unclosed⟩
    · obtain ⟨rfl, rfl⟩ := List.cons.inj htext
      rw [hlast] at opens
      exact Or.inr ⟨start, behind, container, tail, rfl, opens, unclosed⟩
  · rintro (⟨container, tail, opens, unclosed⟩ |
      ⟨start, behind, container, tail, rfl, opens, unclosed⟩)
    · exact ⟨[], c :: rest, container, tail, rfl, opens, unclosed⟩
    · rw [← hlast] at opens
      exact ⟨c :: start, behind, container, tail, rfl, opens, unclosed⟩

lemma leavesOpen_cons_of_closed
    (h : ∀ container tail, Opens before (c :: rest) container tail → ¬ IsUnclosed tail) :
    LeavesOpen before (c :: rest) ↔ LeavesOpen (some c) rest := by
  rw [leavesOpen_cons_iff, or_iff_right]
  rintro ⟨container, tail, opens, unclosed⟩
  exact h container tail opens unclosed

/-! ### Containers that are left open inside of others -/

lemma Container.close_notMem_opening (container : Container) : '>' ∉ container.opening := by
  cases container <;> decide

lemma Container.newline_notMem_opening (container : Container) : '\n' ∉ container.opening := by
  cases container <;> decide

/-- What cannot stand in a text stands behind it. -/
lemma split_behind {d : Char} {start left right : List Char} (hd : d ∉ start)
    (heq : left ++ d :: right = start ++ tail) :
    ∃ more, left = start ++ more ∧ tail = more ++ d :: right := by
  rcases List.append_eq_append_iff.mp heq with ⟨more, rfl, hmore⟩ | ⟨more, rfl, hmore⟩
  · cases more with
    | nil => exact ⟨[], by simp, by simpa using hmore.symm⟩
    | cons e more =>
      obtain ⟨rfl, -⟩ := List.cons.inj hmore
      simp at hd
  · exact ⟨more, rfl, hmore⟩

/-- Containers inside of a closed bracket are closed. -/
lemma closed_of_enclosed (h : Encloses depth inner)
    (opens : Opens before (inner ++ '>' :: rest) container tail) : ¬ IsUnclosed tail := by
  obtain ⟨more, rfl, rfl⟩ := split_behind container.close_notMem_opening opens.2
  exact closed_of_deeper h.of_append

lemma leavesOpen_enclosed (h : Encloses depth inner) :
    LeavesOpen before (inner ++ '>' :: rest) ↔ LeavesOpen (some '>') rest := by
  induction inner generalizing before depth with
  | nil => exact leavesOpen_cons_of_closed fun _ _ opens => closed_of_enclosed h opens
  | cons d inner ih =>
    have hinner : Encloses (depth + [d].count '<' - [d].count '>') inner := h.of_append
    exact (leavesOpen_cons_of_closed fun _ _ opens => closed_of_enclosed h opens).trans (ih hinner)

lemma leavesOpen_stem_end {start : List Char} (hstart : start <:+ container.stem)
    (hlt : start.length < container.stem.length) :
    LeavesOpen before (start ++ '<' :: tail) ↔ LeavesOpen (some '<') tail := by
  induction start generalizing before with
  | nil =>
    exact leavesOpen_cons_of_closed fun _ _ opens => absurd opens (not_opens_stem_end hstart hlt)
  | cons d start ih =>
    have hrest : start <:+ container.stem := (List.suffix_cons d start).trans hstart
    exact (leavesOpen_cons_of_closed fun _ _ opens =>
      absurd opens (not_opens_stem_end hstart hlt)).trans (ih hrest (Nat.lt_of_succ_lt hlt))

/-- A closed container leaves nothing open. -/
lemma leavesOpen_of_closed (opens : Opens before text container (inner ++ '>' :: rest))
    (h : Encloses 0 inner) : LeavesOpen before text ↔ LeavesOpen (some '>') rest := by
  obtain ⟨c, start, hstem, hstart, hlt⟩ := container.exists_stem_cons
  have htext : text = c :: (start ++ '<' :: (inner ++ '>' :: rest)) := by
    rw [opens.2, Container.opening_eq, hstem]
    simp
  subst htext
  have hfirst : LeavesOpen before (c :: (start ++ '<' :: (inner ++ '>' :: rest))) ↔
      LeavesOpen (some c) (start ++ '<' :: (inner ++ '>' :: rest)) := by
    refine leavesOpen_cons_of_closed fun container' tail opens' => ?_
    obtain ⟨rfl, rfl⟩ := opens.unique opens'
    exact closed_of_deeper h
  rw [hfirst, leavesOpen_stem_end hstart hlt, leavesOpen_enclosed h]

/-! ### A line feed between two texts -/

variable {b outb : List Char}

/-- What is enclosed ends before the line does. -/
lemma enclosed_before_newline (h : Encloses 0 inner)
    (heq : tail ++ '\n' :: b = inner ++ '>' :: rest) :
    ∃ more, tail = inner ++ '>' :: more ∧ rest = more ++ '\n' :: b := by
  have hnewline : '\n' ∉ inner ++ ['>'] := by simpa using h.newline_notMem
  have hsplit : tail ++ '\n' :: b = (inner ++ ['>']) ++ rest := by simpa using heq
  obtain ⟨more, rfl, hrest⟩ := split_behind hnewline hsplit
  exact ⟨more, by simp, hrest⟩

/-- What stands on the next line does not close a bracket. -/
lemma isUnclosed_append_newline : IsUnclosed (tail ++ '\n' :: b) ↔ IsUnclosed tail := by
  constructor
  · rintro h inner rest rfl henclosed
    exact h inner (rest ++ '\n' :: b) (by simp) henclosed
  · intro h inner rest heq henclosed
    obtain ⟨more, rfl, -⟩ := enclosed_before_newline henclosed heq
    exact h inner more rfl henclosed

lemma Opens.append (opens : Opens before text container tail) (more : List Char) :
    Opens before (text ++ more) container (tail ++ more) :=
  ⟨opens.1, by rw [opens.2, List.append_assoc]⟩

/-- A container that starts in a line has its name on it. -/
lemma opens_append_newline (opens : Opens before (text ++ '\n' :: b) container tail) :
    ∃ more, tail = more ++ '\n' :: b ∧ Opens before text container more := by
  obtain ⟨more, rfl, rfl⟩ := split_behind container.newline_notMem_opening opens.2
  exact ⟨more, rfl, opens.1, rfl⟩

lemma IsPlainAt.append_newline (plain : IsPlainAt before text) (b : List Char) :
    IsPlainAt before (text ++ '\n' :: b) := by
  intro container tail opens
  obtain ⟨tail, rfl, opensHere⟩ := opens_append_newline opens
  obtain ⟨hclosed, hother⟩ := plain container tail opensHere
  refine ⟨isUnclosed_append_newline.not.mpr hclosed, ?_⟩
  intro inner rest kept heq hdefaulted
  obtain ⟨more, rfl, -⟩ := enclosed_before_newline hdefaulted.enclosed heq
  exact hother inner more kept rfl hdefaulted

/-- A line loses its default arguments whatever stands behind it. Those of what stands behind it
get lost as well, unless the line leaves a container open. -/
lemma OmitsDefaults.append_newline (h : OmitsDefaults before text out)
    (hopen : LeavesOpen before text → outb = b)
    (hclosed : ¬ LeavesOpen before text → OmitsDefaults (some '\n') b outb) :
    OmitsDefaults before (text ++ '\n' :: b) (out ++ '\n' :: outb) := by
  induction h with
  | @done before =>
    have hplain : IsPlainAt before ([] ++ '\n' :: b) :=
      IsPlainAt.append_newline (fun _ _ opens => absurd rfl opens.ne_nil) b
    exact .copied hplain (hclosed not_leavesOpen_nil)
  | @omitted before container text inner rest out kept opens defaulted _ ih =>
    rw [leavesOpen_of_closed opens defaulted.enclosed] at hopen hclosed
    have hopens := opens.append ('\n' :: b)
    rw [List.append_assoc, List.cons_append] at hopens
    simpa using OmitsDefaults.omitted hopens defaulted (ih hopen hclosed)
  | @unclosed before container text tail opens unclosed =>
    have hleaves : LeavesOpen before text := ⟨[], text, container, tail, rfl, opens, unclosed⟩
    rw [hopen hleaves]
    exact .unclosed (opens.append _) (isUnclosed_append_newline.mpr unclosed)
  | copied plain _ ih =>
    rw [leavesOpen_cons_of_closed fun _ _ opens => (plain _ _ opens).1] at hopen hclosed
    exact .copied (plain.append_newline b) (ih hopen hclosed)

/-! ### Lines on their own -/

/-- Behind a line the scan starts anew, or has ended for good. -/
lemma stripDefaultArguments_append_newline (a b : String) :
    (LeavesOpen none a.toList →
      stripDefaultArguments (a ++ "\n" ++ b) = stripDefaultArguments a ++ "\n" ++ b) ∧
    (¬ LeavesOpen none a.toList → stripDefaultArguments (a ++ "\n" ++ b) =
      stripDefaultArguments a ++ "\n" ++ stripDefaultArguments b) := by
  have hjoin : ∀ x y : String, (x ++ "\n" ++ y).toList = x.toList ++ '\n' :: y.toList := by
    intro x y
    simp
  have ha : OmitsDefaults none a.toList (stripDefaultArguments a).toList := omitsDefaults_iff.mpr rfl
  have hb : OmitsDefaults none b.toList (stripDefaultArguments b).toList := omitsDefaults_iff.mpr rfl
  constructor
  · intro hopen
    rw [← omitsDefaults_iff, hjoin, hjoin]
    exact ha.append_newline (fun _ => rfl) fun hclosed => absurd hopen hclosed
  · intro hclosed
    have hstarts : startsName none = startsName (some '\n') := by decide +kernel
    rw [← omitsDefaults_iff, hjoin, hjoin]
    exact ha.append_newline (fun hopen => absurd hopen hclosed) fun _ => hb.congr hstarts

/-- Two texts with a line feed between them lose their default arguments each on its own, exactly
if the first leaves no container open on its line or the second has nothing to lose; otherwise the
second stays as it is. -/
theorem lines_separate_iff (a b : String) :
    (stripDefaultArguments (a ++ "\n" ++ b) =
        stripDefaultArguments a ++ "\n" ++ stripDefaultArguments b ↔
      ¬ LeavesOpen none a.toList ∨ stripDefaultArguments b = b) ∧
    (stripDefaultArguments (a ++ "\n" ++ b) =
        stripDefaultArguments a ++ "\n" ++ stripDefaultArguments b ∨
      stripDefaultArguments (a ++ "\n" ++ b) = stripDefaultArguments a ++ "\n" ++ b) := by
  obtain ⟨hopen, hclosed⟩ := stripDefaultArguments_append_newline a b
  by_cases h : LeavesOpen none a.toList
  · have hcancel : stripDefaultArguments a ++ "\n" ++ b =
        stripDefaultArguments a ++ "\n" ++ stripDefaultArguments b ↔
          stripDefaultArguments b = b := by
      rw [String.append_right_inj]
      exact eq_comm
    refine ⟨?_, Or.inr (hopen h)⟩
    rw [hopen h, hcancel]
    exact (or_iff_right (not_not_intro h)).symm
  · exact ⟨iff_of_true (hclosed h) (Or.inl h), Or.inl (hclosed h)⟩

/-- A bracket that is left open on one line keeps the default argument on the next. -/
theorem openBracket_ends_scan :
    ¬ ∀ a b : String, stripDefaultArguments (a ++ "\n" ++ b) =
      stripDefaultArguments a ++ "\n" ++ stripDefaultArguments b := by
  intro h
  have hlines := h "std::vector<int" "std::vector<int, std::allocator<int> > v;"
  revert hlines
  decide +kernel

end HeaderRecovery.Cleanup
