import Mathlib
import HeaderRecovery.Proofs.ArgumentLists

/-!
Where brackets are closed and where arguments are cut, said by places in the text and by counting.
Places count characters. Main statement: the search for a closing bracket ends at the first place
up to which as many angle brackets are closed as opened, with a counter that is never negative, and
the cuts are exactly the commas in front of which as many brackets are closed as opened.
-/
namespace HeaderRecovery.Cleanup

variable {text cs stretch piece rest : List Char} {start place close : Nat} {depth : Int} {c : Char}

/-! ### The counter of angle brackets -/

/-- How many more angle brackets a text opens than it closes. -/
def angleDepth (cs : List Char) : Int := cs.count '<' - cs.count '>'

/-- The values of the counter of open brackets, one behind each character that is read; the counter
may be any integer. Reading stops where it is zero and in front of the end of the line. -/
def counters : Int → List Char → List Int
  | _, [] => []
  | depth, c :: rest =>
    if c ∈ lineEnds then []
    else
      let behind := if c = '<' then depth + 1 else if c = '>' then depth - 1 else depth
      behind :: if behind = 0 then [] else counters behind rest

/-- The bracket that is opened at `start` is closed at `close`. -/
structure ClosesAt (text : List Char) (start close : Nat) : Prop where
  behind : start < close
  bracket : text[close]? = some '>'
  sameLine : ∀ c ∈ text.extract start close, c ∉ lineEnds
  balanced : (text.extract start (close + 1)).count '<' = (text.extract start (close + 1)).count '>'
  first : ∀ place, start ≤ place → place < close →
    (text.extract start (place + 1)).count '<' ≠ (text.extract start (place + 1)).count '>'

@[simp] lemma angleDepth_nil : angleDepth [] = 0 := rfl

lemma angleDepth_append (cs ds : List Char) :
    angleDepth (cs ++ ds) = angleDepth cs + angleDepth ds := by
  simp only [angleDepth, List.count_append]
  omega

lemma angleDepth_cons (c : Char) (cs : List Char) :
    angleDepth (c :: cs) = angleDepth [c] + angleDepth cs := angleDepth_append [c] cs

lemma angleDepth_eq_zero_iff : angleDepth cs = 0 ↔ cs.count '<' = cs.count '>' := by
  rw [angleDepth]
  omega

lemma counter_step (depth : Int) (c : Char) :
    (if c = '<' then depth + 1 else if c = '>' then depth - 1 else depth) =
      depth + angleDepth [c] := by
  by_cases hopen : c = '<'
  · subst hopen
    rfl
  by_cases hclose : c = '>'
  · subst hclose
    rfl
  · simp [hopen, hclose, angleDepth]

lemma counters_cons (hline : c ∉ lineEnds) :
    counters depth (c :: cs) = (depth + angleDepth [c]) ::
      if depth + angleDepth [c] = 0 then [] else counters (depth + angleDepth [c]) cs := by
  rw [counters, if_neg hline, counter_step]

/-- The counter counts: behind every character that is read it is the difference of what has been
opened and closed so far, which has not been zero before. -/
lemma getElem?_counters_eq_some_iff {value : Int} :
    (counters depth cs)[place]? = some value ↔
      place < cs.length ∧ (∀ c ∈ cs.take (place + 1), c ∉ lineEnds) ∧
        value = depth + angleDepth (cs.take (place + 1)) ∧
        ∀ earlier < place, depth + angleDepth (cs.take (earlier + 1)) ≠ 0 := by
  induction cs generalizing depth place with
  | nil => simp [counters]
  | cons c cs ih =>
    by_cases hline : c ∈ lineEnds
    · simp [counters, hline]
    rw [counters_cons hline]
    -- Behind the first character the scan goes on from the value that it gives.
    have hshift : ∀ n, depth + angleDepth ((c :: cs).take (n + 1)) =
        depth + angleDepth [c] + angleDepth (cs.take n) := by
      intro n
      rw [List.take_succ_cons, angleDepth_cons, add_assoc]
    cases place with
    | zero => simp [hline, eq_comm]
    | succ place =>
      rw [List.getElem?_cons_succ, Nat.forall_lt_succ_left]
      simp only [hshift, List.take_zero, angleDepth_nil, add_zero]
      by_cases hzero : depth + angleDepth [c] = 0
      · simp [hzero]
      · rw [if_neg hzero, ih]
        simp [hline, hzero]

lemma neg_one_le_angleDepth (c : Char) : -1 ≤ angleDepth [c] := by
  have hclose : [c].count '>' ≤ 1 := List.count_le_length
  rw [angleDepth]
  omega

/-- A counter that starts above zero stops before it is below. -/
lemma counters_nonneg (hdepth : 0 < depth) : ∀ value ∈ counters depth cs, 0 ≤ value := by
  induction cs generalizing depth with
  | nil => simp [counters]
  | cons c cs ih =>
    by_cases hline : c ∈ lineEnds
    · simp [counters, hline]
    have hstep := neg_one_le_angleDepth c
    rw [counters_cons hline]
    refine List.forall_mem_cons.mpr ⟨by omega, ?_⟩
    by_cases hzero : depth + angleDepth [c] = 0
    · simp [hzero]
    · rw [if_neg hzero]
      exact ih (by omega)

/-- One step of the search: it ends where nothing is left open, or goes on with what is. -/
lemma closingAngle?_cons {depth : Nat} (hdepth : 0 < depth) (hline : c ∉ lineEnds) :
    closingAngle? depth (c :: cs) =
      if depth + angleDepth [c] = 0 then some 0
      else (closingAngle? (depth + angleDepth [c]).toNat cs).map (· + 1) := by
  rw [closingAngle?]
  by_cases hopen : c = '<'
  · subst hopen
    have hcount : angleDepth ['<'] = 1 := rfl
    rw [if_pos rfl, hcount, if_neg (by omega), Int.toNat_natCast_add_one]
  rw [if_neg hopen]
  by_cases hclose : c = '>'
  · subst hclose
    have hcount : angleDepth ['>'] = -1 := rfl
    have hbehind : ((depth : Int) + -1).toNat = depth - 1 := by omega
    rw [if_pos rfl, hcount, hbehind]
    exact if_congr (by omega) rfl rfl
  · have hcount : angleDepth [c] = 0 := by simp [angleDepth, hopen, hclose]
    have hends : ¬ (c = '\n' ∨ c = ';' ∨ c = '\x7b' ∨ c = '\x7d') := by
      simpa [lineEnds] using hline
    rw [if_neg hclose, if_neg hends, hcount, if_neg (by omega), add_zero, Int.toNat_natCast]

/-- The search for the bracket that closes those that are open ends where the counter is zero. -/
lemma closingAngle?_eq_idxOf? {depth : Nat} (hdepth : 0 < depth) :
    closingAngle? depth cs = (counters depth cs).idxOf? 0 := by
  induction cs generalizing depth with
  | nil => rfl
  | cons c cs ih =>
    by_cases hline : c ∈ lineEnds
    · have hends : c ≠ '<' ∧ c ≠ '>' := by
        constructor <;> rintro rfl <;> exact absurd hline (by decide)
      rw [counters, if_pos hline, closingAngle?, if_neg hends.1, if_neg hends.2,
        if_pos (by simpa [lineEnds] using hline), List.idxOf?_nil]
    have hstep := neg_one_le_angleDepth c
    have hcast : (((depth : Int) + angleDepth [c]).toNat : Int) = depth + angleDepth [c] :=
      Int.toNat_of_nonneg (by omega)
    rw [closingAngle?_cons hdepth hline, counters_cons hline, List.idxOf?_cons]
    by_cases hzero : (depth : Int) + angleDepth [c] = 0
    · simp [hzero]
    · rw [if_neg hzero, if_neg hzero, if_neg (by simpa using hzero), ih (by omega), hcast]

/-- The counter is zero once at most. -/
lemma idxOf?_counters_iff :
    (counters depth cs).idxOf? 0 = some place ↔ (counters depth cs)[place]? = some 0 := by
  constructor
  · intro hfound
    obtain ⟨hlt, hzero, -⟩ := List.idxOf?_eq_some_iff.mp hfound
    exact List.getElem?_eq_some_iff.mpr ⟨hlt, hzero⟩
  · intro hzero
    obtain ⟨hlt, hvalue⟩ := List.getElem?_eq_some_iff.mp hzero
    obtain ⟨-, -, -, hearlier⟩ := getElem?_counters_eq_some_iff.mp hzero
    refine List.idxOf?_eq_some_iff.mpr ⟨hlt, hvalue, fun earlier hless hagain => ?_⟩
    have hcount : (counters depth cs)[earlier]? = some 0 :=
      List.getElem?_eq_some_iff.mpr ⟨hless.trans hlt, hagain⟩
    obtain ⟨-, -, hsum, -⟩ := getElem?_counters_eq_some_iff.mp hcount
    exact hearlier earlier hless hsum.symm

/-! ### The search from an opening bracket -/

lemma drop_opening (hopen : text[start]? = some '<') :
    text.drop start = '<' :: text.drop (start + 1) := by
  obtain ⟨hlt, hchar⟩ := List.getElem?_eq_some_iff.mp hopen
  rw [List.drop_eq_getElem_cons hlt, hchar]

lemma counters_opening (rest : List Char) : counters 0 ('<' :: rest) = 1 :: counters 1 rest := by
  rw [counters_cons (by decide)]
  rfl

lemma counters_opening_nonneg (rest : List Char) :
    ∀ value ∈ counters 0 ('<' :: rest), 0 ≤ value := by
  rw [counters_opening]
  exact List.forall_mem_cons.mpr ⟨Int.one_nonneg, counters_nonneg Int.one_pos⟩

lemma matchingAngle?_eq_idxOf? (hopen : text[start]? = some '<') :
    matchingAngle? text start = ((counters 0 (text.drop start)).idxOf? 0).map (start + ·) := by
  have hsearch : closingAngle? 1 (text.drop (start + 1)) =
      (counters 1 (text.drop (start + 1))).idxOf? 0 := closingAngle?_eq_idxOf? Nat.one_pos
  rw [matchingAngle?, drop_opening hopen, counters_opening, closingAngle?, if_pos rfl, hsearch,
    List.idxOf?_cons]
  rfl

/-- The search ends at a closing bracket behind the opening one. -/
lemma matchingAngle?_char (hopen : text[start]? = some '<')
    (h : matchingAngle? text start = some close) : start < close ∧ text[close]? = some '>' := by
  rw [matchingAngle?, drop_opening hopen, closingAngle?, if_pos rfl, Option.map_map] at h
  obtain ⟨place, hplace, rfl⟩ := Option.map_eq_some_iff.mp h
  obtain ⟨inner, rest, hbehind, rfl, -⟩ := encloses_of_closingAngle? hplace
  have hchar : (text.drop (start + 1))[inner.length]? = some '>' := by
    rw [hbehind, List.getElem?_append_right (Nat.le_refl _), Nat.sub_self, List.getElem?_cons_zero]
  have hsum : start + (inner.length + 1) = start + 1 + inner.length := by omega
  rw [Function.comp_apply, hsum, ← List.getElem?_drop]
  exact ⟨by omega, hchar⟩

lemma extract_add (text : List Char) (start k : Nat) :
    text.extract start (start + k) = (text.drop start).take k := by
  rw [List.extract_eq_take_drop, Nat.add_sub_cancel_left]

/-- Where a bracket is closed, the counter gets to zero for the first time. -/
lemma ClosesAt.counter_eq_zero (h : ClosesAt text start (start + place)) :
    (counters 0 (text.drop start))[place]? = some 0 := by
  obtain ⟨-, hbracket, hline, hbalanced, hfirst⟩ := h
  rw [← List.getElem?_drop] at hbracket
  rw [extract_add] at hline
  rw [Nat.add_assoc, extract_add] at hbalanced
  obtain ⟨hlt, -⟩ := List.getElem?_eq_some_iff.mp hbracket
  refine getElem?_counters_eq_some_iff.mpr ⟨hlt, ?_, ?_, ?_⟩
  · rw [List.take_add_one, hbracket]
    intro c hc
    rcases List.mem_append.mp hc with hc | hc
    · exact hline c hc
    · rw [List.mem_singleton.mp hc]
      decide
  · rw [angleDepth_eq_zero_iff.mpr hbalanced, add_zero]
  · intro earlier hless hzero
    have hne := hfirst (start + earlier) (Nat.le_add_right _ _) (by omega)
    rw [Nat.add_assoc, extract_add] at hne
    exact hne (angleDepth_eq_zero_iff.mp (by omega))

/-- The search from an opening bracket finds exactly the place where the bracket is closed. -/
lemma matchingAngle?_iff (hopen : text[start]? = some '<') :
    matchingAngle? text start = some close ↔ ClosesAt text start close := by
  constructor
  · intro h
    obtain ⟨hbehind, hbracket⟩ := matchingAngle?_char hopen h
    rw [matchingAngle?_eq_idxOf? hopen] at h
    obtain ⟨place, hplace, rfl⟩ := Option.map_eq_some_iff.mp h
    obtain ⟨-, hline, hbalanced, hearlier⟩ :=
      getElem?_counters_eq_some_iff.mp (idxOf?_counters_iff.mp hplace)
    refine ⟨hbehind, hbracket, ?_, ?_, ?_⟩
    · rw [extract_add]
      exact fun c hc => hline c (List.take_subset_take_left _ (Nat.le_succ place) hc)
    · rw [Nat.add_assoc, extract_add]
      exact angleDepth_eq_zero_iff.mp (by omega)
    · intro later hle hless hequal
      obtain ⟨earlier, rfl⟩ := Nat.exists_eq_add_of_le hle
      rw [Nat.add_assoc, extract_add] at hequal
      exact hearlier earlier (by omega) (by rw [angleDepth_eq_zero_iff.mpr hequal, add_zero])
  · intro h
    obtain ⟨place, rfl⟩ := Nat.exists_eq_add_of_le h.behind.le
    rw [matchingAngle?_eq_idxOf? hopen, idxOf?_counters_iff.mpr h.counter_eq_zero, Option.map_some]

/-! ### The cuts between arguments -/

/-- How many more brackets of any kind a text opens than it closes. -/
def bracketDepth (cs : List Char) : Int :=
  cs.countP (· ∈ ['<', '(', '[']) - cs.countP (· ∈ ['>', ')', ']'])

/-- The places of the commas in front of which as many brackets are closed as opened. -/
def separators (text : List Char) : List Nat :=
  (List.range text.length).filter fun place =>
    text[place]? = some ',' ∧ bracketDepth (text.take place) = 0

/-- The stretches of a text from `start` on between characters at given places. -/
def cutAt (text : List Char) : Nat → List Nat → List (List Char)
  | start, [] => [text.drop start]
  | start, cut :: cuts => text.extract start cut :: cutAt text (cut + 1) cuts

/-- A stretch without the blanks around it. -/
structure IsTrimmed (stretch piece : List Char) : Prop where
  around : ∃ before behind, stretch = before ++ piece ++ behind ∧
    ∀ c ∈ before ++ behind, Text.isBlank c
  start : ∀ c ∈ piece.head?, Text.isBlank c = false
  finish : ∀ c ∈ piece.getLast?, Text.isBlank c = false

/-- The brackets that are counted are those that change the depth. -/
lemma nesting_eq_bracketDepth (cs : List Char) : nesting cs = bracketDepth cs := by
  induction cs with
  | nil => rfl
  | cons c cs ih =>
    have hkinds : ¬ ((c = '<' ∨ c = '(' ∨ c = '[') ∧ (c = '>' ∨ c = ')' ∨ c = ']')) := by
      rintro ⟨rfl | rfl | rfl, h⟩ <;> revert h <;> decide
    rw [nesting_cons, ih, bracketDepth, bracketDepth, List.countP_cons, List.countP_cons,
      depthChange]
    simp only [List.mem_cons, List.not_mem_nil, or_false, decide_eq_true_eq]
    by_cases hopened : c = '<' ∨ c = '(' ∨ c = '['
    · have hclosed : ¬ (c = '>' ∨ c = ')' ∨ c = ']') := fun h => hkinds ⟨hopened, h⟩
      rw [if_pos hopened, if_pos hopened, if_neg hclosed]
      omega
    by_cases hclosed : c = '>' ∨ c = ')' ∨ c = ']'
    · rw [if_neg hopened, if_pos hclosed, if_neg hopened, if_pos hclosed]
      omega
    · rw [if_neg hopened, if_neg hclosed, if_neg hopened, if_neg hclosed]
      omega

lemma nesting_append_comma (piece rest : List Char) :
    nesting (piece ++ ',' :: rest) = nesting piece + nesting rest := by
  have hcomma : depthChange ',' = 0 := rfl
  rw [nesting, List.map_append, List.sum_append, List.map_cons, List.sum_cons, hcomma, zero_add]
  rfl

lemma separators_uncut (h : IsUncut 0 text) : separators text = [] := by
  rw [separators, List.filter_eq_nil_iff]
  intro place hplace hcut
  obtain ⟨hcomma, hdepth⟩ := of_decide_eq_true hcut
  obtain ⟨hlt, hchar⟩ := List.getElem?_eq_some_iff.mp hcomma
  have hsplit : text = text.take place ++ ',' :: text.drop (place + 1) := by
    rw [← hchar, ← List.drop_eq_getElem_cons hlt, List.take_append_drop]
  have hne := h _ _ hsplit
  rw [nesting_eq_bracketDepth, hdepth] at hne
  exact hne (add_zero 0)

/-- In front of a comma outside of brackets nothing is cut, and behind it what is cut on its own. -/
lemma separators_append (h : IsUncut 0 piece) (hclosed : nesting piece = 0) (rest : List Char) :
    separators (piece ++ ',' :: rest) =
      piece.length :: (separators rest).map (piece.length + 1 + ·) := by
  have hrange : List.range (piece ++ ',' :: rest).length =
      List.range piece.length ++ piece.length ::
        (List.range rest.length).map (piece.length + 1 + ·) := by
    rw [List.length_append, List.length_cons, Nat.add_comm rest.length, ← Nat.add_assoc,
      List.range_add, List.range_succ, List.append_assoc, List.singleton_append]
  have hfront : (List.range piece.length).filter (fun place =>
      (piece ++ ',' :: rest)[place]? = some ',' ∧
        bracketDepth ((piece ++ ',' :: rest).take place) = 0) = separators piece := by
    refine List.filter_congr fun place hplace => ?_
    have hlt := List.mem_range.mp hplace
    rw [List.getElem?_append_left hlt, List.take_append_of_le_length hlt.le]
  have hcomma : (piece ++ ',' :: rest)[piece.length]? = some ',' ∧
      bracketDepth ((piece ++ ',' :: rest).take piece.length) = 0 := by
    rw [List.take_left, ← nesting_eq_bracketDepth]
    exact ⟨by simp, hclosed⟩
  have hbehind : (fun place => decide ((piece ++ ',' :: rest)[place]? = some ',' ∧
      bracketDepth ((piece ++ ',' :: rest).take place) = 0)) ∘ (piece.length + 1 + ·) =
        fun place => decide (rest[place]? = some ',' ∧ bracketDepth (rest.take place) = 0) := by
    funext place
    have hplace : piece.length + 1 + place = piece.length + (place + 1) := by omega
    have hchar : (piece ++ ',' :: rest)[piece.length + 1 + place]? = rest[place]? := by
      rw [hplace, List.getElem?_append_right (Nat.le_add_right _ _), Nat.add_sub_cancel_left,
        List.getElem?_cons_succ]
    have htake : (piece ++ ',' :: rest).take (piece.length + 1 + place) =
        piece ++ ',' :: rest.take place := by
      rw [hplace, List.take_length_add_append, List.take_succ_cons]
    rw [Function.comp_apply, hchar, htake, ← nesting_eq_bracketDepth, nesting_append_comma, hclosed,
      zero_add, nesting_eq_bracketDepth]
  rw [separators, hrange, List.filter_append, hfront, separators_uncut h, List.nil_append,
    List.filter_cons_of_pos (by simpa using hcomma), List.filter_map, hbehind, separators]

lemma cutAt_append (front text : List Char) (start : Nat) (cuts : List Nat) :
    cutAt (front ++ text) (front.length + start) (cuts.map (front.length + ·)) =
      cutAt text start cuts := by
  induction cuts generalizing start with
  | nil => simp [cutAt]
  | cons cut cuts ih =>
    have hnext := ih (cut + 1)
    rw [← Nat.add_assoc] at hnext
    rw [List.map_cons, cutAt, cutAt, hnext, List.extract_eq_take_drop, List.extract_eq_take_drop,
      List.drop_length_add_append, Nat.add_sub_add_left]

lemma length_cutAt (text : List Char) (start : Nat) (cuts : List Nat) :
    (cutAt text start cuts).length = cuts.length + 1 := by
  induction cuts generalizing start with
  | nil => rfl
  | cons cut cuts ih => rw [cutAt, List.length_cons, ih, List.length_cons]

/-- The stretches of a text are what stands between its separators. -/
lemma stretches_eq_cutAt (text : List Char) :
    stretches 0 text = cutAt text 0 (separators text) := by
  induction hlength : text.length using Nat.strong_induction_on generalizing text with
  | h length ih =>
    subst hlength
    rcases isUncut_or_cut 0 text with h | ⟨piece, rest, rfl, h, hclosed⟩
    · rw [stretches_uncut h, separators_uncut h]
      rfl
    · rw [zero_add] at hclosed
      have hrest := cutAt_append (piece ++ [',']) rest 0 (separators rest)
      rw [List.length_append, List.length_singleton, List.append_assoc, List.singleton_append,
        Nat.add_zero] at hrest
      have hshorter : rest.length < (piece ++ ',' :: rest).length := by
        rw [List.length_append, List.length_cons]
        omega
      rw [stretches_append h (by rw [hclosed, zero_add]), separators_append h hclosed, cutAt, hrest,
        ih rest.length hshorter rest rfl]
      simp

lemma dropWhile_isBlank_eq_self (h : ∀ c ∈ cs.head?, Text.isBlank c = false) :
    cs.dropWhile Text.isBlank = cs := by
  cases cs with
  | nil => rfl
  | cons c cs => exact List.dropWhile_cons_of_neg (by simp [h c rfl])

lemma head?_dropWhile_isBlank (cs : List Char) :
    ∀ c ∈ (cs.dropWhile Text.isBlank).head?, Text.isBlank c = false := by
  intro c hc
  have hhead := List.head?_dropWhile_not Text.isBlank cs
  rwa [Option.mem_def.mp hc] at hhead

/-- Without the blanks in front, a stretch is what trimming leaves and blanks behind it. -/
lemma trim_append_blanks (stretch : List Char) :
    ∃ behind, (∀ c ∈ behind, Text.isBlank c) ∧
      Text.trim stretch ++ behind = stretch.dropWhile Text.isBlank := by
  refine ⟨((stretch.dropWhile Text.isBlank).reverse.takeWhile Text.isBlank).reverse,
    fun c hc => List.mem_takeWhile_imp (List.mem_reverse.mp hc), ?_⟩
  rw [Text.trim, Text.trimEnd, Text.dropEndWhile, ← List.reverse_append,
    List.takeWhile_append_dropWhile, List.reverse_reverse]

lemma isTrimmed_trim (stretch : List Char) : IsTrimmed stretch (Text.trim stretch) := by
  obtain ⟨behind, hblank, hbehind⟩ := trim_append_blanks stretch
  constructor
  · refine ⟨stretch.takeWhile Text.isBlank, behind, ?_, ?_⟩
    · rw [List.append_assoc, hbehind, List.takeWhile_append_dropWhile]
    · intro c hc
      rcases List.mem_append.mp hc with hc | hc
      · exact List.mem_takeWhile_imp hc
      · exact hblank c hc
  · intro c hc
    refine head?_dropWhile_isBlank stretch c ?_
    rw [← hbehind, List.head?_append, Option.mem_def.mp hc]
    rfl
  · rw [Text.trim, Text.trimEnd, Text.dropEndWhile, List.getLast?_reverse]
    exact head?_dropWhile_isBlank _

/-- Trimming leaves what stands between the blanks around a stretch. -/
lemma isTrimmed_iff : IsTrimmed stretch piece ↔ Text.trim stretch = piece := by
  constructor
  · rintro ⟨⟨before, behind, rfl, hblank⟩, hstart, hfinish⟩
    have hbefore : ∀ c ∈ before, Text.isBlank c = true := fun c hc =>
      hblank c (List.mem_append_left behind hc)
    have hbehind : ∀ c ∈ behind.reverse, Text.isBlank c = true := fun c hc =>
      hblank c (List.mem_append_right before (List.mem_reverse.mp hc))
    rw [Text.trim, Text.trimEnd, Text.dropEndWhile, List.append_assoc,
      List.dropWhile_append_of_pos hbefore]
    cases piece with
    | nil =>
      have hnone : ([] ++ behind).dropWhile Text.isBlank = [] :=
        List.dropWhile_eq_nil_iff.mpr fun c hc => hbehind c (List.mem_reverse.mpr hc)
      rw [hnone]
      rfl
    | cons c piece =>
      have hkept : (c :: piece ++ behind).dropWhile Text.isBlank = c :: piece ++ behind :=
        dropWhile_isBlank_eq_self hstart
      rw [hkept, List.reverse_append, List.dropWhile_append_of_pos hbehind,
        dropWhile_isBlank_eq_self, List.reverse_reverse]
      rwa [List.head?_reverse]
  · rintro rfl
    exact isTrimmed_trim stretch

/-- Cutting a text into arguments gives what stands between its separators, trimmed. -/
lemma splitArguments_iff {pieces : List (List Char)} :
    splitArguments text = pieces ↔
      List.Forall₂ IsTrimmed (cutAt text 0 (separators text)) pieces := by
  have htrimmed : IsTrimmed = fun stretch piece => Text.trim stretch = piece := by
    funext stretch piece
    exact propext isTrimmed_iff
  rw [splitArguments, stretches_eq_cutAt, htrimmed, ← List.forall₂_eq_eq_eq,
    List.forall₂_map_left_iff]

/-- No depth is beyond the number of characters in front of it. -/
lemma abs_bracketDepth_le (cs : List Char) : |bracketDepth cs| ≤ cs.length := by
  have hopened : cs.countP (· ∈ ['<', '(', '[']) ≤ cs.length := List.countP_le_length
  have hclosed : cs.countP (· ∈ ['>', ')', ']']) ≤ cs.length := List.countP_le_length
  rw [bracketDepth, abs_le]
  omega

/-- Brackets are scanned exactly. From an opening bracket the search ends at the place where the
bracket is closed, which is the first one up to which as many brackets are closed as opened, if the
line does not end before; its counter counts these brackets and is never below zero. The arguments
of a text are the trimmed stretches between the commas in front of which as many brackets of any
kind are closed as opened, so there is one more of them than of these commas; no depth is beyond the
length of the text. -/
theorem brackets_scanned (text : List Char) :
    (∀ start, text[start]? = some '<' →
      (∀ close, matchingAngle? text start = some close ↔ ClosesAt text start close) ∧
      (matchingAngle? text start = ((counters 0 (text.drop start)).idxOf? 0).map (start + ·)) ∧
      ∀ place value, (counters 0 (text.drop start))[place]? = some value →
        0 ≤ value ∧ value = angleDepth (text.extract start (start + place + 1))) ∧
    (∀ pieces, splitArguments text = pieces ↔
      List.Forall₂ IsTrimmed (cutAt text 0 (separators text)) pieces) ∧
    (splitArguments text).length = (separators text).length + 1 ∧
    ∀ front, front <+: text → |bracketDepth front| ≤ text.length := by
  refine ⟨fun start hopen => ⟨fun close => matchingAngle?_iff hopen,
    matchingAngle?_eq_idxOf? hopen, fun place value hvalue => ⟨?_, ?_⟩⟩,
    fun pieces => splitArguments_iff, ?_, fun front hfront => ?_⟩
  · rw [drop_opening hopen] at hvalue
    exact counters_opening_nonneg _ value (List.mem_of_getElem? hvalue)
  · obtain ⟨-, -, hcount, -⟩ := getElem?_counters_eq_some_iff.mp hvalue
    rw [hcount, zero_add, Nat.add_assoc, extract_add]
  · rw [splitArguments, List.length_map, stretches_eq_cutAt, length_cutAt]
  · exact (abs_bracketDepth_le front).trans (Int.ofNat_le.mpr hfront.length_le)

/-- The brackets of a template are closed inside of parentheses here, by the comparison; the comma
behind them is no cut then, as more is closed in front of it than opened. -/
theorem mixedBrackets_scanned :
    "f<g<é>, (h>i)>, j".toList[1]? = some '<' ∧
      matchingAngle? "f<g<é>, (h>i)>, j".toList 1 = some 10 ∧
      ClosesAt "f<g<é>, (h>i)>, j".toList 1 10 ∧
      bracketDepth "f<g<é>, (h>i)>".toList = -1 ∧
      (splitArguments "f<g<é>, (h>i)>, j".toList).length = 1 := by
  have hopen : "f<g<é>, (h>i)>, j".toList[1]? = some '<' := by decide
  have hfound : matchingAngle? "f<g<é>, (h>i)>, j".toList 1 = some 10 := by decide
  obtain ⟨hsearch, -, hlength, -⟩ := brackets_scanned "f<g<é>, (h>i)>, j".toList
  have hnone : separators "f<g<é>, (h>i)>, j".toList = [] := by decide +kernel
  exact ⟨hopen, hfound, ((hsearch 1 hopen).1 10).mp hfound, by decide +kernel,
    by rw [hlength, hnone, List.length_nil]⟩

end HeaderRecovery.Cleanup
