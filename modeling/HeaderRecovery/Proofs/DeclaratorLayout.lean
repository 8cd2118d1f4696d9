import HeaderRecovery.Proofs.TypeChain

/-!
The layout of a declarator: the pieces that stand before and behind the declared name, group by
group. A layout says which tokens the text has and which layers it gives the type.
-/
namespace HeaderRecovery.Cpp
open Debug

def Name.tokens (n : Name) : List Token :=
  n.scopes.flatMap (fun scope => [.word scope.text, .colons]) ++ [.word n.last.text]

def Mark.tokens : Mark → List Token
  | .pointer => [.star]
  | .reference => [.amp]
  | .rvalueReference => [.ampAmp]
  | .member owner => owner.tokens ++ [.colons, .star]

def qualifierTokens (qs : List Qualifier) : List Token := qs.map fun q => .word q.keyword

/-- A mark and the qualifiers behind it. -/
structure Prefix where
  mark : Mark
  qualifiers : List Qualifier

namespace Prefix

def tokens (p : Prefix) : List Token := p.mark.tokens ++ qualifierTokens p.qualifiers

def layer (p : Prefix) : Layer := .indirect p.qualifiers p.mark

end Prefix

/-- Tokens behind the name and what they mean. -/
structure Suffix where
  tokens : List Token
  layer : Layer

/-- What stands within one pair of parentheses around the name, the outermost layers first. -/
structure Segment where
  prefixes : List Prefix
  suffixes : List Suffix

namespace Segment

def before (s : Segment) : List Token := s.prefixes.reverse.flatMap Prefix.tokens

def after (s : Segment) : List Token := s.suffixes.flatMap Suffix.tokens

def layers (s : Segment) : List Layer := s.suffixes.map Suffix.layer ++ s.prefixes.map Prefix.layer

end Segment

/-- A whole declaration but for the name. The segment next to the name is the innermost. -/
structure Layout where
  lead : List Qualifier
  base : Name
  inner : Segment
  outer : List Segment

namespace Layout

def outerBefore : List Segment → List Token
  | [] => []
  | s :: rest => outerBefore rest ++ s.before ++ [.leftParen]

def outerAfter : List Segment → List Token
  | [] => []
  | s :: rest => .rightParen :: s.after ++ outerAfter rest

def before (l : Layout) : List Token :=
  qualifierTokens l.lead ++ l.base.tokens ++ outerBefore l.outer ++ l.inner.before

def after (l : Layout) : List Token := l.inner.after ++ outerAfter l.outer

/-- The layers around the base type, the outermost first. -/
def layers (l : Layout) : List Layer := l.inner.layers ++ l.outer.flatMap Segment.layers

def type (l : Layout) : Ty := l.layers.foldr Layer.around (.named l.lead l.base)

/-- A mark directly behind `&` makes one longer token with it. -/
def addMark (mark : Mark) : List Prefix → List Prefix
  | ⟨.reference, []⟩ :: rest =>
    match mark with
    | .reference => ⟨.rvalueReference, []⟩ :: rest
    | .rvalueReference => ⟨.reference, []⟩ :: ⟨.rvalueReference, []⟩ :: rest
    | mark => ⟨mark, []⟩ :: ⟨.reference, []⟩ :: rest
  | prefixes => ⟨mark, []⟩ :: prefixes

def mark (mark : Mark) (l : Layout) : Layout :=
  { l with inner := { l.inner with prefixes := addMark mark l.inner.prefixes } }

/-- A mark in parentheses around all there is so far. -/
def group (mark : Mark) (l : Layout) : Layout :=
  { l with inner := ⟨[⟨mark, []⟩], []⟩, outer := l.inner :: l.outer }

def addQualifier (q : Qualifier) : List Prefix → List Prefix
  | p :: rest => { p with qualifiers := p.qualifiers ++ [q] } :: rest
  | [] => []

/-- A qualifier behind the last mark. -/
def qualify (q : Qualifier) (l : Layout) : Layout :=
  { l with inner := { l.inner with prefixes := addQualifier q l.inner.prefixes } }

/-- A qualifier in front of everything. -/
def precede (q : Qualifier) (l : Layout) : Layout := { l with lead := q :: l.lead }

def suffix (s : Suffix) (l : Layout) : Layout :=
  { l with inner := { l.inner with suffixes := s :: l.inner.suffixes } }

end Layout

def boundSuffix (bound : Option Nat) : Suffix :=
  match bound with
  | some n => ⟨[.leftBracket, .word (toString n), .rightBracket], .array (some n)⟩
  | none => ⟨[.leftBracket, .rightBracket], .array none⟩

def parameterTokens : Option Layout → List Token
  | some l => l.before ++ l.after
  | none => [.dots]

def parametersTokens : List (Option Layout) → List Token
  | [] => []
  | [p] => parameterTokens p
  | p :: rest => parameterTokens p ++ .comma :: parametersTokens rest

def parametersSuffix (parameters : List (Option Layout)) : Suffix :=
  ⟨.leftParen :: parametersTokens parameters ++ [.rightParen],
    .function (parameters.map (Option.map Layout.type))⟩

end HeaderRecovery.Cpp

namespace HeaderRecovery.Debug.Chain
open Cpp

mutual

/-- How a chain is laid out: a mark around an array or a function is grouped, a qualifier of an
indirection stands behind its mark, and any other in front of everything. -/
def layout : Chain → Layout
  | named name => ⟨[], name, ⟨[], []⟩, []⟩
  | indirect mark target =>
    if target.isSuffixed then target.layout.group mark else target.layout.mark mark
  | qualified q inner =>
    if inner.isIndirect then inner.layout.qualify q else inner.layout.precede q
  | array bound element => element.layout.suffix (boundSuffix bound)
  | function parameters result => result.layout.suffix (parametersSuffix (layouts parameters))

def layouts : List (Option Chain) → List (Option Layout)
  | [] => []
  | none :: rest => none :: layouts rest
  | some c :: rest => some c.layout :: layouts rest

end

end HeaderRecovery.Debug.Chain

namespace HeaderRecovery.Cpp
open Debug

/-! ### Scanning -/

namespace Scan

/-- The scan of these tokens while the last one may still go on. -/
def after (ts : List Token) : Scan :=
  match ts.getLast? with
  | some (.word w) => ⟨ts.dropLast, .word w.toList⟩
  | some .amp => ⟨ts.dropLast, .amp⟩
  | _ => ⟨ts, .nothing⟩

variable {s : Scan} {ts : List Token}

@[simp] lemma after_word (w : String) : after (ts ++ [.word w]) = ⟨ts, .word w.toList⟩ := by
  simp [after]

@[simp] lemma after_amp : after (ts ++ [.amp]) = ⟨ts, .amp⟩ := by simp [after]

lemma after_symbol {token : Token} (hword : ∀ w, token ≠ .word w) (hamp : token ≠ .amp) :
    after (ts ++ [token]) = ⟨ts ++ [token], .nothing⟩ := by
  unfold after
  rw [List.getLast?_concat]
  cases token <;> simp_all

lemma flush_after (ts : List Token) : (after ts).flush = ts := by
  rcases List.eq_nil_or_concat ts with rfl | ⟨rest, last, rfl⟩
  · rfl
  · cases last <;> simp [after, flush]

lemma flush_nothing (ts : List Token) : flush ⟨ts, .nothing⟩ = ts := rfl

lemma run_append (s : Scan) (a b : String) : s.run (a ++ b) = (s.run a).run b := by
  simp [run]

lemma run_symbol (c : Char) (hc : c ∈ ['*', ',', '(', ')', '[', ']']) :
    s.run (String.singleton c) = ⟨s.flush ++ [symbol c], .nothing⟩ := by
  simp only [List.mem_cons, List.not_mem_nil, or_false] at hc
  rcases hc with rfl | rfl | rfl | rfl | rfl | rfl <;> simp [run, step, isWordChar]

@[simp] lemma run_space : s.run " " = ⟨s.flush, .nothing⟩ := by
  simp [run, step, isWordChar]

@[simp] lemma run_colons (hs : ∀ ts, s ≠ ⟨ts, .colon⟩) :
    s.run "::" = ⟨s.flush ++ [.colons], .nothing⟩ := by
  obtain ⟨ts, pending⟩ := s
  cases pending with
  | colon => exact absurd rfl (hs ts)
  | _ => simp [run, step, isWordChar]

lemma run_dots : (⟨ts, .nothing⟩ : Scan).run "..." = ⟨ts ++ [.dots], .nothing⟩ := by
  simp [run, step, isWordChar, flush]

lemma foldl_word {cs : List Char} (hcs : cs.all isWordChar) (text : List Char) :
    cs.foldl step ⟨ts, .word text⟩ = ⟨ts, .word (text ++ cs)⟩ := by
  induction cs generalizing text with
  | nil => simp
  | cons c cs ih =>
    simp only [List.all_cons, Bool.and_eq_true] at hcs
    simp [step, hcs.1, ih hcs.2]

/-- A word begins a new token unless one is being read. -/
lemma run_word {w : String} (hw : w.toList.all isWordChar) (hne : w ≠ "")
    (hs : ∀ ts text, s ≠ ⟨ts, .word text⟩) : s.run w = ⟨s.flush, .word w.toList⟩ := by
  unfold run
  cases hcs : w.toList with
  | nil => exact absurd (String.toList_eq_nil_iff.mp hcs) hne
  | cons c cs =>
    rw [hcs, List.all_cons, Bool.and_eq_true] at hw
    have hfirst : s.step c = ⟨s.flush, .word [c]⟩ := by
      obtain ⟨ts, pending⟩ := s
      cases pending with
      | word text => exact absurd rfl (hs ts text)
      | _ => simp [step, hw.1]
    rw [List.foldl_cons, hfirst, foldl_word hw.2]
    rfl

end Scan

lemma Identifier.wordChars (i : Identifier) : i.text.toList.all isWordChar := by
  have h := i.plain
  simp only [isIdentifier, Bool.and_eq_true] at h
  exact h.1.1

lemma Identifier.ne_empty (i : Identifier) : i.text ≠ "" := by
  intro h
  have hplain := i.plain
  rw [h] at hplain
  exact absurd hplain (by decide)

lemma Qualifier.wordChars (q : Qualifier) : q.keyword.toList.all isWordChar := by
  cases q <;> decide

lemma Qualifier.ne_empty (q : Qualifier) : q.keyword ≠ "" := by cases q <;> decide

lemma number_wordChars (n : Nat) : (toString n).toList.all isWordChar := by
  rw [List.all_eq_true]
  intro c hc
  have hdigit : c.isDigit := by
    apply Nat.isDigit_of_mem_toDigits (b := 10) (n := n) (by decide) (by decide)
    simpa [Nat.toString_eq_repr, Nat.repr] using hc
  simp [isWordChar, Char.isAlphanum, hdigit]

/-- A text that is read as these tokens, the last of which may go on, wherever a token may
begin. -/
def Spells (text : String) (ts : List Token) : Prop :=
  ∀ done, Scan.run ⟨done, .nothing⟩ text = Scan.after (done ++ ts)

/-- A text that ends whatever token stood before it and is read as these whole tokens. -/
def Closes (text : String) (ts : List Token) : Prop :=
  ∀ s : Scan, s.run text = ⟨s.flush ++ ts, .nothing⟩

lemma Closes.append {a b : String} {as bs : List Token} (ha : Closes a as) (hb : Closes b bs) :
    Closes (a ++ b) (as ++ bs) := by
  intro s
  rw [Scan.run_append, ha, hb]
  simp [Scan.flush]

lemma spells_word {w : String} (hw : w.toList.all isWordChar) (hne : w ≠ "") :
    Spells w [.word w] := by
  intro done
  rw [Scan.run_word hw hne (by simp), Scan.after_word]
  rfl

lemma Name.text_nil (last : Identifier) : Name.text ⟨[], last⟩ = last.text := by
  simp [Name.text]

lemma Name.text_cons (scope : Identifier) (scopes : List Identifier) (last : Identifier) :
    Name.text ⟨scope :: scopes, last⟩ = scope.text ++ "::" ++ Name.text ⟨scopes, last⟩ := by
  simp only [Name.text, List.cons_append, List.map_cons]
  rw [String.intercalate_cons_of_ne_nil (by simp)]

lemma spells_name (n : Name) : Spells n.text n.tokens := by
  obtain ⟨scopes, last⟩ := n
  induction scopes with
  | nil =>
    rw [Name.text_nil]
    exact spells_word last.wordChars last.ne_empty
  | cons scope scopes ih =>
    intro done
    rw [Name.text_cons, Scan.run_append, Scan.run_append,
      spells_word scope.wordChars scope.ne_empty,
      Scan.after_word, Scan.run_colons (by simp), ih]
    simp [Scan.flush, Name.tokens]

lemma spells_mark (m : Mark) : Spells (markText m) m.tokens := by
  intro done
  cases m with
  | pointer =>
    simp [markText, Mark.tokens, Scan.run, Scan.step, isWordChar, Scan.after, Scan.flush,
      Scan.symbol]
  | reference =>
    simp [markText, Mark.tokens, Scan.run, Scan.step, isWordChar, Scan.after, Scan.flush]
  | rvalueReference =>
    simp [markText, Mark.tokens, Scan.run, Scan.step, isWordChar, Scan.after, Scan.flush]
  | member owner =>
    have hstar : "::*" = "::" ++ String.singleton '*' := by decide
    have hopen : ∀ ts, Scan.after (done ++ owner.tokens) ≠ ⟨ts, .colon⟩ := by
      simp [Name.tokens, ← List.append_assoc]
    have hclosed : Scan.after (done ++ owner.tokens ++ [Token.colons] ++ [Token.star]) =
        ⟨done ++ owner.tokens ++ [Token.colons] ++ [Token.star], .nothing⟩ :=
      Scan.after_symbol (by simp) (by simp)
    simp only [markText, Mark.tokens]
    rw [hstar, Scan.run_append, Scan.run_append, spells_name, Scan.run_colons hopen,
      Scan.run_symbol _ (by simp), Scan.flush_after]
    simpa [Scan.flush, Scan.symbol] using hclosed.symm

lemma spells_qualifier (q : Qualifier) : Spells q.keyword [.word q.keyword] :=
  spells_word q.wordChars q.ne_empty

lemma closes_bound (bound : Option Nat) :
    Closes (boundText bound) (boundSuffix bound).tokens := by
  intro s
  cases bound with
  | none =>
    simp [boundText, boundSuffix, Scan.run, Scan.step, isWordChar, Scan.symbol, Scan.flush]
  | some n =>
    have hne : toString n ≠ "" := by simp [Nat.toString_eq_repr]
    have hopen : "[" = String.singleton '[' := by decide
    have hclose : "]" = String.singleton ']' := by decide
    have hfirst := Scan.run_symbol (s := s) '[' (by simp)
    simp only [boundText, boundSuffix]
    rw [hopen, hclose, Scan.run_append, Scan.run_append, hfirst,
      Scan.run_word (number_wordChars n) hne (by simp), Scan.run_symbol _ (by simp)]
    simp only [Scan.flush, Scan.symbol, String.ofList_toList]
    simp

namespace Layout

/-- Nothing stands behind the last mark. -/
def endsInMark (l : Layout) : Bool :=
  match l.inner.prefixes with
  | ⟨_, []⟩ :: _ => true
  | _ => false

end Layout

/-- The two halves of a declarator are read as the tokens of a layout, and its first half ends
in the character of a mark where the layout ends in a mark. -/
structure Lexed (d : Declarator) (l : Layout) : Prop where
  before : Spells d.before l.before
  after : d.after = "" ∧ l.after = [] ∨ Closes d.after l.after
  last : ∃ c, d.before.toList.getLast? = some c ∧
    if l.endsInMark then c = '*' ∨ c = '&' else isWordChar c

variable {d : Declarator} {l : Layout}

lemma getLast?_append {a b : String} (hb : b ≠ "") :
    (a ++ b).toList.getLast? = b.toList.getLast? := by
  have hne : b.toList ≠ [] := fun h => hb (String.toList_eq_nil_iff.mp h)
  rw [String.toList_append, List.getLast?_append_of_ne_nil _ hne]

lemma Lexed.endsIn (h : Lexed d l) {marks : List Char} (hmarks : '*' ∈ marks ∧ '&' ∈ marks)
    (hwords : ∀ c ∈ marks, isWordChar c = false) :
    Declarator.endsIn marks d.before = l.endsInMark := by
  obtain ⟨c, hc, hlast⟩ := h.last
  unfold Declarator.endsIn
  rw [hc]
  cases hmark : l.endsInMark with
  | true =>
    rw [hmark, if_pos rfl] at hlast
    rcases hlast with rfl | rfl <;> simp [hmarks]
  | false =>
    rw [hmark, if_neg (by decide)] at hlast
    have hnot : c ∉ marks := by
      intro hmem
      rw [hwords c hmem] at hlast
      cases hlast
    simp [hnot]

/-- Attaching a mark or a qualifier leaves an empty space unless a mark stands there. -/
lemma Lexed.attach_eq (h : Lexed d l) (text : String) :
    EntryTree.attach d.before text =
      if l.endsInMark then d.before ++ text else d.before ++ " " ++ text := by
  rw [EntryTree.attach, h.endsIn (by simp) (by simp [isWordChar])]

/-- Behind an `&` that may go on, a text that does not begin with `&` is read as behind a whole
one. -/
lemma run_amp {text : String} (h : text.toList.head? ≠ some '&') (hne : text ≠ "")
    (ts : List Token) :
    Scan.run ⟨ts, .amp⟩ text = Scan.run ⟨ts ++ [.amp], .nothing⟩ text := by
  unfold Scan.run
  cases hcs : text.toList with
  | nil => exact absurd (String.toList_eq_nil_iff.mp hcs) hne
  | cons c cs =>
    have hc : c ≠ '&' := fun heq => h (by rw [hcs, heq]; rfl)
    rw [List.foldl_cons, List.foldl_cons]
    congr 1
    simp [Scan.step, Scan.flush, hc]

lemma Spells.after_space {text : String} {ts : List Token} (h : Spells text ts)
    (present : List Token) :
    (Scan.after present).run (" " ++ text) = Scan.after (present ++ ts) := by
  rw [Scan.run_append, Scan.run_space, Scan.flush_after, h]

/-- Only `&` may go on. -/
lemma Mark.after_tokens {m : Mark} (h : m ≠ .reference) (present : List Token) :
    Scan.after (present ++ m.tokens) = ⟨present ++ m.tokens, .nothing⟩ := by
  cases m with
  | pointer => exact Scan.after_symbol (by simp) (by simp)
  | reference => exact absurd rfl h
  | rvalueReference => exact Scan.after_symbol (by simp) (by simp)
  | member owner =>
    have hstar : present ++ (owner.tokens ++ [Token.colons, .star]) =
        present ++ owner.tokens ++ [Token.colons] ++ [Token.star] := by simp
    rw [Mark.tokens, hstar]
    exact Scan.after_symbol (by simp) (by simp)

/-- Behind a mark nothing but another `&` makes a token with it. -/
lemma Spells.after_mark {text : String} {ts : List Token} (h : Spells text ts) {m : Mark}
    (hamp : text.toList.head? ≠ some '&' ∨ m ≠ .reference) (hne : text ≠ "")
    (present : List Token) :
    (Scan.after (present ++ m.tokens)).run text = Scan.after (present ++ m.tokens ++ ts) := by
  by_cases hm : m = .reference
  · subst hm
    rw [Mark.tokens, Scan.after_amp, run_amp (hamp.resolve_right (by simp)) hne, h]
  · rw [Mark.after_tokens hm, h]

/-- The tokens before the name if these were the marks next to it. -/
def Layout.upTo (l : Layout) (prefixes : List Prefix) : List Token :=
  qualifierTokens l.lead ++ l.base.tokens ++ outerBefore l.outer ++
    prefixes.reverse.flatMap Prefix.tokens

lemma Layout.before_of_mark {m : Mark} {rest : List Prefix}
    (h : l.inner.prefixes = ⟨m, []⟩ :: rest) : l.before = l.upTo rest ++ m.tokens := by
  simp [before, upTo, Segment.before, h, Prefix.tokens, qualifierTokens]

/-! ### Each step of a chain keeps text and layout together -/

lemma markText_last (m : Mark) :
    ∃ c, (markText m).toList.getLast? = some c ∧ (c = '*' ∨ c = '&') := by
  cases m with
  | pointer => exact ⟨'*', rfl, Or.inl rfl⟩
  | reference => exact ⟨'&', rfl, Or.inr rfl⟩
  | rvalueReference => exact ⟨'&', rfl, Or.inr rfl⟩
  | member owner =>
    refine ⟨'*', ?_, Or.inl rfl⟩
    rw [markText, getLast?_append (by decide)]
    rfl

lemma markText_ne_empty (m : Mark) : markText m ≠ "" := by
  intro h
  obtain ⟨c, hc, -⟩ := markText_last m
  rw [h] at hc
  cases hc

lemma head?_append {a b : String} (ha : a ≠ "") : (a ++ b).toList.head? = a.toList.head? := by
  have hne : a.toList ≠ [] := fun h => ha (String.toList_eq_nil_iff.mp h)
  rw [String.toList_append, List.head?_append_of_ne_nil _ hne]

lemma wordChars_head {w : String} (hw : w.toList.all isWordChar) : w.toList.head? ≠ some '&' := by
  intro h
  have hmem := List.mem_of_head? h
  rw [List.all_eq_true] at hw
  exact absurd (hw _ hmem) (by decide)

lemma Name.text_head (n : Name) : n.text.toList.head? ≠ some '&' := by
  obtain ⟨scopes, last⟩ := n
  cases scopes with
  | nil =>
    rw [Name.text_nil]
    exact wordChars_head last.wordChars
  | cons scope scopes =>
    rw [Name.text_cons, String.append_assoc, head?_append scope.ne_empty]
    exact wordChars_head scope.wordChars

lemma Name.text_ne_empty (n : Name) : n.text ≠ "" := by
  obtain ⟨scopes, last⟩ := n
  cases scopes with
  | nil =>
    rw [Name.text_nil]
    exact last.ne_empty
  | cons scope scopes => simp [Name.text_cons]

lemma Name.text_last (n : Name) : ∃ c, n.text.toList.getLast? = some c ∧ isWordChar c := by
  obtain ⟨scopes, last⟩ := n
  induction scopes with
  | nil =>
    rw [Name.text_nil]
    have hne : last.text.toList ≠ [] := fun h => last.ne_empty (String.toList_eq_nil_iff.mp h)
    exact ⟨_, List.getLast?_eq_some_getLast hne,
      List.all_eq_true.mp last.wordChars _ (List.getLast_mem hne)⟩
  | cons scope scopes ih =>
    rw [Name.text_cons, getLast?_append (Name.text_ne_empty _)]
    exact ih

lemma Layout.addMark_of_plain {m : Mark} {prefixes : List Prefix}
    (h : ∀ rest, prefixes ≠ ⟨.reference, []⟩ :: rest) :
    addMark m prefixes = ⟨m, []⟩ :: prefixes := by
  unfold addMark
  split
  · exact absurd rfl (h _)
  · rfl

lemma Layout.addMark_eq (m : Mark) (prefixes : List Prefix) :
    ∃ last rest, addMark m prefixes = ⟨last, []⟩ :: rest := by
  unfold addMark
  split
  · cases m <;> exact ⟨_, _, rfl⟩
  · exact ⟨_, _, rfl⟩

lemma Layout.mark_endsInMark (m : Mark) (l : Layout) : (l.mark m).endsInMark = true := by
  obtain ⟨last, rest, heq⟩ := addMark_eq m l.inner.prefixes
  simp [Layout.mark, endsInMark, heq]

lemma Layout.mark_before {m : Mark} (h : ∀ rest, l.inner.prefixes ≠ ⟨.reference, []⟩ :: rest) :
    (l.mark m).before = l.before ++ m.tokens := by
  simp [Layout.mark, addMark_of_plain h, before, Segment.before, Prefix.tokens, qualifierTokens]

/-- What a mark makes of an `&` in front of it, the one place where it changes the token before. -/
def Mark.behindAmp : Mark → List Token
  | .reference => [.ampAmp]
  | .rvalueReference => [.ampAmp, .amp]
  | m => .amp :: m.tokens

lemma Layout.mark_before_amp (m : Mark) {rest : List Prefix}
    (h : l.inner.prefixes = ⟨.reference, []⟩ :: rest) :
    (l.mark m).before = l.upTo rest ++ m.behindAmp := by
  cases m <;> simp [Layout.mark, addMark, before, upTo, Segment.before, h, Prefix.tokens,
    qualifierTokens, Mark.tokens, Mark.behindAmp]

lemma run_behind_amp (m : Mark) (present : List Token) :
    (Scan.after (present ++ [.amp])).run (markText m) = Scan.after (present ++ m.behindAmp) := by
  cases m with
  | pointer => simp [markText, Mark.behindAmp, Mark.tokens, Scan.run, Scan.step, isWordChar,
      Scan.after, Scan.flush, Scan.symbol]
  | reference =>
    rw [Scan.after_amp, Mark.behindAmp, Scan.after_symbol (by simp) (by simp)]
    simp [markText, Scan.run, Scan.step, isWordChar]
  | rvalueReference =>
    have hlong : present ++ [Token.ampAmp, Token.amp] =
        present ++ [Token.ampAmp] ++ [Token.amp] := by
      simp
    rw [Scan.after_amp, Mark.behindAmp, hlong, Scan.after_amp]
    simp [markText, Scan.run, Scan.step, isWordChar, Scan.flush]
  | member owner =>
    have hhead : (markText (.member owner)).toList.head? ≠ some '&' := by
      rw [markText, head?_append owner.text_ne_empty]
      exact owner.text_head
    have hmark := (spells_mark (.member owner)).after_mark (m := .reference) (Or.inl hhead)
      (markText_ne_empty _) present
    simpa [Mark.behindAmp, Mark.tokens] using hmark

lemma Layout.prefixes_of_endsInMark (h : l.endsInMark = true) :
    ∃ last rest, l.inner.prefixes = ⟨last, []⟩ :: rest := by
  unfold endsInMark at h
  split at h
  · exact ⟨_, _, ‹_›⟩
  · cases h

lemma Lexed.mark (h : Lexed d l) (m : Mark) :
    Lexed ⟨EntryTree.attach d.before (markText m), d.after⟩ (l.mark m) where
  after := h.after
  last := by
    obtain ⟨c, hc, hmark⟩ := markText_last m
    refine ⟨c, ?_, by rwa [Layout.mark_endsInMark, if_pos rfl]⟩
    rw [h.attach_eq]
    split <;> rw [getLast?_append (markText_ne_empty m), hc]
  before := by
    intro done
    dsimp only
    rw [h.attach_eq]
    -- A mark is written behind a space or directly behind another mark, which may be `&`.
    cases hends : l.endsInMark with
    | false =>
      have hplain : ∀ rest, l.inner.prefixes ≠ ⟨.reference, []⟩ :: rest := by
        intro rest heq
        simp [Layout.endsInMark, heq] at hends
      rw [if_neg (by decide), Layout.mark_before hplain, String.append_assoc, Scan.run_append,
        h.before, (spells_mark m).after_space, List.append_assoc]
    | true =>
      obtain ⟨last, rest, hprefixes⟩ := Layout.prefixes_of_endsInMark hends
      rw [if_pos rfl, Scan.run_append, h.before, Layout.before_of_mark hprefixes,
        ← List.append_assoc]
      by_cases hamp : last = .reference
      · subst hamp
        rw [Mark.tokens, run_behind_amp, Layout.mark_before_amp m hprefixes, List.append_assoc]
      · have hplain : ∀ rest, l.inner.prefixes ≠ ⟨.reference, []⟩ :: rest := by
          intro rest' heq
          simp [hprefixes] at heq
          exact hamp heq.1
        rw [(spells_mark m).after_mark (Or.inr hamp) (markText_ne_empty m),
          Layout.mark_before hplain, Layout.before_of_mark hprefixes]
        simp

lemma Lexed.group (h : Lexed d l) (m : Mark) :
    Lexed ⟨d.before ++ " (" ++ markText m, ")" ++ d.after⟩ (l.group m) where
  after := by
    have hclose : Closes ")" [.rightParen] := fun s => Scan.run_symbol ')' (by simp)
    refine Or.inr ?_
    rcases h.after with ⟨htext, htokens⟩ | hcloses
    · have hnone : (l.group m).after = [.rightParen] := by
        simp only [Layout.after, List.append_eq_nil_iff] at htokens
        simp [Layout.group, Layout.after, Layout.outerAfter, Segment.after, htokens.2]
        simpa [Segment.after] using htokens.1
      simpa [hnone, htext] using hclose
    · simpa [Layout.group, Layout.after, Layout.outerAfter, Segment.after] using
        hclose.append hcloses
  last := by
    obtain ⟨c, hc, hmark⟩ := markText_last m
    refine ⟨c, ?_, ?_⟩
    · rw [getLast?_append (markText_ne_empty m), hc]
    · rwa [show (l.group m).endsInMark = true from rfl, if_pos rfl]
  before := by
    intro done
    have hopen : " (" = " " ++ String.singleton '(' := by decide
    rw [hopen, ← String.append_assoc, Scan.run_append, Scan.run_append, Scan.run_append, h.before,
      Scan.run_space, Scan.flush_after, Scan.run_symbol _ (by simp), spells_mark]
    simp [Scan.flush, Scan.symbol, Layout.group, Layout.before, Layout.outerBefore,
      Segment.before, Prefix.tokens, qualifierTokens]

/-- A qualifier behind a mark. -/
lemma Lexed.qualify (h : Lexed d l) (hends : l.endsInMark) (q : Qualifier) :
    Lexed ⟨EntryTree.attach d.before q.keyword, d.after⟩ (l.qualify q) := by
  unfold Layout.endsInMark at hends
  split at hends
  case h_2 => cases hends
  case h_1 last rest hprefixes =>
    have hmark : l.endsInMark = true := by simp [Layout.endsInMark, hprefixes]
    have hattach : EntryTree.attach d.before q.keyword = d.before ++ q.keyword := by
      rw [h.attach_eq, if_pos hmark]
    have hplain : (l.qualify q).endsInMark = false := by
      simp [Layout.endsInMark, Layout.qualify, Layout.addQualifier, hprefixes]
    rw [hattach]
    refine ⟨?_, h.after, ?_⟩
    · intro done
      rw [Scan.run_append, h.before, Layout.before_of_mark hprefixes, ← List.append_assoc,
        (spells_qualifier q).after_mark (Or.inl (wordChars_head q.wordChars)) q.ne_empty]
      simp [Layout.qualify, Layout.addQualifier, hprefixes, Layout.before, Layout.upTo,
        Segment.before, Prefix.tokens, qualifierTokens]
    · have hne : q.keyword.toList ≠ [] := fun h => q.ne_empty (String.toList_eq_nil_iff.mp h)
      refine ⟨q.keyword.toList.getLast hne, ?_, ?_⟩
      · rw [getLast?_append q.ne_empty, List.getLast?_eq_some_getLast hne]
      · rw [hplain, if_neg (by decide)]
        exact List.all_eq_true.mp q.wordChars _ (List.getLast_mem hne)

/-- A qualifier in front of everything. -/
lemma Lexed.precede (h : Lexed d l) (q : Qualifier) :
    Lexed ⟨q.keyword ++ " " ++ d.before, d.after⟩ (l.precede q) where
  after := h.after
  last := by
    obtain ⟨c, hc, hlast⟩ := h.last
    refine ⟨c, ?_, hlast⟩
    rw [getLast?_append, hc]
    rintro heq
    rw [heq] at hc
    cases hc
  before := by
    intro done
    rw [Scan.run_append, Scan.run_append, spells_qualifier, Scan.run_space, Scan.flush_after,
      h.before]
    simp [Layout.precede, Layout.before, qualifierTokens]

lemma Lexed.suffix (h : Lexed d l) {text : String} {s : Suffix} (hs : Closes text s.tokens) :
    Lexed ⟨d.before, text ++ d.after⟩ (l.suffix s) where
  before := h.before
  last := h.last
  after := by
    refine Or.inr ?_
    have htokens : (l.suffix s).after = s.tokens ++ l.after := by
      simp [Layout.suffix, Layout.after, Segment.after]
    rw [htokens]
    rcases h.after with ⟨htext, hnone⟩ | hcloses
    · simpa [htext, hnone] using hs
    · exact hs.append hcloses

lemma lexed_named (n : Name) : Lexed (.plain n.text) ⟨[], n, ⟨[], []⟩, []⟩ where
  before := by
    have hbefore : (⟨[], n, ⟨[], []⟩, []⟩ : Layout).before = n.tokens := by
      simp [Layout.before, Layout.outerBefore, Segment.before, qualifierTokens]
    rw [hbefore]
    exact spells_name n
  after := Or.inl ⟨rfl, rfl⟩
  last := n.text_last

/-- A whole declarator, on its own, is read as its tokens. -/
lemma Lexed.joined (h : Lexed d l) (done : List Token) :
    (Scan.run ⟨done, .nothing⟩ d.joined).flush = done ++ (l.before ++ l.after) := by
  rw [Declarator.joined, Scan.run_append, h.before]
  rcases h.after with ⟨htext, hnone⟩ | hcloses
  · rw [htext, hnone]
    simpa [Scan.run] using Scan.flush_after _
  · rw [hcloses, Scan.flush_after]
    simp [Scan.flush]

end HeaderRecovery.Cpp

namespace HeaderRecovery.Debug.Chain
open Cpp

lemma layout_endsInMark {c : Chain} (h : c.isIndirect) : c.layout.endsInMark := by
  cases c with
  | indirect mark target =>
    rw [layout]
    split
    · rfl
    · exact Layout.mark_endsInMark _ _
  | _ => cases h

/-- A list of parameters, each of which is read as its tokens. -/
lemma run_parameters {texts : List String} {parameters : List (Option Layout)}
    (h : List.Forall₂ (fun text p => ∀ done,
      (Scan.run ⟨done, .nothing⟩ text).flush = done ++ parameterTokens p) texts parameters)
    (done : List Token) :
    (Scan.run ⟨done, .nothing⟩ (", ".intercalate texts)).flush =
      done ++ parametersTokens parameters := by
  have hcomma : ", " = String.singleton ',' ++ " " := by decide
  induction h generalizing done with
  | nil => simp [Scan.run, Scan.flush, parametersTokens]
  | @cons text p texts parameters hfirst hrest ih =>
    cases hrest with
    | nil => simpa [parametersTokens] using hfirst done
    | cons hsecond hrest =>
      rw [String.intercalate_cons_of_ne_nil (by simp), hcomma, Scan.run_append, Scan.run_append,
        Scan.run_append, Scan.run_symbol _ (by simp), Scan.run_space, hfirst, Scan.flush_nothing,
        ← hcomma, ih]
      simp [Scan.symbol, parametersTokens]

lemma closes_parameters {texts : List String} {parameters : List (Option Layout)}
    (h : List.Forall₂ (fun text p => ∀ done,
      (Scan.run ⟨done, .nothing⟩ text).flush = done ++ parameterTokens p) texts parameters) :
    Closes ("(" ++ ", ".intercalate texts ++ ")") (parametersSuffix parameters).tokens := by
  intro s
  have hopen : "(" = String.singleton '(' := by decide
  have hclose : ")" = String.singleton ')' := by decide
  rw [hopen, hclose, Scan.run_append, Scan.run_append, Scan.run_symbol _ (by simp),
    Scan.run_symbol _ (by simp), run_parameters h]
  simp [Scan.symbol, parametersSuffix]

mutual

/-- The spelling of every chain is read as the tokens of its layout. -/
theorem lexed : ∀ c : Chain, Lexed c.spell c.layout
  | named name => by
    rw [spell, layout]
    exact lexed_named name
  | indirect mark target => by
    have htarget := lexed target
    rw [spell, layout]
    split
    · exact htarget.group mark
    · exact htarget.mark mark
  | qualified q inner => by
    have hinner := lexed inner
    rw [spell, layout]
    split
    · exact hinner.qualify (layout_endsInMark ‹_›) q
    · exact hinner.precede q
  | array bound element => by
    have helement := lexed element
    rw [spell, layout]
    exact helement.suffix (closes_bound bound)
  | function parameters result => by
    have hresult := lexed result
    have hparameters := lexedParameters parameters
    rw [spell, layout]
    exact hresult.suffix (closes_parameters hparameters)

theorem lexedParameters : ∀ parameters : List (Option Chain),
    List.Forall₂ (fun text p => ∀ done,
      (Scan.run ⟨done, .nothing⟩ text).flush = done ++ parameterTokens p)
      (spellParameters parameters) (layouts parameters)
  | [] => .nil
  | none :: rest => by
    rw [spellParameters, layouts]
    refine .cons (fun done => ?_) (lexedParameters rest)
    rw [Scan.run_dots]
    rfl
  | some c :: rest => by
    rw [spellParameters, layouts]
    exact .cons (fun done => (lexed c).joined done) (lexedParameters rest)

end

/-- Declaring a name puts it where the two halves of a layout meet. -/
lemma tokens_declare (c : Chain) (x : Identifier) :
    tokens (c.spell.declare x.text) = c.layout.before ++ .word x.text :: c.layout.after := by
  have h := c.lexed
  have hne : c.spell.before ≠ "" := by
    intro heq
    obtain ⟨last, hlast, -⟩ := h.last
    rw [heq] at hlast
    cases hlast
  have hx := spells_word x.wordChars x.ne_empty
  have hbehind : (Scan.after (c.layout.before ++ [Token.word x.text])).run c.spell.after =
      Scan.after (c.layout.before ++ [Token.word x.text]) ∧ c.layout.after = [] ∨
      (Scan.after (c.layout.before ++ [Token.word x.text])).run c.spell.after =
        ⟨c.layout.before ++ Token.word x.text :: c.layout.after, .nothing⟩ := by
    rcases h.after with ⟨htext, hnone⟩ | hcloses
    · rw [htext]
      exact Or.inl ⟨rfl, hnone⟩
    · rw [hcloses, Scan.flush_after]
      simp
  have hname : Scan.run ⟨[], .nothing⟩
      (if c.layout.endsInMark then c.spell.before ++ x.text
        else c.spell.before ++ " " ++ x.text) =
      Scan.after (c.layout.before ++ [Token.word x.text]) := by
    cases hends : c.layout.endsInMark with
    | false =>
      rw [if_neg (by decide), String.append_assoc, Scan.run_append, h.before, hx.after_space]
      rfl
    | true =>
      unfold Layout.endsInMark at hends
      split at hends
      · rename_i m rest hprefixes
        rw [if_pos rfl, Scan.run_append, h.before, Layout.before_of_mark hprefixes,
          ← List.append_assoc, hx.after_mark (Or.inl (wordChars_head x.wordChars)) x.ne_empty]
        simp
      · cases hends
  have hdeclare : c.spell.declare x.text =
      (if c.layout.endsInMark then c.spell.before ++ x.text
        else c.spell.before ++ " " ++ x.text) ++ c.spell.after := by
    unfold Declarator.declare
    rw [if_neg x.ne_empty, h.endsIn (by simp) (by simp [isWordChar])]
    cases c.layout.endsInMark <;> simp [hne]
  rw [tokens, hdeclare, Scan.run_append, hname]
  rcases hbehind with ⟨hrun, hnone⟩ | hrun
  · rw [hrun, Scan.flush_after, hnone]
  · rw [hrun]
    rfl

end HeaderRecovery.Debug.Chain
