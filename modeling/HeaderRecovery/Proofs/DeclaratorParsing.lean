import HeaderRecovery.Proofs.DeclaratorLayout

/-!
What a layout declares. Its tokens are read back, segment by segment, as the layers it has; the
segments need not be those of the type that was spelled.
-/
namespace HeaderRecovery.Cpp

/-! ### Names, qualifiers and marks -/

lemma Identifier.ofWord?_text (i : Identifier) : Identifier.ofWord? i.text = some i := by
  unfold Identifier.ofWord?
  rw [dif_pos i.plain]

lemma Identifier.not_qualifier (i : Identifier) : Qualifier.ofWord? i.text = none := by
  have h := i.plain
  simp only [isIdentifier, Bool.and_eq_true] at h
  exact Option.isNone_iff_eq_none.mp h.1.2

lemma Qualifier.ofWord?_keyword (q : Qualifier) : Qualifier.ofWord? q.keyword = some q := by
  cases q <;> rfl

/-- Tokens that neither go on with a name nor begin with a qualifier. -/
structure Plain (ts : List Token) : Prop where
  colons : ∀ tail, ts ≠ .colons :: tail
  word : ∀ w tail, ts = .word w :: tail → Qualifier.ofWord? w = none

lemma readQualifiers_append (qs : List Qualifier) {rest : List Token} (h : Plain rest) :
    readQualifiers (qualifierTokens qs ++ rest) = (qs, rest) := by
  induction qs with
  | nil =>
    cases rest with
    | nil => rfl
    | cons token tail =>
      cases token with
      | word w => simp [qualifierTokens, readQualifiers, h.word w tail rfl]
      | _ => rfl
  | cons q qs ih =>
    have hcons : qualifierTokens (q :: qs) = .word q.keyword :: qualifierTokens qs := rfl
    rw [hcons, List.cons_append, readQualifiers, q.ofWord?_keyword, ih]

lemma Name.tokens_cons (scope : Identifier) (scopes : List Identifier) (last : Identifier) :
    Name.tokens ⟨scope :: scopes, last⟩ =
      .word scope.text :: .colons :: Name.tokens ⟨scopes, last⟩ := by
  simp [Name.tokens]

/-- A name begins with a word. -/
lemma Name.tokens_eq (n : Name) :
    ∃ (first : Identifier) (tail : List Token), n.tokens = .word first.text :: tail := by
  obtain ⟨scopes, last⟩ := n
  cases scopes with
  | nil => exact ⟨last, [], rfl⟩
  | cons scope scopes => exact ⟨scope, _, Name.tokens_cons scope scopes last⟩

lemma readName_under (scope : Identifier) (n : Name) (rest : List Token) :
    readName (.word scope.text :: .colons :: (n.tokens ++ rest)) =
      (readName (n.tokens ++ rest)).map fun read => (read.1.under scope, read.2) := by
  obtain ⟨first, tail, hfirst⟩ := n.tokens_eq
  rw [hfirst, List.cons_append, readName, scope.ofWord?_text]
  cases readName (.word first.text :: (tail ++ rest)) <;> rfl

lemma readOwner_under (scope : Identifier) (n : Name) (rest : List Token) :
    readOwner (.word scope.text :: .colons :: (n.tokens ++ rest)) =
      (readOwner (n.tokens ++ rest)).map fun read => (read.1.under scope, read.2) := by
  obtain ⟨first, tail, hfirst⟩ := n.tokens_eq
  rw [hfirst, List.cons_append, readOwner, scope.ofWord?_text]
  cases readOwner (.word first.text :: (tail ++ rest)) <;> rfl

lemma readName_append (n : Name) {rest : List Token} (h : ∀ tail, rest ≠ .colons :: tail) :
    readName (n.tokens ++ rest) = some (n, rest) := by
  obtain ⟨scopes, last⟩ := n
  induction scopes with
  | nil =>
    have hlast : readName (.word last.text :: rest) = some (⟨[], last⟩, rest) := by
      cases rest with
      | nil => simp [readName, last.ofWord?_text]
      | cons token tail =>
        cases token with
        | colons => exact absurd rfl (h tail)
        | _ => simp [readName, last.ofWord?_text]
    exact hlast
  | cons scope scopes ih =>
    rw [Name.tokens_cons, List.cons_append, List.cons_append, readName_under, ih]
    rfl

/-- A name that no `::` follows is not the class of a pointer to member. -/
lemma readOwner_append_none (n : Name) {rest : List Token} (h : ∀ tail, rest ≠ .colons :: tail) :
    readOwner (n.tokens ++ rest) = none := by
  obtain ⟨scopes, last⟩ := n
  induction scopes with
  | nil =>
    have hlast : readOwner (.word last.text :: rest) = none := by
      cases rest with
      | nil => rfl
      | cons token tail =>
        cases token with
        | colons => exact absurd rfl (h tail)
        | _ => rfl
    exact hlast
  | cons scope scopes ih =>
    rw [Name.tokens_cons, List.cons_append, List.cons_append, readOwner_under, ih]
    rfl

lemma readOwner_append (n : Name) (rest : List Token) :
    readOwner (n.tokens ++ .colons :: .star :: rest) = some (n, rest) := by
  obtain ⟨scopes, last⟩ := n
  induction scopes with
  | nil =>
    have hlast : readOwner (.word last.text :: .colons :: .star :: rest) =
        some (⟨[], last⟩, rest) := by simp [readOwner, last.ofWord?_text]
    exact hlast
  | cons scope scopes ih =>
    rw [Name.tokens_cons, List.cons_append, List.cons_append, readOwner_under, ih]
    rfl

lemma readMark_append (m : Mark) (rest : List Token) :
    readMark (m.tokens ++ rest) = some (m, rest) := by
  cases m with
  | member owner =>
    obtain ⟨first, tail, hfirst⟩ := owner.tokens_eq
    have howner := readOwner_append owner rest
    simp only [Mark.tokens, List.append_assoc, List.cons_append, List.nil_append]
    rw [hfirst] at howner ⊢
    simp only [List.cons_append] at howner ⊢
    rw [readMark, howner]
    · rfl
    all_goals simp
  | _ => rfl

lemma Mark.plain (m : Mark) (rest : List Token) : Plain (m.tokens ++ rest) := by
  cases m with
  | member owner =>
    obtain ⟨first, tail, hfirst⟩ := owner.tokens_eq
    simp only [Mark.tokens, hfirst]
    refine ⟨by simp, ?_⟩
    intro w more heq
    cases heq
    exact first.not_qualifier
  | _ => exact ⟨by simp [Mark.tokens], by simp [Mark.tokens]⟩

/-! ### Suffixes -/

/-- Where a declarator has ended. -/
inductive Ends : List Token → Prop
  | nil : Ends []
  | comma (tail : List Token) : Ends (.comma :: tail)
  | rightParen (tail : List Token) : Ends (.rightParen :: tail)

/-- Where a declarator has ended but for its suffixes. -/
inductive Quiet : List Token → Prop
  | ends {ts : List Token} (h : Ends ts) : Quiet ts
  | bound (tail : List Token) : Quiet (.leftBracket :: tail)
  | parameters {tail : List Token} (h : readMark tail = none) : Quiet (.leftParen :: tail)

lemma Quiet.plain {ts : List Token} (h : Quiet ts) : Plain ts := by
  constructor <;> rcases h with (_ | _ | _) | _ | _ <;> simp

/-- A suffix that is read as the layer it stands for, whatever follows. -/
structure Suffix.Reads (s : Suffix) : Prop where
  quiet : ∀ rest, Quiet (s.tokens ++ rest)
  nonempty : s.tokens ≠ []
  behind : ∀ qs mark, s.layer ≠ .indirect qs mark
  reads : ∀ fuel rest, 3 * (s.tokens ++ rest).length ≤ fuel →
    readSuffixes (fuel + 1) (s.tokens ++ rest) =
      (readSuffixes fuel rest).map fun r => (s.layer :: r.1, r.2)

lemma boundSuffix_reads (bound : Option Nat) : (boundSuffix bound).Reads := by
  cases bound with
  | none =>
    refine ⟨fun rest => .bound _, by simp [boundSuffix], by simp [boundSuffix], ?_⟩
    intro fuel rest _
    simp only [boundSuffix, List.cons_append, List.nil_append, readSuffixes]
    cases readSuffixes fuel rest <;> rfl
  | some n =>
    refine ⟨fun rest => .bound _, by simp [boundSuffix], by simp [boundSuffix], ?_⟩
    intro fuel rest _
    have hnumber : (toString n).toNat? = some n := by
      rw [Nat.toString_eq_repr, Nat.toNat?_repr]
    simp only [boundSuffix, List.cons_append, List.nil_append, readSuffixes, hnumber]
    cases readSuffixes fuel rest <;> rfl

lemma readSuffixes_ends {rest : List Token} (h : Ends rest) (fuel : Nat) :
    readSuffixes (fuel + 1) rest = some ([], rest) := by
  cases h <;> rfl

lemma readSuffixes_append {suffixes : List Suffix} (h : ∀ s ∈ suffixes, s.Reads)
    {rest : List Token} (hrest : Ends rest) {fuel : Nat}
    (hfuel : 3 * (suffixes.flatMap Suffix.tokens ++ rest).length + 1 ≤ fuel) :
    readSuffixes fuel (suffixes.flatMap Suffix.tokens ++ rest) =
      some (suffixes.map Suffix.layer, rest) := by
  obtain ⟨fuel, rfl⟩ := Nat.exists_eq_add_one_of_ne_zero (show fuel ≠ 0 by omega)
  induction suffixes generalizing fuel with
  | nil => exact readSuffixes_ends hrest fuel
  | cons s suffixes ih =>
    have hs := h s List.mem_cons_self
    have hlength : 0 < s.tokens.length := List.length_pos_iff.mpr hs.nonempty
    simp only [List.flatMap_cons, List.append_assoc, List.length_append] at hfuel ⊢
    obtain ⟨fuel, rfl⟩ := Nat.exists_eq_add_one_of_ne_zero (show fuel ≠ 0 by omega)
    rw [hs.reads (fuel + 1) _ (by simp only [List.length_append]; omega),
      ih (fun s' hs' => h s' (List.mem_cons_of_mem _ hs')) fuel
        (by simp only [List.length_append]; omega)]
    rfl

lemma quiet_suffixes {suffixes : List Suffix} (h : ∀ s ∈ suffixes, s.Reads)
    {rest : List Token} (hrest : Ends rest) : Quiet (suffixes.flatMap Suffix.tokens ++ rest) := by
  cases suffixes with
  | nil => exact .ends hrest
  | cons s suffixes =>
    rw [List.flatMap_cons, List.append_assoc]
    exact (h s List.mem_cons_self).quiet _

/-! ### Segments -/

section Steps

variable {fuel : Nat} {input more : List Token}

lemma readDeclarator_mark {mark : Mark} (h : readMark input = some (mark, more)) :
    readDeclarator (fuel + 1) input =
      (readDeclarator fuel (readQualifiers more).2).map fun r =>
        ((r.1.1 ++ [.indirect (readQualifiers more).1 mark], r.1.2), r.2) := by
  conv_lhs => unfold readDeclarator
  rw [h]
  dsimp only
  cases readDeclarator fuel (readQualifiers more).2 <;> rfl

/-- Behind the marks a parenthesis groups exactly if a mark follows it. -/
lemma readDeclarator_group (h : (readMark input).isSome) {layers : List Layer}
    {declared : Option Identifier} {rest : List Token}
    (hinner : readDeclarator fuel input = some ((layers, declared), .rightParen :: rest)) :
    readDeclarator (fuel + 1) (.leftParen :: input) =
      (readSuffixes fuel rest).map fun r => ((layers ++ r.1, declared), r.2) := by
  conv_lhs => unfold readDeclarator
  have hparen : readMark (.leftParen :: input) = none := rfl
  rw [hparen]
  simp only [h, if_true, hinner]
  cases readSuffixes fuel rest <;> rfl

lemma readDeclarator_quiet (h : Quiet input) :
    readDeclarator (fuel + 1) input =
      (readSuffixes fuel input).map fun r => ((r.1, none), r.2) := by
  conv_lhs => unfold readDeclarator
  rcases h with (_ | _ | _) | _ | hmark
  case parameters tail =>
    have hparen : readMark (.leftParen :: tail) = none := rfl
    rw [hparen]
    simp only [hmark, Option.isSome_none, Bool.false_eq_true, if_false]
    cases readSuffixes fuel (.leftParen :: tail) <;> rfl
  case ends.nil => cases hread : readSuffixes fuel [] <;> simp [readMark, readOwner, hread]
  all_goals
    simp only [readMark, readOwner, Option.map_none]
    cases readSuffixes fuel _ <;> rfl

lemma readDeclarator_name {x : Identifier} (h : ∀ tail, input ≠ .colons :: tail) :
    readDeclarator (fuel + 1) (.word x.text :: input) =
      (readSuffixes fuel input).map fun r => ((r.1, some x), r.2) := by
  have howner : readOwner (.word x.text :: input) = none := readOwner_append_none ⟨[], x⟩ h
  have hmark : readMark (.word x.text :: input) = none := by
    rw [readMark, howner]
    · rfl
    all_goals simp
  conv_lhs => unfold readDeclarator
  rw [hmark]
  simp only [x.ofWord?_text, Option.bind_eq_bind, Option.bind_some]
  cases readSuffixes fuel input <;> rfl

end Steps

/-- What stands where a declarator has its name, and the layers it brings along. -/
structure Core (core : List Token) (layers : List Layer) (declared : Option Identifier) :
    Prop where
  plain : ∀ ts, Quiet ts → Plain (core ++ ts)
  reads : ∀ fuel ts, Quiet ts → 3 * (core ++ ts).length + 1 ≤ fuel →
    ∀ suffixes rest, readSuffixes fuel ts = some (suffixes, rest) →
      readDeclarator (fuel + 1) (core ++ ts) = some ((layers ++ suffixes, declared), rest)

/-- A declarator need not declare a name. -/
lemma core_nil : Core [] [] none where
  plain _ h := h.plain
  reads fuel ts h _ suffixes rest hread := by
    rw [List.nil_append, readDeclarator_quiet h, hread]
    rfl

lemma core_name (x : Identifier) : Core [.word x.text] [] (some x) where
  plain ts _ := by
    refine ⟨by simp, ?_⟩
    intro w tail heq
    cases heq
    exact x.not_qualifier
  reads fuel ts h _ suffixes rest hread := by
    rw [List.singleton_append, readDeclarator_name h.plain.colons, hread]
    rfl

section Segments

variable {core : List Token} {layers : List Layer} {declared : Option Identifier}

/-- The marks in front of a core, in the order of the text. -/
lemma readPrefixes (h : Core core layers declared) (prefixes : List Prefix) {ts : List Token}
    (hts : Quiet ts) {suffixes : List Layer} {rest : List Token} {fuel : Nat}
    (hread : ∀ fuel, 3 * ts.length + 1 ≤ fuel → readSuffixes fuel ts = some (suffixes, rest))
    (hfuel : 3 * (prefixes.flatMap Prefix.tokens ++ core ++ ts).length + 2 ≤ fuel) :
    Plain (prefixes.flatMap Prefix.tokens ++ core ++ ts) ∧
      readDeclarator fuel (prefixes.flatMap Prefix.tokens ++ core ++ ts) =
        some ((layers ++ suffixes ++ (prefixes.map Prefix.layer).reverse, declared), rest) := by
  obtain ⟨fuel, rfl⟩ := Nat.exists_eq_add_one_of_ne_zero (show fuel ≠ 0 by omega)
  induction prefixes generalizing fuel with
  | nil =>
    simp only [List.flatMap_nil, List.nil_append, List.length_append, List.map_nil,
      List.reverse_nil, List.append_nil] at hfuel ⊢
    exact ⟨h.plain ts hts, h.reads fuel ts hts (by simp only [List.length_append]; omega) _ _
      (hread fuel (by omega))⟩
  | cons p prefixes ih =>
    obtain ⟨more, hmore⟩ : ∃ more, more = prefixes.flatMap Prefix.tokens ++ core ++ ts := ⟨_, rfl⟩
    have htokens : (p :: prefixes).flatMap Prefix.tokens ++ core ++ ts =
        p.mark.tokens ++ (qualifierTokens p.qualifiers ++ more) := by
      simp [Prefix.tokens, hmore]
    -- Each mark has a token, which pays for the call inside.
    have hlength : 0 < p.mark.tokens.length := by cases p.mark <;> simp [Mark.tokens]
    rw [htokens] at hfuel ⊢
    simp only [List.length_append] at hfuel
    refine ⟨p.mark.plain _, ?_⟩
    obtain ⟨fuel, rfl⟩ := Nat.exists_eq_add_one_of_ne_zero (show fuel ≠ 0 by omega)
    obtain ⟨hplain, hinner⟩ := ih fuel (by rw [← hmore]; omega)
    rw [← hmore] at hplain hinner
    rw [readDeclarator_mark (readMark_append _ _), readQualifiers_append _ hplain, hinner]
    simp [Prefix.layer]

/-- One segment around a core. -/
lemma readSegment (h : Core core layers declared) (s : Segment)
    (hs : ∀ x ∈ s.suffixes, x.Reads) {rest : List Token} (hrest : Ends rest) (fuel : Nat)
    (hfuel : 3 * (s.before ++ core ++ (s.after ++ rest)).length + 2 ≤ fuel) :
    Plain (s.before ++ core ++ (s.after ++ rest)) ∧
      readDeclarator fuel (s.before ++ core ++ (s.after ++ rest)) =
        some ((layers ++ s.layers, declared), rest) := by
  have hread := readPrefixes h s.prefixes.reverse (quiet_suffixes hs hrest)
    (fun fuel hfuel => readSuffixes_append hs hrest hfuel) hfuel
  simpa [Segment.before, Segment.after, Segment.layers] using hread

/-- A segment in parentheses is a core again, if it begins with a mark. -/
lemma core_group (h : Core core layers declared) (s : Segment)
    (hs : ∀ x ∈ s.suffixes, x.Reads) (hmark : s.prefixes ≠ []) :
    Core (.leftParen :: (s.before ++ core ++ s.after) ++ [.rightParen]) (layers ++ s.layers)
      declared where
  plain ts _ := ⟨by simp, by simp⟩
  reads fuel ts _ hfuel suffixes rest hread := by
    have htokens : .leftParen :: (s.before ++ core ++ s.after) ++ [.rightParen] ++ ts =
        .leftParen :: (s.before ++ core ++ (s.after ++ .rightParen :: ts)) := by simp
    rw [htokens] at hfuel ⊢
    obtain ⟨-, hinner⟩ := readSegment h s hs (.rightParen ts) fuel
      (by simp only [List.length_cons] at hfuel; omega)
    have hopens : (readMark (s.before ++ core ++ (s.after ++ .rightParen :: ts))).isSome := by
      obtain ⟨last, p, hp⟩ := List.eq_nil_or_concat s.prefixes |>.resolve_left hmark
      simp [Segment.before, hp, Prefix.tokens, readMark_append]
    rw [readDeclarator_group hopens hinner, hread]
    rfl

end Segments

/-! ### Layouts -/

/-- Every segment in parentheses begins with a mark. -/
def Grouped : Segment → List Segment → Prop
  | _, [] => True
  | s, next :: rest => s.prefixes ≠ [] ∧ Grouped next rest

def Segment.Valid (s : Segment) : Prop := ∀ x ∈ s.suffixes, x.Reads

structure Layout.Valid (l : Layout) : Prop where
  inner : l.inner.Valid
  outer : ∀ s ∈ l.outer, s.Valid
  grouped : Grouped l.inner l.outer

/-- From the name outwards, every segment with its parentheses is a core of the next one. -/
lemma readNested {outer : List Segment} {inner : Segment} {core : List Token}
    {layers : List Layer} {declared : Option Identifier} (h : Core core layers declared)
    (hinner : inner.Valid) (houter : ∀ s ∈ outer, s.Valid) (hgrouped : Grouped inner outer)
    {rest : List Token} (hrest : Ends rest) (fuel : Nat)
    (hfuel : 3 * (Layout.outerBefore outer ++ inner.before ++ core ++
      (inner.after ++ Layout.outerAfter outer ++ rest)).length + 2 ≤ fuel) :
    Plain (Layout.outerBefore outer ++ inner.before ++ core ++
        (inner.after ++ Layout.outerAfter outer ++ rest)) ∧
      readDeclarator fuel (Layout.outerBefore outer ++ inner.before ++ core ++
          (inner.after ++ Layout.outerAfter outer ++ rest)) =
        some ((layers ++ inner.layers ++ outer.flatMap Segment.layers, declared), rest) := by
  induction outer generalizing inner core layers with
  | nil =>
    simp only [Layout.outerBefore, Layout.outerAfter, List.nil_append, List.append_nil,
      List.flatMap_nil] at hfuel ⊢
    exact readSegment h inner hinner hrest fuel hfuel
  | cons next outer ih =>
    -- The inner segment with its parentheses is the core of the next one.
    have htokens : Layout.outerBefore (next :: outer) ++ inner.before ++ core ++
          (inner.after ++ Layout.outerAfter (next :: outer) ++ rest) =
        Layout.outerBefore outer ++ next.before ++
          (.leftParen :: (inner.before ++ core ++ inner.after) ++ [.rightParen]) ++
          (next.after ++ Layout.outerAfter outer ++ rest) := by
      simp [Layout.outerBefore, Layout.outerAfter]
    rw [htokens] at hfuel ⊢
    obtain ⟨hmark, hnext⟩ := hgrouped
    have hread := ih (core_group h inner hinner hmark) (houter next List.mem_cons_self)
      (fun s hs => houter s (List.mem_cons_of_mem _ hs)) hnext hfuel
    simpa using hread

/-- The tokens of a name that may be missing. -/
def declaredTokens : Option Identifier → List Token
  | some x => [.word x.text]
  | none => []

lemma core_declared (declared : Option Identifier) :
    Core (declaredTokens declared) [] declared := by
  cases declared with
  | none => exact core_nil
  | some x => exact core_name x

/-- The tokens of a layout are read as its type. -/
lemma readDeclaration_layout {l : Layout} (h : l.Valid) (declared : Option Identifier)
    {rest : List Token} (hrest : Ends rest) (fuel : Nat)
    (hfuel : 3 * (l.before ++ declaredTokens declared ++ (l.after ++ rest)).length + 1 ≤ fuel) :
    readDeclaration fuel (l.before ++ declaredTokens declared ++ (l.after ++ rest)) =
      some ((l.type, declared), rest) := by
  obtain ⟨fuel, rfl⟩ := Nat.exists_eq_add_one_of_ne_zero (show fuel ≠ 0 by omega)
  obtain ⟨declarator, hdeclarator⟩ : ∃ ts, ts = Layout.outerBefore l.outer ++ l.inner.before ++
      declaredTokens declared ++ (l.inner.after ++ Layout.outerAfter l.outer ++ rest) := ⟨_, rfl⟩
  have htokens : l.before ++ declaredTokens declared ++ (l.after ++ rest) =
      qualifierTokens l.lead ++ (l.base.tokens ++ declarator) := by
    simp [Layout.before, Layout.after, hdeclarator]
  have hlength : 0 < l.base.tokens.length := by simp [Name.tokens]
  rw [htokens] at hfuel ⊢
  simp only [List.length_append] at hfuel
  obtain ⟨hplain, hread⟩ := readNested (core_declared declared) h.inner h.outer h.grouped hrest
    fuel (by rw [← hdeclarator]; omega)
  rw [← hdeclarator] at hplain hread
  have hbase : Plain (l.base.tokens ++ declarator) := by
    obtain ⟨first, tail, hfirst⟩ := l.base.tokens_eq
    rw [hfirst]
    refine ⟨by simp, ?_⟩
    intro w more heq
    cases heq
    exact first.not_qualifier
  rw [readDeclaration]
  simp [readQualifiers_append _ hbase, readName_append _ hplain.colons, hread, Layout.type,
    Layout.layers]

/-! ### Parameters -/

lemma Layout.before_eq (l : Layout) : ∃ w more, l.before = .word w :: more := by
  cases hlead : l.lead with
  | nil =>
    obtain ⟨first, more, hfirst⟩ := l.base.tokens_eq
    exact ⟨first.text, _, by simp [before, hlead, qualifierTokens, hfirst]; rfl⟩
  | cons q qs => exact ⟨q.keyword, _, by simp [before, hlead, qualifierTokens]; rfl⟩

/-- A type does not begin like a pointer to member, so no parameter list looks like a group. -/
lemma Layout.readMark_none {l : Layout} (h : l.Valid) {rest : List Token} (hrest : Ends rest) :
    readMark (l.before ++ (l.after ++ rest)) = none := by
  have howner : readOwner (l.before ++ (l.after ++ rest)) = none := by
    cases hlead : l.lead with
    | nil =>
      obtain ⟨hplain, -⟩ := readNested core_nil h.inner h.outer h.grouped hrest _ (Nat.le_refl _)
      have hbase := readOwner_append_none l.base hplain.colons
      simpa [before, after, hlead, qualifierTokens] using hbase
    | cons q qs =>
      obtain ⟨w, more, hword⟩ : ∃ w more,
          qualifierTokens qs ++ l.base.tokens ++ outerBefore l.outer ++ l.inner.before ++
            (l.after ++ rest) = .word w :: more := by
        obtain ⟨w, more, hword⟩ := Layout.before_eq { l with lead := qs }
        refine ⟨w, more ++ (l.after ++ rest), ?_⟩
        have hbefore : qualifierTokens qs ++ l.base.tokens ++ outerBefore l.outer ++
            l.inner.before = .word w :: more := hword
        rw [hbefore, List.cons_append]
      have htokens : l.before ++ (l.after ++ rest) = .word q.keyword :: .word w :: more := by
        rw [← hword]
        simp [before, hlead, qualifierTokens]
      rw [htokens]
      rfl
  obtain ⟨w, more, hword⟩ := l.before_eq
  rw [hword, List.cons_append] at howner ⊢
  rw [readMark, howner]
  · rfl
  all_goals simp

/-- The tokens of a parameter are read as its type. -/
def ParameterReads (p : Option Layout) : Prop := ∀ l, p = some l → l.Valid

lemma readParameter_append {p : Option Layout} (h : ParameterReads p) {rest : List Token}
    (hrest : Ends rest) {fuel : Nat}
    (hfuel : 3 * (parameterTokens p ++ rest).length + 2 ≤ fuel) :
    readParameter fuel (parameterTokens p ++ rest) = some (p.map Layout.type, rest) := by
  obtain ⟨fuel, rfl⟩ := Nat.exists_eq_add_one_of_ne_zero (show fuel ≠ 0 by omega)
  cases p with
  | none => rfl
  | some l =>
    have htokens : parameterTokens (some l) ++ rest =
        l.before ++ declaredTokens none ++ (l.after ++ rest) := by
      simp [parameterTokens, declaredTokens]
    rw [htokens] at hfuel ⊢
    have hread := readDeclaration_layout (h l rfl) none hrest fuel (by omega)
    obtain ⟨w, more, hword⟩ := l.before_eq
    rw [readParameter, hread]
    · rfl
    · simp [hword]

lemma readParameters_append {parameters : List (Option Layout)} (hne : parameters ≠ [])
    (h : ∀ p ∈ parameters, ParameterReads p) (rest : List Token) (fuel : Nat)
    (hfuel : 3 * (parametersTokens parameters ++ .rightParen :: rest).length + 3 ≤ fuel) :
    readParameters fuel (parametersTokens parameters ++ .rightParen :: rest) =
      some (parameters.map (Option.map Layout.type), rest) := by
  obtain ⟨fuel, rfl⟩ := Nat.exists_eq_add_one_of_ne_zero (show fuel ≠ 0 by omega)
  induction parameters generalizing fuel with
  | nil => exact absurd rfl hne
  | cons p parameters ih =>
    have hp := h p List.mem_cons_self
    cases parameters with
    | nil =>
      simp only [parametersTokens] at hfuel ⊢
      rw [readParameters, readParameter_append hp (.rightParen rest) (by omega)]
      rfl
    | cons next parameters =>
      simp only [parametersTokens, List.append_assoc, List.cons_append, List.length_append,
        List.length_cons] at hfuel ih ⊢
      obtain ⟨fuel, rfl⟩ := Nat.exists_eq_add_one_of_ne_zero (show fuel ≠ 0 by omega)
      rw [readParameters, readParameter_append hp (.comma _)
        (by simp only [List.length_append, List.length_cons]; omega)]
      dsimp only
      rw [ih (by simp) (fun q hq => h q (List.mem_cons_of_mem _ hq)) fuel (by omega)]
      rfl

lemma parametersTokens_cons (p : Option Layout) (parameters : List (Option Layout))
    (rest : List Token) : ∃ more, Ends more ∧
      parametersTokens (p :: parameters) ++ .rightParen :: rest = parameterTokens p ++ more := by
  cases parameters with
  | nil => exact ⟨_, .rightParen rest, rfl⟩
  | cons next parameters =>
    exact ⟨.comma :: (parametersTokens (next :: parameters) ++ .rightParen :: rest), .comma _,
      by simp [parametersTokens]⟩

lemma parametersSuffix_reads {parameters : List (Option Layout)}
    (h : ∀ p ∈ parameters, ParameterReads p) : (parametersSuffix parameters).Reads where
  nonempty := by simp [parametersSuffix]
  behind := by simp [parametersSuffix]
  quiet rest := by
    have htokens : (parametersSuffix parameters).tokens ++ rest =
        .leftParen :: (parametersTokens parameters ++ .rightParen :: rest) := by
      simp [parametersSuffix]
    rw [htokens]
    apply Quiet.parameters
    cases parameters with
    | nil => rfl
    | cons p parameters =>
      obtain ⟨more, hends, hmore⟩ := parametersTokens_cons p parameters rest
      rw [hmore]
      cases p with
      | none => rfl
      | some l =>
        have hnone := Layout.readMark_none (h (some l) List.mem_cons_self l rfl) hends
        simpa [parameterTokens] using hnone
  reads fuel rest hfuel := by
    have htokens : (parametersSuffix parameters).tokens ++ rest =
        .leftParen :: (parametersTokens parameters ++ .rightParen :: rest) := by
      simp [parametersSuffix]
    rw [htokens] at hfuel ⊢
    cases parameters with
    | nil =>
      simp only [parametersTokens, List.nil_append]
      rw [readSuffixes]
      cases readSuffixes fuel rest <;> rfl
    | cons p parameters =>
      have hread := readParameters_append (by simp) h rest fuel
        (by simp only [List.length_cons] at hfuel; omega)
      have hfirst : ∀ more, parametersTokens (p :: parameters) ++ .rightParen :: rest ≠
          .rightParen :: more := by
        intro tail
        obtain ⟨more, -, hmore⟩ := parametersTokens_cons p parameters rest
        rw [hmore]
        cases p with
        | none => simp [parameterTokens]
        | some l =>
          obtain ⟨w, before, hword⟩ := l.before_eq
          simp [parameterTokens, hword]
      rw [readSuffixes, hread]
      · simp only [Option.bind_eq_bind, Option.bind_some]
        cases readSuffixes fuel rest <;> rfl
      · exact hfirst

/-! ### The layout of a chain -/

namespace Layout.Valid

variable {l : Layout}

lemma regroup {inner inner' : Segment} {outer : List Segment} (h : Grouped inner outer)
    (hmark : inner.prefixes ≠ [] → inner'.prefixes ≠ []) : Grouped inner' outer := by
  cases outer with
  | nil => trivial
  | cons next outer => exact ⟨hmark h.1, h.2⟩

lemma mark (h : l.Valid) (m : Mark) : (l.mark m).Valid where
  inner := h.inner
  outer := h.outer
  grouped := by
    refine regroup h.grouped fun _ => ?_
    obtain ⟨last, rest, heq⟩ := addMark_eq m l.inner.prefixes
    simp [Layout.mark, heq]

lemma group (h : l.Valid) (m : Mark) : (l.group m).Valid where
  inner := by simp [Layout.group, Segment.Valid]
  outer := List.forall_mem_cons.mpr ⟨h.inner, h.outer⟩
  grouped := ⟨by simp [Layout.group], h.grouped⟩

lemma qualify (h : l.Valid) (q : Qualifier) : (l.qualify q).Valid where
  inner := h.inner
  outer := h.outer
  grouped := by
    refine regroup h.grouped fun hmark => ?_
    obtain ⟨p, rest, hp⟩ := List.exists_cons_of_ne_nil hmark
    simp [Layout.qualify, addQualifier, hp]

lemma precede (h : l.Valid) (q : Qualifier) : (l.precede q).Valid :=
  ⟨h.inner, h.outer, h.grouped⟩

lemma suffix (h : l.Valid) {s : Suffix} (hs : s.Reads) : (l.suffix s).Valid where
  inner := List.forall_mem_cons.mpr ⟨hs, h.inner⟩
  outer := h.outer
  grouped := regroup h.grouped id

end Layout.Valid

end HeaderRecovery.Cpp

namespace HeaderRecovery.Debug.Chain
open Cpp

mutual

lemma layout_valid : ∀ c : Chain, c.layout.Valid
  | named name => by
    rw [layout]
    exact ⟨by simp [Segment.Valid], by simp, trivial⟩
  | indirect mark target => by
    have htarget := layout_valid target
    rw [layout]
    split
    · exact htarget.group mark
    · exact htarget.mark mark
  | qualified q inner => by
    have hinner := layout_valid inner
    rw [layout]
    split
    · exact hinner.qualify q
    · exact hinner.precede q
  | array bound element => by
    have helement := layout_valid element
    rw [layout]
    exact helement.suffix (boundSuffix_reads bound)
  | function parameters result => by
    have hresult := layout_valid result
    have hparameters := layouts_valid parameters
    rw [layout]
    exact hresult.suffix (parametersSuffix_reads hparameters)

lemma layouts_valid : ∀ parameters : List (Option Chain),
    ∀ p ∈ layouts parameters, ParameterReads p
  | [] => by simp [layouts]
  | none :: rest => by
    rw [layouts, List.forall_mem_cons]
    exact ⟨by simp [ParameterReads], layouts_valid rest⟩
  | some c :: rest => by
    have hc := layout_valid c
    rw [layouts, List.forall_mem_cons]
    exact ⟨by rintro l ⟨⟩; exact hc, layouts_valid rest⟩

end

/-- The spelling of a chain, declaring a name, is read back as the type of its layout. -/
lemma readBack_declare (c : Chain) (x : Identifier) :
    readBack (c.spell.declare x.text) = some (x, c.layout.type) := by
  have htokens : tokens (c.spell.declare x.text) =
      c.layout.before ++ declaredTokens (some x) ++ (c.layout.after ++ []) := by
    rw [tokens_declare]
    simp [declaredTokens]
  have hread := readDeclaration_layout c.layout_valid (some x) .nil _ (Nat.le_refl _)
  rw [← htokens] at hread
  rw [readBack, hread]

end HeaderRecovery.Debug.Chain
