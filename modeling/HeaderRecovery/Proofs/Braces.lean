import Mathlib
import HeaderRecovery.Constant
import HeaderRecovery.Declaration.Reading

/-!
Reading a C++ text for its braces. The reader counts the braces that are open and passes over
character literals, in which a brace is nothing but a character. Texts without braces and quotes
and whole literals leave it as it was; so does a text cut into lines that are moved to the right.
-/
namespace HeaderRecovery.Text

/-- Where a reader stands: in the code, in a character literal, or behind a backslash in one. -/
inductive Place where
  | code
  | literal
  | escape
  deriving DecidableEq, Repr

/-- Reads one character with `n` braces open. A brace is only closed if one is open, and a literal
ends on its line. -/
def readChar : Nat × Place → Char → Option (Nat × Place)
  | (n, .code), c =>
    if c = '\x7b' then some (n + 1, .code)
    else if c = '\x7d' then if n = 0 then none else some (n - 1, .code)
    else if c = '\'' then some (n, .literal)
    else some (n, .code)
  | (n, .literal), c =>
    if c = '\n' then none
    else if c = '\\' then some (n, .escape)
    else if c = '\'' then some (n, .code)
    else some (n, .literal)
  | (n, .escape), c => if c = '\n' then none else some (n, .literal)

def read (state : Nat × Place) (cs : List Char) : Option (Nat × Place) := cs.foldlM readChar state

/-- Every brace that is closed was open before, and none is open in the end. -/
def Balanced (text : String) : Prop := read (0, .code) text.toList = some (0, .code)

instance (text : String) : Decidable (Balanced text) :=
  inferInstanceAs (Decidable (read (0, .code) text.toList = some (0, .code)))

/-- Behind `m` open braces, whatever is open around them, the text leaves `n` of them. -/
def Reads (m n : Nat) (text : String) : Prop :=
  ∀ outer, read (outer + m, .code) text.toList = some (outer + n, .code)

/-- A text that closes what it opens and touches nothing around it. -/
def Neutral (text : String) : Prop := Reads 0 0 text

def isPlain (c : Char) : Bool := c ≠ '\x7b' && c ≠ '\x7d' && c ≠ '\''

/-- A text without braces and single quotes. -/
def Plain (text : String) : Prop := text.toList.all isPlain

instance (text : String) : Decidable (Plain text) :=
  inferInstanceAs (Decidable (text.toList.all isPlain = true))

/-- A character that a literal may hold as it is. -/
def isInner (c : Char) : Bool := c ≠ '\n' && c ≠ '\\' && c ≠ '\''

lemma Neutral.balanced {text : String} (h : Neutral text) : Balanced text := h 0

lemma read_append (state : Nat × Place) (cs ds : List Char) :
    read state (cs ++ ds) = (read state cs).bind fun s => read s ds := List.foldlM_append

variable {a b text : String} {k m n : Nat}

lemma Reads.append (ha : Reads k m a) (hb : Reads m n b) : Reads k n (a ++ b) := fun outer => by
  rw [String.toList_append, read_append, ha outer, Option.bind_some, hb outer]

/-- More braces may be open around a text. -/
lemma Reads.deeper (h : Reads m n text) (k : Nat) : Reads (k + m) (k + n) text := fun outer => by
  rw [← Nat.add_assoc, ← Nat.add_assoc]
  exact h (outer + k)

lemma Neutral.at (h : Neutral text) (n : Nat) : Reads n n text := Reads.deeper h n

lemma Neutral.append (ha : Neutral a) (hb : Neutral b) : Neutral (a ++ b) := Reads.append ha hb

lemma neutral_empty : Neutral "" := fun _ => rfl

/-! Plain texts -/

lemma plain_iff : Plain text ↔ ∀ c ∈ text.toList, isPlain c := List.all_eq_true

lemma plain_ofList {cs : List Char} : Plain (String.ofList cs) ↔ ∀ c ∈ cs, isPlain c := by
  rw [plain_iff, String.toList_ofList]

lemma Plain.neutral (h : Plain text) : Neutral text := fun outer => by
  have hread : ∀ {cs : List Char}, (∀ c ∈ cs, isPlain c) →
      read (outer + 0, .code) cs = some (outer + 0, .code) := by
    intro cs hcs
    induction cs with
    | nil => rfl
    | cons c cs ih =>
      have hc := hcs c List.mem_cons_self
      simp only [isPlain, Bool.and_eq_true, decide_eq_true_eq] at hc
      rw [read, List.foldlM_cons, readChar, if_neg hc.1.1, if_neg hc.1.2, if_neg hc.2]
      exact ih fun d hd => hcs d (List.mem_cons_of_mem c hd)
  exact hread (plain_iff.mp h)

lemma Plain.append (ha : Plain a) (hb : Plain b) : Plain (a ++ b) := by
  rw [Plain, String.toList_append, List.all_append, ha, hb]
  rfl

lemma Plain.trimmedEnd (h : Plain text) : Plain (trimmedEnd text) := by
  refine plain_ofList.mpr fun c hc => plain_iff.mp h c ?_
  rw [trimEnd, dropEndWhile, List.mem_reverse] at hc
  exact List.mem_reverse.mp ((List.dropWhile_suffix _).subset hc)

/-- What texts have in common with all that is put together from them. -/
structure Composes (P : String → Prop) : Prop where
  empty : P ""
  append : ∀ {a b}, P a → P b → P (a ++ b)

namespace Composes

variable {P : String → Prop} {texts : List String}

lemma join (hP : Composes P) (h : ∀ x ∈ texts, P x) : P (String.join texts) := by
  induction texts with
  | nil => exact hP.empty
  | cons x rest ih =>
    rw [String.join_cons]
    exact hP.append (h x List.mem_cons_self) (ih fun y hy => h y (List.mem_cons_of_mem x hy))

lemma intercalate (hP : Composes P) {separator : String} (hs : P separator)
    (h : ∀ x ∈ texts, P x) : P (separator.intercalate texts) := by
  induction texts with
  | nil => exact hP.empty
  | cons x rest ih =>
    have hrest := ih fun y hy => h y (List.mem_cons_of_mem x hy)
    have hx := h x List.mem_cons_self
    by_cases hnil : rest = []
    · subst hnil
      simpa using hx
    · rw [String.intercalate_cons_of_ne_nil hnil]
      exact hP.append (hP.append hx hs) hrest

end Composes

lemma neutral_composes : Composes Neutral := ⟨neutral_empty, Neutral.append⟩

lemma plain_composes : Composes Plain := ⟨rfl, Plain.append⟩

/-! Numbers -/

lemma mem_toDigits {base value : Nat} {c : Char} (hbase : 1 < base)
    (hc : c ∈ Nat.toDigits base value) : ∃ d < base, c = Nat.digitChar d := by
  induction value using Nat.strong_induction_on with
  | _ value ih =>
    rw [Nat.toDigits_eq_if hbase] at hc
    split at hc
    · rename_i hlt
      exact ⟨value, hlt, List.mem_singleton.mp hc⟩
    · rename_i hle
      rcases List.mem_append.mp hc with hc | hc
      · exact ih (value / base) (Nat.div_lt_self (by omega) hbase) hc
      · exact ⟨value % base, Nat.mod_lt _ (by omega), List.mem_singleton.mp hc⟩

lemma plain_toDigits (value : Nat) : ∀ c ∈ Nat.toDigits 10 value, isPlain c := by
  have hdigit : ∀ d < 10, isPlain (Nat.digitChar d) := by decide
  intro c hc
  obtain ⟨d, hd, rfl⟩ := mem_toDigits (by decide) hc
  exact hdigit d hd

lemma plain_zeros (n : Nat) : ∀ c ∈ List.replicate n '0', isPlain c := by
  intro c hc
  rw [List.eq_of_mem_replicate hc]
  rfl

lemma plain_toString (value : Nat) : Plain (toString value) := by
  rw [Nat.toString_eq_ofList_toDigits, plain_ofList]
  exact plain_toDigits value

lemma plain_int (value : Int) : Plain (toString value) := by
  cases value with
  | ofNat n => exact plain_toString n
  | negSucc n => exact Plain.append (a := "-") (by decide) (plain_toString (n + 1))

lemma plain_decimal (value : Constant) : Plain value.decimal := by
  cases value with
  | signed v => exact plain_int _
  | unsigned v => exact plain_toString _

lemma plain_positional (d : Number.Decimal) : Plain d.positional := by
  have hdigits := plain_toDigits d.coefficient
  unfold Number.Decimal.positional
  dsimp only
  split
  · refine Plain.append (plain_ofList.mpr fun c hc => ?_) (by decide)
    exact (List.mem_append.mp hc).elim (hdigits c) (plain_zeros _ c)
  · refine plain_ofList.mpr fun c hc => ?_
    rcases List.mem_append.mp hc with hc | hc
    · exact (List.mem_append.mp (List.mem_of_mem_take hc)).elim (plain_zeros _ c) (hdigits c)
    · rcases List.mem_cons.mp hc with rfl | hc
      · rfl
      · exact (List.mem_append.mp (List.mem_of_mem_drop hc)).elim (plain_zeros _ c) (hdigits c)

lemma plain_floating {type : String} (htype : Plain type) (value : Number.FloatValue) :
    Plain (Literal.floating type value) := by
  have hsign : ∀ negative : Bool, Plain (if negative then "-" else "") := by decide
  cases value with
  | notANumber => exact Plain.append (Plain.append (by decide) htype) (by decide)
  | infinite negative =>
    exact Plain.append (((hsign negative).append (by decide)).append htype) (by decide)
  | finite negative x => exact (hsign negative).append (plain_positional _)

/-! Character literals -/

/-- Nothing in a literal but its end and a backslash is special, as long as the line goes on. -/
lemma read_literal {cs : List Char} (n : Nat) (h : ∀ c ∈ cs, isInner c) :
    read (n, .literal) cs = some (n, .literal) := by
  induction cs with
  | nil => rfl
  | cons c cs ih =>
    have hc := h c List.mem_cons_self
    simp only [isInner, Bool.and_eq_true, decide_eq_true_eq] at hc
    rw [read, List.foldlM_cons, readChar, if_neg hc.1.1, if_neg hc.1.2, if_neg hc.2]
    exact ih fun d hd => h d (List.mem_cons_of_mem c hd)

/-- What stands in quotes is passed over if the opening leads into the literal. -/
lemma neutral_literal {opening : String} {cs : List Char}
    (hopen : ∀ n, read (n, .code) opening.toList = some (n, .literal))
    (h : ∀ c ∈ cs, isInner c) : Neutral (opening ++ String.ofList cs ++ "'") := fun outer => by
  have hclose : read (outer, .literal) "'".toList = some (outer, .code) := rfl
  rw [String.toList_append, String.toList_append, String.toList_ofList, read_append, read_append,
    Nat.add_zero, hopen, Option.bind_some, read_literal outer h, Option.bind_some, hclose]

lemma hex_inner (width value : Nat) : ∀ c ∈ (Literal.hex width value).toList, isInner c := by
  have hdigit : ∀ d < 16, isInner (Nat.digitChar d).toUpper := by decide
  intro c hc
  unfold Literal.hex at hc
  rw [String.toList_ofList] at hc
  rcases List.mem_append.mp hc with hc | hc
  · rw [List.eq_of_mem_replicate hc]
    rfl
  · obtain ⟨b, hb, rfl⟩ := List.mem_map.mp hc
    obtain ⟨d, hd, rfl⟩ := mem_toDigits (by decide) hb
    exact hdigit d hd

/-- Every code point has a literal of its own, the quote and the backslash behind a backslash. -/
lemma neutral_char (raw : UInt64) : Neutral (Literal.char raw) := by
  have hprintable : ∀ v < 0x7f, 0x20 ≤ v → v ≠ 0x27 → v ≠ 0x5c → isInner (Char.ofNat v) := by
    decide
  have hescaped : ∀ opening : String,
      (∀ n, read (n, .code) opening.toList = some (n, .literal)) → ∀ width value,
      Neutral (opening ++ Literal.hex width value ++ "'") := fun opening hopen width value => by
    rw [← String.ofList_toList (s := Literal.hex width value)]
    exact neutral_literal hopen (hex_inner width value)
  unfold Literal.char
  dsimp only
  generalize Literal.foldByte raw = v
  split
  · exact fun outer => rfl
  split
  · exact fun outer => rfl
  rename_i hquote hescape
  split
  · rename_i hrange
    rw [String.singleton_eq_ofList]
    have hopen (n : Nat) : read (n, .code) "'".toList = some (n, .literal) := rfl
    refine neutral_literal hopen fun c hc => ?_
    rw [List.mem_singleton.mp hc]
    exact hprintable v (Nat.lt_succ_of_le hrange.2) hrange.1 hquote hescape
  split
  · exact hescaped "'\\x" (fun n => rfl) 2 v
  split
  · exact hescaped "'\\u" (fun n => rfl) 4 v
  · exact hescaped "'\\U" (fun n => rfl) 8 v

lemma neutral_initializer (type : String) (value : Constant) :
    Neutral (Literal.initializer type value) := by
  unfold Literal.initializer
  cases Literal.styleOf type with
  | float => exact (plain_floating (by decide) _).neutral
  | double => exact (plain_floating (by decide) _).neutral
  | char => exact neutral_char _
  | bool =>
    refine Plain.neutral ?_
    dsimp only
    split <;> decide
  | integer => exact (plain_decimal value).neutral

/-! Lines -/

/-- A character that changes nothing but a backslash in front of it. -/
def isIdle (c : Char) : Bool := isPlain c && isInner c

/-- An idle character that leads to code was met in code. -/
lemma readChar_idle {c : Char} {state : Nat × Place} (hc : isIdle c)
    (h : readChar state c = some (n, .code)) : state = (n, .code) := by
  obtain ⟨m, place⟩ := state
  simp only [isIdle, isPlain, isInner, Bool.and_eq_true, decide_eq_true_eq] at hc
  cases place with
  | code =>
    rw [readChar, if_neg hc.1.1.1, if_neg hc.1.1.2, if_neg hc.1.2] at h
    exact Option.some.inj h
  | literal =>
    rw [readChar, if_neg hc.2.1.1, if_neg hc.2.1.2, if_neg hc.2.2] at h
    cases h
  | escape =>
    rw [readChar, if_neg hc.2.1.1] at h
    cases h

/-- An idle character at the end does not count. -/
lemma read_dropLast {c : Char} {cs : List Char} {state : Nat × Place} (hc : isIdle c)
    (hlast : cs.getLast? = some c) (h : read state cs = some (n, .code)) :
    read state cs.dropLast = some (n, .code) := by
  obtain ⟨front, rfl⟩ := List.getLast?_eq_some_iff.mp hlast
  rw [read_append] at h
  obtain ⟨s, hs, hread⟩ := Option.bind_eq_some_iff.mp h
  have hchar : readChar s c = some (n, .code) := by simpa [read] using hread
  rw [List.dropLast_concat, hs, readChar_idle hc hchar]

lemma Neutral.dropSemicolon (h : Neutral text) : Neutral (Declaration.dropSemicolon text) := by
  intro outer
  unfold Declaration.dropSemicolon
  dsimp only
  split
  · rename_i hlast
    rw [String.toList_ofList]
    exact read_dropLast (by decide) hlast (h outer)
  · exact h outer

lemma read_dropReturn {cs : List Char} {state : Nat × Place}
    (h : read state cs = some (n, .code)) : read state (dropReturn cs) = some (n, .code) := by
  unfold dropReturn
  split
  · rename_i hlast
    exact read_dropLast (by decide) hlast h
  · exact h

/-- A line that ends ends in code. -/
lemma read_line {piece rest : List Char} {outer : Nat}
    (h : read (outer, .code) (piece ++ '\n' :: rest) = some (n, .code)) :
    ∃ m, read (outer, .code) piece = some (m, .code) ∧ read (m, .code) rest = some (n, .code) := by
  rw [read_append] at h
  obtain ⟨⟨m, place⟩, hpiece, hrest⟩ := Option.bind_eq_some_iff.mp h
  rw [read, List.foldlM_cons] at hrest
  cases place with
  | code => exact ⟨m, hpiece, hrest⟩
  | literal => cases hrest
  | escape => cases hrest

/-- The text of a list of lines. -/
def ofLines (lines : List String) : String := String.join (lines.map (· ++ "\n"))

lemma toList_ofLines_cons (line : String) (rest : List String) :
    (ofLines (line :: rest)).toList = line.toList ++ '\n' :: (ofLines rest).toList := by
  rw [ofLines, List.map_cons, String.join_cons, String.toList_append, String.toList_append]
  simp [ofLines]

/-- Moved to the right, a line is read as it was. -/
lemma read_indent (line : List Char) :
    read (n, .code) (Aggregate.indent (String.ofList line)).toList = read (n, .code) line := by
  unfold Aggregate.indent
  split
  · rename_i hempty
    rw [← String.toList_ofList (l := line), hempty]
  · have hspaces : read (n, .code) "    ".toList = some (n, .code) := rfl
    rw [String.toList_append, read_append, hspaces, Option.bind_some, String.toList_ofList]

/-- Cutting a text into lines and putting these one below the other changes nothing to a reader,
however far each of them is moved to the right. -/
lemma read_closeLines {pieces : List (List Char)} {outer : Nat}
    (h : read (outer, .code) (['\n'].intercalate pieces) = some (n, .code)) :
    read (outer, .code) (ofLines (((closeLines pieces).map String.ofList).map
      Aggregate.indent)).toList = some (n, .code) := by
  induction pieces generalizing outer with
  | nil => exact h
  | cons piece rest ih =>
    cases rest with
    | nil =>
      have hlast : read (outer, .code) piece = some (n, .code) := by simpa using h
      rw [closeLines]
      split
      -- An empty piece at the end is no line.
      · rename_i hempty
        rwa [hempty] at hlast
      · rw [List.map_singleton, List.map_singleton, toList_ofLines_cons, read_append, read_indent,
          hlast]
        rfl
    | cons next rest =>
      rw [List.intercalate_cons_cons, List.append_assoc] at h
      obtain ⟨m, hpiece, hrest⟩ := read_line h
      have hclose : closeLines (piece :: next :: rest) =
          dropReturn piece :: closeLines (next :: rest) := rfl
      rw [hclose, List.map_cons, List.map_cons, toList_ofLines_cons, read_append, read_indent,
        read_dropReturn hpiece, Option.bind_some]
      exact ih hrest

lemma Neutral.lines (h : Neutral text) :
    Neutral (ofLines ((lines text).map Aggregate.indent)) := fun outer => by
  refine read_closeLines ?_
  rw [List.intercalate_splitOn]
  exact h outer

lemma ofLines_append (as bs : List String) : ofLines (as ++ bs) = ofLines as ++ ofLines bs := by
  rw [ofLines, List.map_append, String.join_append, ofLines, ofLines]

end HeaderRecovery.Text
