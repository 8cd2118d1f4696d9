import Mathlib
import HeaderRecovery.Settings.Problem

/-!
Positions of bytes in a text, and the lines that reports show for them. The line of a byte starts
behind the last line feed before it; its number is one more than that of the line feeds before it.
Both are found line by line, and missed in one place only: the end of a text whose last line has
no line feed counts as a line of its own, which is not there to be shown.
-/
namespace HeaderRecovery.Text

variable {bs body rest : List UInt8} {line more : List Char} {offset : Nat}

/-! Lines among bytes -/

/-- How many line feeds stand before a byte. -/
def feedsBefore (bs : List UInt8) (offset : Nat) : Nat := (bs.take offset).count 10

/-- Where the line of a byte starts: behind the last line feed before the byte. -/
def lineStart (bs : List UInt8) (offset : Nat) : Nat :=
  offset - ((bs.take offset).reverse.takeWhile (· ≠ 10)).length

/-- The line of a byte, as far as its line feed or the end of the text. -/
def lineAt (bs : List UInt8) (offset : Nat) : List UInt8 :=
  (bs.drop (lineStart bs offset)).takeWhile (· ≠ 10)

/-- The line of a byte without a carriage return that belongs to its line feed. -/
def shownLine (bs : List UInt8) (offset : Nat) : List UInt8 :=
  let line := lineAt bs offset
  if lineStart bs offset + line.length < bs.length ∧ line.getLast? = some 13 then line.dropLast
  else line

/-- The position of a byte: the number of its line, and its place in the line. -/
def exactPosition (bs : List UInt8) (offset : Nat) : Position :=
  ⟨1 + feedsBefore bs offset, 1 + (offset - lineStart bs offset)⟩

/-- The end of a text whose last line is not empty and has no line feed. -/
def AtOpenEnd (bs : List UInt8) (offset : Nat) : Prop :=
  offset = bs.length ∧ lineStart bs offset < offset

instance : Decidable (AtOpenEnd bs offset) := inferInstanceAs (Decidable (_ ∧ _))

/-- Nothing stops the search for the end of a line before it. -/
lemma noFeed (hbody : 10 ∉ body) : ∀ b ∈ body, decide (b ≠ 10) = true := by
  intro b hb
  have hne : b ≠ 10 := fun heq => hbody (heq ▸ hb)
  simpa using hne

section First
variable (hle : offset ≤ body.length) (hbody : 10 ∉ body)
include hle hbody

/-- In the first line, or a text of one line. -/
lemma take_first (rest : List UInt8) : (body ++ rest).take offset = body.take offset ∧
    10 ∉ body.take offset :=
  ⟨List.take_append_of_le_length hle, fun hmem => hbody (List.mem_of_mem_take hmem)⟩

lemma feedsBefore_first (rest : List UInt8) : feedsBefore (body ++ rest) offset = 0 := by
  obtain ⟨htake, hnone⟩ := take_first hle hbody rest
  rw [feedsBefore, htake, List.count_eq_zero.mpr hnone]

lemma lineStart_first (rest : List UInt8) : lineStart (body ++ rest) offset = 0 := by
  obtain ⟨htake, hnone⟩ := take_first hle hbody rest
  have hall : (body.take offset).reverse.takeWhile (· ≠ 10) = (body.take offset).reverse := by
    rw [List.takeWhile_eq_self_iff]
    exact noFeed (mt List.mem_reverse.mp hnone)
  rw [lineStart, htake, hall, List.length_reverse, List.length_take_of_le hle, Nat.sub_self]

end First

section Later
variable (body) (hle : offset ≤ rest.length)

/-- Behind the first line feed, the lines of the rest follow. -/
lemma take_later (rest : List UInt8) (offset : Nat) :
    (body ++ 10 :: rest).take (body.length + 1 + offset) = body ++ 10 :: rest.take offset := by
  rw [Nat.add_assoc, List.take_length_add_append, Nat.add_comm 1, List.take_succ_cons]

lemma drop_later (rest : List UInt8) (offset : Nat) :
    (body ++ 10 :: rest).drop (body.length + 1 + offset) = rest.drop offset := by
  rw [Nat.add_assoc, List.drop_length_add_append, Nat.add_comm 1, List.drop_succ_cons]

lemma feedsBefore_later (hbody : 10 ∉ body) (rest : List UInt8) (offset : Nat) :
    feedsBefore (body ++ 10 :: rest) (body.length + 1 + offset) =
      feedsBefore rest offset + 1 := by
  rw [feedsBefore, take_later, List.count_append, List.count_cons_self,
    List.count_eq_zero.mpr hbody, Nat.zero_add, feedsBefore]

include hle

lemma lineStart_later :
    lineStart (body ++ 10 :: rest) (body.length + 1 + offset) =
      body.length + 1 + lineStart rest offset := by
  have hstop : ((body ++ 10 :: rest.take offset).reverse.takeWhile (· ≠ 10)) =
      (rest.take offset).reverse.takeWhile (· ≠ 10) := by
    rw [List.reverse_append, List.reverse_cons, List.append_assoc, List.takeWhile_append]
    split
    · rename_i hall
      rw [List.singleton_append, List.takeWhile_cons_of_neg (by simp), List.append_nil]
      exact ((List.takeWhile_prefix _).eq_of_length hall).symm
    · rfl
  have hshort := (List.takeWhile_prefix (fun b : UInt8 => decide (b ≠ 10))
    (l := (rest.take offset).reverse)).length_le
  rw [List.length_reverse, List.length_take_of_le hle] at hshort
  rw [lineStart, take_later, hstop, lineStart]
  omega

lemma shownLine_later :
    shownLine (body ++ 10 :: rest) (body.length + 1 + offset) = shownLine rest offset := by
  have hline : lineAt (body ++ 10 :: rest) (body.length + 1 + offset) = lineAt rest offset := by
    rw [lineAt, lineStart_later body hle, drop_later, lineAt]
  have hends : body.length + 1 + lineStart rest offset + (lineAt rest offset).length <
      (body ++ 10 :: rest).length ↔
        lineStart rest offset + (lineAt rest offset).length < rest.length := by
    rw [List.length_append, List.length_cons]
    omega
  simp only [shownLine, hline, lineStart_later body hle, hends]

lemma atOpenEnd_later : AtOpenEnd (body ++ 10 :: rest) (body.length + 1 + offset) ↔
    AtOpenEnd rest offset := by
  rw [AtOpenEnd, AtOpenEnd, lineStart_later body hle, List.length_append, List.length_cons]
  omega

end Later

lemma lineAt_first (hle : offset ≤ body.length) (hbody : 10 ∉ body) (rest : List UInt8) :
    lineAt (body ++ 10 :: rest) offset = body := by
  rw [lineAt, lineStart_first hle hbody, List.drop_zero,
    List.takeWhile_append_of_pos (noFeed hbody)]
  simp

lemma lineAt_only (hle : offset ≤ body.length) (hbody : 10 ∉ body) : lineAt body offset = body := by
  have hstart := lineStart_first hle hbody []
  rw [List.append_nil] at hstart
  rw [lineAt, hstart, List.drop_zero, List.takeWhile_eq_self_iff]
  exact noFeed hbody

/-! Bytes of characters -/

/-- The bytes of characters, one after the other. -/
def encoded (cs : List Char) : List UInt8 := cs.flatMap String.utf8EncodeChar

/-- The bytes of a text. -/
def bytes (text : String) : List UInt8 := text.toByteArray.data.toList

lemma bytes_eq_encoded (text : String) : bytes text = encoded text.toList := by
  rw [bytes, ← String.utf8Encode_toList, List.utf8Encode, List.toList_data_toByteArray, encoded]

lemma byteLength_eq (cs : List Char) : byteLength cs = (encoded cs).length := by
  have hfold : ∀ n, cs.foldl (fun n c => n + c.utf8Size) n = n + (encoded cs).length := by
    induction cs with
    | nil => exact fun n => rfl
    | cons c cs ih =>
      intro n
      rw [List.foldl_cons, ih, encoded, encoded, List.flatMap_cons, List.length_append,
        String.length_utf8EncodeChar, Nat.add_assoc]
  rw [byteLength, hfold, Nat.zero_add]

/-- The bytes of a character beyond the first 128 all have their high bit. -/
lemma high_of_mem {c : Char} (hc : 128 ≤ c.toNat) {b : UInt8} (hb : b ∈ String.utf8EncodeChar c) :
    128 ≤ b.toNat := by
  have hlow : ¬ c.val.toNat ≤ 127 := Nat.not_le.mpr hc
  have hmark : ∀ n, 128 ≤ n → n < 256 → 128 ≤ (UInt8.ofNat n).toNat := by
    intro n hn hlt
    rwa [UInt8.toNat_ofNat', Nat.mod_eq_of_lt hlt]
  rw [String.utf8EncodeChar, if_neg hlow] at hb
  split_ifs at hb <;> simp only [List.mem_cons, List.not_mem_nil, or_false] at hb
  · rcases hb with rfl | rfl <;> exact hmark _ (by omega) (by omega)
  · rcases hb with rfl | rfl | rfl <;> exact hmark _ (by omega) (by omega)
  · rcases hb with rfl | rfl | rfl | rfl <;> exact hmark _ (by omega) (by omega)

/-- A byte without it is a character on its own. -/
lemma utf8EncodeChar_of_low {c : Char} (hc : c.toNat < 128) :
    String.utf8EncodeChar c = [UInt8.ofNat c.toNat] :=
  if_pos (Nat.le_of_lt_succ hc)

lemma mem_utf8EncodeChar_iff {c d : Char} (hd : d.toNat < 128) :
    UInt8.ofNat d.toNat ∈ String.utf8EncodeChar c ↔ c = d := by
  have hbyte : (UInt8.ofNat d.toNat).toNat = d.toNat := by
    rw [UInt8.toNat_ofNat', Nat.mod_eq_of_lt (by omega)]
  constructor
  · intro hmem
    by_cases hc : c.toNat < 128
    · rw [utf8EncodeChar_of_low hc, List.mem_singleton] at hmem
      have htoNat := congrArg UInt8.toNat hmem
      rw [hbyte, UInt8.toNat_ofNat', Nat.mod_eq_of_lt (by omega)] at htoNat
      exact Char.toNat_inj.mp htoNat.symm
    · have hhigh := high_of_mem (Nat.not_lt.mp hc) hmem
      omega
  · rintro rfl
    rw [utf8EncodeChar_of_low hd]
    exact List.mem_singleton_self _

lemma feed_notMem_encoded (h : '\n' ∉ line) : 10 ∉ encoded line := by
  intro hmem
  obtain ⟨c, hc, hbyte⟩ := List.mem_flatMap.mp hmem
  exact h ((mem_utf8EncodeChar_iff (d := '\n') (by decide)).mp hbyte ▸ hc)

lemma encoded_append_feed (line more : List Char) :
    encoded (line ++ '\n' :: more) = encoded line ++ 10 :: encoded more := by
  rw [encoded, List.flatMap_append, List.flatMap_cons]
  rfl

lemma encoded_ne_nil (h : line ≠ []) : encoded line ≠ [] := by
  obtain ⟨c, line, rfl⟩ := List.exists_cons_of_ne_nil h
  exact List.append_ne_nil_of_left_ne_nil String.utf8EncodeChar_ne_nil _

/-- A carriage return is dropped from the characters as it is from the bytes. -/
lemma encoded_dropReturn (line : List Char) : encoded (dropReturn line) =
    if (encoded line).getLast? = some 13 then (encoded line).dropLast else encoded line := by
  cases line using List.reverseRecOn with
  | nil => rfl
  | append_singleton line c =>
    have hencoded : encoded (line ++ [c]) = encoded line ++ String.utf8EncodeChar c := by
      simp [encoded]
    rw [dropReturn, hencoded]
    by_cases hc : c = '\r'
    · have hbyte : String.utf8EncodeChar c = [13] := by
        rw [hc]
        rfl
      rw [hbyte]
      simp [hc]
    · have hlast : (String.utf8EncodeChar c).getLast? ≠ some 13 := fun h =>
        hc ((mem_utf8EncodeChar_iff (d := '\r') (by decide)).mp (List.mem_of_getLast? h))
      rw [List.getLast?_append_of_ne_nil _ String.utf8EncodeChar_ne_nil, if_neg hlast]
      simpa [hc] using hencoded

/-! Line by line -/

/-- A text is its last line, or a line with its feed in front of a shorter text. -/
lemma lines_induction {motive : List Char → Prop} (last : ∀ line, '\n' ∉ line → motive line)
    (feed : ∀ line more, '\n' ∉ line → motive more → motive (line ++ '\n' :: more))
    (cs : List Char) : motive cs := by
  induction hn : cs.length using Nat.strongRecOn generalizing cs with
  | ind n ih =>
    by_cases hmem : '\n' ∈ cs
    · obtain ⟨line, more, rfl, hline⟩ := List.eq_append_cons_of_mem hmem
      rw [List.length_append, List.length_cons] at hn
      exact feed line more hline (ih more.length (by omega) more rfl)
    · exact last cs hmem

lemma segments_last (h : '\n' ∉ line) : segments line = if line = [] then [] else [line] := by
  induction line with
  | nil => rfl
  | cons c line ih =>
    obtain ⟨hc, hline⟩ : c ≠ '\n' ∧ '\n' ∉ line := by simpa [eq_comm] using h
    rw [segments, if_neg hc, ih hline]
    by_cases hnil : line = [] <;> simp [hnil]

lemma segments_feed (h : '\n' ∉ line) (more : List Char) :
    segments (line ++ '\n' :: more) = (line ++ ['\n']) :: segments more := by
  induction line with
  | nil => rfl
  | cons c line ih =>
    obtain ⟨hc, hline⟩ : c ≠ '\n' ∧ '\n' ∉ line := by simpa [eq_comm] using h
    rw [List.cons_append, segments, if_neg hc, ih hline]
    rfl

/-- The lines of a text as characters. -/
def lineList (cs : List Char) : List (List Char) := closeLines (cs.splitOn '\n')

lemma lineList_last (h : '\n' ∉ line) : lineList line = if line = [] then [] else [line] := by
  rw [lineList, List.splitOn_eq_singleton h, closeLines]

lemma lineList_feed (h : '\n' ∉ line) (more : List Char) :
    lineList (line ++ '\n' :: more) = dropReturn line :: lineList more := by
  obtain ⟨piece, pieces, hsplit⟩ :=
    List.exists_cons_of_ne_nil (List.splitOn_ne_nil '\n' more)
  rw [lineList, lineList, List.splitOn_append_cons_self_of_not_mem h, hsplit]
  rfl

/-- In a text of one line, only the end is open. -/
lemma atOpenEnd_only (hle : offset ≤ body.length) (hbody : 10 ∉ body) :
    feedsBefore body offset = 0 ∧ lineStart body offset = 0 ∧
      (AtOpenEnd body offset ↔ offset = body.length ∧ 0 < offset) := by
  have hfeeds := feedsBefore_first hle hbody []
  have hstart := lineStart_first hle hbody []
  rw [List.append_nil] at hfeeds hstart
  exact ⟨hfeeds, hstart, by rw [AtOpenEnd, hstart]⟩

/-- No byte of a line that has a feed is at an open end. -/
lemma not_atOpenEnd_first (hle : offset ≤ body.length) (rest : List UInt8) :
    ¬ AtOpenEnd (body ++ 10 :: rest) offset := by
  rintro ⟨hend, -⟩
  rw [List.length_append, List.length_cons] at hend
  omega

/-- A byte behind the first line feed is one of the rest. -/
lemma exists_later (hle : offset ≤ (body ++ 10 :: rest).length) (hlt : body.length < offset) :
    ∃ later ≤ rest.length, offset = body.length + 1 + later := by
  rw [List.length_append, List.length_cons] at hle
  exact ⟨offset - (body.length + 1), by omega, by omega⟩

/-- Counted on from `start` and `number`, the position of a byte is the exact one, unless it is at
an open end. -/
lemma locate_segments (cs : List Char) : ∀ start number offset, offset ≤ (encoded cs).length →
    locate (start + offset) start number (segments cs) =
      if AtOpenEnd (encoded cs) offset then ⟨number + feedsBefore (encoded cs) offset + 1, 1⟩
      else ⟨number + feedsBefore (encoded cs) offset,
        offset - lineStart (encoded cs) offset + 1⟩ := by
  induction cs using lines_induction with
  | last line hline =>
    intro start number offset hle
    obtain ⟨hfeeds, hstart, hopen⟩ := atOpenEnd_only hle (feed_notMem_encoded hline)
    rw [segments_last hline, hfeeds, hstart]
    simp only [hopen]
    by_cases hnil : line = []
    · subst hnil
      have hzero : offset = 0 := Nat.le_zero.mp hle
      simp [hzero, locate]
    · have hpos := List.length_pos_of_ne_nil (encoded_ne_nil hnil)
      rw [if_neg hnil, locate, locate, byteLength_eq]
      by_cases hend : offset = (encoded line).length
      · rw [if_neg (by omega), if_pos ⟨hend, by omega⟩]
        simp [hend]
      · rw [if_pos (by omega), if_neg (by omega)]
        simp
  | feed line more hline ih =>
    intro start number offset hle
    have hbody := feed_notMem_encoded hline
    have hlength : byteLength (line ++ ['\n']) = (encoded line).length + 1 := by
      rw [byteLength_eq, encoded_append_feed, List.length_append]
      rfl
    rw [encoded_append_feed] at hle ⊢
    rw [segments_feed hline, locate, hlength]
    by_cases hfirst : offset ≤ (encoded line).length
    · rw [if_pos (by omega), if_neg (not_atOpenEnd_first hfirst _),
        feedsBefore_first hfirst hbody, lineStart_first hfirst hbody]
      simp
    -- Behind the line feed the search goes on in the rest, one line further down.
    · obtain ⟨later, hlater, rfl⟩ := exists_later hle (Nat.not_le.mp hfirst)
      have hmore := ih (start + ((encoded line).length + 1)) (number + 1) later hlater
      rw [if_neg (by omega), feedsBefore_later _ hbody, lineStart_later _ hlater]
      simp only [atOpenEnd_later _ hlater]
      have hcolumn : (encoded line).length + 1 + later -
          ((encoded line).length + 1 + lineStart (encoded more) later) =
            later - lineStart (encoded more) later := by omega
      rw [hcolumn, ← Nat.add_assoc start, hmore]
      simp only [Nat.add_assoc, Nat.add_comm 1]

/-- The line that is found by its number is that of the byte; at an open end none is found, though
there is one. -/
lemma encoded_lineList (cs : List Char) : ∀ offset ≤ (encoded cs).length,
    if AtOpenEnd (encoded cs) offset then
      (lineList cs)[feedsBefore (encoded cs) offset + 1]? = none ∧
        shownLine (encoded cs) offset ≠ []
    else encoded ((lineList cs)[feedsBefore (encoded cs) offset]?.getD []) =
      shownLine (encoded cs) offset := by
  induction cs using lines_induction with
  | last line hline =>
    intro offset hle
    have hbody := feed_notMem_encoded hline
    obtain ⟨hfeeds, hstart, hopen⟩ := atOpenEnd_only hle hbody
    have hwhole : shownLine (encoded line) offset = encoded line := by
      simp [shownLine, lineAt_only hle hbody, hstart]
    rw [lineList_last hline, hfeeds, hwhole]
    by_cases hnil : line = []
    · subst hnil
      have hzero : offset = 0 := Nat.le_zero.mp hle
      have hclosed : ¬ AtOpenEnd (encoded []) offset := by
        rw [hopen]
        omega
      rw [if_neg hclosed]
      rfl
    · rw [if_neg hnil]
      split
      · exact ⟨rfl, encoded_ne_nil hnil⟩
      · rfl
  | feed line more hline ih =>
    intro offset hle
    have hbody := feed_notMem_encoded hline
    rw [encoded_append_feed] at hle ⊢
    rw [lineList_feed hline]
    by_cases hfirst : offset ≤ (encoded line).length
    · rw [if_neg (not_atOpenEnd_first hfirst _), feedsBefore_first hfirst hbody,
        shownLine, lineAt_first hfirst hbody, lineStart_first hfirst hbody]
      simp [encoded_dropReturn]
    · obtain ⟨later, hlater, rfl⟩ := exists_later hle (Nat.not_le.mp hfirst)
      have hmore := ih later hlater
      rw [feedsBefore_later _ hbody, shownLine_later _ hlater]
      simpa only [atOpenEnd_later _ hlater, List.getElem?_cons_succ] using hmore

end HeaderRecovery.Text

namespace HeaderRecovery.Settings
open Text

variable {fault : Fault} {content : String}

/-- A report gives the position of its fault and shows its line, if and only if the fault is not at
the end of a last line that has no line feed. -/
theorem report_exact_iff (origin : String) (h : fault.offset ≤ (bytes content).length) :
    ((fault.report origin content).position = exactPosition (bytes content) fault.offset ↔
      ¬ AtOpenEnd (bytes content) fault.offset) ∧
    (bytes (fault.report origin content).line = shownLine (bytes content) fault.offset ↔
      ¬ AtOpenEnd (bytes content) fault.offset) := by
  have hlines : ∀ number : Nat, bytes (((lines content)[number]?).getD "") =
      encoded ((lineList content.toList)[number]?.getD []) := by
    intro number
    rw [lines, List.getElem?_map, ← lineList]
    cases (lineList content.toList)[number]? with
    | none => rfl
    | some line => simp [bytes_eq_encoded]
  rw [bytes_eq_encoded content] at h ⊢
  have hposition := locate_segments content.toList 0 1 fault.offset h
  have hline := encoded_lineList content.toList fault.offset h
  rw [Nat.zero_add] at hposition
  have hreport : (fault.report origin content).position =
      locate fault.offset 0 1 (segments content.toList) := rfl
  have hshown : (fault.report origin content).line = ((lines content)[
      (locate fault.offset 0 1 (segments content.toList)).line - 1]?).getD "" := rfl
  rw [hreport, hshown, hlines, hposition]
  by_cases hopen : AtOpenEnd (encoded content.toList) fault.offset
  · rw [if_pos hopen] at hline ⊢
    obtain ⟨hnone, hsome⟩ := hline
    refine ⟨iff_of_false ?_ (not_not_intro hopen), iff_of_false ?_ (not_not_intro hopen)⟩
    · intro heq
      have hnumber := congrArg Position.line heq
      rw [exactPosition] at hnumber
      dsimp only at hnumber
      omega
    · rw [Nat.add_sub_cancel, Nat.add_comm 1, hnone]
      exact fun heq => hsome heq.symm
  · rw [if_neg hopen] at hline ⊢
    refine ⟨iff_of_true ?_ hopen, iff_of_true ?_ hopen⟩
    · simp [exactPosition, Nat.add_comm]
    · simpa using hline

/-- A fault on the line feed of the second line, with two bytes for one character in the first. -/
theorem lineFeed_reported :
    16 ≤ (bytes "k = é\r\n[general\n").length ∧
    ((Fault.mk 16 .malformed).report "a.toml" "k = é\r\n[general\n").position = ⟨2, 9⟩ ∧
    bytes ((Fault.mk 16 .malformed).report "a.toml" "k = é\r\n[general\n").line =
      bytes "[general" := by
  have hle : (Fault.mk 16 .malformed).offset ≤ (bytes "k = é\r\n[general\n").length := by
    decide +kernel
  have hclosed : ¬ AtOpenEnd (bytes "k = é\r\n[general\n") 16 := by decide +kernel
  obtain ⟨hposition, hline⟩ := report_exact_iff "a.toml" hle
  refine ⟨hle, (hposition.mpr hclosed).trans ?_, (hline.mpr hclosed).trans ?_⟩
  · decide +kernel
  · decide +kernel

/-- A fault at the end of a last line without a line feed is reported on a line that is not
there. -/
theorem openEnd_misplaced :
    ((Fault.mk 1 .malformed).report "a.toml" "x").position = ⟨2, 1⟩ ∧
    ((Fault.mk 1 .malformed).report "a.toml" "x").line = "" ∧
    exactPosition (bytes "x") 1 = ⟨1, 2⟩ ∧ shownLine (bytes "x") 1 = bytes "x" := by
  decide +kernel

end HeaderRecovery.Settings
