import HeaderRecovery.Settings.Problem
import HeaderRecovery.Text.Quoted
import HeaderRecovery.Toml.Document

/-!
Settings from a document. Each section of the file is a record: a table by names, in which unknown
names count for nothing, or an array by places, of which the missing ones keep their defaults.
-/
namespace HeaderRecovery.Settings

open Number (FloatValue)
open Toml (Key Node Scalar)

def floatText : FloatValue → String
  | .finite negative value =>
    (if negative then "-" else "") ++ value.shortest.positional
  | .infinite negative => if negative then "-inf" else "inf"
  | .notANumber => "NaN"

/-- What a node is, in the words of a complaint. -/
def found : Node → String
  | .scalar _ (.boolean b) => "boolean " ++ inBackticks (if b then "true" else "false")
  | .scalar _ (.integer n) => "integer " ++ inBackticks (toString n)
  | .scalar _ (.float f) => "floating point " ++ inBackticks (floatText f)
  | .scalar _ (.string s) => "string " ++ Text.quoted s
  | .scalar _ .moment => "map"
  | .array _ _ _ => "sequence"
  | .table _ _ _ => "map"

/-- Reads a node. Where the node has no place of its own, its faults lie at the place given. -/
abbrev Decoder (α : Type) := Nat → Node → Except Fault α

def placeOf (outer : Nat) (node : Node) : Nat := node.offset?.getD outer

def fail {α : Type} (offset : Nat) (problem : Problem) : Except Fault α := .error ⟨offset, problem⟩

def unexpected {α : Type} (expected : String) : Decoder α := fun place node =>
  fail place (.wrongType (found node) expected)

def text (expected : String) : Decoder String := fun place node =>
  match node with
  | .scalar _ (.string s) => .ok s
  | _ => unexpected expected place node

def path : Decoder String := text "path string"

def boolean : Decoder Bool := fun place node =>
  match node with
  | .scalar _ (.boolean b) => .ok b
  | _ => unexpected "a boolean" place node

def count : Decoder Nat := fun place node =>
  match node with
  | .scalar _ (.integer n) => if n < 0 then fail place (.negative n) else .ok n.toNat
  | _ => unexpected "usize" place node

def levelNamed (place : Nat) (name : String) : Except Fault LogLevel :=
  match LogLevel.ofName? name with
  | some level => .ok level
  | none => fail place (.unknownLevel name)

/-- A level is its name, or a table with the name as its only key and an empty table as value. -/
def level : Decoder LogLevel := fun place node =>
  match node with
  | .scalar _ (.string name) => levelNamed place name
  | .table _ _ [(key, content)] => do
    let level ← levelNamed key.offset key.text
    match content with
    | .table _ _ [] => return level
    | _ => fail (placeOf place content) .noLevel
  | _ => fail place .noLevel

/-- A field of a record by its name, with what its value makes of the record. -/
structure Field (α : Type) where
  name : String
  set : α → Decoder α

def Field.of {α β : Type} (name : String) (decode : Decoder β) (put : β → α → α) : Field α :=
  ⟨name, fun record place node => return put (← decode place node) record⟩

variable {α : Type}

/-- Sets the field of an entry, if the record has one of that name. -/
def setNamed (fields : List (Field α)) (record : α) (entry : Key × Node) : Except Fault α :=
  match fields.find? (·.name = entry.1.text) with
  | some field => field.set record (placeOf entry.1.offset entry.2) entry.2
  | none => .ok record

/-- Sets fields by their values in order. -/
def setListed (place : Nat) : List (Field α) → List Node → α → Except Fault α
  | field :: fields, item :: items, record => do
    setListed place fields items (← field.set record (placeOf place item) item)
  | _, _, record => .ok record

/-- Sets what a table or an array says of a record. A moment counts as a table without any of the
names. -/
def fill (expected : String) (fields : List (Field α)) (record : α) : Decoder α :=
  fun place node =>
    match node with
    | .table _ _ entries => entries.foldlM (setNamed fields) record
    | .scalar _ .moment => .ok record
    | .array _ _ items => setListed place fields items record
    | _ => unexpected expected place node

def items (decode : Decoder α) : Decoder (List α) := fun place node =>
  match node with
  | .array _ _ items => items.mapM fun item => decode (placeOf place item) item
  | _ => unexpected "a sequence" place node

/-- What is known of a replacement. -/
structure Draft where
  pattern : Option String := none
  replacement : Option String := none

def replacementFields : List (Field Draft) :=
  [.of "pattern" (text "a string") fun s draft => { draft with pattern := some s },
   .of "replacement" (text "a string") fun s draft => { draft with replacement := some s }]

def replacement : Decoder Replacement := fun place node => do
  let draft ← fill "struct Replacement" replacementFields {} place node
  match draft, node with
  | ⟨some pattern, some replacement⟩, _ => return ⟨pattern, replacement⟩
  | _, .array _ _ items => fail place (.tooShort items.length)
  | ⟨none, _⟩, _ => fail place (.missing "pattern")
  | ⟨some _, none⟩, _ => fail place (.missing "replacement")

/-! ## The file -/

def generalFields : List (Field Settings) :=
  [.of "log_level" level fun l s => { s with logLevel := l },
   .of "log_file" path fun file s => { s with logFile := some file }]

def outputFields : List (Field Settings) :=
  [.of "directory" path fun dir s => { s with outputDir := some dir },
   .of "base_dir" (text "a string") fun dir s => { s with baseDir := some dir }]

def reconstructFields : List (Field Settings) :=
  [.of "max_entries_per_line" count fun n s => { s with limits.maxEntriesPerLine := n },
   .of "max_inline_depth" count fun n s => { s with limits.maxInlineDepth := n }]

def cleanupFields : List (Field Settings) :=
  [.of "enabled" boolean fun b s => { s with cleanup := b },
   .of "replacements" (items replacement) fun list s => { s with replacements := list }]

def sections : List (Field Settings) :=
  [⟨"general", fill "struct GeneralConfig" generalFields⟩,
   ⟨"output", fill "struct OutputConfig" outputFields⟩,
   ⟨"reconstruct", fill "struct ReconstructConfig" reconstructFields⟩,
   ⟨"cleanup", fill "struct CleanupConfig" cleanupFields⟩]

def ofDocument (root : Node) : Except Fault Settings := fill "struct Config" sections {} 0 root

/-- The settings that a text writes. The cap on declarations for one line is judged last. -/
def read (content : String) : Except Error Settings := do
  let root ← (Toml.read content).mapError fun offset => .fault ⟨offset, .malformed⟩
  let settings ← (ofDocument root).mapError .fault
  if settings.limits.maxEntriesPerLine = 0 then .error .zeroCap else return settings

end HeaderRecovery.Settings
