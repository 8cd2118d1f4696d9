import Mathlib
import HeaderRecovery.Declarator

/-!
How C++ reads a declaration of one name. Suffixes bind tighter than marks in front of the name,
parentheses group, qualifiers behind a mark qualify that indirection, and leading qualifiers
qualify the named base type. Nothing here knows how types are spelled.
-/
namespace HeaderRecovery.Cpp

inductive Qualifier where
  | const
  | volatile
  | restrict
  deriving DecidableEq, Repr

namespace Qualifier

def keyword : Qualifier → String
  | .const => "const"
  | .volatile => "volatile"
  | .restrict => "__restrict"

def ofWord? (word : String) : Option Qualifier :=
  if word = "const" then some .const
  else if word = "volatile" then some .volatile
  else if word = "__restrict" then some .restrict
  else none

end Qualifier

def isWordChar (c : Char) : Bool := c.isAlphanum || c = '_'

def isIdentifier (text : String) : Bool :=
  text.toList.all isWordChar && (Qualifier.ofWord? text).isNone &&
    match text.toList.head? with
    | some c => !c.isDigit
    | none => false

/-- A name that is no keyword. -/
structure Identifier where
  text : String
  plain : isIdentifier text
  deriving DecidableEq

def Identifier.ofWord? (text : String) : Option Identifier :=
  if plain : isIdentifier text then some ⟨text, plain⟩ else none

/-- A name behind those of its scopes, the outermost first. -/
structure Name where
  scopes : List Identifier
  last : Identifier
  deriving DecidableEq

/-- The name as it is written. -/
def Name.text (n : Name) : String :=
  "::".intercalate ((n.scopes ++ [n.last]).map Identifier.text)

def Name.under (scope : Identifier) (n : Name) : Name := { n with scopes := scope :: n.scopes }

/-- What stands in front of a name to make a type an indirection. -/
inductive Mark where
  | pointer
  | reference
  | rvalueReference
  | member (owner : Name)
  deriving DecidableEq

/-- A type by its levels. Each level has its own qualifiers, in no order; those of an array are
those of its elements. -/
inductive Ty where
  | named (qualifiers : Multiset Qualifier) (name : Name)
  | indirect (qualifiers : Multiset Qualifier) (mark : Mark) (target : Ty)
  | array (bound : Option Nat) (element : Ty)
  /-- A parameter without a type is the `...` of a variadic function. -/
  | function (qualifiers : Multiset Qualifier) (parameters : List (Option Ty)) (result : Ty)

def Ty.qualify (q : Qualifier) : Ty → Ty
  | named qs name => named (q ::ₘ qs) name
  | indirect qs mark target => indirect (q ::ₘ qs) mark target
  | array bound element => array bound (element.qualify q)
  | function qs parameters result => function (q ::ₘ qs) parameters result

/-! ### Tokens -/

inductive Token where
  | word (text : String)
  | star
  | amp
  | ampAmp
  | colons
  | dots
  | comma
  | leftParen
  | rightParen
  | leftBracket
  | rightBracket
  | other (c : Char)
  deriving DecidableEq

/-- The start of a token that may go on. -/
inductive Pending where
  | nothing
  | word (text : List Char)
  | amp
  | colon
  | dot
  | dotDot

structure Scan where
  done : List Token
  pending : Pending

namespace Scan

/-- The tokens when the pending one ends here. -/
def flush (s : Scan) : List Token :=
  match s.pending with
  | .nothing => s.done
  | .word text => s.done ++ [.word (String.ofList text)]
  | .amp => s.done ++ [.amp]
  | .colon => s.done ++ [.other ':']
  | .dot => s.done ++ [.other '.']
  | .dotDot => s.done ++ [.other '.', .other '.']

def symbol : Char → Token
  | '*' => .star
  | ',' => .comma
  | '(' => .leftParen
  | ')' => .rightParen
  | '[' => .leftBracket
  | ']' => .rightBracket
  | c => .other c

/-- A token is as long as it can be: `&&` is one. -/
def step (s : Scan) (c : Char) : Scan :=
  if isWordChar c then
    match s.pending with
    | .word text => ⟨s.done, .word (text ++ [c])⟩
    | _ => ⟨s.flush, .word [c]⟩
  else if c = ' ' then ⟨s.flush, .nothing⟩
  else if c = '&' then
    match s.pending with
    | .amp => ⟨s.done ++ [.ampAmp], .nothing⟩
    | _ => ⟨s.flush, .amp⟩
  else if c = ':' then
    match s.pending with
    | .colon => ⟨s.done ++ [.colons], .nothing⟩
    | _ => ⟨s.flush, .colon⟩
  else if c = '.' then
    match s.pending with
    | .dot => ⟨s.done, .dotDot⟩
    | .dotDot => ⟨s.done ++ [.dots], .nothing⟩
    | _ => ⟨s.flush, .dot⟩
  else ⟨s.flush ++ [symbol c], .nothing⟩

def run (s : Scan) (text : String) : Scan := text.toList.foldl step s

end Scan

def tokens (text : String) : List Token := (Scan.run ⟨[], .nothing⟩ text).flush

/-! ### Declarators -/

/-- One level of a type around another, as the declarator gives it. -/
inductive Layer where
  | indirect (qualifiers : Multiset Qualifier) (mark : Mark)
  | array (bound : Option Nat)
  | function (parameters : List (Option Ty))

def Layer.around : Layer → Ty → Ty
  | .indirect qs mark, type => .indirect qs mark type
  | .array bound, type => .array bound type
  | .function parameters, type => .function 0 parameters type

def readQualifiers : List Token → List Qualifier × List Token
  | .word w :: rest =>
    match Qualifier.ofWord? w with
    | some q => (q :: (readQualifiers rest).1, (readQualifiers rest).2)
    | none => ([], .word w :: rest)
  | input => ([], input)

/-- A name with its scopes. -/
def readName : List Token → Option (Name × List Token)
  | .word w :: .colons :: .word v :: rest => do
    let scope ← Identifier.ofWord? w
    let (name, rest) ← readName (.word v :: rest)
    some (name.under scope, rest)
  | .word w :: rest => do
    let last ← Identifier.ofWord? w
    some (⟨[], last⟩, rest)
  | _ => none

/-- The class in front of the `*` of a pointer to member, `*` included. -/
def readOwner : List Token → Option (Name × List Token)
  | .word w :: .colons :: .star :: rest => do
    let last ← Identifier.ofWord? w
    some (⟨[], last⟩, rest)
  | .word w :: .colons :: .word v :: rest => do
    let scope ← Identifier.ofWord? w
    let (name, rest) ← readOwner (.word v :: rest)
    some (name.under scope, rest)
  | _ => none

def readMark : List Token → Option (Mark × List Token)
  | .star :: rest => some (.pointer, rest)
  | .amp :: rest => some (.reference, rest)
  | .ampAmp :: rest => some (.rvalueReference, rest)
  | input => (readOwner input).map fun (owner, rest) => (.member owner, rest)

mutual

/-- Qualifiers, the named base type and a declarator, with what they declare. The number bounds
how deeply declarators nest. -/
def readDeclaration : Nat → List Token → Option ((Ty × Option Identifier) × List Token)
  | 0, _ => none
  | fuel + 1, input => do
    let (qualifiers, input) := readQualifiers input
    let (name, input) ← readName input
    let ((layers, declared), rest) ← readDeclarator fuel input
    some ((layers.foldr Layer.around (.named qualifiers name), declared), rest)

/-- The layers around the base type, the outermost first, and the declared name if there is
one. A parenthesis in front of a mark groups; any other begins the parameters of a function. -/
def readDeclarator : Nat → List Token → Option ((List Layer × Option Identifier) × List Token)
  | 0, _ => none
  | fuel + 1, input =>
    match readMark input with
    | some (mark, input) => do
      let (qualifiers, input) := readQualifiers input
      let ((layers, declared), rest) ← readDeclarator fuel input
      some ((layers ++ [.indirect qualifiers mark], declared), rest)
    | none =>
      match input with
      | .leftParen :: inner =>
        if (readMark inner).isSome then
          match readDeclarator fuel inner with
          | some ((layers, declared), .rightParen :: input) => do
            let (suffixes, rest) ← readSuffixes fuel input
            some ((layers ++ suffixes, declared), rest)
          | _ => none
        else do
          let (suffixes, rest) ← readSuffixes fuel input
          some ((suffixes, none), rest)
      | .word w :: input => do
        let declared ← Identifier.ofWord? w
        let (suffixes, rest) ← readSuffixes fuel input
        some ((suffixes, some declared), rest)
      | input => do
        let (suffixes, rest) ← readSuffixes fuel input
        some ((suffixes, none), rest)

/-- Array bounds and parameter lists behind a name, the outermost first. -/
def readSuffixes : Nat → List Token → Option (List Layer × List Token)
  | 0, _ => none
  | fuel + 1, .leftBracket :: .rightBracket :: input => do
    let (suffixes, rest) ← readSuffixes fuel input
    some (.array none :: suffixes, rest)
  | fuel + 1, .leftBracket :: .word n :: .rightBracket :: input => do
    let bound ← n.toNat?
    let (suffixes, rest) ← readSuffixes fuel input
    some (.array (some bound) :: suffixes, rest)
  | fuel + 1, .leftParen :: .rightParen :: input => do
    let (suffixes, rest) ← readSuffixes fuel input
    some (.function [] :: suffixes, rest)
  | fuel + 1, .leftParen :: input => do
    let (parameters, input) ← readParameters fuel input
    let (suffixes, rest) ← readSuffixes fuel input
    some (.function parameters :: suffixes, rest)
  | _ + 1, input => some ([], input)

/-- A type, or `...` in its place. -/
def readParameter : Nat → List Token → Option (Option Ty × List Token)
  | 0, _ => none
  | _ + 1, .dots :: rest => some (none, rest)
  | fuel + 1, input => (readDeclaration fuel input).map fun r => (some r.1.1, r.2)

/-- One parameter or more and the closing parenthesis. -/
def readParameters : Nat → List Token → Option (List (Option Ty) × List Token)
  | 0, _ => none
  | fuel + 1, input =>
    match readParameter fuel input with
    | some (parameter, .comma :: input) => do
      let (parameters, rest) ← readParameters fuel input
      some (parameter :: parameters, rest)
    | some (parameter, .rightParen :: rest) => some ([parameter], rest)
    | _ => none

end

/-- The name that a text declares and its type, if the text is one declaration. -/
def readBack (text : String) : Option (Identifier × Ty) :=
  match readDeclaration (3 * (tokens text).length + 1) (tokens text) with
  | some ((type, some declared), []) => some (declared, type)
  | _ => none

end HeaderRecovery.Cpp
