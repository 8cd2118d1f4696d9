import HeaderRecovery.Pattern.CharSet
import HeaderRecovery.Text.Category
import HeaderRecovery.Text.Script

/-! Classes of characters that a pattern names by a property: a general category, a script or one
of a few other properties. -/
namespace HeaderRecovery.Pattern.CharSet

open Text.Category

def ofBounds (lists : List (List Nat)) : CharSet := unionAll (lists.map .listed)

def letters : List (List Nat) :=
  [uppercaseLetter, lowercaseLetter, titlecaseLetter, modifierLetter, otherLetter]

def marks : List (List Nat) := [nonspacingMark, spacingMark, enclosingMark]

def numbers : List (List Nat) := [Text.digitBounds, letterNumber, otherNumber]

def punctuation : List (List Nat) :=
  [connector, dash, openPunctuation, closePunctuation, initialPunctuation, finalPunctuation,
    otherPunctuation]

def symbols : List (List Nat) := [mathSymbol, currencySymbol, modifierSymbol, otherSymbol]

def separators : List (List Nat) := [space, lineSeparator, paragraphSeparator]

def assigned : CharSet :=
  ofBounds (letters ++ marks ++ numbers ++ punctuation ++ symbols ++ separators ++
    [control, format, privateUse])

def unassigned : CharSet := .complement assigned

/-- A general category by its short or long name, or one of three classes that go with them. -/
def category? (name : String) : Option CharSet :=
  match name with
  | "any" => some any
  | "assigned" => some assigned
  | "ascii" => some (.range 0 0x7F)
  | "l" | "letter" => some (ofBounds letters)
  | "lc" | "casedletter" => some (ofBounds [uppercaseLetter, lowercaseLetter, titlecaseLetter])
  | "lu" | "uppercaseletter" => some (.listed uppercaseLetter)
  | "ll" | "lowercaseletter" => some (.listed lowercaseLetter)
  | "lt" | "titlecaseletter" => some (.listed titlecaseLetter)
  | "lm" | "modifierletter" => some (.listed modifierLetter)
  | "lo" | "otherletter" => some (.listed otherLetter)
  | "m" | "mark" | "combiningmark" => some (ofBounds marks)
  | "mn" | "nonspacingmark" => some (.listed nonspacingMark)
  | "mc" | "spacingmark" => some (.listed spacingMark)
  | "me" | "enclosingmark" => some (.listed enclosingMark)
  | "n" | "number" => some (ofBounds numbers)
  | "nd" | "decimalnumber" | "digit" => some digit
  | "nl" | "letternumber" => some (.listed letterNumber)
  | "no" | "othernumber" => some (.listed otherNumber)
  | "p" | "punctuation" | "punct" => some (ofBounds punctuation)
  | "pc" | "connectorpunctuation" => some (.listed connector)
  | "pd" | "dashpunctuation" => some (.listed dash)
  | "ps" | "openpunctuation" => some (.listed openPunctuation)
  | "pe" | "closepunctuation" => some (.listed closePunctuation)
  | "pi" | "initialpunctuation" => some (.listed initialPunctuation)
  | "pf" | "finalpunctuation" => some (.listed finalPunctuation)
  | "po" | "otherpunctuation" => some (.listed otherPunctuation)
  | "s" | "symbol" => some (ofBounds symbols)
  | "sm" | "mathsymbol" => some (.listed mathSymbol)
  | "sc" | "currencysymbol" => some (.listed currencySymbol)
  | "sk" | "modifiersymbol" => some (.listed modifierSymbol)
  | "so" | "othersymbol" => some (.listed otherSymbol)
  | "z" | "separator" => some (ofBounds separators)
  | "zs" | "spaceseparator" => some (.listed space)
  | "zl" | "lineseparator" => some (.listed lineSeparator)
  | "zp" | "paragraphseparator" => some (.listed paragraphSeparator)
  | "c" | "other" => some (.union (ofBounds [control, format, privateUse]) unassigned)
  | "cc" | "control" | "cntrl" => some (.listed control)
  | "cf" | "format" => some (.listed format)
  | "co" | "privateuse" => some (.listed privateUse)
  | "cn" | "unassigned" => some unassigned
  | _ => none

def script? (name : String) : Option CharSet :=
  (Text.scripts.find? fun s => s.code = name || s.name = name).map fun s => .listed s.bounds

def alphabetic : CharSet := ofBounds (letters ++ [letterNumber, otherAlphabetic])

def numeric : CharSet := ofBounds numbers

def otherProperty? (name : String) : Option CharSet :=
  match name with
  | "alphabetic" | "alpha" => some alphabetic
  | "uppercase" | "upper" => some (ofBounds [uppercaseLetter, otherUppercase])
  | "lowercase" | "lower" => some (ofBounds [lowercaseLetter, otherLowercase])
  | "whitespace" | "wspace" | "space" => some blank
  | _ => none

/-- Names are compared without case, blanks, hyphens, underscores and a leading `is`. -/
def plainName (name : List Char) : String :=
  let kept := name.filter fun c => c.toNat < 0x80 && c ≠ ' ' && c ≠ '-' && c ≠ '_'
  match kept.map Char.toLower with
  | 'i' :: 's' :: rest => String.ofList rest
  | rest => String.ofList rest

/-- The class of a property name. -/
def property? (name : List Char) : Option CharSet :=
  let name := plainName name
  ((otherProperty? name).or (category? name)).or (script? name)

/-- The class of characters that have a value of a property. -/
def propertyValue? (name value : List Char) : Option CharSet :=
  match plainName name with
  | "gc" | "generalcategory" => category? (plainName value)
  | "sc" | "script" => script? (plainName value)
  | _ => none

end HeaderRecovery.Pattern.CharSet
