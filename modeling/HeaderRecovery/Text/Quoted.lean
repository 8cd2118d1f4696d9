import HeaderRecovery.Text.Category
import HeaderRecovery.Text.WordChars

/-!
Texts in quotation marks, in one line and without characters that cannot be seen: marks that join
the character before, controls, blanks other than the space, and codes without a character.
-/
namespace HeaderRecovery.Text

/-- Marks that extend a character though their category is another. -/
def extenderBounds : List Nat :=
  [0x9be, 0x9bf, 0x9d7, 0x9d8, 0xb3e, 0xb3f, 0xb57, 0xb58, 0xbbe, 0xbbf, 0xbd7, 0xbd8, 0xcc2, 0xcc3,
    0xcd5, 0xcd7, 0xd3e, 0xd3f, 0xd57, 0xd58, 0xdcf, 0xdd0, 0xddf, 0xde0, 0x1b35, 0x1b36,
    0x302e, 0x3030, 0xff9e, 0xffa0, 0x1133e, 0x1133f, 0x11357, 0x11358, 0x114b0, 0x114b1,
    0x114bd, 0x114be, 0x115af, 0x115b0, 0x11930, 0x11931, 0x1d165, 0x1d166, 0x1d16e, 0x1d173]

/-- The categories whose characters stand for themselves in a quoted text. -/
def shownCategories : List (List Nat) :=
  open Category in
  [digitBounds, uppercaseLetter, lowercaseLetter, titlecaseLetter, modifierLetter, otherLetter, spacingMark,
    letterNumber, otherNumber, connector, dash, openPunctuation, closePunctuation,
    initialPunctuation, finalPunctuation, otherPunctuation, mathSymbol, currencySymbol,
    modifierSymbol, otherSymbol]

def isShown (c : Char) : Bool :=
  c = ' ' ||
    (shownCategories.any (between · c.toNat) && !between extenderBounds c.toNat)

/-- How a character stands between the quotation marks. -/
def quotedChar (c : Char) : List Char :=
  if c = '"' ∨ c = '\\' then ['\\', c]
  else if c = '\t' then ['\\', 't']
  else if c = '\n' then ['\\', 'n']
  else if c = '\r' then ['\\', 'r']
  else if c.toNat = 0 then ['\\', '0']
  else if isShown c then [c]
  else ['\\', 'u', '\x7b'] ++ Nat.toDigits 16 c.toNat ++ ['\x7d']

def quoted (s : String) : String :=
  String.ofList (['"'] ++ s.toList.flatMap quotedChar ++ ['"'])

end HeaderRecovery.Text
