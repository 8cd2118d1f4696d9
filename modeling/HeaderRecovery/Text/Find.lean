/-! Occurrences of one text in another. -/
namespace HeaderRecovery.Text

/-- Whether `text` starts with `lead`. -/
def startsWith (lead text : String) : Bool := lead.toList.isPrefixOf text.toList

def containsChars (needle : List Char) : List Char → Bool
  | [] => needle.isEmpty
  | c :: cs => needle.isPrefixOf (c :: cs) || containsChars needle cs

def contains (needle text : String) : Bool := containsChars needle.toList text.toList

/-- The text before the first occurrence of a character, or all of it. -/
def upTo (c : Char) (text : String) : String := String.ofList (text.toList.takeWhile (· ≠ c))

end HeaderRecovery.Text
