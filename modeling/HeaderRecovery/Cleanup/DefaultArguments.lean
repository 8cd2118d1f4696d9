import HeaderRecovery.Cleanup.Brackets
import HeaderRecovery.Cleanup.Container
import HeaderRecovery.Text.WordChars

/-! Leaving out default arguments of standard containers. -/
namespace HeaderRecovery.Cleanup

/-- The container that is named at the start of a text, with its opening bracket, and how long
that is. -/
def containerAt? (text : List Char) : Option (Container × Nat) :=
  Container.all.findSome? fun container =>
    let head := ("std::" ++ container.name ++ "<").toList
    if head.isPrefixOf text then some (container, head.length) else none

/-- Whether a name may start behind a character. -/
def startsName (before : Option Char) : Bool :=
  match before with
  | some c => !Text.isWordChar c
  | none => true

/-- A container without its default arguments stands as before otherwise. Containers inside of one
that is shortened are left alone, and so is everything from the first container on whose bracket
is not closed on its line. -/
def stripFrom : Nat → Option Char → List Char → List Char
  | 0, _, text => text
  | _ + 1, _, [] => []
  | fuel + 1, before, c :: rest =>
    match if startsName before then containerAt? (c :: rest) else none with
    | none => c :: stripFrom fuel (some c) rest
    | some (container, length) =>
      let text := c :: rest
      match matchingAngle? text (length - 1) with
      | none => text
      | some close =>
        let arguments := splitArguments ((text.take close).drop length)
        match shortened? container (arguments.map String.ofList) with
        | some kept =>
          text.take length ++ (", ".intercalate kept).toList ++
            '>' :: stripFrom fuel (some '>') (text.drop (close + 1))
        | none => text.take length ++ stripFrom fuel (some '<') (text.drop length)

/-- Every step passes a character at least. -/
def stripDefaultArguments (text : String) : String :=
  String.ofList (stripFrom text.length none text.toList)

end HeaderRecovery.Cleanup
