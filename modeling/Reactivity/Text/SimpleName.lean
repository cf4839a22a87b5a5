namespace Reactivity.Text

/-!
# Simple names

A simple name is a nonempty text of ASCII letters, digits, underscores and
dollar signs. Digits may come first, so not every simple name is an identifier.
-/

/-- A character that may stand in a simple name. -/
def isSimpleNameCharacter
    (character : Char) :
    Bool :=
  character.isAlphanum || character == '_' || character == '$'

/-- The whole text is a simple name. -/
def isSimpleName
    (text : String) :
    Bool :=
  !text.toList.isEmpty && text.toList.all isSimpleNameCharacter

/-- The longest simple name at the start of a text, if there is one. -/
def leadingSimpleName?
    (text : String) :
    Option String :=
  match text.toList.takeWhile isSimpleNameCharacter with
  | [] => none
  | name => some (String.ofList name)

end Reactivity.Text
