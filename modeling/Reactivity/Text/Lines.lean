namespace Reactivity.Text

/-!
# Lines

A text is a nonempty list of lines separated by line feeds. No other character
ends a line, so a carriage return stays at the end of its line.
-/

/-- Cut a text at every line feed. -/
def splitLines :
    List Char →
    List (List Char)
  | [] => [[]]
  | '\n' :: rest => [] :: splitLines rest
  | character :: rest =>
      match splitLines rest with
      | [] => [[character]]
      | line :: lines => (character :: line) :: lines

/-- Put lines together with a line feed between neighbours. -/
def joinLines :
    List (List Char) →
    List Char
  | [] => []
  | [line] => line
  | line :: next :: lines => line ++ '\n' :: joinLines (next :: lines)

/-- Change a text line by line. -/
def mapLines
    (change : List Char → List Char)
    (text : List Char) :
    List Char :=
  joinLines ((splitLines text).map change)

end Reactivity.Text
