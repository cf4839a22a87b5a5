import Reactivity.Script.Node
import Reactivity.Text.Blank
import Reactivity.Text.Lines

namespace Reactivity.Refresh

open Script

/-!
# Check stops

A line with nothing but the comment `!check-stop` asks for a refresh at that place
of a function, instead of one at its start. Before a script is read, each such line
is turned into a marker statement with the same indentation.
-/

/-- The name that stands for a check stop in a script. -/
def markerName : String :=
  "$$_checkStop"

/-- The text of the comment that asks for a check stop. -/
def checkStopComment : List Char :=
  "!check-stop".toList

/-- The indentation of a line that asks for a check stop. -/
def checkStopIndent?
    (line : List Char) :
    Option (List Char) :=
  match line.dropWhile Text.isBlank with
  | '/' :: '/' :: comment =>
      if Text.trim comment == checkStopComment then
        some (line.takeWhile Text.isBlank)
      else
        none
  | _ => none

/-- Turn a line that asks for a check stop into a marker statement. -/
def markLine
    (line : List Char) :
    List Char :=
  match checkStopIndent? line with
  | some indent => indent ++ markerName.toList ++ [';']
  | none => line

/-- Turn every line that asks for a check stop into a marker statement. -/
def markCheckStops
    (code : String) :
    String :=
  String.ofList (Text.mapLines markLine code.toList)

/-- The statement is a marker. -/
def isMarker :
    Node →
    Bool
  | .mk .expressionStatement _ _ [.mk (.identifier name) _ _ _] => name == markerName
  | _ => false

end Reactivity.Refresh
