import Reactivity.Failure
import Reactivity.Script.Declared
import Reactivity.Script.Grammar.Settle
import Reactivity.Script.Grammar.Statement

namespace Reactivity.Script

/-!
# Reading scripts

The grammar is closed by giving its parts the grammar of one round less, and a
script is read with as many rounds as it has characters, and a few more.

A script is malformed if it uses a construct that has no form: a `using` declaration,
a decorator, an `accessor` field, a `with` statement or a phase of an import. So is one
with a number that has a leading zero, the octal numbers of old included. Components
that need any of this are out of scope.
-/

/-- The grammar after a number of rounds. -/
def Grammar.ofRounds
    (bound : Nat) :
    Nat →
    Grammar
  | 0 => .nothing
  | rounds + 1 =>
      let grammar := { ofRounds bound rounds with bound }
      { bound
        expression := grammar.readExpression
        assignment := grammar.readAssignment
        operation := grammar.readOperation
        operand := grammar.readOperand
        access := grammar.readAccess
        constructed := grammar.readConstructed
        pattern := grammar.readPattern
        statement := grammar.readStatement }

/-- Split a first line that starts with `#!` from a script. -/
def splitHashbang :
    List Char →
    Option String × List Char
  | '#' :: '!' :: text =>
      let line := text.takeWhile (fun character => !isLineEnd character)
      (some (String.ofList line), text.dropWhile (fun character => !isLineEnd character))
  | text => (none, text)

/-- Read a script, or nothing if it does not follow the grammar. -/
def readProgram?
    (source : String) :
    Option Program := do
  let characters := source.toList
  let size := characters.length
  let (hashbang, text) := splitHashbang characters
  let grammar := Grammar.ofRounds (size + 2) (size + 2)
  let read := Grammar.readStatements grammar.bound Cursor.isAtEnd (grammar.statement .top .listed)
  let ((directives, statements), _) ← read.run (Cursor.ofText size text)
  let settled ← Node.settleAll? statements
  if (settled.flatMap Node.exportedNames).Nodup then
    some { hashbang, directives, statements := settled }
  else
    none

/-- Read a script. -/
def readProgram
    (source : String) :
    Outcome Program :=
  match readProgram? source with
  | some program => .ok program
  | none => .fail .malformed

/-- Read a script of exactly one statement. -/
def readStatement
    (source : String) :
    Outcome Node := do
  let program ← readProgram source
  match program.statements with
  | [statement] => return statement
  | _ => .fail (.notSingleStatement source)

/-- Read a snippet: a script of one statement that goes into another script. -/
def readSnippet
    (source : String) :
    Outcome Node :=
  (readStatement source).map Node.unplaced

end Reactivity.Script
