import Reactivity.Script.Cursor

namespace Reactivity.Script

/-!
# Grammar of scripts

The parts of the grammar refer to each other, so each is written against a record
of the parts it needs, and the record is closed in one place. Every reader that
goes through the record has read at least one token before, so a number of rounds
as large as the script closes it.
-/

/-- What the place of an expression or statement allows. -/
structure Context where
  allowsAwait : Bool
  allowsYield : Bool
  allowsReturn : Bool
  /-- The operator `in` may stand outside of parentheses. -/
  allowsIn : Bool
  deriving Repr, DecidableEq

namespace Context

/-- The top level of a script. -/
def top : Context where
  allowsAwait := true
  allowsYield := false
  allowsReturn := false
  allowsIn := true

/-- The inside of a function. -/
def inFunction
    (isAsync isGenerator : Bool) :
    Context where
  allowsAwait := isAsync
  allowsYield := isGenerator
  allowsReturn := true
  allowsIn := true

/-- The initial value of a class field. -/
def inField : Context where
  allowsAwait := false
  allowsYield := false
  allowsReturn := false
  allowsIn := true

/-- The static block of a class in a place. -/
def inStaticBlock
    (context : Context) :
    Context where
  allowsAwait := true
  allowsYield := false
  allowsReturn := false
  allowsIn := context.allowsIn

/-- The same place inside of brackets. -/
def enclosed
    (context : Context) :
    Context :=
  { context with allowsIn := true }

end Context

/-- Where a statement stands. -/
inductive Placement where
  /-- In a list of statements. -/
  | listed
  /-- Alone as the body of another statement. -/
  | single
  deriving Repr, DecidableEq

/-- The mutually recursive parts of the grammar. -/
structure Grammar where
  /-- More than the number of tokens in a script. -/
  bound : Nat
  /-- An expression, perhaps a sequence. -/
  expression : Context → Reader Node
  /-- An expression that is no sequence. -/
  assignment : Context → Reader Node
  /-- Operators that bind tighter than a level. -/
  operation : Context → Level → Reader Node
  /-- An operand of the operators between two operands. -/
  operand : Context → Reader Node
  /-- Member accesses and calls. -/
  access : Context → Reader Node
  /-- What is constructed by `new`: member accesses without calls. -/
  constructed : Context → Reader Node
  /-- A binding pattern. -/
  pattern : Context → Reader Node
  /-- A statement. -/
  statement : Context → Placement → Reader Node

namespace Grammar

/-- The grammar that reads nothing. -/
def nothing : Grammar where
  bound := 0
  expression := fun _ => failure
  assignment := fun _ => failure
  operation := fun _ _ => failure
  operand := fun _ => failure
  access := fun _ => failure
  constructed := fun _ => failure
  pattern := fun _ => failure
  statement := fun _ _ => failure

end Grammar

/-- Words that name nothing. -/
def reservedWords : List String :=
  ["await", "break", "case", "catch", "class", "const", "continue", "debugger", "default",
    "delete", "do", "else", "enum", "export", "extends", "false", "finally", "for", "function",
    "if", "import", "in", "instanceof", "new", "null", "return", "super", "switch", "this",
    "throw", "true", "try", "typeof", "var", "void", "while", "with"]

/-- The word can name something in a place. -/
def isName
    (context : Context)
    (word : String) :
    Bool :=
  !reservedWords.contains word && !(context.allowsYield && word == "yield")

/-- The name at a cursor, if there is one. -/
def Cursor.name?
    (cursor : Cursor)
    (context : Context) :
    Option String :=
  match cursor.token with
  | .word word _ => if isName context word then some word else none
  | _ => none

namespace Reader

/-- Read a name. -/
def name
    (context : Context) :
    Reader String := do
  match (← cursor).name? context with
  | some name =>
      advance
      return name
  | none => failure

/-- Read a name if there is one. -/
def name?
    (context : Context) :
    Reader (Option String) := do
  match (← cursor).name? context with
  | some name =>
      advance
      return some name
  | none => return none

/-- Read a node and require a symbol after it. -/
def before
    (symbol : String)
    (read : Reader Node) :
    Reader Node := do
  let node ← read
  expect symbol
  return node

/-- Read a node between parentheses that belong to a statement. -/
def inParentheses
    (read : Reader Node) :
    Reader Node := do
  expect "("
  before ")" read

end Reader

namespace Grammar

open Reader

/-- Read the key of a property and say whether it was computed. -/
def readKey
    (grammar : Grammar)
    (context : Context) :
    Reader (Node × Bool) := do
  let current ← cursor
  match current.token with
  | .word word _ =>
      advance
      return (← finish current.start .part (.propertyName word), false)
  | .string value _ =>
      advance
      return (← finish current.start .expression (.string value), false)
  | .number value =>
      advance
      return (← finish current.start .expression (.number value), false)
  | .bigInteger value =>
      advance
      return (← finish current.start .expression (.bigInteger value), false)
  | .symbol "[" =>
      advance
      return (← before "]" (grammar.assignment context.enclosed), true)
  | _ => failure

/-- Read `=` and a value if they are there. -/
def readInitial
    (grammar : Grammar)
    (context : Context) :
    Reader (List Node) := do
  if ← accept "=" then
    return [← grammar.assignment context]
  else
    return []

end Grammar

/-- The current token can start the key of a class member. -/
def Cursor.isAtKey
    (cursor : Cursor) :
    Bool :=
  match cursor.token with
  | .word _ _ | .privateWord _ | .string _ _ | .number _ | .bigInteger _ | .symbol "[" => true
  | _ => false

end Reactivity.Script
