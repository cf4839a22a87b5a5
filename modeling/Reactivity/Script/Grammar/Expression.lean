import Reactivity.Script.Grammar.Access

namespace Reactivity.Script.Grammar

open Reader

/-!
# Expressions

Operators, arrow functions and sequences.
-/

/-- Fail if there is no value. -/
def found
    {value : Type} :
    Option value →
    Reader value
  | some value => pure value
  | none => failure

/-- The update operator at a cursor. -/
def updateOperator?
    (cursor : Cursor) :
    Option UpdateOperator :=
  if cursor.isAt "++" then
    some .increment
  else if cursor.isAt "--" then
    some .decrement
  else
    none

/-- The unary operator at a cursor. -/
def unaryOperator?
    (cursor : Cursor) :
    Option UnaryOperator :=
  UnaryOperator.all.find? (fun operator =>
    if operator.isWord then cursor.isAtWord operator.symbol else cursor.isAt operator.symbol)

/-- Read an access, and an update operator behind it on the same line. -/
def readUpdated
    (grammar : Grammar)
    (context : Context) :
    Reader Node := do
  let start ← position
  let node ← grammar.readAccess context
  let current ← cursor
  match updateOperator? current with
  | some operator =>
      if current.isOnNewLine then
        return node
      else
        let target ← found node.simpleTarget?
        advance
        finish start .expression (.update operator false) [target]
  | none => return node

/-- Read an operand with the unary operators before it. -/
def readOperand
    (grammar : Grammar)
    (context : Context) :
    Reader Node := do
  let current ← cursor
  match unaryOperator? current, updateOperator? current with
  | some operator, _ =>
      advance
      let operand ← grammar.operand context
      finish current.start .expression (.unary operator) [operand]
  | none, some operator =>
      advance
      let target ← found (← grammar.operand context).simpleTarget?
      finish current.start .expression (.update operator true) [target]
  | none, none =>
      if current.isAtWord "await" then
        require context.allowsAwait
        advance
        let operand ← grammar.operand context
        finish current.start .expression .awaiting [operand]
      else
        grammar.readUpdated context

/-- An operator between two operands. -/
inductive Connective where
  | binary (operator : BinaryOperator)
  | logical (operator : LogicalOperator)
  deriving Repr, DecidableEq

/-- The level of an operator. -/
def Connective.level :
    Connective →
    Level
  | .binary operator => operator.level
  | .logical operator => operator.level

/-- The form of an operation. -/
def Connective.form :
    Connective →
    Form
  | .binary operator => .binary operator
  | .logical operator => .logical operator

/-- The level that the right operand must exceed: only powers nest to the right. -/
def Connective.rightLevel :
    Connective →
    Level
  | .binary .power => Level.power - 1
  | operator => operator.level

/-- The operator at a cursor. -/
def connective?
    (cursor : Cursor)
    (context : Context) :
    Option Connective :=
  match cursor.token with
  | .word "in" false => if context.allowsIn then some (.binary .membership) else none
  | .word "instanceof" false => some (.binary .instanceOf)
  | .symbol symbol =>
      match BinaryOperator.all.find? (fun operator => operator.symbol == symbol) with
      | some operator => some (.binary operator)
      | none =>
          (LogicalOperator.all.find? (fun operator => operator.symbol == symbol)).map .logical
  | _ => none

/-- The form of `&&` or `||`, which `??` does not mix with. -/
def isOtherLogical :
    Form →
    Bool
  | .logical .and | .logical .or => true
  | _ => false

/-- The form of a logical operation. -/
def isLogical :
    Form →
    Bool
  | .logical _ => true
  | _ => false

/-- The form of a question for a private name. -/
def isPrivateMembership :
    Form →
    Bool
  | .privateMembership _ => true
  | _ => false

/-- An operand, and whether its text opens with a parenthesis. -/
structure Operand where
  node : Node
  opens : Bool

/--
The operands fit an operator.

A power has no unary operator on its left. An operand of `??` is none of the other
logical operations unless its text opens with a parenthesis; a left operand is
looked at only if the right one is not logical.
-/
def operandsFit
    (operator : Connective)
    (left right : Operand) :
    Bool :=
  let mixes (operand : Operand) : Bool :=
    isOtherLogical operand.node.bare.form && !operand.opens
  match operator with
  | .binary .power =>
      match left.node.form with
      | .unary _ | .awaiting => false
      | _ => true
  | .logical .coalesce =>
      if isLogical right.node.bare.form then !mixes right else !mixes left
  | _ => true

/--
Read the first operand of an operation; it may be a private name before `in`.

Neither side of a question for a private name is another such question.
-/
def readFirstOperand
    (grammar : Grammar)
    (context : Context) :
    Reader Node := do
  let current ← cursor
  match current.token with
  | .privateWord name =>
      require context.allowsIn
      advance
      expectWord "in"
      let object ← grammar.operation context Level.comparison
      require (!isPrivateMembership object.bare.form)
      finish current.start .expression (.privateMembership name) [object]
  | _ => grammar.readOperand context

/-- Read operations of the operators that bind tighter than a level. -/
def readOperation
    (grammar : Grammar)
    (context : Context)
    (minimum : Level) :
    Reader Node := do
  let start ← position
  let leftOpens ← isAt "("
  let first ← grammar.readFirstOperand context
  repeated (fun left => do
    match connective? (← cursor) context with
    | some operator =>
        if minimum < operator.level then
          advance
          let rightOpens ← isAt "("
          let right ← grammar.operation context operator.rightLevel
          require (operandsFit operator ⟨left, leftOpens⟩ ⟨right, rightOpens⟩)
          return .inl (← finish start .expression operator.form [left, right])
        else
          return .inr left
    | none => return .inr left) grammar.bound first

/-- Read an operation, or a choice between two expressions. -/
def readConditional
    (grammar : Grammar)
    (context : Context) :
    Reader Node := do
  let start ← position
  let condition ← grammar.readOperation context .lowest
  if ← accept "?" then
    let consequent ← before ":" (grammar.assignment context.enclosed)
    let alternative ← grammar.assignment context
    finish start .expression .conditional [condition, consequent, alternative]
  else
    return condition

/-- Read an expression that starts with `yield`. -/
def readYield
    (grammar : Grammar)
    (context : Context) :
    Reader Node := do
  let start ← position
  expectWord "yield"
  let current ← cursor
  let isBare := current.isOnNewLine || current.isAtEnd ||
    current.isAtAny [")", "]", "\x7d", ",", ";", ":"] ||
    current.isAtWord "in"
  if isBare then
    finish start .expression (.yielding false)
  else
    let isDelegate ← accept "*"
    let value ← grammar.assignment context
    finish start .expression (.yielding isDelegate) [value]

/-- The assignment operator at a cursor. -/
def assignmentOperator?
    (cursor : Cursor) :
    Option AssignmentOperator :=
  AssignmentOperator.all.find? (fun operator => cursor.isAt operator.symbol)

/--
Read the head of an asynchronous arrow function up to its arrow.

Its parameters may hold `await` wherever it stands.
-/
def readAsyncHead
    (grammar : Grammar)
    (context : Context) :
    Reader (List Node) := do
  advance
  let parameters ← grammar.readParameters { context with allowsAwait := true }
  let following ← cursor
  require (following.isAt "=>" && !following.isOnNewLine)
  return parameters.children

/-- A cursor at `async` and a parenthesis on the same line. -/
def isAtAsyncHead
    (cursor : Cursor) :
    Bool :=
  cursor.isAtWord "async" && cursor.next.isAt "(" && !cursor.next.isOnNewLine

/--
Read the head of an asynchronous arrow function if there is one.

An empty list before a brace is such a head without its arrow, and an error.
-/
def readAsyncHead?
    (grammar : Grammar)
    (context : Context) :
    Reader (Option (List Node)) := do
  let current ← cursor
  if isAtAsyncHead current then
    let inside := current.next.next
    require (!(inside.isAt ")" && inside.next.isAt "\x7b"))
    (some <$> grammar.readAsyncHead context) <|> pure none
  else
    return none

/-- A cursor at `async`, a name and an arrow. -/
def isAtAsyncArrow
    (cursor : Cursor)
    (context : Context) :
    Bool :=
  let parameter := cursor.next
  cursor.isAtWord "async" && !parameter.isOnNewLine && (parameter.name? context).isSome &&
    parameter.next.isAt "=>"

/-- Read an assignment, an arrow function that is not asynchronous, or any other value. -/
def readAssigned
    (grammar : Grammar)
    (context : Context) :
    Reader Node := do
  let start ← position
  let left ← grammar.readConditional context
  let following ← cursor
  if following.isAt "=>" && !following.isOnNewLine then
    grammar.readArrow context start false (← found left.arrowHead?)
  else
    match assignmentOperator? following with
    | none => return left
    | some operator =>
        let target ← found (left.target? false)
        advance
        let value ← grammar.assignment context
        finish start .expression (.assignment operator) [target, value]

/-- Read an expression that is no sequence. -/
def readAssignment
    (grammar : Grammar)
    (context : Context) :
    Reader Node := do
  let current ← cursor
  if context.allowsYield && current.isAtWord "yield" then
    grammar.readYield context
  else if isAtAsyncArrow current context then
    advance
    let parameter ← readNamePattern context
    grammar.readArrow context current.start true [parameter]
  else
    match ← grammar.readAsyncHead? context with
    | some items => grammar.readArrow context current.start true items
    | none => grammar.readAssigned context

/-- Read an expression, perhaps a sequence. -/
def readExpression
    (grammar : Grammar)
    (context : Context) :
    Reader Node := do
  let start ← position
  let first ← grammar.readAssignment context
  if ← isAt "," then
    let items ← repeated (fun items => do
      if ← accept "," then
        return .inl ((← grammar.assignment context) :: items)
      else
        return .inr items.reverse) grammar.bound [first]
    finish start .expression .sequence items
  else
    return first

end Reactivity.Script.Grammar
