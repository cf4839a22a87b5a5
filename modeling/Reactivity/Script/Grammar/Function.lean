import Reactivity.Script.Grammar.Pattern

namespace Reactivity.Script.Grammar

open Reader

/-!
# Functions

Bodies, functions, methods and arrow functions.
-/

/-- The text of a directive, if a statement that starts at a cursor is one. -/
def directive?
    (cursor : Cursor) :
    Node →
    Option String
  | .mk .expressionStatement _ _ [.mk (.string _) _ _ _] =>
      match cursor.token with
      | .string _ raw => some raw
      | _ => none
  | _ => none

/-- Read a directive or a statement behind others, unless they are at their end. -/
def readStatementStep
    (isEnd : Cursor → Bool)
    (read : Reader Node) :
    List String × List Node →
    Reader ((List String × List Node) ⊕ (List String × List Node))
  | (directives, statements) => do
      let current ← cursor
      if isEnd current then
        return .inr (directives.reverse, statements.reverse)
      else
        let statement ← read
        match statements, directive? current statement with
        | [], some directive => return .inl (directive :: directives, [])
        | _, _ => return .inl (directives, statement :: statements)

/--
Read statements until the script stands at the end that `isEnd` recognises.

The leading statements that consist of a string alone are directives.
-/
def readStatements
    (bound : Nat)
    (isEnd : Cursor → Bool)
    (read : Reader Node) :
    Reader (List String × List Node) :=
  repeated (readStatementStep isEnd read) bound ([], [])

/-- Read the body of a function. -/
def readBody
    (grammar : Grammar)
    (context : Context) :
    Reader Node := do
  let start ← position
  expect "\x7b"
  let (directives, statements) ←
    readStatements grammar.bound (Cursor.isAt · "\x7d") (grammar.statement context .listed)
  expect "\x7d"
  finish start .part (.body directives) statements

/-- Read the parameters and body of a function. -/
def readParametersAndBody
    (grammar : Grammar)
    (start : Nat)
    (role : Role)
    (head : FunctionHead) :
    Reader Node := do
  let context := Context.inFunction head.isAsync head.isGenerator
  let parameters ← grammar.readParameters context
  let body ← grammar.readBody context
  finish start role (.function head) [parameters, body]

/-- Read a function that starts with `function` or `async`. -/
def readFunction
    (grammar : Grammar)
    (context : Context)
    (role : Role)
    (isDeclaration : Bool) :
    Reader Node := do
  let start ← position
  let isAsync ← acceptWord "async"
  expectWord "function"
  let isGenerator ← accept "*"
  let place := if isDeclaration then context else Context.inFunction isAsync isGenerator
  let name ← name? place
  grammar.readParametersAndBody start role { name, isAsync, isGenerator, isDeclaration }

/-- A getter has no parameters, and a setter exactly one that is no rest. -/
def parametersFit
    (kind : PropertyKind)
    (parameters : List Node) :
    Bool :=
  match kind, parameters with
  | .getter, [] => true
  | .getter, _ => false
  | .setter, [parameter] =>
      match parameter.form with
      | .rest => false
      | _ => true
  | .setter, _ => false
  | _, _ => true

/-- Read the function of a method. -/
def readMethod
    (grammar : Grammar)
    (kind : PropertyKind)
    (isAsync isGenerator : Bool) :
    Reader Node := do
  let function ←
    grammar.readParametersAndBody (← position) .expression { isAsync, isGenerator }
  match function.children with
  | parameters :: _ =>
      require (parametersFit kind parameters.children)
      return function
  | [] => failure

/-- Read an arrow and the body of its function, in which `in` is as free as around it. -/
def readArrow
    (grammar : Grammar)
    (context : Context)
    (start : Nat)
    (isAsync : Bool)
    (items : List Node) :
    Reader Node := do
  let parameters ← finish start .part .parameters items
  require (!(← cursor).isOnNewLine)
  expect "=>"
  let inside := { Context.inFunction isAsync false with allowsIn := context.allowsIn }
  if ← isAt "\x7b" then
    let body ← grammar.readBody inside
    finish start .expression (.arrow { isAsync }) [parameters, body]
  else
    let bodyStart ← position
    let value ← grammar.assignment inside
    let statement ← finish bodyStart .statement .expressionStatement [value]
    let body ← finish bodyStart .part (.body []) [statement]
    finish start .expression (.arrow { isAsync, isConcise := true }) [parameters, body]

end Reactivity.Script.Grammar
