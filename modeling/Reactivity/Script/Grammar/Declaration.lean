import Reactivity.Script.Grammar.Expression

namespace Reactivity.Script.Grammar

open Reader

/-!
# Declarations

Variables and functions that a statement or an export declares.
-/

/-- A declarator can do without a value: neither its keyword nor its pattern needs one. -/
def declaratorFits
    (keyword : VariableKeyword)
    (declarator : Node) :
    Bool :=
  match declarator.children with
  | [pattern] =>
      match pattern.form with
      | .identifier _ => keyword != .const
      | _ => false
  | _ => true

/-- Read a declarator. -/
def readDeclarator
    (grammar : Grammar)
    (context : Context) :
    Reader Node := do
  let start ← position
  let pattern ← grammar.pattern context
  let values ← grammar.readInitial context
  finish start .part .declarator (pattern :: values)

/-- Read the keyword of a variable declaration. -/
def readVariableKeyword :
    Reader VariableKeyword := do
  if ← acceptWord "var" then
    return .var
  else if ← acceptWord "let" then
    return .let
  else
    expectWord "const"
    return .const

/-- Read a variable declaration without its end. -/
def readVariables
    (grammar : Grammar)
    (context : Context)
    (role : Role) :
    Reader Node := do
  let start ← position
  let keyword ← readVariableKeyword
  let first ← grammar.readDeclarator context
  let declarators ← repeated (fun declarators => do
    if ← accept "," then
      return .inl ((← grammar.readDeclarator context) :: declarators)
    else
      return .inr declarators.reverse) grammar.bound [first]
  finish start role (.declaration keyword) declarators

/-- The declarators of a variable declaration fit without a loop around them. -/
def declaratorsFit
    (declaration : Node) :
    Bool :=
  match declaration.form with
  | .declaration keyword => declaration.children.all (declaratorFits keyword)
  | _ => true

/-- Read the end of a statement, which belongs to it. -/
def readEnd
    (statement : Node) :
    Reader Node := do
  semicolon
  finish statement.span.start statement.role statement.form statement.children

/-- Read a variable declaration with its end. -/
def readDeclaration
    (grammar : Grammar)
    (context : Context)
    (role : Role) :
    Reader Node := do
  let declaration ← grammar.readVariables context role
  require (declaratorsFit declaration)
  readEnd declaration

/-- Read a function declaration as a statement. -/
def readFunctionStatement
    (grammar : Grammar)
    (context : Context)
    (placement : Placement) :
    Reader Node := do
  let function ← grammar.readFunction context .statement true
  match function.form with
  | .function head =>
      require head.name.isSome
      require (placement == .listed || !head.isAsync && !head.isGenerator)
      return function
  | _ => failure

end Reactivity.Script.Grammar
