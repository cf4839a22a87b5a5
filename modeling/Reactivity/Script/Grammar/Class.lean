import Reactivity.Script.Grammar.Literal

namespace Reactivity.Script.Grammar

open Reader

/-!
# Classes
-/

/-- What is written before the key of a class member. -/
structure MemberModifiers where
  isStatic : Bool := false
  isAsync : Bool := false
  isGenerator : Bool := false
  kind : PropertyKind := .method
  deriving Repr, DecidableEq

/-- The text of a key that is not computed. -/
def keyText? :
    Node →
    Bool →
    Option String
  | _, true => none
  | key, false =>
      match key.form with
      | .propertyName name => some name
      | .string value => some value
      | _ => none

/-- A method named `constructor` is plain, and no static method is named `prototype`. -/
def methodNameFits
    (modifiers : MemberModifiers) :
    Option String →
    Bool
  | some "constructor" =>
      modifiers.isStatic ||
        !modifiers.isAsync && !modifiers.isGenerator && modifiers.kind == .method
  | some "prototype" => !modifiers.isStatic
  | _ => true

/-- No field is named `constructor`, and no static field `prototype`. -/
def fieldNameFits
    (isStatic : Bool) :
    Option String →
    Bool
  | some "constructor" => false
  | some "prototype" => !isStatic
  | _ => true

/-- Read the key of a class member, which may be private. -/
def readMemberKey
    (grammar : Grammar)
    (context : Context) :
    Reader (Node × Bool) := do
  let current ← cursor
  match current.token with
  | .privateWord name =>
      require (name != "constructor")
      advance
      return (← finish current.start .part (.privateName name), false)
  | _ => grammar.readKey context

/-- Read the key of a class member and what follows it. -/
def readMemberAfter
    (grammar : Grammar)
    (context : Context)
    (start : Nat)
    (modifiers : MemberModifiers) :
    Reader Node := do
  let (key, isComputed) ← grammar.readMemberKey context
  let isModified := modifiers.isAsync || modifiers.isGenerator || modifiers.kind != .method
  let opens ← isAt "("
  if isModified || opens then
    require (methodNameFits modifiers (keyText? key isComputed))
    let function ←
      grammar.readMethod modifiers.kind modifiers.isAsync modifiers.isGenerator
    finish start .part (.classMethod modifiers.kind modifiers.isStatic isComputed)
      [key, function]
  else
    require (fieldNameFits modifiers.isStatic (keyText? key isComputed))
    let values ← grammar.readInitial .inField
    semicolon
    finish start .part (.classField modifiers.isStatic isComputed) (key :: values)

/-- Read a class member after `static`, if that was there. -/
def readMemberFrom
    (grammar : Grammar)
    (context : Context)
    (start : Nat)
    (isStatic : Bool) :
    Reader Node := do
  let current ← cursor
  let following := current.next
  if current.isAt "*" then
    advance
    grammar.readMemberAfter context start { isStatic, isGenerator := true }
  else if current.isAtWord "async" && !following.isOnNewLine &&
      (following.isAtKey || following.isAt "*") then
    advance
    let isGenerator ← accept "*"
    grammar.readMemberAfter context start { isStatic, isAsync := true, isGenerator }
  else if current.isAtWord "get" && following.isAtKey then
    advance
    grammar.readMemberAfter context start { isStatic, kind := .getter }
  else if current.isAtWord "set" && following.isAtKey then
    advance
    grammar.readMemberAfter context start { isStatic, kind := .setter }
  else
    grammar.readMemberAfter context start { isStatic }

/-- Read a class member. -/
def readMember
    (grammar : Grammar)
    (context : Context) :
    Reader Node := do
  let current ← cursor
  let following := current.next
  if current.isAtWord "static" && following.isAt "\x7b" then
    advance
    expect "\x7b"
    let statements ←
      untilSymbol grammar.bound "\x7d" (grammar.statement context.inStaticBlock .listed)
    finish current.start .part .staticBlock statements
  else if current.isAtWord "static" && (following.isAtKey || following.isAt "*") then
    advance
    grammar.readMemberFrom context current.start true
  else
    grammar.readMemberFrom context current.start false

/-- Read the name of a class if it has one; the word `implements` does not name one. -/
def readClassName
    (context : Context) :
    Reader (Option String) := do
  if ← isAtWord "implements" then
    return none
  else
    name? context

/-- Read the superclass of a class if it has one. -/
def readSuperclass
    (grammar : Grammar)
    (context : Context) :
    Reader Node := do
  if ← acceptWord "extends" then
    grammar.access context
  else
    return .absent

/-- Read the members of a class; a semicolon is no member. -/
def readMembers
    (grammar : Grammar)
    (context : Context) :
    Reader (List Node) :=
  repeated (fun members => do
    if ← accept "\x7d" then
      return .inr members.reverse
    else if ← accept ";" then
      return .inl members
    else
      return .inl ((← grammar.readMember context) :: members)) grammar.bound []

/-- Read a class. -/
def readClass
    (grammar : Grammar)
    (context : Context)
    (role : Role)
    (isDeclaration : Bool) :
    Reader Node := do
  let start ← position
  expectWord "class"
  let name ← readClassName context
  let superclass ← grammar.readSuperclass context
  expect "\x7b"
  let members ← grammar.readMembers context
  finish start role (.classBody name isDeclaration) (superclass :: members)

end Reactivity.Script.Grammar
