import Reactivity.Script.Grammar.Function

namespace Reactivity.Script.Grammar

open Reader

/-!
# Literals with parts

Arrays, objects, templates and regular expressions.
-/

/-- Read an item of an array or an argument: an expression or a spread. -/
def readItem
    (grammar : Grammar)
    (context : Context) :
    Reader Node := do
  let start ← position
  if ← accept "..." then
    let value ← grammar.assignment context.enclosed
    let isFollowed ← isAt ","
    finish start .part (.spread isFollowed) [value]
  else
    grammar.assignment context.enclosed

/-- Read an item of an array and the comma behind it; a comma alone stands for a hole. -/
def readArrayItem
    (grammar : Grammar)
    (context : Context) :
    Reader Node := do
  if ← accept "," then
    return .absent
  else
    let item ← grammar.readItem context
    readSeparator "]"
    return item

/-- Read an array. -/
def readArray
    (grammar : Grammar)
    (context : Context) :
    Reader Node := do
  let start ← position
  expect "["
  let items ← untilSymbol grammar.bound "]" (grammar.readArrayItem context)
  finish start .expression .array items

/-- The word at a cursor modifies the property whose name follows. -/
def isPropertyModifier
    (cursor : Cursor)
    (word : String) :
    Bool :=
  cursor.isAtWord word && !cursor.next.isAtAny ["(", ",", ":", "=", "\x7d"]

/-- Read a method of an object after its modifiers. -/
def readObjectMethod
    (grammar : Grammar)
    (context : Context)
    (start : Nat)
    (kind : PropertyKind)
    (isAsync isGenerator : Bool) :
    Reader Node := do
  let (key, isComputed) ← grammar.readKey context
  let function ← grammar.readMethod kind isAsync isGenerator
  finish start .part (.property kind isComputed false) [key, function]

/-- Read a property without modifiers. -/
def readPlainProperty
    (grammar : Grammar)
    (context : Context) :
    Reader Node := do
  let current ← cursor
  let (key, isComputed) ← grammar.readKey context
  let separator ← cursor
  if separator.isAt "(" then
    let function ← grammar.readMethod .method false false
    finish current.start .part (.property .method isComputed false) [key, function]
  else if separator.isAt ":" then
    advance
    let value ← grammar.assignment context.enclosed
    finish current.start .part (.property .value isComputed false) [key, value]
  else
    match current.name? context with
    | none => failure
    | some name =>
        let value ← finish current.start .expression (.identifier name)
        match ← grammar.readInitial context.enclosed with
        | [] => finish current.start .part (.property .value false true) [key, value]
        | values => finish current.start .part .shorthandDefault (key :: value :: values)

/-- Read a property of an object, or a spread. -/
def readProperty
    (grammar : Grammar)
    (context : Context) :
    Reader Node := do
  let current ← cursor
  if current.isAt "..." then
    grammar.readItem context
  else if current.isAt "*" then
    advance
    grammar.readObjectMethod context current.start .method false true
  else if isPropertyModifier current "async" then
    advance
    require (!(← cursor).isOnNewLine)
    let isGenerator ← accept "*"
    grammar.readObjectMethod context current.start .method true isGenerator
  else if isPropertyModifier current "get" then
    advance
    grammar.readObjectMethod context current.start .getter false false
  else if isPropertyModifier current "set" then
    advance
    grammar.readObjectMethod context current.start .setter false false
  else
    grammar.readPlainProperty context

/-- Read an object. -/
def readObject
    (grammar : Grammar)
    (context : Context) :
    Reader Node := do
  let start ← position
  expect "\x7b"
  let properties ← separated grammar.bound "\x7d" (grammar.readProperty context)
  finish start .expression .object properties

/-- Read a template; only one with a tag may hold escapes that the language lacks. -/
def readTemplate
    (grammar : Grammar)
    (context : Context)
    (role : Role)
    (isTagged : Bool) :
    Reader Node := do
  let current ← cursor
  let (texts, values) ← repeated (fun (texts, values, text) => do
    match readTemplateText? text with
    | none => failure
    | some (characters, isClosed, rest) =>
        let chunk := String.ofList characters
        require (isTagged || escapesAreValid chunk)
        continueAt rest
        if isClosed then
          return .inr ((chunk :: texts).reverse, values.reverse)
        else
          let value ← grammar.expression context.enclosed
          let close ← cursor
          require (close.isAt "\x7d")
          return .inl (chunk :: texts, value :: values, close.rest))
    grammar.bound ([], [], current.here.drop 1)
  finish current.start role (.template texts) values

/-- Read a regular expression. -/
def readRegex :
    Reader Node := do
  let current ← cursor
  match readRegex? (current.here.drop 1) with
  | none => failure
  | some (body, flags, rest) =>
      continueAt rest
      finish current.start .expression (.regex body flags)

end Reactivity.Script.Grammar
