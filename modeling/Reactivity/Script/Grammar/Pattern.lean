import Reactivity.Script.Grammar.Basic

namespace Reactivity.Script.Grammar

open Reader

/-!
# Binding patterns

Names and destructuring patterns of declarations and parameters.
-/

/-- Read a pattern with a default value if there is one. -/
def readElement
    (grammar : Grammar)
    (context : Context) :
    Reader Node := do
  let start ← position
  let pattern ← grammar.pattern context
  match ← grammar.readInitial context.enclosed with
  | [] => return pattern
  | values => finish start .part .defaulted (pattern :: values)

/-- Read a rest up to the closing symbol that must follow it. -/
def readRest
    (close : String)
    (read : Reader Node) :
    Reader Node := do
  let start ← position
  expect "..."
  let pattern ← read
  require (← isAt close)
  finish start .part .rest [pattern]

/-- Read a comma unless a closing symbol follows. -/
def readSeparator
    (close : String) :
    Reader Unit := do
  unless ← isAt close do
    expect ","

/-- Read an array pattern. -/
def readArrayPattern
    (grammar : Grammar)
    (context : Context) :
    Reader Node := do
  let start ← position
  expect "["
  let items ← untilSymbol grammar.bound "]" do
    if ← accept "," then
      return .absent
    else if ← isAt "..." then
      readRest "]" (grammar.pattern context)
    else
      let item ← grammar.readElement context
      readSeparator "]"
      return item
  finish start .part (.arrayPattern true) items

/-- Read a name as a pattern. -/
def readNamePattern
    (context : Context) :
    Reader Node := do
  let start ← position
  let name ← name context
  finish start .part (.identifier name)

/-- Read a property of an object pattern. -/
def readPatternProperty
    (grammar : Grammar)
    (context : Context) :
    Reader Node := do
  let current ← cursor
  let (key, isComputed) ← grammar.readKey context
  if ← accept ":" then
    let pattern ← grammar.readElement context
    finish current.start .part (.patternProperty isComputed false) [key, pattern]
  else
    match current.name? context with
    | none => failure
    | some name =>
        let pattern ← finish current.start .part (.identifier name)
        match ← grammar.readInitial context.enclosed with
        | [] => finish current.start .part (.patternProperty false true) [key, pattern]
        | values =>
            let defaulted ← finish current.start .part .defaulted (pattern :: values)
            finish current.start .part (.patternProperty false true) [key, defaulted]

/-- Read an object pattern. -/
def readObjectPattern
    (grammar : Grammar)
    (context : Context) :
    Reader Node := do
  let start ← position
  expect "\x7b"
  let properties ← untilSymbol grammar.bound "\x7d" do
    if ← isAt "..." then
      readRest "\x7d" (readNamePattern context)
    else
      let property ← grammar.readPatternProperty context
      readSeparator "\x7d"
      return property
  finish start .part (.objectPattern true) properties

/-- Read a binding pattern. -/
def readPattern
    (grammar : Grammar)
    (context : Context) :
    Reader Node := do
  let current ← cursor
  if current.isAt "[" then
    grammar.readArrayPattern context
  else if current.isAt "\x7b" then
    grammar.readObjectPattern context
  else
    readNamePattern context

/-- Read the parameters of a function. -/
def readParameters
    (grammar : Grammar)
    (context : Context) :
    Reader Node := do
  let start ← position
  expect "("
  let items ← untilSymbol grammar.bound ")" do
    if ← isAt "..." then
      readRest ")" (grammar.pattern context)
    else
      let item ← grammar.readElement context
      readSeparator ")"
      return item
  finish start .part .parameters items

end Reactivity.Script.Grammar
