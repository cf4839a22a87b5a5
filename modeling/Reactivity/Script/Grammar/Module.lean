import Reactivity.Script.Grammar.Declaration

namespace Reactivity.Script.Grammar

open Reader

/-!
# Imports and exports

Both are statements and may stand wherever a statement does.
-/

/-- Read a name in an import or export list. -/
def readModuleName :
    Reader ModuleName := do
  match (← cursor).token with
  | .word word _ =>
      advance
      return .plain word
  | .string value _ =>
      advance
      return .quoted value
  | _ => failure

/-- Read the name of a module. -/
def readSource :
    Reader String := do
  match (← cursor).token with
  | .string value _ =>
      advance
      return value
  | _ => failure

/-- Read the keys and values of attributes; no key is repeated. -/
def readAttributeEntries
    (bound : Nat) :
    Reader (List (ModuleName × String)) := do
  expect "\x7b"
  let entries ← separated bound "\x7d" do
    let key ← readModuleName
    expect ":"
    return (key, ← readSource)
  require (decide (entries.map (fun entry => entry.1.text)).Nodup)
  return entries

/-- Read the attributes of an import or export if there are any. -/
def readAttributes
    (bound : Nat) :
    Reader (Option ModuleAttributes) := do
  let current ← cursor
  if current.isAtWord "with" then
    advance
    return some { entries := ← readAttributeEntries bound }
  else if current.isAtWord "assert" && !current.isOnNewLine then
    advance
    return some { isAssertion := true, entries := ← readAttributeEntries bound }
  else
    return none

/-- Read one entry of an import list. -/
def readImportEntry
    (context : Context) :
    Reader ImportBinding := do
  let current ← cursor
  let imported ← readModuleName
  if ← acceptWord "as" then
    return .named imported (← name context)
  else
    match current.name? context with
    | some name => return .named imported name
    | none => failure

/-- Read the list of an import, or the name for all that is imported. -/
def readImportList
    (bound : Nat)
    (context : Context) :
    Reader (List ImportBinding) := do
  if ← accept "*" then
    expectWord "as"
    return [.everything (← name context)]
  else
    expect "\x7b"
    separated bound "\x7d" (readImportEntry context)

/-- Read what an import binds. -/
def readImportBindings
    (bound : Nat)
    (context : Context) :
    Reader (List ImportBinding) := do
  match ← name? context with
  | some name =>
      if ← accept "," then
        return .default name :: (← readImportList bound context)
      else
        return [.default name]
  | none => readImportList bound context

/-- Read an import. -/
def readImport
    (bound : Nat)
    (context : Context) :
    Reader Node := do
  let start ← position
  expectWord "import"
  let bindings ←
    match (← cursor).token with
    | .string _ _ => pure none
    | _ =>
        let bindings ← readImportBindings bound context
        expectWord "from"
        pure (some bindings)
  let source ← readSource
  let attributes ← readAttributes bound
  semicolon
  finish start .statement (.importing bindings source attributes)

/-- Read one entry of an export list. -/
def readExportEntry :
    Reader ExportEntry := do
  let inner ← readModuleName
  if ← acceptWord "as" then
    return { inner, outer := ← readModuleName }
  else
    return { inner, outer := inner }

/-- Words that an export list may take only from another module. -/
def unexportableWords : List String :=
  ["yield", "implements", "interface", "package", "private", "protected", "public", "static"] ++
    reservedWords

/-- The name can be exported from the script itself. -/
def isExportable :
    ModuleName →
    Bool
  | .plain name => !unexportableWords.contains name
  | .quoted _ => false

/-- Read the rest of an export list. -/
def readExportList
    (bound : Nat)
    (start : Nat) :
    Reader Node := do
  expect "\x7b"
  let entries ← separated bound "\x7d" readExportEntry
  if ← acceptWord "from" then
    let source ← readSource
    let attributes ← readAttributes bound
    semicolon
    finish start .statement (.exportList entries (some source) attributes)
  else
    require (entries.all (fun entry => isExportable entry.inner))
    semicolon
    finish start .statement (.exportList entries none none)

/-- Read the rest of an export of all names of another module. -/
def readExportAll
    (bound : Nat)
    (start : Nat) :
    Reader Node := do
  expect "*"
  let outer ← if ← acceptWord "as" then pure (some (← readModuleName)) else pure none
  expectWord "from"
  let source ← readSource
  let attributes ← readAttributes bound
  semicolon
  finish start .statement (.exportAll outer source attributes)

/-- A cursor stands at a function, asynchronous or not. -/
def isAtFunction
    (cursor : Cursor) :
    Bool :=
  let following := cursor.next
  cursor.isAtWord "function" ||
    cursor.isAtWord "async" && following.isAtWord "function" && !following.isOnNewLine

/-- Read the rest of a default export. -/
def readExportDefault
    (grammar : Grammar)
    (context : Context)
    (start : Nat) :
    Reader Node := do
  let current ← cursor
  if isAtFunction current then
    let function ← grammar.readFunction context .part true
    finish start .statement .exportDefault [function]
  else if current.isAtWord "class" then
    let definition ← grammar.readClass context .part true
    finish start .statement .exportDefault [definition]
  else
    let value ← grammar.readAssignment context
    semicolon
    finish start .statement .exportDefault [value]

/-- Read a declaration that is exported. -/
def readExported
    (grammar : Grammar)
    (context : Context) :
    Reader Node := do
  let current ← cursor
  if isAtFunction current then
    let function ← grammar.readFunctionStatement context .listed
    return function.withRole .part
  else if current.isAtWord "class" then
    grammar.readClass context .part true
  else
    grammar.readDeclaration context .part

/-- Read an export. -/
def readExport
    (grammar : Grammar)
    (context : Context) :
    Reader Node := do
  let start ← position
  expectWord "export"
  if ← acceptWord "default" then
    grammar.readExportDefault context start
  else if ← isAt "\x7b" then
    readExportList grammar.bound start
  else if ← isAt "*" then
    readExportAll grammar.bound start
  else
    let declaration ← grammar.readExported context
    finish start .statement .exportDeclaration [declaration]

end Reactivity.Script.Grammar
