import Reactivity.Component.Scaffold
import Reactivity.Script.Reading
import Reactivity.Watcher.Reactive

namespace Reactivity.Component

open Script

/-!
# Parts of a component

One pass over the statements of the top level of a script gathers what its component
is made of. Only at the end of the pass is it known what the header has to hold, and
after which registration the attributes that are left over can be declared. Where a
snippet cannot be read, the pass fails and blames no statement.
-/

/-- What a component is made of. -/
structure Parts where
  /-- Imports, which stay outside of the factory function. -/
  imports : List Node
  /-- The names of default imports. -/
  defaultImports : List String
  /-- The names of properties. -/
  props : List String
  watchers : List Watcher
  /-- The statements of the factory function. -/
  body : List Node

/-- What has been gathered of a component. -/
structure Draft where
  imports : List Node := []
  defaultImports : List String := []
  props : List String := []
  watchers : List Watcher := []
  /-- The statements of the factory function, without header and footer. -/
  body : List Node := []
  /-- How long the body was after the last registration of a property. -/
  lastProp : Option Nat := none

namespace Draft

/-- Add a statement to the body. -/
def push
    (draft : Draft)
    (statement : Node) :
    Draft :=
  { draft with body := draft.body ++ [statement] }

/-- Note the name of a default import, unless it has been noted. -/
def noteDefault
    (draft : Draft)
    (name : String) :
    Draft :=
  if draft.defaultImports.contains name then
    draft
  else
    { draft with defaultImports := draft.defaultImports ++ [name] }

/-- The names of default imports among some bindings. -/
def defaultNames
    (bindings : List ImportBinding) :
    List String :=
  bindings.filterMap (fun binding =>
    match binding with
    | .default name => some name
    | _ => none)

/-- Move an import out of the factory function. -/
def hoist
    (draft : Draft)
    (statement : Node)
    (bindings : Option (List ImportBinding)) :
    Draft :=
  let noted := (defaultNames (bindings.getD [])).foldl noteDefault draft
  { noted with imports := noted.imports ++ [statement] }

/-- The name that a declarator binds, if it binds just one without a pattern. -/
def declaratorName? :
    Node →
    Option String
  | .mk .declarator _ _ (.mk (.identifier name) _ _ _ :: _) => some name
  | _ => none

/-- The names that an exported variable declaration binds; they are properties. -/
def exportedProps
    (declaration : Node) :
    Outcome (List String) :=
  match declaration.form with
  | .declaration _ =>
      match declaration.children.mapM declaratorName? with
      | some names => .ok names
      | none => .fail .patternExport
  | _ => .fail .wrongExport

/-- Register a property. -/
def register
    (draft : Draft)
    (name : String) :
    Outcome Draft := do
  let body := draft.body ++ [← readSnippet (registrationText name)]
  return { draft with body, props := draft.props ++ [name], lastProp := some body.length }

/-- Add an exported variable declaration, and register the properties that it declares. -/
def addExport
    (draft : Draft)
    (declaration : Node)
    (names : List String) :
    Outcome Draft :=
  names.foldlM register (draft.push (declaration.withRole .statement))

/-- Add a reactive statement: its watcher, and the variable that it needs. -/
def addReactive
    (draft : Draft)
    (reactive : Reactive) :
    Outcome Draft := do
  let declarations ← reactive.declares.toList.mapM (readSnippet ∘ watchedVariableText)
  return { draft with
    watchers := draft.watchers ++ [reactive.watcher]
    body := draft.body ++ declarations }

/-- Add a statement of the script, and blame it if it is refused. -/
def add
    (source : List Char)
    (scope : Scope.Root)
    (draft : Draft)
    (statement : Node) :
    Outcome Draft :=
  match statement with
  | .mk (.importing bindings _ _) _ _ _ => .ok (draft.hoist statement bindings)
  | .mk .exportDeclaration _ span [declaration] => do
      let names ← Outcome.withContext (span.text source) (exportedProps declaration)
      draft.addExport declaration names
  | .mk (.exportList _ _ _) _ span _ =>
      Outcome.withContext (span.text source) (.fail .wrongExport)
  | .mk (.labeled label) _ span [body] =>
      if label == reactiveLabel then do
        let reactive ← Outcome.withContext (span.text source) (Reactive.ofBody source scope body)
        draft.addReactive reactive
      else
        .ok (draft.push statement)
  | _ => .ok (draft.push statement)

/--
The component that has been gathered.

The place of the left over attributes was noted before there was a header, so they are
inserted before the header is put in front.
-/
def finish
    (scope : Scope.Root)
    (draft : Draft) :
    Outcome Parts := do
  let body := draft.body ++ [← readSnippet footerText]
  let header ← (headerTexts scope draft.lastProp.isSome).mapM readSnippet
  let body ←
    match draft.lastProp with
    | some index => pure (body.insertIdx index (← readSnippet leftoverAttributesText))
    | none => pure body
  return {
    imports := draft.imports
    defaultImports := draft.defaultImports
    props := draft.props
    watchers := draft.watchers
    body := header ++ body }

end Draft

/-- The parts of the component that the statements of a script make. -/
def Parts.ofStatements
    (source : List Char)
    (scope : Scope.Root)
    (statements : List Node) :
    Outcome Parts := do
  let draft ← statements.foldlM (Draft.add source scope) {}
  draft.finish scope

end Reactivity.Component
