import Reactivity.Component.Parts
import Reactivity.Component.Options
import Reactivity.Refresh.Injection
import Reactivity.Script.Printing
import Reactivity.Script.Reading

namespace Reactivity.Component

open Data Script

/-!
# Compiling a script

A script becomes a module with one factory function, and a description of what its
component has.
-/

/-- A compiled script. -/
structure Compiled where
  watchers : List Watcher
  /-- The names of default imports. -/
  imports : List String
  props : List String
  scope : Scope.Root
  /-- The text of the module. -/
  code : String

/-- Put statements into the body of a function declaration, exported or not. -/
def withBody
    (statements : List Node) :
    Node →
    Node
  | .mk .exportDefault role span [function] =>
      .mk .exportDefault role span [Refresh.mapBody (fun _ => statements) function]
  | function => Refresh.mapBody (fun _ => statements) function

/-- The text of a factory function without statements. -/
def shellText
    (options : Options) :
    String :=
  (if options.exportDefault then "export default " else "") ++ "function " ++ options.name ++
    "($element, $option) \x7b\x7d"

/-- The statements of the module of a component. -/
def moduleStatements
    (options : Options)
    (parts : Parts) :
    Outcome (List Node) :=
  if Text.isSimpleName options.name then do
    let shell ← readStatement (shellText options)
    return parts.imports ++ [withBody parts.body shell]
  else
    .fail (.wrongComponentName options.name)

/-- Compile a script. -/
def compile
    (input : Input) :
    Outcome Compiled := do
  let source := Refresh.markCheckStops input.code
  let program ← readProgram source
  let scope := Scope.Root.scan program.statements
  let (statements, _) := Refresh.inject scope.needsDestroyHook program.statements
  let parts ← Parts.ofStatements source.toList scope statements
  let module ← moduleStatements input.options parts
  return {
    watchers := parts.watchers
    imports := parts.defaultImports
    props := parts.props
    scope
    code := { program with statements := module : Program }.print }

/-- A compiled script as a structured value. -/
def Compiled.encode
    (compiled : Compiled) :
    Value :=
  .record [("watchers", .ofTexts (compiled.watchers.map Watcher.render)),
    ("watcherDescriptors", .list (compiled.watchers.map Watcher.encode)),
    ("imports", .ofTexts compiled.imports),
    ("props", .ofTexts compiled.props),
    ("rootVariables", .ofTexts compiled.scope.variableSet.names),
    ("rootFunctions", .ofTexts compiled.scope.functionSet.names),
    ("onMount", .boolean compiled.scope.hasOnMount),
    ("onDestroy", .boolean compiled.scope.hasOnDestroy),
    ("code", .text compiled.code)]

end Reactivity.Component
