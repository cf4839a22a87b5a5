import Reactivity.Data.Value
import Reactivity.Script.Ancestor
import Reactivity.Script.Declared
import Reactivity.Text.NameSet
import Reactivity.Text.SimpleName

namespace Reactivity.Scope

open Data Script Text

/-!
# Root scope

The names that a script declares at its top level. What is declared inside of other
statements does not count.
-/

/-- The variables and functions of the top level. -/
structure Root where
  variableSet : NameSet
  functionSet : NameSet
  deriving DecidableEq

/-- The declaration that a statement of the top level is or exports. -/
def declaration? :
    Node →
    Option Node
  | .mk .exportDeclaration _ _ [declaration] => some declaration
  | .mk (.declaration keyword) role span children =>
      some (.mk (.declaration keyword) role span children)
  | .mk (.function head) role span children => some (.mk (.function head) role span children)
  | _ => none

/-- The variables that a statement of the top level declares. -/
def variableNames
    (statement : Node) :
    List String :=
  match declaration? statement with
  | none => []
  | some declaration =>
      match declaration.form with
      | .declaration _ => declaration.declaredNames
      | _ => []

/-- The functions that a statement of the top level declares. -/
def functionNames
    (statement : Node) :
    List String :=
  match declaration? statement with
  | none => []
  | some declaration =>
      match declaration.form with
      | .function _ => declaration.declaredNames
      | _ => []

/-- The names that the statements of a script declare. -/
def Root.scan
    (statements : List Node) :
    Root where
  variableSet := .ofList (statements.flatMap variableNames)
  functionSet := .ofList (statements.flatMap functionNames)

namespace Root

/-- The name is declared. -/
def declares
    (scope : Root)
    (name : String) :
    Bool :=
  scope.variableSet.contains name || scope.functionSet.contains name

/-- The script wants to be told when its component appears. -/
def hasOnMount
    (scope : Root) :
    Bool :=
  scope.functionSet.contains "onMount"

/-- The script wants to be told when its component ends. -/
def hasOnDestroy
    (scope : Root) :
    Bool :=
  scope.functionSet.contains "onDestroy"

/-- The script has no destroy hook of its own. -/
def needsDestroyHook
    (scope : Root) :
    Bool :=
  !scope.declares destroyHookName

/-- The script has no emitter of its own. -/
def needsEmitter
    (scope : Root) :
    Bool :=
  !scope.declares "$emit"

/-- The scope as a structured value. -/
def encode
    (scope : Root) :
    Value :=
  .record [("variables", .ofTexts scope.variableSet.names),
    ("functions", .ofTexts scope.functionSet.names)]

/-- Read a scope. -/
def decode?
    (value : Value) :
    Option Root := do
  let fields ← value.fieldsAs? ["variables", "functions"]
  let variableList ← Value.required? fields "variables" Value.asTexts?
  let functionList ← Value.required? fields "functions" Value.asTexts?
  return { variableSet := .ofList variableList, functionSet := .ofList functionList }

end Root

/-- What is wrong with the root name of a path. -/
inductive NameWarning where
  /-- The path does not start with a name. -/
  | noName (path : String)
  /-- The name at the start of the path is not declared. -/
  | undeclared (path : String)
  deriving Repr, DecidableEq

/-- The text of a warning. -/
def NameWarning.message :
    NameWarning →
    String
  | .noName path => "Error name: " ++ path
  | .undeclared path => "No name: " ++ path

/-- Check that the name at the start of a path is declared. -/
def Root.check
    (scope : Root)
    (path : String) :
    Option NameWarning :=
  match leadingSimpleName? path with
  | none => some (.noName path)
  | some name => if scope.declares name then none else some (.undeclared path)

/-- Check paths one after the other: the warnings that have been given after each. -/
def Root.checkAll
    (scope : Root)
    (given : List NameWarning) :
    List String →
    List (Bool × List NameWarning)
  | [] => []
  | path :: paths =>
      let warning := scope.check path
      let warnings := given ++ warning.toList
      (warning.isNone, warnings) :: scope.checkAll warnings paths

end Reactivity.Scope
