import Reactivity.Failure
import Reactivity.Scope.Root
import Reactivity.Watcher.Basic

namespace Reactivity

open Script

/-!
# Reactive statements

A statement with the label `$` is reactive. It holds an assignment, or a sequence
of watched values that ends in a function.

The texts of a watcher are cut out of the source by the ranges of its nodes. A watcher is
built with any way to cut a range, and then with the one that takes the characters of the
source.
-/

/-- The label of reactive statements. -/
def reactiveLabel : String :=
  "$"

/-- What a reactive statement contributes to a component. -/
structure Reactive where
  watcher : Watcher
  /-- The variable that has to be declared for the watcher. -/
  declares : Option String
  deriving Repr, DecidableEq

namespace Reactive

/-- The value of an expression of this form can change. -/
def isWatchable :
    Form →
    Bool
  | .boolean _ | .null | .number _ | .bigInteger _ | .regex _ _ | .string _ | .template _
  | .metaProperty _ _ | .super => false
  | _ => true

/-- The node is a function or arrow function. -/
def isFunction :
    Form →
    Bool
  | .function _ | .arrow _ => true
  | _ => false

section Building

variable
  {computation : Type → Type}
  [Monad computation]
  [MonadExcept Failure computation]
  (cut : Span → computation String)
  (scope : Scope.Root)

/-- Refuse a statement, not saying which. -/
def refuse
    {α : Type}
    (cause : Cause) :
    computation α :=
  throw { cause }

/-- Require that the value of an expression can change. -/
def requireWatchable
    (value : Node) :
    computation Unit := do
  if isWatchable value.form then
    return ()
  else
    refuse (.constantValue (← cut value.span))

/-- The text of an assignment target, and the variable that it needs. -/
def target
    (node : Node) :
    computation (String × Option String) := do
  match node.form with
  | .identifier name =>
      return (name, if scope.variableSet.contains name then none else some name)
  | .member _ _ | .computedMember _ | .privateMember _ _ => return (← cut node.span, none)
  | _ => refuse (.wrongTarget (← cut node.span))

/-- A reactive assignment. -/
def ofAssignment
    (operator : AssignmentOperator)
    (left right : Node) :
    computation Reactive := do
  match operator with
  | .plain =>
      let (text, declares) ← target cut scope left
      requireWatchable cut right
      return { watcher := .assigned text (← cut right.span), declares }
  | _ => refuse (.wrongOperator operator.symbol)

/-- The watcher of a function and the values it depends on. -/
def tracked
    (first last : Node)
    (dependencies : List Node)
    (callback : Node) :
    computation Reactive := do
  let texts ← dependencies.mapM (fun dependency => cut dependency.span)
  let dependencySource ← cut ⟨first.span.start, last.span.stop⟩
  return {
    watcher := .tracked texts dependencySource (← cut callback.span)
    declares := none }

/-- A reactive sequence. -/
def ofSequence
    (items : List Node) :
    computation Reactive := do
  match items.getLast? with
  | none => refuse .emptySequence
  | some callback =>
      let dependencies := items.dropLast
      if isFunction callback.form then
        match dependencies.head?, dependencies.getLast? with
        | some first, some last =>
            dependencies.forM (requireWatchable cut)
            tracked cut first last dependencies callback
        | _, _ => refuse .noDependencies
      else
        refuse (.wrongCallback (← cut callback.span))

/-- The contribution of the expression of a reactive statement. -/
def ofExpression :
    Node →
    computation Reactive
  | .mk (.assignment operator) _ _ [left, right] => ofAssignment cut scope operator left right
  | .mk .sequence _ _ items => ofSequence cut items
  | value => do refuse (.wrongReactive (← cut value.span))

/-- The contribution of a reactive statement with this body. -/
def ofStatement :
    Node →
    computation Reactive
  | .mk .expressionStatement _ _ [value] => ofExpression cut scope value
  | _ => refuse .reactiveBody

end Building

/-- Take the characters of a range of the source. -/
def takeText
    (source : List Char)
    (span : Span) :
    Outcome String :=
  .ok (span.text source)

/-- The contribution of a reactive statement with this body, from the characters of the source. -/
def ofBody
    (source : List Char)
    (scope : Scope.Root)
    (body : Node) :
    Outcome Reactive :=
  ofStatement (takeText source) scope body

end Reactive

end Reactivity
