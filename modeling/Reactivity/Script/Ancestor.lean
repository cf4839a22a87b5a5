import Reactivity.Script.Node

namespace Reactivity.Script

/-!
# Ancestors

The chain of ancestors of a node says what it stands in. Only the shapes that a
rule can ask for have a label of their own. Every other statement or expression is
labelled alike, so that a question about the innermost ancestor is a question
about the direct parent. Nodes that are neither statement nor expression have no
label.
-/

/-- What a call calls, as far as rules can ask. -/
inductive Callee where
  /-- A method whose callback runs once for each item. -/
  | iterationMethod
  /-- The hook that takes callbacks for the end of a component. -/
  | destroyHook
  | other
  deriving Repr, DecidableEq

/-- Methods whose callback runs once for each item. -/
def iterationMethods : List String :=
  ["forEach", "map", "filter"]

/-- The name of the hook that takes callbacks for the end of a component. -/
def destroyHookName : String :=
  "$onDestroy"

/-- What a call with this callee calls. -/
def Callee.ofForm :
    Form →
    Callee
  | .member name _ => if iterationMethods.contains name then .iterationMethod else .other
  | .identifier name => if name == destroyHookName then .destroyHook else .other
  | _ => .other

/-- The label of a node in the chains of its descendants. -/
inductive Ancestor where
  | call (callee : Callee)
  | expressionStatement
  | functionBody
  | function (isDeclaration isAsync : Bool)
  | arrowFunction
  | other
  deriving Repr, DecidableEq

namespace Ancestor

/-- The labels that nodes of a form add to the chains of their descendants. -/
def labels
    (form : Form)
    (role : Role)
    (children : List Node) :
    List Ancestor :=
  match form with
  | .function head => [.function head.isDeclaration head.isAsync]
  | .arrow _ => [.arrowFunction]
  | .body _ => [.functionBody]
  | .expressionStatement => [.expressionStatement]
  | .call _ =>
      match children with
      | callee :: _ => [.call (.ofForm callee.form)]
      | [] => [.call .other]
  | .awaiting => []
  | _ =>
      match role with
      | .statement | .expression => [.other]
      | .part => []

/-- The name of a callee in a description. -/
def describeCallee :
    Callee →
    String
  | .iterationMethod => "IterationMethod"
  | .destroyHook => "DestroyHook"
  | .other => "Other"

/-- The name of a truth value in a description. -/
def describeFlag
    (flag : Bool) :
    String :=
  if flag then "true" else "false"

/-- Describe a label. -/
def describe :
    Ancestor →
    String
  | .call callee => "Call(" ++ describeCallee callee ++ ")"
  | .expressionStatement => "ExpressionStatement"
  | .functionBody => "FunctionBody"
  | .function isDeclaration isAsync =>
      "Function \x7b declaration: " ++ describeFlag isDeclaration ++ ", is_async: " ++
        describeFlag isAsync ++ " \x7d"
  | .arrowFunction => "ArrowFunction"
  | .other => "Other"

end Ancestor

end Reactivity.Script
