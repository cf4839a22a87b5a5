import Reactivity.Refresh.CheckStop
import Reactivity.Script.Walk

namespace Reactivity.Refresh

open Script

/-!
# Injection of refresh calls

Every function starts by asking for a refresh, and an asynchronous function
declaration asks again after each await that is a statement of its body. There are
exceptions: empty functions, callbacks that run once for each item, callbacks for
the end of a component, and functions with a check stop, which ask for a refresh
only there.
-/

/-- The name of the function that asks for a refresh. -/
def refreshName : String :=
  "$$apply"

/-- The statement that calls the refresh function with some arguments. -/
def callStatement
    (values : List Node) :
    Node :=
  .statement .expressionStatement
    [.expression (.call false) (.expression (.identifier refreshName) :: values)]

/-- The statement that asks for a refresh. -/
def refreshStatement : Node :=
  callStatement []

/-- The statement that takes the place of a check stop. -/
def stopStatement : Node :=
  callStatement [.expression (.boolean false)]

/-- Replace the first marker among some statements, if there is one. -/
def replaceMarker? :
    List Node →
    Option (List Node)
  | [] => none
  | statement :: rest =>
      if isMarker statement then
        some (stopStatement :: rest)
      else
        (replaceMarker? rest).map (fun replaced => statement :: replaced)

/-- Change the statements of a function or arrow function. -/
def mapBody
    (change : List Node → List Node) :
    Node →
    Node
  | .mk form role span [parameters, .mk bodyForm bodyRole bodySpan statements] =>
      .mk form role span [parameters, .mk bodyForm bodyRole bodySpan (change statements)]
  | node => node

/-- The statements of a function or arrow function. -/
def bodyStatements :
    Node →
    List Node
  | .mk _ _ _ [_, .mk _ _ _ statements] => statements
  | _ => []

/-- The statements of an arrow function whose value was written without braces. -/
def returnValue :
    List Node →
    List Node
  | [.mk .expressionStatement _ _ [value]] => [.statement .returning [value]]
  | statements => statements

/-- Give an arrow function braces: its value becomes a return statement. -/
def blockArrow :
    Node →
    Node
  | .mk (.arrow head) role span children =>
      mapBody returnValue (.mk (.arrow { head with isConcise := false }) role span children)
  | node => node

/-- Put a refresh at the start of a function. -/
def refreshAtStart :
    Node →
    Node :=
  mapBody (refreshStatement :: ·)

/-- The node stands directly in a call of an iteration method. -/
def isIterationCallback
    (ancestors : List Ancestor) :
    Bool :=
  ancestors.head? == some (.call .iterationMethod)

/-- The node stands directly in a call of the destroy hook. -/
def isDestroyCallback
    (ancestors : List Ancestor) :
    Bool :=
  ancestors.head? == some (.call .destroyHook)

/-- What is decided at a function with braces, and how many refreshes that adds. -/
def enterFunction
    (skipsDestroy : Bool)
    (ancestors : List Ancestor)
    (node : Node) :
    Flow × Nat :=
  let statements := bodyStatements node
  if statements.isEmpty then
    (.descend id, 0)
  else if skipsDestroy && isDestroyCallback ancestors then
    (.skip node, 0)
  else
    match replaceMarker? statements with
    | some replaced => (.skip (mapBody (fun _ => replaced) node), 0)
    | none =>
        if isIterationCallback ancestors then
          (.descend id, 0)
        else
          (.descend refreshAtStart, 1)

/-- What is decided at an arrow function. -/
def enterArrow
    (skipsDestroy : Bool)
    (ancestors : List Ancestor)
    (head : ArrowHead)
    (node : Node) :
    Flow × Nat :=
  if skipsDestroy && isDestroyCallback ancestors then
    (.skip node, 0)
  else if head.isConcise then
    if isIterationCallback ancestors then
      (.descend id, 0)
    else
      (.descend (fun image => refreshAtStart (blockArrow image)), 1)
  else
    enterFunction skipsDestroy ancestors node

/-- What is decided at an await. -/
def enterAwait :
    List Ancestor →
    Flow × Nat
  | .expressionStatement :: .functionBody :: .function true true :: _ =>
      (.insertAfter refreshStatement, 1)
  | _ => (.descend id, 0)

/-- What is decided at a node. -/
def decide
    (skipsDestroy : Bool)
    (ancestors : List Ancestor)
    (node : Node) :
    Flow × Nat :=
  match node.form with
  | .function _ => enterFunction skipsDestroy ancestors node
  | .arrow head => enterArrow skipsDestroy ancestors head node
  | .awaiting => enterAwait ancestors
  | _ => (.descend id, 0)

/--
The rule that injects refresh calls and counts them.

With `skipsDestroy`, callbacks that are handed to the destroy hook are left alone.
-/
def injection
    (skipsDestroy : Bool) :
    Rule Nat where
  enter := fun ancestors node count =>
    let (flow, added) := decide skipsDestroy ancestors node
    (flow, count + added)

/-- Inject refresh calls into the statements of a script, and count them. -/
def inject
    (skipsDestroy : Bool)
    (statements : List Node) :
    List Node × Nat :=
  (injection skipsDestroy).walk statements 0

end Reactivity.Refresh
