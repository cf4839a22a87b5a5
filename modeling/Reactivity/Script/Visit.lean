import Reactivity.Script.Walk

namespace Reactivity.Script

/-!
# Visits

The rule that changes nothing and notes where it was asked.
-/

/-- A place where a rule was asked. -/
structure Visit where
  kind : StopKind
  /-- The ancestors, innermost first. -/
  ancestors : List Ancestor
  deriving Repr, DecidableEq

namespace Visit

/-- Note every place, and skip the nodes of some kinds. The latest visit stands first. -/
def rule
    (skipped : List StopKind) :
    Rule (List Visit) where
  enter := fun ancestors node visits =>
    match StopKind.ofForm? node.form with
    | none => (.descend id, visits)
    | some kind =>
        let flow := if skipped.contains kind then Flow.skip node else Flow.descend id
        (flow, { kind, ancestors } :: visits)

/-- The visits of a walk in order. -/
def all
    (skipped : List StopKind)
    (statements : List Node) :
    List Visit :=
  ((rule skipped).walk statements []).2.reverse

/-- The descriptions of the ancestors, outermost first. -/
def parents
    (visit : Visit) :
    List String :=
  visit.ancestors.reverse.map Ancestor.describe

end Visit

/-- The name of a kind of stop. -/
def StopKind.name :
    StopKind →
    String
  | .function => "function"
  | .arrow => "arrow"
  | .await => "await"

/-- All kinds of stops. -/
def StopKind.all : List StopKind :=
  [.function, .arrow, .await]

/-- The kinds of stops that are named in a list. -/
def StopKind.named
    (names : List String) :
    List StopKind :=
  all.filter (fun kind => names.contains kind.name)

end Reactivity.Script
