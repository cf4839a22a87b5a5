import Reactivity.Script.Ancestor

namespace Reactivity.Script

/-!
# Walks

A walk visits a script depth first in source order and asks a rule at every
function, arrow function and await, before it visits what is inside. The rule sees
the chain of ancestors, innermost first, and keeps a state of its own.

An await can ask for a statement to be inserted after the statement that holds it.
The walk keeps that statement until it has visited a statement of a function body,
and then puts it behind that one. A newer request replaces an older one.
-/

/-- The kinds of nodes at which a rule is asked. -/
inductive StopKind where
  | function
  | arrow
  | await
  deriving Repr, DecidableEq

/-- The kind of stop that a form is, if it is one. -/
def StopKind.ofForm? :
    Form →
    Option StopKind
  | .function _ => some .function
  | .arrow _ => some .arrow
  | .awaiting => some .await
  | _ => none

/-- What a rule decides at a node. -/
inductive Flow where
  /-- Do not visit the node, and put this node in its place. -/
  | skip (image : Node)
  /-- Visit the node, then edit it. -/
  | descend (edit : Node → Node)
  /-- Visit the await, then insert a statement after the one that holds it. -/
  | insertAfter (statement : Node)

/-- A rule: its decision at a node with a chain of ancestors, innermost first. -/
structure Rule (state : Type) where
  enter : List Ancestor → Node → state → Flow × state

/-- What a walk carries along: the rule's state, and a statement to insert. -/
structure WalkState (state : Type) where
  own : state
  pending : Option Node := none

namespace Rule

/-- Request an insertion; only an await can. -/
def request
    {state : Type}
    (kind : StopKind)
    (statement : Node)
    (current : WalkState state) :
    WalkState state :=
  match kind with
  | .await => { current with pending := some statement }
  | _ => current

/-- The form holds the statements of a function. -/
def isBody :
    Form →
    Bool
  | .body _ => true
  | _ => false

/-- What is inserted behind a statement of a function body, and what is carried on. -/
def collect
    {state : Type}
    (form : Form)
    (current : WalkState state) :
    List Node × WalkState state :=
  if isBody form then
    (current.pending.toList, { current with pending := none })
  else
    ([], current)

mutual

/-- Walk a node: its image, and what is carried on. -/
def walkNode
    {state : Type}
    (rule : Rule state)
    (ancestors : List Ancestor) :
    Node →
    WalkState state →
    Node × WalkState state
  | .mk form role span children, current =>
      let inner := Ancestor.labels form role children ++ ancestors
      match StopKind.ofForm? form with
      | none =>
          let (images, later) := walkNodes rule form inner children current
          (.mk form role span images, later)
      | some kind =>
          match rule.enter ancestors (.mk form role span children) current.own with
          | (.skip image, own) => (image, { current with own })
          | (.descend edit, own) =>
              let (images, later) := walkNodes rule form inner children { current with own }
              (edit (.mk form role span images), later)
          | (.insertAfter statement, own) =>
              let (images, later) := walkNodes rule form inner children { current with own }
              (.mk form role span images, request kind statement later)

/-- Walk the children of a node of some form one after the other. -/
def walkNodes
    {state : Type}
    (rule : Rule state)
    (form : Form)
    (ancestors : List Ancestor) :
    List Node →
    WalkState state →
    List Node × WalkState state
  | [], current => ([], current)
  | node :: nodes, current =>
      let (image, visited) := walkNode rule ancestors node current
      let (inserted, between) := collect form visited
      let (images, later) := walkNodes rule form ancestors nodes between
      (image :: inserted ++ images, later)

end

/-- Walk the statements of a script: their images, and the rule's last state. -/
def walk
    {state : Type}
    (rule : Rule state)
    (statements : List Node)
    (first : state) :
    List Node × state :=
  let (images, last) := rule.walkNodes .block [] statements { own := first }
  (images, last.own)

end Rule

end Reactivity.Script
