import Reactivity.Proofs.Script.WellFormed

namespace Reactivity.Script

/-!
# Moments of a walk

A walk is a run of calls, one for each node it comes to. A moment says with which
chain of ancestors, at which node and with which state one of these calls is made.
The calls that a walk makes are those that lead from its first moments down into the
children of the nodes that the rule does not skip.
-/

/-- Carry out a decision on a node. -/
def Flow.applyTo
    (node : Node) :
    Flow →
    Node
  | .skip image => image
  | .descend edit => edit node
  | .insertAfter _ => node

namespace Rule

variable {state : Type} (rule : Rule state)

/-- The children of a node are walked one after the other. -/
theorem walkNodes_cons
    (form : Form)
    (ancestors : List Ancestor)
    (node : Node)
    (nodes : List Node)
    (current : WalkState state) :
    rule.walkNodes form ancestors (node :: nodes) current =
      let visited := rule.walkNode ancestors node current
      let collected := collect form visited.2
      let rest := rule.walkNodes form ancestors nodes collected.2
      (visited.1 :: collected.1 ++ rest.1, rest.2) :=
  rfl

/-- A node at which the rule is not asked is rebuilt from the images of its children. -/
theorem walkNode_of_noStop
    {form : Form}
    (noStop : StopKind.ofForm? form = none)
    (role : Role)
    (span : Span)
    (children : List Node)
    (ancestors : List Ancestor)
    (current : WalkState state) :
    rule.walkNode ancestors (.mk form role span children) current =
      let inner := Ancestor.labels form role children ++ ancestors
      let walked := rule.walkNodes form inner children current
      (.mk form role span walked.1, walked.2) := by
  simp only [walkNode, noStop]

/-- Two chains under which the rule always decides alike, however long they grow. -/
def Alike
    (first second : List Ancestor) :
    Prop :=
  ∀ inner node own, rule.enter (inner ++ first) node own = rule.enter (inner ++ second) node own

variable {rule}

/-- Lists of nodes whose walks agree under two chains have walks that agree. -/
theorem walkNodes_congr
    {first second : List Ancestor}
    {nodes : List Node}
    (agree :
      ∀ node ∈ nodes, ∀ current,
        rule.walkNode first node current = rule.walkNode second node current)
    (form : Form)
    (current : WalkState state) :
    rule.walkNodes form first nodes current = rule.walkNodes form second nodes current := by
  induction nodes generalizing current with
  | nil =>
      rfl
  | cons node rest inductionHypothesis =>
      simp only [walkNodes_cons, agree node (by simp),
        inductionHypothesis (fun other member => agree other (by simp [member]))]

/-- The walk of a node is the same under chains that the rule does not tell apart. -/
theorem Alike.walkNode_eq
    {first second : List Ancestor}
    (alike : rule.Alike first second)
    (inner : List Ancestor)
    (node : Node)
    (current : WalkState state) :
    rule.walkNode (inner ++ first) node current = rule.walkNode (inner ++ second) node current := by
  induction node using Node.inductionOnChildren generalizing inner current with
  | step form role span children inductionHypothesis =>
      have below (current : WalkState state) :
          rule.walkNodes form (Ancestor.labels form role children ++ (inner ++ first)) children
              current =
            rule.walkNodes form (Ancestor.labels form role children ++ (inner ++ second)) children
              current := by
        rw [← List.append_assoc, ← List.append_assoc]
        exact walkNodes_congr (fun child member => inductionHypothesis child member _) form current
      simp only [walkNode, alike inner, below]

end Rule

/-- A call of a walk: it comes to a node with a chain of ancestors and a state. -/
structure Moment (state : Type) where
  ancestors : List Ancestor
  node : Node
  current : WalkState state

namespace Moment

variable {state : Type}

/-- The node that the walk puts in the place of the one it comes to. -/
def image
    (rule : Rule state)
    (moment : Moment state) :
    Node :=
  (rule.walkNode moment.ancestors moment.node moment.current).1

/-- The chain with which the walk comes to the children of the node. -/
def inner
    (moment : Moment state) :
    List Ancestor :=
  Ancestor.labels moment.node.form moment.node.role moment.node.children ++ moment.ancestors

/-- The state with which the walk goes on inside of the node, unless the rule skips it. -/
def opened?
    (rule : Rule state)
    (moment : Moment state) :
    Option (WalkState state) :=
  match StopKind.ofForm? moment.node.form with
  | none => some moment.current
  | some _ =>
      match rule.enter moment.ancestors moment.node moment.current.own with
      | (.skip _, _) => none
      | (_, own) => some { moment.current with own }

/-- The moment of a child, after the children before it have been walked. -/
def child
    (rule : Rule state)
    (moment : Moment state)
    (opened : WalkState state)
    (earlier : List Node)
    (node : Node) :
    Moment state where
  ancestors := moment.inner
  node := node
  current := (rule.walkNodes moment.node.form moment.inner earlier opened).2

/-- A walk that makes the call of one moment makes the call of another one in it. -/
inductive Leads
    (rule : Rule state) :
    Moment state →
    Moment state →
    Prop where
  | here (moment : Moment state) :
      Leads rule moment moment
  | inside
      {moment target : Moment state}
      {opened : WalkState state}
      {earlier later : List Node}
      {node : Node}
      (opens : moment.opened? rule = some opened)
      (children : moment.node.children = earlier ++ node :: later)
      (leads : Leads rule (moment.child rule opened earlier node) target) :
      Leads rule moment target

end Moment

/-- The walk of the statements of a script makes the call of a moment. -/
def Rule.Visits
    {state : Type}
    (rule : Rule state)
    (statements : List Node)
    (first : state)
    (moment : Moment state) :
    Prop :=
  ∃ earlier statement later,
    statements = earlier ++ statement :: later ∧
      Moment.Leads rule
        { ancestors := []
          node := statement
          current := (rule.walkNodes .block [] earlier { own := first }).2 }
        moment

end Reactivity.Script
