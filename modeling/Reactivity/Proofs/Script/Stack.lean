import Reactivity.Proofs.Script.Walk

namespace Reactivity.Script

/-!
# Walks with a stack

A walk hands the chain of ancestors down to the children of a node. The same can be done
with one stack for the whole walk: what is put on it before the children of a node is
taken from it behind them. The questions to the rule and the images are the same, and the
stack is at the end of every node as it was before.
-/

/-- What a walk with a stack carries along. -/
structure StackState (state : Type) where
  carried : WalkState state
  /-- The chain of ancestors, innermost first. -/
  stack : List Ancestor

namespace StackState

variable {state : Type}

/-- Put labels on the stack. -/
def push
    (labels : List Ancestor)
    (current : StackState state) :
    StackState state :=
  { current with stack := labels ++ current.stack }

/-- Take as many labels from the stack. -/
def pop
    (labels : List Ancestor)
    (current : StackState state) :
    StackState state :=
  { current with stack := current.stack.drop labels.length }

end StackState

namespace Rule

variable {state : Type} (rule : Rule state)

mutual

/-- Walk a node with a stack: its image, and what is carried on. -/
def stackNode :
    Node →
    StackState state →
    Node × StackState state
  | .mk form role span children, current =>
      let labels := Ancestor.labels form role children
      match StopKind.ofForm? form with
      | none =>
          let (images, later) := stackNodes form children (current.push labels)
          (.mk form role span images, later.pop labels)
      | some kind =>
          match rule.enter current.stack (.mk form role span children) current.carried.own with
          | (.skip image, own) => (image, { current with carried.own := own })
          | (.descend edit, own) =>
              let opened : StackState state := { current with carried.own := own }
              let (images, later) := stackNodes form children (opened.push labels)
              (edit (.mk form role span images), later.pop labels)
          | (.insertAfter statement, own) =>
              let opened : StackState state := { current with carried.own := own }
              let (images, later) := stackNodes form children (opened.push labels)
              let left := later.pop labels
              (.mk form role span images,
                { left with carried := request kind statement left.carried })

/-- Walk the children of a node with a stack. -/
def stackNodes
    (form : Form) :
    List Node →
    StackState state →
    List Node × StackState state
  | [], current => ([], current)
  | node :: nodes, current =>
      let (image, visited) := stackNode node current
      let (inserted, between) := collect form visited.carried
      let (images, later) := stackNodes form nodes { visited with carried := between }
      (image :: inserted ++ images, later)

end

/-- Walk the statements of a script with a stack that is empty at first. -/
def stackWalk
    (statements : List Node)
    (first : state) :
    List Node × StackState state :=
  rule.stackNodes .block statements { carried := { own := first }, stack := [] }

variable {rule}

/-- If each of some nodes leaves the stack as it was, so do all of them. -/
theorem stackNodes_of_each
    {nodes : List Node}
    {stack : List Ancestor}
    (each :
      ∀ node ∈ nodes, ∀ carried,
        rule.stackNode node { carried, stack } =
          ((rule.walkNode stack node carried).1,
            { carried := (rule.walkNode stack node carried).2, stack }))
    (form : Form)
    (carried : WalkState state) :
    rule.stackNodes form nodes { carried, stack } =
      ((rule.walkNodes form stack nodes carried).1,
        { carried := (rule.walkNodes form stack nodes carried).2, stack }) := by
  induction nodes generalizing carried with
  | nil =>
      rfl
  | cons node rest inductionHypothesis =>
      have others := inductionHypothesis (fun other member =>
        each other (List.mem_cons_of_mem _ member))
      rw [stackNodes, each node List.mem_cons_self, walkNodes_cons]
      dsimp only
      rw [others]

/-- A walk with a stack leaves the stack as it was, and else does what a walk does. -/
theorem stackNode_eq
    (node : Node)
    (stack : List Ancestor)
    (carried : WalkState state) :
    rule.stackNode node { carried, stack } =
      ((rule.walkNode stack node carried).1,
        { carried := (rule.walkNode stack node carried).2, stack }) := by
  induction node using Node.inductionOnChildren generalizing stack carried with
  | step form role span children inductionHypothesis =>
      have below (stack : List Ancestor) (carried : WalkState state) :=
        stackNodes_of_each (fun child member carried =>
          inductionHypothesis child member stack carried) form carried
      cases stop : StopKind.ofForm? form with
      | none =>
          rw [walkNode_of_noStop rule stop]
          simp [stackNode, stop, StackState.push, StackState.pop, below]
      | some kind =>
          rcases asked : rule.enter stack (.mk form role span children) carried.own with
            ⟨_ | _ | _, own⟩
          all_goals
            simp [stackNode, walkNode, stop, asked, StackState.push, StackState.pop, below]

/-- At the end of a walk with a stack the stack is empty. -/
theorem stackWalk_eq
    (statements : List Node)
    (first : state) :
    (rule.stackWalk statements first).2.stack = [] ∧
      ((rule.stackWalk statements first).1, (rule.stackWalk statements first).2.carried.own) =
        rule.walk statements first := by
  rw [stackWalk, stackNodes_of_each (fun node _ carried => stackNode_eq node [] carried)]
  exact ⟨rfl, rfl⟩

end Rule

end Reactivity.Script
