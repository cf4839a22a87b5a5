import Reactivity.Proofs.Script.Walk
import Reactivity.Refresh.Injection

namespace Reactivity.Refresh

open Script

/-!
# Images of the injecting walk

What the injecting walk puts in the place of a node depends on the chain of
ancestors only: neither on how many refreshes have been counted, nor on what is
waiting to be inserted, because in a well-formed script nothing ever waits when the
walk comes to a node. A request is made only by an await that is a statement of an
asynchronous function declaration, and the body of that declaration takes it at
once.
-/

/-- What the injecting walk puts in the place of a node with a chain of ancestors. -/
def image
    (skipsDestroy : Bool)
    (ancestors : List Ancestor)
    (node : Node) :
    Node :=
  ((injection skipsDestroy).walkNode ancestors node { own := 0 }).1

/-- The state of a walk that has counted more. -/
def counted
    (count : Nat)
    (current : WalkState Nat) :
    WalkState Nat :=
  { current with own := count + current.own }

variable {skipsDestroy : Bool}

/-- The rule decides without looking at what has been counted. -/
theorem injection_enter
    (ancestors : List Ancestor)
    (node : Node)
    (count : Nat) :
    (injection skipsDestroy).enter ancestors node count =
      ((decide skipsDestroy ancestors node).1,
        count + (decide skipsDestroy ancestors node).2) :=
  rfl

/-- A node at which the injecting rule is asked. -/
theorem walkNode_of_stop
    {form : Form}
    {kind : StopKind}
    (isStop : StopKind.ofForm? form = some kind)
    (role : Role)
    (span : Span)
    (children : List Node)
    (ancestors : List Ancestor)
    (current : WalkState Nat) :
    (injection skipsDestroy).walkNode ancestors (.mk form role span children) current =
      let inner := Ancestor.labels form role children ++ ancestors
      let decision := decide skipsDestroy ancestors (.mk form role span children)
      let opened := counted decision.2 current
      let walked := (injection skipsDestroy).walkNodes form inner children opened
      match decision.1 with
      | .skip image => (image, opened)
      | .descend edit => (edit (.mk form role span walked.1), walked.2)
      | .insertAfter statement =>
          (.mk form role span walked.1, Rule.request kind statement walked.2) := by
  simp only [Rule.walkNode, isStop, injection_enter, counted,
    Nat.add_comm current.own]
  cases (decide skipsDestroy ancestors (.mk form role span children)).1 <;> rfl

/-- Lists of nodes are walked alike whatever has been counted. -/
theorem walkNodes_counted
    {nodes : List Node}
    (alike :
      ∀ node ∈ nodes, ∀ ancestors count current,
        (injection skipsDestroy).walkNode ancestors node (counted count current) =
          let walked := (injection skipsDestroy).walkNode ancestors node current
          (walked.1, counted count walked.2))
    (form : Form)
    (ancestors : List Ancestor)
    (count : Nat)
    (current : WalkState Nat) :
    (injection skipsDestroy).walkNodes form ancestors nodes (counted count current) =
      let walked := (injection skipsDestroy).walkNodes form ancestors nodes current
      (walked.1, counted count walked.2) := by
  induction nodes generalizing current with
  | nil =>
      rfl
  | cons node rest inductionHypothesis =>
      have collected (visited : WalkState Nat) :
          Rule.collect form (counted count visited) =
            ((Rule.collect form visited).1, counted count (Rule.collect form visited).2) := by
        unfold Rule.collect
        split <;> rfl
      simp only [Rule.walkNodes_cons, alike node (by simp), collected,
        inductionHypothesis (fun other member => alike other (by simp [member]))]

/-- Nodes are walked alike whatever has been counted. -/
theorem walkNode_counted
    (node : Node)
    (ancestors : List Ancestor)
    (count : Nat)
    (current : WalkState Nat) :
    (injection skipsDestroy).walkNode ancestors node (counted count current) =
      let walked := (injection skipsDestroy).walkNode ancestors node current
      (walked.1, counted count walked.2) := by
  induction node using Node.inductionOnChildren generalizing ancestors count current with
  | step form role span children inductionHypothesis =>
      cases isStop : StopKind.ofForm? form with
      | none =>
          simp only [Rule.walkNode_of_noStop _ isStop, walkNodes_counted inductionHypothesis]
      | some kind =>
          have recounted (more : Nat) :
              counted more (counted count current) = counted count (counted more current) := by
            simp only [counted, Nat.add_left_comm]
          simp only [walkNode_of_stop isStop, recounted, walkNodes_counted inductionHypothesis]
          cases (decide skipsDestroy ancestors (.mk form role span children)).1 with
          | skip image => rfl
          | descend edit => rfl
          | insertAfter statement => cases kind <;> rfl

/-- The image of a node does not depend on what has been counted. -/
theorem walkNode_image
    (ancestors : List Ancestor)
    (node : Node)
    (count : Nat) :
    ((injection skipsDestroy).walkNode ancestors node { own := count }).1 =
      image skipsDestroy ancestors node := by
  have recounted :
      (injection skipsDestroy).walkNode ancestors node { own := count } =
        (image skipsDestroy ancestors node,
          counted count ((injection skipsDestroy).walkNode ancestors node { own := 0 }).2) :=
    walkNode_counted node ancestors count { own := 0 }
  rw [recounted]

/-- The statement consists of an await. -/
def isBareAwait :
    Node →
    Bool
  | .mk .expressionStatement _ _ [.mk .awaiting _ _ _] => true
  | _ => false

/-- The chain of the statements of an asynchronous function declaration. -/
def isInAsyncDeclaration :
    List Ancestor →
    Bool
  | .functionBody :: .function true true :: _ => true
  | _ => false

/-- The chain of an await that is a statement of an asynchronous function declaration. -/
def isInAwaitStatement :
    List Ancestor →
    Bool
  | .expressionStatement :: outer => isInAsyncDeclaration outer
  | _ => false

/-- The walk of a node requests a refresh behind the statement that holds it. -/
def requests
    (ancestors : List Ancestor)
    (node : Node) :
    Bool :=
  match node.form with
  | .awaiting => isInAwaitStatement ancestors
  | _ => isBareAwait node && isInAsyncDeclaration ancestors

/-- The refresh that is waiting to be inserted after the walk of a node. -/
def pendingAfter
    (ancestors : List Ancestor)
    (node : Node) :
    Option Node :=
  if requests ancestors node then some refreshStatement else none

/-- What is decided at an await is to request a refresh, or nothing. -/
theorem enterAwait_eq
    (ancestors : List Ancestor) :
    enterAwait ancestors =
      if isInAwaitStatement ancestors then
        (.insertAfter refreshStatement, 1)
      else
        (.descend id, 0) := by
  unfold enterAwait
  split
  · rfl
  · next noMatch =>
      have noStatement : isInAwaitStatement ancestors = false := by
        unfold isInAwaitStatement
        split
        · unfold isInAsyncDeclaration
          split
          · exact (noMatch _ rfl).elim
          · rfl
        · rfl
      simp [noStatement]

/-- Nothing directly under this chain makes a request. -/
def isQuiet :
    List Ancestor →
    Bool
  | .expressionStatement :: _ | .functionBody :: _ => false
  | _ => true

/-- Under a quiet chain no request is made. -/
theorem requests_of_isQuiet
    {ancestors : List Ancestor}
    (quiet : isQuiet ancestors)
    (node : Node) :
    requests ancestors node = false := by
  have noStatement : isInAwaitStatement ancestors = false := by
    unfold isInAwaitStatement
    split
    · cases quiet
    · rfl
  have noDeclaration : isInAsyncDeclaration ancestors = false := by
    unfold isInAsyncDeclaration
    split
    · cases quiet
    · rfl
  unfold requests
  split
  · exact noStatement
  · simp [noDeclaration]

/-- The labels of a form that does not hold statements or an awaited value are quiet. -/
theorem isQuiet_inner
    {form : Form}
    {role : Role}
    {children : List Node}
    {ancestors : List Ancestor}
    (noBody : ¬ Rule.isBody form)
    (noStatement : form ≠ .expressionStatement)
    (noAwait : form ≠ .awaiting)
    (admitted : role = .part → isQuiet ancestors) :
    isQuiet (Ancestor.labels form role children ++ ancestors) := by
  cases form with
  | body directives =>
      exact (noBody rfl).elim
  | expressionStatement =>
      exact (noStatement rfl).elim
  | awaiting =>
      exact (noAwait rfl).elim
  | call isOptional =>
      cases children <;> rfl
  | function head | arrow head =>
      rfl
  | _ =>
      cases role with
      | statement | expression => rfl
      | part => exact admitted rfl

/--
A well-formed node that can stand under a chain of ancestors.

A part of a node has no label of its own, so it must not hide between an await and
the statement or body that the chain speaks of.
-/
structure Placed
    (ancestors : List Ancestor)
    (node : Node) :
    Prop where
  wellFormed : node.isWellFormed
  admitted : node.role = .part → isQuiet ancestors

/-- A statement can stand under every chain. -/
theorem Placed.ofStands
    {node : Node}
    (stands : node.Stands .statement)
    (ancestors : List Ancestor) :
    Placed ancestors node where
  wellFormed := stands.wellFormed
  admitted isPart := by
    rw [stands.hasRole] at isPart
    cases isPart

/-- The children of a node can stand under the chain that the node makes. -/
theorem Placed.children
    {form : Form}
    {role : Role}
    {span : Span}
    {children : List Node}
    {ancestors : List Ancestor}
    (placed : Placed ancestors (.mk form role span children)) :
    ∀ child ∈ children, Placed (Ancestor.labels form role children ++ ancestors) child := by
  obtain ⟨atRoot, below⟩ := Node.isWellFormed_mk.mp placed.wellFormed
  intro child member
  refine ⟨below child member, fun isPart => ?_⟩
  have roleMember : Role.part ∈ children.map Node.role :=
    isPart ▸ List.mem_map_of_mem member
  refine isQuiet_inner ?_ ?_ ?_ placed.admitted
  · intro isBody
    cases form with
    | body directives =>
        simp only [Form.fits, Bool.and_eq_true, List.all_eq_true] at atRoot
        simpa using atRoot.2 _ roleMember
    | _ => cases isBody
  · rintro rfl
    simp only [Form.fits, Bool.and_eq_true, beq_iff_eq] at atRoot
    simp [atRoot.2] at roleMember
  · rintro rfl
    simp only [Form.fits, Bool.and_eq_true, beq_iff_eq] at atRoot
    simp [atRoot.2] at roleMember

/-- The images of the children of a node of some form, and what a body inserts behind them. -/
def images
    (skipsDestroy : Bool)
    (form : Form)
    (ancestors : List Ancestor)
    (nodes : List Node) :
    List Node :=
  nodes.flatMap (fun node =>
    image skipsDestroy ancestors node ::
      if Rule.isBody form then (pendingAfter ancestors node).toList else [])

/-- The image of a node is among the images of its list. -/
theorem image_mem_images
    {node : Node}
    {nodes : List Node}
    (member : node ∈ nodes)
    (form : Form)
    (ancestors : List Ancestor) :
    image skipsDestroy ancestors node ∈ images skipsDestroy form ancestors nodes :=
  List.mem_flatMap_of_mem member (List.mem_cons_self ..)

/-- Nothing is inserted among the children of a node that is no body. -/
theorem images_of_noBody
    {form : Form}
    (noBody : Rule.isBody form = false)
    (ancestors : List Ancestor)
    (nodes : List Node) :
    images skipsDestroy form ancestors nodes = nodes.map (image skipsDestroy ancestors) := by
  simp [images, noBody, List.map_eq_flatMap]

/--
A walk of children inserts what their images request, and carries nothing on.

A body takes every request at once. In any other list no child makes one.
-/
theorem walkNodes_images
    {form : Form}
    {ancestors : List Ancestor}
    {nodes : List Node}
    (requested :
      ∀ node ∈ nodes, ∀ count,
        ((injection skipsDestroy).walkNode ancestors node { own := count }).2.pending =
          pendingAfter ancestors node)
    (taken : Rule.isBody form ∨ ∀ node ∈ nodes, requests ancestors node = false)
    (count : Nat) :
    let walked := (injection skipsDestroy).walkNodes form ancestors nodes { own := count }
    walked.1 = images skipsDestroy form ancestors nodes ∧ walked.2.pending = none := by
  induction nodes generalizing count with
  | nil =>
      exact ⟨rfl, rfl⟩
  | cons node rest inductionHypothesis =>
      have nodeRequested := requested node (by simp) count
      have collected :
          Rule.collect form
              ((injection skipsDestroy).walkNode ancestors node { own := count }).2 =
            (if Rule.isBody form then (pendingAfter ancestors node).toList else [],
              { own :=
                  ((injection skipsDestroy).walkNode ancestors node { own := count }).2.own }) := by
        generalize ((injection skipsDestroy).walkNode ancestors node { own := count }).2 =
          visited at nodeRequested ⊢
        obtain ⟨own, pending⟩ := visited
        obtain rfl : pending = pendingAfter ancestors node := nodeRequested
        unfold Rule.collect
        split
        · rfl
        · next noBody =>
            have noRequest := taken.resolve_left noBody node (by simp)
            simp [pendingAfter, noRequest]
      have restWalked := inductionHypothesis
        (fun other member => requested other (by simp [member]))
        (taken.imp_right (fun none other member => none other (by simp [member])))
      simp only [Rule.walkNodes_cons, collected, walkNode_image, restWalked]
      simp [images]

/-- An expression is no statement that consists of an await. -/
theorem isBareAwait_of_expression
    {node : Node}
    (wellFormed : node.isWellFormed)
    (isExpression : node.role = .expression) :
    isBareAwait node = false := by
  unfold isBareAwait
  split
  · have atRoot := (Node.isWellFormed_mk.mp wellFormed).1
    simp only [Form.fits, Bool.and_eq_true, beq_iff_eq] at atRoot
    rw [Node.role_mk, atRoot.1] at isExpression
    cases isExpression
  · rfl

/-- A node that is neither an await nor an expression statement makes no request. -/
theorem pendingAfter_of_other
    {form : Form}
    (noAwait : form ≠ .awaiting)
    (noStatement : form ≠ .expressionStatement)
    (role : Role)
    (span : Span)
    (children : List Node)
    (ancestors : List Ancestor) :
    pendingAfter ancestors (.mk form role span children) = none := by
  have noBareAwait : isBareAwait (.mk form role span children) = false := by
    unfold isBareAwait
    split
    · next shape =>
        cases shape
        exact (noStatement rfl).elim
    · rfl
  have noRequest : requests ancestors (.mk form role span children) = false := by
    unfold requests
    split
    · next isAwait => exact (noAwait isAwait).elim
    · simp [noBareAwait]
  simp [pendingAfter, noRequest]

/-- The request of an expression statement is that of its expression. -/
theorem pendingAfter_expressionStatement
    {value : Node}
    (wellFormed : value.isWellFormed)
    (isExpression : value.role = .expression)
    (role : Role)
    (span : Span)
    (ancestors : List Ancestor) :
    pendingAfter ancestors (.mk .expressionStatement role span [value]) =
      pendingAfter (.expressionStatement :: ancestors) value := by
  have noBareAwait := isBareAwait_of_expression wellFormed isExpression
  obtain ⟨form, valueRole, valueSpan, children⟩ := value
  cases form with
  | awaiting =>
      rfl
  | _ =>
      simp only [pendingAfter, requests, Node.form_mk, noBareAwait, Bool.false_and]
      rfl

/-- The requests of children are taken by their body, unless they are those of an await. -/
theorem Placed.taken
    {form : Form}
    {role : Role}
    {span : Span}
    {children : List Node}
    {ancestors : List Ancestor}
    (placed : Placed ancestors (.mk form role span children))
    (noAwait : form ≠ .awaiting)
    (noStatement : form ≠ .expressionStatement) :
    Rule.isBody form ∨
      ∀ child ∈ children,
        requests (Ancestor.labels form role children ++ ancestors) child = false := by
  by_cases isBody : Rule.isBody form
  · exact .inl isBody
  · exact .inr (fun child _ =>
      requests_of_isQuiet (isQuiet_inner isBody noStatement noAwait placed.admitted) child)

/-- After the walk of a node that is well placed, just its own request is waiting. -/
theorem walkNode_pending
    {ancestors : List Ancestor}
    {node : Node}
    (placed : Placed ancestors node)
    (count : Nat) :
    ((injection skipsDestroy).walkNode ancestors node { own := count }).2.pending =
      pendingAfter ancestors node := by
  induction node using Node.inductionOnChildren generalizing ancestors count with
  | step form role span children inductionHypothesis =>
      obtain ⟨atRoot, below⟩ := Node.isWellFormed_mk.mp placed.wellFormed
      have requested :
          ∀ child ∈ children, ∀ count,
            ((injection skipsDestroy).walkNode (Ancestor.labels form role children ++ ancestors)
                child { own := count }).2.pending =
              pendingAfter (Ancestor.labels form role children ++ ancestors) child :=
        fun child member => inductionHypothesis child member (placed.children child member)
      -- In most nodes no child makes a request, so nothing is waiting after the children.
      have carried
          (noAwait : form ≠ .awaiting)
          (noStatement : form ≠ .expressionStatement)
          (opened : Nat) :
          ((injection skipsDestroy).walkNodes form
              (Ancestor.labels form role children ++ ancestors) children
              { own := opened }).2.pending = none :=
        (walkNodes_images requested (placed.taken noAwait noStatement) opened).2
      cases form with
      | awaiting =>
          simp only [Form.fits, Bool.and_eq_true, beq_iff_eq] at atRoot
          obtain ⟨value, rfl, isExpression⟩ := List.map_eq_singleton_iff.mp atRoot.2
          rw [walkNode_of_stop rfl]
          have decision :
              decide skipsDestroy ancestors (.mk .awaiting role span [value]) =
                enterAwait ancestors :=
            rfl
          simp only [decision, enterAwait_eq]
          by_cases isRequest : isInAwaitStatement ancestors
          · simp [isRequest, pendingAfter, requests, Rule.request]
          · -- An await under this chain makes no request, so neither does the awaited value.
            have noBareAwait := isBareAwait_of_expression (below value (by simp)) isExpression
            have noRequest : requests ancestors value = false := by
              unfold requests
              split
              · simpa using isRequest
              · simp [noBareAwait]
            have valuePending : pendingAfter ancestors value = none := by
              simp [pendingAfter, noRequest]
            have awaitPending :
                pendingAfter ancestors (.mk .awaiting role span [value]) = none := by
              simp [pendingAfter, requests, isRequest]
            rw [if_neg isRequest, awaitPending]
            exact (requested value (by simp) (0 + count)).trans valuePending
      | expressionStatement =>
          simp only [Form.fits, Bool.and_eq_true, beq_iff_eq] at atRoot
          obtain ⟨value, rfl, isExpression⟩ := List.map_eq_singleton_iff.mp atRoot.2
          rw [Rule.walkNode_of_noStop _ rfl,
            pendingAfter_expressionStatement (below value (by simp)) isExpression]
          exact requested value (by simp) count
      | function head | arrow head =>
          rw [walkNode_of_stop rfl, pendingAfter_of_other (by simp) (by simp)]
          have walked := carried (by simp) (by simp)
          dsimp only
          split
          · rfl
          · exact walked _
          · exact walked _
      | _ =>
          rw [Rule.walkNode_of_noStop _ rfl, pendingAfter_of_other (by simp) (by simp)]
          exact carried (by simp) (by simp) count

/-- The children of a node that is well placed have the images that `images` gives. -/
theorem Placed.walkNodes_eq
    {form : Form}
    {role : Role}
    {span : Span}
    {children : List Node}
    {ancestors : List Ancestor}
    (placed : Placed ancestors (.mk form role span children))
    (count : Nat) :
    let inner := Ancestor.labels form role children ++ ancestors
    ((injection skipsDestroy).walkNodes form inner children { own := count }).1 =
      images skipsDestroy form inner children := by
  have atRoot := (Node.isWellFormed_mk.mp placed.wellFormed).1
  have requested :
      ∀ child ∈ children, ∀ count,
        ((injection skipsDestroy).walkNode
            (Ancestor.labels form role children ++ ancestors) child { own := count }).2.pending =
          pendingAfter (Ancestor.labels form role children ++ ancestors) child :=
    fun child member => walkNode_pending (placed.children child member)
  cases form with
  | awaiting | expressionStatement =>
      simp only [Form.fits, Bool.and_eq_true, beq_iff_eq] at atRoot
      obtain ⟨value, rfl, isExpression⟩ := List.map_eq_singleton_iff.mp atRoot.2
      simp [Rule.walkNodes, Rule.collect, Rule.isBody, images, walkNode_image]
  | _ =>
      exact (walkNodes_images requested (placed.taken (by simp) (by simp)) count).1

/-- The image of a node is what is decided, carried out on the images of its children. -/
theorem image_mk
    {form : Form}
    {role : Role}
    {span : Span}
    {children : List Node}
    {ancestors : List Ancestor}
    (placed : Placed ancestors (.mk form role span children)) :
    image skipsDestroy ancestors (.mk form role span children) =
      (decide skipsDestroy ancestors (.mk form role span children)).1.applyTo
        (.mk form role span
          (images skipsDestroy form (Ancestor.labels form role children ++ ancestors)
            children)) := by
  unfold image
  cases isStop : StopKind.ofForm? form with
  | none =>
      have decision :
          decide skipsDestroy ancestors (.mk form role span children) = (.descend id, 0) := by
        cases form with
        | function | arrow | awaiting => cases isStop
        | _ => rfl
      rw [Rule.walkNode_of_noStop _ isStop, decision]
      simp only [placed.walkNodes_eq, Flow.applyTo, id]
  | some kind =>
      rw [walkNode_of_stop isStop]
      obtain ⟨flow, added⟩ := decide skipsDestroy ancestors (.mk form role span children)
      cases flow with
      | skip image => rfl
      | descend edit | insertAfter statement =>
          simp only [counted, placed.walkNodes_eq, Flow.applyTo]

end Reactivity.Refresh
