import Reactivity.Proofs.Refresh.Outline

namespace Reactivity.Refresh

open Script

/-!
# Counting refreshes

The refreshes of a script are the calls of the refresh function among the statements of its
functions. The rule counts a refresh when it decides on it: at a function for the one at its
start, at an await for the one that it requests. What the walk counts in a tree depends neither
on what has been counted nor on what is waiting to be inserted.
-/

/-- The statement calls the refresh function without arguments. -/
def isRefreshCall :
    Node →
    Bool
  | .mk .expressionStatement _ _ [.mk (.call false) _ _ [.mk (.identifier name) _ _ _]] =>
      name == refreshName
  | _ => false

mutual

/--
The number of refreshes among the statements of the bodies in a tree.

An arrow function without braces has a value in place of statements.
-/
def refreshes :
    Node →
    Nat
  | .mk (.arrow head) _ _ [parameters, .mk _ _ _ statements] =>
      refreshes parameters +
        (if head.isConcise then 0 else statements.countP isRefreshCall) + refreshesAll statements
  | .mk (.body _) _ _ statements => statements.countP isRefreshCall + refreshesAll statements
  | .mk _ _ _ children => refreshesAll children

/-- The number of refreshes among the statements of the bodies in some trees. -/
def refreshesAll :
    List Node →
    Nat
  | [] => 0
  | node :: nodes => refreshes node + refreshesAll nodes

end

variable
  {skipsDestroy : Bool}
  {ancestors : List Ancestor}

/-- The refreshes of trees in a row are those of the first and those of the others. -/
theorem refreshesAll_append
    (first second : List Node) :
    refreshesAll (first ++ second) = refreshesAll first + refreshesAll second := by
  induction first with
  | nil =>
      simp [refreshesAll]
  | cons node rest inductionHypothesis =>
      rw [List.cons_append, refreshesAll, refreshesAll, inductionHypothesis, Nat.add_assoc]

/-- The refreshes of a node that is neither a function nor a body are those of its children. -/
theorem refreshes_of_other
    {form : Form}
    (noCallable : isCallable form = false)
    (noBody : Rule.isBody form = false)
    (role : Role)
    (span : Span)
    (children : List Node) :
    refreshes (.mk form role span children) = refreshesAll children := by
  cases form with
  | arrow head => cases noCallable
  | body directives => cases noBody
  | _ => rw [refreshes] <;> simp

/-- The refreshes of a function: braces decide whether its own statements count. -/
theorem Callable.refreshes_build
    (function : Callable)
    {form : Form}
    (callable : isCallable form)
    (parameters : Node)
    (statements : List Node) :
    refreshes (function.build form parameters statements) =
      refreshes parameters +
        (if hasBraces form then statements.countP isRefreshCall else 0) +
          refreshesAll statements := by
  cases form with
  | function head =>
      simp [Callable.build, refreshes, refreshesAll, hasBraces, Nat.add_assoc]
  | arrow head =>
      cases isConcise : head.isConcise <;>
        simp [Callable.build, refreshes, hasBraces, isConcise]
  | _ =>
      cases callable

/-- Whether a statement is a refresh can be seen in its outline. -/
theorem isRefreshCall_outline
    (node : Node) :
    isRefreshCall (outline node) = isRefreshCall node := by
  obtain ⟨form, role, span, children⟩ := node
  cases form with
  | expressionStatement =>
      rcases children with _ | ⟨⟨valueForm, valueRole, valueSpan, inner⟩, _ | ⟨second, rest⟩⟩
      case cons.nil =>
        cases valueForm with
        | call isOptional =>
            rcases inner with _ | ⟨⟨nameForm, nameRole, nameSpan, names⟩, _ | ⟨second, rest⟩⟩
            case cons.nil =>
              cases isOptional <;> cases nameForm <;> rfl
            all_goals simp [isRefreshCall, outline_mk, withBraces, Rule.isBody]
        | _ => rfl
      all_goals simp [isRefreshCall, outline_mk, withBraces, Rule.isBody]
  | _ => rfl

/-- The injection neither makes a refresh of another statement nor changes one. -/
theorem isRefreshCall_image
    {node : Node}
    (placed : Placed ancestors node) :
    isRefreshCall (image skipsDestroy ancestors node) = isRefreshCall node := by
  rw [← isRefreshCall_outline, outline_image placed, isRefreshCall_outline]

/-- How many refreshes the injecting walk counts in a tree. -/
def counter
    (skipsDestroy : Bool)
    (ancestors : List Ancestor)
    (node : Node) :
    Nat :=
  ((injection skipsDestroy).walkNode ancestors node { own := 0 }).2.own

/-- How many refreshes the injecting walk counts in some trees. -/
def counterAll
    (skipsDestroy : Bool)
    (ancestors : List Ancestor) :
    List Node →
    Nat
  | [] => 0
  | node :: nodes => counter skipsDestroy ancestors node + counterAll skipsDestroy ancestors nodes

/-- The walk of some trees adds what it counts in each of them. -/
theorem walkNodes_own
    {nodes : List Node}
    (adds :
      ∀ node ∈ nodes, ∀ current,
        ((injection skipsDestroy).walkNode ancestors node current).2.own =
          current.own + counter skipsDestroy ancestors node)
    (form : Form)
    (current : WalkState Nat) :
    ((injection skipsDestroy).walkNodes form ancestors nodes current).2.own =
      current.own + counterAll skipsDestroy ancestors nodes := by
  induction nodes generalizing current with
  | nil =>
      rfl
  | cons node rest inductionHypothesis =>
      have collected (visited : WalkState Nat) :
          (Rule.collect form visited).2.own = visited.own := by
        unfold Rule.collect
        split <;> rfl
      have atRest := inductionHypothesis (fun other member => adds other (by simp [member]))
      simp only [Rule.walkNodes_cons, atRest, collected, adds node (by simp), counterAll,
        Nat.add_assoc]

/-- The walk of a tree adds what it counts in the tree, whatever is waiting to be inserted. -/
theorem walkNode_own
    (node : Node)
    (ancestors : List Ancestor)
    (current : WalkState Nat) :
    ((injection skipsDestroy).walkNode ancestors node current).2.own =
      current.own + counter skipsDestroy ancestors node := by
  induction node using Node.inductionOnChildren generalizing ancestors current with
  | step form role span children inductionHypothesis =>
      have below (inner : List Ancestor) (opened : WalkState Nat) :=
        walkNodes_own (fun child member => inductionHypothesis child member inner) form opened
      unfold counter
      cases isStop : StopKind.ofForm? form with
      | none =>
          simp only [Rule.walkNode_of_noStop _ isStop, below]
          omega
      | some kind =>
          simp only [walkNode_of_stop isStop]
          cases (decide skipsDestroy ancestors (.mk form role span children)).1 with
          | skip image =>
              simp only [counted]
              omega
          | descend edit =>
              simp only [below, counted]
              omega
          | insertAfter statement =>
              have requested (walked : WalkState Nat) :
                  (Rule.request kind statement walked).own = walked.own := by
                cases kind <;> rfl
              simp only [requested, below, counted]
              omega

/-- The walk goes on inside of the node. -/
def goesOn :
    Flow →
    Bool
  | .skip _ => false
  | _ => true

/-- The rule counts at a node first, and then inside of it. -/
theorem counter_mk
    (form : Form)
    (role : Role)
    (span : Span)
    (children : List Node) :
    counter skipsDestroy ancestors (.mk form role span children) =
      (decide skipsDestroy ancestors (.mk form role span children)).2 +
        if goesOn (decide skipsDestroy ancestors (.mk form role span children)).1 then
          counterAll skipsDestroy (Ancestor.labels form role children ++ ancestors) children
        else
          0 := by
  have below (inner : List Ancestor) (opened : WalkState Nat) :
      ((injection skipsDestroy).walkNodes form inner children opened).2.own =
        opened.own + counterAll skipsDestroy inner children :=
    walkNodes_own (fun child _ => walkNode_own child inner) form opened
  rw [counter]
  cases isStop : StopKind.ofForm? form with
  | none =>
      have decision :
          decide skipsDestroy ancestors (.mk form role span children) = (.descend id, 0) := by
        cases form with
        | function | arrow | awaiting => cases isStop
        | _ => rfl
      rw [Rule.walkNode_of_noStop _ isStop, decision]
      exact below _ _
  | some kind =>
      rw [walkNode_of_stop isStop]
      obtain ⟨flow, added⟩ := decide skipsDestroy ancestors (.mk form role span children)
      cases flow with
      | skip image => rfl
      | descend edit => exact below _ _
      | insertAfter statement => cases kind <;> exact below _ _

/-- The function is one that gets a refresh at its start. -/
def isRefreshed
    (skipsDestroy : Bool)
    (ancestors : List Ancestor)
    (node : Node) :
    Bool :=
  !isExempt skipsDestroy ancestors && !isIterationCallback ancestors &&
    (!hasBraces node.form ||
      !(bodyStatements node).isEmpty && !(bodyStatements node).any isMarker)

/-- At a function with braces the rule counts the refresh at its start. -/
theorem enterFunction_added
    {node : Node}
    (braces : hasBraces node.form) :
    (enterFunction skipsDestroy ancestors node).2 =
      (isRefreshed skipsDestroy ancestors node).toNat := by
  unfold enterFunction
  dsimp only
  split
  · next noStatement =>
      simp [isRefreshed, braces, noStatement]
  next occupied =>
  split
  · next isExempted =>
      simp [isRefreshed, isExempt, isExempted]
  next noExemption =>
  have noExemption : isExempt skipsDestroy ancestors = false := eq_false_of_ne_true noExemption
  rcases replaceMarker?_cases (bodyStatements node) with
    ⟨noneFound, noStop⟩ | ⟨earlier, marker, later, statements, isStop, isFirst, found⟩
  · have noMarker : (bodyStatements node).any isMarker = false := by
      simpa using noStop
    rw [noneFound]
    dsimp only
    split
    · next iteration =>
        simp [isRefreshed, iteration]
    · next noIteration =>
        simp [isRefreshed, noExemption, noIteration, occupied, noMarker]
  · rw [found]
    simp [isRefreshed, braces, statements, isStop]

/-- At a function the rule counts the refresh at its start. -/
theorem decide_added
    {node : Node}
    (callable : isCallable node.form) :
    (decide skipsDestroy ancestors node).2 =
      (isRefreshed skipsDestroy ancestors node).toNat := by
  obtain ⟨form, role, span, children⟩ := node
  cases form with
  | function head =>
      exact enterFunction_added rfl
  | arrow head =>
      unfold decide
      dsimp only [Node.form_mk]
      unfold enterArrow
      split
      · next isExempted =>
          simp [isRefreshed, isExempt, isExempted]
      next noExemption =>
      have noExemption : isExempt skipsDestroy ancestors = false := eq_false_of_ne_true noExemption
      split
      · next isConcise =>
          have noBraces : hasBraces (.arrow head) = false := by
            simp [hasBraces, isConcise]
          split
          · next iteration =>
              simp [isRefreshed, iteration]
          · next noIteration =>
              simp [isRefreshed, noExemption, noIteration, noBraces]
      · next noConcise =>
          exact enterFunction_added (by simp [hasBraces, noConcise])
  | _ =>
      cases callable

end Reactivity.Refresh
