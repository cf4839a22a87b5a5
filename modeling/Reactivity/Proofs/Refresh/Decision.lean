import Reactivity.Proofs.Script.Walk
import Reactivity.Refresh.Injection

namespace Reactivity.Refresh

open Script

/-!
# Decisions at functions

What the injecting rule decides at a function or arrow function, with all that is
known of the function in each case. Everything else that is said of the images of
functions is read off these cases.
-/

/-- Functions and arrow functions. -/
def isCallable :
    Form →
    Bool
  | .function _ | .arrow _ => true
  | _ => false

/-- A function is not its own body. -/
theorem isBody_of_isCallable
    {form : Form}
    (callable : isCallable form) :
    Rule.isBody form = false := by
  cases form with
  | body directives => cases callable
  | _ => rfl

/-- The rule is asked at a function. -/
theorem ofForm?_of_isCallable
    {form : Form}
    (callable : isCallable form) :
    ∃ kind, StopKind.ofForm? form = some kind := by
  cases form with
  | function | arrow => exact ⟨_, rfl⟩
  | _ => cases callable

/-- The body of the function is written in braces, not as a value. -/
def hasBraces :
    Form →
    Bool
  | .arrow head => !head.isConcise
  | _ => true

/-- The rule leaves callbacks under this chain alone. -/
def isExempt
    (skipsDestroy : Bool)
    (ancestors : List Ancestor) :
    Bool :=
  skipsDestroy && isDestroyCallback ancestors

/-- A decision that can be made at a function, and when it is. -/
inductive Decision
    (skipsDestroy : Bool)
    (ancestors : List Ancestor)
    (node : Node) :
    Flow →
    Prop where
  /-- A function with nothing in its braces is visited, and left as it is. -/
  | empty
      (braces : hasBraces node.form)
      (noStatement : bodyStatements node = []) :
      Decision skipsDestroy ancestors node (.descend id)
  | exempt
      (isExempted : isExempt skipsDestroy ancestors) :
      Decision skipsDestroy ancestors node (.skip node)
  /-- A check stop takes the place of the refresh, and the function is not visited. -/
  | stopped
      {earlier later : List Node}
      {marker : Node}
      (noExemption : isExempt skipsDestroy ancestors = false)
      (braces : hasBraces node.form)
      (statements : bodyStatements node = earlier ++ marker :: later)
      (isStop : isMarker marker)
      (isFirst : ∀ statement ∈ earlier, isMarker statement = false) :
      Decision skipsDestroy ancestors node
        (.skip (mapBody (fun _ => earlier ++ stopStatement :: later) node))
  | iterating
      (noExemption : isExempt skipsDestroy ancestors = false)
      (occupied : hasBraces node.form → bodyStatements node ≠ [])
      (noStop : hasBraces node.form → ∀ statement ∈ bodyStatements node, isMarker statement = false)
      (iteration : isIterationCallback ancestors) :
      Decision skipsDestroy ancestors node (.descend id)
  | refreshed
      (noExemption : isExempt skipsDestroy ancestors = false)
      (braces : hasBraces node.form)
      (occupied : bodyStatements node ≠ [])
      (noStop : ∀ statement ∈ bodyStatements node, isMarker statement = false)
      (noIteration : isIterationCallback ancestors = false) :
      Decision skipsDestroy ancestors node (.descend refreshAtStart)
  /-- An arrow function that is a value needs braces for the refresh. -/
  | braced
      (noExemption : isExempt skipsDestroy ancestors = false)
      (noBraces : hasBraces node.form = false)
      (noIteration : isIterationCallback ancestors = false) :
      Decision skipsDestroy ancestors node
        (.descend (fun image => refreshAtStart (blockArrow image)))

/-- What the replacement of a marker does when it finds one, and when it finds none. -/
theorem replaceMarker?_cases
    (statements : List Node) :
    (replaceMarker? statements = none ∧
        ∀ statement ∈ statements, isMarker statement = false) ∨
      ∃ earlier marker later,
        statements = earlier ++ marker :: later ∧ isMarker marker ∧
          (∀ statement ∈ earlier, isMarker statement = false) ∧
            replaceMarker? statements = some (earlier ++ stopStatement :: later) := by
  induction statements with
  | nil =>
      exact .inl ⟨rfl, by simp⟩
  | cons statement rest inductionHypothesis =>
      cases isStop : isMarker statement with
      | true =>
          exact .inr ⟨[], statement, rest, rfl, isStop, by simp, by simp [replaceMarker?, isStop]⟩
      | false =>
          rcases inductionHypothesis with
            ⟨noneFound, noStop⟩ | ⟨earlier, marker, later, rfl, isStopLater, isFirst, found⟩
          · exact .inl ⟨by simp [replaceMarker?, isStop, noneFound],
              by simpa [isStop] using noStop⟩
          · exact .inr ⟨statement :: earlier, marker, later, rfl, isStopLater,
              by simpa [isStop] using isFirst, by simp [replaceMarker?, isStop, found]⟩

/-- The decisions at a function with braces. -/
theorem enterFunction_decision
    {skipsDestroy : Bool}
    {ancestors : List Ancestor}
    {node : Node}
    (braces : hasBraces node.form) :
    Decision skipsDestroy ancestors node (enterFunction skipsDestroy ancestors node).1 := by
  unfold enterFunction
  dsimp only
  split
  · next noStatement =>
      exact .empty braces (List.isEmpty_iff.mp noStatement)
  next occupied =>
  rw [List.isEmpty_iff] at occupied
  split
  · next isExempted =>
      exact .exempt isExempted
  next noExemption =>
  have noExemption : isExempt skipsDestroy ancestors = false := eq_false_of_ne_true noExemption
  rcases replaceMarker?_cases (bodyStatements node) with
    ⟨noneFound, noStop⟩ | ⟨earlier, marker, later, statements, isStop, isFirst, found⟩
  · rw [noneFound]
    dsimp only
    split
    · next iteration =>
        exact .iterating noExemption (fun _ => occupied) (fun _ => noStop) iteration
    · next noIteration =>
        exact .refreshed noExemption braces occupied noStop (eq_false_of_ne_true noIteration)
  · rw [found]
    exact .stopped noExemption braces statements isStop isFirst

/-- At a function or arrow function one of the decisions is made. -/
theorem decide_decision
    {skipsDestroy : Bool}
    {ancestors : List Ancestor}
    {node : Node}
    (callable : isCallable node.form) :
    Decision skipsDestroy ancestors node (decide skipsDestroy ancestors node).1 := by
  obtain ⟨form, role, span, children⟩ := node
  cases form with
  | function head =>
      exact enterFunction_decision rfl
  | arrow head =>
      unfold decide
      dsimp only [Node.form_mk]
      unfold enterArrow
      split
      · next isExempted =>
          exact .exempt isExempted
      next noExemption =>
      have noExemption : isExempt skipsDestroy ancestors = false :=
        eq_false_of_ne_true noExemption
      split
      · next isConcise =>
          have noBraces : hasBraces (.arrow head) = false := by
            simp [hasBraces, isConcise]
          split
          · next iteration =>
              exact .iterating noExemption (by simp [noBraces]) (by simp [noBraces]) iteration
          · next noIteration =>
              exact .braced noExemption noBraces (eq_false_of_ne_true noIteration)
      · next noConcise =>
          exact enterFunction_decision (by simp [hasBraces, noConcise])
  | _ =>
      cases callable

end Reactivity.Refresh
