import Reactivity.Proofs.Refresh.Visited

namespace Reactivity.Refresh

open Script

/-!
# Refresh on entry

What becomes of every function to which the injecting walk of a script comes. A
function asks for a refresh with its first statement, unless it is empty, is handed to
the destroy hook, has a check stop, or runs once for each item.
-/

/--
What a function becomes, by the first rule that covers it.

The rules look at the function itself and at the call that it is handed to.
-/
def RefreshesOnEntry
    (skipsDestroy : Bool)
    (ancestors : List Ancestor)
    (node after : Node) :
    Prop :=
  let before := bodyStatements node
  let chain := bodyChain ancestors node
  if hasBraces node.form && before.isEmpty then
    bodyStatements after = []
  else if isExempt skipsDestroy ancestors then
    after = node
  else if hasBraces node.form && before.any isMarker then
    ∃ earlier marker later,
      before = earlier ++ marker :: later ∧ isMarker marker ∧
        (∀ statement ∈ earlier, isMarker statement = false) ∧
          after = mapBody (fun _ => earlier ++ stopStatement :: later) node
  else if isIterationCallback ancestors then
    after.form = node.form ∧
      (bodyStatements after).head? = before.head?.map (image skipsDestroy chain)
  else if hasBraces node.form then
    after.form = node.form ∧
      ∃ first rest others,
        before = first :: rest ∧
          bodyStatements after =
            refreshStatement :: image skipsDestroy chain first :: others
  else
    hasBraces after.form ∧
      ∃ role span value,
        before = [.mk .expressionStatement role span [value]] ∧
          bodyStatements after =
            [refreshStatement, image skipsDestroy chain (.statement .returning [value])]

variable
  {skipsDestroy : Bool}
  {ancestors : List Ancestor}

/-- The first image in a body is that of the first statement. -/
theorem head?_bodyImages
    (owner : Node)
    (statements : List Node) :
    (bodyImages skipsDestroy ancestors owner statements).head? =
      statements.head?.map (image skipsDestroy (bodyChain ancestors owner)) := by
  cases statements <;> rfl

/-- The image of a function is what the rules say. -/
theorem Callable.refreshesOnEntry
    (function : Callable)
    (placed : Placed ancestors function.node) :
    RefreshesOnEntry skipsDestroy ancestors function.node
      (image skipsDestroy ancestors function.node) := by
  have made := function.decision skipsDestroy ancestors
  rw [function.image_node placed]
  generalize (decide skipsDestroy ancestors function.node).1 = flow at made
  unfold RefreshesOnEntry
  dsimp only
  cases made with
  | empty braces noStatement =>
      rw [if_pos (by simp [braces, noStatement])]
      have noImage :
          bodyImages skipsDestroy ancestors function.node (bodyStatements function.node) = [] := by
        rw [noStatement]
        rfl
      exact noImage
  | exempt isExempted =>
      split
      · next isEmpty =>
          exact List.isEmpty_iff.mp (Bool.and_eq_true_iff.mp isEmpty).2
      · rfl
  | stopped noExemption braces split isStop isFirst =>
      -- From here on the guards of the decision say that no rule before it covers the function.
      rw [if_neg (by simp [split]), if_neg (by simp [noExemption]),
        if_pos (by simp [braces, split, isStop])]
      exact ⟨_, _, _, split, isStop, isFirst, rfl⟩
  | iterating noExemption occupied noStop iteration =>
      rw [if_neg (by simpa using occupied), if_neg (by simp [noExemption]),
        if_neg (by simpa using noStop), if_pos iteration]
      exact ⟨rfl, head?_bodyImages _ _⟩
  | refreshed noExemption braces occupied noStop noIteration =>
      rw [if_neg (by simpa using fun _ => occupied), if_neg (by simp [noExemption]),
        if_neg (by simpa using fun _ => noStop), if_neg (by simp [noIteration]), if_pos braces]
      refine ⟨rfl, ?_⟩
      obtain ⟨first, rest, split⟩ := List.exists_cons_of_ne_nil occupied
      have headed :
          (bodyImages skipsDestroy ancestors function.node
              (bodyStatements function.node)).head? =
            some (image skipsDestroy (bodyChain ancestors function.node) first) := by
        rw [head?_bodyImages, split]
        rfl
      obtain ⟨others, listed⟩ := List.head?_eq_some_iff.mp headed
      exact ⟨first, rest, others, split, congrArg (refreshStatement :: ·) listed⟩
  | braced noExemption noBraces noIteration =>
      rw [if_neg (by simp [noBraces]), if_neg (by simp [noExemption]),
        if_neg (by simp [noBraces]), if_neg (by simp [noIteration]),
        if_neg (by simp [noBraces])]
      obtain ⟨role, span, value, shape⟩ := function.concise noBraces
      dsimp only [Flow.applyTo, Callable.visited]
      rw [blockArrow_build noBraces, ← bodyImages_returnValue noBraces, shape]
      refine ⟨hasBraces_withBraces function.form, role, span, value, shape, ?_⟩
      have noAwait : isBareAwait (.statement .returning [value]) = false := rfl
      have returned :
          bodyImages skipsDestroy ancestors function.node [.statement .returning [value]] =
            [image skipsDestroy (bodyChain ancestors function.node)
              (.statement .returning [value])] := by
        simp [bodyImages, noAwait]
      exact congrArg (refreshStatement :: ·) returned

/--
Every function to which the walk of a script comes is refreshed on entry as the rules
say, and what it becomes is found in the script that comes out.
-/
theorem inject_refreshesOnEntry
    {source : String}
    {program : Program}
    (read : readProgram source = .ok program)
    {moment : Moment Nat}
    (visits : (injection skipsDestroy).Visits program.statements 0 moment)
    (callable : isCallable moment.node.form) :
    RefreshesOnEntry skipsDestroy moment.ancestors moment.node
        (moment.image (injection skipsDestroy)) ∧
      ∃ statement ∈ (inject skipsDestroy program.statements).1,
        statement.Holds (moment.image (injection skipsDestroy)) := by
  refine ⟨?_, inject_holds read visits callable⟩
  have settled := settled_of_visits read visits
  obtain ⟨function, same⟩ := settled.placed.callable callable
  rw [settled.image_eq, same]
  exact function.refreshesOnEntry (same ▸ settled.placed)

/-- A function whose first statement calls another one is refreshed on entry. -/
theorem inject_refreshesOnEntry_call :
    ∃ program moment,
      readProgram "function f()\x7bg(()=>1)\x7d" = .ok program ∧
        (injection true).Visits program.statements 0 moment ∧
          isCallable moment.node.form ∧
            RefreshesOnEntry true moment.ancestors moment.node
                (moment.image (injection true)) ∧
              ∃ statement ∈ (inject true program.statements).1,
                statement.Holds (moment.image (injection true)) := by
  have checked :
      (readProgram "function f()\x7bg(()=>1)\x7d").toOption.any (fun program =>
        program.statements.head?.any (fun statement => isCallable statement.form)) := by
    decide +kernel
  obtain ⟨program, read, checked⟩ := Outcome.exists_of_any checked
  obtain ⟨statement, isFirst, callable⟩ := (Option.any_eq_true _ _).mp checked
  obtain ⟨others, listed⟩ := List.head?_eq_some_iff.mp isFirst
  have visits :
      (injection true).Visits program.statements 0
        { ancestors := [], node := statement, current := { own := 0 } } :=
    ⟨[], statement, others, listed, .here _⟩
  exact ⟨program, _, read, visits, callable, inject_refreshesOnEntry read visits callable⟩

end Reactivity.Refresh
