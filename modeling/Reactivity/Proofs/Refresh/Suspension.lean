import Reactivity.Proofs.Refresh.Visited

namespace Reactivity.Refresh

open Script

/-!
# Refreshes after awaits

An await that is a statement of an asynchronous function declaration is followed by
one refresh. The request for it travels from the await to the body that holds the
statement. Nothing else is inserted by requests: not for awaits in blocks, values,
arrow functions, function expressions and methods, nor at the top of the script.
-/

/-- What the rule makes of the node of a call before the walk goes on inside of it. -/
def entered
    (skipsDestroy : Bool)
    (moment : Moment Nat) :
    Node :=
  ((injection skipsDestroy).enter moment.ancestors moment.node moment.current.own).1.applyTo
    moment.node

/-- The walk inserts a refresh after each bare await of the node of a call, and nothing else. -/
structure Suspends
    (skipsDestroy : Bool)
    (moment : Moment Nat) :
    Prop where
  /-- The result of the call depends on the node and its ancestors only. -/
  image_eq :
    moment.image (injection skipsDestroy) = image skipsDestroy moment.ancestors moment.node
  /-- A function that is entered gets the images of its statements, and refreshes after awaits. -/
  body :
    isCallable moment.node.form →
      (moment.opened? (injection skipsDestroy)).isSome →
        bodyStatements (moment.image (injection skipsDestroy)) =
          (bodyStatements (entered skipsDestroy moment)).flatMap (fun statement =>
            image skipsDestroy (bodyChain moment.ancestors moment.node) statement ::
              if isAsyncDeclaration moment.node.form && isBareAwait statement then
                [refreshStatement]
              else
                [])
  /-- Nothing is inserted among the parameters of such a function. -/
  parameters :
    isCallable moment.node.form →
      (moment.opened? (injection skipsDestroy)).isSome →
        (moment.image (injection skipsDestroy)).children.head? =
          moment.node.children.head?.map (image skipsDestroy moment.inner)
  /-- Nothing is inserted among the children of any other node. -/
  elsewhere :
    isCallable moment.node.form = false →
      Rule.isBody moment.node.form = false →
        moment.image (injection skipsDestroy) =
          moment.node.withChildren
            (moment.node.children.map (image skipsDestroy moment.inner))

variable {skipsDestroy : Bool}

/-- A function that a settled call goes on inside of gets the image of the entered function. -/
theorem Settled.image_entered
    {moment : Moment Nat}
    (settled : Settled moment)
    (callable : isCallable moment.node.form)
    (isOpened : (moment.opened? (injection skipsDestroy)).isSome) :
    ∃ function : Callable,
      moment.node = function.node ∧
        image skipsDestroy moment.ancestors function.node =
          function.build (entered skipsDestroy moment).form
            (image skipsDestroy moment.inner function.parameters)
            (bodyImages skipsDestroy moment.ancestors function.node
              (bodyStatements (entered skipsDestroy moment))) := by
  obtain ⟨ancestors, node, current⟩ := moment
  obtain ⟨function, rfl⟩ := settled.placed.callable callable
  obtain ⟨opened, opens⟩ := Option.isSome_iff_exists.mp isOpened
  obtain ⟨edit, decision⟩ := function.descends_of_opened opens
  have edited :
      entered skipsDestroy { ancestors, node := function.node, current } = edit function.node := by
    simp only [entered, injection_enter, decision, Flow.applyTo]
  refine ⟨function, rfl, ?_⟩
  rw [edited]
  exact function.image_entered settled.placed decision

/-- A settled call inserts refreshes after bare awaits, and nothing else. -/
theorem Settled.suspends
    {moment : Moment Nat}
    (settled : Settled moment) :
    Suspends skipsDestroy moment where
  image_eq := settled.image_eq
  body := by
    intro callable isOpened
    obtain ⟨function, same, whole⟩ := settled.image_entered callable isOpened
    rw [settled.image_eq, same, whole]
    rfl
  parameters := by
    intro callable isOpened
    obtain ⟨function, same, whole⟩ := settled.image_entered callable isOpened
    rw [settled.image_eq, same, whole]
    rfl
  elsewhere := by
    intro noCallable noBody
    rw [settled.image_eq]
    obtain ⟨ancestors, ⟨form, role, span, children⟩, current⟩ := moment
    exact (image_of_noCallable settled.placed noCallable).trans
      (congrArg (Node.mk form role span) (images_of_noBody noBody _ _))

/--
The injection inserts a refresh after each bare await of an asynchronous function
declaration that it enters, and no other by request.
-/
theorem inject_suspends
    {source : String}
    {program : Program}
    (read : readProgram source = .ok program) :
    (inject skipsDestroy program.statements).1 =
        program.statements.map (image skipsDestroy []) ∧
      ∀ moment,
        (injection skipsDestroy).Visits program.statements 0 moment →
          Suspends skipsDestroy moment :=
  ⟨inject_eq read, fun _ visits => (settled_of_visits read visits).suspends⟩

/-- An asynchronous function declaration is entered, and its await followed by a refresh. -/
theorem inject_suspends_await :
    ∃ program moment,
      readProgram "async function f()\x7bawait g()\x7d" = .ok program ∧
        (injection true).Visits program.statements 0 moment ∧
          isAsyncDeclaration moment.node.form ∧
            (bodyStatements moment.node).any isBareAwait ∧
              (moment.opened? (injection true)).isSome ∧
                Suspends true moment := by
  have checked :
      (readProgram "async function f()\x7bawait g()\x7d").toOption.any (fun program =>
        program.statements.head?.any (fun statement =>
          isAsyncDeclaration statement.form && (bodyStatements statement).any isBareAwait &&
            (Moment.opened? (injection true)
              { ancestors := [], node := statement, current := { own := 0 } }).isSome)) := by
    decide +kernel
  obtain ⟨program, read, checked⟩ := Outcome.exists_of_any checked
  obtain ⟨statement, isFirst, checked⟩ := (Option.any_eq_true _ _).mp checked
  simp only [Bool.and_eq_true] at checked
  obtain ⟨⟨isDeclaration, hasAwait⟩, isOpened⟩ := checked
  obtain ⟨others, listed⟩ := List.head?_eq_some_iff.mp isFirst
  have visits :
      (injection true).Visits program.statements 0
        { ancestors := [], node := statement, current := { own := 0 } } :=
    ⟨[], statement, others, listed, .here _⟩
  exact ⟨program, _, read, visits, isDeclaration, hasAwait, isOpened,
    (inject_suspends read).2 _ visits⟩

end Reactivity.Refresh
