import Reactivity.Proofs.Refresh.Bodies
import Reactivity.Proofs.Script.Reading

namespace Reactivity.Refresh

open Script

/-!
# What the injecting walk comes to

Whenever the injecting walk of a script that has been read comes to a node, the node
is well placed and nothing is waiting to be inserted. So what it puts there is the
image of the node, and the images of functions are found in the script that comes out.
-/

/-- The node of the moment is well placed, and nothing is waiting to be inserted. -/
structure Settled
    (moment : Moment Nat) :
    Prop where
  placed : Placed moment.ancestors moment.node
  idle : moment.current.pending = none

variable {skipsDestroy : Bool}

/-- When nothing is waiting, the walk puts the image in the place of the node. -/
theorem Settled.image_eq
    {moment : Moment Nat}
    (settled : Settled moment) :
    moment.image (injection skipsDestroy) =
      image skipsDestroy moment.ancestors moment.node := by
  obtain ⟨ancestors, node, own, pending⟩ := moment
  obtain rfl : pending = none := settled.idle
  exact walkNode_image ancestors node own

/-- The children before another one leave nothing waiting. -/
theorem Placed.idle_between
    {form : Form}
    {role : Role}
    {span : Span}
    {earlier later : List Node}
    {child : Node}
    {ancestors : List Ancestor}
    (placed : Placed ancestors (.mk form role span (earlier ++ child :: later)))
    (count : Nat) :
    let inner := Ancestor.labels form role (earlier ++ child :: later) ++ ancestors
    ((injection skipsDestroy).walkNodes form inner earlier { own := count }).2.pending = none := by
  intro inner
  have requested :
      ∀ node ∈ earlier, ∀ count,
        ((injection skipsDestroy).walkNode inner node { own := count }).2.pending =
          pendingAfter inner node :=
    fun node member => walkNode_pending (placed.children node (by simp [member]))
  have atRoot := (Node.isWellFormed_mk.mp placed.wellFormed).1
  -- An await and an expression statement have one child, so there is none before it.
  have single (roles : (earlier ++ child :: later).map Node.role = [.expression]) :
      earlier = [] := by
    have length := congrArg List.length roles
    simp only [List.length_map, List.length_append, List.length_cons, List.length_nil] at length
    exact List.length_eq_zero_iff.mp (by omega)
  cases form with
  | awaiting | expressionStatement =>
      simp only [Form.fits, Bool.and_eq_true, beq_iff_eq] at atRoot
      rw [single atRoot.2]
      rfl
  | _ =>
      have taken := placed.taken (by simp) (by simp)
      exact (walkNodes_images requested
        (taken.imp_right (fun noRequest node member => noRequest node (by simp [member]))) count).2

/-- The calls that a settled call makes for its children are settled. -/
theorem Settled.child
    {moment : Moment Nat}
    (settled : Settled moment)
    {opened : WalkState Nat}
    (opens : moment.opened? (injection skipsDestroy) = some opened)
    {earlier later : List Node}
    {node : Node}
    (children : moment.node.children = earlier ++ node :: later) :
    Settled (moment.child (injection skipsDestroy) opened earlier node) := by
  obtain ⟨ancestors, ⟨form, role, span, nodes⟩, own, pending⟩ := moment
  obtain rfl : nodes = earlier ++ node :: later := children
  obtain rfl : pending = none := settled.idle
  have placed : Placed ancestors (.mk form role span (earlier ++ node :: later)) := settled.placed
  have stillIdle : opened.pending = none := by
    unfold Moment.opened? at opens
    split at opens
    · cases opens
      rfl
    · split at opens
      · cases opens
      · cases opens
        rfl
  refine ⟨placed.children node (by simp), ?_⟩
  obtain ⟨count, pending⟩ := opened
  obtain rfl : pending = none := stillIdle
  exact placed.idle_between count

/-- The calls that a settled call makes, however deep, are settled. -/
theorem Settled.leads
    {moment target : Moment Nat}
    (leads : Moment.Leads (injection skipsDestroy) moment target)
    (settled : Settled moment) :
    Settled target := by
  induction leads with
  | here moment => exact settled
  | inside opens children leads inductionHypothesis =>
      exact inductionHypothesis (settled.child opens children)

/-- The statements of a script get their images, with nothing between them. -/
theorem walkNodes_statements
    {statements : List Node}
    (stand : ∀ statement ∈ statements, statement.Stands .statement) :
    let walked := (injection skipsDestroy).walkNodes .block [] statements { own := 0 }
    walked.1 = statements.map (image skipsDestroy []) ∧ walked.2.pending = none := by
  have noBody :
      images skipsDestroy .block [] statements = statements.map (image skipsDestroy []) :=
    images_of_noBody rfl [] statements
  rw [← noBody]
  exact walkNodes_images
    (fun statement member => walkNode_pending (.ofStands (stand statement member) []))
    (.inr (fun statement _ => requests_of_isQuiet rfl statement)) 0

/-- The statements that come out of the injection are the images of those that went in. -/
theorem inject_eq
    {source : String}
    {program : Program}
    (read : readProgram source = .ok program) :
    (inject skipsDestroy program.statements).1 =
      program.statements.map (image skipsDestroy []) :=
  (walkNodes_statements (readProgram_stands read)).1

/-- Every call of the walk of a script that has been read is settled. -/
theorem settled_of_visits
    {source : String}
    {program : Program}
    (read : readProgram source = .ok program)
    {moment : Moment Nat}
    (visits : (injection skipsDestroy).Visits program.statements 0 moment) :
    Settled moment := by
  obtain ⟨earlier, statement, later, split, leads⟩ := visits
  have stand := readProgram_stands read
  rw [split] at stand
  refine Settled.leads leads ⟨.ofStands (stand statement (by simp)) [], ?_⟩
  exact (walkNodes_statements (fun other member => stand other (by simp [member]))).2

/-- What occurs in the parts of a function occurs in it when its statements are kept. -/
theorem Callable.holds_of_part
    {function : Callable}
    {form : Form}
    {parameters child inner : Node}
    {statements edited : List Node}
    (kept :
      ∀ statement ∈ statements, statement.Holds inner → ∃ other ∈ edited, other.Holds inner)
    (noBody : inner.form ≠ .body function.directives)
    (member : child ∈ (function.build form parameters statements).children)
    (holds : child.Holds inner)
    (newForm : Form) :
    (function.build newForm parameters edited).Holds inner := by
  have parts :
      child = parameters ∨
        child = .mk (.body function.directives) .part function.bodySpan statements := by
    simpa [Callable.build] using member
  rcases parts with rfl | rfl
  · exact .inside (by simp) holds
  · obtain ⟨statement, statementMember, statementHolds⟩ := holds.child noBody
    obtain ⟨other, otherMember, otherHolds⟩ := kept statement statementMember statementHolds
    exact .inside (List.mem_cons_of_mem _ (List.mem_singleton_self _))
      (.inside otherMember otherHolds)

/-- A function that occurs in the value of an arrow function occurs in it when it is returned. -/
theorem holds_returnValue
    {inner statement : Node}
    {statements : List Node}
    (noStatement : inner.form ≠ .expressionStatement)
    (member : statement ∈ statements)
    (holds : statement.Holds inner) :
    ∃ other ∈ returnValue statements, other.Holds inner := by
  unfold returnValue
  split
  · next value =>
      obtain rfl := List.mem_singleton.mp member
      obtain ⟨child, childMember, childHolds⟩ := holds.child noStatement
      exact ⟨_, List.mem_singleton_self _, .inside childMember childHolds⟩
  · exact ⟨statement, member, holds⟩

/-- A node that is no function is rebuilt from the images of its children. -/
theorem image_of_noCallable
    {form : Form}
    {role : Role}
    {span : Span}
    {children : List Node}
    {ancestors : List Ancestor}
    (placed : Placed ancestors (.mk form role span children))
    (noCallable : isCallable form = false) :
    image skipsDestroy ancestors (.mk form role span children) =
      .mk form role span
        (images skipsDestroy form (Ancestor.labels form role children ++ ancestors) children) := by
  rw [image_mk placed]
  cases form with
  | function | arrow => cases noCallable
  | awaiting =>
      have decision :
          decide skipsDestroy ancestors (.mk .awaiting role span children) =
            enterAwait ancestors :=
        rfl
      rw [decision, enterAwait_eq]
      split <;> rfl
  | _ => rfl

/-- A function that occurs in an image of a part of a visited function occurs in its image. -/
theorem Callable.holds_image
    (function : Callable)
    {ancestors : List Ancestor}
    (placed : Placed ancestors function.node)
    {edit : Node → Node}
    (decision : (decide skipsDestroy ancestors function.node).1 = .descend edit)
    {child inner : Node}
    (callable : isCallable inner.form)
    (member : child ∈ (function.visited skipsDestroy ancestors).children)
    (holds : child.Holds inner) :
    (image skipsDestroy ancestors function.node).Holds inner := by
  have noBody : inner.form ≠ .body function.directives := by
    intro isBody
    simp [isBody, isCallable] at callable
  have noStatement : inner.form ≠ .expressionStatement := by
    intro isStatement
    simp [isStatement, isCallable] at callable
  rw [function.image_node placed, decision]
  have made : Decision skipsDestroy ancestors function.node (.descend edit) :=
    decision ▸ function.decision skipsDestroy ancestors
  generalize same : Flow.descend edit = flow at made
  cases made with
  | exempt | stopped => cases same
  | empty | iterating =>
      cases same
      exact .inside member holds
  | refreshed =>
      cases same
      refine Callable.holds_of_part (fun statement statementMember statementHolds => ?_)
        noBody member holds function.form
      exact ⟨statement, List.mem_cons_of_mem _ statementMember, statementHolds⟩
  | braced noExemption noBraces noIteration =>
      cases same
      -- The statement that held the value is gone, but what occurs in the value is not.
      dsimp only [Flow.applyTo, Callable.visited]
      rw [blockArrow_build noBraces]
      refine Callable.holds_of_part (fun statement statementMember statementHolds => ?_)
        noBody member holds (withBraces function.form)
      obtain ⟨other, otherMember, otherHolds⟩ :=
        holds_returnValue noStatement statementMember statementHolds
      exact ⟨other, List.mem_cons_of_mem _ otherMember, otherHolds⟩

/-- The image of a function is a function. -/
theorem Callable.isCallable_image
    (function : Callable)
    {ancestors : List Ancestor}
    (placed : Placed ancestors function.node) :
    isCallable (image skipsDestroy ancestors function.node).form := by
  have made := function.decision skipsDestroy ancestors
  rw [function.image_node placed]
  generalize (decide skipsDestroy ancestors function.node).1 = flow at made
  cases made with
  | empty | exempt | stopped | iterating | refreshed =>
      exact function.callable
  | braced noExemption noBraces noIteration =>
      dsimp only [Flow.applyTo, Callable.visited]
      rw [blockArrow_build noBraces]
      exact isCallable_withBraces function.callable

/-- A function whose inside the walk goes on with is one that it visits. -/
theorem Callable.descends_of_opened
    (function : Callable)
    {ancestors : List Ancestor}
    {current opened : WalkState Nat}
    (opens :
      Moment.opened? (injection skipsDestroy) { ancestors, node := function.node, current } =
        some opened) :
    ∃ edit, (decide skipsDestroy ancestors function.node).1 = .descend edit := by
  have made := function.decision skipsDestroy ancestors
  have noSkip (skipped : Node) :
      (decide skipsDestroy ancestors function.node).1 ≠ .skip skipped := by
    intro isSkip
    obtain ⟨kind, isStop⟩ := ofForm?_of_isCallable function.callable
    simp [Moment.opened?, Callable.form_node, isStop, injection_enter, isSkip] at opens
  generalize (decide skipsDestroy ancestors function.node).1 = flow at made noSkip
  cases made with
  | exempt | stopped => exact (noSkip _ rfl).elim
  | empty | iterating | refreshed | braced => exact ⟨_, rfl⟩

/-- A function that a settled call leads to has its image in the image of the call. -/
theorem Settled.holds_image
    {moment target : Moment Nat}
    (leads : Moment.Leads (injection skipsDestroy) moment target)
    (settled : Settled moment)
    (callable : isCallable (image skipsDestroy target.ancestors target.node).form) :
    (image skipsDestroy moment.ancestors moment.node).Holds
      (image skipsDestroy target.ancestors target.node) := by
  induction leads with
  | here moment =>
      exact .whole _
  | @inside moment target opened earlier later child opens children leads inductionHypothesis =>
      have childHolds := inductionHypothesis (settled.child opens children) callable
      obtain ⟨ancestors, ⟨form, role, span, nodes⟩, current⟩ := moment
      have placed : Placed ancestors (.mk form role span nodes) := settled.placed
      have member : child ∈ nodes := by
        have split : nodes = earlier ++ child :: later := children
        simp [split]
      have childMember :
          image skipsDestroy (Ancestor.labels form role nodes ++ ancestors) child ∈
            images skipsDestroy form (Ancestor.labels form role nodes ++ ancestors) nodes :=
        image_mem_images member form _
      cases isFunction : isCallable form with
      | false =>
          rw [image_of_noCallable placed isFunction]
          exact .inside childMember childHolds
      | true =>
          obtain ⟨function, same⟩ := placed.callable isFunction
          cases same
          obtain ⟨edit, decision⟩ := function.descends_of_opened opens
          have partMember :
              image skipsDestroy (function.chain ancestors) child ∈
                (function.visited skipsDestroy ancestors).children :=
            function.images_children placed ▸ childMember
          exact function.holds_image placed decision callable partMember childHolds

/-- What the walk puts in the place of a function occurs in the script that comes out. -/
theorem inject_holds
    {source : String}
    {program : Program}
    (read : readProgram source = .ok program)
    {moment : Moment Nat}
    (visits : (injection skipsDestroy).Visits program.statements 0 moment)
    (callable : isCallable moment.node.form) :
    ∃ statement ∈ (inject skipsDestroy program.statements).1,
      statement.Holds (moment.image (injection skipsDestroy)) := by
  have settled := settled_of_visits read visits
  have callableImage :
      isCallable (image skipsDestroy moment.ancestors moment.node).form := by
    obtain ⟨function, same⟩ := settled.placed.callable callable
    rw [same]
    exact function.isCallable_image (same ▸ settled.placed)
  obtain ⟨earlier, statement, later, split, leads⟩ := visits
  have member : statement ∈ program.statements := by
    simp [split]
  refine ⟨image skipsDestroy [] statement, ?_, ?_⟩
  · rw [inject_eq read]
    exact List.mem_map_of_mem member
  · rw [settled.image_eq]
    refine Settled.holds_image leads ?_ callableImage
    exact settled_of_visits read ⟨earlier, statement, later, split, .here _⟩

end Reactivity.Refresh
