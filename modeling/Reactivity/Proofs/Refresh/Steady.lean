import Reactivity.Proofs.Refresh.Outline
import Reactivity.Proofs.Refresh.Visited
import Reactivity.Proofs.Script.Survey

namespace Reactivity.Refresh

open Script

/-!
# Steady surveys

A survey that passes over what the injection puts in finds the same in a script before and
after the injection, up to what it finds at the functions themselves. Its setting must not
depend on the insides of functions.
-/

/--
The survey passes over the injection.

The setting `suits` a chain of ancestors as far as the two have to agree, and what is found
at a node is the `same` item by item as what is found at its image.
-/
structure Steady
    {Setting Item : Type}
    (survey : Survey Setting Item)
    (skipsDestroy : Bool)
    (suits : Setting → List Ancestor → Prop)
    (same : Item → Item → Prop) :
    Prop where
  refl : ∀ item, same item item
  suits_inner :
    ∀ setting ancestors form role span children,
      suits setting ancestors →
        suits (survey.inside setting (.mk form role span children))
          (Ancestor.labels form role children ++ ancestors)
  inside_of_outline :
    ∀ setting before after,
      outline before = outline after → survey.inside setting before = survey.inside setting after
  found_image :
    ∀ setting ancestors node,
      suits setting ancestors →
        Placed ancestors node →
          List.Forall₂ same (survey.found setting node)
            (survey.found setting (image skipsDestroy ancestors node))
  found_body :
    ∀ setting directives role span statements,
      survey.found setting (.mk (.body directives) role span statements) = []
  run_refresh : ∀ setting, survey.run setting refreshStatement = []
  run_stop : ∀ setting, survey.run setting stopStatement = []
  run_marker :
    ∀ setting role span nameRole nameSpan,
      survey.run setting
          (.mk .expressionStatement role span
            [.mk (.identifier markerName) nameRole nameSpan []]) =
        []
  /-- A value gives the same whether it stands alone or is returned. -/
  run_returned :
    ∀ setting role span value,
      survey.run setting (.statement .returning [value]) =
        survey.run setting (.mk .expressionStatement role span [value])

namespace Steady

variable
  {Setting Item : Type}
  {survey : Survey Setting Item}
  {skipsDestroy : Bool}
  {suits : Setting → List Ancestor → Prop}
  {same : Item → Item → Prop}
  {setting : Setting}
  {ancestors : List Ancestor}

theorem forall₂_refl
    (steady : Steady survey skipsDestroy suits same)
    (items : List Item) :
    List.Forall₂ same items items :=
  List.forall₂_same.mpr (fun item _ => steady.refl item)

/-- In a body counts what its statements give, in a setting that does not depend on them. -/
theorem run_body
    (steady : Steady survey skipsDestroy suits same)
    (directives : List String)
    (role : Role)
    (span : Span)
    (statements : List Node) :
    survey.run setting (.mk (.body directives) role span statements) =
      survey.runAll (survey.inside setting (.mk (.body directives) role span []))
        statements := by
  have sameOutline :
      outline (.mk (.body directives) role span statements) =
        outline (.mk (.body directives) role span []) := by
    rw [outline_mk, outline_mk]
    rfl
  rw [Survey.run_eq, steady.found_body, List.nil_append, Node.children_mk,
    steady.inside_of_outline setting _ _ sameOutline]

/-- A marker gives nothing. -/
theorem run_of_isMarker
    (steady : Steady survey skipsDestroy suits same)
    {marker : Node}
    (wellFormed : marker.isWellFormed)
    (isStop : isMarker marker) :
    survey.run setting marker = [] := by
  unfold isMarker at isStop
  split at isStop
  · next nameRole nameSpan inner =>
      obtain rfl := beq_iff_eq.mp isStop
      have below := (Node.isWellFormed_mk.mp wellFormed).2
      have atName := (Node.isWellFormed_mk.mp (below _ (List.mem_singleton_self _))).1
      obtain rfl : inner = [] := List.isEmpty_iff.mp atName
      exact steady.run_marker setting _ _ _ _
  · cases isStop

theorem runAll_returnValue
    (steady : Steady survey skipsDestroy suits same)
    (statements : List Node) :
    survey.runAll setting (returnValue statements) = survey.runAll setting statements := by
  unfold returnValue
  split
  · rw [Survey.runAll_cons, Survey.runAll_cons, steady.run_returned]
  · rfl

/-- The refreshes among the images of nodes give nothing. -/
theorem runAll_images
    (steady : Steady survey skipsDestroy suits same)
    {nodes : List Node}
    (kept :
      ∀ node ∈ nodes,
        List.Forall₂ same (survey.run setting node)
          (survey.run setting (image skipsDestroy ancestors node)))
    (form : Form) :
    List.Forall₂ same (survey.runAll setting nodes)
      (survey.runAll setting (images skipsDestroy form ancestors nodes)) := by
  have inserted (node : Node) :
      survey.runAll setting
          (if Rule.isBody form then (pendingAfter ancestors node).toList else []) = [] := by
    unfold pendingAfter
    split
    · split
      · simp [steady.run_refresh]
      · exact Survey.runAll_nil
    · exact Survey.runAll_nil
  unfold images
  induction nodes with
  | nil =>
      simp
  | cons node rest inductionHypothesis =>
      rw [List.flatMap_cons, Survey.runAll_append, Survey.runAll_cons, Survey.runAll_cons,
        inserted, List.append_nil]
      apply List.rel_append (kept node (List.mem_cons_self ..))
      exact inductionHypothesis (fun other member => kept other (List.mem_cons_of_mem _ member))

/-- What is found in the parts of a function that is visited, before the edit. -/
theorem runAll_visited
    (steady : Steady survey skipsDestroy suits same)
    (function : Callable)
    (placed : Placed ancestors function.node)
    (kept :
      ∀ child ∈ function.node.children,
        List.Forall₂ same (survey.run setting child)
          (survey.run setting (image skipsDestroy (function.chain ancestors) child))) :
    List.Forall₂ same (survey.runAll setting function.node.children)
      (survey.runAll setting (function.visited skipsDestroy ancestors).children) := by
  rw [← function.images_children placed]
  exact steady.runAll_images kept function.form

/-- What is found in the parts of a function does not change. -/
theorem runAll_callable
    (steady : Steady survey skipsDestroy suits same)
    (function : Callable)
    (placed : Placed ancestors function.node)
    (kept :
      ∀ child ∈ function.node.children,
        List.Forall₂ same (survey.run setting child)
          (survey.run setting (image skipsDestroy (function.chain ancestors) child))) :
    List.Forall₂ same (survey.runAll setting function.node.children)
      (survey.runAll setting (image skipsDestroy ancestors function.node).children) := by
  have inside := steady.runAll_visited function placed kept
  -- Parameters and statements give what they give, whatever the form of the function is.
  have parts (form : Form) (parameters : Node) (statements : List Node) :
      survey.runAll setting (function.build form parameters statements).children =
        survey.run setting parameters ++
          survey.runAll
            (survey.inside setting
              (.mk (.body function.directives) .part function.bodySpan []))
            statements := by
    rw [Callable.build, Node.children_mk, Survey.runAll_cons, Survey.runAll_cons,
      Survey.runAll_nil, List.append_nil, steady.run_body]
  rw [function.image_node placed]
  have made := function.decision skipsDestroy ancestors
  generalize (decide skipsDestroy ancestors function.node).1 = flow at made
  cases made with
  | empty | iterating =>
      exact inside
  | exempt =>
      exact steady.forall₂_refl _
  | @stopped earlier later marker noExemption braces split isStop isFirst =>
      have split : function.statements = earlier ++ marker :: later := split
      have wellFormed := (function.stand marker (by simp [split])).wellFormed
      have edited :
          mapBody (fun _ => earlier ++ stopStatement :: later) function.node =
            function.build function.form function.parameters
              (earlier ++ stopStatement :: later) :=
        rfl
      dsimp only [Flow.applyTo]
      rw [edited, Callable.node, parts, parts, split, Survey.runAll_append, Survey.runAll_append,
        Survey.runAll_cons, Survey.runAll_cons, steady.run_stop,
        steady.run_of_isMarker wellFormed isStop]
      exact steady.forall₂_refl _
  | refreshed =>
      have edited :
          refreshAtStart (function.visited skipsDestroy ancestors) =
            function.build function.form
              (image skipsDestroy (function.chain ancestors) function.parameters)
              (refreshStatement ::
                bodyImages skipsDestroy ancestors function.node function.statements) :=
        rfl
      dsimp only [Flow.applyTo]
      rw [edited, parts, Survey.runAll_cons, steady.run_refresh, List.nil_append, ← parts]
      exact inside
  | braced noExemption noBraces noIteration =>
      have edited (parameters : Node) (statements : List Node) :
          refreshAtStart (blockArrow (function.build function.form parameters statements)) =
            function.build (withBraces function.form) parameters
              (refreshStatement :: returnValue statements) := by
        rw [blockArrow_build noBraces]
        rfl
      dsimp only [Flow.applyTo, Callable.visited]
      rw [edited, parts, Survey.runAll_cons, steady.run_refresh, List.nil_append,
        steady.runAll_returnValue, ← parts function.form]
      exact inside

/-- The survey finds the same in a tree and in its image. -/
theorem run_image
    (steady : Steady survey skipsDestroy suits same)
    {node : Node}
    (fits : suits setting ancestors)
    (placed : Placed ancestors node) :
    List.Forall₂ same (survey.run setting node)
      (survey.run setting (image skipsDestroy ancestors node)) := by
  induction node using Node.inductionOnChildren generalizing ancestors setting with
  | step form role span children inductionHypothesis =>
      have kept :
          ∀ child ∈ children,
            List.Forall₂ same
              (survey.run (survey.inside setting (.mk form role span children)) child)
              (survey.run (survey.inside setting (.mk form role span children))
                (image skipsDestroy (Ancestor.labels form role children ++ ancestors) child)) :=
        fun child member =>
          inductionHypothesis child member
            (steady.suits_inner setting ancestors form role span children fits)
            (placed.children child member)
      have sameInside :=
        steady.inside_of_outline setting _ _ (@outline_image skipsDestroy ancestors _ placed)
      have atRoot := steady.found_image setting ancestors _ fits placed
      cases isFunction : isCallable form with
      | false =>
          rw [image_of_noCallable placed isFunction] at sameInside atRoot ⊢
          rw [Survey.run_eq, Survey.run_eq (.mk form role span (images _ _ _ _)), sameInside]
          exact List.rel_append atRoot (steady.runAll_images kept form)
      | true =>
          obtain ⟨function, shape⟩ := placed.callable isFunction
          cases shape
          have below := steady.runAll_callable function placed kept
          rw [Survey.run_eq, Survey.run_eq (image skipsDestroy ancestors _), sameInside]
          exact List.rel_append atRoot below

end Steady

end Reactivity.Refresh
