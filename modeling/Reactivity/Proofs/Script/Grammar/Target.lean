import Reactivity.Proofs.Script.WellFormed
import Reactivity.Script.Grammar.Target

namespace Reactivity.Script.Node

/-!
# Targets and bindings of well-formed trees

Turning an expression into the pattern it stands for keeps the tree well formed,
and what comes out is no longer an expression but a part of its parent.
-/

/-- A simple target is a part. -/
theorem simpleTarget?_stands
    {node target : Node}
    (turned : node.simpleTarget? = some target)
    (fits : node.isWellFormed) :
    target.Stands .part := by
  induction node using inductionOnChildren generalizing target with
  | step form role span children inductionHypothesis =>
      obtain ⟨atRoot, below⟩ := isWellFormed_mk.mp fits
      unfold simpleTarget? at turned
      split at turned
      · next innerSpan inner shape =>
          cases shape
          obtain ⟨innerTarget, innerTurned, rfl⟩ := Option.map_eq_some_iff.mp turned
          have stands := inductionHypothesis inner (by simp) innerTurned (below inner (by simp))
          refine ⟨isWellFormed_mk.mpr ⟨?_, ?_⟩, rfl⟩
          · simp [Form.fits, stands.hasRole]
          · simpa using stands.wellFormed
      · next shape =>
          cases shape
          split at turned
          all_goals cases turned
          all_goals exact ⟨isWellFormed_mk.mpr ⟨atRoot, below⟩, rfl⟩

/-- Every target of a list is the target of one of its items. -/
theorem exists_of_mem_targets?
    {nodes targets : List Node}
    (turned : targets? nodes = some targets)
    {target : Node}
    (member : target ∈ targets) :
    ∃ node ∈ nodes, target? true node = some target := by
  induction nodes generalizing targets with
  | nil =>
      simp only [targets?, Option.some.injEq] at turned
      simp [← turned] at member
  | cons node rest inductionHypothesis =>
      unfold targets? at turned
      split at turned
      · next first others firstTurned othersTurned =>
          cases turned
          rcases List.mem_cons.mp member with isFirst | isOther
          · exact ⟨node, by simp, isFirst ▸ firstTurned⟩
          · obtain ⟨source, sourceMember, sourceTurned⟩ :=
              inductionHypothesis othersTurned isOther
            exact ⟨source, by simp [sourceMember], sourceTurned⟩
      · cases turned

/-- The target of an expression is a part. -/
theorem target?_stands
    {allowsDefault : Bool}
    {node target : Node}
    (turned : node.target? allowsDefault = some target)
    (fits : node.isWellFormed) :
    target.Stands .part := by
  induction node using inductionOnChildren generalizing allowsDefault target with
  | step form role span children inductionHypothesis =>
      obtain ⟨atRoot, below⟩ := isWellFormed_mk.mp fits
      have listed
          {targets : List Node}
          (allTurned : targets? children = some targets) :
          ∀ target ∈ targets, target.isWellFormed := by
        intro target member
        obtain ⟨source, sourceMember, sourceTurned⟩ := exists_of_mem_targets? allTurned member
        exact (inductionHypothesis source sourceMember sourceTurned
          (below source sourceMember)).wellFormed
      unfold target? at turned
      split at turned
      · next shape =>
          cases shape
          split at turned
          · cases turned
            exact ⟨isWellFormed_mk.mpr ⟨rfl, below⟩, rfl⟩
          · cases turned
      · next shape =>
          cases shape
          obtain ⟨targets, allTurned, rfl⟩ := Option.map_eq_some_iff.mp turned
          exact ⟨isWellFormed_mk.mpr ⟨rfl, listed allTurned⟩, rfl⟩
      · next shape =>
          cases shape
          split at turned
          · obtain ⟨targets, allTurned, rfl⟩ := Option.map_eq_some_iff.mp turned
            exact ⟨isWellFormed_mk.mpr ⟨rfl, listed allTurned⟩, rfl⟩
          · cases turned
      · next inner shape =>
          cases shape
          obtain ⟨innerTarget, innerTurned, rfl⟩ := Option.map_eq_some_iff.mp turned
          have stands := inductionHypothesis inner (by simp) innerTurned (below inner (by simp))
          refine ⟨isWellFormed_mk.mpr ⟨?_, ?_⟩, rfl⟩
          · simp [Form.fits, stands.hasRole]
          · simpa using stands.wellFormed
      · next key value shape =>
          cases shape
          obtain ⟨valueTarget, valueTurned, rfl⟩ := Option.map_eq_some_iff.mp turned
          have stands := inductionHypothesis value (by simp) valueTurned (below value (by simp))
          refine ⟨isWellFormed_mk.mpr ⟨rfl, ?_⟩, rfl⟩
          simpa using ⟨below key (by simp), stands.wellFormed⟩
      · next key name value shape =>
          cases shape
          cases turned
          have takesAny : name.form.takesAnyRole := by
            simp only [Form.fits, areShorthand] at atRoot
            split at atRoot
            · next shape =>
                cases shape
                rfl
            · cases atRoot
          have nameFits := withRole_isWellFormed (below name (by simp)) takesAny .part
          have defaultedFits :
              (Node.mk .defaulted .part span [name.withRole .part, value]).isWellFormed :=
            isWellFormed_mk.mpr ⟨rfl, by simpa using ⟨nameFits, below value (by simp)⟩⟩
          refine ⟨isWellFormed_mk.mpr ⟨rfl, ?_⟩, rfl⟩
          simpa using ⟨below key (by simp), defaultedFits⟩
      · next value shape =>
          cases shape
          obtain ⟨valueTarget, valueTurned, rfl⟩ := Option.map_eq_some_iff.mp turned
          have stands := inductionHypothesis value (by simp) valueTurned (below value (by simp))
          exact ⟨isWellFormed_mk.mpr ⟨rfl, by simpa using stands.wellFormed⟩, rfl⟩
      · next shape =>
          cases shape
          cases turned
          exact ⟨fits, by simpa [Form.fits] using atRoot⟩
      · next shape =>
          cases shape
          cases turned
          exact ⟨fits, by simpa [Form.fits] using atRoot⟩
      · exact simpleTarget?_stands turned fits

/-- Every binding of a list is the binding of one of its items. -/
theorem exists_of_mem_bindings?
    {nodes bindings : List Node}
    (turned : bindings? nodes = some bindings)
    {binding : Node}
    (member : binding ∈ bindings) :
    ∃ node ∈ nodes, binding? node = some binding := by
  induction nodes generalizing bindings with
  | nil =>
      simp only [bindings?, Option.some.injEq] at turned
      simp [← turned] at member
  | cons node rest inductionHypothesis =>
      unfold bindings? at turned
      split at turned
      · next first others firstTurned othersTurned =>
          cases turned
          rcases List.mem_cons.mp member with isFirst | isOther
          · exact ⟨node, by simp, isFirst ▸ firstTurned⟩
          · obtain ⟨source, sourceMember, sourceTurned⟩ :=
              inductionHypothesis othersTurned isOther
            exact ⟨source, by simp [sourceMember], sourceTurned⟩
      · cases turned

/-- The binding of a target is well formed. -/
theorem binding?_isWellFormed
    {node binding : Node}
    (turned : node.binding? = some binding)
    (fits : node.isWellFormed) :
    binding.isWellFormed := by
  induction node using inductionOnChildren generalizing binding with
  | step form role span children inductionHypothesis =>
      obtain ⟨atRoot, below⟩ := isWellFormed_mk.mp fits
      have listed
          {bindings : List Node}
          (allTurned : bindings? children = some bindings) :
          ∀ binding ∈ bindings, binding.isWellFormed := by
        intro binding member
        obtain ⟨source, sourceMember, sourceTurned⟩ := exists_of_mem_bindings? allTurned member
        exact inductionHypothesis source sourceMember sourceTurned (below source sourceMember)
      unfold binding? at turned
      split at turned
      · next shape =>
          cases shape
          cases turned
          exact identifier_isWellFormed (isIdentifier_of_isWellFormed fits) _ _
      · next shape =>
          cases shape
          cases turned
          exact fits
      · next shape =>
          cases shape
          split at turned
          · obtain ⟨bindings, allTurned, rfl⟩ := Option.map_eq_some_iff.mp turned
            exact isWellFormed_mk.mpr ⟨rfl, listed allTurned⟩
          · cases turned
      · next shape =>
          cases shape
          obtain ⟨bindings, allTurned, rfl⟩ := Option.map_eq_some_iff.mp turned
          exact isWellFormed_mk.mpr ⟨rfl, listed allTurned⟩
      · next key pattern shape =>
          cases shape
          obtain ⟨inner, innerTurned, rfl⟩ := Option.map_eq_some_iff.mp turned
          have innerFits :=
            inductionHypothesis pattern (by simp) innerTurned (below pattern (by simp))
          exact isWellFormed_mk.mpr ⟨rfl, by simpa using ⟨below key (by simp), innerFits⟩⟩
      · next pattern value shape =>
          cases shape
          obtain ⟨inner, innerTurned, rfl⟩ := Option.map_eq_some_iff.mp turned
          have innerFits :=
            inductionHypothesis pattern (by simp) innerTurned (below pattern (by simp))
          exact isWellFormed_mk.mpr ⟨rfl, by simpa using ⟨innerFits, below value (by simp)⟩⟩
      · next pattern shape =>
          cases shape
          obtain ⟨inner, innerTurned, rfl⟩ := Option.map_eq_some_iff.mp turned
          have innerFits :=
            inductionHypothesis pattern (by simp) innerTurned (below pattern (by simp))
          exact isWellFormed_mk.mpr ⟨atRoot, by simpa using innerFits⟩
      · cases turned

/-- An expression without the parentheses around it is well formed. -/
theorem bare_isWellFormed
    {node : Node}
    (fits : node.isWellFormed) :
    node.bare.isWellFormed := by
  induction node using inductionOnChildren with
  | step form role span children inductionHypothesis =>
      have below := (isWellFormed_mk.mp fits).2
      unfold bare
      split
      · next inner shape =>
          cases shape
          exact inductionHypothesis inner (by simp) (below inner (by simp))
      · exact fits

/-- What stands before an arrow has well-formed items. -/
theorem arrowItems?_isWellFormed
    {node : Node}
    {items : List Node}
    (turned : node.arrowItems? = some items)
    (fits : node.isWellFormed) :
    ∀ item ∈ items, item.isWellFormed := by
  unfold arrowItems? at turned
  split at turned
  · cases turned
    exact (isWellFormed_mk.mp fits).2
  · cases turned
    have sequenceFits := (isWellFormed_mk.mp fits).2 _ (List.mem_singleton.mpr rfl)
    exact (isWellFormed_mk.mp sequenceFits).2
  · next inner _ =>
      cases turned
      have innerFits := (isWellFormed_mk.mp fits).2 inner (by simp)
      intro item member
      rw [List.mem_singleton.mp member]
      split
      · exact bare_isWellFormed innerFits
      · exact innerFits
  · cases turned
    intro item member
    rw [List.mem_singleton.mp member]
    exact fits
  · cases turned

/-- The parameters of an arrow function that were read as an expression. -/
theorem arrowHead?_isWellFormed
    {node : Node}
    {parameters : List Node}
    (turned : node.arrowHead? = some parameters)
    (fits : node.isWellFormed) :
    ∀ parameter ∈ parameters, parameter.isWellFormed := by
  intro parameter member
  obtain ⟨items, itemsTurned, rest⟩ := Option.bind_eq_some_iff.mp turned
  obtain ⟨targets, targetsTurned, bindingsTurned⟩ := Option.bind_eq_some_iff.mp rest
  obtain ⟨target, targetMember, bound⟩ := exists_of_mem_bindings? bindingsTurned member
  obtain ⟨item, itemMember, targeted⟩ := exists_of_mem_targets? targetsTurned targetMember
  have itemFits := arrowItems?_isWellFormed itemsTurned fits item itemMember
  exact binding?_isWellFormed bound (target?_stands targeted itemFits).wellFormed

end Reactivity.Script.Node
