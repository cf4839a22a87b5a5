import Reactivity.Proofs.Component.Markers
import Reactivity.Proofs.Refresh.Steady

namespace Reactivity.Component

open Script Refresh

/-!
# Contents of the factory function

What can be found in the body of a factory function: besides the scaffold, it holds what
the statements of the script contribute, as the injection has left them. A survey that
passes over both the scaffold and the injection finds in the body what it finds in the
statements that pass into it.
-/

variable
  {source : List Char}
  {scope : Scope.Root}

/-- The statements of the scaffold that do not depend on what the script declares. -/
def frame : List Node :=
  commonHeader ++ proplessHeader ++ [leftoverAttributes, footer]

/-- What the header gives, if the frame gives nothing. -/
theorem flatMap_header
    {β : Type}
    {give : Node → List β}
    (frameFree : ∀ statement ∈ frame, give statement = [])
    (scope : Scope.Root)
    (hasProps : Bool) :
    (header scope hasProps).flatMap give =
      (if scope.needsEmitter then give emitterDeclaration else []) ++
        (if scope.needsDestroyHook then give destroyHookDeclaration else []) := by
  have common : commonHeader.flatMap give = [] := by
    apply List.flatMap_eq_nil_iff.mpr
    intro statement member
    exact frameFree statement (by simp [frame, member])
  have propless : proplessHeader.flatMap give = [] := by
    apply List.flatMap_eq_nil_iff.mpr
    intro statement member
    exact frameFree statement (by simp [frame, member])
  have optional (condition : Bool) (node : Node) :
      (if condition then [node] else []).flatMap give = if condition then give node else [] := by
    cases condition <;> simp
  have withoutProps : (if hasProps then [] else proplessHeader).flatMap give = [] := by
    cases hasProps
    · exact propless
    · rfl
  rw [header, List.flatMap_append, List.flatMap_append, List.flatMap_append, common, withoutProps,
    optional, optional]
  rfl

/-- The body of a factory function has a header, what the statements contribute, and a footer. -/
theorem Layout.body_eq
    {statements : List Node}
    {parts : Parts}
    (layout : Layout .plain source scope statements parts) :
    ∃ middle,
      Arranged .plain scope statements middle ∧
        parts.body = header scope (!parts.props.isEmpty) ++ middle ++ [footer] := by
  obtain ⟨middle, arranged, body⟩ := layout.body
  refine ⟨middle, arranged, ?_⟩
  rw [body, header]
  cases parts.props.isEmpty <;> rfl

/-- What lies between header and footer gives what the statements contribute. -/
theorem Arranged.flatMap_eq
    {β : Type}
    {give : Node → List β}
    {statements middle : List Node}
    (arranged : Arranged .plain scope statements middle)
    (leftoverFree : give leftoverAttributes = []) :
    middle.flatMap give = (statements.flatMap (share .plain scope)).flatMap give := by
  cases arranged with
  | propless noProp => rfl
  | registered hasProp noneLater => simp [leftoverFree]

/-- The same statement, whatever role it is given. -/
theorem withRole_of_stands
    {statement : Node}
    (hasRole : statement.role = .statement) :
    statement.withRole .statement = statement := by
  obtain ⟨form, role, span, children⟩ := statement
  obtain rfl : role = .statement := hasRole
  rfl

/-- An image has the role of its node. -/
theorem role_image
    {skipsDestroy : Bool}
    {ancestors : List Ancestor}
    {node : Node}
    (placed : Placed ancestors node) :
    (image skipsDestroy ancestors node).role = node.role := by
  have roles (node : Node) : (outline node).role = node.role := by
    obtain ⟨form, role, span, children⟩ := node
    rw [outline_mk]
    rfl
  rw [← roles, outline_image placed, roles]

/-- A statement of another kind passes into the factory function as it is. -/
theorem exists_authored_of_other
    {skipsDestroy : Bool}
    {statement : Node}
    (stands : statement.Stands .statement)
    (kind : Kind.ofNode statement = .other)
    (imageKind : Kind.ofNode (image skipsDestroy [] statement) = .other) :
    ∃ chain part,
      Placed chain part ∧
        authored? statement = some (part.withRole .statement) ∧
          authored? (image skipsDestroy [] statement) =
            some ((image skipsDestroy chain part).withRole .statement) := by
  have placed : Placed [] statement := .ofStands stands []
  refine ⟨[], statement, placed, ?_, ?_⟩
  · rw [authored?, kind, withRole_of_stands stands.hasRole]
  · rw [authored?, imageKind, withRole_of_stands ((role_image placed).trans stands.hasRole)]

/-- What passes into the factory function, before and after the injection. -/
theorem authored?_image
    (skipsDestroy : Bool)
    {statement : Node}
    (stands : statement.Stands .statement) :
    authored? statement = none ∧ authored? (image skipsDestroy [] statement) = none ∨
      ∃ chain part,
        Placed chain part ∧
          authored? statement = some (part.withRole .statement) ∧
            authored? (image skipsDestroy [] statement) =
              some ((image skipsDestroy chain part).withRole .statement) := by
  have placed : Placed [] statement := .ofStands stands []
  have others := @exists_authored_of_other skipsDestroy statement stands
  obtain ⟨form, role, span, children⟩ := statement
  cases isFunction : isCallable form with
  | true =>
      obtain ⟨function, shape⟩ := placed.callable isFunction
      rw [shape] at placed others ⊢
      exact .inr (others (kind_of_isCallable function.callable)
        (kind_of_isCallable (function.isCallable_image placed)))
  | false =>
      have inside :
          image skipsDestroy [] (.mk form role span children) = .mk form role span _ :=
        image_of_noCallable placed isFunction
      cases form with
      | importing bindings text attributes =>
          exact .inl ⟨rfl, by rw [inside]; rfl⟩
      | exportDeclaration =>
          have fits := (Node.isWellFormed_mk.mp stands.wellFormed).1
          obtain ⟨declaration, rfl⟩ := List.length_eq_one_iff.mp (beq_iff_eq.mp fits)
          rw [images_of_noBody rfl] at inside
          exact .inr ⟨_, declaration, placed.children declaration (List.mem_singleton_self _), rfl,
            by rw [inside]; rfl⟩
      | labeled label =>
          rw [images_of_noBody rfl] at inside
          by_cases isReactive : ∃ body, label == reactiveLabel ∧ children = [body]
          · obtain ⟨body, isReactive, rfl⟩ := isReactive
            have kind (body : Node) :
                Kind.ofNode (.mk (.labeled label) role span [body]) = .reactive body :=
              if_pos isReactive
            left
            rw [inside, List.map_singleton, authored?, authored?, kind, kind]
            exact ⟨rfl, rfl⟩
          · have kind (bodies : List Node) (alike : bodies.length = children.length) :
                Kind.ofNode (.mk (.labeled label) role span bodies) = .other := by
              rcases bodies with _ | ⟨body, _ | ⟨second, rest⟩⟩
              · rfl
              · obtain ⟨own, rfl⟩ := List.length_eq_one_iff.mp alike.symm
                exact if_neg (fun isLabel => isReactive ⟨own, isLabel, rfl⟩)
              · rfl
            right
            apply others (kind children rfl)
            rw [inside]
            exact kind _ (List.length_map _)
      | _ =>
          exact .inr (others rfl (by rw [inside]; rfl))

section Surveys

variable
  {Setting Item : Type}
  {survey : Survey Setting Item}
  {first : Setting}
  {skipsDestroy : Bool}
  {suits : Setting → List Ancestor → Prop}
  {same : Item → Item → Prop}

/-- The survey passes over the scaffold of a component, and does not look at roles. -/
structure PassesScaffold
    (survey : Survey Setting Item)
    (first : Setting) :
    Prop where
  scaffold : survey.runAll first scaffold = []
  registration : ∀ property, survey.run first (registration property) = []
  watchedVariable : ∀ declared, survey.run first (watchedVariable declared) = []
  withRole : ∀ node role, survey.run first (Node.withRole role node) = survey.run first node

theorem PassesScaffold.run_scaffold
    (passes : PassesScaffold survey first)
    {statement : Node}
    (member : statement ∈ Component.scaffold) :
    survey.run first statement = [] := by
  have nothing := passes.scaffold
  rw [Survey.runAll_eq] at nothing
  exact List.flatMap_eq_nil_iff.mp nothing statement member

/-- What a statement contributes besides itself gives nothing. -/
theorem PassesScaffold.extras
    (passes : PassesScaffold survey first)
    (scope : Scope.Root)
    (statement : Node) :
    (extras scope statement).flatMap (survey.run first) = [] := by
  apply List.flatMap_eq_nil_iff.mpr
  intro node member
  rw [Component.extras, List.mem_append, List.mem_map, List.mem_map] at member
  rcases member with ⟨name, _, rfl⟩ | ⟨name, _, rfl⟩
  · exact passes.registration name
  · exact passes.watchedVariable name

/-- In the body of a factory function is found what its authored statements give. -/
theorem Layout.run_body
    (passes : PassesScaffold survey first)
    {statements : List Node}
    {parts : Parts}
    (layout : Layout .plain source scope statements parts) :
    survey.runAll first parts.body = survey.runAll first (statements.filterMap authored?) := by
  obtain ⟨middle, arranged, body⟩ := layout.body_eq
  have frameFree : ∀ statement ∈ frame, survey.run first statement = [] := by
    intro statement member
    apply passes.run_scaffold
    simp only [frame, scaffold, List.mem_append, List.mem_cons] at member ⊢
    tauto
  have emitterFree : survey.run first emitterDeclaration = [] :=
    passes.run_scaffold (by simp [scaffold])
  have destroyHookFree : survey.run first destroyHookDeclaration = [] :=
    passes.run_scaffold (by simp [scaffold])
  have shares :
      (statements.flatMap (share .plain scope)).flatMap (survey.run first) =
        (statements.filterMap authored?).flatMap (survey.run first) := by
    rw [List.filterMap_eq_flatMap_toList, List.flatMap_assoc, List.flatMap_assoc]
    apply List.flatMap_congr
    intro statement _
    rw [share_eq, List.flatMap_append, passes.extras, List.append_nil]
  rw [Survey.runAll_eq, Survey.runAll_eq, body, List.flatMap_append, List.flatMap_append,
    flatMap_header frameFree, emitterFree, destroyHookFree, ite_self, ite_self,
    arranged.flatMap_eq (frameFree _ (by simp [frame])), shares, List.flatMap_singleton,
    frameFree footer (by simp [frame]), List.append_nil]
  rfl

/-- The survey finds the same in the authored statements before and after the injection. -/
theorem run_authored_image
    (steady : Steady survey skipsDestroy suits same)
    (fits : ∀ ancestors, suits first ancestors)
    (passes : PassesScaffold survey first)
    {statements : List Node}
    (stand : ∀ statement ∈ statements, statement.Stands .statement) :
    List.Forall₂ same (survey.runAll first (statements.filterMap authored?))
      (survey.runAll first ((statements.map (image skipsDestroy [])).filterMap authored?)) := by
  induction statements with
  | nil =>
      exact steady.forall₂_refl _
  | cons statement rest inductionHypothesis =>
      have atRest := inductionHypothesis (fun other member => stand other (by simp [member]))
      rcases authored?_image skipsDestroy (stand statement (by simp)) with
        ⟨isNone, imageIsNone⟩ | ⟨chain, part, placed, isSome, imageIsSome⟩
      · rw [List.map_cons, List.filterMap_cons_none isNone, List.filterMap_cons_none imageIsNone]
        exact atRest
      · rw [List.map_cons, List.filterMap_cons_some isSome, List.filterMap_cons_some imageIsSome,
          Survey.runAll_cons, Survey.runAll_cons, passes.withRole, passes.withRole]
        exact List.rel_append (steady.run_image (fits chain) placed) atRest

variable
  {input : Input}
  {program : Program}
  {compiled : Compiled}
  {parts : Parts}
  {factory : Node}

/-- The survey finds the same in a factory function as in the statements that pass into it. -/
theorem Built.run_body
    (built : Built input program compiled parts factory)
    (read : readProgram (markCheckStops input.code) = .ok program)
    (steady :
      Steady survey (Scope.Root.scan program.statements).needsDestroyHook suits same)
    (fits : ∀ ancestors, suits first ancestors)
    (passes : PassesScaffold survey first) :
    List.Forall₂ same (survey.runAll first (program.statements.filterMap authored?))
      (survey.runAll first parts.body) := by
  rw [built.layout.run_body passes, inject_eq read]
  exact run_authored_image steady fits passes (readProgram_stands read)

end Surveys

end Reactivity.Component
