import Reactivity.Proofs.Component.Metadata

namespace Reactivity

open Script

/-!
# Refused statements

Which statement of the top level of a script is refused, and for what cause, said of the
statement alone. The pass that gathers the parts of a component fails with the refusal
of the first refused statement, and on no other ground; the injection before the pass
makes no difference to it.
-/

namespace Outcome

variable {α β : Type}

/-- The failure that prevented a result. -/
def failure? :
    Outcome α →
    Option Failure
  | .error failure => some failure
  | .ok _ => none

theorem failure?_eq_some
    {outcome : Outcome α}
    {failure : Failure} :
    outcome.failure? = some failure ↔ outcome = .error failure := by
  cases outcome with
  | error other => simp [failure?]
  | ok value => simp [failure?]

@[simp]
theorem failure?_fail
    (cause : Cause) :
    (fail cause : Outcome α).failure? = some ⟨cause, none⟩ :=
  rfl

@[simp]
theorem failure?_withContext
    (context : String)
    (outcome : Outcome α) :
    (outcome.withContext context).failure? =
      outcome.failure?.map (fun failure => ⟨failure.cause, some context⟩) := by
  cases outcome <;> rfl

@[simp]
theorem failure?_map
    (change : α → β)
    (outcome : Outcome α) :
    failure? (outcome.map change) = outcome.failure? := by
  cases outcome <;> rfl

/-- A computation that goes on with one that succeeds fails for itself only. -/
theorem failure?_bind
    {first : Outcome α}
    {next : α → Outcome β}
    (succeeds : ∀ value, first = .ok value → ∃ result, next value = .ok result) :
    (first >>= next).failure? = first.failure? := by
  cases first with
  | error failure => rfl
  | ok value =>
      obtain ⟨result, isOk⟩ := succeeds value rfl
      simp only [bind, Except.bind, isOk]
      rfl

/-- Computations that agree fail alike. -/
theorem Agree.failure?_eq
    {alike : α → β → Prop}
    {first : Outcome α}
    {second : Outcome β}
    (agree : Agree alike first second) :
    first.failure? = second.failure? := by
  cases agree <;> rfl

end Outcome

namespace Component

open Refresh

/-- Why an exported declaration declares no properties. -/
def exportFault?
    (declaration : Node) :
    Option Cause :=
  match declaration.form with
  | .declaration _ =>
      if declaration.children.all (fun declarator => (Draft.declaratorName? declarator).isSome) then
        none
      else
        some .patternExport
  | _ => some .wrongExport

/-- The failure that a statement makes; it blames the statement. -/
def refusal?
    (source : List Char)
    (scope : Scope.Root) :
    Node →
    Option Failure
  | .mk .exportDeclaration _ span [declaration] =>
      (exportFault? declaration).map (fun cause => ⟨cause, some (span.text source)⟩)
  | .mk (.exportList _ _ _) _ span _ => some ⟨.wrongExport, some (span.text source)⟩
  | .mk (.labeled label) _ span [body] =>
      if label == reactiveLabel then
        (Reactive.ofBody source scope body).failure?.map
          (fun failure => ⟨failure.cause, some (span.text source)⟩)
      else
        none
  | _ => none

variable
  {source : List Char}
  {scope : Scope.Root}

/-- Names are missing exactly when some declarator has none. -/
theorem mapM_eq_none_iff
    {α β : Type}
    {get? : α → Option β}
    {items : List α} :
    items.mapM get? = none ↔ items.all (fun item => (get? item).isSome) = false := by
  induction items with
  | nil =>
      simp
  | cons item rest inductionHypothesis =>
      rw [List.mapM_cons, List.all_cons]
      cases get? item with
      | none =>
          simp
      | some value =>
          rw [Option.isSome_some, Bool.true_and, ← inductionHypothesis]
          cases rest.mapM get? <;> simp

/-- An exported declaration is refused for its fault only. -/
theorem Draft.failure?_exportedProps
    (declaration : Node) :
    (Draft.exportedProps declaration).failure? =
      (exportFault? declaration).map (fun cause => ⟨cause, none⟩) := by
  unfold exportFault? Draft.exportedProps
  cases declaration.form with
  | declaration keyword =>
      dsimp only
      cases named : declaration.children.mapM Draft.declaratorName? with
      | none =>
          rw [mapM_eq_none_iff.mp named]
          rfl
      | some names =>
          have allNamed :
              declaration.children.all
                (fun declarator => (Draft.declaratorName? declarator).isSome) = true := by
            rw [← Bool.not_eq_false]
            intro notAll
            rw [mapM_eq_none_iff.mpr notAll] at named
            cases named
          rw [allNamed]
          rfl
  | _ =>
      rfl

/-- Properties that are identifiers are registered. -/
theorem Draft.exists_addExport
    (draft : Draft)
    (declaration : Node)
    {names : List String}
    (areNamed : ∀ name ∈ names, isIdentifier name) :
    ∃ after, draft.addExport declaration names = .ok after := by
  unfold Draft.addExport
  generalize draft.push (declaration.withRole .statement) = current
  induction names generalizing current with
  | nil =>
      exact ⟨current, rfl⟩
  | cons name rest inductionHypothesis =>
      rw [List.forall_mem_cons] at areNamed
      rw [List.foldlM_cons, Draft.register, readSnippet_registration areNamed.1]
      exact inductionHypothesis areNamed.2 _

/-- A variable that is an identifier is declared for a watcher. -/
theorem Draft.exists_addReactive
    (draft : Draft)
    {reactive : Reactive}
    (isNamed : ∀ name ∈ reactive.declares, isIdentifier name) :
    ∃ after, draft.addReactive reactive = .ok after := by
  unfold Draft.addReactive
  cases declares : reactive.declares with
  | none =>
      exact ⟨_, rfl⟩
  | some name =>
      have isRead := readSnippet_watchedVariable (isNamed name declares)
      rw [Option.toList_some, List.mapM_cons, Function.comp_apply, isRead]
      exact ⟨_, rfl⟩

/-- A step of the pass fails with the refusal of its statement only. -/
theorem Draft.failure?_add
    (draft : Draft)
    {statement : Node}
    (fits : NamesFit scope statement) :
    (draft.add source scope statement).failure? = refusal? source scope statement := by
  unfold Draft.add
  split
  · rfl
  · next role span declaration =>
      rw [Outcome.failure?_bind, Outcome.failure?_withContext, Draft.failure?_exportedProps,
        Option.map_map]
      · rfl
      · intro names exported
        have sameNames :=
          @propNames_of_exportedProps (.mk .exportDeclaration role span [declaration])
          _ _ rfl (Outcome.withContext_eq_ok.mp exported)
        exact draft.exists_addExport declaration (sameNames ▸ fits.props)
  · rfl
  · next label role span body =>
      dsimp only [refusal?]
      by_cases isReactive : label == reactiveLabel
      · rw [if_pos isReactive, if_pos isReactive, Outcome.failure?_bind,
          Outcome.failure?_withContext]
        intro reactive built
        have declares := ofBody_declares (Outcome.withContext_eq_ok.mp built)
        have kind : Kind.ofNode (.mk (.labeled label) role span [body]) = .reactive body :=
          if_pos isReactive
        have named := fits.watched
        rw [watchedNames, reactiveBody?, kind] at named
        refine draft.exists_addReactive (fun name isDeclared => named name ?_)
        rw [declares] at isDeclared
        exact Option.mem_toList.mpr isDeclared
      · rw [if_neg isReactive, if_neg isReactive]
        rfl
  · next noImport noExport noList noLabel =>
      unfold refusal?
      split
      · exact (noExport _ _ _ rfl).elim
      · exact (noList _ _ _ _ _ _ rfl).elim
      · exact (noLabel _ _ _ _ rfl).elim
      · rfl

/-- A pass fails with the refusal of the first refused statement. -/
theorem Draft.failure?_foldlM
    (draft : Draft)
    {statements : List Node}
    (fit : ∀ statement ∈ statements, NamesFit scope statement) :
    (statements.foldlM (Draft.add source scope) draft).failure? =
      statements.findSome? (refusal? source scope) := by
  induction statements generalizing draft with
  | nil =>
      rfl
  | cons statement rest inductionHypothesis =>
      rw [List.forall_mem_cons] at fit
      rw [List.foldlM_cons, List.findSome?_cons, ← Draft.failure?_add draft fit.1]
      cases draft.add source scope statement with
      | error failure => rfl
      | ok after => exact inductionHypothesis after fit.2

/-- A component is not made for the refusal of the first refused statement only. -/
theorem failure?_ofStatements
    {statements : List Node}
    (fit : ∀ statement ∈ statements, NamesFit scope statement) :
    (Parts.ofStatements source scope statements).failure? =
      statements.findSome? (refusal? source scope) := by
  rw [← Draft.failure?_foldlM {} fit, ofStatements_eq, Outcome.failure?_map]

/-- In a script that has been read, the names that snippets are made with are identifiers. -/
theorem namesFit_of_read
    {text : String}
    {program : Program}
    (read : readProgram text = .ok program)
    (scope : Scope.Root) :
    ∀ statement ∈ program.statements, NamesFit scope statement :=
  fun statement member =>
    namesFit_of_isWellFormed scope (readProgram_stands read statement member).wellFormed

/-- A script fails to compile with the refusal of the first refused statement. -/
theorem compile_of_refusal
    {input : Input}
    {program : Program}
    {failure : Failure}
    (read : readProgram (markCheckStops input.code) = .ok program)
    (refused :
      program.statements.findSome?
        (refusal? (markCheckStops input.code).toList (Scope.Root.scan program.statements)) =
          some failure) :
    compile input = .error failure := by
  have paired := forall₂_paired_inject (Scope.Root.scan program.statements).needsDestroyHook read
  have notMade := @failure?_ofStatements (markCheckStops input.code).toList
    (Scope.Root.scan program.statements) program.statements (namesFit_of_read read _)
  rw [refused, (ofStatements_agree paired).failure?_eq, Outcome.failure?_eq_some] at notMade
  unfold compile
  dsimp only
  rw [read]
  dsimp only [bind, Except.bind]
  rw [notMade]

end Component

end Reactivity
