import Reactivity.Proofs.Component.Factory
import Reactivity.Proofs.Component.Refusal
import Reactivity.Proofs.Refresh.Stops

namespace Reactivity.Component

open Script Refresh

/-!
# Body of the factory function

What can be counted in the body of a factory function: besides the scaffold, it holds what
the statements of the script contribute, as the injection has left them.
-/

/-- The module that a script is compiled to. -/
structure Built
    (input : Input)
    (program : Program)
    (compiled : Compiled)
    (parts : Parts)
    (factory : Node) :
    Prop where
  made :
    Parts.ofStatements (markCheckStops input.code).toList (Scope.Root.scan program.statements)
        (inject (Scope.Root.scan program.statements).needsDestroyHook program.statements).1 =
      .ok parts
  layout :
    Layout .plain (markCheckStops input.code).toList (Scope.Root.scan program.statements)
      (inject (Scope.Root.scan program.statements).needsDestroyHook program.statements).1 parts
  isFactory : IsFactory input.options parts.body factory
  code :
    compiled.code =
      { program with
        statements := program.statements.filter isImport ++ [factory] : Program }.print

variable
  {input : Input}
  {program : Program}
  {compiled : Compiled}
  {source : List Char}
  {scope : Scope.Root}

theorem kind_of_isCallable
    {statement : Node}
    (callable : isCallable statement.form) :
    Kind.ofNode statement = .other := by
  obtain ⟨form, role, span, children⟩ := statement
  cases form with
  | function | arrow => rfl
  | _ => cases callable

/-- Accepted bodies of reactive statements with the same outline assign the same variable. -/
theorem assignedVariable?_of_outline
    {body other : Node}
    (same : outline body = outline other)
    (accepted : (Reactive.ofBody source scope body).failure? = none) :
    assignedVariable? scope body = assignedVariable? scope other := by
  cases built : Reactive.ofBody source scope body with
  | error failure =>
      rw [built] at accepted
      cases accepted
  | ok reactive =>
      have otherBuilt : Reactive.ofBody source scope other = .ok reactive := by
        rw [Reactive.ofBody, ← Reactive.ofStatement_outline, ← same,
          Reactive.ofStatement_outline, ← Reactive.ofBody, built]
      rw [← ofBody_declares built, ← ofBody_declares otherBuilt]

/-- The injection does not change the names that an accepted statement registers or declares. -/
theorem names_image
    (skipsDestroy : Bool)
    {statement : Node}
    (stands : statement.Stands .statement)
    (accepted : refusal? source scope statement = none) :
    propNames (image skipsDestroy [] statement) = propNames statement ∧
      watchedNames scope (image skipsDestroy [] statement) = watchedNames scope statement := by
  have sameOutline : outline statement = outline (image skipsDestroy [] statement) :=
    (outline_image (.ofStands stands [])).symm
  obtain ⟨form, role, span, children⟩ := statement
  cases isFunction : isCallable form with
  | true =>
      have noNames (node : Node) (callable : isCallable node.form) :
          propNames node = [] ∧ watchedNames scope node = [] := by
        simp [propNames, watchedNames, reactiveBody?, kind_of_isCallable callable]
      have callableImage :
          isCallable (image skipsDestroy [] (.mk form role span children)).form := by
        rcases form_of_outline sameOutline with sameForm | ⟨head, otherHead, isArrow, isOther⟩
        · rw [← sameForm]
          exact isFunction
        · rw [isOther]
          rfl
      obtain ⟨noProp, noneWatched⟩ := noNames (.mk form role span children) isFunction
      obtain ⟨noImageProp, noneImageWatched⟩ := noNames _ callableImage
      exact ⟨noImageProp.trans noProp.symm, noneImageWatched.trans noneWatched.symm⟩
  | false =>
      cases form with
      | exportDeclaration =>
          have fits := (Node.isWellFormed_mk.mp stands.wellFormed).1
          obtain ⟨declaration, rfl⟩ := List.length_eq_one_iff.mp (beq_iff_eq.mp fits)
          obtain ⟨children, isImage, sameChildren⟩ := exists_of_outline_mk sameOutline rfl rfl
          obtain ⟨other, rfl, same⟩ := List.map_eq_singleton_iff.mp sameChildren.symm
          rw [isImage]
          refine ⟨?_, rfl⟩
          -- The exported properties are the same, and there are some.
          have sameProps := Draft.exportedProps_of_outline same
          have noFault := Draft.failure?_exportedProps declaration
          rw [Option.map_eq_none_iff.mp accepted] at noFault
          cases exported : Draft.exportedProps declaration with
          | error failure =>
              rw [exported] at noFault
              cases noFault
          | ok names =>
              exact (propNames_of_exportedProps rfl (sameProps.trans exported)).trans
                (propNames_of_exportedProps rfl exported).symm
      | labeled label =>
          obtain ⟨others, isImage, sameChildren⟩ := exists_of_outline_mk sameOutline rfl rfl
          rw [isImage]
          rcases cases_of_outlines sameChildren with
            ⟨rfl, rfl⟩ | ⟨body, other, rfl, rfl, same⟩ | ⟨_, _, _, _, _, _, rfl, rfl⟩
          · exact ⟨rfl, rfl⟩
          · by_cases isReactive : label == reactiveLabel
            · have built := Option.map_eq_none_iff.mp ((if_pos isReactive).symm.trans accepted)
              have isLabel := beq_iff_eq.mp isReactive
              simp [propNames, watchedNames, reactiveBody?, Kind.ofNode, isLabel,
                assignedVariable?_of_outline same built]
            · simp [propNames, watchedNames, reactiveBody?, Kind.ofNode, isReactive]
          · exact ⟨rfl, rfl⟩
      | _ =>
          rw [image_of_noCallable (.ofStands stands []) isFunction]
          exact ⟨rfl, rfl⟩

/-- Every statement of a script that compiles is accepted. -/
theorem accepted_of_compile
    (read : readProgram (markCheckStops input.code) = .ok program)
    (done : compile input = .ok compiled) :
    ∀ statement ∈ program.statements,
      refusal? (markCheckStops input.code).toList (Scope.Root.scan program.statements)
        statement = none := by
  apply List.findSome?_eq_none_iff.mp
  cases refused :
      program.statements.findSome?
        (refusal? (markCheckStops input.code).toList (Scope.Root.scan program.statements)) with
  | none => rfl
  | some failure =>
      rw [compile_of_refusal read refused] at done
      cases done

/-- After the injection, the names that snippets are made with are still identifiers. -/
theorem namesFit_inject
    (read : readProgram (markCheckStops input.code) = .ok program)
    (done : compile input = .ok compiled)
    (skipsDestroy : Bool) :
    ∀ statement ∈ (inject skipsDestroy program.statements).1,
      NamesFit (Scope.Root.scan program.statements) statement := by
  rw [inject_eq read]
  intro after member
  obtain ⟨statement, isStatement, rfl⟩ := List.mem_map.mp member
  have fits := namesFit_of_read read (Scope.Root.scan program.statements) statement isStatement
  obtain ⟨sameProps, sameWatched⟩ :=
    names_image skipsDestroy (readProgram_stands read statement isStatement)
      (accepted_of_compile read done statement isStatement)
  exact ⟨sameProps ▸ fits.props, sameWatched ▸ fits.watched⟩

/-- The watchers of a compiled script are made of its reactive statements before the injection. -/
theorem exists_watchers
    (read : readProgram (markCheckStops input.code) = .ok program)
    (done : compile input = .ok compiled) :
    ∃ reactives,
      (program.statements.filterMap reactiveBody?).mapM
          (Reactive.ofBody (markCheckStops input.code).toList
            (Scope.Root.scan program.statements)) =
        .ok reactives ∧
      compiled.watchers = reactives.map Reactive.watcher := by
  obtain ⟨ownParts, ownMade, described⟩ := describes_of_compile read done
  obtain ⟨reactives, allBuilt, watchers⟩ := (layout_of_made ownMade).watchers
  exact ⟨reactives, allBuilt, described.watchers.trans watchers⟩

/-- A compiled script is a module of its imports and a shell with its body. -/
theorem exists_built_shell
    (read : readProgram (markCheckStops input.code) = .ok program)
    (done : compile input = .ok compiled) :
    ∃ parts shell,
      IsShellStatement input.options shell ∧
        Built input program compiled parts (withBody parts.body shell) := by
  have fit :=
    namesFit_inject read done (Scope.Root.scan program.statements).needsDestroyHook
  unfold compile at done
  obtain ⟨_, readAgain, done⟩ := Outcome.bind_eq_ok.mp done
  obtain rfl := Except.ok.inj (read.symm.trans readAgain)
  obtain ⟨parts, made, done⟩ := Outcome.bind_eq_ok.mp done
  obtain ⟨module, moduleMade, done⟩ := Outcome.bind_eq_ok.mp done
  cases done
  obtain ⟨shell, isShell, rfl⟩ := exists_shell moduleMade
  have paired := forall₂_paired_inject (Scope.Root.scan program.statements).needsDestroyHook read
  obtain ⟨ownParts, ownMade, same⟩ := (ofStatements_agree paired).exists_of_ok made
  have imports : parts.imports = program.statements.filter isImport := by
    rw [← same.imports, (layout_of_made ownMade).imports]
  exact ⟨parts, shell, isShell, made, plainLayout_of_made fit made,
    isFactory_withBody isShell parts.body, by rw [imports]⟩

/-- A compiled script is a module of its imports and a factory function. -/
theorem exists_built
    (read : readProgram (markCheckStops input.code) = .ok program)
    (done : compile input = .ok compiled) :
    ∃ parts factory, Built input program compiled parts factory := by
  obtain ⟨parts, shell, _, built⟩ := exists_built_shell read done
  exact ⟨parts, withBody parts.body shell, built⟩

/-- The statements of a factory function that no statement of the script contributes. -/
def scaffold : List Node :=
  commonHeader ++ proplessHeader ++
    [emitterDeclaration, destroyHookDeclaration, leftoverAttributes, footer]

variable {check : Form → Bool}

theorem Arranged.tallyAll_eq
    {statements middle : List Node}
    (arranged : Arranged .plain scope statements middle)
    (leftoverFree : leftoverAttributes.tally check = 0) :
    Node.tallyAll check middle = Node.tallyAll check (statements.flatMap (share .plain scope)) := by
  cases arranged with
  | propless noProp => rfl
  | registered hasProp noneLater => simp [leftoverFree]

/-- In the body of a factory function counts what the statements contribute. -/
theorem Layout.tallyAll_body
    {statements : List Node}
    {parts : Parts}
    (layout : Layout .plain source scope statements parts)
    (free : Node.tallyAll check scaffold = 0) :
    Node.tallyAll check parts.body =
      Node.tallyAll check (statements.flatMap (share .plain scope)) := by
  obtain ⟨middle, arranged, body⟩ := layout.body
  simp only [scaffold, Node.tallyAll_append, Node.tallyAll_cons, Node.tallyAll_nil,
    Nat.add_eq_zero_iff] at free
  obtain ⟨⟨common, propless⟩, emitter, destroyHook, leftover, footer, _⟩ := free
  rw [← arranged.tallyAll_eq leftover, body]
  have optional (condition : Bool) (nodes : List Node) (none : Node.tallyAll check nodes = 0) :
      Node.tallyAll check (if condition then nodes else []) = 0 := by
    cases condition <;> simp [none]
  simp only [Node.tallyAll_append, Node.tallyAll_cons, Node.tallyAll_nil, common, footer,
    optional _ _ propless, optional _ [_] (by simpa using emitter),
    optional _ [_] (by simpa using destroyHook), Nat.zero_add, Nat.add_zero]

/-- What counts in the statement that a statement of the script stays or becomes. -/
def authoredTally
    (check : Form → Bool)
    (statement : Node) :
    Nat :=
  ((authored? statement).map (Node.tally check)).getD 0

/-- What a statement contributes to the factory function besides itself. -/
def extras
    (scope : Scope.Root)
    (statement : Node) :
    List Node :=
  (propNames statement).map registration ++ (watchedNames scope statement).map watchedVariable

theorem share_eq
    (scope : Scope.Root)
    (statement : Node) :
    share .plain scope statement = (authored? statement).toList ++ extras scope statement := by
  unfold share authored? extras propNames watchedNames reactiveBody?
  cases Kind.ofNode statement with
  | imported bindings | other => rfl
  | exported declaration => simp [Snippets.plain]
  | reactive body => simp [Snippets.plain]

/-- In the share of a statement counts what it becomes, and what it contributes besides. -/
theorem tallyAll_share
    (check : Form → Bool)
    (scope : Scope.Root)
    (statement : Node) :
    Node.tallyAll check (share .plain scope statement) =
      authoredTally check statement + Node.tallyAll check (extras scope statement) := by
  rw [share_eq, Node.tallyAll_append, authoredTally]
  cases authored? statement <;> simp

/-- The functions that are stopped in a statement, if it does not leave the factory function. -/
def authoredStops
    (skipsDestroy : Bool)
    (statement : Node) :
    Nat :=
  ((authored? statement).map (fun _ => stops skipsDestroy [] statement)).getD 0

/-- The functions that are stopped in the statements that stay in the factory function. -/
def authoredStopsAll
    (skipsDestroy : Bool) :
    List Node →
    Nat
  | [] => 0
  | statement :: rest =>
      authoredStops skipsDestroy statement + authoredStopsAll skipsDestroy rest

/-- A statement of another kind passes into the factory function as it is. -/
theorem authoredTally_image_of_other
    (blind : IsBlind check)
    {skipsDestroy : Bool}
    {statement : Node}
    (placed : Placed [] statement)
    (kind : Kind.ofNode statement = .other)
    (imageKind : Kind.ofNode (image skipsDestroy [] statement) = .other) :
    authoredTally check (image skipsDestroy [] statement) +
        authoredStops skipsDestroy statement * (check (.identifier markerName)).toNat =
      authoredTally check statement := by
  simpa [authoredTally, authoredStops, authored?, kind, imageKind] using blind.tally_image placed

/-- What is left of the statement that a statement becomes, and the markers that are gone. -/
theorem authoredTally_image
    (blind : IsBlind check)
    (skipsDestroy : Bool)
    {statement : Node}
    (stands : statement.Stands .statement) :
    authoredTally check (image skipsDestroy [] statement) +
        authoredStops skipsDestroy statement * (check (.identifier markerName)).toNat =
      authoredTally check statement := by
  have placed : Placed [] statement := .ofStands stands []
  obtain ⟨form, role, span, children⟩ := statement
  cases isFunction : isCallable form with
  | true =>
      have sameCallable :
          isCallable (image skipsDestroy [] (.mk form role span children)).form := by
        rcases form_of_outline (outline_image placed) with
          sameForm | ⟨head, otherHead, isArrow, isOther⟩
        · rw [sameForm]
          exact isFunction
        · rw [isArrow]
          rfl
      exact authoredTally_image_of_other blind placed (kind_of_isCallable isFunction)
        (kind_of_isCallable sameCallable)
  | false =>
      have inside :
          image skipsDestroy [] (.mk form role span children) = .mk form role span _ :=
        image_of_noCallable placed isFunction
      cases form with
      | importing bindings text attributes =>
          rw [inside]
          simp [authoredTally, authoredStops, authored?, Kind.ofNode]
      | exportDeclaration =>
          have fits := (Node.isWellFormed_mk.mp stands.wellFormed).1
          obtain ⟨declaration, rfl⟩ := List.length_eq_one_iff.mp (beq_iff_eq.mp fits)
          have isPlaced := placed.children declaration (by simp)
          have counted := @IsBlind.tally_image skipsDestroy _ check blind declaration isPlaced
          rw [images_of_noBody rfl] at inside
          rw [inside]
          simpa [authoredTally, authoredStops, authored?, Kind.ofNode,
            stops_of_noCallable isFunction, stopsAll] using counted
      | labeled label =>
          rw [images_of_noBody rfl] at inside
          by_cases isReactive : ∃ body, label == reactiveLabel ∧ children = [body]
          · obtain ⟨body, isReactive, rfl⟩ := isReactive
            rw [inside]
            simp [authoredTally, authoredStops, authored?, Kind.ofNode, isReactive]
          · have kind (others : List Node) (alike : others.length = children.length) :
                Kind.ofNode (.mk (.labeled label) role span others) = .other := by
              rcases others with _ | ⟨body, _ | ⟨second, rest⟩⟩
              · rfl
              · obtain ⟨own, rfl⟩ := List.length_eq_one_iff.mp alike.symm
                exact if_neg (fun isLabel => isReactive ⟨own, isLabel, rfl⟩)
              · rfl
            exact authoredTally_image_of_other blind placed (kind children rfl)
              (by rw [inside]; exact kind _ (List.length_map _))
      | _ =>
          exact authoredTally_image_of_other blind placed rfl (by rw [inside]; rfl)

end Reactivity.Component
