import Mathlib.Data.List.Forall2
import Reactivity.Component.Compile
import Reactivity.Proofs.Component.Layout
import Reactivity.Proofs.Refresh.Outline

namespace Reactivity

open Script

/-!
# Metadata of a component

The pass that gathers the parts of a component runs over statements that the injection
has changed. It looks at outlines only: on the changed statements it fails as it would
have failed on the statements of the script, or makes a component with the same
imports, properties and watchers, whose factory function differs in statements of the
author only.
-/

namespace Outcome

variable
  {α β γ δ : Type}
  {alike : α → β → Prop}

/-- Two computations fail alike, or make values that are alike. -/
inductive Agree
    (alike : α → β → Prop) :
    Outcome α →
    Outcome β →
    Prop where
  | failed (failure : Failure) :
      Agree alike (.error failure) (.error failure)
  | made
      {first : α}
      {second : β}
      (same : alike first second) :
      Agree alike (.ok first) (.ok second)

theorem Agree.bind
    {made : γ → δ → Prop}
    {first : Outcome α}
    {second : Outcome β}
    {next : α → Outcome γ}
    {otherNext : β → Outcome δ}
    (agree : Agree alike first second)
    (nextAgree : ∀ value other, alike value other → Agree made (next value) (otherNext other)) :
    Agree made (first >>= next) (second >>= otherNext) := by
  cases agree with
  | failed failure => exact .failed failure
  | made same => exact nextAgree _ _ same

theorem Agree.map
    {made : γ → δ → Prop}
    {first : Outcome α}
    {second : Outcome β}
    {change : α → γ}
    {otherChange : β → δ}
    (agree : Agree alike first second)
    (changed : ∀ value other, alike value other → made (change value) (otherChange other)) :
    Agree made (first.map change) (second.map otherChange) := by
  cases agree with
  | failed failure => exact .failed failure
  | made same => exact .made (changed _ _ same)

/-- A computation makes a value when one that agrees with it does. -/
theorem Agree.exists_of_ok
    {first : Outcome α}
    {second : Outcome β}
    {value : β}
    (agree : Agree alike first second)
    (done : second = .ok value) :
    ∃ other, first = .ok other ∧ alike other value := by
  cases agree with
  | failed failure => cases done
  | made same =>
      cases done
      exact ⟨_, rfl, same⟩

/-- Two runs agree when each step keeps states alike or fails in both. -/
theorem Agree.foldlM
    {paired : γ → δ → Prop}
    {step : α → γ → Outcome α}
    {otherStep : β → δ → Outcome β}
    (stepsAgree :
      ∀ state other, alike state other → ∀ item otherItem, paired item otherItem →
        Agree alike (step state item) (otherStep other otherItem))
    {items : List γ}
    {otherItems : List δ}
    (itemsPaired : List.Forall₂ paired items otherItems)
    {state : α}
    {other : β}
    (same : alike state other) :
    Agree alike (items.foldlM step state) (otherItems.foldlM otherStep other) := by
  induction itemsPaired generalizing state other with
  | nil =>
      exact .made same
  | cons pair _ inductionHypothesis =>
      rw [List.foldlM_cons, List.foldlM_cons]
      apply (stepsAgree state other same _ _ pair).bind
      intro next otherNext nextSame
      exact inductionHypothesis nextSame

end Outcome

namespace Reactive

open Refresh

variable
  {computation : Type → Type}
  [Monad computation]
  (cut : Span → computation String)

theorem tracked_outline
    [LawfulMonad computation]
    (first last : Node)
    (dependencies : List Node)
    (callback : Node) :
    tracked cut (outline first) (outline last) (dependencies.map outline) (outline callback) =
      tracked cut first last dependencies callback := by
  have sameSpan : (fun dependency => cut (outline dependency).span) =
      fun dependency => cut dependency.span :=
    funext (fun dependency => by rw [span_outline])
  unfold tracked
  rw [List.mapM_map, span_outline, span_outline, span_outline]
  exact congrArg (fun read => dependencies.mapM read >>= _) sameSpan

variable
  [MonadExcept Failure computation]
  (scope : Scope.Root)

theorem requireWatchable_outline
    (value : Node) :
    requireWatchable cut (outline value) = requireWatchable cut value := by
  have sameForm : isWatchable (outline value).form = isWatchable value.form := by
    rw [form_outline]
    cases value.form <;> rfl
  rw [requireWatchable, requireWatchable, sameForm, span_outline]

theorem target_outline
    (node : Node) :
    target cut scope (outline node) = target cut scope node := by
  unfold target
  rw [form_outline, span_outline]
  cases node.form <;> rfl

theorem ofAssignment_outline
    (operator : AssignmentOperator)
    (left right : Node) :
    ofAssignment cut scope operator (outline left) (outline right) =
      ofAssignment cut scope operator left right := by
  unfold ofAssignment
  rw [target_outline, requireWatchable_outline, span_outline]

variable [LawfulMonad computation]

theorem ofSequence_outline
    (items : List Node) :
    ofSequence cut (items.map outline) = ofSequence cut items := by
  unfold ofSequence
  rw [List.getLast?_map]
  cases items.getLast? with
  | none =>
      rfl
  | some callback =>
      have sameKind : isFunction (outline callback).form = isFunction callback.form := by
        rw [form_outline]
        cases callback.form <;> rfl
      have sameChecks :
          (items.dropLast.map outline).forM (requireWatchable cut) =
            items.dropLast.forM (requireWatchable cut) := by
        rw [List.forM_eq_forM, List.forM_map]
        exact congrArg _ (funext (requireWatchable_outline cut))
      dsimp only [Option.map_some]
      rw [← List.map_dropLast, sameChecks, List.head?_map, List.getLast?_map, sameKind,
        span_outline]
      cases items.dropLast.head? <;> cases items.dropLast.getLast?
      case some.some first last =>
        dsimp only [Option.map_some]
        rw [tracked_outline]
      all_goals rfl

theorem ofExpression_outline
    (value : Node) :
    ofExpression cut scope (outline value) = ofExpression cut scope value := by
  obtain ⟨form, role, span, children⟩ := value
  rw [outline_mk]
  cases form with
  | assignment operator =>
      rcases children with _ | ⟨left, _ | ⟨right, _ | ⟨third, rest⟩⟩⟩
      case cons.cons.nil =>
        exact ofAssignment_outline cut scope operator left right
      all_goals rfl
  | sequence =>
      exact ofSequence_outline cut children
  | _ =>
      rfl

/-- What a reactive statement contributes is in its outline. -/
theorem ofStatement_outline
    (body : Node) :
    ofStatement cut scope (outline body) = ofStatement cut scope body := by
  obtain ⟨form, role, span, children⟩ := body
  rw [outline_mk]
  cases form with
  | expressionStatement =>
      rcases children with _ | ⟨value, _ | ⟨second, rest⟩⟩
      case cons.nil =>
        exact ofExpression_outline cut scope value
      all_goals rfl
  | _ =>
      rfl

end Reactive

namespace Component

open Refresh

/-- The statement of the factory function that a statement of the script stays or becomes. -/
def authored?
    (statement : Node) :
    Option Node :=
  match Kind.ofNode statement with
  | .imported _ => none
  | .exported declaration => some (declaration.withRole .statement)
  | .reactive _ => none
  | .other => some statement

/--
Statements of two factory functions correspond when they are the same, or when the author
wrote them: then they have the same outline, and stand in their scripts at the same place.
-/
inductive Corresponds
    (pairs : List (Node × Node)) :
    Node →
    Node →
    Prop where
  | same (statement : Node) :
      Corresponds pairs statement statement
  | authored
      {before after first second : Node}
      (member : (before, after) ∈ pairs)
      (isFirst : authored? before = some first)
      (isSecond : authored? after = some second)
      (sameOutline : outline first = outline second) :
      Corresponds pairs first second

/-- Two components have the same metadata, and differ in statements of the author only. -/
structure SameMetadata
    (pairs : List (Node × Node))
    (first second : Parts) :
    Prop where
  imports : first.imports = second.imports
  defaultImports : first.defaultImports = second.defaultImports
  props : first.props = second.props
  watchers : first.watchers = second.watchers
  body : List.Forall₂ (Corresponds pairs) first.body second.body

/-- What has been gathered of two components is the same, up to statements of the author. -/
structure SameDraft
    (pairs : List (Node × Node))
    (draft other : Draft) :
    Prop where
  imports : draft.imports = other.imports
  defaultImports : draft.defaultImports = other.defaultImports
  props : draft.props = other.props
  watchers : draft.watchers = other.watchers
  lastProp : draft.lastProp = other.lastProp
  body : List.Forall₂ (Corresponds pairs) draft.body other.body

/-- A statement of a script, and what stands in its place in another script. -/
structure Paired
    (pairs : List (Node × Node))
    (before after : Node) :
    Prop where
  member : (before, after) ∈ pairs
  wellFormed : before.isWellFormed
  sameOutline : outline before = outline after

/-- The name that a declarator binds is in its outline. -/
theorem Draft.declaratorName?_outline
    (declarator : Node) :
    Draft.declaratorName? (outline declarator) = Draft.declaratorName? declarator := by
  obtain ⟨form, role, span, children⟩ := declarator
  rw [outline_mk]
  cases form with
  | declarator =>
      rcases children with _ | ⟨⟨patternForm, patternRole, patternSpan, inner⟩, rest⟩
      · rfl
      · change
          Draft.declaratorName?
              (.mk .declarator role span
                (outline (.mk patternForm patternRole patternSpan inner) ::
                  rest.map outline)) =
            _
        rw [outline_mk]
        cases patternForm <;> rfl
  | _ =>
      rfl

/-- Declarators with the same outlines bind the same names. -/
theorem Draft.declaratorNames_of_outline
    {declarators others : List Node}
    (same : declarators.map outline = others.map outline) :
    declarators.map Draft.declaratorName? = others.map Draft.declaratorName? := by
  have inOutlines (nodes : List Node) :
      (nodes.map outline).map Draft.declaratorName? = nodes.map Draft.declaratorName? := by
    rw [List.map_map]
    exact congrArg (nodes.map ·) (funext Draft.declaratorName?_outline)
  rw [← inOutlines declarators, same, inOutlines]

/-- Exported declarations with the same outline have the same properties, or the same fault. -/
theorem Draft.exportedProps_of_outline
    {declaration other : Node}
    (sameOutline : outline declaration = outline other) :
    Draft.exportedProps declaration = Draft.exportedProps other := by
  unfold Draft.exportedProps
  rcases form_of_outline sameOutline with sameForm | ⟨head, otherHead, isArrow, isOther⟩
  · obtain ⟨form, role, span, children⟩ := declaration
    cases form with
    | declaration keyword =>
        obtain ⟨otherChildren, rfl, sameChildren⟩ := exists_of_outline_mk sameOutline rfl rfl
        have sameNames := congrArg (List.mapM id) (Draft.declaratorNames_of_outline sameChildren)
        rw [List.mapM_map, List.mapM_map, Function.id_comp] at sameNames
        dsimp only [Node.form, Node.children]
        rw [sameNames]
    | _ =>
        rw [← sameForm]
        rfl
  · rw [isArrow, isOther]

variable
  {pairs : List (Node × Node)}
  {source : List Char}
  {scope : Scope.Root}
  {draft other : Draft}

theorem forall₂_corresponds
    (statements : List Node) :
    List.Forall₂ (Corresponds pairs) statements statements :=
  List.forall₂_same.mpr (fun statement _ => .same statement)

/-- Statements that are inserted at a noted place are at corresponding places. -/
theorem forall₂_insertIdx
    {statements others : List Node}
    (correspond : List.Forall₂ (Corresponds pairs) statements others)
    (index : Nat)
    (inserted : Node) :
    List.Forall₂ (Corresponds pairs) (statements.insertIdx index inserted)
      (others.insertIdx index inserted) := by
  induction correspond generalizing index with
  | nil =>
      exact forall₂_corresponds _
  | cons head tail inductionHypothesis =>
      cases index with
      | zero =>
          exact .cons (.same inserted) (.cons head tail)
      | succ index =>
          rw [List.insertIdx_succ_cons, List.insertIdx_succ_cons]
          exact .cons head (inductionHypothesis index)

namespace SameDraft

theorem nil :
    SameDraft pairs {} {} :=
  ⟨rfl, rfl, rfl, rfl, rfl, .nil⟩

theorem push
    (same : SameDraft pairs draft other)
    {statement otherStatement : Node}
    (corresponds : Corresponds pairs statement otherStatement) :
    SameDraft pairs (draft.push statement) (other.push otherStatement) :=
  { same with body := List.rel_append same.body (.cons corresponds .nil) }

theorem noteDefault
    (same : SameDraft pairs draft other)
    (name : String) :
    SameDraft pairs (draft.noteDefault name) (other.noteDefault name) := by
  unfold Draft.noteDefault
  rw [same.defaultImports]
  split
  · exact same
  · exact { same with defaultImports := rfl }

theorem register
    (same : SameDraft pairs draft other)
    (name : String) :
    Outcome.Agree (SameDraft pairs) (draft.register name) (other.register name) := by
  unfold Draft.register
  cases readSnippet (registrationText name) with
  | error failure => exact .failed failure
  | ok registered =>
      have body := (same.push (.same registered)).body
      have props : draft.props ++ [name] = other.props ++ [name] := by
        rw [same.props]
      exact .made { same with body, props, lastProp := congrArg some body.length_eq }

/-- Steps for names, one after the other. -/
theorem foldl
    {step : Draft → String → Draft}
    (keeps :
      ∀ draft other, SameDraft pairs draft other → ∀ name,
        SameDraft pairs (step draft name) (step other name))
    (names : List String)
    (same : SameDraft pairs draft other) :
    SameDraft pairs (names.foldl step draft) (names.foldl step other) := by
  induction names generalizing draft other with
  | nil =>
      exact same
  | cons name rest inductionHypothesis =>
      exact inductionHypothesis (keeps draft other same name)

theorem hoist
    (same : SameDraft pairs draft other)
    (statement : Node)
    (bindings : Option (List ImportBinding)) :
    SameDraft pairs (draft.hoist statement bindings) (other.hoist statement bindings) := by
  have noted :=
    same.foldl (fun _ _ => SameDraft.noteDefault) (Draft.defaultNames (bindings.getD []))
  have imports := congrArg (· ++ [statement]) noted.imports
  exact { noted with imports }

theorem addReactive
    (same : SameDraft pairs draft other)
    (reactive : Reactive) :
    Outcome.Agree (SameDraft pairs) (draft.addReactive reactive) (other.addReactive reactive) := by
  have watchers := congrArg (· ++ [reactive.watcher]) same.watchers
  unfold Draft.addReactive
  cases reactive.declares.toList.mapM (readSnippet ∘ watchedVariableText) with
  | error failure => exact .failed failure
  | ok declarations =>
      have body := List.rel_append same.body (forall₂_corresponds declarations)
      exact .made { same with watchers, body }

/-- Exported declarations register the same properties. -/
theorem addExport
    (same : SameDraft pairs draft other)
    {declaration otherDeclaration : Node}
    (corresponds :
      Corresponds pairs (declaration.withRole .statement)
        (otherDeclaration.withRole .statement))
    (names : List String) :
    Outcome.Agree (SameDraft pairs) (draft.addExport declaration names)
      (other.addExport otherDeclaration names) := by
  have step (draft other : Draft) (same : SameDraft pairs draft other) (name otherName : String)
      (sameName : name = otherName) :
      Outcome.Agree (SameDraft pairs) (draft.register name) (other.register otherName) := by
    rw [← sameName]
    exact same.register name
  exact .foldlM step (List.forall₂_same.mpr (fun _ _ => rfl)) (same.push corresponds)

/-- Labeled statements with the same outline are both reactive, or both added. -/
theorem addLabeled
    (same : SameDraft pairs draft other)
    {label : String}
    {role : Role}
    {span : Span}
    {body otherBody : Node}
    (member :
      (.mk (.labeled label) role span [body], .mk (.labeled label) role span [otherBody]) ∈ pairs)
    (sameBody : outline body = outline otherBody)
    (sameOutline :
      outline (.mk (.labeled label) role span [body]) =
        outline (.mk (.labeled label) role span [otherBody])) :
    Outcome.Agree (SameDraft pairs)
      (draft.add source scope (.mk (.labeled label) role span [body]))
      (other.add source scope (.mk (.labeled label) role span [otherBody])) := by
  dsimp only [Draft.add]
  by_cases isReactive : label == reactiveLabel
  · have sameReactive :
        Reactive.ofBody source scope body = Reactive.ofBody source scope otherBody := by
      rw [Reactive.ofBody, Reactive.ofBody, ← Reactive.ofStatement_outline, sameBody,
        Reactive.ofStatement_outline]
    rw [if_pos isReactive, if_pos isReactive, sameReactive]
    cases Reactive.ofBody source scope otherBody with
    | error failure =>
        exact .failed _
    | ok reactive =>
        exact same.addReactive reactive
  · have isOwn (inner : Node) :
        authored? (.mk (.labeled label) role span [inner]) =
          some (.mk (.labeled label) role span [inner]) := by
      simp [authored?, Kind.ofNode, isReactive]
    rw [if_neg isReactive, if_neg isReactive]
    exact .made (same.push (.authored member (isOwn body) (isOwn otherBody) sameOutline))

/-- A step of the pass keeps drafts alike, or fails on both statements. -/
theorem add
    (same : SameDraft pairs draft other)
    {before after : Node}
    (paired : Paired pairs before after) :
    Outcome.Agree (SameDraft pairs) (draft.add source scope before)
      (other.add source scope after) := by
  obtain ⟨member, wellFormed, sameOutline⟩ := paired
  rcases form_of_outline sameOutline with sameForm | ⟨head, otherHead, isArrow, isOther⟩
  · obtain ⟨form, role, span, children⟩ := before
    cases form with
    | importing bindings text attributes =>
        -- An import has no function in it, so it is unchanged.
        obtain ⟨otherChildren, rfl, sameChildren⟩ := exists_of_outline_mk sameOutline rfl rfl
        have noChild : children = [] :=
          List.isEmpty_iff.mp (Node.isWellFormed_mk.mp wellFormed).1
        obtain rfl : otherChildren = children := by
          rw [noChild] at sameChildren ⊢
          exact List.map_eq_nil_iff.mp sameChildren.symm
        exact .made (same.hoist _ bindings)
    | exportDeclaration =>
        obtain ⟨otherChildren, rfl, sameChildren⟩ := exists_of_outline_mk sameOutline rfl rfl
        rcases cases_of_outlines sameChildren with
          ⟨rfl, rfl⟩ | ⟨child, otherChild, rfl, rfl, sameChild⟩ | ⟨_, _, _, _, _, _, rfl, rfl⟩
        · exact .made (same.push (.authored member rfl rfl sameOutline))
        · have sameStatement :
              outline (child.withRole .statement) = outline (otherChild.withRole .statement) := by
            rw [outline_withRole, outline_withRole, sameChild]
          dsimp only [Draft.add]
          rw [Draft.exportedProps_of_outline sameChild]
          cases Draft.exportedProps otherChild with
          | error failure =>
              exact .failed _
          | ok names =>
              exact same.addExport (.authored member rfl rfl sameStatement) names
        · exact .made (same.push (.authored member rfl rfl sameOutline))
    | exportList entries text attributes =>
        obtain ⟨otherChildren, rfl, _⟩ := exists_of_outline_mk sameOutline rfl rfl
        exact .failed _
    | labeled label =>
        obtain ⟨otherChildren, rfl, sameChildren⟩ := exists_of_outline_mk sameOutline rfl rfl
        rcases cases_of_outlines sameChildren with
          ⟨rfl, rfl⟩ | ⟨body, otherBody, rfl, rfl, sameBody⟩ | ⟨_, _, _, _, _, _, rfl, rfl⟩
        · exact .made (same.push (.authored member rfl rfl sameOutline))
        · exact same.addLabeled member sameBody sameOutline
        · exact .made (same.push (.authored member rfl rfl sameOutline))
    | _ =>
        obtain ⟨otherForm, otherRole, otherSpan, otherChildren⟩ := after
        cases sameForm
        exact .made (same.push (.authored member rfl rfl sameOutline))
  · obtain ⟨form, role, span, children⟩ := before
    obtain ⟨otherForm, otherRole, otherSpan, otherChildren⟩ := after
    cases isArrow
    cases isOther
    exact .made (same.push (.authored member rfl rfl sameOutline))

theorem parts
    (same : SameDraft pairs draft other)
    (scope : Scope.Root) :
    SameMetadata pairs (draft.parts scope) (other.parts scope) := by
  have closed :
      List.Forall₂ (Corresponds pairs) (draft.body ++ [footer]) (other.body ++ [footer]) :=
    List.rel_append same.body (forall₂_corresponds [footer])
  have body :
      List.Forall₂ (Corresponds pairs) (draft.parts scope).body (other.parts scope).body := by
    unfold Draft.parts
    rw [same.lastProp]
    cases other.lastProp with
    | none =>
        exact List.rel_append (forall₂_corresponds _) closed
    | some index =>
        exact List.rel_append (forall₂_corresponds _)
          (forall₂_insertIdx closed index leftoverAttributes)
  exact ⟨same.imports, same.defaultImports, same.props, same.watchers, body⟩

end SameDraft

/-- Scripts whose statements have the same outlines make components with the same metadata. -/
theorem ofStatements_agree
    {statements others : List Node}
    (paired : List.Forall₂ (Paired pairs) statements others) :
    Outcome.Agree (SameMetadata pairs) (Parts.ofStatements source scope statements)
      (Parts.ofStatements source scope others) := by
  rw [ofStatements_eq, ofStatements_eq]
  have drafted :
      Outcome.Agree (SameDraft pairs) (statements.foldlM (Draft.add source scope) {})
        (others.foldlM (Draft.add source scope) {}) :=
    .foldlM (fun _ _ same _ _ => same.add) paired .nil
  exact drafted.map (fun _ _ same => same.parts scope)

/-- A compiled script says of itself what its scope and parts are. -/
structure Describes
    (scope : Scope.Root)
    (parts : Parts)
    (compiled : Compiled) :
    Prop where
  watchers : compiled.watchers = parts.watchers
  imports : compiled.imports = parts.defaultImports
  props : compiled.props = parts.props
  scope : compiled.scope = scope

variable
  {text : String}
  {program : Program}

/-- Each statement of a script that has been read is paired with its image. -/
theorem forall₂_paired_inject
    (skipsDestroy : Bool)
    (read : readProgram text = .ok program) :
    List.Forall₂ (Paired (program.statements.zip (inject skipsDestroy program.statements).1))
      program.statements (inject skipsDestroy program.statements).1 := by
  rw [inject_eq read, ← List.map_prod_left_eq_zip, List.forall₂_map_right_iff,
    List.forall₂_same]
  intro statement member
  have stands := readProgram_stands read statement member
  exact
    { member := List.mem_map_of_mem member
      wellFormed := stands.wellFormed
      sameOutline := (outline_image (.ofStands stands [])).symm }

theorem scan_inject
    (skipsDestroy : Bool)
    (read : readProgram text = .ok program) :
    Scope.Root.scan (inject skipsDestroy program.statements).1 =
      Scope.Root.scan program.statements := by
  have stand := readProgram_stands read
  have sameOutlines :
      program.statements.map outline =
        (inject skipsDestroy program.statements).1.map outline := by
    rw [inject_eq read, List.map_map]
    apply List.map_congr_left
    intro statement member
    exact (outline_image (.ofStands (stand statement member) [])).symm
  exact (scan_of_outline sameOutlines (fun statement member =>
    (stand statement member).wellFormed)).symm

/-- What a compiled script says of itself, it says of the parts before the injection. -/
theorem describes_of_compile
    {input : Input}
    {compiled : Compiled}
    (read : readProgram (markCheckStops input.code) = .ok program)
    (done : compile input = .ok compiled) :
    ∃ parts,
      Parts.ofStatements (markCheckStops input.code).toList
          (Scope.Root.scan program.statements) program.statements = .ok parts ∧
        Describes (Scope.Root.scan program.statements) parts compiled := by
  unfold compile at done
  obtain ⟨_, readAgain, done⟩ := Outcome.bind_eq_ok.mp done
  obtain rfl := Except.ok.inj (read.symm.trans readAgain)
  obtain ⟨parts, made, done⟩ := Outcome.bind_eq_ok.mp done
  obtain ⟨module, _, done⟩ := Outcome.bind_eq_ok.mp done
  cases done
  have paired := forall₂_paired_inject (Scope.Root.scan program.statements).needsDestroyHook read
  obtain ⟨ownParts, ownMade, same⟩ := (ofStatements_agree paired).exists_of_ok made
  exact ⟨ownParts, ownMade, same.watchers.symm, same.defaultImports.symm, same.props.symm, rfl⟩

/--
The injection does not change what is said of a script: neither its scope, nor how the
making of its component fails, nor imports, properties and watchers of the component.
-/
theorem inject_keepsMetadata
    (skipsDestroy : Bool)
    (read : readProgram text = .ok program) :
    Scope.Root.scan (inject skipsDestroy program.statements).1 =
        Scope.Root.scan program.statements ∧
      (∀ scope,
        Outcome.Agree
          (SameMetadata (program.statements.zip (inject skipsDestroy program.statements).1))
          (Parts.ofStatements text.toList scope program.statements)
          (Parts.ofStatements text.toList scope (inject skipsDestroy program.statements).1)) ∧
      ∀ input compiled,
        markCheckStops input.code = text → compile input = .ok compiled →
          ∃ parts,
            Parts.ofStatements text.toList (Scope.Root.scan program.statements)
                program.statements = .ok parts ∧
              Describes (Scope.Root.scan program.statements) parts compiled := by
  have paired := forall₂_paired_inject skipsDestroy read
  refine ⟨scan_inject skipsDestroy read, fun scope => ofStatements_agree paired, ?_⟩
  rintro input compiled rfl done
  exact describes_of_compile read done

/-- Both arrow functions of this script get a refresh, and its watcher holds neither. -/
theorem inject_keepsMetadata_callback :
    ∃ program parts compiled,
      readProgram "export let f=()=>1;$:f,()=>2" = .ok program ∧
        (inject true program.statements).2 = 2 ∧
          Parts.ofStatements "export let f=()=>1;$:f,()=>2".toList
              (Scope.Root.scan program.statements) program.statements = .ok parts ∧
            compile { code := "export let f=()=>1;$:f,()=>2" } = .ok compiled ∧
              Describes (Scope.Root.scan program.statements) parts compiled ∧
                compiled.watchers = [.tracked ["f"] "f" "()=>2"] := by
  have unmarked :
      markCheckStops "export let f=()=>1;$:f,()=>2" = "export let f=()=>1;$:f,()=>2" := by
    decide +kernel
  have checked :
      (readProgram "export let f=()=>1;$:f,()=>2").toOption.any (fun program =>
        (inject true program.statements).2 == 2) := by
    decide +kernel
  have compiles :
      (compile { code := "export let f=()=>1;$:f,()=>2" }).toOption.any (fun compiled =>
        compiled.watchers == [.tracked ["f"] "f" "()=>2"]) := by
    decide +kernel
  obtain ⟨program, read, added⟩ := Outcome.exists_of_any checked
  obtain ⟨compiled, done, watched⟩ := Outcome.exists_of_any compiles
  obtain ⟨_, _, described⟩ := inject_keepsMetadata true read
  obtain ⟨parts, made, describes⟩ :=
    described { code := "export let f=()=>1;$:f,()=>2" } compiled unmarked done
  exact ⟨program, parts, compiled, read, beq_iff_eq.mp added, made, done, describes,
    beq_iff_eq.mp watched⟩

end Component

end Reactivity
