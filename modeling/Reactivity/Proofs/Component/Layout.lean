import Mathlib.Data.List.Basic
import Reactivity.Component.Parts
import Reactivity.Proofs.Component.Scaffold
import Reactivity.Proofs.Script.Reading
import Reactivity.Proofs.Watcher.Reactive

namespace Reactivity.Component

open Script

/-!
# Layout of a component

What each statement of a script contributes to its component, said of the statement
alone. The pass that gathers the parts of a component step by step, with a place noted
on the way and filled in at the end, lays out these contributions in source order.

A contribution that has a name in it is read from a snippet. In a script that was read, every
such name is an identifier, and the snippet is read as what it looks like.
-/

/-- What a statement of the top level of a script is to its component. -/
inductive Kind where
  | imported (bindings : Option (List ImportBinding))
  | exported (declaration : Node)
  | reactive (body : Node)
  | other

/-- The kind of a statement. -/
def Kind.ofNode :
    Node →
    Kind
  | .mk (.importing bindings _ _) _ _ _ => .imported bindings
  | .mk .exportDeclaration _ _ [declaration] => .exported declaration
  | .mk (.labeled label) _ _ [body] => if label == reactiveLabel then .reactive body else .other
  | _ => .other

/-- The statement is an import. -/
def isImport
    (statement : Node) :
    Bool :=
  match Kind.ofNode statement with
  | .imported _ => true
  | _ => false

/-- The names of the default imports of a statement. -/
def defaultLocals
    (statement : Node) :
    List String :=
  match Kind.ofNode statement with
  | .imported bindings => Draft.defaultNames (bindings.getD [])
  | _ => []

/-- The names of the properties that a statement declares. -/
def propNames
    (statement : Node) :
    List String :=
  match Kind.ofNode statement with
  | .exported declaration => declaration.children.filterMap Draft.declaratorName?
  | _ => []

/-- What a reactive statement holds. -/
def reactiveBody?
    (statement : Node) :
    Option Node :=
  match Kind.ofNode statement with
  | .reactive body => some body
  | _ => none

/-- The variable that a reactive statement assigns and the script does not declare. -/
def assignedVariable?
    (scope : Scope.Root) :
    Node →
    Option String
  | .mk .expressionStatement _ _
      [.mk (.assignment _) _ _ [.mk (.identifier name) _ _ _, _]] =>
      if scope.variableSet.contains name then none else some name
  | _ => none

/-- The names of the variables that are declared for a reactive statement. -/
def watchedNames
    (scope : Scope.Root)
    (statement : Node) :
    List String :=
  ((reactiveBody? statement).bind (assignedVariable? scope)).toList

/-- The statements that the snippets with a name are read as. -/
structure Snippets where
  register : String → Node
  declare : String → Node

namespace Snippets

/-- The statements that the snippets look like. -/
def plain : Snippets where
  register := registration
  declare := watchedVariable

/-- The statements that the snippets are read as, where they are read. -/
def read : Snippets where
  register name := (readSnippet (registrationText name)).toOption.getD (registration name)
  declare name := (readSnippet (watchedVariableText name)).toOption.getD (watchedVariable name)

theorem read_register
    {name : String}
    {statement : Node}
    (isRead : readSnippet (registrationText name) = .ok statement) :
    read.register name = statement := by
  simp only [read, isRead]
  rfl

theorem read_declare
    {name : String}
    {statement : Node}
    (isRead : readSnippet (watchedVariableText name) = .ok statement) :
    read.declare name = statement := by
  simp only [read, isRead]
  rfl

end Snippets

/-- The statements that a statement contributes to the factory function. -/
def share
    (snippets : Snippets)
    (scope : Scope.Root)
    (statement : Node) :
    List Node :=
  match Kind.ofNode statement with
  | .imported _ => []
  | .exported declaration =>
      declaration.withRole .statement :: (propNames statement).map snippets.register
  | .reactive body => (assignedVariable? scope body).toList.map snippets.declare
  | .other => [statement]

/-- The statements between header and footer of a factory function. -/
inductive Arranged
    (snippets : Snippets)
    (scope : Scope.Root) :
    List Node →
    List Node →
    Prop where
  /-- Without properties, there is what the statements contribute. -/
  | propless
      {statements : List Node}
      (noProp : ∀ statement ∈ statements, propNames statement = []) :
      Arranged snippets scope statements (statements.flatMap (share snippets scope))
  /-- The last statement that declares a property ends with its registration. -/
  | registered
      {earlier later : List Node}
      {last : Node}
      (hasProp : propNames last ≠ [])
      (noneLater : ∀ statement ∈ later, propNames statement = []) :
      Arranged snippets scope (earlier ++ last :: later)
        ((earlier ++ [last]).flatMap (share snippets scope) ++
          leftoverAttributes :: later.flatMap (share snippets scope))

/-- The parts of a component are laid out as the statements of its script say. -/
structure Layout
    (snippets : Snippets)
    (source : List Char)
    (scope : Scope.Root)
    (statements : List Node)
    (parts : Parts) :
    Prop where
  imports : parts.imports = statements.filter isImport
  defaultImports : parts.defaultImports = (statements.flatMap defaultLocals).eraseDups
  props : parts.props = statements.flatMap propNames
  watchers :
    ∃ reactives,
      (statements.filterMap reactiveBody?).mapM (Reactive.ofBody source scope) = .ok reactives ∧
        parts.watchers = reactives.map Reactive.watcher
  registered :
    ∀ name ∈ parts.props, readSnippet (registrationText name) = .ok (snippets.register name)
  declared :
    ∀ name ∈ statements.flatMap (watchedNames scope),
      readSnippet (watchedVariableText name) = .ok (snippets.declare name)
  body :
    ∃ middle,
      Arranged snippets scope statements middle ∧
        parts.body =
          commonHeader ++ (if parts.props.isEmpty then proplessHeader else []) ++
            (if scope.needsEmitter then [emitterDeclaration] else []) ++
            (if scope.needsDestroyHook then [destroyHookDeclaration] else []) ++
            middle ++ [footer]

/-- What one step of the pass adds to a draft. -/
structure Adds
    (source : List Char)
    (scope : Scope.Root)
    (statement : Node)
    (before after : Draft) :
    Prop where
  imports : after.imports = before.imports ++ [statement].filter isImport
  defaultImports :
    ∀ noted,
      before.defaultImports = noted.eraseDups →
        after.defaultImports = (noted ++ defaultLocals statement).eraseDups
  props : after.props = before.props ++ propNames statement
  watchers :
    ∃ reactives,
      (reactiveBody? statement).toList.mapM (Reactive.ofBody source scope) = .ok reactives ∧
        after.watchers = before.watchers ++ reactives.map Reactive.watcher
  registered :
    ∀ name ∈ propNames statement,
      readSnippet (registrationText name) = .ok (Snippets.read.register name)
  declared :
    ∀ name ∈ watchedNames scope statement,
      readSnippet (watchedVariableText name) = .ok (Snippets.read.declare name)
  body : after.body = before.body ++ share .read scope statement
  lastProp :
    after.lastProp =
      if propNames statement = [] then before.lastProp else some after.body.length

variable
  {source : List Char}
  {scope : Scope.Root}
  {statement : Node}
  {draft after : Draft}

/-- What a step of the pass does, by the kind of the statement. -/
theorem Draft.add_cases
    (added : draft.add source scope statement = .ok after) :
    match Kind.ofNode statement with
    | .imported bindings => after = draft.hoist statement bindings
    | .exported declaration =>
        ∃ names,
          Draft.exportedProps declaration = .ok names ∧
            draft.addExport declaration names = .ok after
    | .reactive body =>
        ∃ reactive,
          Reactive.ofBody source scope body = .ok reactive ∧
            draft.addReactive reactive = .ok after
    | .other => after = draft.push statement := by
  unfold Draft.add at added
  split at added
  · cases added
    rfl
  · obtain ⟨names, exported, added⟩ := Outcome.bind_eq_ok.mp added
    exact ⟨names, Outcome.withContext_eq_ok.mp exported, added⟩
  · cases added
  · next label role span body =>
      by_cases isReactive : label == reactiveLabel
      · rw [if_pos isReactive] at added
        have kind : Kind.ofNode (.mk (.labeled label) role span [body]) = .reactive body :=
          if_pos isReactive
        rw [kind]
        obtain ⟨reactive, built, added⟩ := Outcome.bind_eq_ok.mp added
        exact ⟨reactive, Outcome.withContext_eq_ok.mp built, added⟩
      · rw [if_neg isReactive] at added
        cases added
        simp [Kind.ofNode, isReactive]
  · next noImport noExport noList noLabel =>
      cases added
      have kind : Kind.ofNode statement = .other := by
        unfold Kind.ofNode
        split
        · exact (noImport _ _ _ _ _ _ rfl).elim
        · exact (noExport _ _ _ rfl).elim
        · exact (noLabel _ _ _ _ rfl).elim
        · rfl
      rw [kind]

/-- Noting names keeps the first of equal ones, and changes nothing else. -/
theorem Draft.foldl_noteDefault
    (names : List String)
    (draft : Draft) :
    ∃ all,
      names.foldl Draft.noteDefault draft = { draft with defaultImports := all } ∧
        ∀ noted,
          draft.defaultImports = noted.eraseDups → all = (noted ++ names).eraseDups := by
  induction names generalizing draft with
  | nil =>
      exact ⟨draft.defaultImports, rfl, by simp⟩
  | cons name rest inductionHypothesis =>
      obtain ⟨all, folded, distinct⟩ := inductionHypothesis (draft.noteDefault name)
      refine ⟨all, ?_, ?_⟩
      · rw [List.foldl_cons, folded]
        unfold Draft.noteDefault
        split <;> rfl
      · intro noted known
        have noteOne : (draft.noteDefault name).defaultImports = (noted ++ [name]).eraseDups := by
          by_cases seen : name ∈ noted <;>
            simp [Draft.noteDefault, List.eraseDups_append, List.eraseDups_cons, List.removeAll,
              known, seen]
        simpa using distinct (noted ++ [name]) noteOne

/-- A step that moves an import. -/
theorem Draft.hoist_adds
    {bindings : Option (List ImportBinding)}
    (kind : Kind.ofNode statement = .imported bindings) :
    Adds source scope statement draft (draft.hoist statement bindings) := by
  obtain ⟨all, folded, distinct⟩ :=
    Draft.foldl_noteDefault (Draft.defaultNames (bindings.getD [])) draft
  have hoisted :
      draft.hoist statement bindings =
        { draft with
          defaultImports := all
          imports := draft.imports ++ [statement] } := by
    simp only [Draft.hoist, folded]
  have noProp : propNames statement = [] := by
    simp [propNames, kind]
  rw [hoisted]
  exact
    { imports := by simp [isImport, kind]
      defaultImports := by simpa only [defaultLocals, kind] using distinct
      props := by simp [noProp]
      watchers := ⟨[], by simp [reactiveBody?, kind]; rfl, by simp⟩
      registered := by simp [noProp]
      declared := by simp [watchedNames, reactiveBody?, kind]
      body := by simp [share, kind]
      lastProp := by simp [noProp] }

/-- Registering properties extends the body, and notes its length. -/
theorem Draft.foldlM_register
    {names : List String}
    (registered : names.foldlM Draft.register draft = .ok after) :
    (∀ name ∈ names, readSnippet (registrationText name) = .ok (Snippets.read.register name)) ∧
      after =
        { draft with
          props := draft.props ++ names
          body := draft.body ++ names.map Snippets.read.register
          lastProp :=
            if names = [] then
              draft.lastProp
            else
              some (draft.body ++ names.map Snippets.read.register).length } := by
  induction names generalizing draft with
  | nil =>
      cases registered
      simp
  | cons name rest inductionHypothesis =>
      rw [List.foldlM_cons] at registered
      obtain ⟨next, nextMade, registered⟩ := Outcome.bind_eq_ok.mp registered
      obtain ⟨statement, isRead, nextMade⟩ := Outcome.bind_eq_ok.mp nextMade
      cases nextMade
      obtain ⟨restRead, rfl⟩ := inductionHypothesis registered
      obtain rfl := Snippets.read_register isRead
      refine ⟨List.forall_mem_cons.mpr ⟨isRead, restRead⟩, ?_⟩
      cases rest <;> simp

/-- When all declarators bind names, these are the names that are bound. -/
theorem filterMap_of_mapM
    {α β : Type}
    {get? : α → Option β}
    {items : List α}
    {values : List β}
    (mapped : items.mapM get? = some values) :
    items.filterMap get? = values := by
  induction items generalizing values with
  | nil =>
      cases mapped
      rfl
  | cons item rest inductionHypothesis =>
      simp only [List.mapM_cons, Option.bind_eq_bind, Option.bind_eq_some_iff] at mapped
      obtain ⟨value, found, others, restMapped, same⟩ := mapped
      cases same
      rw [List.filterMap_cons_some found, inductionHypothesis restMapped]

/-- The properties of an export are the names that are bound. -/
theorem propNames_of_exportedProps
    {declaration : Node}
    {names : List String}
    (kind : Kind.ofNode statement = .exported declaration)
    (exported : Draft.exportedProps declaration = .ok names) :
    propNames statement = names := by
  unfold Draft.exportedProps at exported
  split at exported
  · split at exported
    · next named =>
        cases exported
        rw [propNames, kind]
        exact filterMap_of_mapM named
    · cases exported
  · cases exported

/-- A step that registers properties. -/
theorem Draft.addExport_adds
    {declaration : Node}
    {names : List String}
    (kind : Kind.ofNode statement = .exported declaration)
    (exported : Draft.exportedProps declaration = .ok names)
    (added : draft.addExport declaration names = .ok after) :
    Adds source scope statement draft after := by
  have sameNames := propNames_of_exportedProps kind exported
  obtain ⟨areRead, rfl⟩ := Draft.foldlM_register added
  exact
    { imports := by simp [isImport, kind, Draft.push]
      defaultImports := by simp [defaultLocals, kind, Draft.push]
      props := by simp [sameNames, Draft.push]
      watchers := ⟨[], by simp [reactiveBody?, kind]; rfl, by simp [Draft.push]⟩
      registered := by rwa [sameNames]
      declared := by simp [watchedNames, reactiveBody?, kind]
      body := by simp [share, kind, sameNames, Draft.push]
      lastProp := by simp [sameNames, Draft.push] }

/-- The variable that a reactive statement needs is the one that it assigns. -/
theorem ofBody_declares
    {body : Node}
    {reactive : Reactive}
    (built : Reactive.ofBody source scope body = .ok reactive) :
    reactive.declares = assignedVariable? scope body := by
  cases Reactive.accepted_of_ofBody built with
  | toVariable => rfl
  | @toMember _ _ _ _ left _ isMember =>
      obtain ⟨form, role, span, children⟩ := left
      cases form with
      | identifier => cases isMember
      | _ => rfl
  | sequence => rfl

/-- Declarations are what their snippets are read as. -/
theorem mapM_watchedVariableText
    {names : List String}
    {declarations : List Node}
    (areRead : names.mapM (readSnippet ∘ watchedVariableText) = .ok declarations) :
    (∀ name ∈ names, readSnippet (watchedVariableText name) = .ok (Snippets.read.declare name)) ∧
      declarations = names.map Snippets.read.declare := by
  induction names generalizing declarations with
  | nil =>
      cases areRead
      simp
  | cons name rest inductionHypothesis =>
      rw [List.mapM_cons] at areRead
      obtain ⟨statement, isRead, areRead⟩ := Outcome.bind_eq_ok.mp areRead
      obtain ⟨others, othersRead, made⟩ := Outcome.bind_eq_ok.mp areRead
      cases made
      obtain ⟨restRead, rfl⟩ := inductionHypothesis othersRead
      obtain rfl := Snippets.read_declare isRead
      exact ⟨List.forall_mem_cons.mpr ⟨isRead, restRead⟩, rfl⟩

/-- A step that adds a watcher. -/
theorem Draft.addReactive_adds
    {body : Node}
    {reactive : Reactive}
    (kind : Kind.ofNode statement = .reactive body)
    (built : Reactive.ofBody source scope body = .ok reactive)
    (added : draft.addReactive reactive = .ok after) :
    Adds source scope statement draft after := by
  have names : watchedNames scope statement = reactive.declares.toList := by
    rw [watchedNames, reactiveBody?, kind, ofBody_declares built]
    rfl
  have shared : share .read scope statement =
      (watchedNames scope statement).map Snippets.read.declare := by
    rw [names, ofBody_declares built, share, kind]
  have noProp : propNames statement = [] := by
    simp [propNames, kind]
  obtain ⟨declarations, areRead, made⟩ := Outcome.bind_eq_ok.mp added
  cases made
  rw [← names] at areRead
  obtain ⟨declared, rfl⟩ := mapM_watchedVariableText areRead
  exact
    { imports := by simp [isImport, kind]
      defaultImports := by simp [defaultLocals, kind]
      props := by simp [noProp]
      watchers := ⟨[reactive], by simp [reactiveBody?, kind, built], by simp⟩
      registered := by simp [noProp]
      declared
      body := by rw [shared]
      lastProp := by simp [noProp] }

/-- A step that adds the statement itself. -/
theorem Draft.push_adds
    (kind : Kind.ofNode statement = .other) :
    Adds source scope statement draft (draft.push statement) :=
  { imports := by simp [isImport, kind, Draft.push]
    defaultImports := by simp [defaultLocals, kind, Draft.push]
    props := by simp [propNames, kind, Draft.push]
    watchers := ⟨[], by simp [reactiveBody?, kind]; rfl, by simp [Draft.push]⟩
    registered := by simp [propNames, kind]
    declared := by simp [watchedNames, reactiveBody?, kind]
    body := by simp [share, kind, Draft.push]
    lastProp := by simp [propNames, kind, Draft.push] }

/-- A step of the pass adds what its statement contributes. -/
theorem Draft.add_adds
    (added : draft.add source scope statement = .ok after) :
    Adds source scope statement draft after := by
  have cases := Draft.add_cases added
  split at cases
  · next bindings kind =>
      rw [cases]
      exact Draft.hoist_adds kind
  · next declaration kind =>
      obtain ⟨names, exported, added⟩ := cases
      exact Draft.addExport_adds kind exported added
  · next body kind =>
      obtain ⟨reactive, built, added⟩ := cases
      exact Draft.addReactive_adds kind built added
  · next kind =>
      rw [cases]
      exact Draft.push_adds kind

/-- The draft after a pass over some statements. -/
structure Drafted
    (source : List Char)
    (scope : Scope.Root)
    (statements : List Node)
    (draft : Draft) :
    Prop where
  imports : draft.imports = statements.filter isImport
  defaultImports : draft.defaultImports = (statements.flatMap defaultLocals).eraseDups
  props : draft.props = statements.flatMap propNames
  watchers :
    ∃ reactives,
      (statements.filterMap reactiveBody?).mapM (Reactive.ofBody source scope) = .ok reactives ∧
        draft.watchers = reactives.map Reactive.watcher
  registered :
    ∀ name ∈ statements.flatMap propNames,
      readSnippet (registrationText name) = .ok (Snippets.read.register name)
  declared :
    ∀ name ∈ statements.flatMap (watchedNames scope),
      readSnippet (watchedVariableText name) = .ok (Snippets.read.declare name)
  body : draft.body = statements.flatMap (share .read scope)
  lastProp :
    (∀ statement ∈ statements, propNames statement = []) ∧ draft.lastProp = none ∨
      ∃ earlier last later,
        statements = earlier ++ last :: later ∧ propNames last ≠ [] ∧
          (∀ statement ∈ later, propNames statement = []) ∧
            draft.lastProp = some ((earlier ++ [last]).flatMap (share .read scope)).length

/-- Each step of the pass extends what has been gathered by one statement. -/
theorem Drafted.add
    {statements : List Node}
    (drafted : Drafted source scope statements draft)
    (adds : Adds source scope statement draft after) :
    Drafted source scope (statements ++ [statement]) after where
  imports := by
    rw [adds.imports, drafted.imports, List.filter_append]
  defaultImports := by
    rw [adds.defaultImports _ drafted.defaultImports]
    simp
  props := by
    rw [adds.props, drafted.props]
    simp
  watchers := by
    obtain ⟨earlier, earlierBuilt, earlierSame⟩ := drafted.watchers
    obtain ⟨added, addedBuilt, addedSame⟩ := adds.watchers
    refine ⟨earlier ++ added, ?_, ?_⟩
    · have split :
          (statements ++ [statement]).filterMap reactiveBody? =
            statements.filterMap reactiveBody? ++ (reactiveBody? statement).toList := by
        cases found : reactiveBody? statement <;> simp [found]
      rw [split, List.mapM_append, earlierBuilt, addedBuilt]
      rfl
    · rw [addedSame, earlierSame, List.map_append]
  registered := by
    rw [List.flatMap_append, List.forall_mem_append]
    exact ⟨drafted.registered, by simpa using adds.registered⟩
  declared := by
    rw [List.flatMap_append, List.forall_mem_append]
    exact ⟨drafted.declared, by simpa using adds.declared⟩
  body := by
    rw [adds.body, drafted.body]
    simp
  lastProp := by
    by_cases noProp : propNames statement = []
    · -- The place that was noted stays where it was.
      rw [adds.lastProp, if_pos noProp]
      rcases drafted.lastProp with
        ⟨noneEarlier, noPlace⟩ | ⟨earlier, last, later, rfl, hasProp, noneLater, place⟩
      · exact .inl ⟨by simpa [noProp, or_imp, forall_and] using noneEarlier, noPlace⟩
      · refine .inr ⟨earlier, last, later ++ [statement], by simp, hasProp, ?_, place⟩
        simpa [noProp, or_imp, forall_and] using noneLater
    · refine .inr ⟨statements, statement, [], rfl, noProp, by simp, ?_⟩
      rw [adds.lastProp, if_neg noProp, adds.body, drafted.body]
      simp

/-- A pass over statements extends what has been gathered by all of them. -/
theorem Drafted.foldlM
    {earlier statements : List Node}
    (drafted : Drafted source scope earlier draft)
    (passed : statements.foldlM (Draft.add source scope) draft = .ok after) :
    Drafted source scope (earlier ++ statements) after := by
  induction statements generalizing earlier draft with
  | nil =>
      cases passed
      simpa using drafted
  | cons statement rest inductionHypothesis =>
      -- One step makes the statement part of what has been passed.
      rw [List.foldlM_cons] at passed
      obtain ⟨next, added, restPassed⟩ := Outcome.bind_eq_ok.mp passed
      simpa using inductionHypothesis (drafted.add (Draft.add_adds added)) restPassed

/-- Before the pass nothing has been gathered. -/
theorem Drafted.nil :
    Drafted source scope [] {} where
  imports := rfl
  defaultImports := rfl
  props := rfl
  watchers := ⟨[], rfl, rfl⟩
  registered := by simp
  declared := by simp
  body := rfl
  lastProp := .inl ⟨by simp, rfl⟩

/-- A statement that is inserted at a noted length stands right behind what was there. -/
theorem insertIdx_length_append
    (first second : List Node)
    (inserted : Node) :
    (first ++ second).insertIdx first.length inserted = first ++ inserted :: second := by
  induction first with
  | nil =>
      rfl
  | cons node rest inductionHypothesis =>
      simp [inductionHypothesis]

/-- The parts that a draft stands for. -/
def Draft.parts
    (scope : Scope.Root)
    (draft : Draft) :
    Parts where
  imports := draft.imports
  defaultImports := draft.defaultImports
  props := draft.props
  watchers := draft.watchers
  body :=
    header scope draft.lastProp.isSome ++
      draft.lastProp.elim (draft.body ++ [footer]) (fun index =>
        (draft.body ++ [footer]).insertIdx index leftoverAttributes)

/-- The snippets without a name are always read. -/
theorem Draft.finish_eq
    (scope : Scope.Root)
    (draft : Draft) :
    draft.finish scope = .ok (draft.parts scope) := by
  unfold Draft.finish
  rw [readSnippet_footer, mapM_readSnippet_header]
  unfold Draft.parts
  cases draft.lastProp with
  | none => rfl
  | some index =>
      rw [readSnippet_leftoverAttributes]
      rfl

/-- The parts that are made of a draft are laid out as the statements say. -/
theorem Drafted.parts
    {statements : List Node}
    (drafted : Drafted source scope statements draft) :
    Layout .read source scope statements (draft.parts scope) where
  imports := drafted.imports
  defaultImports := drafted.defaultImports
  props := drafted.props
  watchers := drafted.watchers
  registered := by simpa only [Draft.parts, drafted.props] using drafted.registered
  declared := drafted.declared
  body := by
    rcases drafted.lastProp with
      ⟨noProp, noPlace⟩ | ⟨earlier, last, later, rfl, hasProp, noneLater, place⟩
    · refine ⟨_, .propless noProp, ?_⟩
      have noProps : draft.props = [] := by
        rw [drafted.props]
        exact List.flatMap_eq_nil_iff.mpr noProp
      simp [Draft.parts, noPlace, noProps, header, drafted.body]
    · refine ⟨_, .registered hasProp noneLater, ?_⟩
      have someProps : draft.props ≠ [] := by
        rw [drafted.props]
        simp [hasProp]
      have body :
          draft.body ++ [footer] =
            (earlier ++ [last]).flatMap (share .read scope) ++
              (later.flatMap (share .read scope) ++ [footer]) := by
        simp [drafted.body]
      simp only [Draft.parts, place, body, Option.elim_some, insertIdx_length_append]
      simp [header, someProps]

/-- A component is made of what the pass gathers. -/
theorem ofStatements_eq
    (source : List Char)
    (scope : Scope.Root)
    (statements : List Node) :
    Parts.ofStatements source scope statements =
      (statements.foldlM (Draft.add source scope) {}).map (Draft.parts scope) := by
  unfold Parts.ofStatements
  cases statements.foldlM (Draft.add source scope) {} with
  | error failure => rfl
  | ok draft =>
      simp only [bind, Except.bind, Except.map]
      rw [Draft.finish_eq]

section Made

variable
  {statements : List Node}
  {parts : Parts}

/-- Whatever the names are, the parts are laid out with what the snippets are read as. -/
theorem layout_of_made
    (made : Parts.ofStatements source scope statements = .ok parts) :
    Layout .read source scope statements parts := by
  rw [ofStatements_eq] at made
  obtain ⟨draft, passed, rfl⟩ := Outcome.map_eq_ok.mp made
  exact (Drafted.nil.foldlM passed).parts

/-- The names in a statement that snippets are made with are identifiers. -/
structure NamesFit
    (scope : Scope.Root)
    (statement : Node) :
    Prop where
  props : ∀ name ∈ propNames statement, isIdentifier name
  watched : ∀ name ∈ watchedNames scope statement, isIdentifier name

/-- The name that a well-formed declarator binds is an identifier. -/
theorem isIdentifier_of_declaratorName?
    {declarator : Node}
    {name : String}
    (fits : declarator.isWellFormed)
    (named : Draft.declaratorName? declarator = some name) :
    isIdentifier name := by
  unfold Draft.declaratorName? at named
  split at named
  · cases named
    have below := (Node.isWellFormed_mk.mp fits).2
    exact Node.isIdentifier_of_isWellFormed (below _ List.mem_cons_self)
  · cases named

/-- The name that a well-formed reactive statement assigns is an identifier. -/
theorem isIdentifier_of_assignedVariable?
    {body : Node}
    {name : String}
    (fits : body.isWellFormed)
    (assigned : assignedVariable? scope body = some name) :
    isIdentifier name := by
  unfold assignedVariable? at assigned
  split at assigned
  · split at assigned
    · cases assigned
    · cases assigned
      have assignmentFits := (Node.isWellFormed_mk.mp fits).2 _ List.mem_cons_self
      have below := (Node.isWellFormed_mk.mp assignmentFits).2
      exact Node.isIdentifier_of_isWellFormed (below _ List.mem_cons_self)
  · cases assigned

/-- What a well-formed statement exports or watches is well formed. -/
theorem Kind.isWellFormed_of_ofNode
    (fits : statement.isWellFormed)
    {inner : Node}
    (kind :
      Kind.ofNode statement = .exported inner ∨ Kind.ofNode statement = .reactive inner) :
    inner.isWellFormed := by
  unfold Kind.ofNode at kind
  split at kind
  · simp at kind
  · have below := (Node.isWellFormed_mk.mp fits).2
    simp only [Kind.exported.injEq, reduceCtorEq, or_false] at kind
    exact kind ▸ below _ List.mem_cons_self
  · have below := (Node.isWellFormed_mk.mp fits).2
    split at kind
    · simp only [Kind.reactive.injEq, reduceCtorEq, false_or] at kind
      exact kind ▸ below _ List.mem_cons_self
    · simp at kind
  · simp at kind

/-- In a well-formed statement, names are identifiers. -/
theorem namesFit_of_isWellFormed
    (scope : Scope.Root)
    (fits : statement.isWellFormed) :
    NamesFit scope statement where
  props := by
    intro name member
    unfold propNames at member
    split at member
    · next declaration kind =>
        obtain ⟨declarator, isDeclarator, named⟩ := List.mem_filterMap.mp member
        obtain ⟨form, role, span, children⟩ := declaration
        have below := (Node.isWellFormed_mk.mp
          (Kind.isWellFormed_of_ofNode fits (.inl kind))).2
        exact isIdentifier_of_declaratorName? (below declarator isDeclarator) named
    · cases member
  watched := by
    intro name member
    unfold watchedNames reactiveBody? at member
    split at member
    · next body kind =>
        exact isIdentifier_of_assignedVariable? (Kind.isWellFormed_of_ofNode fits (.inr kind))
          (Option.mem_toList.mp member)
    · cases member

theorem Snippets.read_eq_plain
    {name : String}
    (isNamed : isIdentifier name) :
    read.register name = plain.register name ∧ read.declare name = plain.declare name :=
  ⟨read_register (readSnippet_registration isNamed),
    read_declare (readSnippet_watchedVariable isNamed)⟩

/-- Snippets that are made with identifiers are read as what they look like. -/
theorem NamesFit.share_eq
    (fits : NamesFit scope statement) :
    share .read scope statement = share .plain scope statement := by
  have registered := List.map_congr_left (fun name member =>
    (Snippets.read_eq_plain (fits.props name member)).1)
  have declared := List.map_congr_left (fun name member =>
    (Snippets.read_eq_plain (fits.watched name member)).2)
  unfold share
  cases kind : Kind.ofNode statement with
  | imported bindings => rfl
  | exported declaration =>
      dsimp only
      rw [registered]
  | reactive body =>
      rw [watchedNames, reactiveBody?, kind] at declared
      exact declared
  | other => rfl

/-- The statements are arranged alike, if they contribute the same. -/
theorem Arranged.congr
    {snippets others : Snippets}
    {middle : List Node}
    (arranged : Arranged snippets scope statements middle)
    (same :
      ∀ statement ∈ statements, share snippets scope statement = share others scope statement) :
    Arranged others scope statements middle := by
  have flatMap_eq {nodes : List Node} (isPart : nodes ⊆ statements) :
      nodes.flatMap (share snippets scope) = nodes.flatMap (share others scope) := by
    rw [List.flatMap_def, List.flatMap_def]
    exact congrArg _ (List.map_congr_left (fun node member => same node (isPart member)))
  cases arranged with
  | propless noProp =>
      rw [flatMap_eq (List.Subset.refl _)]
      exact .propless noProp
  | @registered earlier later last hasProp noneLater =>
      rw [@flatMap_eq (earlier ++ [last]) (by simp), @flatMap_eq later (by simp)]
      exact .registered hasProp noneLater

/-- Names that are identifiers make snippets that are read as what they look like. -/
theorem plainLayout_of_made
    (fit : ∀ statement ∈ statements, NamesFit scope statement)
    (made : Parts.ofStatements source scope statements = .ok parts) :
    Layout .plain source scope statements parts := by
  have layout := layout_of_made made
  obtain ⟨middle, arranged, body⟩ := layout.body
  have registered : ∀ name ∈ parts.props,
      readSnippet (registrationText name) = .ok (registration name) := by
    intro name member
    rw [layout.props] at member
    obtain ⟨statement, isStatement, isProp⟩ := List.mem_flatMap.mp member
    exact readSnippet_registration ((fit statement isStatement).props name isProp)
  have declared : ∀ name ∈ statements.flatMap (watchedNames scope),
      readSnippet (watchedVariableText name) = .ok (watchedVariable name) := by
    intro name member
    obtain ⟨statement, isStatement, isWatched⟩ := List.mem_flatMap.mp member
    exact readSnippet_watchedVariable ((fit statement isStatement).watched name isWatched)
  have arrangedPlain : Arranged .plain scope statements middle :=
    arranged.congr (fun statement member => (fit statement member).share_eq)
  exact ⟨layout.imports, layout.defaultImports, layout.props, layout.watchers, registered, declared,
    middle, arrangedPlain, body⟩

end Made

end Reactivity.Component
