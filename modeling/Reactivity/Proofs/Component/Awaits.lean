import Reactivity.Proofs.Component.Contents

namespace Reactivity.Component

open Script Refresh

/-!
# Awaits

An await needs an asynchronous function around it, and the factory function is none. The
injection moves no await into another function, so an await of the generated module is
stray, without an asynchronous function as its nearest one, exactly if it was stray among
the statements of the script that pass into the factory function. What the script awaits
at its top level is such a stray, and so is what a watcher awaits outside of a function.
-/

/-- The form waits: an await, or a loop over awaited values. -/
def waits :
    Form →
    Bool
  | .awaiting | .forOf true => true
  | _ => false

/-- The children of a node of this form stand in an asynchronous function. -/
def isAsyncInside
    (isAsync : Bool) :
    Form →
    Bool
  | .function head => head.isAsync
  | .arrow head => head.isAsync
  | _ => isAsync

/-- The source ranges of the awaits whose nearest function is not asynchronous. -/
def strayAwaits :
    Survey Bool Span where
  found isAsync node := if waits node.form && !isAsync then [node.span] else []
  inside isAsync node := isAsyncInside isAsync node.form

/-- In a node that neither waits nor is a function, just its children matter. -/
theorem run_of_passive
    {isAsync : Bool}
    {form : Form}
    (noWait : waits form = false)
    (noCallable : isCallable form = false)
    (role : Role)
    (span : Span)
    (children : List Node) :
    strayAwaits.run isAsync (.mk form role span children) =
      strayAwaits.runAll isAsync children := by
  have nothing : strayAwaits.found isAsync (.mk form role span children) = [] := by
    simp [strayAwaits, noWait]
  have sameInside : strayAwaits.inside isAsync (.mk form role span children) = isAsync := by
    cases form with
    | function | arrow => cases noCallable
    | _ => rfl
  rw [Survey.run_eq, nothing, sameInside]
  rfl

/-- Nodes with the same outline wait alike. -/
theorem waits_of_outline
    {before after : Node}
    (same : outline before = outline after) :
    waits before.form = waits after.form := by
  rcases form_of_outline same with sameForm | ⟨head, otherHead, isArrow, isOther⟩
  · rw [sameForm]
  · rw [isArrow, isOther]
    rfl

/-- Braces do not make a function asynchronous. -/
theorem isAsyncInside_withBraces
    (isAsync : Bool)
    (form : Form) :
    isAsyncInside isAsync (withBraces form) = isAsyncInside isAsync form := by
  cases form <;> rfl

theorem steady_strayAwaits
    (skipsDestroy : Bool) :
    Steady strayAwaits skipsDestroy (fun _ _ => True) Eq where
  refl _ := rfl
  suits_inner _ _ _ _ _ _ _ := trivial
  inside_of_outline isAsync before after same := by
    have sameForm : withBraces before.form = withBraces after.form := by
      rw [← form_outline, same, form_outline]
    exact (isAsyncInside_withBraces isAsync before.form).symm.trans
      (sameForm ▸ isAsyncInside_withBraces isAsync after.form)
  found_image isAsync ancestors node _ placed := by
    have same := @outline_image skipsDestroy ancestors node placed
    have sameSpan : (image skipsDestroy ancestors node).span = node.span := by
      rw [← span_outline, same, span_outline]
    rw [List.forall₂_eq_eq_eq]
    simp only [strayAwaits, waits_of_outline same, sameSpan]
  found_body _ _ _ _ _ := rfl
  run_refresh isAsync := by cases isAsync <;> rfl
  run_stop isAsync := by cases isAsync <;> rfl
  run_marker isAsync _ _ _ _ := by cases isAsync <;> rfl
  run_returned isAsync _ _ value := by
    rw [Survey.run_eq, Survey.run_eq (.mk .expressionStatement _ _ _)]
    rfl

theorem passesScaffold_strayAwaits :
    PassesScaffold strayAwaits false where
  scaffold := rfl
  registration _ := rfl
  watchedVariable _ := rfl
  withRole node _ := by
    obtain ⟨form, role, span, children⟩ := node
    rw [Survey.run_eq, Survey.run_eq (.mk form role span children)]
    rfl

/-- The stray awaits of a factory function are those of its statements. -/
theorem run_withBody
    {options : Options}
    {shell : Node}
    (isShell : IsShellStatement options shell)
    (statements : List Node) :
    strayAwaits.run false (withBody statements shell) = strayAwaits.runAll false statements := by
  -- Around the statements are a body, a function that is not asynchronous, and perhaps an export.
  have ofBody (span : Span) :
      strayAwaits.run false (.mk (.body []) .part span statements) =
        strayAwaits.runAll false statements := by
    rw [Survey.run_eq]
    rfl
  have ofFunction
      (role : Role)
      (function : Node)
      (isFunction : IsShell role options.name function) :
      strayAwaits.run false (mapBody (fun _ => statements) function) =
        strayAwaits.runAll false statements := by
    cases isFunction with
    | intro span parametersSpan elementSpan optionSpan bodySpan =>
        rw [← ofBody bodySpan, ← List.append_nil (strayAwaits.run false (.mk (.body []) _ _ _))]
        rfl
  cases isShell with
  | plain isPlain isFunction =>
      cases isFunction
      exact ofFunction .statement _ (.intro _ _ _ _ _)
  | exported isExported isFunction span =>
      rw [← ofFunction .part _ isFunction, withBody,
        ← List.append_nil (strayAwaits.run false (mapBody _ _))]
      rfl

/-- Nothing is awaited in an import. -/
theorem run_of_isImport
    {statement : Node}
    (wellFormed : statement.isWellFormed)
    (isImported : isImport statement) :
    strayAwaits.run false statement = [] := by
  unfold isImport Kind.ofNode at isImported
  split at isImported
  · next kind =>
      split at kind
      · next children =>
          obtain rfl : children = [] :=
            List.isEmpty_iff.mp (Node.isWellFormed_mk.mp wellFormed).1
          rfl
      · cases kind
      · split at kind <;> cases kind
      · cases kind
  · cases isImported

/-- The nodes of a reactive statement whose texts its watcher is made of. -/
def watchedNodes :
    Node →
    List Node
  | .mk .expressionStatement _ _ [.mk (.assignment _) _ _ [left, right]] => [left, right]
  | .mk .expressionStatement _ _ [.mk .sequence _ _ items] => items
  | _ => []

/-- The texts that a watcher is made of. -/
def watcherTexts :
    Watcher →
    List String
  | .assigned target expression => [target, expression]
  | .tracked dependencies _ callback => dependencies ++ [callback]

/-- The text is that of a node, or the name that the node is. -/
def IsTextOf
    (source : List Char)
    (node : Node)
    (text : String) :
    Prop :=
  text = node.span.text source ∨ node.form = .identifier text

variable
  {source : List Char}
  {scope : Scope.Root}

/-- The watcher of a reactive statement is made of the texts of its watched nodes. -/
theorem ofBody_watcher
    {body : Node}
    {reactive : Reactive}
    (built : Reactive.ofBody source scope body = .ok reactive) :
    List.Forall₂ (IsTextOf source) (watchedNodes body) (watcherTexts reactive.watcher) ∧
      strayAwaits.runAll false (watchedNodes body) = strayAwaits.run false body := by
  have texts (nodes : List Node) :
      List.Forall₂ (IsTextOf source) nodes (nodes.map (Reactive.sourceText source)) :=
    List.forall₂_map_right_iff.mpr (List.forall₂_same.mpr (fun _ _ => .inl rfl))
  have within (role valueRole : Role) (span valueSpan : Span) (form : Form) (items : List Node)
      (noWait : waits form = false) (noCallable : isCallable form = false) :
      strayAwaits.runAll false items =
        strayAwaits.run false
          (.mk .expressionStatement role span [.mk form valueRole valueSpan items]) := by
    rw [run_of_passive rfl rfl, Survey.runAll_cons, run_of_passive noWait noCallable,
      Survey.runAll_nil, List.append_nil]
  cases Reactive.accepted_of_ofBody built with
  | toVariable => exact ⟨.cons (.inr rfl) (.cons (.inl rfl) .nil), within _ _ _ _ _ _ rfl rfl⟩
  | toMember => exact ⟨.cons (.inl rfl) (.cons (.inl rfl) .nil), within _ _ _ _ _ _ rfl rfl⟩
  | @sequence _ _ _ _ dependencies callback =>
      refine ⟨?_, within _ _ _ _ _ _ rfl rfl⟩
      have inParts := texts (dependencies ++ [callback])
      rwa [List.map_append] at inParts

/-- Values that are made one by one from some nodes stand in the order of the nodes. -/
theorem forall₂_of_mapM
    {α β : Type}
    {make : α → Outcome β}
    {items : List α}
    {values : List β}
    (made : items.mapM make = .ok values) :
    List.Forall₂ (fun item value => make item = .ok value) items values := by
  induction items generalizing values with
  | nil =>
      cases made
      exact .nil
  | cons item rest inductionHypothesis =>
      rw [List.mapM_cons] at made
      obtain ⟨value, isValue, made⟩ := Outcome.bind_eq_ok.mp made
      obtain ⟨others, areOthers, made⟩ := Outcome.bind_eq_ok.mp made
      cases made
      exact .cons isValue (inductionHypothesis areOthers)

variable
  {input : Input}
  {program : Program}
  {compiled : Compiled}

/-- The stray awaits of a factory function are those of the statements that pass into it. -/
theorem Built.run_factory
    {parts : Parts}
    {shell : Node}
    (built : Built input program compiled parts (withBody parts.body shell))
    (isShell : IsShellStatement input.options shell)
    (read : readProgram (markCheckStops input.code) = .ok program) :
    strayAwaits.run false (withBody parts.body shell) =
      strayAwaits.runAll false (program.statements.filterMap authored?) := by
  have same :=
    built.run_body read (steady_strayAwaits _) (fun _ => trivial) passesScaffold_strayAwaits
  rw [List.forall₂_eq_eq_eq] at same
  rw [run_withBody isShell, same]

/--
Where awaits end up.

In the module that a script is compiled to, the awaits and loops over awaited values whose
nearest function is not asynchronous are those of the statements that pass into the factory
function, at the same places and in the same order; the imports have none. So the module has
none exactly if these statements have none, while an await outside of all functions is one.
The texts of watchers are those of nodes of the reactive statements, and what these await
outside of asynchronous functions is what the reactive statement does.
-/
theorem compile_strayAwaits
    (read : readProgram (markCheckStops input.code) = .ok program)
    (done : compile input = .ok compiled) :
    (∃ body factory,
      IsFactory input.options body factory ∧
        compiled.code =
          { program with
            statements := program.statements.filter isImport ++ [factory] : Program }.print ∧
        strayAwaits.runAll false (program.statements.filter isImport ++ [factory]) =
          strayAwaits.runAll false (program.statements.filterMap authored?)) ∧
      List.Forall₂
        (fun body watcher =>
          List.Forall₂ (IsTextOf (markCheckStops input.code).toList) (watchedNodes body)
              (watcherTexts watcher) ∧
            strayAwaits.runAll false (watchedNodes body) = strayAwaits.run false body)
        (program.statements.filterMap reactiveBody?) compiled.watchers := by
  constructor
  · obtain ⟨parts, shell, isShell, built⟩ := exists_built_shell read done
    refine ⟨parts.body, withBody parts.body shell, built.isFactory, built.code, ?_⟩
    have importsFree : strayAwaits.runAll false (program.statements.filter isImport) = [] := by
      rw [Survey.runAll_eq]
      apply List.flatMap_eq_nil_iff.mpr
      intro statement member
      obtain ⟨member, isImported⟩ := List.mem_filter.mp member
      exact run_of_isImport (readProgram_stands read statement member).wellFormed isImported
    rw [Survey.runAll_append, importsFree, Survey.runAll_cons, built.run_factory isShell read,
      Survey.runAll_nil, List.append_nil, List.nil_append]
  · obtain ⟨reactives, allBuilt, watchers⟩ := exists_watchers read done
    rw [watchers, List.forall₂_map_right_iff]
    exact (forall₂_of_mapM allBuilt).imp (fun _ _ built => ofBody_watcher built)

/-- The await of this function stays in it. -/
theorem compile_strayAwaits_function :
    ∃ program compiled body factory,
      readProgram "async function f()\x7bawait a\x7d" = .ok program ∧
        compile { code := "async function f()\x7bawait a\x7d" } = .ok compiled ∧
          IsFactory {} body factory ∧
            compiled.code = { program with statements := [factory] : Program }.print ∧
              strayAwaits.run false factory = [] := by
  have unmarked :
      markCheckStops "async function f()\x7bawait a\x7d" = "async function f()\x7bawait a\x7d" := by
    decide +kernel
  have checked :
      (readProgram (markCheckStops "async function f()\x7bawait a\x7d")).toOption.any
        (fun program =>
          (program.statements.filter isImport).isEmpty &&
            (strayAwaits.runAll false (program.statements.filterMap authored?)).isEmpty) := by
    decide +kernel
  have compiles :
      (compile { code := "async function f()\x7bawait a\x7d" }).toOption.any (fun _ => true) := by
    decide +kernel
  obtain ⟨program, read, checked⟩ := Outcome.exists_of_any checked
  obtain ⟨compiled, done, _⟩ := Outcome.exists_of_any compiles
  simp only [Bool.and_eq_true, List.isEmpty_iff] at checked
  obtain ⟨noImport, noStray⟩ := checked
  obtain ⟨⟨body, factory, isFactory, code, strays⟩, _⟩ :=
    @compile_strayAwaits { code := "async function f()\x7bawait a\x7d" } program compiled read done
  rw [noImport, List.nil_append] at code strays
  rw [noStray, Survey.runAll_cons, Survey.runAll_nil, List.append_nil] at strays
  exact ⟨program, compiled, body, factory, unmarked ▸ read, done, isFactory, code, strays⟩

/-- What this script awaits has no asynchronous function around it any more, nor has a watcher. -/
theorem compile_top_level_await :
    (∃ program compiled body factory,
      readProgram "await a" = .ok program ∧
        compile { code := "await a" } = .ok compiled ∧
          IsFactory {} body factory ∧
            compiled.code = { program with statements := [factory] : Program }.print ∧
              strayAwaits.run false factory = [⟨0, 7⟩]) ∧
      ∃ compiled,
        compile { code := "$:x=await y" } = .ok compiled ∧
          compiled.watchers.map Watcher.render =
            ["$cd.prefix.push(() => \x7bx = await y;\x7d);"] := by
  have checked :
      (readProgram (markCheckStops "await a")).toOption.any (fun program =>
        (program.statements.filter isImport).isEmpty &&
          strayAwaits.runAll false (program.statements.filterMap authored?) == [⟨0, 7⟩]) := by
    decide +kernel
  have compiles : (compile { code := "await a" }).toOption.any (fun _ => true) := by
    decide +kernel
  have watches :
      (compile { code := "$:x=await y" }).toOption.any (fun compiled =>
        compiled.watchers.map Watcher.render ==
          ["$cd.prefix.push(() => \x7bx = await y;\x7d);"]) := by
    decide +kernel
  have unmarked : markCheckStops "await a" = "await a" := by
    decide +kernel
  obtain ⟨program, read, checked⟩ := Outcome.exists_of_any checked
  obtain ⟨compiled, done, _⟩ := Outcome.exists_of_any compiles
  obtain ⟨watching, watchingDone, watches⟩ := Outcome.exists_of_any watches
  simp only [Bool.and_eq_true, List.isEmpty_iff, beq_iff_eq] at checked
  obtain ⟨noImport, stray⟩ := checked
  obtain ⟨parts, shell, isShell, built⟩ :=
    @exists_built_shell { code := "await a" } program compiled read done
  have code := built.code
  have strays := (built.run_factory isShell read).trans stray
  rw [noImport, List.nil_append] at code
  exact ⟨⟨program, compiled, parts.body, withBody parts.body shell, unmarked ▸ read, done,
    built.isFactory, code, strays⟩, watching, watchingDone, beq_iff_eq.mp watches⟩

end Reactivity.Component
