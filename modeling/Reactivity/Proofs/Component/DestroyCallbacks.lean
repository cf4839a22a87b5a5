import Reactivity.Proofs.Component.Hooks
import Reactivity.Proofs.Refresh.Renaming

namespace Reactivity.Component

open Script Refresh

/-!
# Callbacks of the destroy hook

Functions that are handed to the destroy hook are left alone when the hook is the default
one. The one exception are functions without statements: they are visited like other code,
so a function in their parameters gets a refresh. With a hook of the author, such callbacks
are no different from those of any other call.
-/

/-- The node is a call of the destroy hook. -/
def callsDestroyHook :
    Node →
    Bool
  | .mk (.call _) _ _ (callee :: _) => callee.form == .identifier destroyHookName
  | _ => false

/-- The functions and arrow functions that are arguments of a call of the destroy hook. -/
def destroyCallbacks :
    Survey Bool Node where
  found isArgument node := if isArgument && isCallable node.form then [node] else []
  inside _ node := callsDestroyHook node

/-- A function occurs in the node, or the body of one. -/
def HoldsFunction
    (node : Node) :
    Prop :=
  ∃ inner, node.Holds inner ∧ (isCallable inner.form || Rule.isBody inner.form)

/--
A callback of the destroy hook, and what becomes of it when it is left alone.

It stays as it is, unless it is a function with a function in its parameters and nothing in
its braces. Then its parameters are visited.
-/
inductive KeptCallback :
    Node →
    Node →
    Prop where
  | same (callback : Node) :
      KeptCallback callback callback
  | empty
      {parameters : Node}
      (holds : HoldsFunction parameters)
      (head : FunctionHead)
      (role : Role)
      (span bodySpan : Span)
      (directives : List String)
      (ancestors : List Ancestor) :
      KeptCallback
        (.mk (.function head) role span
          [parameters, .mk (.body directives) .part bodySpan []])
        (.mk (.function head) role span
          [image true
              (.function head.isDeclaration head.isAsync :: .call .destroyHook :: ancestors)
              parameters,
            .mk (.body directives) .part bodySpan []])

variable
  {skipsDestroy : Bool}
  {ancestors : List Ancestor}

/-- A tree without functions is its own image. -/
theorem image_of_noFunction
    {node : Node}
    (placed : Placed ancestors node)
    (noFunction : ¬ HoldsFunction node) :
    image skipsDestroy ancestors node = node := by
  induction node using Node.inductionOnChildren generalizing ancestors with
  | step form role span children inductionHypothesis =>
      have atRoot : (isCallable form || Rule.isBody form) = false := by
        rw [← Bool.not_eq_true]
        intro isFunction
        exact noFunction ⟨_, .whole _, isFunction⟩
      obtain ⟨noCallable, noBody⟩ := Bool.or_eq_false_iff.mp atRoot
      rw [image_of_noCallable placed noCallable, images_of_noBody noBody]
      have unchanged :
          children.map (image skipsDestroy (Ancestor.labels form role children ++ ancestors)) =
            children.map id := by
        apply List.map_congr_left
        intro child member
        apply inductionHypothesis child member (placed.children child member)
        rintro ⟨inner, holds, isFunction⟩
        exact noFunction ⟨inner, .inside member holds, isFunction⟩
      rw [unchanged, List.map_id]

/-- A callback with nothing in its braces changes in its parameters, if these hold functions. -/
theorem keptCallback_of_noStatement
    {head : FunctionHead}
    {role : Role}
    {span bodySpan : Span}
    {parameters : Node}
    {directives : List String}
    (placed :
      Placed (.call .destroyHook :: ancestors)
        (.mk (.function head) role span
          [parameters, .mk (.body directives) .part bodySpan []])) :
    KeptCallback
      (.mk (.function head) role span [parameters, .mk (.body directives) .part bodySpan []])
      (image true (.call .destroyHook :: ancestors)
        (.mk (.function head) role span
          [parameters, .mk (.body directives) .part bodySpan []])) := by
  have visited :
      image true (.call .destroyHook :: ancestors)
          (.mk (.function head) role span
            [parameters, .mk (.body directives) .part bodySpan []]) =
        .mk (.function head) role span
          [image true
              (.function head.isDeclaration head.isAsync :: .call .destroyHook :: ancestors)
              parameters,
            .mk (.body directives) .part bodySpan []] :=
    Callable.image_node
      { form := .function head, role, span, parameters, directives, bodySpan, statements := []
        callable := rfl
        stand := fun _ member => nomatch member
        concise := fun noBraces => nomatch noBraces }
      placed
  have parametersPlaced :
      Placed (.function head.isDeclaration head.isAsync :: .call .destroyHook :: ancestors)
        parameters :=
    placed.children parameters (List.mem_cons_self ..)
  rw [visited]
  by_cases holds : HoldsFunction parameters
  · exact .empty holds head role span bodySpan directives ancestors
  · rw [image_of_noFunction parametersPlaced holds]
    exact .same _

/-- What becomes of a callback of the destroy hook, if the rule leaves such callbacks alone. -/
theorem keptCallback_image
    (function : Callable)
    (placed : Placed ancestors function.node)
    (isCallback : isDestroyCallback ancestors) :
    KeptCallback function.node (image true ancestors function.node) := by
  have leftAlone (isLeft : isLeftAlone true ancestors function.node) :
      KeptCallback function.node (image true ancestors function.node) := by
    rw [function.image_node placed, decide_of_isLeftAlone isLeft]
    exact .same _
  have isExempted : isExempt true ancestors = true := isCallback
  obtain ⟨form, role, span, parameters, directives, bodySpan, statements, callable, _, _⟩ :=
    function
  cases form with
  | arrow head =>
      exact leftAlone isExempted
  | function head =>
      rcases statements with _ | ⟨statement, rest⟩
      · rcases ancestors with _ | ⟨first, outer⟩
        · cases isCallback
        · obtain rfl : first = .call .destroyHook := Option.some.inj (beq_iff_eq.mp isCallback)
          exact keptCallback_of_noStatement placed
      · exact leftAlone (Bool.and_eq_true_iff.mpr ⟨isExempted, rfl⟩)
  | _ =>
      cases callable

/-- Only calls call the destroy hook. -/
theorem callsDestroyHook_of_noCall
    {node : Node}
    (noCall : ∀ isOptional, node.form ≠ .call isOptional) :
    callsDestroyHook node = false := by
  unfold callsDestroyHook
  split
  · exact absurd rfl (noCall _)
  · rfl

/-- Nodes with the same outline call the destroy hook alike. -/
theorem callsDestroyHook_of_outline
    {before after : Node}
    (same : outline before = outline after) :
    callsDestroyHook before = callsDestroyHook after := by
  by_cases isCall : ∃ isOptional, before.form = .call isOptional
  · obtain ⟨isOptional, isCall⟩ := isCall
    obtain ⟨form, role, span, children⟩ := before
    obtain rfl : form = .call isOptional := isCall
    obtain ⟨otherChildren, rfl, sameChildren⟩ := exists_of_outline_mk same rfl rfl
    rcases children with _ | ⟨callee, arguments⟩ <;>
      rcases otherChildren with _ | ⟨otherCallee, otherArguments⟩
    · rfl
    · cases sameChildren
    · cases sameChildren
    · change (callee.form == _) = (otherCallee.form == _)
      rcases form_of_outline (List.cons.inj sameChildren).1 with
        sameForm | ⟨head, otherHead, isArrow, isOther⟩
      · rw [sameForm]
      · rw [isArrow, isOther]
        rfl
  · have noCall (isOptional : Bool) : before.form ≠ .call isOptional :=
      fun isBefore => isCall ⟨isOptional, isBefore⟩
    have noOther (isOptional : Bool) : after.form ≠ .call isOptional := by
      intro isAfter
      rcases form_of_outline same with sameForm | ⟨_, _, _, isArrow⟩
      · exact noCall isOptional (sameForm.trans isAfter)
      · rw [isArrow] at isAfter
        cases isAfter
    rw [callsDestroyHook_of_noCall noCall, callsDestroyHook_of_noCall noOther]

/-- The arguments of a call of the destroy hook stand in it as callbacks do. -/
theorem isDestroyCallback_of_calls
    {form : Form}
    {role : Role}
    {span : Span}
    {children : List Node}
    (calls : callsDestroyHook (.mk form role span children)) :
    isDestroyCallback (Ancestor.labels form role children ++ ancestors) := by
  unfold callsDestroyHook at calls
  split at calls
  · next callee _ isCall =>
      cases isCall
      have isName : callee.form = .identifier destroyHookName := beq_iff_eq.mp calls
      simp only [Ancestor.labels, isName]
      rfl
  · cases calls

/-- A survey of callbacks finds at the image of a node what becomes of the callback there. -/
theorem found_destroyCallbacks
    {isArgument : Bool}
    {node : Node}
    (suits : isArgument → isDestroyCallback ancestors)
    (placed : Placed ancestors node) :
    List.Forall₂ KeptCallback (destroyCallbacks.found isArgument node)
      (destroyCallbacks.found isArgument (image true ancestors node)) := by
  cases isArgument with
  | false =>
      exact .nil
  | true =>
      obtain ⟨form, role, span, children⟩ := node
      cases isFunction : isCallable form with
      | false =>
          rw [image_of_noCallable placed isFunction]
          simp [destroyCallbacks, isFunction]
      | true =>
          obtain ⟨function, shape⟩ := placed.callable isFunction
          rw [shape] at placed ⊢
          have kept := keptCallback_image function placed (suits rfl)
          have callable : isCallable function.node.form := function.callable
          have imageCallable : isCallable (image true ancestors function.node).form :=
            function.isCallable_image placed
          simp only [destroyCallbacks, callable, imageCallable, Bool.and_self, if_true]
          exact .cons kept .nil

theorem steady_destroyCallbacks :
    Steady destroyCallbacks true
      (fun isArgument ancestors => isArgument → isDestroyCallback ancestors)
      KeptCallback where
  refl callback := .same callback
  suits_inner _ _ _ _ _ _ _ := isDestroyCallback_of_calls
  inside_of_outline _ _ _ same := callsDestroyHook_of_outline same
  found_image _ _ _ suits placed := found_destroyCallbacks suits placed
  found_body isArgument _ _ _ _ := by cases isArgument <;> rfl
  run_refresh isArgument := by cases isArgument <;> rfl
  run_stop isArgument := by cases isArgument <;> rfl
  run_marker isArgument _ _ _ _ := by cases isArgument <;> rfl
  run_returned isArgument _ _ value := by
    rw [Survey.run_eq, Survey.run_eq (.mk .expressionStatement _ _ _)]
    cases isArgument <;> rfl

theorem passesScaffold_destroyCallbacks :
    PassesScaffold destroyCallbacks false where
  scaffold := rfl
  registration _ := rfl
  watchedVariable _ := rfl
  withRole node role := by
    obtain ⟨form, oldRole, span, children⟩ := node
    have sameCall :
        callsDestroyHook (.mk form role span children) =
          callsDestroyHook (.mk form oldRole span children) := by
      cases form with
      | call => cases children <;> rfl
      | _ => rfl
    rw [Survey.run_eq, Survey.run_eq (.mk form oldRole span children)]
    change _ ++ destroyCallbacks.runAll (callsDestroyHook (.mk form role span children)) _ = _
    rw [sameCall]
    rfl

/-- The destroy hook is in the header exactly if the script does not declare its name. -/
theorem destroyHook_mem_header_iff
    (scope : Scope.Root)
    (hasProps : Bool) :
    destroyHookDeclaration ∈ header scope hasProps ↔ scope.declares destroyHookName = false :=
  @mem_header_iff { name := destroyHookName, declaration := destroyHookDeclaration }
    (by simp [defaultBindings]) scope hasProps

variable
  {input : Input}
  {program : Program}
  {compiled : Compiled}

/-- Callbacks are kept in the factory function when the script does not declare the hook. -/
theorem Built.keptCallbacks
    {parts : Parts}
    {factory : Node}
    (built : Built input program compiled parts factory)
    (read : readProgram (markCheckStops input.code) = .ok program)
    (undeclared : (Scope.Root.scan program.statements).declares destroyHookName = false) :
    List.Forall₂ KeptCallback
      (destroyCallbacks.runAll false (program.statements.filterMap authored?))
      (destroyCallbacks.runAll false parts.body) := by
  have needs : (Scope.Root.scan program.statements).needsDestroyHook = true := by
    rw [Scope.Root.needsDestroyHook, undeclared]
    rfl
  have steady :
      Steady destroyCallbacks (Scope.Root.scan program.statements).needsDestroyHook
        (fun isArgument ancestors => isArgument → isDestroyCallback ancestors) KeptCallback := by
    rw [needs]
    exact steady_destroyCallbacks
  apply built.run_body read steady
  · intro ancestors isArgument
    cases isArgument
  · exact passesScaffold_destroyCallbacks

/--
What becomes of the callbacks of the destroy hook.

The hook stands in the header of a factory function exactly if no variable declaration and
no function declaration of the top level declares its name. Then the functions that are
arguments of its calls are in the factory function as they are in the script, one by one,
except that the parameters of a function with an empty body are visited. Otherwise the
factory function holds what the injection gives without exemptions, which is the same
whatever the hook is called. Watchers are cut from the script in any case.
-/
theorem compile_destroyCallbacks
    (read : readProgram (markCheckStops input.code) = .ok program)
    (done : compile input = .ok compiled) :
    (∃ opening middle factory,
      IsFactory input.options (opening ++ middle ++ [footer]) factory ∧
        compiled.code =
          { program with
            statements := program.statements.filter isImport ++ [factory] : Program }.print ∧
        (destroyHookDeclaration ∈ opening ↔
          ∀ statement ∈ program.statements,
            destroyHookName ∉ Scope.variableNames statement ∧
              destroyHookName ∉ Scope.functionNames statement) ∧
        (destroyHookDeclaration ∈ opening →
          List.Forall₂ KeptCallback
            (destroyCallbacks.runAll false (program.statements.filterMap authored?))
            (destroyCallbacks.runAll false (opening ++ middle ++ [footer]))) ∧
        (destroyHookDeclaration ∉ opening →
          Arranged .plain (Scope.Root.scan program.statements) (inject false program.statements).1
              middle ∧
            ∀ name, name ≠ markerName →
              (inject false (program.statements.map (renameHook name))).1 =
                (inject false program.statements).1.map (renameHook name))) ∧
      ∃ reactives,
        (program.statements.filterMap reactiveBody?).mapM
            (Reactive.ofBody (markCheckStops input.code).toList
              (Scope.Root.scan program.statements)) =
          .ok reactives ∧
        compiled.watchers = reactives.map Reactive.watcher := by
  constructor
  · obtain ⟨parts, factory, built⟩ := exists_built read done
    obtain ⟨middle, arranged, body⟩ := built.layout.body_eq
    have inHeader :=
      destroyHook_mem_header_iff (Scope.Root.scan program.statements) (!parts.props.isEmpty)
    refine ⟨_, middle, factory, body ▸ built.isFactory, built.code,
      inHeader.trans undeclared_iff, ?_, ?_⟩
    · intro isMade
      rw [← body]
      exact built.keptCallbacks read (inHeader.mp isMade)
    · intro notMade
      have needsNone : (Scope.Root.scan program.statements).needsDestroyHook = false := by
        rw [Scope.Root.needsDestroyHook, Bool.not_eq_false']
        by_contra undeclared
        exact notMade (inHeader.mpr (Bool.not_eq_true _ ▸ undeclared))
      rw [needsNone] at arranged
      refine ⟨arranged, ?_⟩
      intro name noMarker
      rw [inject_renameHook noMarker]
  · exact exists_watchers read done

/-- A callback that has something to do stays as it is. -/
theorem KeptCallback.eq_of_occupied
    {callback after : Node}
    (kept : KeptCallback callback after)
    (occupied : (bodyStatements callback).isEmpty = false) :
    after = callback := by
  cases kept with
  | same => rfl
  | empty => cases occupied

/-- The callback of this script gets no refresh. -/
theorem compile_destroyCallbacks_arrow :
    ∃ program compiled opening middle factory callback,
      readProgram "$onDestroy(()=>a())" = .ok program ∧
        compile { code := "$onDestroy(()=>a())" } = .ok compiled ∧
          IsFactory {} (opening ++ middle ++ [footer]) factory ∧
            destroyHookDeclaration ∈ opening ∧
              destroyCallbacks.runAll false (program.statements.filterMap authored?) =
                  [callback] ∧
                destroyCallbacks.runAll false (opening ++ middle ++ [footer]) = [callback] := by
  have unmarked : markCheckStops "$onDestroy(()=>a())" = "$onDestroy(()=>a())" := by
    decide +kernel
  have checked :
      (readProgram (markCheckStops "$onDestroy(()=>a())")).toOption.any (fun program =>
        !(Scope.Root.scan program.statements).declares destroyHookName &&
          (destroyCallbacks.runAll false (program.statements.filterMap authored?)).map
              (fun callback => (bodyStatements callback).isEmpty) ==
            [false]) := by
    decide +kernel
  have compiles : (compile { code := "$onDestroy(()=>a())" }).toOption.any (fun _ => true) := by
    decide +kernel
  obtain ⟨program, read, checked⟩ := Outcome.exists_of_any checked
  obtain ⟨compiled, done, _⟩ := Outcome.exists_of_any compiles
  simp only [Bool.and_eq_true, Bool.not_eq_true', beq_iff_eq] at checked
  obtain ⟨undeclared, occupied⟩ := checked
  obtain ⟨callback, single, occupied⟩ := List.map_eq_singleton_iff.mp occupied
  obtain ⟨⟨opening, middle, factory, isFactory, _, made, kept, _⟩, _⟩ :=
    @compile_destroyCallbacks { code := "$onDestroy(()=>a())" } program compiled read done
  have isMade := made.mpr (undeclared_iff.mp undeclared)
  have kept := kept isMade
  rw [single] at kept
  obtain ⟨after, others, keptCallback, keptNone, split⟩ := List.forall₂_cons_left_iff.mp kept
  obtain rfl := List.forall₂_nil_left_iff.mp keptNone
  obtain rfl := keptCallback.eq_of_occupied occupied
  exact ⟨program, compiled, opening, middle, factory, _, unmarked ▸ read, done, isFactory, isMade,
    single, split⟩

/-- The parameters of this callback get a refresh. -/
theorem compile_callback_parameters :
    ∃ program compiled opening middle factory callback after,
      readProgram "$onDestroy(function(a = () => 1) \x7b\x7d)" = .ok program ∧
        compile { code := "$onDestroy(function(a = () => 1) \x7b\x7d)" } = .ok compiled ∧
          IsFactory {} (opening ++ middle ++ [footer]) factory ∧
            compiled.code = { program with statements := [factory] : Program }.print ∧
              destroyHookDeclaration ∈ opening ∧
                destroyCallbacks.runAll false program.statements = [callback] ∧
                  destroyCallbacks.runAll false (opening ++ middle ++ [footer]) = [after] ∧
                    Node.tally (· == .identifier refreshName) callback = 0 ∧
                      Node.tally (· == .identifier refreshName) after = 1 := by
  have unmarked :
      markCheckStops "$onDestroy(function(a = () => 1) \x7b\x7d)" =
        "$onDestroy(function(a = () => 1) \x7b\x7d)" := by
    decide +kernel
  have checked :
      (readProgram (markCheckStops "$onDestroy(function(a = () => 1) \x7b\x7d)")).toOption.any
        (fun program =>
          (program.statements.filter isImport).isEmpty &&
            !(Scope.Root.scan program.statements).declares destroyHookName &&
            (destroyCallbacks.runAll false program.statements).map
                (Node.tally (· == .identifier refreshName)) ==
              [0] &&
            (destroyCallbacks.runAll false
                  ((inject (Scope.Root.scan program.statements).needsDestroyHook
                      program.statements).1.filterMap
                    authored?)).map
                (Node.tally (· == .identifier refreshName)) ==
              [1]) := by
    decide +kernel
  have compiles :
      (compile { code := "$onDestroy(function(a = () => 1) \x7b\x7d)" }).toOption.any
        (fun _ => true) := by
    decide +kernel
  obtain ⟨program, read, checked⟩ := Outcome.exists_of_any checked
  obtain ⟨compiled, done, _⟩ := Outcome.exists_of_any compiles
  simp only [Bool.and_eq_true, List.isEmpty_iff, Bool.not_eq_true', beq_iff_eq] at checked
  obtain ⟨⟨⟨noImport, undeclared⟩, before⟩, after⟩ := checked
  obtain ⟨parts, factory, built⟩ :=
    @exists_built { code := "$onDestroy(function(a = () => 1) \x7b\x7d)" } program compiled read
      done
  have layout := built.layout
  obtain ⟨middle, _, body⟩ := layout.body_eq
  have inBody := layout.run_body passesScaffold_destroyCallbacks
  rw [← inBody, body] at after
  obtain ⟨callback, single, noRefresh⟩ := List.map_eq_singleton_iff.mp before
  obtain ⟨changed, singleAfter, refreshed⟩ := List.map_eq_singleton_iff.mp after
  have code := built.code
  rw [noImport, List.nil_append] at code
  exact ⟨program, compiled, _, middle, factory, callback, changed, unmarked ▸ read, done,
    body ▸ built.isFactory, code,
    (destroyHook_mem_header_iff _ _).mpr undeclared, single, singleAfter, noRefresh, refreshed⟩

end Reactivity.Component
