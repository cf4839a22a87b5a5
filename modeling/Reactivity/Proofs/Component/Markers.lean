import Reactivity.Proofs.Component.Body

namespace Reactivity.Component

open Script Refresh

/-!
# Markers that are left

A line that asks for a check stop becomes a marker, and the injection turns a marker into
a check stop only where it is the first one among the statements of a function. Every
other marker is left in the module, and watchers are texts that the injection never sees.
-/

/-- The form is the name that stands for a check stop. -/
def isMention
    (form : Form) :
    Bool :=
  form == .identifier markerName

theorem isBlind_isMention :
    IsBlind isMention where
  callable form callable := by
    cases form with
    | function | arrow => rfl
    | _ => cases callable
  body _ := rfl
  value := rfl
  returned := rfl
  call := rfl
  name := rfl
  argument := rfl

variable
  {source : List Char}
  {scope : Scope.Root}

/-- What is left of the share of a statement, and the markers that are gone. -/
theorem tallyAll_share_image
    (skipsDestroy : Bool)
    {statement : Node}
    (stands : statement.Stands .statement)
    (accepted : refusal? source scope statement = none) :
    Node.tallyAll isMention (share .plain scope (image skipsDestroy [] statement)) +
        authoredStops skipsDestroy statement =
      Node.tallyAll isMention (share .plain scope statement) := by
  have counted := authoredTally_image isBlind_isMention skipsDestroy stands
  have one : (isMention (.identifier markerName)).toNat = 1 := rfl
  rw [one, Nat.mul_one] at counted
  obtain ⟨sameProps, sameWatched⟩ := names_image skipsDestroy stands accepted
  rw [tallyAll_share, tallyAll_share, extras, extras, sameProps, sameWatched]
  omega

variable
  {input : Input}
  {program : Program}
  {compiled : Compiled}

/-- What is left of the shares of all statements, and the markers that are gone. -/
theorem tallyAll_shares
    (skipsDestroy : Bool)
    {statements : List Node}
    (stand : ∀ statement ∈ statements, statement.Stands .statement)
    (accepted : ∀ statement ∈ statements, refusal? source scope statement = none) :
    Node.tallyAll isMention
          ((statements.map (image skipsDestroy [])).flatMap (share .plain scope)) +
        authoredStopsAll skipsDestroy statements =
      Node.tallyAll isMention (statements.flatMap (share .plain scope)) := by
  induction statements with
  | nil =>
      rfl
  | cons statement rest inductionHypothesis =>
      have atStatement :=
        tallyAll_share_image skipsDestroy (stand statement (by simp))
          (accepted statement (by simp))
      have atRest :=
        inductionHypothesis (fun other member => stand other (by simp [member]))
          (fun other member => accepted other (by simp [member]))
      simp only [List.map_cons, List.flatMap_cons, Node.tallyAll_append,
        authoredStopsAll]
      omega

/-- What is left of the markers in the body of a factory function. -/
theorem Built.tallyAll_isMention
    {parts : Parts}
    {factory : Node}
    (built : Built input program compiled parts factory)
    (read : readProgram (markCheckStops input.code) = .ok program)
    (done : compile input = .ok compiled) :
    Node.tallyAll isMention parts.body +
        authoredStopsAll (Scope.Root.scan program.statements).needsDestroyHook
          program.statements =
      Node.tallyAll isMention
        (program.statements.flatMap (share .plain (Scope.Root.scan program.statements))) := by
  rw [built.layout.tallyAll_body (by decide +kernel), inject_eq read]
  exact tallyAll_shares _ (readProgram_stands read) (accepted_of_compile read done)

/-- A function that is stopped keeps its statements but for its first marker. -/
theorem image_of_isStopped
    {skipsDestroy : Bool}
    {ancestors : List Ancestor}
    {node : Node}
    (placed : Placed ancestors node)
    (stopped : isStopped skipsDestroy ancestors node) :
    ∃ earlier marker later,
      bodyStatements node = earlier ++ marker :: later ∧
        isMarker marker ∧
          (∀ statement ∈ earlier, isMarker statement = false) ∧
            image skipsDestroy ancestors node =
              mapBody (fun _ => earlier ++ stopStatement :: later) node := by
  simp only [isStopped, Bool.and_eq_true, Bool.not_eq_true', List.any_eq_true] at stopped
  obtain ⟨⟨⟨callable, hasBraces⟩, noExemption⟩, marker, member, isStop⟩ := stopped
  obtain ⟨function, rfl⟩ := placed.callable callable
  rw [function.image_node placed]
  have made := function.decision skipsDestroy ancestors
  generalize (decide skipsDestroy ancestors function.node).1 = flow at made
  cases made with
  | empty braces noStatement =>
      rw [noStatement] at member
      cases member
  | exempt isExempted =>
      rw [noExemption] at isExempted
      cases isExempted
  | @stopped earlier later marker noExemption braces split isStop isFirst =>
      exact ⟨earlier, marker, later, split, isStop, isFirst, rfl⟩
  | iterating noExemption occupied noStop iteration =>
      rw [noStop hasBraces marker member] at isStop
      cases isStop
  | refreshed noExemption braces occupied noStop noIteration =>
      rw [noStop marker member] at isStop
      cases isStop
  | braced noExemption noBraces noIteration =>
      rw [noBraces] at hasBraces
      cases hasBraces

/--
Which markers are left when a script is compiled.

In the body of the factory function, each function that is stopped makes one mention of
the marker go away, and all others are left: none is left exactly if every mention is the
first marker among the statements of a function that the walk comes to. A function that is
stopped gets no refresh at its start. Watchers are cut from the marked script, so what
they mention is left in any case.
-/
theorem compile_markers
    (read : readProgram (markCheckStops input.code) = .ok program)
    (done : compile input = .ok compiled) :
    (∃ body factory,
      IsFactory input.options body factory ∧
        compiled.code =
          { program with
            statements := program.statements.filter isImport ++ [factory] : Program }.print ∧
        Node.tallyAll isMention body +
            authoredStopsAll (Scope.Root.scan program.statements).needsDestroyHook
              program.statements =
          Node.tallyAll isMention
            (program.statements.flatMap (share .plain (Scope.Root.scan program.statements)))) ∧
      (∀ moment,
        (injection (Scope.Root.scan program.statements).needsDestroyHook).Visits
            program.statements 0 moment →
          isStopped (Scope.Root.scan program.statements).needsDestroyHook moment.ancestors
              moment.node →
            ∃ earlier marker later,
              bodyStatements moment.node = earlier ++ marker :: later ∧
                isMarker marker ∧
                  (∀ statement ∈ earlier, isMarker statement = false) ∧
                    moment.image
                        (injection (Scope.Root.scan program.statements).needsDestroyHook) =
                      mapBody (fun _ => earlier ++ stopStatement :: later) moment.node) ∧
      ∃ reactives,
        (program.statements.filterMap reactiveBody?).mapM
            (Reactive.ofBody (markCheckStops input.code).toList
              (Scope.Root.scan program.statements)) =
          .ok reactives ∧
        compiled.watchers = reactives.map Reactive.watcher := by
  refine ⟨?_, ?_, ?_⟩
  · obtain ⟨parts, factory, built⟩ := exists_built read done
    exact ⟨parts.body, factory, built.isFactory, built.code, built.tallyAll_isMention read done⟩
  · intro moment visits stopped
    have settled := settled_of_visits read visits
    rw [settled.image_eq]
    exact image_of_isStopped settled.placed stopped
  · exact exists_watchers read done

/-- The only marker of this function turns into a check stop. -/
theorem compile_markers_first :
    ∃ program compiled body factory,
      readProgram (markCheckStops "function f()\x7b\n// !check-stop\n\x7d") = .ok program ∧
        compile { code := "function f()\x7b\n// !check-stop\n\x7d" } = .ok compiled ∧
          IsFactory {} body factory ∧
            compiled.code = { program with statements := [factory] : Program }.print ∧
              Node.tallyAll isMention body = 0 := by
  have checked :
      (readProgram (markCheckStops "function f()\x7b\n// !check-stop\n\x7d")).toOption.any
        (fun program =>
          (program.statements.filter isImport).isEmpty &&
            authoredStopsAll (Scope.Root.scan program.statements).needsDestroyHook
              program.statements == 1 &&
            Node.tallyAll isMention
              (program.statements.flatMap
                (share .plain (Scope.Root.scan program.statements))) == 1) := by
    decide +kernel
  have compiles :
      (compile { code := "function f()\x7b\n// !check-stop\n\x7d" }).toOption.any
        (fun _ => true) := by
    decide +kernel
  obtain ⟨program, read, checked⟩ := Outcome.exists_of_any checked
  obtain ⟨compiled, done, _⟩ := Outcome.exists_of_any compiles
  simp only [Bool.and_eq_true, List.isEmpty_iff, beq_iff_eq] at checked
  obtain ⟨⟨noImport, stopped⟩, mentioned⟩ := checked
  obtain ⟨⟨body, factory, isFactory, code, counted⟩, _⟩ :=
    @compile_markers { code := "function f()\x7b\n// !check-stop\n\x7d" } program compiled read
      done
  rw [noImport, List.nil_append] at code
  rw [stopped, mentioned] at counted
  exact ⟨program, compiled, body, factory, read, done, isFactory, code, by omega⟩

/-- The second marker of this function is left. -/
theorem compile_second_marker :
    ∃ program compiled body factory,
      readProgram (markCheckStops "function f()\x7b\n// !check-stop\n// !check-stop\n\x7d") =
          .ok program ∧
        compile { code := "function f()\x7b\n// !check-stop\n// !check-stop\n\x7d" } =
            .ok compiled ∧
          IsFactory {} body factory ∧
            compiled.code = { program with statements := [factory] : Program }.print ∧
              Node.tallyAll isMention body = 1 := by
  have checked :
      (readProgram
          (markCheckStops "function f()\x7b\n// !check-stop\n// !check-stop\n\x7d")).toOption.any
        (fun program =>
          (program.statements.filter isImport).isEmpty &&
            authoredStopsAll (Scope.Root.scan program.statements).needsDestroyHook
              program.statements == 1 &&
            Node.tallyAll isMention
              (program.statements.flatMap
                (share .plain (Scope.Root.scan program.statements))) == 2) := by
    decide +kernel
  have compiles :
      (compile { code := "function f()\x7b\n// !check-stop\n// !check-stop\n\x7d" }).toOption.any
        (fun _ => true) := by
    decide +kernel
  obtain ⟨program, read, checked⟩ := Outcome.exists_of_any checked
  obtain ⟨compiled, done, _⟩ := Outcome.exists_of_any compiles
  simp only [Bool.and_eq_true, List.isEmpty_iff, beq_iff_eq] at checked
  obtain ⟨⟨noImport, stopped⟩, mentioned⟩ := checked
  obtain ⟨parts, factory, built⟩ :=
    @exists_built { code := "function f()\x7b\n// !check-stop\n// !check-stop\n\x7d" } program
      compiled read done
  have counted := built.tallyAll_isMention read done
  have code := built.code
  rw [noImport, List.nil_append] at code
  rw [stopped, mentioned] at counted
  exact ⟨program, compiled, parts.body, factory, read, done, built.isFactory, code, by omega⟩

end Reactivity.Component
