import Reactivity.Proofs.Component.Body
import Reactivity.Proofs.Component.Refusal

namespace Reactivity.Component

open Script Refresh

/-!
# Exports

A named export declares properties or is refused. A default export and an export of all
names of another module are not: like every statement without a meaning of its own, they
pass into the factory function. So the factory function holds an import or export exactly
if a statement that passes into it does.
-/

/-- The statement exports by name: a declaration, or a list of names. -/
def isNamedExport
    (statement : Node) :
    Bool :=
  match statement.form with
  | .exportDeclaration | .exportList _ _ _ => true
  | _ => false

/-- The statement exports variables that it declares by plain names. -/
def declaresProps :
    Node →
    Bool
  | .mk .exportDeclaration _ _ [.mk (.declaration _) _ _ declarators] =>
      declarators.all (fun declarator => (Draft.declaratorName? declarator).isSome)
  | _ => false

/-- The form is that of an import or export, of whatever kind. -/
def isModuleItem :
    Form →
    Bool
  | .importing _ _ _ | .exportDeclaration | .exportList _ _ _ | .exportDefault
  | .exportAll _ _ _ => true
  | _ => false

/-- An import or export occurs in the statement. -/
def HoldsModuleItem
    (statement : Node) :
    Prop :=
  ∃ inner, statement.Holds inner ∧ isModuleItem inner.form

theorem isBlind_isModuleItem :
    IsBlind isModuleItem where
  callable form callable := by
    cases form with
    | function | arrow => rfl
    | _ => cases callable
  body _ := rfl
  value := rfl
  returned := rfl
  call := rfl
  name := rfl
  argument := rfl

/-- An import or export occurs in a statement just when one is counted there. -/
theorem holdsModuleItem_iff
    {statement : Node} :
    HoldsModuleItem statement ↔ statement.tally isModuleItem ≠ 0 := by
  rw [Ne, Node.tally_eq_zero_iff]
  simp [HoldsModuleItem]

/-- What a statement contributes besides itself holds neither imports nor exports. -/
theorem tallyAll_extras
    (scope : Scope.Root)
    (statement : Node) :
    Node.tallyAll isModuleItem (extras scope statement) = 0 := by
  rw [Node.tallyAll_eq_zero_iff]
  intro node member
  rw [extras, List.mem_append, List.mem_map, List.mem_map] at member
  rcases member with ⟨name, _, rfl⟩ | ⟨name, _, rfl⟩
  · simp [registration, Build.statement, Build.call, Build.name, Build.member, Build.orEmptyObject,
      Build.emptyObject, Build.text, Build.arrowValue, Build.arrowBlock, Build.assign, Build.target,
      Build.parameters, Build.body, Node.expression, Node.statement, Node.part, componentValue,
      propsValue, optionValue, refreshStatement, callStatement, isModuleItem]
  · rfl

variable
  {input : Input}
  {program : Program}
  {compiled : Compiled}

/-- The body of a factory function holds an import or export if a statement brings it in. -/
theorem Built.holdsModuleItem_iff
    {parts : Parts}
    {factory : Node}
    (built : Built input program compiled parts factory)
    (read : readProgram (markCheckStops input.code) = .ok program) :
    (∃ statement ∈ parts.body, HoldsModuleItem statement) ↔
      ∃ statement ∈ program.statements, ∃ passed,
        authored? statement = some passed ∧ HoldsModuleItem passed := by
  have kept :
      ∀ statement ∈ program.statements,
        authoredTally isModuleItem
            (image (Scope.Root.scan program.statements).needsDestroyHook [] statement) =
          authoredTally isModuleItem statement :=
    fun statement member =>
      authoredTally_image isBlind_isModuleItem _ (readProgram_stands read statement member)
  have counted :
      Node.tallyAll isModuleItem parts.body = 0 ↔
        ∀ statement ∈ program.statements, authoredTally isModuleItem statement = 0 := by
    rw [built.layout.tallyAll_body (by decide +kernel), inject_eq read,
      Node.tallyAll_eq_zero_iff, List.forall_mem_flatMap]
    simp only [List.forall_mem_map, ← Node.tallyAll_eq_zero_iff, tallyAll_share, tallyAll_extras,
      Nat.add_zero]
    exact forall₂_congr (fun statement member => by rw [kept statement member])
  have passes (statement : Node) :
      authoredTally isModuleItem statement = 0 ↔
        ∀ passed, authored? statement = some passed → ¬ HoldsModuleItem passed := by
    simp only [Component.holdsModuleItem_iff, authoredTally, not_not]
    cases authored? statement <;> simp
  have negated := not_congr counted
  simpa [Node.tallyAll_eq_zero_iff, passes, Component.holdsModuleItem_iff] using negated

/-- A named export that declares no properties is refused. -/
theorem refusal?_of_wrongExport
    (source : List Char)
    (scope : Scope.Root)
    {statement : Node}
    (wellFormed : statement.isWellFormed)
    (isExport : isNamedExport statement)
    (noProps : declaresProps statement = false) :
    ∃ cause,
      cause.rule = .exportedProps ∧
        refusal? source scope statement = some ⟨cause, some (statement.span.text source)⟩ := by
  obtain ⟨form, role, span, children⟩ := statement
  cases form with
  | exportList entries module attributes =>
      exact ⟨.wrongExport, rfl, rfl⟩
  | exportDeclaration =>
      have fits := (Node.isWellFormed_mk.mp wellFormed).1
      obtain ⟨⟨inner, innerRole, innerSpan, declarators⟩, rfl⟩ :=
        List.length_eq_one_iff.mp (beq_iff_eq.mp fits)
      cases inner with
      | declaration keyword =>
          refine ⟨.patternExport, rfl, ?_⟩
          have unnamed :
              declarators.all (fun declarator => (Draft.declaratorName? declarator).isSome) =
                false :=
            noProps
          simp [refusal?, exportFault?, unnamed, Node.span]
      | _ =>
          exact ⟨.wrongExport, rfl, rfl⟩
  | _ =>
      cases isExport

/--
What becomes of the exports of a script.

A named export that declares no properties is refused, unless a statement before it is. A
script that compiles becomes a module of its imports and one function declaration, exported
if that is wished; the body of that function holds an import or export exactly if a
statement that passes into it does, so a default export stays where it cannot stand.
-/
theorem compile_exports
    (read : readProgram (markCheckStops input.code) = .ok program) :
    (∀ earlier statement later,
      program.statements = earlier ++ statement :: later →
        isNamedExport statement → declaresProps statement = false →
          ∃ failure,
            failure.report.code = "R-ERR-EXPORT-001" ∧
              failure.context =
                some (statement.span.text (markCheckStops input.code).toList) ∧
              compile input =
                .error
                  ((earlier.findSome? (refusal? (markCheckStops input.code).toList
                    (Scope.Root.scan program.statements))).getD failure)) ∧
      ∀ compiled,
        compile input = .ok compiled →
          ∃ body factory,
            IsFactory input.options body factory ∧
              compiled.code =
                { program with
                  statements := program.statements.filter isImport ++ [factory] : Program }.print ∧
              ((∃ statement ∈ body, HoldsModuleItem statement) ↔
                ∃ statement ∈ program.statements, ∃ passed,
                  authored? statement = some passed ∧ HoldsModuleItem passed) := by
  constructor
  · intro earlier statement later split isExport noProps
    have stands := readProgram_stands read statement (by simp [split])
    obtain ⟨cause, isRule, refused⟩ :=
      refusal?_of_wrongExport (markCheckStops input.code).toList
        (Scope.Root.scan program.statements) stands.wellFormed isExport noProps
    refine ⟨⟨cause, some (statement.span.text (markCheckStops input.code).toList)⟩, ?_, rfl,
      compile_of_refusal read ?_⟩
    · rw [Failure.report, isRule]
      rfl
    · rw [split, List.findSome?_append, List.findSome?_cons, ← split, refused]
      cases earlier.findSome? (refusal? (markCheckStops input.code).toList
        (Scope.Root.scan program.statements)) <;> rfl
  · intro compiled done
    obtain ⟨parts, factory, built⟩ := exists_built read done
    exact ⟨parts.body, factory, built.isFactory, built.code, built.holdsModuleItem_iff read⟩

/-- The second export of this script is refused: it declares a function. -/
theorem compile_exports_function :
    ∃ program first second failure,
      readProgram "export let a;export function f()\x7b\x7d" = .ok program ∧
        program.statements = [first, second] ∧
          isNamedExport second ∧
            declaresProps second = false ∧
              compile { code := "export let a;export function f()\x7b\x7d" } = .error failure ∧
                failure.report.code = "R-ERR-EXPORT-001" ∧
                  failure.context = some "export function f()\x7b\x7d" := by
  have unmarked :
      markCheckStops "export let a;export function f()\x7b\x7d" =
        "export let a;export function f()\x7b\x7d" := by
    decide +kernel
  have checked :
      (readProgram "export let a;export function f()\x7b\x7d").toOption.any (fun program =>
        program.statements.map (fun statement =>
            (isNamedExport statement && !declaresProps statement,
              (refusal? "export let a;export function f()\x7b\x7d".toList
                (Scope.Root.scan program.statements) statement).isSome,
              statement.span.text "export let a;export function f()\x7b\x7d".toList)) ==
          [(false, false, "export let a;"), (true, true, "export function f()\x7b\x7d")]) := by
    decide +kernel
  obtain ⟨program, read, checked⟩ := Outcome.exists_of_any checked
  obtain ⟨first, _, split, atFirst, others⟩ := List.map_eq_cons_iff.mp (beq_iff_eq.mp checked)
  obtain ⟨second, _, rfl, atSecond, others⟩ := List.map_eq_cons_iff.mp others
  obtain rfl := List.map_eq_nil_iff.mp others
  simp only [Prod.mk.injEq, Bool.and_eq_true, Bool.not_eq_true'] at atFirst atSecond
  obtain ⟨⟨isExport, noProps⟩, _, text⟩ := atSecond
  have readMarked :
      readProgram (markCheckStops "export let a;export function f()\x7b\x7d") = .ok program := by
    rw [unmarked]
    exact read
  have exports :=
    @compile_exports { code := "export let a;export function f()\x7b\x7d" } program readMarked
  obtain ⟨failure, code, context, failed⟩ :=
    exports.1 [first] second [] split isExport noProps
  dsimp only at failed context
  rw [unmarked] at failed context
  have accepted :
      [first].findSome?
          (refusal? "export let a;export function f()\x7b\x7d".toList
            (Scope.Root.scan program.statements)) =
        none := by
    simpa using atFirst.2.1
  rw [accepted, Option.getD_none] at failed
  exact ⟨program, first, second, failure, read, split, isExport, noProps, failed, code,
    context.trans (congrArg some text)⟩

/-- A default export compiles, and passes into the factory function. -/
theorem compile_default_export :
    ∃ program compiled body factory,
      readProgram "export default 1" = .ok program ∧
        compile { code := "export default 1" } = .ok compiled ∧
          IsFactory {} body factory ∧
            compiled.code = { program with statements := [factory] : Program }.print ∧
              ∃ statement ∈ body, HoldsModuleItem statement := by
  have unmarked : markCheckStops "export default 1" = "export default 1" := by
    decide +kernel
  have checked :
      (readProgram "export default 1").toOption.any (fun program =>
        program.statements.map (fun statement =>
            ((authored? statement).map Node.form, isImport statement)) ==
          [(some .exportDefault, false)]) := by
    decide +kernel
  have compiles : (compile { code := "export default 1" }).toOption.any (fun _ => true) := by
    decide +kernel
  obtain ⟨program, read, checked⟩ := Outcome.exists_of_any checked
  obtain ⟨compiled, done, _⟩ := Outcome.exists_of_any compiles
  obtain ⟨statement, _, split, atStatement, others⟩ :=
    List.map_eq_cons_iff.mp (beq_iff_eq.mp checked)
  obtain rfl := List.map_eq_nil_iff.mp others
  simp only [Prod.mk.injEq, Option.map_eq_some_iff] at atStatement
  obtain ⟨⟨passed, isPassed, isExport⟩, noImport⟩ := atStatement
  have readMarked : readProgram (markCheckStops "export default 1") = .ok program := by
    rw [unmarked]
    exact read
  obtain ⟨parts, factory, built⟩ :=
    @exists_built { code := "export default 1" } program compiled readMarked done
  refine ⟨program, compiled, parts.body, factory, read, done, built.isFactory, ?_, ?_⟩
  · rw [built.code, split]
    simp [noImport]
  · refine (built.holdsModuleItem_iff readMarked).mpr ?_
    exact ⟨statement, by simp [split], passed, isPassed, passed, .whole passed,
      by rw [isExport]; rfl⟩

end Reactivity.Component
