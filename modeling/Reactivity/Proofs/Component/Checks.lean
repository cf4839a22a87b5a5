import Reactivity.Proofs.Component.Refusal
import Reactivity.Proofs.Component.Shell
import Reactivity.Proofs.Watcher.Reactive

namespace Reactivity

open Script

/-!
# Checks of statements

The checks that a statement of the top level of a script has to pass, in their order, each
with what is reported when it is not passed. A script that is read compiles or fails by
these checks, and after them by the name of its component: the first check that the first
faulty statement does not pass is reported together with the text of that statement.
-/

/-- A check, and what is reported when it is not passed. -/
structure Check where
  passes : Bool
  code : String
  message : String

namespace Check

/-- The first check that is not passed. -/
def firstBroken?
    (checks : List Check) :
    Option Check :=
  checks.find? (fun check => !check.passes)

/-- The report of a check that is not passed; it may blame a statement. -/
def report
    (context : Option String)
    (check : Check) :
    Report where
  code := check.code
  message := check.message
  context := context

theorem firstBroken?_eq_none_iff
    {checks : List Check} :
    firstBroken? checks = none ↔ ∀ check ∈ checks, check.passes := by
  rw [firstBroken?, List.find?_eq_none]
  simp only [Bool.not_eq_true', Bool.not_eq_false]

end Check

namespace Outcome

variable
  {α β : Type}
  {check : Check}
  {checks others : List Check}

/-- What is reported of a computation that fails. -/
def report?
    (outcome : Outcome α) :
    Option Report :=
  outcome.failure?.map Failure.report

/-- The computation reports the first check that is not passed, and fails for nothing else. -/
def Obeys
    (outcome : Outcome α)
    (checks : List Check) :
    Prop :=
  outcome.report? = (Check.firstBroken? checks).map (Check.report none)

theorem Obeys.ok
    {value : α} :
    Obeys (.ok value) [] :=
  rfl

/-- A check that is not passed is reported, whatever would be checked behind it. -/
theorem Obeys.fail
    {cause : Cause}
    (broken : check.passes = false)
    (code : check.code = cause.rule.code)
    (message : check.message = cause.message) :
    Obeys (Outcome.fail cause : Outcome α) (check :: checks) := by
  have isFirst : Check.firstBroken? (check :: checks) = some check := by
    rw [Check.firstBroken?, List.find?_cons, broken]
    rfl
  rw [Obeys, isFirst, Option.map_some, Check.report, code, message]
  rfl

/-- A check that is passed leaves it to the others. -/
theorem Obeys.passed
    {outcome : Outcome α}
    (passes : check.passes = true)
    (obeys : outcome.Obeys checks) :
    outcome.Obeys (check :: checks) := by
  have isLater : Check.firstBroken? (check :: checks) = Check.firstBroken? checks := by
    rw [Check.firstBroken?, List.find?_cons, passes]
    rfl
  rw [Obeys, isLater]
  exact obeys

/-- Of two computations in a row, the checks of the first come first. -/
theorem Obeys.bind
    {first : Outcome α}
    {next : α → Outcome β}
    (obeys : first.Obeys checks)
    (nextObeys : ∀ value, first = .ok value → (next value).Obeys others) :
    Obeys (first >>= next) (checks ++ others) := by
  unfold Obeys Check.firstBroken? at obeys ⊢
  rw [List.find?_append]
  cases first with
  | error failure =>
      rw [Option.map_or, ← obeys]
      rfl
  | ok value =>
      rw [Option.map_or, ← obeys]
      exact nextObeys value rfl

/-- The blame for a statement is reported along with the check. -/
theorem Obeys.report?_withContext
    {outcome : Outcome α}
    (obeys : outcome.Obeys checks)
    (context : String) :
    (outcome.withContext context).report? =
      (Check.firstBroken? checks).map (Check.report (some context)) := by
  calc
    (outcome.withContext context).report?
      = outcome.report?.map (fun report => report.withContext context) := by
        rw [report?, report?, failure?_withContext, Option.map_map, Option.map_map]
        rfl
    _ = (Check.firstBroken? checks).map (Check.report (some context)) := by
        rw [obeys, Option.map_map]
        rfl

end Outcome

namespace Reactive

/-- The form is that of a variable or of a member of a value. -/
def isPath :
    Form →
    Bool
  | .identifier _ | .member _ _ | .computedMember _ | .privateMember _ _ => true
  | _ => false

/-- The check of a watched value. -/
def watchableCheck
    (source : List Char)
    (value : Node) :
    Check where
  passes := isWatchable value.form
  code := "R-ERR-WATCH-004"
  message := "Wrong expression `" ++ sourceText source value ++ "`"

/-- The checks of a reactive assignment. -/
def assignmentChecks
    (source : List Char)
    (operator : AssignmentOperator)
    (left right : Node) :
    List Check :=
  [{ passes := operator == .plain
     code := "R-ERR-WATCH-002"
     message := "Wrong operator `" ++ operator.symbol ++ "`" },
   { passes := isPath left.form
     code := "R-ERR-WATCH-003"
     message := "Wrong assignment target `" ++ sourceText source left ++ "`" },
   watchableCheck source right]

/-- The checks of a reactive sequence. -/
def sequenceChecks
    (source : List Char)
    (items : List Node) :
    List Check :=
  { passes := !items.isEmpty
    code := "R-ERR-WATCH-006"
    message := "Reactive sequence is empty" } ::
  { passes := items.getLast?.any (fun callback => isFunction callback.form)
    code := "R-ERR-WATCH-005"
    message :=
      "Last element `" ++ (items.getLast?.map (sourceText source)).getD "" ++
        "` is not a function" } ::
  { passes := !items.dropLast.isEmpty
    code := "R-ERR-WATCH-006"
    message := "Reactive callback has no dependencies" } ::
  items.dropLast.map (watchableCheck source)

/-- The checks of the expression of a reactive statement. -/
def expressionChecks
    (source : List Char) :
    Node →
    List Check
  | .mk (.assignment operator) _ _ [left, right] => assignmentChecks source operator left right
  | .mk .sequence _ _ items => sequenceChecks source items
  | value =>
      [{ passes := false
         code := "R-ERR-WATCH-001"
         message := "Unsupported reactive expression `" ++ sourceText source value ++ "`" }]

/-- The checks of the body of a reactive statement. -/
def bodyChecks
    (source : List Char) :
    Node →
    List Check
  | .mk .expressionStatement _ _ [value] => expressionChecks source value
  | _ =>
      [{ passes := false
         code := "R-ERR-WATCH-001"
         message := "Reactive statement must be an expression" }]

variable
  (source : List Char)
  (scope : Scope.Root)

theorem requireWatchable_obeys
    (value : Node) :
    (requireWatchable (takeText source) value).Obeys [watchableCheck source value] := by
  rw [requireWatchable]
  by_cases watchable : isWatchable value.form = true
  · rw [if_pos watchable]
    exact .passed watchable .ok
  · rw [if_neg watchable]
    exact .fail (Bool.not_eq_true _ ▸ watchable) rfl rfl

/-- Values are checked up to the first one that can never change. -/
theorem forM_requireWatchable_obeys
    (values : List Node) :
    (values.forM (requireWatchable (takeText source))).Obeys
      (values.map (watchableCheck source)) := by
  induction values with
  | nil =>
      exact .ok
  | cons value rest inductionHypothesis =>
      exact (requireWatchable_obeys source value).bind (fun _ _ => inductionHypothesis)

theorem ofAssignment_obeys
    (operator : AssignmentOperator)
    (left right : Node) :
    (ofAssignment (takeText source) scope operator left right).Obeys
      (assignmentChecks source operator left right) := by
  cases operator with
  | plain =>
      have targetObeys :
          (target (takeText source) scope left).Obeys
            [{ passes := isPath left.form
               code := "R-ERR-WATCH-003"
               message := "Wrong assignment target `" ++ sourceText source left ++ "`" }] := by
        unfold target
        cases left.form with
        | identifier | member | computedMember | privateMember => exact .passed rfl .ok
        | _ => exact .fail rfl rfl rfl
      refine .passed rfl (targetObeys.bind (fun _ _ => ?_))
      exact (requireWatchable_obeys source right).bind (fun _ _ => .ok)
  | combined operator =>
      exact .fail rfl rfl rfl
  | guarded operator =>
      exact .fail rfl rfl rfl

theorem ofSequence_obeys
    (items : List Node) :
    (ofSequence (takeText source) items).Obeys (sequenceChecks source items) := by
  rcases items.eq_nil_or_concat with rfl | ⟨dependencies, callback, rfl⟩
  · exact .fail rfl rfl rfl
  · have isLast : (dependencies.concat callback).getLast? = some callback := by
      simp
    have areOthers : (dependencies.concat callback).dropLast = dependencies := by
      simp
    have isOccupied : (dependencies.concat callback).isEmpty = false := by
      simp
    unfold ofSequence sequenceChecks
    rw [isLast, areOthers, isOccupied]
    refine .passed rfl ?_
    dsimp only
    by_cases callable : isFunction callback.form = true
    · rw [if_pos callable]
      refine .passed callable ?_
      cases dependencies with
      | nil =>
          exact .fail rfl rfl rfl
      | cons first rest =>
          obtain ⟨last, isEnd⟩ : ∃ last, (first :: rest).getLast? = some last :=
            ⟨_, List.getLast?_cons⟩
          rw [List.head?_cons, isEnd]
          refine .passed rfl ?_
          have made : Outcome.Obeys (tracked (takeText source) first last (first :: rest) callback)
              [] := by
            rw [tracked_takeText]
            exact .ok
          have obeys :=
            (forM_requireWatchable_obeys source (first :: rest)).bind (fun _ _ => made)
          rw [List.append_nil] at obeys
          exact obeys
    · rw [if_neg callable]
      exact .fail (Bool.not_eq_true _ ▸ callable) rfl rfl

theorem ofExpression_obeys
    (value : Node) :
    (ofExpression (takeText source) scope value).Obeys (expressionChecks source value) := by
  obtain ⟨form, role, span, children⟩ := value
  cases form with
  | assignment operator =>
      rcases children with _ | ⟨left, _ | ⟨right, _ | ⟨third, others⟩⟩⟩
      · exact .fail rfl rfl rfl
      · exact .fail rfl rfl rfl
      · exact ofAssignment_obeys source scope operator left right
      · exact .fail rfl rfl rfl
  | sequence =>
      exact ofSequence_obeys source children
  | _ =>
      exact .fail rfl rfl rfl

/-- A reactive statement is refused for the first check that it does not pass. -/
theorem ofBody_obeys
    (body : Node) :
    (ofBody source scope body).Obeys (bodyChecks source body) := by
  obtain ⟨form, role, span, children⟩ := body
  cases form with
  | expressionStatement =>
      rcases children with _ | ⟨value, _ | ⟨second, others⟩⟩
      · exact .fail rfl rfl rfl
      · exact ofExpression_obeys source scope value
      · exact .fail rfl rfl rfl
  | _ =>
      exact .fail rfl rfl rfl

end Reactive

namespace Component

open Refresh

/-- The form is that of a variable declaration. -/
def declaresVariables :
    Form →
    Bool
  | .declaration _ => true
  | _ => false

/-- The checks of an exported declaration. -/
def exportChecks
    (declaration : Node) :
    List Check :=
  [{ passes := declaresVariables declaration.form
     code := "R-ERR-EXPORT-001"
     message := "Wrong export" },
   { passes :=
       declaration.children.all (fun declarator => (Draft.declaratorName? declarator).isSome)
     code := "R-ERR-EXPORT-001"
     message := "Exported props must be plain identifiers" }]

/-- The checks of a statement of the top level. -/
def statementChecks
    (source : List Char) :
    Node →
    List Check
  | .mk .exportDeclaration _ _ [declaration] => exportChecks declaration
  | .mk (.exportList _ _ _) _ _ _ =>
      [{ passes := false, code := "R-ERR-EXPORT-001", message := "Wrong export" }]
  | .mk (.labeled label) _ _ [body] =>
      if label == reactiveLabel then
        Reactive.bodyChecks source body
      else
        []
  | _ => []

/-- What is reported of a statement; it blames the statement. -/
def statementReport?
    (source : List Char)
    (statement : Node) :
    Option Report :=
  (Check.firstBroken? (statementChecks source statement)).map
    (Check.report (some (statement.span.text source)))

variable
  (source : List Char)
  (scope : Scope.Root)

/-- An exported declaration is refused for the first check that it does not pass. -/
theorem exportedProps_obeys
    (declaration : Node) :
    (Draft.exportedProps declaration).Obeys (exportChecks declaration) := by
  rw [Outcome.Obeys, Outcome.report?, Draft.failure?_exportedProps]
  unfold exportFault? exportChecks
  cases declaration.form with
  | declaration keyword =>
      dsimp only [declaresVariables]
      cases declaration.children.all
          (fun declarator => (Draft.declaratorName? declarator).isSome) with
      | true => rfl
      | false => rfl
  | _ =>
      rfl

/-- The refusal of a statement reports the first check that the statement does not pass. -/
theorem map_report_refusal?
    (statement : Node) :
    (refusal? source scope statement).map Failure.report = statementReport? source statement := by
  obtain ⟨form, role, span, children⟩ := statement
  cases form with
  | exportDeclaration =>
      rcases children with _ | ⟨declaration, _ | ⟨second, others⟩⟩
      · rfl
      · have obeys := (exportedProps_obeys declaration).report?_withContext (span.text source)
        rw [Outcome.report?, Outcome.failure?_withContext, Draft.failure?_exportedProps,
          Option.map_map, Option.map_map] at obeys
        rw [refusal?, Option.map_map]
        exact obeys
      · rfl
  | labeled label =>
      rcases children with _ | ⟨body, _ | ⟨second, others⟩⟩
      · rfl
      · dsimp only [refusal?, statementReport?, statementChecks, Node.span]
        by_cases isReactive : (label == reactiveLabel) = true
        · rw [if_pos isReactive, if_pos isReactive]
          have obeys :=
            (Reactive.ofBody_obeys source scope body).report?_withContext (span.text source)
          rw [Outcome.report?, Outcome.failure?_withContext] at obeys
          exact obeys
        · rw [if_neg isReactive, if_neg isReactive]
          rfl
      · rfl
  | _ =>
      rfl

/-- A statement that passes its checks is not refused, and the other way round. -/
theorem refusal?_eq_none_iff
    (statement : Node) :
    refusal? source scope statement = none ↔
      ∀ check ∈ statementChecks source statement, check.passes := by
  rw [← Check.firstBroken?_eq_none_iff, ← Option.map_eq_none_iff, map_report_refusal?,
    statementReport?, Option.map_eq_none_iff]

variable
  {code : String}
  {program : Program}

/-- A script without a refused statement can only fail to become a module. -/
theorem compile_of_accepted
    (read : readProgram (markCheckStops code) = .ok program)
    (accepted :
      ∀ statement ∈ program.statements,
        refusal? (markCheckStops code).toList (Scope.Root.scan program.statements) statement =
          none)
    (options : Options) :
    ∃ parts, (compile ⟨code, options⟩).failure? = (moduleStatements options parts).failure? := by
  have paired := forall₂_paired_inject (Scope.Root.scan program.statements).needsDestroyHook read
  have notMade := @failure?_ofStatements (markCheckStops code).toList
    (Scope.Root.scan program.statements) program.statements (namesFit_of_read read _)
  rw [List.findSome?_eq_none_iff.mpr accepted, (ofStatements_agree paired).failure?_eq] at notMade
  unfold compile
  dsimp only
  rw [read]
  dsimp only [bind, Except.bind]
  cases made :
      Parts.ofStatements (markCheckStops code).toList (Scope.Root.scan program.statements)
        (inject (Scope.Root.scan program.statements).needsDestroyHook program.statements).1 with
  | error failure =>
      rw [made] at notMade
      cases notMade
  | ok parts =>
      refine ⟨parts, ?_⟩
      dsimp only
      cases moduleStatements options parts with
      | error failure => rfl
      | ok statements => rfl

/--
The first error wins.

The checks of the statements of a script that is read decide, in the order of the
statements, what is reported, and with the text of which statement; the name of the
component is looked at only if all of them are passed. With a simple name under which a
factory function is read, such a script compiles. The checks of a reactive statement are
those by which its watcher is made or refused.
-/
theorem compile_reports_first_broken_check
    (read : readProgram (markCheckStops code) = .ok program) :
    (∀ options earlier statement later check,
      program.statements = earlier ++ statement :: later →
        (∀ passed ∈ earlier,
          ∀ check ∈ statementChecks (markCheckStops code).toList passed, check.passes) →
        Check.firstBroken? (statementChecks (markCheckStops code).toList statement) =
          some check →
        (compile ⟨code, options⟩).report? =
          some
            { code := check.code
              message := check.message
              context := some (statement.span.text (markCheckStops code).toList) }) ∧
      (∀ options : Options,
        (∀ statement ∈ program.statements,
          ∀ check ∈ statementChecks (markCheckStops code).toList statement, check.passes) →
        (Text.isSimpleName options.name = false →
          (compile ⟨code, options⟩).report? =
            some
              { code := "R-ERR-OPTION-001"
                message := "Wrong component name `" ++ options.name ++ "`"
                context := none }) ∧
          (Text.isSimpleName options.name →
            ∀ shell,
              readProgram ("function " ++ options.name ++ "($element, $option) \x7b\x7d") =
                .ok shell →
              ∃ compiled, compile ⟨code, options⟩ = .ok compiled)) ∧
        ∀ source scope body,
          (Reactive.ofBody source scope body).report? =
            (Check.firstBroken? (Reactive.bodyChecks source body)).map (Check.report none) := by
  refine ⟨?_, ?_, Reactive.ofBody_obeys⟩
  · intro options earlier statement later check split passed broken
    have reported :=
      map_report_refusal? (markCheckStops code).toList (Scope.Root.scan program.statements)
        statement
    rw [statementReport?, broken, Option.map_some, Option.map_eq_some_iff] at reported
    obtain ⟨failure, refused, reported⟩ := reported
    have isFirst :
        program.statements.findSome?
            (refusal? (markCheckStops code).toList (Scope.Root.scan program.statements)) =
          some failure := by
      refine List.findSome?_eq_some_iff.mpr ⟨earlier, statement, later, split, refused, ?_⟩
      intro good member
      exact (refusal?_eq_none_iff _ _ good).mpr (passed good member)
    rw [Outcome.report?, @compile_of_refusal ⟨code, options⟩ program failure read isFirst]
    exact congrArg some reported
  · intro options passed
    have accepted statement (member : statement ∈ program.statements) :=
      (refusal?_eq_none_iff (markCheckStops code).toList (Scope.Root.scan program.statements)
        statement).mpr (passed statement member)
    obtain ⟨parts, fails⟩ := compile_of_accepted read accepted options
    rw [moduleStatements] at fails
    constructor
    · intro notSimple
      rw [if_neg (ne_true_of_eq_false notSimple)] at fails
      rw [Outcome.report?, fails]
      rfl
    · intro simple shell shellRead
      have plainText :
          shellText { options with exportDefault := false } =
            "function " ++ options.name ++ "($element, $option) \x7b\x7d" := by
        simp [shellText]
      have named :=
        @isFunctionName_of_readProgram { options with exportDefault := false } shell simple
          (by rw [plainText]; exact shellRead)
      obtain ⟨function, functionRead, _⟩ := readStatement_shellText simple named
      rw [if_pos simple, functionRead] at fails
      cases compiles : compile ⟨code, options⟩ with
      | error failure =>
          rw [compiles] at fails
          cases fails
      | ok compiled =>
          exact ⟨compiled, rfl⟩

/-- The second statement of this script is refused, or else its name. -/
theorem compile_reports_constant :
    (compile ⟨"export let a;$:1", { name := "a b" }⟩).report? =
        some
          { code := "R-ERR-WATCH-001"
            message := "Unsupported reactive expression `1`"
            context := some "$:1" } ∧
      (compile ⟨"export let a;", { name := "a b" }⟩).report? =
        some
          { code := "R-ERR-OPTION-001"
            message := "Wrong component name `a b`"
            context := none } ∧
      ∃ compiled, compile ⟨"export let a;", {}⟩ = .ok compiled := by
  have faulty :
      (readProgram (markCheckStops "export let a;$:1")).toOption.any (fun program =>
        program.statements.findSome?
            (statementReport? (markCheckStops "export let a;$:1").toList) ==
          some
            { code := "R-ERR-WATCH-001"
              message := "Unsupported reactive expression `1`"
              context := some "$:1" }) := by
    decide +kernel
  have good :
      (readProgram (markCheckStops "export let a;")).toOption.any (fun program =>
        program.statements.all (fun statement =>
          (statementChecks (markCheckStops "export let a;").toList statement).all
            Check.passes)) := by
    decide +kernel
  have shell :
      (readProgram "function widget($element, $option) \x7b\x7d").toOption.any
        (fun _ => true) := by
    decide +kernel
  obtain ⟨program, read, first⟩ := Outcome.exists_of_any faulty
  obtain ⟨goodProgram, goodRead, passed⟩ := Outcome.exists_of_any good
  obtain ⟨shellProgram, shellRead, _⟩ := Outcome.exists_of_any shell
  obtain ⟨earlier, statement, later, split, reported, unreported⟩ :=
    List.findSome?_eq_some_iff.mp (beq_iff_eq.mp first)
  rw [statementReport?, Option.map_eq_some_iff] at reported
  obtain ⟨check, broken, reported⟩ := reported
  simp only [List.all_eq_true] at passed
  have passes := (compile_reports_first_broken_check goodRead).2.1
  refine ⟨?_, (passes { name := "a b" } passed).1 (by decide +kernel),
    (passes {} passed).2 (by decide +kernel) shellProgram shellRead⟩
  refine ((compile_reports_first_broken_check read).1 _ earlier statement later check split ?_
    broken).trans (congrArg some reported)
  intro good member
  rw [← Check.firstBroken?_eq_none_iff, ← Option.map_eq_none_iff]
  exact unreported good member

end Component
end Reactivity
