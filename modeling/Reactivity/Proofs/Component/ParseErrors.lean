import Reactivity.Proofs.Component.Checks

namespace Reactivity

open Script Refresh

/-!
# Parse errors

A parse error is reported of a script that is not read. There is one more way to get it:
the factory function is read from a text with its name in it, and the check of that name
lets through words that name no function. A script that compiles under another name then
gets a parse error that is not its own.
-/

/-- The check is about a statement: it is reported neither as a parse error nor as a wrong name. -/
def Check.isAboutStatement
    (check : Check) :
    Bool :=
  check.code != LanguageRule.moduleSource.code && check.code != LanguageRule.componentName.code

namespace Reactive

theorem sequenceChecks_areAboutStatements
    (source : List Char)
    (items : List Node) :
    ∀ check ∈ sequenceChecks source items, check.isAboutStatement := by
  intro check member
  simp only [sequenceChecks, List.mem_cons, List.mem_map] at member
  rcases member with rfl | rfl | rfl | ⟨value, _, rfl⟩ <;> rfl

theorem expressionChecks_areAboutStatements
    (source : List Char)
    (value : Node) :
    ∀ check ∈ expressionChecks source value, check.isAboutStatement := by
  unfold expressionChecks
  split
  · intro check member
    simp only [assignmentChecks, List.mem_cons, List.not_mem_nil, or_false] at member
    rcases member with rfl | rfl | rfl <;> rfl
  · exact sequenceChecks_areAboutStatements source _
  · intro check member
    rw [List.mem_singleton.mp member]
    rfl

theorem bodyChecks_areAboutStatements
    (source : List Char)
    (body : Node) :
    ∀ check ∈ bodyChecks source body, check.isAboutStatement := by
  unfold bodyChecks
  split
  · exact expressionChecks_areAboutStatements source _
  · intro check member
    rw [List.mem_singleton.mp member]
    rfl

end Reactive

namespace Component

/-- The script compiles with some options. -/
def Compiles
    (code : String) :
    Prop :=
  ∃ options compiled, compile ⟨code, options⟩ = .ok compiled

variable {code : String}

theorem statementChecks_areAboutStatements
    (source : List Char)
    (statement : Node) :
    ∀ check ∈ statementChecks source statement, check.isAboutStatement := by
  unfold statementChecks
  split
  · intro check member
    simp only [exportChecks, List.mem_cons, List.not_mem_nil, or_false] at member
    rcases member with rfl | rfl <;> rfl
  · intro check member
    rw [List.mem_singleton.mp member]
    rfl
  · split
    · exact Reactive.bodyChecks_areAboutStatements source _
    · simp
  · simp

/-- The refusal of a statement is no parse error, and not for the name of the component. -/
theorem rule_of_refusal?
    {source : List Char}
    {scope : Scope.Root}
    {statement : Node}
    {failure : Failure}
    (refused : refusal? source scope statement = some failure) :
    failure.cause.rule.code ≠ LanguageRule.moduleSource.code ∧
      failure.cause.rule.code ≠ LanguageRule.componentName.code := by
  have reported := map_report_refusal? source scope statement
  rw [refused, Option.map_some, statementReport?, eq_comm, Option.map_eq_some_iff] at reported
  obtain ⟨check, broken, reported⟩ := reported
  have isAbout := statementChecks_areAboutStatements source statement check
    (List.mem_of_find?_eq_some broken)
  have sameCode : check.code = failure.cause.rule.code := congrArg Report.code reported
  rw [Check.isAboutStatement, sameCode, Bool.and_eq_true, bne_iff_ne, bne_iff_ne] at isAbout
  exact isAbout

/-- A script that is not read gets a parse error with any options. -/
theorem report?_of_unread
    (unread : ∀ program, readProgram (markCheckStops code) ≠ .ok program)
    (options : Options) :
    (compile ⟨code, options⟩).report? = some (Failure.report { cause := .malformed }) := by
  have fails : readProgram (markCheckStops code) = .fail .malformed := by
    unfold readProgram at unread ⊢
    cases found : readProgram? (markCheckStops code) with
    | none => rfl
    | some program =>
        rw [found] at unread
        exact (unread program rfl).elim
  unfold compile
  dsimp only
  rw [fails]
  rfl

/-- A refused statement is reported with any options. -/
theorem report?_of_refused
    {program : Program}
    {failure : Failure}
    (read : readProgram (markCheckStops code) = .ok program)
    (refused :
      program.statements.findSome?
        (refusal? (markCheckStops code).toList (Scope.Root.scan program.statements)) =
          some failure)
    (options : Options) :
    (compile ⟨code, options⟩).report? = some failure.report ∧
      failure.cause.rule.code ≠ LanguageRule.moduleSource.code ∧
        failure.cause.rule.code ≠ LanguageRule.componentName.code := by
  obtain ⟨_, statement, _, _, isRefused, _⟩ := List.findSome?_eq_some_iff.mp refused
  refine ⟨?_, rule_of_refusal? isRefused⟩
  rw [@compile_of_refusal ⟨code, options⟩ program failure read refused]
  rfl

/-- What is wrong with the name of a component. -/
def nameCause?
    (name : String) :
    Option Cause :=
  if Text.isSimpleName name then
    if isFunctionName name then none else some .malformed
  else
    some (.wrongComponentName name)

/-- The parts of a component become a module unless something is wrong with its name. -/
theorem failure?_moduleStatements
    (options : Options)
    (parts : Parts) :
    (moduleStatements options parts).failure? =
      (nameCause? options.name).map (fun cause => { cause }) := by
  unfold moduleStatements nameCause?
  split
  · next simple =>
      cases named : isFunctionName options.name with
      | true =>
          obtain ⟨shell, read, _⟩ := readStatement_shellText simple named
          rw [read]
          rfl
      | false =>
          have unread : readProgram (shellText options) = .fail .malformed := by
            cases read : readProgram (shellText options) with
            | ok program =>
                rw [isFunctionName_of_readProgram simple read] at named
                cases named
            | error failure =>
                unfold readProgram at read
                split at read
                · cases read
                · exact read.symm
          unfold readStatement
          rw [unread]
          rfl
  · rfl

/-- The report of a script that is read without a refused statement is about the name. -/
theorem report?_of_accepted
    {program : Program}
    (read : readProgram (markCheckStops code) = .ok program)
    (accepted :
      ∀ statement ∈ program.statements,
        refusal? (markCheckStops code).toList (Scope.Root.scan program.statements) statement =
          none)
    (options : Options) :
    (compile ⟨code, options⟩).report? =
      (nameCause? options.name).map (fun cause => Failure.report { cause }) := by
  obtain ⟨parts, fails⟩ := compile_of_accepted read accepted options
  rw [Outcome.report?, fails, failure?_moduleStatements, Option.map_map]
  rfl

/-- A computation succeeds if there is nothing to report. -/
theorem exists_ok_iff
    {α : Type}
    {outcome : Outcome α} :
    (∃ value, outcome = .ok value) ↔ outcome.report? = none := by
  cases outcome with
  | error failure => simp [Outcome.report?, Outcome.failure?]
  | ok value => simp [Outcome.report?, Outcome.failure?]

/-- A script compiles with some options if it is read without a refused statement. -/
theorem compiles_of_accepted
    {program : Program}
    (read : readProgram (markCheckStops code) = .ok program)
    (accepted :
      ∀ statement ∈ program.statements,
        refusal? (markCheckStops code).toList (Scope.Root.scan program.statements) statement =
          none) :
    Compiles code := by
  have unreported := report?_of_accepted read accepted {}
  have isGood : nameCause? ({} : Options).name = none := by
    decide +kernel
  rw [isGood] at unreported
  exact ⟨{}, exists_ok_iff.mpr unreported⟩

/-- What is reported of a script that does not compile, whatever its options are. -/
theorem report?_of_not_compiles
    (fails : ¬ Compiles code)
    (options : Options) :
    ∃ report, (compile ⟨code, options⟩).report? = some report ∧
      report.code ≠ LanguageRule.componentName.code ∧
      (report.code = LanguageRule.moduleSource.code ↔
        ∀ program, readProgram (markCheckStops code) ≠ .ok program) := by
  cases read : readProgram (markCheckStops code) with
  | error failure =>
      have unread (program : Program) : readProgram (markCheckStops code) ≠ .ok program := by
        rw [read]
        exact fun same => nomatch same
      refine ⟨_, report?_of_unread unread options, by decide, ?_⟩
      simp [Failure.report, Cause.rule]
  | ok program =>
      cases refused :
          program.statements.findSome?
            (refusal? (markCheckStops code).toList (Scope.Root.scan program.statements)) with
      | none =>
          exact (fails (compiles_of_accepted read (List.findSome?_eq_none_iff.mp refused))).elim
      | some failure =>
          obtain ⟨reported, noParse, noName⟩ := report?_of_refused read refused options
          refine ⟨_, reported, noName, fun isParse => (noParse isParse).elim, fun unread => ?_⟩
          exact (unread program rfl).elim

/-- What is reported of a script that compiles with some options is about the name. -/
theorem report?_of_compiles
    (compiles : Compiles code)
    (options : Options) :
    (∃ program, readProgram (markCheckStops code) = .ok program) ∧
      (compile ⟨code, options⟩).report? =
        (nameCause? options.name).map (fun cause => Failure.report { cause }) := by
  obtain ⟨good, compiled, done⟩ := compiles
  cases read : readProgram (markCheckStops code) with
  | error failure =>
      have unread (program : Program) : readProgram (markCheckStops code) ≠ .ok program := by
        rw [read]
        exact fun same => nomatch same
      have reported := report?_of_unread unread good
      rw [done] at reported
      cases reported
  | ok program =>
      refine ⟨⟨program, rfl⟩, report?_of_accepted read ?_ options⟩
      cases refused :
          program.statements.findSome?
            (refusal? (markCheckStops code).toList (Scope.Root.scan program.statements)) with
      | none => exact List.findSome?_eq_none_iff.mp refused
      | some failure =>
          have reported := (report?_of_refused read refused good).1
          rw [done] at reported
          cases reported

/--
A parse error is reported of the scripts that are not read, and of those that compile under
another name if theirs is simple but starts with a digit or is a reserved word. A name that
is not simple is reported as such, of the scripts that compile under another name, and
under the other names they compile.
-/
theorem compile_parse_errors
    (input : Input) :
    ((compile input).report?.any Report.isParseError ↔
        (∀ program, readProgram (markCheckStops input.code) ≠ .ok program) ∨
          Compiles input.code ∧ Text.isSimpleName input.options.name ∧
            isFunctionName input.options.name = false) ∧
      ((compile input).report?.map Report.code = some "R-ERR-OPTION-001" ↔
        Compiles input.code ∧ Text.isSimpleName input.options.name = false) ∧
      ((∃ compiled, compile input = .ok compiled) ↔
        Compiles input.code ∧ Text.isSimpleName input.options.name ∧
          isFunctionName input.options.name) := by
  obtain ⟨code, options⟩ := input
  by_cases compiles : Compiles code
  · obtain ⟨⟨program, read⟩, reported⟩ := report?_of_compiles compiles options
    have isRead : ¬ ∀ program, readProgram (markCheckStops code) ≠ .ok program :=
      fun unread => unread program read
    rw [exists_ok_iff, reported, nameCause?]
    simp only [compiles, isRead, false_or, true_and]
    cases Text.isSimpleName options.name with
    | false => simp [Failure.report, Cause.rule, Report.isParseError, LanguageRule.code]
    | true =>
        cases isFunctionName options.name <;>
          simp [Failure.report, Cause.rule, Report.isParseError, LanguageRule.code]
  · obtain ⟨report, reported, noName, isParse⟩ := report?_of_not_compiles compiles options
    rw [exists_ok_iff, reported, Option.any_some, Report.isParseError, beq_iff_eq, isParse]
    have noOption : report.code ≠ "R-ERR-OPTION-001" := noName
    simp [compiles, noOption]

/-- This script compiles, but under these names it gets a parse error. -/
theorem compile_unusable_names :
    (∃ compiled, compile ⟨"let a", {}⟩ = .ok compiled) ∧
      ∀ name ∈ ["1a", "class", "await"],
        (compile ⟨"let a", { name }⟩).report? =
          some
            { code := "R-ERR-PARSE-001"
              message := "Unexpected token"
              context := none } := by
  have checked :
      (readProgram (markCheckStops "let a")).toOption.any (fun program =>
        program.statements.all (fun statement =>
          (refusal? (markCheckStops "let a").toList (Scope.Root.scan program.statements)
            statement).isNone)) := by
    decide +kernel
  have wrong : ∀ name ∈ ["1a", "class", "await"], nameCause? name = some .malformed := by
    decide +kernel
  have right : nameCause? ({} : Options).name = none := by
    decide +kernel
  obtain ⟨program, read, accepted⟩ := Outcome.exists_of_any checked
  simp only [List.all_eq_true, Option.isNone_iff_eq_none] at accepted
  have reported := report?_of_accepted read accepted
  refine ⟨exists_ok_iff.mpr ?_, fun name member => ?_⟩
  · rw [reported {}, right]
    rfl
  · rw [reported { name }, wrong name member]
    rfl

end Component

end Reactivity
