namespace Reactivity

/-!
# Failures

A failure is a cause together with the source text of the statement it blames,
when there is one. A cause breaks one rule of the component language; the rule
has a stable code and a sentence that states it.

A `Report` is the outward form of a failure: code, message and context as text.
-/

/-- The rules of the component language that a script or option can break. -/
inductive LanguageRule where
  | moduleSource
  | exportedProps
  | reactiveStatement
  | reactiveOperator
  | reactiveTarget
  | watchedValue
  | watcherCallback
  | watcherDependencies
  | wrappedExpression
  | componentName
  deriving Repr, DecidableEq

namespace LanguageRule

/-- All rules, in the order of their codes. -/
def all : List LanguageRule :=
  [.moduleSource, .exportedProps, .reactiveStatement, .reactiveOperator,
    .reactiveTarget, .watchedValue, .watcherCallback, .watcherDependencies,
    .wrappedExpression, .componentName]

/-- The stable code of a rule. -/
def code :
    LanguageRule →
    String
  | .moduleSource => "R-ERR-PARSE-001"
  | .exportedProps => "R-ERR-EXPORT-001"
  | .reactiveStatement => "R-ERR-WATCH-001"
  | .reactiveOperator => "R-ERR-WATCH-002"
  | .reactiveTarget => "R-ERR-WATCH-003"
  | .watchedValue => "R-ERR-WATCH-004"
  | .watcherCallback => "R-ERR-WATCH-005"
  | .watcherDependencies => "R-ERR-WATCH-006"
  | .wrappedExpression => "R-ERR-EXPR-001"
  | .componentName => "R-ERR-OPTION-001"

/-- The sentence that states a rule. -/
def statement :
    LanguageRule →
    String
  | .moduleSource => "Script blocks must be valid ES module source."
  | .exportedProps =>
      "Only `export let`/`export const`/`export var` of plain identifiers become component props."
  | .reactiveStatement => "A `$:` statement must be a single expression statement."
  | .reactiveOperator => "Reactive assignments use plain `=`."
  | .reactiveTarget => "Reactive assignments target an identifier or a member path."
  | .watchedValue => "Watched values must be identifiers, member paths or expressions."
  | .watcherCallback => "The last element of a `$:` sequence must be a function."
  | .watcherDependencies =>
      "A `$:` sequence needs at least one dependency before its callback."
  | .wrappedExpression =>
      "Template expressions are wrapped in exactly one `\x7b...\x7d` pair."
  | .componentName => "The component factory name must be a bare identifier."

/-- The rule with a given code. -/
def ofCode?
    (code : String) :
    Option LanguageRule :=
  all.find? (fun rule => rule.code == code)

end LanguageRule

/-- Why a script, an expression or an option was refused. -/
inductive Cause where
  /-- The text is not a module. -/
  | malformed
  /-- A snippet holds no statement or more than one. -/
  | notSingleStatement (snippet : String)
  /-- An export that declares no variables. -/
  | wrongExport
  /-- An exported variable declaration with a destructuring pattern. -/
  | patternExport
  /-- A reactive statement whose body is not an expression statement. -/
  | reactiveBody
  /-- A reactive assignment with a compound operator. -/
  | wrongOperator (symbol : String)
  /-- A reactive assignment to a pattern. -/
  | wrongTarget (source : String)
  /-- A watched value that can never change. -/
  | constantValue (source : String)
  /-- A reactive sequence that does not end in a function. -/
  | wrongCallback (source : String)
  /-- A reactive sequence without any element. -/
  | emptySequence
  /-- A reactive sequence with a callback only. -/
  | noDependencies
  /-- A reactive expression that is neither an assignment nor a sequence. -/
  | wrongReactive (source : String)
  /-- A template expression without any text. -/
  | emptyExpression
  /-- A template expression without its pair of braces. -/
  | unwrappedExpression (source : String)
  /-- A component name that is not a simple name. -/
  | wrongComponentName (name : String)
  deriving Repr, DecidableEq

namespace Cause

/-- The rule that a cause breaks. -/
def rule :
    Cause →
    LanguageRule
  | .malformed | .notSingleStatement _ => .moduleSource
  | .wrongExport | .patternExport => .exportedProps
  | .reactiveBody | .wrongReactive _ => .reactiveStatement
  | .wrongOperator _ => .reactiveOperator
  | .wrongTarget _ => .reactiveTarget
  | .constantValue _ => .watchedValue
  | .wrongCallback _ => .watcherCallback
  | .emptySequence | .noDependencies => .watcherDependencies
  | .emptyExpression | .unwrappedExpression _ => .wrappedExpression
  | .wrongComponentName _ => .componentName

/-- The message that names a cause. -/
def message :
    Cause →
    String
  | .malformed => "Unexpected token"
  | .notSingleStatement snippet => "Expected a single statement in snippet: " ++ snippet
  | .wrongExport => "Wrong export"
  | .patternExport => "Exported props must be plain identifiers"
  | .reactiveBody => "Reactive statement must be an expression"
  | .wrongOperator symbol => "Wrong operator `" ++ symbol ++ "`"
  | .wrongTarget source => "Wrong assignment target `" ++ source ++ "`"
  | .constantValue source => "Wrong expression `" ++ source ++ "`"
  | .wrongCallback source => "Last element `" ++ source ++ "` is not a function"
  | .emptySequence => "Reactive sequence is empty"
  | .noDependencies => "Reactive callback has no dependencies"
  | .wrongReactive source => "Unsupported reactive expression `" ++ source ++ "`"
  | .emptyExpression => "Empty expression"
  | .unwrappedExpression source => "Wrong expression: " ++ source
  | .wrongComponentName name => "Wrong component name `" ++ name ++ "`"

end Cause

/-- A cause and the source text of the statement it blames. -/
structure Failure where
  cause : Cause
  context : Option String := none
  deriving Repr, DecidableEq

/-- The outward form of a failure. -/
structure Report where
  code : String
  message : String
  context : Option String := none
  deriving Repr, DecidableEq

namespace Report

/-- Blame a statement; an earlier context is replaced. -/
def withContext
    (report : Report)
    (context : String) :
    Report :=
  { report with context := some context }

/-- The sentence of the broken rule. -/
def rule
    (report : Report) :
    String :=
  match LanguageRule.ofCode? report.code with
  | some rule => rule.statement
  | none => "Unknown rule."

/-- The message, followed by the context when there is one. -/
def display
    (report : Report) :
    String :=
  match report.context with
  | some context => report.message ++ ": " ++ context
  | none => report.message

/-- The report says that a text is not a module. -/
def isParseError
    (report : Report) :
    Bool :=
  report.code == LanguageRule.moduleSource.code

end Report

/-- The outward form of a failure. -/
def Failure.report
    (failure : Failure) :
    Report where
  code := failure.cause.rule.code
  message := failure.cause.message
  context := failure.context

/-- A result, or the failure that prevented it. -/
abbrev Outcome (α : Type) := Except Failure α

/-- Fail without blaming a statement. -/
def Outcome.fail
    {α : Type}
    (cause : Cause) :
    Outcome α :=
  .error { cause := cause }

/-- Blame a statement for a failure, if there is one. -/
def Outcome.withContext
    {α : Type}
    (context : String)
    (outcome : Outcome α) :
    Outcome α :=
  outcome.mapError (fun failure => { failure with context := some context })

namespace Outcome

/-- Blame for a statement neither makes nor hides a failure. -/
theorem withContext_eq_ok
    {α : Type}
    {context : String}
    {outcome : Outcome α}
    {value : α} :
    withContext context outcome = .ok value ↔ outcome = .ok value := by
  cases outcome with
  | error failure => exact ⟨fun isOk => (nomatch isOk), fun isOk => (nomatch isOk)⟩
  | ok value => exact Iff.rfl

/-- Two computations succeed when the first does, and the second does with its value. -/
theorem bind_eq_ok
    {α β : Type}
    {first : Outcome α}
    {next : α → Outcome β}
    {value : β} :
    first >>= next = .ok value ↔ ∃ middle, first = .ok middle ∧ next middle = .ok value := by
  cases first <;> simp [bind, Except.bind]

/-- A value that is changed is there when the value before the change is. -/
theorem map_eq_ok
    {α β : Type}
    {outcome : Outcome α}
    {change : α → β}
    {value : β} :
    outcome.map change = .ok value ↔ ∃ before, outcome = .ok before ∧ change before = value := by
  cases outcome <;> simp [Except.map]

/-- A value that passes a check is there. -/
theorem exists_of_any
    {α : Type}
    {outcome : Outcome α}
    {check : α → Bool}
    (checked : outcome.toOption.any check) :
    ∃ value, outcome = .ok value ∧ check value := by
  cases outcome with
  | error failure => cases checked
  | ok value => exact ⟨value, rfl, checked⟩

/-- An outcome is a value, if it passes the check to be that value. -/
theorem eq_ok_of_any
    {α : Type}
    [DecidableEq α]
    {outcome : Outcome α}
    {value : α}
    (checked : outcome.toOption.any (· == value)) :
    outcome = .ok value := by
  obtain ⟨other, isOk, same⟩ := exists_of_any checked
  rwa [eq_of_beq same] at isOk

end Outcome

end Reactivity
