import Reactivity.Component.Compile
import Reactivity.Proofs.Script.Reading
import Reactivity.Proofs.Script.Single

namespace Reactivity

/-!
# Shell of a factory function

A factory function without statements is read from a text in which only the name varies.
Whether the text is read depends on the name alone, so it makes no difference whether the
function is exported. What is read is a function declaration of that name which is neither
asynchronous nor a generator, with two plain parameters and no statements.
-/

namespace Script

open Reader

/-- A factory function without statements. -/
inductive IsShell
    (role : Role)
    (word : String) :
    Node →
    Prop where
  | intro (span parametersSpan elementSpan optionSpan bodySpan : Span) :
      IsShell role word
        (.mk (.function { name := some word, isDeclaration := true }) role span
          [.mk .parameters .part parametersSpan
              [.mk (.identifier "$element") .part elementSpan [],
                .mk (.identifier "$option") .part optionSpan []],
            .mk (.body []) .part bodySpan []])

theorem IsShell.form
    {role : Role}
    {word : String}
    {node : Node}
    (isShell : IsShell role word node) :
    node.form = .function { name := some word, isDeclaration := true } := by
  cases isShell
  rfl

/-- There is nothing to settle in a factory function without statements. -/
theorem IsShell.settle?_eq
    {role : Role}
    {word : String}
    {node : Node}
    (isShell : IsShell role word node) :
    node.settle? = some node := by
  cases isShell
  rfl

namespace Grammar

variable
  {grammar inner : Grammar}
  {context : Context}
  {bound : Nat}
  {start stop : Cursor}

/-- A plain name is read as a parameter. -/
theorem run_readElement_name
    (isPattern : grammar.pattern = inner.readPattern)
    {word : String}
    (token : start.token = .word word false)
    (isNamed : isName context word)
    (noInitial : start.next.isAt "=" = false) :
    ∃ span,
      (grammar.readElement context).run start =
        some (.mk (.identifier word) .part span [], start.next) := by
  have noBracket : start.isAt "[" = false := by
    rw [Cursor.isAt, token]
    rfl
  have noBrace : start.isAt "\x7b" = false := by
    rw [Cursor.isAt, token]
    rfl
  have named : start.name? context = some word := by
    rw [Cursor.name?, token]
    exact if_pos isNamed
  refine ⟨⟨start.start, start.next.previousStop⟩, ?_⟩
  simp [readElement, isPattern, readPattern, readNamePattern, name, named, readInitial,
    noBracket, noBrace, noInitial]

/-- Two names in parentheses are read as parameters. -/
theorem run_readParameters_names
    (isPattern : grammar.pattern = inner.readPattern)
    (isBound : grammar.bound = bound + 3)
    {first second : String}
    (areNames : isName context first ∧ isName context second)
    (passes :
      start.Passes
        [.symbol "(", .word first false, .symbol ",", .word second false, .symbol ")"] stop) :
    ∃ span firstSpan secondSpan,
      (grammar.readParameters context).run start =
        some
          (.mk .parameters .part span
            [.mk (.identifier first) .part firstSpan [],
              .mk (.identifier second) .part secondSpan []],
            stop) := by
  obtain ⟨⟨opens, _⟩, ⟨atFirst, _⟩, ⟨atComma, _⟩, ⟨atSecond, _⟩, ⟨closes, _⟩, rfl⟩ := passes
  obtain ⟨firstSpan, firstRan⟩ :=
    run_readElement_name isPattern atFirst areNames.1 (by rw [Cursor.isAt, atComma]; rfl)
  obtain ⟨secondSpan, secondRan⟩ :=
    run_readElement_name isPattern atSecond areNames.2 (by rw [Cursor.isAt, closes]; rfl)
  refine ⟨⟨start.start, start.next.next.next.next.next.previousStop⟩, firstSpan, secondSpan, ?_⟩
  simp [readParameters, untilSymbol, untilStep, isBound, repeated, readSeparator, Cursor.isAt,
    opens, atFirst, atComma, atSecond, closes, firstRan, secondRan]

/-- An empty body is read. -/
theorem run_readBody_empty
    (isBound : grammar.bound = bound + 1)
    (passes : start.Passes [.symbol "\x7b", .symbol "\x7d"] stop) :
    ∃ span,
      (grammar.readBody context).run start = some (.mk (.body []) .part span [], stop) := by
  obtain ⟨⟨opens, _⟩, ⟨closes, _⟩, rfl⟩ := passes
  refine ⟨⟨start.start, start.next.next.previousStop⟩, ?_⟩
  simp [readBody, readStatements, readStatementStep, isBound, repeated, Cursor.isAt, opens, closes]

/-- The tokens of a factory function without statements. -/
def shellTokens
    (word : String) :
    List Token :=
  [.word "function" false, .word word false] ++
    ([.symbol "(", .word "$element" false, .symbol ",", .word "$option" false, .symbol ")"] ++
      [.symbol "\x7b", .symbol "\x7d"])

/-- A factory function without statements is read, if its name is one. -/
theorem run_readFunction_shell
    (isPattern : grammar.pattern = inner.readPattern)
    (isBound : grammar.bound = bound + 3)
    (role : Role)
    {word : String}
    (isNamed : isName context word)
    (passes : start.Passes (shellTokens word) stop) :
    ∃ node,
      (grammar.readFunction context role true).run start = some (node, stop) ∧
        IsShell role word node := by
  obtain ⟨_, ⟨⟨atFunction, _⟩, ⟨atName, _⟩, rfl⟩, passes⟩ := passes.split
  obtain ⟨afterParameters, passesParameters, passesBody⟩ := passes.split
  have areNames :
      isName (.inFunction false false) "$element" ∧ isName (.inFunction false false) "$option" := by
    decide +kernel
  obtain ⟨parametersSpan, elementSpan, optionSpan, parametersRan⟩ :=
    run_readParameters_names isPattern isBound areNames passesParameters
  obtain ⟨bodySpan, bodyRan⟩ :=
    @run_readBody_empty grammar (.inFunction false false) (bound + 2) _ _ isBound passesBody
  have named : start.next.name? context = some word := by
    rw [Cursor.name?, atName]
    exact if_pos isNamed
  have isFunction : start.isAtWord "function" = true ∧ start.isAtWord "async" = false := by
    rw [Cursor.isAtWord, Cursor.isAtWord, atFunction]
    decide
  have noStar : start.next.isAt "*" = false := by
    rw [Cursor.isAt, atName]
    rfl
  refine ⟨_, ?_, .intro ⟨start.start, stop.previousStop⟩ parametersSpan elementSpan optionSpan
    bodySpan⟩
  simp [readFunction, readParametersAndBody, name?, named, isFunction, noStar, parametersRan,
    bodyRan]

/-- A factory function without statements is read as a statement. -/
theorem run_readStatement_shell
    (isPattern : grammar.pattern = inner.readPattern)
    (isBound : grammar.bound = bound + 3)
    {word : String}
    (isNamed : isName .top word)
    (passes : start.Passes (shellTokens word) stop) :
    ∃ node,
      (grammar.readStatement .top .listed).run start = some (node, stop) ∧
        IsShell .statement word node := by
  obtain ⟨node, ran, isShell⟩ :=
    run_readFunction_shell isPattern isBound .statement isNamed passes
  refine ⟨node, ?_, isShell⟩
  have byWord : (grammar.readStatement .top .listed).run start =
      (grammar.readFunctionStatement .top .listed).run start :=
    run_readStatement grammar .top .listed passes.1.token_eq
  rw [byWord]
  simp [readFunctionStatement, ran, isShell.form]

/-- The default export of a factory function without statements is read as a statement. -/
theorem run_readStatement_exportedShell
    (isPattern : grammar.pattern = inner.readPattern)
    (isBound : grammar.bound = bound + 3)
    {word : String}
    (isNamed : isName .top word)
    (passes :
      start.Passes ([.word "export" false, .word "default" false] ++ shellTokens word) stop) :
    ∃ span function,
      (grammar.readStatement .top .listed).run start =
          some (.mk .exportDefault .statement span [function], stop) ∧
        IsShell .part word function := by
  obtain ⟨_, ⟨⟨atExport, _⟩, ⟨atDefault, _⟩, rfl⟩, passes⟩ := passes.split
  obtain ⟨function, ran, isShell⟩ := run_readFunction_shell isPattern isBound .part isNamed passes
  refine ⟨⟨start.start, stop.previousStop⟩, function, ?_, isShell⟩
  have byWord : (grammar.readStatement .top .listed).run start =
      (grammar.readExport .top).run start :=
    run_readStatement grammar .top .listed atExport
  have isExport : start.isAtWord "export" = true := by
    rw [Cursor.isAtWord, atExport]
    rfl
  have isDefault : start.next.isAtWord "default" = true := by
    rw [Cursor.isAtWord, atDefault]
    rfl
  have isFunction : isAtFunction start.next.next = true := by
    simp [isAtFunction, Cursor.isAtWord, passes.1.token_eq]
  rw [byWord]
  simp [readExport, readExportDefault, isExport, isDefault, isFunction, ran]

/-- A function without a generator's star has a name before its parameters, if not at once. -/
theorem name_of_readFunction
    {role : Role}
    {node : Node}
    (atFunction : start.token = .word "function" false)
    (noStar : start.next.isAt "*" = false)
    (noParameters : start.next.isAt "(" = false)
    (ran : (grammar.readFunction context role true).run start = some (node, stop)) :
    ∃ word isEscaped, start.next.token = .word word isEscaped ∧ isName context word := by
  have isFunction : start.isAtWord "function" = true ∧ start.isAtWord "async" = false := by
    rw [Cursor.isAtWord, Cursor.isAtWord, atFunction]
    decide
  cases named : start.next.name? context with
  | some word =>
      unfold Cursor.name? at named
      split at named
      · next other isEscaped token =>
          split at named
          · next isNamed =>
              cases named
              exact ⟨word, isEscaped, token, isNamed⟩
          · cases named
      · cases named
  | none =>
      simp [readFunction, readParametersAndBody, readParameters, name?, named, isFunction, noStar,
        noParameters] at ran

/-- A statement that starts with `function` is read as a function. -/
theorem readFunction_of_readStatement
    {node : Node}
    (atFunction : start.token = .word "function" false)
    (ran : (grammar.readStatement .top .listed).run start = some (node, stop)) :
    ∃ function between,
      (grammar.readFunction .top .statement true).run start = some (function, between) := by
  have byWord : (grammar.readStatement .top .listed).run start =
      (grammar.readFunctionStatement .top .listed).run start :=
    run_readStatement grammar .top .listed atFunction
  rw [byWord] at ran
  obtain ⟨function, between, functionRan, _⟩ := run_bind_eq_some.mp ran
  exact ⟨function, between, functionRan⟩

/-- A statement that starts with `export default function` holds a function. -/
theorem readFunction_of_readExport
    {node : Node}
    (atExport : start.token = .word "export" false)
    (atDefault : start.next.token = .word "default" false)
    (atFunction : start.next.next.token = .word "function" false)
    (ran : (grammar.readStatement .top .listed).run start = some (node, stop)) :
    ∃ function between,
      (grammar.readFunction .top .part true).run start.next.next = some (function, between) := by
  have byWord : (grammar.readStatement .top .listed).run start =
      (grammar.readExport .top).run start :=
    run_readStatement grammar .top .listed atExport
  have isExport : start.isAtWord "export" = true := by
    rw [Cursor.isAtWord, atExport]
    rfl
  have isDefault : start.next.isAtWord "default" = true := by
    rw [Cursor.isAtWord, atDefault]
    rfl
  have isFunction : isAtFunction start.next.next = true := by
    simp [isAtFunction, Cursor.isAtWord, atFunction]
  rw [byWord, readExport] at ran
  obtain ⟨_, _, atStart, ran⟩ := run_bind_eq_some.mp ran
  cases atStart
  obtain ⟨_, _, exportRan, ran⟩ := run_bind_eq_some.mp ran
  rw [run_expectWord, if_pos isExport] at exportRan
  cases exportRan
  obtain ⟨_, _, defaultRan, ran⟩ := run_bind_eq_some.mp ran
  rw [run_acceptWord, if_pos isDefault, isDefault] at defaultRan
  cases defaultRan
  rw [if_pos rfl, readExportDefault] at ran
  obtain ⟨_, _, atNext, ran⟩ := run_bind_eq_some.mp ran
  cases atNext
  rw [if_pos isFunction] at ran
  obtain ⟨function, between, functionRan, _⟩ := run_bind_eq_some.mp ran
  exact ⟨function, between, functionRan⟩

end Grammar

variable {source word : String}

/-- A statement of some shape is read from some tokens, whatever stands behind them. -/
def ReadsStatement
    (tokens : List Token)
    (shape : Node → Prop) :
    Prop :=
  ∀ ⦃grammar inner : Grammar⦄ ⦃bound : Nat⦄ ⦃start stop : Cursor⦄,
    grammar.pattern = inner.readPattern →
      grammar.bound = bound + 3 →
        start.Passes tokens stop →
          ∃ node,
            (grammar.readStatement .top .listed).run start = some (node, stop) ∧
              shape node ∧ node.settle? = some node ∧ node.exportedNames.Nodup

/-- A script is a statement, if that is read from all of its tokens. -/
theorem readStatement_of_tokens
    {tokens : List Token}
    {shape : Node → Prop}
    (reads : ReadsStatement (.word word false :: tokens) shape)
    (noHashbang : splitHashbang source.toList = (none, source.toList))
    (behind : textAfter? (.word word false :: tokens) source.toList = some []) :
    ∃ node, readStatement source = .ok node ∧ shape node := by
  obtain ⟨size, isSize⟩ : ∃ size, source.toList.length = size + 1 := by
    cases characters : source.toList with
    | nil =>
        rw [characters] at behind
        cases behind
    | cons first others => exact ⟨others.length, rfl⟩
  have passes := Cursor.passes_of_textAfter? behind source.toList.length
  have notAtEnd : (Cursor.ofText source.toList.length source.toList).isAtEnd = false := by
    rw [Cursor.isAtEnd, passes.1.token_eq]
    rfl
  have noString (value raw : String) :
      (Cursor.ofText source.toList.length source.toList).token ≠ .string value raw := by
    rw [passes.1.token_eq]
    simp
  obtain ⟨node, ran, hasShape, settled, distinct⟩ :=
    @reads (Grammar.ofSize source.toList.length) _ size _ _ rfl (by rw [isSize]; rfl) passes
  refine ⟨node, ?_, hasShape⟩
  rw [readStatement, readProgram_of_single noHashbang notAtEnd noString ran rfl settled distinct]
  rfl

end Script

namespace Component

open Script Grammar

/-- The characters of the shell that is not exported. -/
theorem toList_shellText_plain
    {options : Options}
    (isPlain : options.exportDefault = false) :
    (shellText options).toList =
      "function".toList ++
        ' ' :: (options.name.toList ++ "($element, $option) \x7b\x7d".toList) := by
  simp [shellText, isPlain]

/-- The characters of the shell that is exported. -/
theorem toList_shellText_exported
    {options : Options}
    (isExported : options.exportDefault = true) :
    (shellText options).toList =
      "export".toList ++ ' ' :: ("default".toList ++ ' ' :: ("function".toList ++
        ' ' :: (options.name.toList ++ "($element, $option) \x7b\x7d".toList))) := by
  simp [shellText, isExported]

/-- The simple name starts with no digit, and is no reserved word. -/
def isFunctionName
    (name : String) :
    Bool :=
  name.toList.head?.any (fun character => !character.isDigit) && isName .top name

/-- The text of a factory function starts with its tokens. -/
theorem textAfter?_shell
    {name : String}
    (simple : Text.isSimpleName name)
    (named : isFunctionName name) :
    textAfter? (shellTokens name)
        ("function".toList ++ ' ' :: (name.toList ++ "($element, $option) \x7b\x7d".toList)) =
      some [] := by
  have simple := (Bool.and_eq_true_iff.mp simple).2
  have leads := (Bool.and_eq_true_iff.mp named).1
  have behind :
      textAfter?
          ([.symbol "(", .word "$element" false, .symbol ",", .word "$option" false,
              .symbol ")"] ++
            [.symbol "\x7b", .symbol "\x7d"])
          "($element, $option) \x7b\x7d".toList =
        some [] := by
    decide +kernel
  rw [shellTokens, List.cons_append,
    @textAfter?_simple "function" _ (by decide +kernel) (by decide +kernel) rfl,
    List.cons_append, textAfter?_space,
    @textAfter?_simple name "($element, $option) \x7b\x7d".toList simple leads (by decide +kernel)]
  exact behind

/-- The statement that the shell is read as. -/
inductive IsShellStatement
    (options : Options) :
    Node →
    Prop where
  | plain
      {function : Node}
      (isPlain : options.exportDefault = false)
      (isShell : IsShell .statement options.name function) :
      IsShellStatement options function
  | exported
      {function : Node}
      (isExported : options.exportDefault = true)
      (isShell : IsShell .part options.name function)
      (span : Span) :
      IsShellStatement options (.mk .exportDefault .statement span [function])

/-- The shell is read, if its name can name a function. -/
theorem readStatement_shellText
    {options : Options}
    (simple : Text.isSimpleName options.name)
    (named : isFunctionName options.name) :
    ∃ shell, readStatement (shellText options) = .ok shell ∧ IsShellStatement options shell := by
  have behind := textAfter?_shell simple named
  have isNamed := (Bool.and_eq_true_iff.mp named).2
  cases isWished : options.exportDefault with
  | false =>
      have text := toList_shellText_plain isWished
      have reads : ReadsStatement (shellTokens options.name) (IsShellStatement options) := by
        intro grammar inner bound start stop isPattern isBound passes
        obtain ⟨node, ran, isShell⟩ := run_readStatement_shell isPattern isBound isNamed passes
        exact ⟨node, ran, .plain isWished isShell, isShell.settle?_eq,
          by simp [Node.exportedNames, isShell.form]⟩
      exact readStatement_of_tokens reads (by rw [text]; rfl) (by rw [text]; exact behind)
  | true =>
      have text := toList_shellText_exported isWished
      have reads :
          ReadsStatement
            (.word "export" false :: .word "default" false :: shellTokens options.name)
            (IsShellStatement options) := by
        intro grammar inner bound start stop isPattern isBound passes
        obtain ⟨span, function, ran, isShell⟩ :=
          run_readStatement_exportedShell isPattern isBound isNamed passes
        refine ⟨_, ran, .exported isWished isShell span, ?_, by simp [Node.exportedNames]⟩
        simp [Node.settle?, Node.settleAll?, Form.isUnsettled, isShell.settle?_eq]
      refine readStatement_of_tokens reads (by rw [text]; rfl) ?_
      rw [text, @textAfter?_simple "export" _ (by decide +kernel) (by decide +kernel) rfl,
        textAfter?_space,
        @textAfter?_simple "default" _ (by decide +kernel) (by decide +kernel) rfl]
      exact (textAfter?_space _ _ _).trans behind

/-- The name under which a factory function is read can name a function. -/
theorem isFunctionName_of_readFunction
    {grammar : Grammar}
    {role : Role}
    {name : String}
    {rest : List Char}
    {size : Nat}
    {start stop : Cursor}
    {node : Node}
    (simple : Text.isSimpleName name)
    (isRest : name.toList ++ "($element, $option) \x7b\x7d".toList = rest)
    (atFunction : start.token = .word "function" false)
    (behind : start.next = Cursor.ofText size (' ' :: rest))
    (ran : (grammar.readFunction .top role true).run start = some (node, stop)) :
    isFunctionName name := by
  obtain ⟨occupied, simple⟩ := Bool.and_eq_true_iff.mp simple
  have inverted (noStar : _) (noParameters : _) :=
    name_of_readFunction atFunction noStar noParameters ran
  rw [behind, ← isRest] at inverted
  cases characters : name.toList with
  | nil =>
      rw [characters] at occupied
      cases occupied
  | cons first others =>
      rw [characters] at simple inverted
      have simpleFirst := (Bool.and_eq_true_iff.mp simple).1
      cases isDigit : first.isDigit with
      | true =>
          obtain ⟨token, after, isFirst, noWord⟩ :=
            firstToken?_of_digit isDigit simpleFirst
              (others ++ "($element, $option) \x7b\x7d".toList)
          have atName :
              (Cursor.ofText size
                (' ' :: (first :: others ++ "($element, $option) \x7b\x7d".toList))).token =
                token :=
            (Cursor.ofText_of_firstToken ((firstToken?_space _).trans isFirst) size).1.token_eq
          have noSymbol (symbol : String) : (token == .symbol symbol) = false := by
            rw [beq_eq_false_iff_ne]
            rintro rfl
            cases noWord
          rw [Cursor.isAt, Cursor.isAt, atName] at inverted
          obtain ⟨word, isEscaped, rfl, _⟩ := inverted (noSymbol "*") (noSymbol "(")
          cases noWord
      | false =>
          have leads : (first :: others).head?.any (fun character => !character.isDigit) := by
            simp [isDigit]
          have isFirst :=
            @firstToken?_of_simple _ "($element, $option) \x7b\x7d".toList simple leads
              (by decide +kernel)
          rw [← characters, String.ofList_toList] at isFirst
          have atName :
              (Cursor.ofText size
                (' ' :: (name.toList ++ "($element, $option) \x7b\x7d".toList))).token =
                .word name false :=
            (Cursor.ofText_of_firstToken ((firstToken?_space _).trans isFirst) size).1.token_eq
          rw [← characters, Cursor.isAt, Cursor.isAt, atName] at inverted
          obtain ⟨word, isEscaped, same, isNamed⟩ := inverted rfl rfl
          cases same
          exact Bool.and_eq_true_iff.mpr ⟨characters ▸ leads, isNamed⟩

/-- The shell is read under a name that can name a function only. -/
theorem isFunctionName_of_readProgram
    {options : Options}
    {program : Program}
    (simple : Text.isSimpleName options.name)
    (read : readProgram (shellText options) = .ok program) :
    isFunctionName options.name := by
  obtain ⟨size, isSize⟩ : ∃ size, (shellText options).toList.length = size := ⟨_, rfl⟩
  obtain ⟨rest, isRest⟩ :
      ∃ rest, options.name.toList ++ "($element, $option) \x7b\x7d".toList = rest :=
    ⟨_, rfl⟩
  cases isWished : options.exportDefault with
  | false =>
      have text := toList_shellText_plain isWished
      rw [isRest] at text
      have atFunction :=
        Cursor.ofText_of_firstToken
          (@firstToken?_of_simple "function".toList (' ' :: rest) (by decide +kernel)
            (by decide +kernel) rfl)
          size
      obtain ⟨statement, between, ran⟩ :=
        exists_run_of_readProgram read (by rw [text]; rfl)
          (by rw [isSize, text, Cursor.isAtEnd, atFunction.1.token_eq]; rfl)
      rw [isSize, text] at ran
      obtain ⟨function, between, functionRan⟩ :=
        readFunction_of_readStatement atFunction.1.token_eq ran
      exact isFunctionName_of_readFunction simple isRest atFunction.1.token_eq atFunction.2
        functionRan
  | true =>
      have text := toList_shellText_exported isWished
      rw [isRest] at text
      have atExport :=
        Cursor.ofText_of_firstToken
          (@firstToken?_of_simple "export".toList
            (' ' :: ("default".toList ++ ' ' :: ("function".toList ++ ' ' :: rest)))
            (by decide +kernel) (by decide +kernel) rfl)
          size
      have atDefault :=
        Cursor.ofText_of_firstToken
          ((firstToken?_space _).trans
            (@firstToken?_of_simple "default".toList (' ' :: ("function".toList ++ ' ' :: rest))
              (by decide +kernel) (by decide +kernel) rfl))
          size
      have atFunction :=
        Cursor.ofText_of_firstToken
          ((firstToken?_space _).trans
            (@firstToken?_of_simple "function".toList (' ' :: rest) (by decide +kernel)
              (by decide +kernel) rfl))
          size
      rw [← atExport.2] at atDefault
      rw [← atDefault.2] at atFunction
      obtain ⟨statement, between, ran⟩ :=
        exists_run_of_readProgram read (by rw [text]; rfl)
          (by rw [isSize, text, Cursor.isAtEnd, atExport.1.token_eq]; rfl)
      rw [isSize, text] at ran
      obtain ⟨function, between, functionRan⟩ :=
        readFunction_of_readExport atExport.1.token_eq atDefault.1.token_eq atFunction.1.token_eq
          ran
      exact isFunctionName_of_readFunction simple isRest atFunction.1.token_eq atFunction.2
        functionRan

/-- The statements of the module of a component: its imports, and its shell with its body. -/
theorem exists_shell
    {options : Options}
    {parts : Parts}
    {module : List Node}
    (made : moduleStatements options parts = .ok module) :
    ∃ shell,
      IsShellStatement options shell ∧ module = parts.imports ++ [withBody parts.body shell] := by
  unfold moduleStatements at made
  split at made
  · next simple =>
      obtain ⟨shell, read, made⟩ := Outcome.bind_eq_ok.mp made
      cases made
      obtain ⟨program, programRead, _⟩ := Outcome.bind_eq_ok.mp read
      have named := isFunctionName_of_readProgram simple programRead
      obtain ⟨own, ownRead, isShell⟩ := readStatement_shellText simple named
      obtain rfl := Except.ok.inj (ownRead.symm.trans read)
      exact ⟨own, isShell, rfl⟩
  · cases made

end Component
end Reactivity
