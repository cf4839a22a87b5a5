import Reactivity.Proofs.Script.Run
import Reactivity.Proofs.Script.SimpleName
import Reactivity.Script.Reading

namespace Reactivity.Script

open Reader

/-!
# Scripts of one statement

What is read from a text depends on its tokens. A script is read as one statement, if that
is what its first statement leaves nothing behind of, and a script whose first statement
cannot be read is not read at all.
-/

/-- These are the tokens from one cursor up to another one. -/
def Cursor.Passes
    (start : Cursor) :
    List Token →
    Cursor →
    Prop
  | [], stop => start = stop
  | token :: tokens, stop => start.StandsAt token ∧ start.next.Passes tokens stop

/-- Tokens in two parts are passed one part after the other. -/
theorem Cursor.Passes.split
    {first second : List Token}
    {start stop : Cursor}
    (passes : start.Passes (first ++ second) stop) :
    ∃ middle, start.Passes first middle ∧ middle.Passes second stop := by
  induction first generalizing start with
  | nil =>
      exact ⟨start, rfl, passes⟩
  | cons token tokens inductionHypothesis =>
      obtain ⟨isToken, later⟩ := passes
      obtain ⟨middle, earlier, later⟩ := inductionHypothesis later
      exact ⟨middle, ⟨isToken, earlier⟩, later⟩

theorem Cursor.Passes.split_cons
    {token : Token}
    {first second : List Token}
    {start stop : Cursor}
    (passes : start.Passes (token :: (first ++ second)) stop) :
    ∃ middle, start.Passes (token :: first) middle ∧ middle.Passes second stop :=
  split passes

/-- There is no symbol at the end of a script. -/
theorem Cursor.isAt_of_finish
    {stop : Cursor}
    (atEnd : stop.token = .finish)
    (symbol : String) :
    stop.isAt symbol = false := by
  rw [Cursor.isAt, atEnd]
  rfl

/-- There is no word at the end of a script. -/
theorem Cursor.isAtWord_of_finish
    {stop : Cursor}
    (atEnd : stop.token = .finish)
    (word : String) :
    stop.isAtWord word = false := by
  rw [Cursor.isAtWord, atEnd]
  rfl

/-- A statement may end with the script. -/
theorem Reader.run_semicolon_of_finish
    {stop : Cursor}
    (atEnd : stop.token = .finish) :
    Reader.semicolon.run stop = some ((), stop) := by
  simp [Reader.semicolon, Cursor.isAt_of_finish atEnd, Cursor.isAtEnd, atEnd]

/-- The text behind some tokens, if a text starts with them. -/
def textAfter? :
    List Token →
    List Char →
    Option (List Char)
  | [], text => some text
  | token :: tokens, text =>
      (firstToken? text).bind (fun first =>
        if first.1 = token then textAfter? tokens first.2 else none)

/-- A space before the first of some tokens is skipped. -/
theorem textAfter?_space
    (token : Token)
    (tokens : List Token)
    (text : List Char) :
    textAfter? (token :: tokens) (' ' :: text) = textAfter? (token :: tokens) text :=
  rfl

/-- A word is the first of some tokens. -/
theorem textAfter?_word
    {word : String}
    {rest : List Char}
    (isWord : IsWord word.toList)
    (ends : endsWord rest)
    (tokens : List Token) :
    textAfter? (.word word false :: tokens) (word.toList ++ rest) = textAfter? tokens rest := by
  have isFirst := firstToken?_of_word isWord ends
  rw [String.ofList_toList] at isFirst
  rw [textAfter?, isFirst]
  exact if_pos rfl

/-- A simple name without a leading digit is the first of some tokens. -/
theorem textAfter?_simple
    {name : String}
    {rest : List Char}
    (simple : name.toList.all Text.isSimpleNameCharacter)
    (leads : name.toList.head?.any (fun character => !character.isDigit))
    (ends : endsWord rest)
    (tokens : List Token) :
    textAfter? (.word name false :: tokens) (name.toList ++ rest) = textAfter? tokens rest :=
  textAfter?_word (isWord_of_simple simple leads) ends tokens

/-- The characters of an identifier stand for themselves in a string. -/
theorem readStringFrom?_append
    {word : List Char}
    (parts : word.all Text.isIdentifierPart)
    (rest : List Char)
    {steps : Nat}
    (enough : word.length < steps) :
    readStringFrom? '\'' steps (word ++ '\'' :: rest) = some (word, rest) := by
  induction word generalizing steps with
  | nil =>
      obtain ⟨steps, rfl⟩ : ∃ fewer, steps = fewer + 1 := ⟨steps - 1, by omega⟩
      rfl
  | cons character others inductionHypothesis =>
      obtain ⟨steps, rfl⟩ : ∃ fewer, steps = fewer + 1 := ⟨steps - 1, by omega⟩
      obtain ⟨isPart, othersAre⟩ := Bool.and_eq_true_iff.mp parts
      have differs {other : Char} (noPart : Text.isIdentifierPart other = false) :
          character ≠ other := by
        rintro rfl
        rw [isPart] at noPart
        cases noPart
      have noEscape : character ≠ '\\' := differs (by decide +kernel)
      have noQuote : character ≠ '\'' := differs (by decide +kernel)
      have noLineFeed : character ≠ '\n' := differs (by decide +kernel)
      have noReturn : character ≠ '\r' := differs (by decide +kernel)
      rw [List.length_cons, Nat.add_lt_add_iff_right] at enough
      simp [readStringFrom?, noQuote, noLineFeed, noReturn,
        inductionHypothesis othersAre enough]

/-- What starts with a quote is a string, if it is closed. -/
theorem readToken_quote
    {text value after : List Char}
    (inside : readString? '\'' text = some (value, after)) :
    readToken ('\'' :: text) =
      (.string (String.ofList value)
        (String.ofList (text.take (text.length - after.length - 1))), after) := by
  simp [readToken, inside]

/-- A word in quotes is the first of some tokens. -/
theorem textAfter?_text
    {word : String}
    (isWord : IsWord word.toList)
    (tokens : List Token)
    (rest : List Char) :
    textAfter? (.string word word :: tokens) ('\'' :: (word.toList ++ '\'' :: rest)) =
      textAfter? tokens rest := by
  have raw :
      (word.toList ++ '\'' :: rest).take
          ((word.toList ++ '\'' :: rest).length - rest.length - 1) =
        word.toList := by
    rw [List.length_append, List.length_cons, Nat.add_sub_assoc (by omega), Nat.add_sub_cancel_left,
      Nat.add_sub_cancel]
    exact List.take_left
  have inside :
      readString? '\'' (word.toList ++ '\'' :: rest) = some (word.toList, rest) :=
    readStringFrom?_append isWord.continues rest (by rw [List.length_append]; omega)
  have isFirst :
      firstToken? ('\'' :: (word.toList ++ '\'' :: rest)) = some (.string word word, rest) := by
    have tokenRead := readToken_quote inside
    rw [raw, String.ofList_toList] at tokenRead
    exact congrArg some tokenRead
  rw [textAfter?, isFirst]
  exact if_pos rfl

/-- A cursor at the start of a text passes the tokens that the text starts with. -/
theorem Cursor.passes_of_textAfter?
    {tokens : List Token}
    {text rest : List Char}
    (after : textAfter? tokens text = some rest)
    (size : Nat) :
    (Cursor.ofText size text).Passes tokens (Cursor.ofText size rest) := by
  induction tokens generalizing text with
  | nil =>
      rw [Option.some.inj after]
      rfl
  | cons token tokens inductionHypothesis =>
      obtain ⟨⟨first, behind⟩, read, after⟩ := Option.bind_eq_some_iff.mp after
      by_cases same : first = token
      · rw [if_pos same] at after
        obtain ⟨stands, moves⟩ := Cursor.ofText_of_firstToken read size
        refine ⟨⟨stands.token_eq.trans same, stands.onLine⟩, ?_⟩
        rw [moves]
        exact inductionHypothesis after
      · rw [if_neg same] at after
        cases after

/-- A word that names something is not reserved. -/
theorem unreserved_of_isName
    {context : Context}
    {word : String}
    (isNamed : isName context word) :
    reservedWords.contains word = false := by
  have unreserved := (Bool.and_eq_true_iff.mp isNamed).1
  simpa using unreserved

namespace Grammar

/-- A name is read as a primary expression. -/
theorem run_readPrimary_of_name
    {grammar : Grammar}
    {context : Context}
    {start : Cursor}
    {word : String}
    (stands : start.token = .word word false)
    (isNamed : isName context word)
    (noFunction : start.next.isAtWord "function" = false) :
    (grammar.readPrimary context).run start =
      some (.mk (.identifier word) .expression ⟨start.start, start.next.previousStop⟩ [],
        start.next) := by
  have unreserved := unreserved_of_isName isNamed
  have named : start.name? context = some word := by
    rw [Cursor.name?, stands]
    exact if_pos isNamed
  have byWord : (grammar.readPrimary context).run start =
      (grammar.readWordExpression context).run start := by
    rw [readPrimary, StateT.run_bind, run_cursor]
    dsimp only [Option.bind_eq_bind, Option.bind_some]
    rw [stands]
  rw [byWord, readWordExpression, StateT.run_bind, run_cursor]
  dsimp only [Option.bind_eq_bind, Option.bind_some]
  rw [stands]
  split
  case h_10 => simp [noFunction, name, named]
  all_goals
    next isWord =>
      cases isWord
      exact absurd unreserved (by decide)

/-- A statement that starts with a word is read by that word. -/
theorem run_readStatement
    (grammar : Grammar)
    (context : Context)
    (placement : Placement)
    {start : Cursor}
    {word : String}
    (stands : start.token = .word word false) :
    (grammar.readStatement context placement).run start =
      (grammar.readWordStatement context placement word).run start := by
  unfold readStatement
  rw [StateT.run_bind, run_cursor]
  dsimp only [Option.bind_eq_bind, Option.bind_some]
  rw [stands]

/-- The first of some statements that are read. -/
theorem readStatements_head
    {bound : Nat}
    {isEnd : Cursor → Bool}
    {read : Reader Node}
    {start stop : Cursor}
    {result : List String × List Node}
    (notAtEnd : isEnd start = false)
    (ran : (readStatements bound isEnd read).run start = some (result, stop)) :
    ∃ statement between, read.run start = some (statement, between) := by
  unfold readStatements at ran
  cases bound with
  | zero => cases ran
  | succ bound =>
      obtain ⟨_, _, stepRan, _⟩ := run_bind_eq_some.mp ran
      obtain ⟨_, _, atStart, stepRan⟩ := run_bind_eq_some.mp stepRan
      cases atStart
      rw [notAtEnd] at stepRan
      obtain ⟨statement, between, firstRan, _⟩ := run_bind_eq_some.mp stepRan
      exact ⟨statement, between, firstRan⟩

/-- One statement is read up to the end. -/
theorem run_readStatements_single
    {isEnd : Cursor → Bool}
    {read : Reader Node}
    {start stop : Cursor}
    {node : Node}
    (bound : Nat)
    (notAtEnd : isEnd start = false)
    (ran : read.run start = some (node, stop))
    (noDirective : directive? start node = none)
    (atEnd : isEnd stop = true) :
    (readStatements (bound + 2) isEnd read).run start = some (([], [node]), stop) := by
  simp [readStatements, readStatementStep, repeated, notAtEnd, ran, noDirective, atEnd]

/-- A directive starts with a string. -/
theorem directive?_of_noString
    {start : Cursor}
    (noString : ∀ value raw, start.token ≠ .string value raw)
    (statement : Node) :
    directive? start statement = none := by
  unfold directive?
  split
  · split
    · next value raw isString => exact (noString value raw isString).elim
    · rfl
  · rfl

/-- The grammar of a number of rounds, within a bound. -/
def closed
    (bound rounds : Nat) :
    Grammar :=
  { ofRounds bound rounds with bound }

/-- The grammar that reads the statements of a script of some size. -/
def ofSize
    (size : Nat) :
    Grammar :=
  closed (size + 2) (size + 1)

end Grammar

variable {source : String}

/-- A script is read, or it is malformed. -/
theorem readProgram_eq
    (source : String) :
    (∃ program, readProgram source = .ok program) ∨ readProgram source = .fail .malformed := by
  unfold readProgram
  split
  · next program _ => exact .inl ⟨program, rfl⟩
  · exact .inr rfl

/-- A script is read as one statement, if nothing is left behind that. -/
theorem readProgram_of_single
    {node settled : Node}
    {stop : Cursor}
    (noHashbang : splitHashbang source.toList = (none, source.toList))
    (notAtEnd : (Cursor.ofText source.toList.length source.toList).isAtEnd = false)
    (noString :
      ∀ value raw,
        (Cursor.ofText source.toList.length source.toList).token ≠ .string value raw)
    (ran :
      ((Grammar.ofSize source.toList.length).readStatement .top .listed).run
          (Cursor.ofText source.toList.length source.toList) =
        some (node, stop))
    (atEnd : stop.isAtEnd = true)
    (settles : node.settle? = some settled)
    (distinct : settled.exportedNames.Nodup) :
    readProgram source = .ok { statements := [settled] } := by
  have statements :=
    Grammar.run_readStatements_single source.toList.length notAtEnd ran
      (Grammar.directive?_of_noString noString node) atEnd
  have found : readProgram? source = some { statements := [settled] } := by
    unfold readProgram?
    dsimp only
    rw [noHashbang]
    refine Option.bind_eq_some_iff.mpr ⟨_, statements, ?_⟩
    simp [Node.settleAll?, settles, distinct]
  rw [readProgram, found]

/-- The first statement of a script that is read can be read. -/
theorem exists_run_of_readProgram
    {program : Program}
    (read : readProgram source = .ok program)
    (noHashbang : splitHashbang source.toList = (none, source.toList))
    (notAtEnd : (Cursor.ofText source.toList.length source.toList).isAtEnd = false) :
    ∃ statement between,
      ((Grammar.ofSize source.toList.length).readStatement .top .listed).run
          (Cursor.ofText source.toList.length source.toList) =
        some (statement, between) := by
  unfold readProgram at read
  split at read
  · next found =>
      unfold readProgram? at found
      simp only [Option.bind_eq_bind, Option.bind_eq_some_iff] at found
      obtain ⟨⟨⟨directives, statements⟩, stop⟩, ran, _⟩ := found
      rw [noHashbang] at ran
      exact Grammar.readStatements_head notAtEnd ran
  · cases read

end Reactivity.Script
