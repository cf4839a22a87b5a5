import Mathlib.Data.List.Induction
import Reactivity.Text.Quoted

namespace Reactivity.Text

/-!
# Quoted text inside a literal

A template literal is read from left to right: a backslash escapes the character behind
it, and the first backtick that is not escaped closes the literal. Quoting puts a backslash
before each backtick but leaves the backslashes of the text alone, so a backslash of the
text can take the one that was put there for itself. Quoted text stays inside its literal
exactly if each backtick of the text, and its end, stand behind an even number of
backslashes.
-/

/-- Where the reading of a template literal stands. -/
inductive LiteralState where
  /-- The next character is read as it is. -/
  | inside
  /-- The next character is escaped. -/
  | escaped
  /-- The literal has been closed. -/
  | closed
  deriving Repr, DecidableEq

namespace LiteralState

/-- Read a character of a template literal. -/
def next :
    LiteralState →
    Char →
    LiteralState
  | .inside, '\\' => .escaped
  | .inside, '\x60' => .closed
  | .inside, _ => .inside
  | .escaped, _ => .inside
  | .closed, _ => .closed

/-- The state behind a text at the start of a template literal. -/
def after
    (text : List Char) :
    LiteralState :=
  text.foldl next .inside

/-- A literal that has been closed stays closed. -/
theorem foldl_next_closed
    (text : List Char) :
    text.foldl next .closed = .closed := by
  induction text with
  | nil => rfl
  | cons _ _ inductionHypothesis => exact inductionHypothesis

theorem after_append_of_closed
    {read : List Char}
    (isClosed : after read = .closed)
    (rest : List Char) :
    after (read ++ rest) = .closed := by
  rw [after, List.foldl_append, ← after, isClosed, foldl_next_closed]

theorem after_concat
    (text : List Char)
    (character : Char) :
    after (text ++ [character]) = (after text).next character := by
  rw [after, List.foldl_append]
  rfl

end LiteralState

/-- The text fills a template literal: the literal is closed by the backtick behind the text. -/
structure FillsLiteral
    (inner : String) :
    Prop where
  /-- Nowhere in the text is there a backtick that is not escaped. -/
  neverCloses :
    ∀ read rest, inner.toList = read ++ rest → LiteralState.after read ≠ .closed
  /-- The text does not end in the middle of an escape. -/
  finishesEscapes : LiteralState.after inner.toList ≠ .escaped
  /-- The literal is closed by its last character and not before. -/
  closesAtEnd :
    ∀ read rest, inner.toList ++ ['\x60'] = read ++ rest →
      (LiteralState.after read = .closed ↔ rest = [])

/-- A text fills a literal if the reading stands inside of the literal behind it. -/
theorem fillsLiteral_iff
    {inner : String} :
    FillsLiteral inner ↔ LiteralState.after inner.toList = .inside := by
  constructor
  · intro fills
    have noClose := fills.neverCloses inner.toList [] (List.append_nil _).symm
    have noEscape := fills.finishesEscapes
    cases state : LiteralState.after inner.toList with
    | inside => rfl
    | escaped => exact absurd state noEscape
    | closed => exact absurd state noClose
  · intro stays
    have neverCloses (read rest : List Char) (parts : inner.toList = read ++ rest) :
        LiteralState.after read ≠ .closed := by
      intro isClosed
      have closes := LiteralState.after_append_of_closed isClosed rest
      rw [← parts, stays] at closes
      cases closes
    refine ⟨neverCloses, by rw [stays]; decide, fun read rest parts => ?_⟩
    rcases List.eq_nil_or_concat rest with rfl | ⟨others, last, rfl⟩
    · rw [List.append_nil] at parts
      rw [← parts, LiteralState.after_concat, stays]
      exact ⟨fun _ => rfl, fun _ => rfl⟩
    · rw [List.concat_eq_append, ← List.append_assoc] at parts
      have isEarlier := neverCloses read others (List.append_inj_left' parts rfl)
      simp [isEarlier]

/-- How many backslashes a text ends in. -/
def backslashesAtEnd
    (text : List Char) :
    Nat :=
  (text.reverse.takeWhile (· == '\\')).length

theorem backslashesAtEnd_concat
    (text : List Char)
    (character : Char) :
    backslashesAtEnd (text ++ [character]) =
      if character = '\\' then backslashesAtEnd text + 1 else 0 := by
  rw [backslashesAtEnd, List.reverse_concat, List.takeWhile_cons]
  by_cases isBackslash : character = '\\'
  · simp [isBackslash, backslashesAtEnd]
  · simp [isBackslash]

/-- Every backtick of a text stands behind an even number of backslashes. -/
def PairsBeforeBackticks
    (text : List Char) :
    Prop :=
  ∀ before behind, text = before ++ '\x60' :: behind → backslashesAtEnd before % 2 = 0

theorem pairsBeforeBackticks_concat
    {text : List Char}
    {character : Char} :
    PairsBeforeBackticks (text ++ [character]) ↔
      PairsBeforeBackticks text ∧
        (character = '\x60' → backslashesAtEnd text % 2 = 0) := by
  constructor
  · intro pairs
    constructor
    · rintro before behind rfl
      exact pairs before (behind ++ [character]) (by simp)
    · rintro rfl
      exact pairs text [] rfl
  · rintro ⟨pairs, pairsAtEnd⟩ before behind parts
    rcases List.eq_nil_or_concat behind with rfl | ⟨others, last, rfl⟩
    · obtain ⟨rfl, same⟩ := List.append_inj' parts rfl
      exact pairsAtEnd (List.singleton_inj.mp same)
    · rw [List.concat_eq_append, ← List.cons_append, ← List.append_assoc] at parts
      exact pairs before others (List.append_inj_left' parts rfl)

/-- Every backtick of a text, and its end, stand behind an even number of backslashes. -/
structure PairsBackslashes
    (text : String) :
    Prop where
  beforeBackticks : PairsBeforeBackticks text.toList
  atEnd : backslashesAtEnd text.toList % 2 = 0

/-- How a character is written in a literal, on one line or not. -/
def spelling
    (onOneLine : Bool)
    (character : Char) :
    List Char :=
  if character = '\x60' then
    ['\\', '\x60']
  else if onOneLine && character == '\n' then
    ['\\', 'n']
  else
    [character]

/-- Quoting writes a text character by character. -/
theorem quoteBackticks_eq_flatMap
    (text : List Char) :
    quoteBackticks text = text.flatMap (spelling false) := by
  fun_induction quoteBackticks text with
  | case1 => rfl
  | case2 rest inductionHypothesis =>
      rw [List.flatMap_cons, ← inductionHypothesis]
      rfl
  | case3 character rest noBacktick inductionHypothesis =>
      rw [List.flatMap_cons, ← inductionHypothesis, spelling, if_neg noBacktick]
      rfl

theorem quoteLineFeeds_append
    (first second : List Char) :
    quoteLineFeeds (first ++ second) = quoteLineFeeds first ++ quoteLineFeeds second := by
  fun_induction quoteLineFeeds first with
  | case1 => rfl
  | case2 rest inductionHypothesis => simp [quoteLineFeeds, inductionHypothesis]
  | case3 character rest noLineFeed inductionHypothesis =>
      simp [quoteLineFeeds, inductionHypothesis]

/-- Quoting on one line writes a text character by character, too. -/
theorem quoteLineFeeds_quoteBackticks
    (text : List Char) :
    quoteLineFeeds (quoteBackticks text) = text.flatMap (spelling true) := by
  rw [quoteBackticks_eq_flatMap]
  induction text with
  | nil => rfl
  | cons character rest inductionHypothesis =>
      rw [List.flatMap_cons, List.flatMap_cons, quoteLineFeeds_append, inductionHypothesis]
      congr 1
      by_cases isBacktick : character = '\x60'
      · rw [isBacktick]
        rfl
      · by_cases isLineFeed : character = '\n'
        · rw [isLineFeed]
          rfl
        · simp [spelling, quoteLineFeeds, isBacktick, isLineFeed]

/-- What reading the spelling of a character does in each state. -/
theorem foldl_next_spelling
    (onOneLine : Bool)
    (character : Char)
    (state : LiteralState) :
    (spelling onOneLine character).foldl LiteralState.next state =
      if state = .closed then
        .closed
      else if character = '\\' then
        if state = .inside then .escaped else .inside
      else if character = '\x60' ∧ state = .escaped then
        .closed
      else
        .inside := by
  by_cases isBacktick : character = '\x60'
  · subst isBacktick
    cases state <;> rfl
  · by_cases isBackslash : character = '\\'
    · subst isBackslash
      cases onOneLine <;> cases state <;> rfl
    · by_cases isLineFeed : character = '\n'
      · subst isLineFeed
        cases onOneLine <;> cases state <;> rfl
      · cases state <;> simp [spelling, LiteralState.next, isBacktick, isBackslash, isLineFeed]

/-- Where the reading stands behind the spelling of a text. -/
theorem after_flatMap_spelling
    (onOneLine : Bool)
    (text : List Char) :
    LiteralState.after (text.flatMap (spelling onOneLine)) = .closed ∧
        ¬ PairsBeforeBackticks text ∨
      LiteralState.after (text.flatMap (spelling onOneLine)) =
          (if backslashesAtEnd text % 2 = 0 then .inside else .escaped) ∧
        PairsBeforeBackticks text := by
  -- Characters are added at the end, where the reading stands.
  induction text using List.reverseRecOn with
  | nil =>
      refine .inr ⟨rfl, fun before behind parts => ?_⟩
      cases before <;> cases parts
  | append_singleton text character inductionHypothesis =>
      have step :
          LiteralState.after ((text ++ [character]).flatMap (spelling onOneLine)) =
            (spelling onOneLine character).foldl LiteralState.next
              (LiteralState.after (text.flatMap (spelling onOneLine))) := by
        rw [List.flatMap_append, LiteralState.after, List.foldl_append, List.flatMap_singleton]
        rfl
      rw [step, foldl_next_spelling, pairsBeforeBackticks_concat, backslashesAtEnd_concat]
      rcases inductionHypothesis with ⟨isClosed, noPairs⟩ | ⟨stands, pairs⟩
      · simp [isClosed, noPairs]
      · rw [stands]
        have parity := Nat.mod_two_eq_zero_or_one (backslashesAtEnd text)
        by_cases isBackslash : character = '\\'
        · subst isBackslash
          rcases parity with even | odd
          · simp [pairs, even, Nat.add_mod]
          · simp [pairs, odd, Nat.add_mod]
        · by_cases isBacktick : character = '\x60'
          · rcases parity with even | odd
            · simp [pairs, even, isBacktick]
            · simp [odd, isBacktick]
          · rcases parity with even | odd
            · simp [pairs, even, isBackslash, isBacktick]
            · simp [pairs, odd, isBackslash, isBacktick]

/-- The spelling of a text fills a literal if the backslashes of the text are in pairs. -/
theorem fillsLiteral_spelling_iff
    (onOneLine : Bool)
    (text : String) :
    FillsLiteral (String.ofList (text.toList.flatMap (spelling onOneLine))) ↔
      PairsBackslashes text := by
  have pairs : PairsBackslashes text ↔
      PairsBeforeBackticks text.toList ∧ backslashesAtEnd text.toList % 2 = 0 :=
    ⟨fun pairs => ⟨pairs.1, pairs.2⟩, fun pairs => ⟨pairs.1, pairs.2⟩⟩
  rw [fillsLiteral_iff, String.toList_ofList, pairs]
  rcases after_flatMap_spelling onOneLine text.toList with
    ⟨isClosed, noPairs⟩ | ⟨stands, paired⟩
  · simp [isClosed, noPairs]
  · rw [stands]
    by_cases even : backslashesAtEnd text.toList % 2 = 0
    · simp [even, paired]
    · simp [even]

/-- There is no line feed in a text that is quoted on one line. -/
theorem lineFeed_not_mem_quoteLineFeeds
    (text : List Char) :
    '\n' ∉ quoteLineFeeds text := by
  fun_induction quoteLineFeeds text with
  | case1 => exact List.not_mem_nil
  | case2 rest inductionHypothesis => simp [inductionHypothesis]
  | case3 character rest noLineFeed inductionHypothesis =>
      simp [inductionHypothesis, Ne.symm noLineFeed]

/--
Quoted text, on one line or not, cannot end its literal exactly if every backtick of the
text, and the end of the text, stand behind an even number of backslashes. A text that is
quoted on one line has no line feed.
-/
theorem quoted_fillsLiteral_iff
    (text : String) :
    (FillsLiteral (quoted text) ↔ PairsBackslashes text) ∧
      (FillsLiteral (quotedOnOneLine text) ↔ PairsBackslashes text) ∧
      '\n' ∉ (quotedOnOneLine text).toList := by
  refine ⟨?_, ?_, ?_⟩
  · rw [quoted, quoteBackticks_eq_flatMap]
    exact fillsLiteral_spelling_iff false text
  · rw [quotedOnOneLine, quoteLineFeeds_quoteBackticks]
    exact fillsLiteral_spelling_iff true text
  · rw [quotedOnOneLine, String.toList_ofList]
    exact lineFeed_not_mem_quoteLineFeeds _

/-- A backslash before a backtick, or at the end of a text, breaks the literal. -/
theorem quoted_backslash_breaks_literal :
    ¬ FillsLiteral (quoted "\\\x60") ∧ ¬ FillsLiteral (quotedOnOneLine "\\\x60") ∧
      ¬ FillsLiteral (quoted "\\") ∧ ¬ FillsLiteral (quotedOnOneLine "\\") := by
  simp only [fillsLiteral_iff]
  decide

end Reactivity.Text
