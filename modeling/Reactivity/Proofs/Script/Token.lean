import Reactivity.Script.Grammar.Basic

namespace Reactivity.Script

/-!
# Gaps and words

A gap goes over spaces and comments, and says whether a line ended in it. A run of
characters that can continue an identifier is read as one word, up to a character that
cannot. Every word that is read can be written without escapes, so every name at a cursor
is an identifier.
-/

/-- A character that starts no comment ends a line, is skipped or ends the gap. -/
theorem skipGap?_spaces
    {character : Char}
    (noSlash : character ≠ '/')
    (ended : Bool)
    (rest : List Char) :
    skipGap? .spaces ended (character :: rest) =
      if isLineEnd character then
        skipGap? .spaces true rest
      else if isSpace character then
        skipGap? .spaces ended rest
      else
        some (ended, character :: rest) :=
  skipGap?.eq_5 _ _ _ (fun _ same _ => noSlash same) (fun _ same _ => noSlash same)

/-- A line that has ended before a gap has ended behind it too. -/
theorem skipGap?_or
    (gap : Gap)
    (more ended : Bool)
    (text : List Char) :
    skipGap? gap (more || ended) text =
      (skipGap? gap ended text).map (fun skipped => (more || skipped.1, skipped.2)) := by
  fun_induction skipGap? gap ended text with
  | case1 => rfl
  | case2 gap ended isClosed =>
      rw [skipGap?.eq_2 _ _ isClosed]
      rfl
  | case3 _ _ inductionHypothesis => exact inductionHypothesis
  | case4 _ _ inductionHypothesis => exact inductionHypothesis
  | case5 ended character rest noLine noBlock ends inductionHypothesis =>
      rw [skipGap?.eq_5 _ _ _ noLine noBlock, if_pos ends, ← inductionHypothesis, Bool.or_true]
  | case6 ended character rest noLine noBlock noEnd isSpace inductionHypothesis =>
      rw [skipGap?.eq_5 _ _ _ noLine noBlock, if_neg noEnd, if_pos isSpace, inductionHypothesis]
  | case7 ended character rest noLine noBlock noEnd noSpace =>
      rw [skipGap?.eq_5 _ _ _ noLine noBlock, if_neg noEnd, if_neg noSpace]
      rfl
  | case8 ended character rest ends inductionHypothesis =>
      rw [skipGap?.eq_6, if_pos ends, ← inductionHypothesis, Bool.or_true]
  | case9 ended character rest noEnd inductionHypothesis =>
      rw [skipGap?.eq_6, if_neg noEnd, inductionHypothesis]
  | case10 _ _ inductionHypothesis => exact inductionHypothesis
  | case11 ended character rest isOpen inductionHypothesis =>
      rw [skipGap?.eq_8 _ _ _ isOpen, Bool.or_assoc, inductionHypothesis]

theorem skipGap?_true
    (text : List Char) :
    skipGap? .spaces true text =
      (skipGap? .spaces false text).map (fun skipped => (true, skipped.2)) := by
  have shifted := skipGap?_or .spaces true false text
  simpa using shifted

namespace Cursor

/-- The first cursor of a text behind its gap. -/
theorem ofText_of_skipped
    {size : Nat}
    {text here : List Char}
    {ended : Bool}
    (skipped : skipGap? .spaces false text = some (ended, here)) :
    ofText size text =
      { size, here, token := (readToken here).1, rest := (readToken here).2,
        start := size - here.length, isOnNewLine := ended,
        previousStop := size - text.length, isRead := .inr rfl } := by
  unfold ofText
  rw [skipped]

/-- The first cursor of a text with a comment that is open to its end. -/
theorem ofText_of_open
    {size : Nat}
    {text : List Char}
    (isOpen : skipGap? .spaces false text = none) :
    ofText size text =
      { size, here := text, token := .invalid, rest := [], start := size - text.length,
        isOnNewLine := false, previousStop := size - text.length, isRead := .inl rfl } := by
  unfold ofText
  rw [isOpen]

end Cursor

/-- The characters of a word as they are written: none of them is escaped. -/
structure IsWord
    (word : List Char) :
    Prop where
  starts : word.head?.any Text.isIdentifierStart
  continues : word.all Text.isIdentifierPart
  plain : word.contains '\\' = false

/-- No word goes on with this text. -/
def endsWord :
    List Char →
    Bool
  | [] => true
  | character :: _ => character != '\\' && !Text.isIdentifierPart character

/-- The characters of a word are read up to its end. -/
theorem readWordFrom_append
    {word rest : List Char}
    (continues : word.all Text.isIdentifierPart)
    (plain : word.contains '\\' = false)
    (ends : endsWord rest)
    {steps : Nat}
    (enough : word.length < steps) :
    readWordFrom steps (word ++ rest) = (word, false, rest) := by
  induction word generalizing steps with
  | nil =>
      obtain ⟨steps, rfl⟩ := Nat.exists_eq_add_of_lt enough
      cases rest with
      | nil => rfl
      | cons character others =>
          obtain ⟨noEscape, noPart⟩ := Bool.and_eq_true_iff.mp ends
          have noEscape : character ≠ '\\' := by simpa using noEscape
          simp_all [readWordFrom]
  | cons character others inductionHypothesis =>
      obtain ⟨steps, rfl⟩ : ∃ fewer, steps = fewer + 1 := ⟨steps - 1, by omega⟩
      rw [List.all_cons, Bool.and_eq_true] at continues
      rw [List.contains_cons, Bool.or_eq_false_iff, beq_eq_false_iff_ne] at plain
      have noEscape : character ≠ '\\' := Ne.symm plain.1
      have restRead := inductionHypothesis continues.2 plain.2 (by simpa using enough)
      simp_all [readWordFrom]

/-- A digit does not start an identifier. -/
theorem not_isDigit_of_isIdentifierStart
    {character : Char}
    (starts : Text.isIdentifierStart character) :
    character.isDigit = false := by
  apply Bool.eq_false_iff.mpr
  intro isDigit
  obtain ⟨least, most⟩ : 48 ≤ character.toNat ∧ character.toNat ≤ 57 := by
    simp only [Char.isDigit, Bool.and_eq_true, decide_eq_true_eq] at isDigit
    exact isDigit
  have small : character.toNat < 0x80 := by omega
  rw [Text.isIdentifierStart, if_pos small] at starts
  have digits : ∀ code : Fin 128, 48 ≤ code.val → code.val ≤ 57 →
      ((Char.ofNat code.val).isAlpha || Char.ofNat code.val == '_' ||
        Char.ofNat code.val == '$') = false := by
    decide
  have noStart := digits ⟨character.toNat, small⟩ least most
  rw [Char.ofNat_toNat] at noStart
  exact absurd starts (Bool.eq_false_iff.mp noStart)

/-- A word is read as a token. -/
theorem readToken_word
    {word rest : List Char}
    (isWord : IsWord word)
    (ends : endsWord rest) :
    readToken (word ++ rest) = (.word (String.ofList word) false, rest) := by
  obtain ⟨starts, continues, plain⟩ := isWord
  cases word with
  | nil => cases starts
  | cons first others =>
      have starts : Text.isIdentifierStart first := starts
      have noDigit := not_isDigit_of_isIdentifierStart starts
      have noPoint : first ≠ '.' := by
        rintro rfl
        exact absurd starts (by decide)
      have noHash : first ≠ '#' := by
        rintro rfl
        exact absurd starts (by decide)
      have noQuote : (first == '"' || first == '\'') = false := by
        apply Bool.eq_false_iff.mpr
        intro isQuote
        rcases Bool.or_eq_true_iff.mp isQuote with quote | quote
        all_goals
          rw [beq_iff_eq.mp quote] at starts
          exact absurd starts (by decide)
      have wordRead : readWord? (first :: others ++ rest) =
          some (String.ofList (first :: others), false, rest) := by
        rw [readWord?, readWordFrom_append continues plain ends (by rw [List.length_append]; omega)]
        exact if_pos starts
      simp_all [readToken]

/-- All characters of a word can be part of an identifier. -/
theorem readWordFrom_parts
    (steps : Nat)
    (text : List Char) :
    (readWordFrom steps text).1.all Text.isIdentifierPart := by
  fun_induction readWordFrom steps text with
  | case3 _ _ _ _ _ isPart _ _ _ ran inductionHypothesis
  | case6 _ _ _ _ isPart _ _ _ ran inductionHypothesis =>
      rw [ran] at inductionHypothesis
      rw [List.all_cons, isPart, Bool.true_and]
      exact inductionHypothesis
  | case1 | case2 | case4 | case5 | case7 => rfl

/-- A backslash is no part of an identifier. -/
theorem plain_of_parts
    {word : List Char}
    (parts : word.all Text.isIdentifierPart) :
    word.contains '\\' = false := by
  rw [← Bool.not_eq_true, List.contains_iff_mem]
  intro member
  have noPart : Text.isIdentifierPart '\\' = false := by decide +kernel
  rw [List.all_eq_true.mp parts _ member] at noPart
  cases noPart

/-- A word that is read can be written as it is. -/
theorem isWord_of_readWord?
    {text rest : List Char}
    {name : String}
    {isEscaped : Bool}
    (ran : readWord? text = some (name, isEscaped, rest)) :
    IsWord name.toList := by
  have parts := readWordFrom_parts (text.length + 1) text
  unfold readWord? at ran
  split at ran
  · next first others escaped after wordRan =>
      rw [wordRan] at parts
      split at ran
      · next starts =>
          cases ran
          rw [String.toList_ofList]
          exact ⟨starts, parts, plain_of_parts parts⟩
      · cases ran
  · cases ran

/-- The token is a word. -/
def Token.isWord :
    Token →
    Bool
  | .word _ _ => true
  | _ => false

theorem finishInteger_noWord
    (value : Nat)
    (text : List Char) :
    (finishInteger value text).1.isWord = false := by
  unfold finishInteger
  split <;> split <;> rfl

theorem readBased_noWord
    (base : Nat)
    (isDigit : Char → Bool)
    (text : List Char) :
    (readBased base isDigit text).1.isWord = false := by
  unfold readBased
  split
  · exact finishInteger_noWord _ _
  · rfl

theorem readFraction_noWord
    (whole text : List Char) :
    (readFraction whole text).1.isWord = false := by
  unfold readFraction
  split
  · rfl
  · split
    · rfl
    · split <;> rfl

theorem readDecimal_noWord
    (text : List Char) :
    (readDecimal text).1.isWord = false := by
  unfold readDecimal
  split
  · rfl
  · split
    · rfl
    · split
      · exact readFraction_noWord _ _
      · split
        · rfl
        · split <;> rfl
      · split
        · rfl
        · split <;> rfl
      · exact finishInteger_noWord _ _

/-- A number is no word. -/
theorem readNumber_noWord
    (text : List Char) :
    (readNumber text).1.isWord = false := by
  unfold readNumber
  split
  · split
    · exact readBased_noWord _ _ _
    · split
      · exact readBased_noWord _ _ _
      · split
        · exact readBased_noWord _ _ _
        · exact readDecimal_noWord _
  · exact readFraction_noWord _ _
  · exact readDecimal_noWord _

/-- A token that is a word can be written as it is. -/
theorem isWord_of_readToken
    {text rest : List Char}
    {name : String}
    {isEscaped : Bool}
    (ran : readToken text = (.word name isEscaped, rest)) :
    IsWord name.toList := by
  have noNumber (text : List Char) : readNumber text ≠ (.word name isEscaped, rest) := by
    intro same
    have isOther := readNumber_noWord text
    rw [same] at isOther
    cases isOther
  unfold readToken at ran
  split at ran
  · cases ran
  · split at ran
    · exact (noNumber _ ran).elim
    · split at ran <;> cases ran
  · split at ran <;> cases ran
  · split at ran
    · exact (noNumber _ ran).elim
    · split at ran
      · split at ran <;> cases ran
      · split at ran
        · next wordRan =>
            cases ran
            exact isWord_of_readWord? wordRan
        · split at ran <;> cases ran

/-- The text is spelled like an identifier, and is no reserved word. -/
def isIdentifier
    (name : String) :
    Bool :=
  name.toList.head?.any Text.isIdentifierStart && name.toList.all Text.isIdentifierPart &&
    !reservedWords.contains name

theorem isIdentifier_iff
    {name : String} :
    isIdentifier name ↔ IsWord name.toList ∧ reservedWords.contains name = false := by
  simp only [isIdentifier, Bool.and_eq_true, Bool.not_eq_true']
  constructor
  · rintro ⟨⟨starts, continues⟩, unreserved⟩
    exact ⟨⟨starts, continues, plain_of_parts continues⟩, unreserved⟩
  · rintro ⟨isWord, unreserved⟩
    exact ⟨⟨isWord.starts, isWord.continues⟩, unreserved⟩

theorem isWord_of_isIdentifier
    {name : String}
    (isNamed : isIdentifier name) :
    IsWord name.toList :=
  (isIdentifier_iff.mp isNamed).1

/-- The name at a cursor is an identifier. -/
theorem Cursor.isIdentifier_of_name?
    {cursor : Cursor}
    {context : Context}
    {name : String}
    (named : cursor.name? context = some name) :
    isIdentifier name := by
  unfold name? at named
  split at named
  · next word isEscaped token =>
      split at named
      · next isNamed =>
          cases named
          have unreserved := (Bool.and_eq_true_iff.mp isNamed).1
          rcases cursor.isRead with isInvalid | ran
          · rw [token] at isInvalid
            cases isInvalid
          · rw [token] at ran
            exact isIdentifier_iff.mpr ⟨isWord_of_readToken ran, by simpa using unreserved⟩
      · cases named
  · cases named

end Reactivity.Script
