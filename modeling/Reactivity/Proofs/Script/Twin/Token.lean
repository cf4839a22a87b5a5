import Reactivity.Proofs.Script.Twin.Literal

namespace Reactivity.Script

open Refresh

/-!
# Tokens of twins

Inside of a line, twins have the same token, and so they do where a regular expression is
expected.
-/

namespace Twin

variable
  {atStart : Bool}
  {text marked : List Char}

/-- The longest symbol is the same in twins, as no symbol goes on over a line. -/
theorem readSymbol?_rel
    (twin : Twin false text marked) :
    Option.Rel SameRead (readSymbol? text) (readSymbol? marked) := by
  by_cases optional : ['?', '.'].isPrefixOf text
  · obtain ⟨after, rfl⟩ := List.isPrefixOf_iff_prefix.mp optional
    obtain ⟨markedAfter, rfl, twins⟩ := twin.append (by decide)
    rcases twins.inLine with ⟨rfl, rfl⟩ | ⟨digit, onward, markedOnward, rfl, rfl, _⟩
    · have isRead : readSymbol? (['?', '.'] ++ []) = some ("?.", []) := by decide
      rw [isRead]
      exact .some ⟨rfl, .nil false⟩
    · simp only [List.cons_append, List.nil_append, readSymbol?]
      split
      · exact .some ⟨rfl, .cons '.' (by simpa using twins)⟩
      · exact .some ⟨rfl, twins⟩
  · have markedOptional : ['?', '.'].isPrefixOf marked = false := by
      rw [← twin.isPrefixOf_eq (by decide)]
      exact Bool.eq_false_iff.mpr optional
    have plain (text : List Char) (noPrefix : ['?', '.'].isPrefixOf text = false) :
        readSymbol? text =
          (symbols.find? (fun symbol => symbol.toList.isPrefixOf text)).map
            (fun symbol => (symbol, text.drop symbol.toList.length)) :=
      readSymbol?.eq_2 _ (by
        rintro digit rest rfl
        simp [List.isPrefixOf] at noPrefix)
    rw [plain text (Bool.eq_false_iff.mpr optional), plain marked markedOptional]
    have inLines : ∀ symbol ∈ symbols, '\n' ∉ symbol.toList := by decide
    have sameFound : symbols.find? (fun symbol => symbol.toList.isPrefixOf text) =
        symbols.find? (fun symbol => symbol.toList.isPrefixOf marked) := by
      rw [← List.head?_filter, ← List.head?_filter,
        List.filter_congr (fun symbol member => twin.isPrefixOf_eq (inLines symbol member))]
    rw [← sameFound]
    cases found : symbols.find? (fun symbol => symbol.toList.isPrefixOf text) with
    | none => exact .none
    | some symbol =>
        have opens : symbol.toList.isPrefixOf text := by simpa using List.find?_some found
        obtain ⟨after, rfl⟩ := List.isPrefixOf_iff_prefix.mp opens
        obtain ⟨markedAfter, rfl, twins⟩ :=
          twin.append (inLines symbol (List.mem_of_find?_eq_some found))
        refine .some ⟨rfl, ?_⟩
        simpa using twins

/-- The same word has been read from twins, and what is left of them are twins. -/
def SameWord
    {value : Type}
    (first second : value × Bool × List Char) :
    Prop :=
  first.1 = second.1 ∧ first.2.1 = second.2.1 ∧ Twin false first.2.2 second.2.2

/-- Words of twins are the same, letters and escapes alike. -/
theorem readWordFrom_sameWord
    {steps markedSteps : Nat}
    (enough : text.length < steps)
    (markedEnough : marked.length < markedSteps)
    (twin : Twin false text marked) :
    SameWord (readWordFrom steps text) (readWordFrom markedSteps marked) := by
  induction steps generalizing markedSteps text marked with
  | zero => omega
  | succ steps inductionHypothesis =>
      obtain ⟨markedSteps, rfl⟩ : ∃ fewer, markedSteps = fewer + 1 := ⟨markedSteps - 1, by omega⟩
      rcases twin.inLine with ⟨rfl, rfl⟩ | ⟨character, onward, markedOnward, rfl, rfl, _⟩
      · exact ⟨rfl, rfl, twin⟩
      · rw [List.length_cons] at enough markedEnough
        by_cases escapes : character = '\\' ∧ onward.head? = some 'u'
        · obtain ⟨rfl, unicode⟩ := escapes
          have onwardTwin := twin.inner (by decide)
          obtain ⟨code, rfl⟩ := List.head?_eq_some_iff.mp unicode
          obtain ⟨markedCode, rfl, twins⟩ := onwardTwin.tail (by decide)
          rw [List.length_cons] at enough markedEnough
          simp only [readWordFrom]
          rcases relCases twins.readCodePoint?_rel with
            ⟨first, second⟩ | ⟨⟨point, rest⟩, ⟨_, markedRest⟩, first, second, took⟩ <;>
            rw [first, second]
          · exact ⟨rfl, rfl, twin⟩
          · have restTwins := twin_of_took took twins
            obtain ⟨rfl, taken, _, rfl, rfl⟩ := took
            dsimp only at restTwins enough markedEnough ⊢
            rw [List.length_append] at enough markedEnough
            split
            · have same : SameWord (readWordFrom steps rest)
                  (readWordFrom markedSteps markedRest) :=
                inductionHypothesis (by omega) (by omega) restTwins
              exact ⟨congrArg (Char.ofNat point :: ·) same.1, rfl, same.2.2⟩
            · exact ⟨rfl, rfl, twin⟩
        · have isPlain (steps : Nat) (onward : List Char)
              (plain : character = '\\' → onward.head? ≠ some 'u') :
              readWordFrom (steps + 1) (character :: onward) =
                if Text.isIdentifierPart character then
                  (character :: (readWordFrom steps onward).1, (readWordFrom steps onward).2.1,
                    (readWordFrom steps onward).2.2)
                else
                  ([], false, character :: onward) :=
            readWordFrom.eq_4 _ _ _ (by rintro code rfl rfl; exact plain rfl rfl)
          rw [not_and] at escapes
          have markedEscapes (backslash : character = '\\') : markedOnward.head? ≠ some 'u' := by
            rw [← (twin.inner (by rw [backslash]; decide)).head?_eq]
            exact escapes backslash
          rw [isPlain _ _ escapes, isPlain _ _ markedEscapes]
          split
          next isPart =>
            have onwardTwin : Twin false onward markedOnward := by
              refine twin.inner ?_
              rintro rfl
              exact absurd isPart (by decide)
            have same : SameWord (readWordFrom steps onward)
                (readWordFrom markedSteps markedOnward) :=
              inductionHypothesis (by omega) (by omega) onwardTwin
            exact ⟨congrArg (character :: ·) same.1, same.2.1, same.2.2⟩
          next => exact ⟨rfl, rfl, twin⟩

/-- Twins start with the same word or both with none. -/
theorem readWord?_rel
    (twin : Twin false text marked) :
    Option.Rel SameWord (readWord? text) (readWord? marked) := by
  have same := readWordFrom_sameWord (Nat.lt_succ_self _) (Nat.lt_succ_self _) twin
  unfold readWord?
  rcases wordRead : readWordFrom (text.length + 1) text with ⟨characters, escaped, rest⟩
  rcases markedRead : readWordFrom (marked.length + 1) marked with ⟨_, _, markedRest⟩
  rw [wordRead, markedRead] at same
  obtain ⟨rfl, rfl, twins⟩ := same
  cases characters with
  | nil => exact .none
  | cons first others =>
      dsimp only
      split
      · exact .some ⟨rfl, rfl, twins⟩
      · exact .none

/-- What is read from a text that is no number and no string. -/
def readPlainToken
    (text : List Char) :
    Token × List Char :=
  match readWord? text with
  | some (name, escaped, after) => (.word name escaped, after)
  | none =>
      match readSymbol? text with
      | some (symbol, after) => (.symbol symbol, after)
      | none => (.invalid, [])

/-- Words and symbols are the same in twins. -/
theorem readPlainToken_sameRead
    (twin : Twin false text marked) :
    SameRead (readPlainToken text) (readPlainToken marked) := by
  unfold readPlainToken
  rcases relCases twin.readWord?_rel with
    ⟨first, second⟩
    | ⟨⟨name, escaped, rest⟩, ⟨_, _, markedRest⟩, first, second, rfl, rfl, twins⟩ <;>
    rw [first, second]
  · dsimp only
    rcases relCases twin.readSymbol?_rel with
      ⟨first, second⟩ | ⟨⟨symbol, rest⟩, ⟨_, markedRest⟩, first, second, rfl, twins⟩ <;>
      rw [first, second]
    · exact sameRead_invalid
    · exact ⟨rfl, twins⟩
  · exact ⟨rfl, twins⟩

/-- Which token is read depends on the first character, apart from points and hashes. -/
theorem readToken_cons
    {character : Char}
    {rest : List Char}
    (noPoint : character = '.' → rest = [])
    (noHash : character ≠ '#') :
    readToken (character :: rest) =
      if character.isDigit then
        Script.readNumber (character :: rest)
      else if character == '"' || character == '\'' then
        ((readString? character rest).map (fun read =>
          (Token.string (String.ofList read.1)
            (String.ofList (rest.take (rest.length - read.2.length - 1))), read.2))).getD
          (.invalid, [])
      else
        readPlainToken (character :: rest) := by
  rw [readToken.eq_4 _ _ (by rintro next others rfl rfl; cases noPoint rfl) noHash]
  split
  · rfl
  · split
    · cases readString? character rest <;> rfl
    · rfl

/-- The tokens at the same place of twins are the same. -/
theorem readToken_sameRead
    (twin : Twin false text marked) :
    SameRead (readToken text) (readToken marked) := by
  rcases twin.inLine with ⟨rfl, rfl⟩ | ⟨character, onward, markedOnward, rfl, rfl, _⟩
  · exact ⟨rfl, twin⟩
  · by_cases isHash : character = '#'
    · subst isHash
      simp only [readToken]
      rcases relCases (twin.inner (by decide)).readWord?_rel with
        ⟨first, second⟩
        | ⟨⟨name, escaped, rest⟩, ⟨_, _, markedRest⟩, first, second, rfl, rfl, twins⟩ <;>
        rw [first, second]
      · exact sameRead_invalid
      · exact ⟨rfl, twins⟩
    by_cases isPoint : character = '.' ∧ onward ≠ []
    · obtain ⟨rfl, goesOn⟩ := isPoint
      rcases (twin.inner (by decide)).inLine with ⟨rfl, rfl⟩
        | ⟨next, later, markedLater, rfl, rfl, _⟩
      · exact (goesOn rfl).elim
      · simp only [readToken]
        split
        · exact twin.readNumber
        · rcases relCases twin.readSymbol?_rel with
            ⟨first, second⟩ | ⟨⟨symbol, rest⟩, ⟨_, markedRest⟩, first, second, rfl, twins⟩ <;>
            rw [first, second]
          · exact sameRead_invalid
          · exact ⟨rfl, twins⟩
    · have noPoint (point : character = '.') : onward = [] := by
        by_contra goesOn
        exact isPoint ⟨point, goesOn⟩
      have markedNoPoint (point : character = '.') : markedOnward = [] := by
        rcases (twin.inner (by rw [point]; decide)).inLine with ⟨_, ends⟩ | ⟨_, _, _, goesOn, _⟩
        · exact ends
        · rw [noPoint point] at goesOn
          cases goesOn
      rw [readToken_cons noPoint isHash, readToken_cons markedNoPoint isHash]
      split
      · exact twin.readNumber
      · split
        next isQuote =>
          have isQuote : character = '"' ∨ character = '\'' := by simpa using isQuote
          have onwardTwin : Twin false onward markedOnward := by
            refine twin.inner ?_
            rintro rfl
            revert isQuote
            decide
          unfold readString?
          rcases relCases (readStringFrom?_rel isQuote (Nat.lt_succ_self _) (Nat.lt_succ_self _)
              onwardTwin) with
            ⟨first, second⟩
            | ⟨⟨value, after⟩, ⟨_, markedAfter⟩, first, second, rfl, raw, rfl, rfl⟩ <;>
            rw [first, second]
          · exact sameRead_invalid
          · have sameRaw (after : List Char) :
                (raw ++ character :: after).take
                    ((raw ++ character :: after).length - after.length - 1) = raw := by
              have length : (raw ++ character :: after).length - after.length - 1 = raw.length := by
                rw [List.length_append, List.length_cons]
                omega
              rw [length, List.take_left]
            refine ⟨?_, ?_⟩
            · simp only [Option.map_some, Option.getD_some, sameRaw]
            · obtain ⟨later, twins⟩ := onwardTwin.behind
              have inLine : (character == '\n' || later && Text.isBlank character) = false := by
                rcases isQuote with rfl | rfl <;> cases later <;> rfl
              exact inLine ▸ twins.uncons
        next => exact twin.readPlainToken_sameRead

/-- The body of a regular expression ends at the same place of twins. -/
theorem readRegexBody?_rel
    (inClass : Bool)
    (twin : Twin false text marked) :
    Option.Rel SameRead (readRegexBody? inClass text) (readRegexBody? inClass marked) := by
  induction length : text.length using Nat.strongRecOn generalizing text marked inClass with
  | ind length inductionHypothesis =>
      subst length
      rcases twin.inLine with ⟨rfl, rfl⟩ | ⟨character, onward, markedOnward, rfl, rfl, _⟩
      · exact .none
      · by_cases escapes : character = '\\' ∧ onward ≠ []
        · obtain ⟨rfl, goesOn⟩ := escapes
          have onwardTwin := twin.inner (by decide)
          rcases onwardTwin.inLine with ⟨rfl, rfl⟩ | ⟨next, later, markedLater, rfl, rfl, _⟩
          · exact (goesOn rfl).elim
          · simp only [readRegexBody?]
            split
            · exact .none
            next noEnd =>
              have sameLine : next ≠ '\n' := by
                rintro rfl
                exact noEnd rfl
              have laterTwin := onwardTwin.inner sameLine
              have rel := inductionHypothesis later.length
                (by simp only [List.length_cons]; omega) inClass laterTwin
                rfl
              rcases relCases rel with ⟨first, second⟩
                | ⟨left, right, first, second, same, twins⟩ <;>
                rw [first, second]
              · exact .none
              · exact .some ⟨congrArg ('\\' :: next :: ·) same, twins⟩
        · have noEscape (rest : List Char) (goesOn : rest = [] ↔ onward = []) (second : Char)
              (others : List Char) (backslash : character = '\\')
              (shape : rest = second :: others) :
              False := by
            refine escapes ⟨backslash, fun ends => ?_⟩
            rw [goesOn.mpr ends] at shape
            cases shape
          have together (sameLine : character ≠ '\n') : markedOnward = [] ↔ onward = [] := by
            rcases (twin.inner sameLine).inLine with ⟨rfl, rfl⟩ | ⟨_, _, _, rfl, rfl, _⟩ <;> simp
          by_cases ends : isLineEnd character
          · have refuses (rest : List Char) :
                readRegexBody? inClass (character :: rest) = none := by
              rw [readRegexBody?.eq_3 _ _ _ (by
                rintro _ _ rfl _
                exact absurd ends (by decide)), if_pos ends]
            rw [refuses, refuses]
            exact .none
          · have sameLine : character ≠ '\n' := by
              rintro rfl
              exact ends rfl
            rw [readRegexBody?.eq_3 _ _ _ (noEscape onward Iff.rfl),
              readRegexBody?.eq_3 _ _ _ (noEscape markedOnward (together sameLine)), if_neg ends,
              if_neg ends]
            split
            · exact .some ⟨rfl, twin.inner sameLine⟩
            · dsimp only
              rcases relCases (inductionHypothesis onward.length (by simp)
                  (if character == '[' then true else if character == ']' then false else inClass)
                  (twin.inner sameLine) rfl) with
                ⟨first, second⟩ | ⟨left, right, first, second, same, twins⟩ <;>
                rw [first, second]
              · exact .none
              · exact .some ⟨congrArg (character :: ·) same, twins⟩

/-- The same regular expression has been read from twins. -/
def SameRegex
    (first second : String × String × List Char) :
    Prop :=
  first.1 = second.1 ∧ first.2.1 = second.2.1 ∧ Twin false first.2.2 second.2.2

theorem readRegex?_rel
    (twin : Twin false text marked) :
    Option.Rel SameRegex (readRegex? text) (readRegex? marked) := by
  unfold readRegex?
  rcases relCases (twin.readRegexBody?_rel false) with
    ⟨first, second⟩ | ⟨⟨body, after⟩, ⟨_, markedAfter⟩, first, second, rfl, twins⟩ <;>
    rw [first, second]
  · exact .none
  · have stops : Text.isIdentifierPart '\n' = false := by decide
    dsimp only at twins ⊢
    rw [twins.takeWhile_eq stops]
    split
    · exact .some ⟨rfl, rfl, twins.dropWhile stops⟩
    · exact .none

end Twin

end Reactivity.Script
