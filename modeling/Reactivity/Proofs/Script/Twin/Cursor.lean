import Reactivity.Proofs.Script.Twin.Gap

namespace Reactivity.Script

open Refresh

/-!
# Cursors of twins

A text and its twin are read side by side. The two cursors stand at the same token, or the
one in the twin stands at a marker: then the other one has skipped the comment and stands
at the next token, which starts something new on a new line.
-/

/-- A text is its own twin. -/
theorem Twin.refl
    (atStart : Bool)
    (text : List Char) :
    Twin atStart text text := by
  induction text generalizing atStart with
  | nil => exact .nil atStart
  | cons character rest inductionHypothesis => exact .cons character (inductionHypothesis _)

namespace Cursor

variable
  {cursor marked : Cursor}

/-- The cursor stands behind the gap at the start of a text. -/
structure Shows
    (cursor : Cursor)
    (text : List Char) :
    Prop where
  skipped : ∃ ended, skipGap? .spaces ended text = some (cursor.isOnNewLine, cursor.here)
  isRead : readToken cursor.here = (cursor.token, cursor.rest)

/-- The cursors stand at the same token, and twins follow it. -/
structure SameToken
    (cursor marked : Cursor) :
    Prop where
  token : cursor.token = marked.token
  rest : Twin false cursor.rest marked.rest
  here : cursor.token ≠ .invalid → Twin false (cursor.here.drop 1) (marked.here.drop 1)
  newLine : cursor.token = .finish ∨ cursor.isOnNewLine = marked.isOnNewLine

/-- One cursor stands at a marker, and the other one at what follows the comment. -/
structure MarkerAhead
    (cursor marked : Cursor) :
    Prop where
  token : marked.token = .word markerName false
  anew : cursor.token.startsAnew
  goesOn :
    ∃ text markedText,
      marked.rest = ';' :: markedText ∧ Twin false text markedText ∧
        text.head?.all (· == '\n') ∧ cursor.Shows text

/-- Both stand at the start of a line there. -/
structure AtMarker
    (cursor marked : Cursor) :
    Prop extends MarkerAhead cursor marked where
  newLine : cursor.isOnNewLine
  markedNewLine : marked.isOnNewLine

/-- The cursors read twins side by side. -/
def Paired
    (cursor marked : Cursor) :
    Prop :=
  cursor.SameToken marked ∨ cursor.AtMarker marked

theorem SameToken.refl
    (cursor : Cursor) :
    cursor.SameToken cursor :=
  ⟨rfl, .refl _ _, fun _ => .refl _ _, .inr rfl⟩

/-- Behind a gap, a line has ended if it has ended before the gap or in it. -/
theorem Shows.exists_ended
    {text : List Char}
    (shown : cursor.Shows text) :
    ∃ before ended,
      skipGap? .spaces false text = some (ended, cursor.here) ∧
        cursor.isOnNewLine = (before || ended) := by
  obtain ⟨before, skipped⟩ := shown.skipped
  have shifted := skipGap?_or .spaces before false text
  rw [Bool.or_false, skipped] at shifted
  obtain ⟨⟨ended, here⟩, isSkipped, made⟩ := Option.map_eq_some_iff.mp shifted.symm
  obtain ⟨newLine, rfl⟩ := Prod.mk.inj made
  exact ⟨before, ended, isSkipped, newLine.symm⟩

/-- A first cursor shows its text, unless a comment is not closed. -/
theorem shows_ofText
    {size : Nat}
    {text here : List Char}
    {ended : Bool}
    (skipped : skipGap? .spaces false text = some (ended, here)) :
    (ofText size text).Shows text := by
  rw [ofText_of_skipped skipped]
  exact ⟨⟨false, skipped⟩, rfl⟩

/-- The token behind a gap does not depend on the lines that have ended before. -/
theorem Shows.token_eq
    {text : List Char}
    (shown : cursor.Shows text)
    (size : Nat) :
    (ofText size text).token = cursor.token := by
  obtain ⟨before, ended, skipped, _⟩ := shown.exists_ended
  rw [ofText_of_skipped skipped]
  exact congrArg Prod.fst shown.isRead

theorem readToken_mark
    (rest : List Char) :
    readToken (markText ++ rest) = (.word markerName false, ';' :: rest) := by
  have shape : markText ++ rest = markerName.toList ++ ';' :: rest := by simp [markText]
  have isWord : IsWord markerName.toList := ⟨by decide, by decide, by decide⟩
  rw [shape, readToken_word isWord rfl, String.ofList_toList]

/--
What the cursor at a gap has beside it in the twin.

The lines that have ended before the gap may differ.
-/
theorem beside_of_gapTwin
    {known : Prop}
    {text markedText : List Char}
    (size : Nat)
    (gap : Twin.GapTwin known (skipGap? .spaces false text) (skipGap? .spaces false markedText))
    (shown : cursor.Shows text)
    (newLine : cursor.token = .finish ∨
      cursor.isOnNewLine = (ofText 0 text).isOnNewLine) :
    cursor.SameToken (ofText size markedText) ∨
      cursor.MarkerAhead (ofText size markedText) ∧
        (known → cursor.isOnNewLine ∧ (ofText size markedText).isOnNewLine) := by
  obtain ⟨before, ended, skipped, isEnded⟩ := shown.exists_ended
  rw [ofText_of_skipped skipped] at newLine
  generalize markedSkip : skipGap? .spaces false markedText = markedOut at gap
  generalize skip : skipGap? .spaces false text = out at gap
  rw [skip] at skipped
  cases gap with
  | «open» => cases skipped
  | @same here markedHere ended twin starts =>
      cases skipped
      rw [ofText_of_skipped markedSkip]
      have sameRead := twin.readToken_sameRead
      rw [shown.isRead] at sameRead
      refine .inl ⟨sameRead.1, sameRead.2, fun _ => ?_, newLine⟩
      rcases twin.inLine with ⟨here, markedHere⟩
        | ⟨first, onward, markedOnward, here, markedHere, _⟩
      · simp only [here, markedHere]
        exact .nil false
      · simp only [here, markedHere, List.drop_one, List.tail_cons]
        rw [here, markedHere] at twin
        refine twin.inner ?_
        rintro rfl
        exact starts (by rw [here]; rfl)
  | @mark later laterMarked endedThere goneOn ends anew twin isKnown goesOn =>
      have shifted := skipGap?_or .spaces before goneOn later
      rw [skipped] at shifted
      have showsLater : cursor.Shows later := by
        refine ⟨⟨before || goneOn, ?_⟩, shown.isRead⟩
        rw [shifted, isEnded]
        rfl
      rw [ofText_of_skipped markedSkip]
      have markRead := readToken_mark laterMarked
      refine .inr ⟨⟨congrArg Prod.fst markRead, ?_, later, laterMarked, congrArg Prod.snd markRead,
        twin, ends, showsLater⟩, fun holds => ⟨?_, isKnown holds⟩⟩
      · rw [← showsLater.token_eq 0]
        exact anew
      · have isEndedThere : goneOn = true := goesOn (isKnown holds)
        rw [isEndedThere, skipGap?_true] at skipped
        obtain ⟨_, _, made⟩ := Option.map_eq_some_iff.mp skipped
        rw [isEnded, ← (Prod.mk.inj made).1, Bool.or_true]

/-- Twins start with tokens side by side, inside of a line also at its end. -/
theorem beside_ofText
    (size markedSize : Nat)
    {known : Prop}
    {atStart : Bool}
    {text markedText : List Char}
    (inLine : known → atStart = false)
    (twin : Twin atStart text markedText) :
    (ofText size text).SameToken (ofText markedSize markedText) ∨
      (ofText size text).MarkerAhead (ofText markedSize markedText) ∧
        (known → (ofText size text).isOnNewLine ∧ (ofText markedSize markedText).isOnNewLine) := by
  have gap : Twin.GapTwin known (skipGap? .spaces false text) (skipGap? .spaces false markedText) :=
    Twin.skipGap?_gapTwin ⟨by simp, by simp, fun isKnown => by simp [inLine isKnown]⟩ twin
  cases skipped : skipGap? .spaces false text with
  | none =>
      rw [skipped] at gap
      have markedOpen : skipGap? .spaces false markedText = none := by
        generalize markedSkip : skipGap? .spaces false markedText = markedOut at gap
        generalize out : (none : Option (Bool × List Char)) = isNone at gap
        cases gap with
        | «open» => rfl
        | same => cases out
        | @mark text _ _ later ends anew twin isKnown goesOn =>
            have isOpen := skipGap?_or .spaces later false text
            rw [Bool.or_false, ← out, eq_comm, Option.map_eq_none_iff] at isOpen
            rw [ofText_of_open isOpen] at anew
            cases anew
      left
      rw [ofText_of_open skipped, ofText_of_open markedOpen]
      exact ⟨rfl, .nil false, fun proper => (proper rfl).elim, .inr rfl⟩
  | some here =>
      have newLine : (ofText size text).token = .finish ∨
          (ofText size text).isOnNewLine = (ofText 0 text).isOnNewLine := by
        right
        rw [ofText_of_skipped skipped, ofText_of_skipped skipped]
      exact beside_of_gapTwin markedSize gap (shows_ofText skipped) newLine

/-- Twins inside of a line start with tokens side by side. -/
theorem paired_ofText
    (size markedSize : Nat)
    {text markedText : List Char}
    (twin : Twin false text markedText) :
    (ofText size text).Paired (ofText markedSize markedText) := by
  rcases beside_ofText size markedSize (fun _ : True => rfl) twin with same | ⟨ahead, newLines⟩
  · exact .inl same
  · exact .inr ⟨ahead, (newLines trivial).1, (newLines trivial).2⟩

/-- Behind a token, twins go on side by side. -/
theorem SameToken.next
    (same : cursor.SameToken marked) :
    cursor.next.Paired marked.next :=
  paired_ofText _ _ same.rest

/-- The cursor stands at a mark: at the name of the marker, with a semicolon behind it. -/
structure AtMark
    (cursor : Cursor) :
    Prop where
  token : cursor.token = .word markerName false
  ends : cursor.next.token = .symbol ";"

theorem MarkerAhead.atMark
    (ahead : cursor.MarkerAhead marked) :
    marked.AtMark := by
  obtain ⟨_, markedText, rest, _⟩ := ahead.goesOn
  refine ⟨ahead.token, ?_⟩
  rw [next, rest]
  rfl

/-- Behind a mark, the cursors are side by side while one has not moved. -/
theorem MarkerAhead.paired
    (ahead : cursor.MarkerAhead marked) :
    cursor.Paired marked.next.next := by
  obtain ⟨text, markedText, rest, twin, ends, shown⟩ := ahead.goesOn
  have behind : marked.next.next = ofText marked.size markedText := by
    rw [next, next, rest]
    rfl
  rw [behind]
  have gap : Twin.GapTwin True (skipGap? .spaces false text) (skipGap? .spaces false markedText) :=
    Twin.skipGap?_gapTwin (.inner ..) twin
  have newLine : cursor.token = .finish ∨ cursor.isOnNewLine = (ofText 0 text).isOnNewLine := by
    obtain ⟨before, ended, skipped, isEnded⟩ := shown.exists_ended
    cases text with
    | nil =>
        left
        have atEnd : some (false, []) = some (ended, cursor.here) := skipped
        have isRead := shown.isRead
        rw [← (Prod.mk.inj (Option.some.inj atEnd)).2] at isRead
        exact (congrArg Prod.fst isRead).symm
    | cons character rest =>
        right
        obtain rfl : character = '\n' := by simpa using ends
        rw [ofText_of_skipped skipped, isEnded]
        have crossed : skipGap? .spaces true rest = some (ended, cursor.here) := skipped
        rw [skipGap?_true] at crossed
        obtain ⟨_, _, made⟩ := Option.map_eq_some_iff.mp crossed
        rw [← (Prod.mk.inj made).1, Bool.or_true]
  rcases beside_of_gapTwin marked.size gap shown newLine with same | ⟨ahead, newLines⟩
  · exact .inl same
  · exact .inr ⟨ahead, (newLines trivial).1, (newLines trivial).2⟩

end Cursor

end Reactivity.Script
