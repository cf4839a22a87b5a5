import Mathlib.Data.List.TakeWhile
import Reactivity.Proofs.Script.Token
import Reactivity.Refresh.CheckStop

namespace Reactivity.Script

open Refresh

/-!
# Texts with and without marks

A text and its twin differ in the lines that ask for a check stop: where the text has the
comment, the twin has the marker. Such a line starts behind a line feed, so the twins go
on alike up to the end of a line. Whatever is read from inside of a line is read from both.
-/

/-- The words that go on with what stands before them. -/
def continuingWords : List String :=
  ["in", "instanceof", "of", "as", "from", "with", "else", "catch", "finally", "extends"]

/-- The token starts something new: what stands before it does not go on with it. -/
def Token.startsAnew :
    Token →
    Bool
  | .finish | .number _ | .bigInteger _ => true
  | .symbol text => text == "\x7d"
  | .word text _ => !continuingWords.contains text
  | _ => false

/-- The text of a marker statement. -/
def markText : List Char :=
  markerName.toList ++ [';']

/-- A comment that asks for a check stop, up to the end of its line. -/
structure IsStopComment
    (comment : List Char) :
    Prop where
  shape :
    ∃ before after,
      comment = '/' :: '/' :: (before ++ checkStopComment ++ after) ∧
        (∀ character ∈ before, Text.isBlank character ∧ isLineEnd character = false) ∧
        ∀ character ∈ after, Text.isBlank character ∧ character ≠ '\n'

/--
A text and its twin.

The flag says that nothing but blanks stand between here and the start of the line, which
is where a comment can be. Behind the comment the line ends, and what follows does not go
on with what stands before it.
-/
inductive Twin :
    Bool →
    List Char →
    List Char →
    Prop where
  | nil (atStart : Bool) :
      Twin atStart [] []
  | cons
      {atStart : Bool}
      {text marked : List Char}
      (character : Char)
      (onward : Twin (character == '\n' || atStart && Text.isBlank character) text marked) :
      Twin atStart (character :: text) (character :: marked)
  | mark
      {comment text marked : List Char}
      (isComment : IsStopComment comment)
      (ends : text.head?.all (· == '\n'))
      (anew : (Cursor.ofText 0 text).token.startsAnew)
      (onward : Twin false text marked) :
      Twin true (comment ++ text) (markText ++ marked)

namespace Twin

variable
  {atStart : Bool}
  {text marked : List Char}

/-- Inside of a line, twins go on with the same character. -/
theorem inLine
    (twin : Twin false text marked) :
    text = [] ∧ marked = [] ∨
      ∃ character onward markedOnward,
        text = character :: onward ∧ marked = character :: markedOnward ∧
          Twin (character == '\n') onward markedOnward := by
  cases twin with
  | nil => exact .inl ⟨rfl, rfl⟩
  | @cons _ onward markedOnward character twin =>
      refine .inr ⟨character, onward, markedOnward, rfl, rfl, ?_⟩
      rwa [Bool.false_and, Bool.or_false] at twin

/-- Twins inside of a line are twins also where a comment could be. -/
theorem widen
    (twin : Twin false text marked)
    (atStart : Bool) :
    Twin atStart text marked := by
  cases atStart with
  | false => exact twin
  | true =>
      induction text generalizing marked with
      | nil =>
          rcases twin.inLine with ⟨_, rfl⟩ | ⟨character, onward, markedOnward, shape, _⟩
          · exact .nil true
          · cases shape
      | cons first rest inductionHypothesis =>
          rcases twin.inLine with ⟨shape, _⟩ | ⟨character, onward, markedOnward, shape, rfl, twin⟩
          · cases shape
          · cases shape
            refine .cons first ?_
            by_cases ends : first = '\n'
            · subst ends
              exact twin
            · rw [beq_eq_false_iff_ne.mpr ends, Bool.true_and, Bool.false_or]
              rw [beq_eq_false_iff_ne.mpr ends] at twin
              cases Text.isBlank first with
              | false => exact twin
              | true => exact inductionHypothesis twin

theorem head?_eq
    (twin : Twin false text marked) :
    text.head? = marked.head? := by
  rcases twin.inLine with ⟨rfl, rfl⟩ | ⟨character, onward, markedOnward, rfl, rfl, _⟩ <;> rfl

/-- Twins that start with the same character go on with twins. -/
theorem uncons
    {character : Char}
    (twin : Twin atStart (character :: text) (character :: marked)) :
    Twin (character == '\n' || atStart && Text.isBlank character) text marked := by
  generalize whole : character :: text = left at twin
  generalize markedWhole : character :: marked = right at twin
  cases twin with
  | nil => cases whole
  | cons first onward =>
      cases whole
      cases markedWhole
      exact onward
  | mark isComment =>
      obtain ⟨before, after, rfl, _⟩ := isComment.shape
      have slash : character = '/' := (List.cons.inj whole).1
      have dollar : character = '$' := (List.cons.inj markedWhole).1
      rw [slash] at dollar
      cases dollar

/-- Behind a character that ends no line, twins are still inside of it. -/
theorem inner
    {character : Char}
    (twin : Twin false (character :: text) (character :: marked))
    (sameLine : character ≠ '\n') :
    Twin false text marked := by
  have onward := twin.uncons
  rwa [beq_eq_false_iff_ne.mpr sameLine] at onward

/-- Behind a character that is not blank, twins are inside of a line. -/
theorem behindSolid
    {character : Char}
    (isSolid : Text.isBlank character = false)
    (onward : Twin (character == '\n' || atStart && Text.isBlank character) text marked) :
    Twin false text marked := by
  have sameLine : (character == '\n') = false := by
    rw [beq_eq_false_iff_ne]
    rintro rfl
    cases isSolid
  rwa [sameLine, isSolid, Bool.and_false, Bool.or_false] at onward

/-- A first character that ends no line is that of both twins. -/
theorem tail
    {character : Char}
    (twin : Twin false (character :: text) marked)
    (sameLine : character ≠ '\n') :
    ∃ onward, marked = character :: onward ∧ Twin false text onward := by
  rcases twin.inLine with ⟨shape, _⟩ | ⟨first, onward, markedOnward, shape, rfl, onwardTwin⟩
  · cases shape
  · cases shape
    rw [beq_eq_false_iff_ne.mpr sameLine] at onwardTwin
    exact ⟨markedOnward, rfl, onwardTwin⟩

theorem takeWhile_eq
    {check : Char → Bool}
    (stops : check '\n' = false)
    (twin : Twin false text marked) :
    text.takeWhile check = marked.takeWhile check := by
  induction text generalizing marked with
  | nil =>
      rcases twin.inLine with ⟨_, rfl⟩ | ⟨_, _, _, shape, _⟩
      · rfl
      · cases shape
  | cons first rest inductionHypothesis =>
      rcases twin.inLine with ⟨shape, _⟩ | ⟨character, onward, markedOnward, shape, rfl, _⟩
      · cases shape
      · cases shape
        cases passes : check first with
        | false => simp [passes]
        | true =>
            have sameLine : first ≠ '\n' := by
              rintro rfl
              rw [stops] at passes
              cases passes
            have onward := twin.inner sameLine
            simp [passes, inductionHypothesis onward]

theorem dropWhile
    {check : Char → Bool}
    (stops : check '\n' = false)
    (twin : Twin false text marked) :
    Twin false (text.dropWhile check) (marked.dropWhile check) := by
  induction text generalizing marked with
  | nil =>
      rcases twin.inLine with ⟨_, rfl⟩ | ⟨_, _, _, shape, _⟩
      · exact .nil false
      · cases shape
  | cons first rest inductionHypothesis =>
      rcases twin.inLine with ⟨shape, _⟩ | ⟨character, onward, markedOnward, shape, rfl, _⟩
      · cases shape
      · cases shape
        cases passes : check first with
        | false => simpa [passes] using twin
        | true =>
            have sameLine : first ≠ '\n' := by
              rintro rfl
              rw [stops] at passes
              cases passes
            have onward := twin.inner sameLine
            simpa [passes] using inductionHypothesis onward

/-- A beginning without a line feed is that of both twins. -/
theorem append
    {start : List Char}
    (sameLine : '\n' ∉ start)
    (twin : Twin false (start ++ text) marked) :
    ∃ onward, marked = start ++ onward ∧ Twin false text onward := by
  induction start generalizing marked with
  | nil => exact ⟨marked, rfl, twin⟩
  | cons first rest inductionHypothesis =>
      rw [List.mem_cons, not_or] at sameLine
      obtain ⟨onward, rfl, onwardTwin⟩ := twin.tail (Ne.symm sameLine.1)
      obtain ⟨later, rfl, laterTwin⟩ := inductionHypothesis sameLine.2 onwardTwin
      exact ⟨later, rfl, laterTwin⟩

/-- A first part, if it holds no line feed, is that of both twins. -/
theorem take
    (count : Nat)
    (twin : Twin false text marked) :
    text.take count = marked.take count ∧ Twin false (text.drop count) (marked.drop count) ∨
      '\n' ∈ text.take count ∧ '\n' ∈ marked.take count := by
  induction count generalizing text marked with
  | zero => exact .inl ⟨rfl, twin⟩
  | succ count inductionHypothesis =>
      rcases twin.inLine with ⟨rfl, rfl⟩ | ⟨character, onward, markedOnward, rfl, rfl, _⟩
      · exact .inl ⟨rfl, twin⟩
      · by_cases ends : character = '\n'
        · exact .inr (by simp [ends])
        · obtain ⟨_, shape, onwardTwin⟩ := twin.tail ends
          cases shape
          rcases inductionHypothesis onwardTwin with ⟨same, later⟩ | ⟨first, second⟩
          · exact .inl ⟨by simp [same], later⟩
          · exact .inr (by simp [first, second])

theorem isPrefixOf_eq
    {start : List Char}
    (sameLine : '\n' ∉ start)
    (twin : Twin false text marked) :
    start.isPrefixOf text = start.isPrefixOf marked := by
  induction start generalizing text marked with
  | nil => rfl
  | cons first rest inductionHypothesis =>
      rw [List.mem_cons, not_or] at sameLine
      rcases twin.inLine with ⟨rfl, rfl⟩ | ⟨character, onward, markedOnward, rfl, rfl, _⟩
      · rfl
      · by_cases same : first = character
        · subst same
          obtain ⟨_, shape, onwardTwin⟩ := twin.tail (Ne.symm sameLine.1)
          cases shape
          simp [List.isPrefixOf, inductionHypothesis sameLine.2 onwardTwin]
        · simp [List.isPrefixOf, beq_eq_false_iff_ne.mpr same]

/-- The same value has been read from twins, and what is left of them are twins. -/
def SameRead
    {value : Type}
    (first second : value × List Char) :
    Prop :=
  first.1 = second.1 ∧ Twin false first.2 second.2

theorem relCases
    {value : Type}
    {first second : Option value}
    {related : value → value → Prop}
    (rel : Option.Rel related first second) :
    first = none ∧ second = none ∨
      ∃ left right, first = some left ∧ second = some right ∧ related left right := by
  cases rel with
  | none => exact .inl ⟨rfl, rfl⟩
  | some same => exact .inr ⟨_, _, rfl, rfl, same⟩

end Twin

end Reactivity.Script
