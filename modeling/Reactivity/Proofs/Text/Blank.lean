import Mathlib.Data.List.TakeWhile
import Reactivity.Text.Blank

namespace Reactivity.Text

/-!
# Blank margins

A text that is not blank is a core between two blank margins, and the core neither
starts nor ends with a blank character. Trimming gives the core. Collapsing makes the
margins at most one space wide and leaves the core as it is. So a text that has been
collapsed stays as it is when that is done again, and has the core that it had before.
-/

theorem allBlank_iff
    {text : List Char} :
    allBlank text ↔ ∀ character ∈ text, isBlank character :=
  List.all_eq_true

/-- A text taken apart into its core and the blank margins around it. -/
structure Framed where
  left : List Char
  core : List Char
  right : List Char
  leftBlank : allBlank left
  rightBlank : allBlank right
  starts : ∃ first rest, core = first :: rest ∧ isBlank first = false
  ends : ∃ front last, core = front ++ [last] ∧ isBlank last = false

/-- A text that is not blank has a first character that is not. -/
theorem exists_first_solid
    {text : List Char}
    (occupied : allBlank text = false) :
    ∃ margin first rest,
      text = margin ++ first :: rest ∧ allBlank margin ∧ isBlank first = false := by
  induction text with
  | nil =>
      cases occupied
  | cons character rest inductionHypothesis =>
      cases blank : isBlank character with
      | false =>
          exact ⟨[], character, rest, rfl, rfl, blank⟩
      | true =>
          have restOccupied : allBlank rest = false := by
            simpa [allBlank, blank] using occupied
          obtain ⟨margin, first, later, rfl, marginBlank, solid⟩ :=
            inductionHypothesis restOccupied
          refine ⟨character :: margin, first, later, rfl, ?_, solid⟩
          simpa [allBlank, blank] using marginBlank

namespace Framed

/-- The text put together again. -/
def text
    (framed : Framed) :
    List Char :=
  framed.left ++ framed.core ++ framed.right

/-- Every text that is not blank can be taken apart. -/
theorem exists_text_eq
    {text : List Char}
    (occupied : allBlank text = false) :
    ∃ framed : Framed, framed.text = text := by
  obtain ⟨left, first, rest, rfl, leftBlank, firstSolid⟩ := exists_first_solid occupied
  -- The last solid character is the first one when the rest is read backwards.
  have backwardsOccupied : allBlank (first :: rest).reverse = false := by
    simp [allBlank, firstSolid]
  obtain ⟨margin, last, front, backwards, marginBlank, lastSolid⟩ :=
    exists_first_solid backwardsOccupied
  have forwards : first :: rest = (front.reverse ++ [last]) ++ margin.reverse := by
    rw [← List.reverse_reverse (first :: rest), backwards]
    simp
  have starts :
      ∃ start later, front.reverse ++ [last] = start :: later ∧ isBlank start = false := by
    cases shape : front.reverse with
    | nil =>
        exact ⟨last, [], rfl, lastSolid⟩
    | cons start later =>
        rw [shape] at forwards
        cases forwards
        exact ⟨first, later ++ [last], rfl, firstSolid⟩
  have rightBlank : allBlank margin.reverse := by
    simpa [allBlank] using marginBlank
  refine
    ⟨{ left
       core := front.reverse ++ [last]
       right := margin.reverse
       leftBlank
       rightBlank
       starts
       ends := ⟨front.reverse, last, rfl, lastSolid⟩ }, ?_⟩
  rw [forwards, ← List.append_assoc]
  rfl

theorem allBlank_text
    (framed : Framed) :
    allBlank framed.text = false := by
  obtain ⟨first, rest, shape, solid⟩ := framed.starts
  simp [allBlank, text, shape, solid]

/-- Trimming leaves the core. -/
theorem trim_text
    (framed : Framed) :
    trim framed.text = framed.core := by
  obtain ⟨first, rest, startShape, firstSolid⟩ := framed.starts
  obtain ⟨front, last, endShape, lastSolid⟩ := framed.ends
  have started : trimStart framed.text = framed.core ++ framed.right := by
    unfold trimStart text
    rw [List.append_assoc, List.dropWhile_append_of_pos (allBlank_iff.mp framed.leftBlank),
      startShape]
    exact List.dropWhile_cons_of_neg (by simp [firstSolid])
  have rightBackwards : ∀ character ∈ framed.right.reverse, isBlank character := by
    intro character member
    exact allBlank_iff.mp framed.rightBlank character (List.mem_reverse.mp member)
  unfold trim trimEnd
  rw [started, List.reverse_append, List.dropWhile_append_of_pos rightBackwards, endShape,
    List.reverse_append, List.reverse_singleton, List.singleton_append,
    List.dropWhile_cons_of_neg (by simp [lastSolid])]
  simp

/-- Whether a space is put in front depends on the left margin. -/
theorem leadingSpace_text
    (framed : Framed) :
    leadingSpace framed.text = leadingSpace framed.left := by
  obtain ⟨first, rest, shape, solid⟩ := framed.starts
  cases left : framed.left with
  | nil =>
      simp [text, left, shape, leadingSpace, solid]
  | cons character margin =>
      simp [text, left, leadingSpace]

/-- The same text read backwards. -/
def backwards
    (framed : Framed) :
    Framed where
  left := framed.right.reverse
  core := framed.core.reverse
  right := framed.left.reverse
  leftBlank := by
    simpa [allBlank] using framed.rightBlank
  rightBlank := by
    simpa [allBlank] using framed.leftBlank
  starts := by
    obtain ⟨front, last, shape, solid⟩ := framed.ends
    exact ⟨last, front.reverse, by simp [shape], solid⟩
  ends := by
    obtain ⟨first, rest, shape, solid⟩ := framed.starts
    exact ⟨rest.reverse, first, by simp [shape], solid⟩

/-- Backwards, the two margins change places. -/
theorem text_backwards
    (framed : Framed) :
    framed.backwards.text = framed.text.reverse := by
  simp [text, backwards]

theorem allBlank_leadingSpace
    (text : List Char) :
    allBlank (leadingSpace text) := by
  unfold leadingSpace
  split
  · rfl
  · split <;> rfl

/-- The same core between margins that are at most one space wide. -/
def narrowed
    (framed : Framed) :
    Framed where
  left := leadingSpace framed.left
  core := framed.core
  right := leadingSpace framed.right.reverse
  leftBlank := allBlank_leadingSpace _
  rightBlank := allBlank_leadingSpace _
  starts := framed.starts
  ends := framed.ends

/-- Collapsing narrows both margins and leaves the core. -/
theorem collapse_text
    (framed : Framed) :
    collapse framed.text = framed.narrowed.text := by
  have occupied : framed.text.isEmpty = false := by
    cases shape : framed.text with
    | nil =>
        have blank := framed.allBlank_text
        rw [shape] at blank
        cases blank
    | cons character rest =>
        rfl
  have endSpace : leadingSpace framed.text.reverse = leadingSpace framed.right.reverse := by
    rw [← text_backwards]
    exact framed.backwards.leadingSpace_text
  unfold collapse
  simp only [occupied, framed.allBlank_text, framed.trim_text, framed.leadingSpace_text, endSpace]
  rfl

/-- Margins are narrowed once. -/
theorem narrowed_narrowed
    (framed : Framed) :
    framed.narrowed.narrowed.text = framed.narrowed.text := by
  have narrow (margin : List Char) :
      leadingSpace (leadingSpace margin) = leadingSpace margin ∧
        leadingSpace (leadingSpace margin).reverse = leadingSpace margin := by
    cases margin with
    | nil => exact ⟨rfl, rfl⟩
    | cons character rest =>
        have spaceBlank : isBlank ' ' := by
          decide
        cases blank : isBlank character <;> simp [leadingSpace, blank, spaceBlank]
  simp [text, narrowed, narrow]

end Framed

/-- A blank text collapses to a space, or stays empty. -/
theorem collapse_of_allBlank
    {text : List Char}
    (blank : allBlank text) :
    collapse text = if text.isEmpty then [] else [' '] := by
  simp [collapse, blank]

/-- Collapsing twice is collapsing once. -/
theorem collapse_collapse
    (text : List Char) :
    collapse (collapse text) = collapse text := by
  cases blank : allBlank text with
  | true =>
      rw [collapse_of_allBlank blank]
      cases text <;> rfl
  | false =>
      obtain ⟨framed, rfl⟩ := Framed.exists_text_eq blank
      rw [framed.collapse_text, framed.narrowed.collapse_text, framed.narrowed_narrowed]

/-- Collapsing makes no text blank that was not, and leaves none blank no longer. -/
theorem allBlank_collapse
    (text : List Char) :
    allBlank (collapse text) = allBlank text := by
  cases blank : allBlank text with
  | true =>
      rw [collapse_of_allBlank blank]
      cases text <;> rfl
  | false =>
      obtain ⟨framed, rfl⟩ := Framed.exists_text_eq blank
      rw [framed.collapse_text, framed.narrowed.allBlank_text]

theorem trim_of_allBlank
    {text : List Char}
    (blank : allBlank text) :
    trim text = [] := by
  have started : trimStart text = [] := List.dropWhile_eq_nil_iff.mpr (allBlank_iff.mp blank)
  rw [trim, started]
  rfl

/-- Collapsing changes nothing that trimming would leave. -/
theorem trim_collapse
    (text : List Char) :
    trim (collapse text) = trim text := by
  cases blank : allBlank text with
  | true =>
      have collapsedBlank : allBlank (collapse text) := by
        rw [allBlank_collapse, blank]
      rw [trim_of_allBlank blank, trim_of_allBlank collapsedBlank]
  | false =>
      obtain ⟨framed, rfl⟩ := Framed.exists_text_eq blank
      rw [framed.collapse_text, framed.trim_text, framed.narrowed.trim_text]
      rfl

/-- To collapse the blanks of a text twice is to do it once. -/
theorem collapseBlanks_collapseBlanks
    (text : String) :
    collapseBlanks (collapseBlanks text) = collapseBlanks text := by
  simp [collapseBlanks, collapse_collapse]

theorem isBlankText_collapseBlanks
    (text : String) :
    isBlankText (collapseBlanks text) = isBlankText text := by
  simp [isBlankText, collapseBlanks, allBlank_collapse]

/-- Collapsing the blanks of a text leaves its core. -/
theorem trim_collapseBlanks
    (text : String) :
    trim (collapseBlanks text).toList = trim text.toList := by
  simp [collapseBlanks, trim_collapse]

end Reactivity.Text
