import Reactivity.Text.Lines

namespace Reactivity.Text

/-!
# Texts as lists of lines

Cutting a text at its line feeds and putting the lines together again are inverse to each
other, as long as no line holds a line feed. A change of lines that brings none in changes
a text line by line, and the parts of a text before and after a line feed one by one.
-/

/-- The lines of a text are what is between its line feeds. -/
theorem splitLines_eq
    (text : List Char) :
    splitLines text = text.splitOn '\n' := by
  induction text with
  | nil =>
      rfl
  | cons character rest inductionHypothesis =>
      rw [List.splitOn_cons_eq_if_modifyHead]
      by_cases isFeed : character = '\n'
      · subst isFeed
        rw [← inductionHypothesis]
        rfl
      · rw [splitLines, if_neg (by simpa using isFeed), inductionHypothesis]
        · cases lines : rest.splitOn '\n' with
          | nil => exact (List.splitOn_ne_nil _ _ lines).elim
          | cons line others => rfl
        · exact isFeed

/-- Lines are put together with a line feed between them. -/
theorem joinLines_eq
    (lines : List (List Char)) :
    joinLines lines = ['\n'].intercalate lines := by
  induction lines with
  | nil =>
      rfl
  | cons line rest inductionHypothesis =>
      cases rest with
      | nil =>
          simp [joinLines]
      | cons next lines =>
          rw [joinLines, inductionHypothesis, List.intercalate_cons_cons, List.append_assoc]
          rfl

/-- There is no line feed in a line. -/
theorem noFeed_of_mem_splitOn
    {text line : List Char}
    (member : line ∈ text.splitOn '\n') :
    '\n' ∉ line := by
  induction text generalizing line with
  | nil =>
      obtain rfl : line = [] := by
        simpa using member
      simp
  | cons character rest inductionHypothesis =>
      rw [List.splitOn_cons_eq_if_modifyHead] at member
      split at member
      · rcases List.mem_cons.mp member with rfl | inRest
        · simp
        · exact inductionHypothesis inRest
      · next noFeed =>
          cases lines : rest.splitOn '\n' with
          | nil =>
              simp [lines] at member
          | cons first others =>
              have inFirst : '\n' ∉ first := inductionHypothesis (by simp [lines])
              rw [lines, List.modifyHead_cons, List.mem_cons] at member
              rcases member with rfl | inOthers
              · rw [List.mem_cons, not_or]
                exact ⟨fun same => noFeed (beq_iff_eq.mpr same.symm), inFirst⟩
              · exact inductionHypothesis (by simp [lines, inOthers])

/-- A text with the changed lines of another one is the changed text. -/
theorem mapLines_unique
    {change : List Char → List Char}
    {text other : List Char}
    (lines : other.splitOn '\n' = (text.splitOn '\n').map change) :
    mapLines change text = other := by
  have joined : ['\n'].intercalate (other.splitOn '\n') = other :=
    List.intercalate_splitOn '\n'
  rw [← joined, lines, mapLines, joinLines_eq, splitLines_eq]

section Change

variable
  {change : List Char → List Char}
  (keepsLines : ∀ line, '\n' ∉ line → '\n' ∉ change line)
include keepsLines

/-- The lines of a changed text are the changed lines. -/
theorem splitOn_mapLines
    (text : List Char) :
    (mapLines change text).splitOn '\n' = (text.splitOn '\n').map change := by
  rw [mapLines, joinLines_eq, splitLines_eq]
  apply List.splitOn_intercalate
  · intro line member
    obtain ⟨before, isLine, rfl⟩ := List.mem_map.mp member
    exact keepsLines before (noFeed_of_mem_splitOn isLine)
  · simp [List.splitOn_ne_nil]

/-- What stands before and after a line feed is changed apart. -/
theorem mapLines_append
    (first second : List Char) :
    mapLines change (first ++ '\n' :: second) =
      mapLines change first ++ '\n' :: mapLines change second := by
  apply mapLines_unique
  rw [List.splitOn_append_cons_self, List.splitOn_append_cons_self, List.map_append,
    splitOn_mapLines keepsLines, splitOn_mapLines keepsLines]

end Change

end Reactivity.Text
