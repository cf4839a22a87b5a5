import Reactivity.Proofs.Refresh.Marking
import Reactivity.Proofs.Script.Twin.Cursor

namespace Reactivity.Script

open Refresh

/-!
# A marked script is a twin

Marking makes a twin of a script when each comment that asks for a check stop is one of the
script too, and what follows it starts something new. The comment could end before its line
does, because not only a line feed ends it.
-/

/-- What stands below a line, with the line feed at its end. -/
def textBelow
    (lines : List (List Char)) :
    List Char :=
  lines.flatMap ('\n' :: ·)

/-- If the line asks for a check stop, its comment holds the request, and something new follows. -/
def lineStandsApart
    (line below : List Char) :
    Bool :=
  match checkStopIndent? line with
  | none => true
  | some indent =>
      ((line.drop (indent.length + 2)).takeWhile Text.isBlank).all (!isLineEnd ·) &&
        (Cursor.ofText 0 below).token.startsAnew

/-- Each line that asks for a check stop stands apart from what is around it. -/
def stopsStandApart :
    List (List Char) →
    Bool
  | [] => true
  | line :: lines => lineStandsApart line (textBelow lines) && stopsStandApart lines

theorem joinLines_cons
    (line : List Char)
    (lines : List (List Char)) :
    Text.joinLines (line :: lines) = line ++ textBelow lines := by
  induction lines generalizing line with
  | nil => simp [Text.joinLines, textBelow]
  | cons next lines inductionHypothesis =>
      rw [Text.joinLines, inductionHypothesis]
      rfl

/-- What is trimmed to the request is the request between blank margins. -/
theorem exists_margins
    {comment : List Char}
    (asks : Text.trim comment = checkStopComment) :
    ∃ before after,
      comment = before ++ checkStopComment ++ after ∧
        comment.takeWhile Text.isBlank = before ∧
        (∀ character ∈ before, Text.isBlank character) ∧
        ∀ character ∈ after, Text.isBlank character := by
  have occupied : Text.allBlank comment = false := by
    by_contra isBlank
    rw [Bool.not_eq_false] at isBlank
    rw [Text.trim_of_allBlank isBlank] at asks
    cases asks
  obtain ⟨framed, rfl⟩ := Text.Framed.exists_text_eq occupied
  rw [Text.Framed.trim_text] at asks
  have leftBlank := Text.allBlank_iff.mp framed.leftBlank
  refine ⟨framed.left, framed.right, by rw [Text.Framed.text, asks], ?_, leftBlank,
    Text.allBlank_iff.mp framed.rightBlank⟩
  obtain ⟨first, rest, shape, solid⟩ := framed.starts
  rw [Text.Framed.text, shape, List.append_assoc, List.cons_append]
  exact (span_indent leftBlank solid _).1

namespace Twin

/-- Twins stay twins with the same characters before them. -/
theorem behindLine
    {text marked : List Char}
    (twins : ∀ atStart, Twin atStart text marked)
    (line : List Char)
    (atStart : Bool) :
    Twin atStart (line ++ text) (line ++ marked) := by
  induction line generalizing atStart with
  | nil => exact twins atStart
  | cons character line inductionHypothesis => exact .cons character (inductionHypothesis _)

/-- Blanks keep the place where a comment can be. -/
theorem behindIndent
    {indent text marked : List Char}
    (blank : ∀ character ∈ indent, Text.isBlank character)
    (twin : Twin true text marked) :
    Twin true (indent ++ text) (indent ++ marked) := by
  induction indent with
  | nil => exact twin
  | cons character indent inductionHypothesis =>
      refine .cons character ?_
      rw [blank character List.mem_cons_self, Bool.and_true, Bool.or_true]
      exact inductionHypothesis (fun other member => blank other (List.mem_cons_of_mem _ member))

/-- A line that is marked and the line itself are twins, if what follows them are twins. -/
theorem ofLine
    {line below markedBelow : List Char}
    (noFeed : '\n' ∉ line)
    (apart : lineStandsApart line below)
    (ends : below.head?.all (· == '\n'))
    (twins : ∀ atStart, Twin atStart below markedBelow) :
    Twin true (line ++ below) (markLine line ++ markedBelow) := by
  unfold lineStandsApart at apart
  unfold markLine
  split
  · next indent found =>
      rw [found] at apart
      obtain ⟨inLine, anew⟩ := Bool.and_eq_true_iff.mp apart
      obtain ⟨comment, rfl, blank, asks⟩ := checkStopIndent?_eq_some_iff.mp found
      obtain ⟨before, after, shape, margin, beforeBlank, afterBlank⟩ := exists_margins asks
      have behind : (indent ++ '/' :: '/' :: comment).drop (indent.length + 2) = comment := by
        rw [List.drop_append, List.drop_eq_nil_of_le (by omega)]
        simp
      rw [behind, margin] at inLine
      have isComment : IsStopComment ('/' :: '/' :: comment) := by
        refine ⟨before, after, by rw [shape], fun character member => ?_,
          fun character member => ?_⟩
        · have inComment := List.all_eq_true.mp inLine character member
          exact ⟨beforeBlank character member, by simpa using inComment⟩
        · refine ⟨afterBlank character member, ?_⟩
          rintro rfl
          exact noFeed (by simp [shape, member])
      rw [List.append_assoc, List.append_assoc, List.append_assoc]
      exact behindIndent blank (.mark isComment ends anew (twins false))
  · exact behindLine twins line true

/-- A script whose check stops stand apart is a twin of the marked script. -/
theorem ofMarking
    {code : String}
    (apart : stopsStandApart (code.toList.splitOn '\n')) :
    Twin true code.toList (markCheckStops code).toList := by
  have ofLines (lines : List (List Char)) (noFeeds : ∀ line ∈ lines, '\n' ∉ line)
      (apart : stopsStandApart lines) :
      (∀ atStart, Twin atStart (textBelow lines) (textBelow (lines.map markLine))) ∧
        Twin true (Text.joinLines lines) (Text.joinLines (lines.map markLine)) := by
    induction lines with
    | nil => exact ⟨.nil, .nil true⟩
    | cons line lines inductionHypothesis =>
        obtain ⟨lineApart, linesApart⟩ := Bool.and_eq_true_iff.mp apart
        obtain ⟨below, _⟩ := inductionHypothesis
          (fun other member => noFeeds other (List.mem_cons_of_mem _ member)) linesApart
        have ends : (textBelow lines).head?.all (· == '\n') := by
          cases lines <;> rfl
        have twin := ofLine (noFeeds line List.mem_cons_self) lineApart ends below
        refine ⟨fun atStart => .cons '\n' ?_, ?_⟩
        · exact twin
        · rw [List.map_cons, joinLines_cons, joinLines_cons]
          exact twin
  have lines := (ofLines _ (fun line member => Text.noFeed_of_mem_splitOn member) apart).2
  rw [markCheckStops, String.toList_ofList, Text.mapLines, Text.splitLines_eq]
  rwa [Text.joinLines_eq, List.intercalate_splitOn] at lines

/-- A twin is not longer than the text. -/
theorem length_le
    {atStart : Bool}
    {text marked : List Char}
    (twin : Twin atStart text marked) :
    marked.length ≤ text.length := by
  induction twin with
  | nil => exact Nat.le_refl _
  | cons _ _ inductionHypothesis => exact Nat.succ_le_succ inductionHypothesis
  | mark isComment _ _ _ inductionHypothesis =>
      obtain ⟨before, after, rfl, _⟩ := isComment.shape
      have markLength : markText.length = 13 := rfl
      have wordsLength : checkStopComment.length = 11 := rfl
      simp only [List.length_append, List.length_cons, markLength, wordsLength]
      omega

end Twin

end Reactivity.Script
