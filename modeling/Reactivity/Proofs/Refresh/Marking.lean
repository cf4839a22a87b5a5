import Reactivity.Proofs.Text.Blank
import Reactivity.Proofs.Text.Lines
import Reactivity.Refresh.CheckStop

namespace Reactivity.Refresh

/-!
# Marking of check stops

A line asks for a check stop if it is a comment behind a blank indentation, and the comment
is `!check-stop` between blank margins. Marking puts a marker statement in the place of the
comment on such lines, and leaves all other lines as they are. A marked line asks for no
check stop, so nothing is left to be marked.
-/

/-- The line asks for a check stop: a comment, behind a blank indentation. -/
def AsksForStop
    (indent line : List Char) :
    Prop :=
  ∃ comment,
    line = indent ++ '/' :: '/' :: comment ∧
      (∀ character ∈ indent, Text.isBlank character) ∧ Text.trim comment = checkStopComment

/-- The indentation of a line ends at the first character that is not blank. -/
theorem span_indent
    {indent : List Char}
    (blank : ∀ character ∈ indent, Text.isBlank character)
    {character : Char}
    (solid : Text.isBlank character = false)
    (rest : List Char) :
    (indent ++ character :: rest).takeWhile Text.isBlank = indent ∧
      (indent ++ character :: rest).dropWhile Text.isBlank = character :: rest := by
  rw [List.takeWhile_append_of_pos blank, List.dropWhile_append_of_pos blank,
    List.takeWhile_cons_of_neg (by simp [solid]), List.dropWhile_cons_of_neg (by simp [solid]),
    List.append_nil]
  exact ⟨rfl, rfl⟩

/-- The check for a check stop finds the indentation of the lines that ask for one. -/
theorem checkStopIndent?_eq_some_iff
    {indent line : List Char} :
    checkStopIndent? line = some indent ↔ AsksForStop indent line := by
  constructor
  · intro found
    unfold checkStopIndent? at found
    split at found
    · next comment behind =>
        split at found
        · next asks =>
            obtain rfl := Option.some.inj found
            refine ⟨comment, ?_, ?_, beq_iff_eq.mp asks⟩
            · rw [← behind, List.takeWhile_append_dropWhile]
            · exact fun character member => List.mem_takeWhile_imp member
        · cases found
    · cases found
  · rintro ⟨comment, rfl, blank, asks⟩
    have solid : Text.isBlank '/' = false := rfl
    obtain ⟨taken, behind⟩ := span_indent blank solid ('/' :: comment)
    simp [checkStopIndent?, behind, taken, asks]

/-- A line that asks for a check stop becomes a marker statement with its indentation. -/
theorem markLine_of_asksForStop
    {indent line : List Char}
    (asks : AsksForStop indent line) :
    markLine line = indent ++ "$$_checkStop;".toList := by
  rw [markLine, checkStopIndent?_eq_some_iff.mpr asks]
  simp [markerName]

/-- A line that asks for no check stop stays as it is. -/
theorem markLine_of_noStop
    {line : List Char}
    (noStop : ∀ indent, ¬ AsksForStop indent line) :
    markLine line = line := by
  have notFound : checkStopIndent? line = none := by
    rw [Option.eq_none_iff_forall_ne_some]
    exact fun indent found => noStop indent (checkStopIndent?_eq_some_iff.mp found)
  rw [markLine, notFound]

/-- A marker statement is no comment. -/
theorem checkStopIndent?_marker
    {indent : List Char}
    (blank : ∀ character ∈ indent, Text.isBlank character) :
    checkStopIndent? (indent ++ "$$_checkStop;".toList) = none := by
  have solid : Text.isBlank '$' = false := rfl
  have behind : (indent ++ "$$_checkStop;".toList).dropWhile Text.isBlank = "$$_checkStop;".toList :=
    (span_indent blank solid "$_checkStop;".toList).2
  rw [checkStopIndent?, behind]
  rfl

/-- A marked line asks for no check stop. -/
theorem not_asksForStop_markLine
    (indent line : List Char) :
    ¬ AsksForStop indent (markLine line) := by
  rw [← checkStopIndent?_eq_some_iff]
  by_cases asks : ∃ inner, AsksForStop inner line
  · obtain ⟨inner, asks⟩ := asks
    have marked := markLine_of_asksForStop asks
    obtain ⟨comment, _, blank, _⟩ := asks
    rw [marked, checkStopIndent?_marker blank]
    simp
  · rw [markLine_of_noStop (not_exists.mp asks), checkStopIndent?_eq_some_iff]
    exact not_exists.mp asks indent

/-- A line is changed just when it asks for a check stop. -/
theorem markLine_ne_iff
    {line : List Char} :
    markLine line ≠ line ↔ ∃ indent, AsksForStop indent line := by
  constructor
  · intro changed
    by_contra noStop
    exact changed (markLine_of_noStop (not_exists.mp noStop))
  · rintro ⟨indent, asks⟩ same
    exact not_asksForStop_markLine indent line (same.symm ▸ asks)

/-- A marked line is left as it is when it is marked again. -/
theorem markLine_markLine
    (line : List Char) :
    markLine (markLine line) = markLine line :=
  markLine_of_noStop (fun indent => not_asksForStop_markLine indent line)

/-- Marking brings no line feed into a line. -/
theorem noFeed_markLine
    (line : List Char)
    (noFeed : '\n' ∉ line) :
    '\n' ∉ markLine line := by
  by_cases asks : ∃ indent, AsksForStop indent line
  · obtain ⟨indent, asks⟩ := asks
    rw [markLine_of_asksForStop asks]
    obtain ⟨comment, rfl, _, _⟩ := asks
    rw [List.mem_append, not_or]
    refine ⟨fun member => noFeed (List.mem_append_left _ member), by decide⟩
  · rwa [markLine_of_noStop (not_exists.mp asks)]

/-- The lines of a marked script are its marked lines. -/
theorem splitOn_markCheckStops
    (code : String) :
    (markCheckStops code).toList.splitOn '\n' = (code.toList.splitOn '\n').map markLine := by
  rw [markCheckStops, String.toList_ofList]
  exact Text.splitOn_mapLines noFeed_markLine code.toList

/--
Marking works line by line. A line changes just when it asks for a check stop, and becomes a
marker statement with the same indentation. So the parts of a script before and after a line feed
can be marked apart, a marked script is left as it is when it is marked again, and none of its
lines asks for a check stop.
-/
theorem markCheckStops_linewise
    (code : String) :
    ((markCheckStops code).toList.splitOn '\n').length = (code.toList.splitOn '\n').length ∧
      (∀ (index : Nat) line,
        (code.toList.splitOn '\n')[index]? = some line →
          ∃ marked,
            ((markCheckStops code).toList.splitOn '\n')[index]? = some marked ∧
              (marked ≠ line ↔ ∃ indent, AsksForStop indent line) ∧
                ∀ indent, AsksForStop indent line → marked = indent ++ "$$_checkStop;".toList) ∧
      (∀ first second,
        markCheckStops (first ++ "\n" ++ second) =
          markCheckStops first ++ "\n" ++ markCheckStops second) ∧
      markCheckStops (markCheckStops code) = markCheckStops code ∧
      ∀ line ∈ (markCheckStops code).toList.splitOn '\n', ∀ indent, ¬ AsksForStop indent line := by
  have lines := splitOn_markCheckStops code
  refine ⟨by rw [lines, List.length_map], ?_, ?_, ?_, ?_⟩
  · intro index line isLine
    refine ⟨markLine line, ?_, markLine_ne_iff, fun indent => markLine_of_asksForStop⟩
    rw [lines, List.getElem?_map, isLine, Option.map_some]
  · intro first second
    have parts := Text.mapLines_append noFeed_markLine first.toList second.toList
    rw [← String.toList_inj]
    simpa [markCheckStops] using parts
  · apply String.toList_inj.mp
    rw [markCheckStops, String.toList_ofList]
    apply Text.mapLines_unique
    rw [lines, List.map_map]
    exact List.map_congr_left (fun line _ => (markLine_markLine line).symm)
  · rw [lines]
    intro line member indent
    obtain ⟨before, _, rfl⟩ := List.mem_map.mp member
    exact not_asksForStop_markLine indent before

/--
A line with an indentation of other blanks than spaces, a line separator in the comment and a
carriage return at its end is marked.
-/
theorem markCheckStops_linewise_blanks :
    ("a\n\u00A0\t//\u2028!check-stop\r\nb".toList.splitOn '\n')[1]? =
        some "\u00A0\t//\u2028!check-stop\r".toList ∧
      AsksForStop "\u00A0\t".toList "\u00A0\t//\u2028!check-stop\r".toList ∧
        ∃ marked,
          ((markCheckStops "a\n\u00A0\t//\u2028!check-stop\r\nb").toList.splitOn '\n')[1]? =
              some marked ∧
            marked = "\u00A0\t".toList ++ "$$_checkStop;".toList := by
  have isLine :
      ("a\n\u00A0\t//\u2028!check-stop\r\nb".toList.splitOn '\n')[1]? =
        some "\u00A0\t//\u2028!check-stop\r".toList := by
    decide +kernel
  have asks : AsksForStop "\u00A0\t".toList "\u00A0\t//\u2028!check-stop\r".toList :=
    ⟨"\u2028!check-stop\r".toList, by decide +kernel, Text.allBlank_iff.mp (by decide +kernel),
      by decide +kernel⟩
  obtain ⟨marked, isMarked, _, becomes⟩ :=
    (markCheckStops_linewise "a\n\u00A0\t//\u2028!check-stop\r\nb").2.1 1 _ isLine
  exact ⟨isLine, asks, marked, isMarked, becomes _ asks⟩

end Reactivity.Refresh
