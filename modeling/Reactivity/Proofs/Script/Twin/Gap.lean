import Reactivity.Proofs.Script.Twin.Token

namespace Reactivity.Script

open Refresh

/-!
# Gaps and template texts of twins

Marks stand between tokens or in the text of a template. A template text that goes over a
mark holds the name of the marker. A gap goes over the comment, but ends at the marker.
-/

namespace Twin

variable
  {atStart : Bool}
  {text marked : List Char}

/-- The text without a line feed at its start. -/
def dropFeed :
    List Char →
    List Char
  | '\n' :: rest => rest
  | rest => rest

theorem dropFeed_twin
    (twin : Twin atStart text marked) :
    ∃ later, Twin later (dropFeed text) (dropFeed marked) := by
  cases twin with
  | nil => exact ⟨false, .nil false⟩
  | mark isComment ends anew onward =>
      obtain ⟨before, after, rfl, _⟩ := id isComment.shape
      exact ⟨true, .mark isComment ends anew onward⟩
  | cons character onward =>
      by_cases feeds : character = '\n'
      · subst feeds
        exact ⟨_, onward⟩
      · have stays (rest : List Char) : dropFeed (character :: rest) = character :: rest :=
          dropFeed.eq_2 _ (fun _ same => feeds (List.cons.inj same).1)
        rw [stays, stays]
        exact ⟨atStart, .cons character onward⟩

theorem dropFeed_length_le
    (text : List Char) :
    (dropFeed text).length ≤ text.length := by
  unfold dropFeed
  split
  · exact Nat.le_succ _
  · exact Nat.le_refl _

theorem readTemplateText?_return
    (rest : List Char) :
    readTemplateText? ('\r' :: rest) =
      (readTemplateText? (dropFeed rest)).map (fun read => (['\n'] ++ read.1, read.2)) := by
  unfold dropFeed
  split
  next rest => exact readTemplateText?.eq_7 rest
  next noFeed => exact readTemplateText?.eq_8 rest noFeed

theorem readTemplateText?_escaped_return
    (rest : List Char) :
    readTemplateText? ('\\' :: '\r' :: rest) =
      (readTemplateText? (dropFeed rest)).map (fun read => (['\\', '\n'] ++ read.1, read.2)) := by
  unfold dropFeed
  split
  next rest => exact readTemplateText?.eq_4 rest
  next noFeed => exact readTemplateText?.eq_5 rest noFeed

/-- A template text that goes over a marker holds the name of the marker. -/
theorem readTemplateText?_mark
    (rest : List Char) :
    readTemplateText? (markText ++ rest) =
      (readTemplateText? rest).map (fun read => (markText ++ read.1, read.2)) := by
  have spelled : markText =
      ['$', '$', '_', 'c', 'h', 'e', 'c', 'k', 'S', 't', 'o', 'p', ';'] := by decide
  rw [spelled]
  simp only [List.cons_append, List.nil_append]
  repeat rw [readTemplateText?.eq_9 _ _ (by decide) (by simp) (by simp) (by simp) (by simp)
    (by simp) (by decide)]
  simp only [Option.map_map]
  rfl

/-- The same template text has been read from twins, or it holds a marker. -/
def FollowsText
    (text : List Char)
    (characters : List Char)
    (isClosed : Bool)
    (markedRest : List Char) :
    Prop :=
  markerName.toList <:+: characters ∨
    ∃ rest, readTemplateText? text = some (characters, isClosed, rest) ∧ Twin false rest markedRest

/-- What is read behind some characters of a template text follows on. -/
theorem FollowsText.behind
    {between start inner markedRest : List Char}
    {isClosed : Bool}
    (follows : FollowsText between inner isClosed markedRest)
    (step : readTemplateText? text =
      (readTemplateText? between).map (fun read => (start ++ read.1, read.2))) :
    FollowsText text (start ++ inner) isClosed markedRest := by
  rcases follows with held | ⟨rest, restRan, restTwins⟩
  · exact .inl (held.trans (List.suffix_append start inner).isInfix)
  · refine .inr ⟨rest, ?_, restTwins⟩
    rw [step, restRan]
    rfl

/-- The template texts of twins shorter than the length follow. -/
def TextsFollow
    (length : Nat) :
    Prop :=
  ∀ {atStart : Bool} {text marked characters markedRest : List Char} {isClosed : Bool},
    marked.length < length →
    Twin atStart text marked →
    readTemplateText? marked = some (characters, isClosed, markedRest) →
    FollowsText text characters isClosed markedRest

/-- One step of a template text that goes over the same characters of twins. -/
theorem TextsFollow.step
    {later isClosed : Bool}
    {start between markedBetween characters markedRest : List Char}
    (shorter : TextsFollow marked.length)
    (isShorter : markedBetween.length < marked.length)
    (twins : Twin later between markedBetween)
    (step : readTemplateText? text =
      (readTemplateText? between).map (fun read => (start ++ read.1, read.2)))
    (markedStep : readTemplateText? marked =
      (readTemplateText? markedBetween).map (fun read => (start ++ read.1, read.2)))
    (ran : readTemplateText? marked = some (characters, isClosed, markedRest)) :
    FollowsText text characters isClosed markedRest := by
  rw [ran] at markedStep
  obtain ⟨⟨inner, innerClosed, innerRest⟩, innerRan, made⟩ :=
    Option.map_eq_some_iff.mp markedStep.symm
  cases made
  exact (shorter isShorter twins innerRan).behind step

theorem followsText_escape
    {characters markedRest : List Char}
    {isClosed : Bool}
    (shorter : TextsFollow ('\\' :: marked).length)
    (twins : Twin false text marked)
    (ran : readTemplateText? ('\\' :: marked) = some (characters, isClosed, markedRest)) :
    FollowsText ('\\' :: text) characters isClosed markedRest := by
  rcases twins.inLine with ⟨rfl, rfl⟩ | ⟨next, later, markedLater, rfl, rfl, laterTwins⟩
  · cases ran
  by_cases returns : next = '\r'
  · subst returns
    obtain ⟨_, droppedTwins⟩ := dropFeed_twin laterTwins
    refine shorter.step ?_ droppedTwins (readTemplateText?_escaped_return later)
      (readTemplateText?_escaped_return markedLater) ran
    have := dropFeed_length_le markedLater
    simp only [List.length_cons]
    omega
  · have plain (rest : List Char) :
        readTemplateText? ('\\' :: next :: rest) =
          (readTemplateText? rest).map (fun read => (['\\', next] ++ read.1, read.2)) :=
      readTemplateText?.eq_6 next rest (fun _ same _ => returns same) returns
    refine shorter.step ?_ laterTwins (plain later) (plain markedLater) ran
    simp only [List.length_cons]
    omega

theorem followsText_return
    {later isClosed : Bool}
    {characters markedRest : List Char}
    (shorter : TextsFollow ('\r' :: marked).length)
    (twins : Twin later text marked)
    (ran : readTemplateText? ('\r' :: marked) = some (characters, isClosed, markedRest)) :
    FollowsText ('\r' :: text) characters isClosed markedRest := by
  obtain ⟨_, droppedTwins⟩ := dropFeed_twin twins
  refine shorter.step ?_ droppedTwins (readTemplateText?_return text)
    (readTemplateText?_return marked) ran
  have := dropFeed_length_le marked
  simp only [List.length_cons]
  omega

/-- A character that is no escape, no return and no closing quote is kept as it is. -/
theorem readTemplateText?_cons
    {character : Char}
    (noClose : character ≠ '\x60')
    (noEscape : character ≠ '\\')
    (noReturn : character ≠ '\r')
    {rest : List Char}
    (noBrace : character = '$' → rest.head? ≠ some '\x7b') :
    readTemplateText? (character :: rest) =
      (readTemplateText? rest).map (fun read => ([character] ++ read.1, read.2)) :=
  readTemplateText?.eq_9 character rest noClose
    (by rintro later dollar rfl; exact noBrace dollar rfl)
    (fun _ same _ => noEscape same) (fun _ same _ => noEscape same)
    (fun _ _ same _ => noEscape same) (fun _ same _ => noReturn same) noReturn

/-- Behind a dollar sign the twins go on alike: it opens a value in both or in none. -/
theorem followsText_dollar
    {characters markedRest : List Char}
    {isClosed : Bool}
    (shorter : TextsFollow ('$' :: marked).length)
    (twins : Twin false text marked)
    (ran : readTemplateText? ('$' :: marked) = some (characters, isClosed, markedRest)) :
    FollowsText ('$' :: text) characters isClosed markedRest := by
  by_cases opens : text.head? = some '\x7b'
  · obtain ⟨later, rfl⟩ := List.head?_eq_some_iff.mp opens
    obtain ⟨markedLater, rfl, laterTwins⟩ := twins.tail (by decide)
    cases ran
    exact .inr ⟨later, rfl, laterTwins⟩
  · have plain {rest : List Char} (noBrace : rest.head? ≠ some '\x7b') :=
      readTemplateText?_cons (by decide) (by decide) (by decide)
        (fun _ : '$' = '$' => noBrace)
    exact shorter.step (by simp) twins (plain opens) (plain (twins.head?_eq ▸ opens)) ran

theorem readTemplateText?_follows
    {characters markedRest : List Char}
    {isClosed : Bool}
    (twin : Twin atStart text marked)
    (ran : readTemplateText? marked = some (characters, isClosed, markedRest)) :
    FollowsText text characters isClosed markedRest := by
  induction length : marked.length using Nat.strongRecOn
    generalizing text marked atStart characters markedRest isClosed with
  | ind length inductionHypothesis =>
      subst length
      have shorter : TextsFollow marked.length :=
        fun isShorter twins innerRan => inductionHypothesis _ isShorter twins innerRan rfl
      cases twin with
      | nil => cases ran
      | mark =>
          rw [readTemplateText?_mark] at ran
          obtain ⟨⟨inner, _⟩, _, made⟩ := Option.map_eq_some_iff.mp ran
          cases made
          exact .inl ⟨[], ';' :: inner, by simp [markText]⟩
      | @cons _ text marked character twins =>
          by_cases closes : character = '\x60'
          · subst closes
            cases ran
            exact .inr ⟨text, rfl, twins.behindSolid (by decide)⟩
          by_cases escapes : character = '\\'
          · subst escapes
            exact followsText_escape shorter (twins.behindSolid (by decide)) ran
          by_cases returns : character = '\r'
          · subst returns
            exact followsText_return shorter twins ran
          by_cases isDollar : character = '$'
          · subst isDollar
            exact followsText_dollar shorter (twins.behindSolid (by decide)) ran
          · have plain {rest : List Char} :=
              readTemplateText?_cons closes escapes returns
                (fun same => absurd same isDollar : character = '$' → rest.head? ≠ some '\x7b')
            exact shorter.step (by simp) twins plain plain ran

/-- A blank character ends a line or is a space. -/
theorem isSpace_of_isBlank
    {character : Char}
    (isBlank : Text.isBlank character)
    (noEnd : isLineEnd character = false) :
    isSpace character := by
  simp only [isLineEnd, Bool.or_eq_false_iff, beq_eq_false_iff_ne] at noEnd
  obtain ⟨⟨⟨noFeed, noReturn⟩, noLine⟩, noParagraph⟩ := noEnd
  have noFeed : character.toNat ≠ 10 := fun same => noFeed (Char.ext (UInt32.toNat.inj same))
  have noReturn : character.toNat ≠ 13 := fun same => noReturn (Char.ext (UInt32.toNat.inj same))
  simp only [Text.isBlank, Bool.or_eq_true, Bool.and_eq_true, beq_iff_eq, decide_eq_true_eq]
    at isBlank
  simp only [isSpace, Bool.or_eq_true, Bool.and_eq_true, beq_iff_eq, decide_eq_true_eq]
  omega

/-- Blank characters between tokens are skipped. -/
theorem skipGap?_blanks
    {blanks : List Char}
    (areBlank : ∀ character ∈ blanks, Text.isBlank character)
    (ended : Bool)
    (rest : List Char) :
    skipGap? .spaces ended (blanks ++ rest) =
      skipGap? .spaces (ended || blanks.any isLineEnd) rest := by
  induction blanks generalizing ended with
  | nil => simp
  | cons character others inductionHypothesis =>
      have isBlank := areBlank character (by simp)
      have noSlash : character ≠ '/' := by
        rintro rfl
        exact absurd isBlank (by decide)
      rw [List.cons_append, skipGap?_spaces noSlash]
      have onward := inductionHypothesis (fun other member => areBlank other (by simp [member]))
      cases ends : isLineEnd character with
      | true => simp [onward, ends]
      | false => simp [onward, ends, isSpace_of_isBlank isBlank ends]

/-- The characters of a line comment are skipped up to the end of the line. -/
theorem skipGap?_line
    {line : List Char}
    (inLine : ∀ character ∈ line, isLineEnd character = false)
    (ended : Bool)
    (rest : List Char) :
    skipGap? .lineComment ended (line ++ rest) = skipGap? .lineComment ended rest := by
  induction line with
  | nil => rfl
  | cons character others inductionHypothesis =>
      rw [List.cons_append, skipGap?.eq_6, inLine character (by simp),
        ← inductionHypothesis (fun other member => inLine other (by simp [member]))]
      rfl

/-- A line comment that ends in blank characters is skipped with the line. -/
theorem skipGap?_line_blanks
    {blanks rest : List Char}
    (areBlank : ∀ character ∈ blanks, Text.isBlank character)
    (ends : rest.head?.all (· == '\n'))
    (ended : Bool) :
    skipGap? .lineComment ended (blanks ++ rest) =
      skipGap? .spaces (ended || blanks.any isLineEnd) rest := by
  induction blanks with
  | nil =>
      rw [List.nil_append, List.any_nil, Bool.or_false]
      cases rest with
      | nil => rfl
      | cons character others =>
          obtain rfl : character = '\n' := by simpa using ends
          rfl
  | cons character others inductionHypothesis =>
      have others_blank := fun other member => areBlank other (List.mem_cons_of_mem _ member)
      rw [List.cons_append, skipGap?.eq_6]
      cases isEnd : isLineEnd character with
      | true => simp [skipGap?_blanks others_blank, isEnd]
      | false => simp [inductionHypothesis others_blank, isEnd]

/-- A comment that asks for a check stop is skipped with its line. -/
theorem skipGap?_stopComment
    {comment rest : List Char}
    (isComment : IsStopComment comment)
    (ends : rest.head?.all (· == '\n'))
    (ended : Bool) :
    ∃ later : Bool, (ended → later) ∧
      skipGap? .spaces ended (comment ++ rest) = skipGap? .spaces later rest := by
  obtain ⟨before, after, rfl, blankBefore, blankAfter⟩ := isComment.shape
  have noLineEnd (character : Char) (member : character ∈ checkStopComment) :
      isLineEnd character = false := by
    have all : checkStopComment.all (!isLineEnd ·) := rfl
    simpa using List.all_eq_true.mp all character member
  refine ⟨ended || after.any isLineEnd, by simp_all, ?_⟩
  rw [List.cons_append, List.cons_append, skipGap?.eq_3, List.append_assoc, List.append_assoc,
    skipGap?_line (fun character member => (blankBefore character member).2),
    skipGap?_line noLineEnd,
    skipGap?_line_blanks (fun character member => (blankAfter character member).1) ends]

/-- Characters other than a star are skipped in a block comment. -/
theorem skipGap?_block
    {line : List Char}
    (noStar : '*' ∉ line)
    (rest : List Char) :
    skipGap? .blockComment true (line ++ rest) = skipGap? .blockComment true rest := by
  induction line with
  | nil => rfl
  | cons character others inductionHypothesis =>
      rw [List.mem_cons, not_or] at noStar
      rw [List.cons_append, skipGap?.eq_8 _ _ _ (fun _ same _ => noStar.1 same.symm), Bool.true_or,
        inductionHypothesis noStar.2]

/--
What is left of twins behind a gap.

It are twins again, or the twin has a marker there: then the text goes on behind the
comment, with a gap that is still to be skipped.
-/
inductive GapTwin
    (known : Prop) :
    Option (Bool × List Char) →
    Option (Bool × List Char) →
    Prop where
  | open :
      GapTwin known none none
  | same
      {here markedHere : List Char}
      (ended : Bool)
      (twin : Twin false here markedHere)
      (starts : here.head? ≠ some '\n') :
      GapTwin known (some (ended, here)) (some (ended, markedHere))
  | mark
      {text marked : List Char}
      {ended later : Bool}
      (ends : text.head?.all (· == '\n'))
      (anew : (Cursor.ofText 0 text).token.startsAnew)
      (twin : Twin false text marked)
      (isKnown : known → ended)
      (goesOn : ended → later) :
      GapTwin known (skipGap? .spaces later text) (some (ended, markText ++ marked))

theorem skipGap?_mark
    (ended : Bool)
    (rest : List Char) :
    skipGap? .spaces ended (markText ++ rest) = some (ended, markText ++ rest) := by
  have shape : markText ++ rest = '$' :: (markText.tail ++ rest) := rfl
  rw [shape, skipGap?_spaces (by decide)]
  rfl

/--
A gap of twins.

There is no comment to mark behind the start of a line comment. Where there can be one in
a block comment, a line has ended before.
-/
structure InGap
    (known : Prop)
    (gap : Gap)
    (ended atStart : Bool) :
    Prop where
  inLine : gap = .lineComment → atStart = false
  inBlock : gap = .blockComment → atStart → ended
  isKnown : known → atStart → ended

theorem InGap.inner
    (known : Prop)
    (gap : Gap)
    (ended : Bool) :
    InGap known gap ended false := by
  constructor <;> simp

theorem InGap.ofEnded
    {gap : Gap}
    (noLine : gap ≠ .lineComment)
    (known : Prop)
    (atStart : Bool) :
    InGap known gap true atStart := by
  constructor <;> simp [noLine]

/-- The gaps of twins shorter than the length end alike. -/
def GapsEndAlike
    (known : Prop)
    (length : Nat) :
    Prop :=
  ∀ {gap : Gap} {ended atStart : Bool} {text marked : List Char},
    text.length < length →
    InGap known gap ended atStart →
    Twin atStart text marked →
    GapTwin known (skipGap? gap ended text) (skipGap? gap ended marked)

section Steps

variable
  {known : Prop}
  {ended : Bool}

theorem ne_feed_of_noEnd
    {character : Char}
    (noEnd : ¬isLineEnd character) :
    character ≠ '\n' := by
  rintro rfl
  exact noEnd rfl

theorem gapTwin_lineComment
    (shorter : GapsEndAlike known text.length)
    (twin : Twin false text marked) :
    GapTwin known (skipGap? .lineComment ended text) (skipGap? .lineComment ended marked) := by
  rcases twin.inLine with ⟨rfl, rfl⟩ | ⟨character, onward, markedOnward, rfl, rfl, twins⟩
  · exact .same ended (.nil false) (by simp)
  rw [skipGap?.eq_6, skipGap?.eq_6]
  split
  · exact shorter (by simp) (.ofEnded (by decide) known _) twins
  next noEnd =>
    rw [beq_eq_false_iff_ne.mpr (ne_feed_of_noEnd noEnd)] at twins
    exact shorter (by simp) (.inner ..) twins

/-- Inside of a block comment the twins go on alike: it is closed in both or in none. -/
theorem gapTwin_star
    (shorter : GapsEndAlike known ('*' :: text).length)
    (twins : Twin false text marked) :
    GapTwin known (skipGap? .blockComment ended ('*' :: text))
      (skipGap? .blockComment ended ('*' :: marked)) := by
  by_cases closes : text.head? = some '/'
  · obtain ⟨later, rfl⟩ := List.head?_eq_some_iff.mp closes
    obtain ⟨markedLater, rfl, laterTwins⟩ := twins.tail (by decide)
    rw [skipGap?.eq_7, skipGap?.eq_7]
    exact shorter (by simp only [List.length_cons]; omega) (.inner ..) laterTwins
  · have goesOn {rest : List Char} (isOpen : rest.head? ≠ some '/') :
        skipGap? .blockComment ended ('*' :: rest) =
          skipGap? .blockComment (ended || isLineEnd '*') rest :=
      skipGap?.eq_8 _ _ _ (by rintro later _ rfl; exact isOpen rfl)
    rw [goesOn closes, goesOn (twins.head?_eq ▸ closes)]
    exact shorter (by simp) (.inner ..) twins

theorem gapTwin_blockComment
    (shorter : GapsEndAlike known text.length)
    (inBlock : atStart → ended)
    (twin : Twin atStart text marked) :
    GapTwin known (skipGap? .blockComment ended text) (skipGap? .blockComment ended marked) := by
  cases twin with
  | nil => exact .open
  | @mark comment text marked isComment ends _ onward =>
      obtain rfl := inBlock rfl
      rw [skipGap?_block (notMem_of_isStopComment isComment (by decide) (by decide)),
        skipGap?_block (by decide)]
      refine shorter ?_ (.inner ..) onward
      obtain ⟨before, after, rfl, _⟩ := isComment.shape
      simp only [List.length_append, List.length_cons]
      omega
  | @cons _ text marked character onward =>
      by_cases isStar : character = '*'
      · subst isStar
        exact gapTwin_star shorter (onward.behindSolid (by decide))
      rw [skipGap?.eq_8 _ _ _ (fun _ same _ => isStar same),
        skipGap?.eq_8 _ _ _ (fun _ same _ => isStar same)]
      have stillEnded : (character == '\n' || atStart && Text.isBlank character) →
          ended || isLineEnd character := by
        intro startsLine
        rcases Bool.or_eq_true_iff.mp startsLine with feeds | blank
        · rw [beq_iff_eq.mp feeds]
          simp [isLineEnd]
        · rw [inBlock (Bool.and_eq_true_iff.mp blank).1, Bool.true_or]
      exact shorter (by simp) ⟨by simp, fun _ => stillEnded, fun _ => stillEnded⟩ onward

/-- Behind a slash the twins go on alike: it starts a comment in both or in none. -/
theorem gapTwin_slash
    (shorter : GapsEndAlike known ('/' :: text).length)
    (twins : Twin false text marked) :
    GapTwin known (skipGap? .spaces ended ('/' :: text))
      (skipGap? .spaces ended ('/' :: marked)) := by
  by_cases startsLine : text.head? = some '/'
  · obtain ⟨later, rfl⟩ := List.head?_eq_some_iff.mp startsLine
    obtain ⟨markedLater, rfl, laterTwins⟩ := twins.tail (by decide)
    rw [skipGap?.eq_3, skipGap?.eq_3]
    exact shorter (by simp only [List.length_cons]; omega) (.inner ..) laterTwins
  by_cases startsBlock : text.head? = some '*'
  · obtain ⟨later, rfl⟩ := List.head?_eq_some_iff.mp startsBlock
    obtain ⟨markedLater, rfl, laterTwins⟩ := twins.tail (by decide)
    rw [skipGap?.eq_4, skipGap?.eq_4]
    exact shorter (by simp only [List.length_cons]; omega) (.inner ..) laterTwins
  · have stops {rest : List Char} (noLine : rest.head? ≠ some '/')
        (noBlock : rest.head? ≠ some '*') :
        skipGap? .spaces ended ('/' :: rest) = some (ended, '/' :: rest) :=
      skipGap?.eq_5 _ _ _ (by rintro later _ rfl; exact noLine rfl)
        (by rintro later _ rfl; exact noBlock rfl)
    rw [stops startsLine startsBlock,
      stops (twins.head?_eq ▸ startsLine) (twins.head?_eq ▸ startsBlock)]
    exact .same ended (.cons '/' twins) (by simp)

theorem gapTwin_spaces
    (shorter : GapsEndAlike known text.length)
    (isKnown : known → atStart → ended)
    (twin : Twin atStart text marked) :
    GapTwin known (skipGap? .spaces ended text) (skipGap? .spaces ended marked) := by
  cases twin with
  | nil => exact .same ended (.nil false) (by simp)
  | @mark comment text marked isComment ends anew onward =>
      obtain ⟨later, goesOn, skipped⟩ := skipGap?_stopComment isComment ends ended
      rw [skipped, skipGap?_mark]
      exact .mark ends anew onward (fun holds => isKnown holds rfl) goesOn
  | @cons _ text marked character onward =>
      by_cases isSlash : character = '/'
      · subst isSlash
        exact gapTwin_slash shorter (onward.behindSolid (by decide))
      rw [skipGap?_spaces isSlash, skipGap?_spaces isSlash]
      split
      · exact shorter (by simp) (.ofEnded (by decide) known _) onward
      next noEnd =>
        have noFeed := ne_feed_of_noEnd noEnd
        split
        · rw [beq_eq_false_iff_ne.mpr noFeed, Bool.false_or] at onward
          refine shorter (by simp) ⟨by simp, by simp, fun holds startsLine => ?_⟩ onward
          exact isKnown holds (Bool.and_eq_true_iff.mp startsLine).1
        next noSpace =>
          have isSolid : Text.isBlank character = false := by
            apply Bool.eq_false_iff.mpr
            intro isBlank
            exact noSpace (isSpace_of_isBlank isBlank (Bool.eq_false_iff.mpr noEnd))
          refine .same ended (.cons character ?_) (by simpa using noFeed)
          exact (onward.behindSolid isSolid).widen _

end Steps

theorem skipGap?_gapTwin
    {known : Prop}
    {gap : Gap}
    {ended : Bool}
    (inGap : InGap known gap ended atStart)
    (twin : Twin atStart text marked) :
    GapTwin known (skipGap? gap ended text) (skipGap? gap ended marked) := by
  induction length : text.length using Nat.strongRecOn
    generalizing text marked atStart gap ended with
  | ind length inductionHypothesis =>
      subst length
      have shorter : GapsEndAlike known text.length :=
        fun isShorter inGap twins => inductionHypothesis _ isShorter inGap twins rfl
      cases gap with
      | lineComment =>
          obtain rfl := inGap.inLine rfl
          exact gapTwin_lineComment shorter twin
      | blockComment => exact gapTwin_blockComment shorter (inGap.inBlock rfl) twin
      | spaces => exact gapTwin_spaces shorter inGap.isKnown twin

end Twin

end Reactivity.Script
