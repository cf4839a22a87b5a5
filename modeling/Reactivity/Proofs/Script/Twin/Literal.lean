import Reactivity.Proofs.Script.Twin.Text

namespace Reactivity.Script

open Refresh

/-!
# Numbers and strings of twins

Numbers, escapes and strings are read alike from twins. A string never goes on over a line
that asks for a check stop, because such a line holds no escape at its end.
-/

namespace Twin

variable
  {atStart : Bool}
  {text marked : List Char}

/-- Digits are the same in twins, as they stop at the end of the line. -/
theorem readRun?_rel
    (isDigit : Char → Bool)
    (stops : isDigit '\n' = false)
    (twin : Twin false text marked) :
    Option.Rel SameRead (readRun? isDigit text) (readRun? isDigit marked) := by
  have stopsRun : (isDigit '\n' || '\n' == '_') = false := by
    rw [stops]
    rfl
  unfold readRun?
  dsimp only
  rw [twin.takeWhile_eq stopsRun]
  split
  · exact .some ⟨rfl, twin.dropWhile stopsRun⟩
  · exact .none

/-- A number may end at the same places of twins. -/
theorem endsNumber_eq
    (twin : Twin false text marked) :
    endsNumber text = endsNumber marked := by
  rcases twin.inLine with ⟨rfl, rfl⟩ | ⟨character, onward, markedOnward, rfl, rfl, _⟩
  · rfl
  · by_cases escapes : character = '\\'
    · subst escapes
      rfl
    · simp [endsNumber]

/-- A text that starts no token is twin to such a text. -/
theorem sameRead_invalid :
    SameRead (Token.invalid, ([] : List Char)) (Token.invalid, []) :=
  ⟨rfl, .nil false⟩

/-- Twins agree whether a number is a big integer. -/
theorem finishInteger
    (value : Nat)
    (twin : Twin false text marked) :
    SameRead (Script.finishInteger value text) (Script.finishInteger value marked) := by
  rcases twin.inLine with ⟨rfl, rfl⟩ | ⟨character, onward, markedOnward, rfl, rfl, _⟩
  · exact ⟨rfl, twin⟩
  · by_cases isBig : character = 'n'
    · subst isBig
      have onwardTwin := twin.inner (by decide)
      simp only [Script.finishInteger, onwardTwin.endsNumber_eq]
      split
      · exact ⟨rfl, onwardTwin⟩
      · exact sameRead_invalid
    · have isOther (onward : List Char) (after : List Char)
          (same : character :: onward = 'n' :: after) :
          False :=
        isBig (List.cons.inj same).1
      rw [Script.finishInteger.eq_2 _ _ (isOther _), Script.finishInteger.eq_2 _ _ (isOther _),
        twin.endsNumber_eq]
      split
      · exact ⟨rfl, twin⟩
      · exact sameRead_invalid

/-- Numbers with a base are the same in twins. -/
theorem readBased
    {isDigit : Char → Bool}
    (base : Nat)
    (stops : isDigit '\n' = false)
    (twin : Twin false text marked) :
    SameRead (Script.readBased base isDigit text) (Script.readBased base isDigit marked) := by
  unfold Script.readBased
  rcases relCases (readRun?_rel isDigit stops twin) with
    ⟨first, second⟩ | ⟨⟨digits, rest⟩, ⟨_, markedRest⟩, first, second, rfl, twins⟩ <;>
    rw [first, second]
  · exact sameRead_invalid
  · cases digits with
    | nil => exact sameRead_invalid
    | cons digit others => exact twins.finishInteger _

/-- The digits of an exponent behind its sign. -/
def readExponentDigits?
    (sign : Int)
    (text : List Char) :
    Option (Int × List Char) :=
  match readRun? Char.isDigit text with
  | some (digit :: others, rest) => some (sign * (readDigits 10 (digit :: others) : Int), rest)
  | _ => none

theorem readExponentDigits?_rel
    (sign : Int)
    (twin : Twin false text marked) :
    Option.Rel SameRead (readExponentDigits? sign text) (readExponentDigits? sign marked) := by
  unfold readExponentDigits?
  rcases relCases (readRun?_rel Char.isDigit (by decide) twin) with
    ⟨first, second⟩ | ⟨⟨digits, rest⟩, ⟨_, markedRest⟩, first, second, rfl, twins⟩ <;>
    rw [first, second]
  · exact .none
  · cases digits with
    | nil => exact .none
    | cons digit others => exact .some ⟨rfl, twins⟩

/-- The sign of an exponent and the text behind it. -/
def signOf :
    List Char →
    Int × List Char
  | '-' :: more => (-1, more)
  | '+' :: more => (1, more)
  | more => (1, more)

theorem signOf_sameRead
    (twin : Twin false text marked) :
    SameRead (signOf text) (signOf marked) := by
  rcases twin.inLine with ⟨rfl, rfl⟩ | ⟨character, onward, markedOnward, rfl, rfl, _⟩
  · exact ⟨rfl, twin⟩
  · by_cases isMinus : character = '-'
    · subst isMinus
      have onwardTwin := twin.inner (by decide)
      exact ⟨rfl, onwardTwin⟩
    · by_cases isPlus : character = '+'
      · subst isPlus
        have onwardTwin := twin.inner (by decide)
        exact ⟨rfl, onwardTwin⟩
      · have unsigned (onward : List Char) :
            signOf (character :: onward) = (1, character :: onward) :=
          signOf.eq_3 _ (fun _ same => isMinus (List.cons.inj same).1)
            (fun _ same => isPlus (List.cons.inj same).1)
        rw [unsigned, unsigned]
        exact ⟨rfl, twin⟩

/-- An exponent is read behind its letter, with its sign. -/
theorem readExponent?_cons
    (marker : Char)
    (rest : List Char) :
    readExponent? (marker :: rest) =
      if marker == 'e' || marker == 'E' then
        readExponentDigits? (signOf rest).1 (signOf rest).2
      else
        some (0, marker :: rest) := by
  rfl

/-- Exponents are the same in twins. -/
theorem readExponent?_rel
    (twin : Twin false text marked) :
    Option.Rel SameRead (readExponent? text) (readExponent? marked) := by
  rcases twin.inLine with ⟨rfl, rfl⟩ | ⟨character, onward, markedOnward, rfl, rfl, _⟩
  · exact .some ⟨rfl, twin⟩
  · rw [readExponent?_cons, readExponent?_cons]
    split
    next isMarker =>
      have sameLine : character ≠ '\n' := by
        rintro rfl
        cases isMarker
      have onwardTwin := twin.inner sameLine
      obtain ⟨sameSign, digits⟩ := onwardTwin.signOf_sameRead
      rw [sameSign]
      exact readExponentDigits?_rel _ digits
    next => exact .some ⟨rfl, twin⟩

/-- Fractions are the same in twins. -/
theorem readFraction
    (whole : List Char)
    (twin : Twin false text marked) :
    SameRead (Script.readFraction whole text) (Script.readFraction whole marked) := by
  unfold Script.readFraction
  rcases relCases (readRun?_rel Char.isDigit (by decide) twin) with
    ⟨first, second⟩ | ⟨⟨fraction, rest⟩, ⟨_, markedRest⟩, first, second, rfl, twins⟩ <;>
    rw [first, second]
  · exact sameRead_invalid
  · dsimp only at twins ⊢
    rcases relCases twins.readExponent?_rel with
      ⟨first, second⟩ | ⟨⟨exponent, rest⟩, ⟨_, markedRest⟩, first, second, rfl, twins⟩ <;>
      rw [first, second]
    · exact sameRead_invalid
    · dsimp only at twins ⊢
      rw [twins.endsNumber_eq]
      split
      · exact ⟨rfl, twins⟩
      · exact sameRead_invalid

/-- What an exponent makes of the whole part of a decimal number. -/
def scale
    (whole : List Char)
    (exponent : Option (Int × List Char)) :
    Token × List Char :=
  match exponent with
  | none => (.invalid, [])
  | some (exponent, after) =>
      if endsNumber after then
        (.number (.ofDecimal (readDigits 10 whole) exponent), after)
      else
        (.invalid, [])

theorem scale_sameRead
    (whole : List Char)
    {first second : Option (Int × List Char)}
    (rel : Option.Rel SameRead first second) :
    SameRead (scale whole first) (scale whole second) := by
  rcases relCases rel with ⟨rfl, rfl⟩ | ⟨⟨exponent, rest⟩, ⟨_, markedRest⟩, rfl, rfl, rfl, twins⟩
  · exact sameRead_invalid
  · dsimp only at twins
    simp only [scale, twins.endsNumber_eq]
    split
    · exact ⟨rfl, twins⟩
    · exact sameRead_invalid

/-- What follows the whole part of a decimal number. -/
def readBehindWhole
    (whole rest : List Char) :
    Token × List Char :=
  match rest with
  | '.' :: after => Script.readFraction whole after
  | 'e' :: _ | 'E' :: _ => scale whole (readExponent? rest)
  | _ => Script.finishInteger (readDigits 10 whole) rest

/-- What follows the whole part of a number is the same in twins. -/
theorem readBehindWhole_sameRead
    (whole : List Char)
    (twin : Twin false text marked) :
    SameRead (readBehindWhole whole text) (readBehindWhole whole marked) := by
  rcases twin.inLine with ⟨rfl, rfl⟩ | ⟨character, onward, markedOnward, rfl, rfl, _⟩
  · exact ⟨rfl, twin⟩
  · by_cases isPoint : character = '.'
    · subst isPoint
      have onwardTwin := twin.inner (by decide)
      exact onwardTwin.readFraction whole
    · by_cases isSmall : character = 'e'
      · subst isSmall
        exact scale_sameRead whole twin.readExponent?_rel
      · by_cases isLarge : character = 'E'
        · subst isLarge
          exact scale_sameRead whole twin.readExponent?_rel
        · have plain (onward : List Char) :
              readBehindWhole whole (character :: onward) =
                Script.finishInteger (readDigits 10 whole) (character :: onward) :=
            readBehindWhole.eq_4 _ _ (fun _ same => isPoint (List.cons.inj same).1)
              (fun _ same => isSmall (List.cons.inj same).1)
              (fun _ same => isLarge (List.cons.inj same).1)
          rw [plain, plain]
          exact twin.finishInteger _

/-- Decimal numbers are the same in twins. -/
theorem readDecimal
    (twin : Twin false text marked) :
    SameRead (Script.readDecimal text) (Script.readDecimal marked) := by
  unfold Script.readDecimal
  rcases relCases (readRun?_rel Char.isDigit (by decide) twin) with
    ⟨first, second⟩ | ⟨⟨whole, rest⟩, ⟨_, markedRest⟩, first, second, rfl, twins⟩ <;>
    rw [first, second]
  · exact sameRead_invalid
  · dsimp only at twins ⊢
    split
    · exact sameRead_invalid
    · exact readBehindWhole_sameRead whole twins

/-- Numbers of every base are the same in twins. -/
theorem readNumber
    (twin : Twin false text marked) :
    SameRead (Script.readNumber text) (Script.readNumber marked) := by
  have plain := twin.readDecimal
  rcases twin.inLine with ⟨rfl, rfl⟩ | ⟨character, onward, markedOnward, rfl, rfl, _⟩
  · exact ⟨rfl, plain.2⟩
  · by_cases isPoint : character = '.'
    · subst isPoint
      have onwardTwin := twin.inner (by decide)
      exact onwardTwin.readFraction []
    · by_cases isZero : character = '0'
      · subst isZero
        have onwardTwin := twin.inner (by decide)
        rcases onwardTwin.inLine with ⟨rfl, rfl⟩ | ⟨base, later, markedLater, rfl, rfl, _⟩
        · exact plain
        · have behind (sameLine : base ≠ '\n') : Twin false later markedLater := by
            have laterTwin := onwardTwin.inner sameLine
            exact laterTwin
          simp only [Script.readNumber]
          split
          next isBase => exact (behind (by rintro rfl; cases isBase)).readBased 16 (by decide)
          next =>
            split
            next isBase => exact (behind (by rintro rfl; cases isBase)).readBased 8 (by decide)
            next =>
              split
              next isBase => exact (behind (by rintro rfl; cases isBase)).readBased 2 (by decide)
              next => exact plain
      · have decimal (onward : List Char) :
            Script.readNumber (character :: onward) = Script.readDecimal (character :: onward) :=
          Script.readNumber.eq_3 _ (fun _ _ same => isZero (List.cons.inj same).1)
            (fun _ same => isPoint (List.cons.inj same).1)
        rw [decimal, decimal]
        exact plain

/-- The same part of one line has been taken from twins, and the same has been read in it. -/
def Took
    {value : Type}
    (text marked : List Char)
    (first second : value × List Char) :
    Prop :=
  first.1 = second.1 ∧
    ∃ taken, '\n' ∉ taken ∧ text = taken ++ first.2 ∧ marked = taken ++ second.2

/-- Behind what was taken from twins, twins are left. -/
theorem twin_of_took
    {value : Type}
    {first second : value × List Char}
    (took : Took text marked first second)
    (twin : Twin false text marked) :
    Twin false first.2 second.2 := by
  obtain ⟨_, taken, sameLine, rfl, shape⟩ := took
  obtain ⟨_, markedShape, twins⟩ := twin.append sameLine
  rw [shape] at markedShape
  rwa [List.append_cancel_left markedShape]

/-- Hexadecimal digits are taken from twins alike. -/
theorem readHexadecimal?_rel
    (count : Nat)
    (twin : Twin false text marked) :
    Option.Rel (Took text marked) (readHexadecimal? count text)
      (readHexadecimal? count marked) := by
  unfold readHexadecimal?
  dsimp only
  have refuses (digits : List Char) (crosses : '\n' ∈ digits) :
      (digits.length == count && digits.all isHexadecimalDigit) = false := by
    rw [Bool.and_eq_false_iff]
    right
    rw [List.all_eq_false]
    exact ⟨'\n', crosses, by decide⟩
  rcases twin.take count with ⟨same, _⟩ | ⟨crosses, markedCrosses⟩
  · rw [← same]
    split
    next isRead =>
      refine .some ⟨rfl, text.take count, ?_, (List.take_append_drop ..).symm, ?_⟩
      · intro crosses
        rw [refuses _ crosses] at isRead
        cases isRead
      · rw [same]
        exact (List.take_append_drop ..).symm
    next => exact .none
  · rw [refuses _ crosses, refuses _ markedCrosses]
    exact .none

/-- A code point in braces is taken from twins alike. -/
theorem readCodePoint?_rel
    (twin : Twin false text marked) :
    Option.Rel (Took text marked) (readCodePoint? text) (readCodePoint? marked) := by
  have plain := twin.readHexadecimal?_rel 4
  rcases twin.inLine with ⟨rfl, rfl⟩ | ⟨character, onward, markedOnward, rfl, rfl, _⟩
  · exact plain
  · by_cases opens : character = '\x7b'
    · subst opens
      have onwardTwin := twin.inner (by decide)
      have stops : isHexadecimalDigit '\n' = false := by decide
      have inLine : '\n' ∉ markedOnward.takeWhile isHexadecimalDigit := by
        intro crosses
        have isDigit := List.mem_takeWhile_imp crosses
        rw [stops] at isDigit
        cases isDigit
      have sameDigits := onwardTwin.takeWhile_eq stops
      have whole : onward = markedOnward.takeWhile isHexadecimalDigit ++
          onward.dropWhile isHexadecimalDigit := by
        rw [← sameDigits]
        exact List.takeWhile_append_dropWhile.symm
      have markedWhole : markedOnward = markedOnward.takeWhile isHexadecimalDigit ++
          markedOnward.dropWhile isHexadecimalDigit :=
        List.takeWhile_append_dropWhile.symm
      simp only [readCodePoint?, sameDigits]
      rcases (onwardTwin.dropWhile stops).inLine with
        ⟨ends, markedEnds⟩ | ⟨closing, rest, markedRest, ends, markedEnds, _⟩ <;>
        rw [ends] at whole ⊢ <;> rw [markedEnds] at markedWhole ⊢
      · exact .none
      · by_cases closes : closing = '\x7d'
        · subst closes
          simp only
          generalize markedOnward.takeWhile isHexadecimalDigit = digits
            at inLine whole markedWhole ⊢
          split
          · refine .some ⟨rfl, '\x7b' :: (digits ++ ['\x7d']), by simp [inLine], ?_, ?_⟩
            · rw [whole]
              simp
            · rw [markedWhole]
              simp
          · exact .none
        · simp [closes]
    · have isPlain (onward : List Char) :
          readCodePoint? (character :: onward) = readHexadecimal? 4 (character :: onward) :=
        readCodePoint?.eq_2 _ (fun _ same => opens (List.cons.inj same).1)
      rw [isPlain, isPlain]
      exact plain

/-- The first half of a pair of surrogates is joined with the second one, if that follows. -/
def joinSurrogates
    (code : Nat)
    (rest : List Char) :
    Option (Char × List Char) :=
  match rest with
  | '\\' :: 'u' :: more =>
      match readHexadecimal? 4 more with
      | some (low, after) =>
          if 0xDC00 ≤ low && low ≤ 0xDFFF then
            some (Char.ofNat (0x10000 + (code - 0xD800) * 0x400 + (low - 0xDC00)), after)
          else
            some (characterOf code, rest)
      | none => some (characterOf code, rest)
  | _ => some (characterOf code, rest)

theorem took_nothing
    {value : Type}
    (read : value) :
    Took text marked (read, text) (read, marked) :=
  ⟨rfl, [], by simp, rfl, rfl⟩

/-- Two escapes are joined to one character in both twins or in none. -/
theorem joinSurrogates_rel
    (code : Nat)
    (twin : Twin false text marked) :
    Option.Rel (Took text marked) (joinSurrogates code text) (joinSurrogates code marked) := by
  by_cases goesOn : ['\\', 'u'].isPrefixOf text
  · obtain ⟨after, rfl⟩ := List.isPrefixOf_iff_prefix.mp goesOn
    obtain ⟨markedAfter, rfl, twins⟩ := twin.append (by decide)
    simp only [List.cons_append, List.nil_append, joinSurrogates]
    rcases relCases (twins.readHexadecimal?_rel 4) with
      ⟨first, second⟩ | ⟨⟨low, rest⟩, ⟨_, markedRest⟩, first, second, took⟩ <;>
      rw [first, second]
    · exact .some (took_nothing _)
    · obtain rfl := took.1
      dsimp only
      split
      · refine .some ?_
        obtain ⟨_, taken, inLine, shape, markedShape⟩ := took
        refine ⟨rfl, '\\' :: 'u' :: taken, by simp [inLine], ?_, ?_⟩
        · rw [shape]
          rfl
        · rw [markedShape]
          rfl
      · exact .some (took_nothing _)
  · have markedGoesOn : ['\\', 'u'].isPrefixOf marked = false := by
      rw [← twin.isPrefixOf_eq (by decide)]
      exact Bool.eq_false_iff.mpr goesOn
    have plain (text : List Char) (stops : ['\\', 'u'].isPrefixOf text = false) :
        joinSurrogates code text = some (characterOf code, text) :=
      joinSurrogates.eq_2 _ _ (by
        rintro rest rfl
        simp [List.isPrefixOf] at stops)
    rw [plain text (Bool.eq_false_iff.mpr goesOn), plain marked markedGoesOn]
    exact .some (took_nothing _)

/-- Escapes by code points are taken from twins alike. -/
theorem readUnicodeEscape?_rel
    (twin : Twin false text marked) :
    Option.Rel (Took text marked) (readUnicodeEscape? text) (readUnicodeEscape? marked) := by
  have steps (text : List Char) :
      readUnicodeEscape? text =
        (readCodePoint? text).bind (fun read =>
          if 0xD800 ≤ read.1 && read.1 ≤ 0xDBFF then
            joinSurrogates read.1 read.2
          else
            some (characterOf read.1, read.2)) := by
    unfold readUnicodeEscape?
    cases readCodePoint? text <;> rfl
  rw [steps, steps]
  rcases relCases twin.readCodePoint?_rel with
    ⟨first, second⟩ | ⟨⟨code, rest⟩, ⟨_, markedRest⟩, first, second, took⟩ <;>
    rw [first, second]
  · exact .none
  · have twins := twin_of_took took twin
    obtain ⟨same, taken, inLine, shape, markedShape⟩ := took
    dsimp only at same twins shape markedShape
    subst same
    simp only [Option.bind_some]
    split
    · rcases relCases (twins.joinSurrogates_rel code) with
        ⟨first, second⟩
        | ⟨left, right, first, second, sameRead, more, moreInLine, moreShape, moreMarked⟩ <;>
        rw [first, second]
      · exact .none
      · refine .some ⟨sameRead, taken ++ more, by simp [inLine, moreInLine], ?_, ?_⟩
        · rw [shape, moreShape, List.append_assoc]
        · rw [markedShape, moreMarked, List.append_assoc]
    · exact .some ⟨rfl, taken, inLine, shape, markedShape⟩

/-- The same part has been taken from twins, possibly up to a later line. -/
def TookLines
    {value : Type}
    (text marked : List Char)
    (first second : value × List Char) :
    Prop :=
  first.1 = second.1 ∧ ∃ taken, text = taken ++ first.2 ∧ marked = taken ++ second.2

/-- What was taken within a line was taken by lines. -/
theorem tookLines_of_took
    {value : Type}
    {first second : value × List Char}
    (took : Took text marked first second) :
    TookLines text marked first second := by
  obtain ⟨same, taken, _, shape, markedShape⟩ := took
  exact ⟨same, taken, shape, markedShape⟩

/-- One more character may be taken before. -/
theorem tookLines_cons
    {value other : Type}
    {first second : value × List Char}
    (change : value → other)
    (character : Char)
    (took : TookLines text marked first second) :
    TookLines (character :: text) (character :: marked) (change first.1, first.2)
      (change second.1, second.2) := by
  obtain ⟨same, taken, rfl, rfl⟩ := took
  exact ⟨congrArg change same, character :: taken, rfl, rfl⟩

/-- What twins share at their start can be taken away. -/
theorem behind
    {taken : List Char}
    (twin : Twin atStart (taken ++ text) (taken ++ marked)) :
    ∃ later, Twin later text marked := by
  induction taken generalizing atStart with
  | nil => exact ⟨atStart, twin⟩
  | cons character rest inductionHypothesis => exact inductionHypothesis twin.uncons

/-- What a character behind a backslash stands for, if it stands alone. -/
def escaped?
    (character : Char)
    (next : Option Char) :
    Option (List Char) :=
  match character with
  | 'n' => some ['\n']
  | 't' => some ['\t']
  | 'r' => some ['\r']
  | 'b' => some ['\x08']
  | 'f' => some ['\x0c']
  | 'v' => some ['\x0b']
  | '0' => if (next.map Char.isDigit).getD false then none else some ['\x00']
  | _ =>
      if isLineEnd character then
        some []
      else if character.isDigit then
        none
      else
        some [character]

theorem readEscape?_cons
    {character : Char}
    {rest : List Char}
    (noPair : character = '\r' → rest.head? ≠ some '\n')
    (noHexadecimal : character ≠ 'x')
    (noUnicode : character ≠ 'u') :
    readEscape? (character :: rest) =
      (escaped? character rest.head?).map (fun value => (value, rest)) := by
  unfold escaped?
  split
  iterate 6 rfl
  · rw [readEscape?.eq_11]
    split <;> rfl
  · rw [readEscape?.eq_12 _ _ (by rintro rest rfl rfl; exact noPair rfl rfl) noHexadecimal noUnicode
      ‹_› ‹_› ‹_› ‹_› ‹_› ‹_› ‹_›]
    split
    · rfl
    · split <;> rfl

/-- Escapes are taken from twins alike, also those of line breaks. -/
theorem readEscape?_rel
    (twin : Twin false text marked) :
    Option.Rel (TookLines text marked) (readEscape? text) (readEscape? marked) := by
  rcases twin.inLine with ⟨rfl, rfl⟩ | ⟨character, onward, markedOnward, rfl, rfl, _⟩
  · exact .none
  · by_cases isHexadecimal : character = 'x'
    · subst isHexadecimal
      simp only [readEscape?]
      rcases relCases ((twin.inner (by decide)).readHexadecimal?_rel 2) with
        ⟨first, second⟩ | ⟨left, right, first, second, took⟩ <;>
        rw [first, second]
      · exact .none
      · exact .some (tookLines_cons (fun code => [Char.ofNat code]) _ (tookLines_of_took took))
    by_cases isUnicode : character = 'u'
    · subst isUnicode
      simp only [readEscape?]
      rcases relCases (twin.inner (by decide)).readUnicodeEscape?_rel with
        ⟨first, second⟩ | ⟨left, right, first, second, took⟩ <;>
        rw [first, second]
      · exact .none
      · exact .some (tookLines_cons (fun character => [character]) _ (tookLines_of_took took))
    by_cases isPair : character = '\r' ∧ onward.head? = some '\n'
    · obtain ⟨rfl, feeds⟩ := isPair
      have markedFeeds := feeds
      rw [(twin.inner (by decide)).head?_eq] at markedFeeds
      obtain ⟨later, rfl⟩ := List.head?_eq_some_iff.mp feeds
      obtain ⟨markedLater, rfl⟩ := List.head?_eq_some_iff.mp markedFeeds
      exact .some ⟨rfl, ['\r', '\n'], rfl, rfl⟩
    · rw [not_and] at isPair
      have markedPair (returns : character = '\r') : markedOnward.head? ≠ some '\n' := by
        rw [← (twin.inner (by rw [returns]; decide)).head?_eq]
        exact isPair returns
      have sameEscape :
          escaped? character onward.head? = escaped? character markedOnward.head? := by
        by_cases feeds : character = '\n'
        · subst feeds
          rfl
        · rw [(twin.inner feeds).head?_eq]
      rw [readEscape?_cons isPair isHexadecimal isUnicode,
        readEscape?_cons markedPair isHexadecimal isUnicode, sameEscape]
      cases escaped? character markedOnward.head? with
      | none => exact .none
      | some value => exact .some ⟨rfl, [character], rfl, rfl⟩

/-- A character that is neither blank nor part of the request stands in no such comment. -/
theorem notMem_of_isStopComment
    {comment : List Char}
    {character : Char}
    (isComment : IsStopComment comment)
    (notBlank : Text.isBlank character = false)
    (notPart : character ∉ '/' :: checkStopComment) :
    character ∉ comment := by
  obtain ⟨before, after, rfl, blankBefore, blankAfter⟩ := isComment.shape
  have notBefore : character ∉ before := by
    intro member
    rw [(blankBefore character member).1] at notBlank
    cases notBlank
  have notAfter : character ∉ after := by
    intro member
    rw [(blankAfter character member).1] at notBlank
    cases notBlank
  rw [List.mem_cons, not_or] at notPart
  simp [notPart, notBefore, notAfter]

/-- A line that holds no quote and no escape is not the end of a string. -/
theorem readStringFrom?_line
    {quote : Char}
    {line rest : List Char}
    (noQuote : quote ∉ line)
    (noEscape : '\\' ∉ line)
    (inLine : quote ≠ '\n')
    (ends : rest.head?.all (· == '\n'))
    (steps : Nat) :
    readStringFrom? quote steps (line ++ rest) = none := by
  induction line generalizing steps with
  | nil =>
      cases steps with
      | zero => rfl
      | succ steps =>
          cases rest with
          | nil => rfl
          | cons character others =>
              obtain rfl : character = '\n' := by simpa using ends
              simp [readStringFrom?, Ne.symm inLine]
  | cons character others inductionHypothesis =>
      rw [List.mem_cons, not_or] at noQuote noEscape
      cases steps with
      | zero => rfl
      | succ steps =>
          have isOther : (character == quote) = false := beq_eq_false_iff_ne.mpr (Ne.symm noQuote.1)
          rw [List.cons_append, readStringFrom?.eq_4 _ _ _ _ (fun same => noEscape.1 same.symm),
            isOther, inductionHypothesis noQuote.2 noEscape.2]
          simp

/-- The same string has been read from twins, with the same characters. -/
def SameString
    (quote : Char)
    (text marked : List Char)
    (first second : List Char × List Char) :
    Prop :=
  first.1 = second.1 ∧
    ∃ raw, text = raw ++ quote :: first.2 ∧ marked = raw ++ quote :: second.2

theorem readStringFrom?_rel
    {quote : Char}
    (isQuote : quote = '"' ∨ quote = '\'')
    {steps markedSteps : Nat}
    (enough : text.length < steps)
    (markedEnough : marked.length < markedSteps)
    (twin : Twin atStart text marked) :
    Option.Rel (SameString quote text marked) (readStringFrom? quote steps text)
      (readStringFrom? quote markedSteps marked) := by
  induction steps generalizing markedSteps text marked atStart with
  | zero => omega
  | succ steps inductionHypothesis =>
      obtain ⟨markedSteps, rfl⟩ : ∃ fewer, markedSteps = fewer + 1 := ⟨markedSteps - 1, by omega⟩
      cases twin with
      | nil => exact .none
      | @mark comment text marked isComment ends _ onward =>
          have inLine : quote ≠ '\n' := by
            rintro rfl
            revert isQuote
            decide
          have noQuote : quote ∉ comment := by
            rcases isQuote with rfl | rfl
            all_goals exact notMem_of_isStopComment isComment (by decide) (by decide)
          have noMarkedQuote : quote ∉ markText := by
            rcases isQuote with rfl | rfl <;> decide
          rw [readStringFrom?_line noQuote
              (notMem_of_isStopComment isComment (by decide) (by decide)) inLine ends,
            readStringFrom?_line noMarkedQuote (by decide) inLine (onward.head?_eq ▸ ends)]
          exact .none
      | @cons _ text marked character onward =>
          rw [List.length_cons] at enough markedEnough
          by_cases escapes : character = '\\'
          · subst escapes
            have inLine : Twin false text marked := by simpa [Text.isBlank] using onward
            rw [readStringFrom?.eq_3, readStringFrom?.eq_3]
            rcases relCases inLine.readEscape?_rel with
              ⟨first, second⟩
              | ⟨⟨characters, rest⟩, ⟨_, markedRest⟩, first, second, rfl, taken, rfl, rfl⟩ <;>
              rw [first, second]
            · exact .none
            · dsimp only at *
              rw [List.length_append] at enough markedEnough
              obtain ⟨later, laterTwin⟩ := onward.behind
              have rel : Option.Rel _ (readStringFrom? quote steps rest)
                  (readStringFrom? quote markedSteps markedRest) :=
                inductionHypothesis (by omega) (by omega) laterTwin
              rcases relCases rel with
                ⟨first, second⟩
                | ⟨⟨value, after⟩, ⟨_, markedAfter⟩, first, second, rfl, raw, shape, markedShape⟩
              · simp only [Option.bind_eq_bind, Option.bind_some, first, second]
                exact .none
              · simp only [Option.bind_eq_bind, Option.bind_some, first, second]
                refine .some ⟨rfl, '\\' :: (taken ++ raw), ?_, ?_⟩
                · simp only [shape, List.cons_append, List.append_assoc]
                · simp only [markedShape, List.cons_append, List.append_assoc]
          · rw [readStringFrom?.eq_4 _ _ _ _ escapes, readStringFrom?.eq_4 _ _ _ _ escapes]
            split
            next closes => exact .some ⟨rfl, [], by rw [beq_iff_eq.mp closes]; exact ⟨rfl, rfl⟩⟩
            next =>
              split
              · exact .none
              · have rel : Option.Rel _ (readStringFrom? quote steps text)
                    (readStringFrom? quote markedSteps marked) :=
                  inductionHypothesis (by omega) (by omega) onward
                rcases relCases rel with
                  ⟨first, second⟩
                  | ⟨⟨value, after⟩, ⟨_, markedAfter⟩, first, second, rfl, raw, rfl, rfl⟩
                · simp only [Option.bind_eq_bind, first, second]
                  exact .none
                · simp only [Option.bind_eq_bind, Option.bind_some, first, second]
                  exact .some ⟨rfl, character :: raw, rfl, rfl⟩

end Twin

end Reactivity.Script
