import Reactivity.Proofs.Script.Token
import Reactivity.Text.SimpleName

namespace Reactivity.Script

/-!
# Simple names in scripts

A simple name that does not start with a digit is read as one word. One that starts with
a digit is no word at all.
-/

/-- The first token of a text, if it stands on the first line, and the text behind it. -/
def firstToken?
    (text : List Char) :
    Option (Token × List Char) :=
  (skipGap? .spaces false text).bind (fun gap => if gap.1 then none else some (readToken gap.2))

/-- A space before the first token is skipped. -/
theorem firstToken?_space
    (text : List Char) :
    firstToken? (' ' :: text) = firstToken? text :=
  rfl

/-- The cursor stands at a token that is on the line of the token before it. -/
structure Cursor.StandsAt
    (cursor : Cursor)
    (token : Token) :
    Prop where
  token_eq : cursor.token = token
  onLine : cursor.isOnNewLine = false

/-- The cursor at the start of a text stands at its first token. -/
theorem Cursor.ofText_of_firstToken
    {text rest : List Char}
    {token : Token}
    (first : firstToken? text = some (token, rest))
    (size : Nat) :
    (Cursor.ofText size text).StandsAt token ∧
      (Cursor.ofText size text).next = Cursor.ofText size rest := by
  obtain ⟨⟨ended, here⟩, skipped, tokenRead⟩ := Option.bind_eq_some_iff.mp first
  cases ended with
  | true => cases tokenRead
  | false =>
      have tokenRead := Option.some.inj tokenRead
      rw [Cursor.next, Cursor.ofText_of_skipped skipped]
      exact ⟨⟨congrArg Prod.fst tokenRead, rfl⟩, congrArg (Cursor.ofText size ·.2) tokenRead⟩

/-- The codes of the characters between tokens, and of the slash that starts a comment. -/
def gapCodes : List Nat :=
  [0x09, 0x0A, 0x0B, 0x0C, 0x0D, 0x20, 0x2F, 0x85, 0xA0, 0x1680] ++ List.range' 0x2000 12 ++
    [0x2028, 0x2029, 0x202F, 0x205F, 0x3000, 0xFEFF]

/-- No gap starts with a character that starts an identifier. -/
theorem toNat_not_mem_gapCodes
    {character : Char}
    (starts : Text.isIdentifierStart character) :
    character.toNat ∉ gapCodes := by
  have checked :
      gapCodes.all (fun code => !Text.isIdentifierStart (Char.ofNat code)) = true := by
    decide +kernel
  intro member
  have noStart := List.all_eq_true.mp checked _ member
  rw [Char.ofNat_toNat, starts] at noStart
  cases noStart

/-- Before a character that starts an identifier there is nothing to skip. -/
theorem skipGap?_of_isIdentifierStart
    {character : Char}
    (starts : Text.isIdentifierStart character)
    (ended : Bool)
    (rest : List Char) :
    skipGap? .spaces ended (character :: rest) = some (ended, character :: rest) := by
  have noGap := toNat_not_mem_gapCodes starts
  simp only [gapCodes, List.mem_append, List.mem_cons, List.mem_range'_1, List.not_mem_nil,
    or_false, not_or, not_and, Nat.not_lt] at noGap
  have noSlash : character ≠ '/' := by
    rintro rfl
    exact absurd starts (by decide)
  have noLineEnd : isLineEnd character = false := by
    apply Bool.eq_false_iff.mpr
    intro isEnd
    simp only [isLineEnd, Bool.or_eq_true, beq_iff_eq] at isEnd
    rcases isEnd with ((rfl | rfl) | isCode) | isCode
    · exact absurd starts (by decide)
    · exact absurd starts (by decide)
    · omega
    · omega
  have noSpace : isSpace character = false := by
    apply Bool.eq_false_iff.mpr
    intro isSpace
    simp only [Script.isSpace, Bool.or_eq_true, Bool.and_eq_true, beq_iff_eq,
      decide_eq_true_eq] at isSpace
    omega
  rw [skipGap?_spaces noSlash, noLineEnd, noSpace]
  rfl

/-- A word is the first token of a text. -/
theorem firstToken?_of_word
    {word rest : List Char}
    (isWord : IsWord word)
    (ends : endsWord rest) :
    firstToken? (word ++ rest) = some (.word (String.ofList word) false, rest) := by
  have tokenRead := readToken_word isWord ends
  cases word with
  | nil => cases isWord.starts
  | cons first others =>
      rw [firstToken?, List.cons_append, skipGap?_of_isIdentifierStart isWord.starts]
      exact congrArg some tokenRead

/-- The token is a word or a symbol. -/
def Token.isWordOrSymbol :
    Token →
    Bool
  | .word _ _ | .symbol _ => true
  | _ => false

/-- A number is never read as a word or symbol. -/
theorem readNumber_isWordOrSymbol
    (text : List Char) :
    (readNumber text).1.isWordOrSymbol = false := by
  have integer (value : Nat) (rest : List Char) :
      (finishInteger value rest).1.isWordOrSymbol = false := by
    unfold finishInteger
    split <;> split <;> rfl
  have based (base : Nat) (isDigit : Char → Bool) (rest : List Char) :
      (readBased base isDigit rest).1.isWordOrSymbol = false := by
    unfold readBased
    split
    · exact integer _ _
    · rfl
  have fraction (whole rest : List Char) :
      (readFraction whole rest).1.isWordOrSymbol = false := by
    unfold readFraction
    repeat' split
    all_goals rfl
  have decimal (rest : List Char) : (readDecimal rest).1.isWordOrSymbol = false := by
    unfold readDecimal
    repeat' split
    all_goals
      first
      | exact fraction _ _
      | exact integer _ _
      | rfl
  unfold readNumber
  repeat' split
  all_goals
    first
    | exact based _ _ _
    | exact fraction _ _
    | exact decimal _

/-- The characters of simple names have small codes. -/
theorem toNat_lt_of_isSimpleNameCharacter
    {character : Char}
    (simple : Text.isSimpleNameCharacter character) :
    character.toNat < 128 := by
  have classes :
      (character.isUpper || character.isLower || character.isDigit || character == '_' ||
        character == '$') = true :=
    simple
  simp only [Bool.or_eq_true, beq_iff_eq] at classes
  rcases classes with (((isUpper | isLower) | isDigit) | rfl) | rfl
  · exact Nat.lt_of_le_of_lt (of_decide_eq_true isUpper).2 (by decide)
  · exact Nat.lt_of_le_of_lt (of_decide_eq_true (Bool.and_eq_true_iff.mp isLower).2) (by decide)
  · exact Nat.lt_of_le_of_lt (of_decide_eq_true (Bool.and_eq_true_iff.mp isDigit).2) (by decide)
  · decide
  · decide

/-- What the characters of simple names are in a script. -/
structure IsPlain
    (character : Char) :
    Prop where
  part : Text.isIdentifierPart character
  starts : character.isDigit = false → Text.isIdentifierStart character
  noSpace : isSpace character = false
  noLineEnd : isLineEnd character = false
  noSlash : character ≠ '/'
  noEscape : character ≠ '\\'

theorem isPlain_of_isSimpleNameCharacter
    {character : Char}
    (simple : Text.isSimpleNameCharacter character) :
    IsPlain character := by
  have small := toNat_lt_of_isSimpleNameCharacter simple
  have checked : ∀ code : Fin 128, Text.isSimpleNameCharacter (Char.ofNat code.val) →
      Text.isIdentifierPart (Char.ofNat code.val) ∧
        ((Char.ofNat code.val).isDigit = false →
          Text.isIdentifierStart (Char.ofNat code.val)) ∧
        isSpace (Char.ofNat code.val) = false ∧ isLineEnd (Char.ofNat code.val) = false ∧
        Char.ofNat code.val ≠ '/' ∧ Char.ofNat code.val ≠ '\\' := by
    decide +kernel
  have here := checked ⟨character.toNat, small⟩
  rw [Char.ofNat_toNat] at here
  obtain ⟨part, starts, noSpace, noLineEnd, noSlash, noEscape⟩ := here simple
  exact ⟨part, starts, noSpace, noLineEnd, noSlash, noEscape⟩

/-- Before the character of a simple name there is nothing to skip. -/
theorem skipGap?_of_isPlain
    {character : Char}
    (plain : IsPlain character)
    (ended : Bool)
    (rest : List Char) :
    skipGap? .spaces ended (character :: rest) = some (ended, character :: rest) := by
  have noSlash := plain.noSlash
  simp_all [skipGap?, plain.noLineEnd, plain.noSpace]

variable {name rest : List Char}

/-- A simple name without a leading digit is a word. -/
theorem isWord_of_simple
    (simple : name.all Text.isSimpleNameCharacter)
    (leads : name.head?.any (fun character => !character.isDigit)) :
    IsWord name := by
  have plain : ∀ character ∈ name, IsPlain character :=
    fun character member =>
      isPlain_of_isSimpleNameCharacter (List.all_eq_true.mp simple character member)
  refine ⟨?_, ?_, ?_⟩
  · obtain ⟨first, isFirst, noDigit⟩ := (Option.any_eq_true _ _).mp leads
    rw [isFirst]
    exact (plain first (List.mem_of_head? isFirst)).starts (by simpa using noDigit)
  · exact List.all_eq_true.mpr (fun character member => (plain character member).part)
  · rw [← Bool.not_eq_true, List.contains_iff_mem]
    intro member
    exact (plain _ member).noEscape rfl

/-- A simple name without a leading digit is the first token of a text. -/
theorem firstToken?_of_simple
    (simple : name.all Text.isSimpleNameCharacter)
    (leads : name.head?.any (fun character => !character.isDigit))
    (ends : endsWord rest) :
    firstToken? (name ++ rest) = some (.word (String.ofList name) false, rest) :=
  firstToken?_of_word (isWord_of_simple simple leads) ends

/-- A text that starts with a digit starts with what is read as a number. -/
theorem firstToken?_digit
    {first : Char}
    (isDigit : first.isDigit)
    (simple : Text.isSimpleNameCharacter first)
    (rest : List Char) :
    firstToken? (first :: rest) = some (readNumber (first :: rest)) := by
  have plain := isPlain_of_isSimpleNameCharacter simple
  have noPoint : first ≠ '.' := by
    rintro rfl
    cases isDigit
  have noHash : first ≠ '#' := by
    rintro rfl
    cases isDigit
  have isNumber : readToken (first :: rest) = readNumber (first :: rest) := by
    simp_all [readToken]
  rw [firstToken?, skipGap?_of_isPlain plain]
  exact congrArg some isNumber

/-- A text that starts with a digit starts with neither word nor symbol. -/
theorem firstToken?_of_digit
    {first : Char}
    (isDigit : first.isDigit)
    (simple : Text.isSimpleNameCharacter first)
    (rest : List Char) :
    ∃ token after,
      firstToken? (first :: rest) = some (token, after) ∧ token.isWordOrSymbol = false :=
  ⟨_, _, firstToken?_digit isDigit simple rest, readNumber_isWordOrSymbol _⟩

end Reactivity.Script
