import Reactivity.Proofs.Script.Single

namespace Reactivity.Script

/-!
# Texts that are cut into tokens

A text is cut into the same tokens wherever it stands, as long as what stands behind it does
not go on with its last token. So the tokens of a text that is put together are those of its
parts.
-/

/-- Some spaces. -/
def spaces
    (count : Nat) :
    List Char :=
  List.replicate count ' '

theorem IsWord.length_pos
    {word : List Char}
    (isWord : IsWord word) :
    0 < word.length := by
  cases word with
  | nil => cases isWord.starts
  | cons => exact Nat.succ_pos _

/-- No phrase goes on with this text. -/
def endsPhrase :
    List Char →
    Bool
  | [] => true
  | character :: _ => [' ', ',', ';', ')', ']', '\x7d'].contains character

/-- Any text may follow. -/
def anyText
    (_ : List Char) :
    Bool :=
  true

/-- What ends a phrase ends its last word. -/
theorem endsWord_of_endsPhrase
    {rest : List Char}
    (ends : endsPhrase rest) :
    endsWord rest := by
  cases rest with
  | nil => rfl
  | cons character others =>
      simp only [endsPhrase, List.contains_eq_mem, decide_eq_true_eq, List.mem_cons,
        List.not_mem_nil, or_false] at ends
      rcases ends with rfl | rfl | rfl | rfl | rfl | rfl <;> rfl

/-- A point is a symbol, unless another one stands behind it. -/
theorem readSymbol?_point
    {next : Char}
    (noPoint : next ≠ '.')
    (rest : List Char) :
    readSymbol? ('.' :: next :: rest) = some (".", next :: rest) := by
  simp [readSymbol?, symbols, List.isPrefixOf, Ne.symm noPoint]

/-- A point before a word is the first of some tokens. -/
theorem textAfter?_point
    {key : String}
    (isWord : IsWord key.toList)
    (rest : List Char)
    (tokens : List Token) :
    textAfter? (.symbol "." :: tokens) ('.' :: (key.toList ++ rest)) =
      textAfter? tokens (key.toList ++ rest) := by
  have starts := isWord.starts
  cases characters : key.toList with
  | nil =>
      rw [characters] at starts
      cases starts
  | cons next others =>
      rw [characters] at starts
      have starts : Text.isIdentifierStart next := starts
      have noPoint : next ≠ '.' := by
        rintro rfl
        exact absurd starts (by decide)
      have isPoint : readToken ('.' :: next :: (others ++ rest)) =
          (.symbol ".", next :: (others ++ rest)) := by
        rw [readToken, not_isDigit_of_isIdentifierStart starts, readSymbol?_point noPoint]
        rfl
      have isFirst : firstToken? ('.' :: next :: (others ++ rest)) =
          some (readToken ('.' :: next :: (others ++ rest))) :=
        rfl
      rw [List.cons_append, textAfter?, isFirst, isPoint, Option.bind_some, if_pos rfl]

/-- A text is cut into tokens, whatever stands behind it, if that does not go on with the text. -/
def IsCut
    (ends : List Char → Bool)
    (text : List Char)
    (tokens : List Token) :
    Prop :=
  ∀ (others : List Token) ⦃rest : List Char⦄,
    ends rest → textAfter? (tokens ++ others) (text ++ rest) = textAfter? others rest

namespace IsCut

variable
  {ends otherEnds : List Char → Bool}
  {text otherText : List Char}
  {first : Token}
  {tokens otherTokens : List Token}

/-- Two texts are cut one after the other. -/
theorem append
    (cut : IsCut ends text tokens)
    (otherCut : IsCut otherEnds otherText otherTokens)
    (meets : ∀ ⦃rest⦄, otherEnds rest → ends (otherText ++ rest)) :
    IsCut otherEnds (text ++ otherText) (tokens ++ otherTokens) := by
  intro others rest ending
  rw [List.append_assoc, List.append_assoc, cut _ (meets ending), otherCut _ ending]

/-- Less may stand behind a text than it allows. -/
theorem weaken
    (cut : IsCut ends text tokens)
    (fewer : ∀ ⦃rest⦄, otherEnds rest → ends rest) :
    IsCut otherEnds text tokens :=
  fun others _ ending => cut others (fewer ending)

/-- Spaces before the first token are skipped. -/
theorem indent
    (cut : IsCut ends text (first :: tokens))
    (count : Nat) :
    IsCut ends (spaces count ++ text) (first :: tokens) := by
  intro others rest ending
  induction count with
  | zero => exact cut others ending
  | succ count inductionHypothesis => exact (textAfter?_space _ _ _).trans inductionHypothesis

theorem word
    {word : String}
    (isWord : IsWord word.toList) :
    IsCut endsWord word.toList [.word word false] :=
  fun others _ ending => textAfter?_word isWord ending others

/-- The characters that are symbols, whatever stands behind them. -/
def marks : List (Char × String) :=
  [('(', "("), (')', ")"), ('[', "["), (']', "]"), ('\x7b', "\x7b"), ('\x7d', "\x7d"), (',', ","),
    (';', ";"), (':', ":")]

/-- A mark is cut off, whatever stands behind it. -/
theorem mark
    {character : Char}
    {symbol : String}
    (isMark : (character, symbol) ∈ marks) :
    IsCut anyText [character] [.symbol symbol] := by
  intro others rest _
  simp only [marks, List.mem_cons, Prod.mk.injEq, List.not_mem_nil, or_false] at isMark
  rcases isMark with ⟨rfl, rfl⟩ | ⟨rfl, rfl⟩ | ⟨rfl, rfl⟩ | ⟨rfl, rfl⟩ | ⟨rfl, rfl⟩ | ⟨rfl, rfl⟩ |
    ⟨rfl, rfl⟩ | ⟨rfl, rfl⟩ | ⟨rfl, rfl⟩ <;> rfl

/-- What stands between two marks is cut, if the second one ends it. -/
theorem between
    {opening closing : Char}
    {openingSymbol closingSymbol : String}
    (isOpening : (opening, openingSymbol) ∈ marks)
    (cut : IsCut ends text tokens)
    (isClosing : (closing, closingSymbol) ∈ marks)
    (meets : ∀ rest, ends (closing :: rest)) :
    IsCut anyText (opening :: (text ++ [closing]))
      (.symbol openingSymbol :: (tokens ++ [.symbol closingSymbol])) :=
  (mark isOpening).append (cut.append (mark isClosing) (fun rest _ => meets rest))
    (fun _ _ => rfl)

/-- A point before a word is a symbol. -/
theorem point
    {key : String}
    (isWord : IsWord key.toList) :
    IsCut endsWord ('.' :: key.toList) [.symbol ".", .word key false] := by
  intro others rest ending
  refine Eq.trans ?_ (textAfter?_word isWord ending others)
  exact textAfter?_point isWord rest _

end IsCut

end Reactivity.Script
