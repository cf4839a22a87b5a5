import Reactivity.Text.IdentifierExtend
import Reactivity.Text.IdentifierStart

namespace Reactivity.Text

/-!
# Identifier characters

The characters of identifiers in scripts: letters of any script, digits after
the first place, underscores and dollar signs.
-/

/-- A code point lies in one of the closed ranges. -/
def inRanges
    (ranges : List (Nat × Nat))
    (code : Nat) :
    Bool :=
  ranges.any (fun range => range.1 ≤ code && code ≤ range.2)

/-- A character that may start an identifier. -/
def isIdentifierStart
    (character : Char) :
    Bool :=
  if character.toNat < 0x80 then
    character.isAlpha || character == '_' || character == '$'
  else
    inRanges identifierStartRanges character.toNat

/-- A character that may follow the first one of an identifier. -/
def isIdentifierPart
    (character : Char) :
    Bool :=
  if character.toNat < 0x80 then
    character.isAlphanum || character == '_' || character == '$'
  else
    inRanges identifierStartRanges character.toNat ||
      inRanges identifierExtendRanges character.toNat

end Reactivity.Text
