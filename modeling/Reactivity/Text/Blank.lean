namespace Reactivity.Text

/-!
# Blank characters

The characters with the Unicode property `White_Space`, and the two operations
the library needs on them: trimming a text at both ends, and collapsing the
blank runs at its ends to single spaces.

Both operations are defined on lists of characters. The versions on `String`
only change the representation.
-/

/-- A character with the Unicode property `White_Space`. -/
def isBlank
    (character : Char) :
    Bool :=
  let code := character.toNat
  (0x09 ≤ code && code ≤ 0x0D) || code == 0x20 || code == 0x85 ||
    code == 0xA0 || code == 0x1680 || (0x2000 ≤ code && code ≤ 0x200A) ||
    code == 0x2028 || code == 0x2029 || code == 0x202F || code == 0x205F ||
    code == 0x3000

/-- Drop the blank characters at the start. -/
def trimStart
    (text : List Char) :
    List Char :=
  text.dropWhile isBlank

/-- Drop the blank characters at the end. -/
def trimEnd
    (text : List Char) :
    List Char :=
  (text.reverse.dropWhile isBlank).reverse

/-- Drop the blank characters at both ends. -/
def trim
    (text : List Char) :
    List Char :=
  trimEnd (trimStart text)

/-- Every character is blank; so is the empty text. -/
def allBlank
    (text : List Char) :
    Bool :=
  text.all isBlank

/-- One space when a text starts with a blank character, else nothing. -/
def leadingSpace :
    List Char →
    List Char
  | [] => []
  | character :: _ => if isBlank character then [' '] else []

/--
Collapse the blank runs at both ends to one space each.

The empty text stays empty and a text of blank characters becomes one space.
-/
def collapse
    (text : List Char) :
    List Char :=
  if text.isEmpty then
    []
  else if allBlank text then
    [' ']
  else
    leadingSpace text ++ trim text ++ leadingSpace text.reverse

/-- Collapse the blank runs at both ends of a string. -/
def collapseBlanks
    (text : String) :
    String :=
  String.ofList (collapse text.toList)

/-- Every character of the string is blank. -/
def isBlankText
    (text : String) :
    Bool :=
  allBlank text.toList

end Reactivity.Text
