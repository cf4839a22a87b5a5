import Reactivity.Text.Identifier

namespace Reactivity.Script

/-!
# Escapes

Backslash escapes of strings, templates and identifiers. Each reader takes the
characters after the part it is named for and returns what it read and the rest;
it fails on an escape that the language does not have.
-/

/-- Characters that end a line of a script. -/
def isLineEnd
    (character : Char) :
    Bool :=
  character == '\n' || character == '\r' ||
    character.toNat == 0x2028 || character.toNat == 0x2029

/-- The value of a hexadecimal digit. -/
def hexadecimalValue?
    (character : Char) :
    Option Nat :=
  if character.isDigit then
    some (character.toNat - '0'.toNat)
  else if 'a' ≤ character && character ≤ 'f' then
    some (character.toNat - 'a'.toNat + 10)
  else if 'A' ≤ character && character ≤ 'F' then
    some (character.toNat - 'A'.toNat + 10)
  else
    none

/-- The character is a hexadecimal digit. -/
def isHexadecimalDigit
    (character : Char) :
    Bool :=
  (hexadecimalValue? character).isSome

/-- The number that digits in a base spell; characters that are no digits count as zero. -/
def readDigits
    (base : Nat)
    (digits : List Char) :
    Nat :=
  digits.foldl (fun value digit => base * value + (hexadecimalValue? digit).getD 0) 0

/-- Read exactly `count` hexadecimal digits. -/
def readHexadecimal?
    (count : Nat)
    (text : List Char) :
    Option (Nat × List Char) :=
  let digits := text.take count
  if digits.length == count && digits.all isHexadecimalDigit then
    some (readDigits 16 digits, text.drop count)
  else
    none

/-- Read a code point after a backslash and `u`. -/
def readCodePoint? :
    List Char →
    Option (Nat × List Char)
  | '\x7b' :: text =>
      let digits := text.takeWhile isHexadecimalDigit
      match text.dropWhile isHexadecimalDigit with
      | '\x7d' :: rest =>
          let code := readDigits 16 digits
          if !digits.isEmpty && code ≤ 0x10FFFF then some (code, rest) else none
      | _ => none
  | text => readHexadecimal? 4 text

/-- The character of a code point; a surrogate stands for the replacement character. -/
def characterOf
    (code : Nat) :
    Char :=
  if 0xD800 ≤ code && code ≤ 0xDFFF then Char.ofNat 0xFFFD else Char.ofNat code

/-- Read a character after a backslash and `u`; a pair of surrogates is one character. -/
def readUnicodeEscape?
    (text : List Char) :
    Option (Char × List Char) :=
  match readCodePoint? text with
  | none => none
  | some (code, rest) =>
      let alone := some (characterOf code, rest)
      if 0xD800 ≤ code && code ≤ 0xDBFF then
        match rest with
        | '\\' :: 'u' :: more =>
            match readHexadecimal? 4 more with
            | some (low, after) =>
                if 0xDC00 ≤ low && low ≤ 0xDFFF then
                  some (Char.ofNat (0x10000 + (code - 0xD800) * 0x400 + (low - 0xDC00)), after)
                else
                  alone
            | none => alone
        | _ => alone
      else
        alone

/-- Read the rest of an escape after its backslash: the characters it stands for. -/
def readEscape? :
    List Char →
    Option (List Char × List Char)
  | [] => none
  | '\r' :: '\n' :: rest => some ([], rest)
  | 'x' :: text => (readHexadecimal? 2 text).map (fun read => ([Char.ofNat read.1], read.2))
  | 'u' :: text => (readUnicodeEscape? text).map (fun read => ([read.1], read.2))
  | character :: rest =>
      match character with
      | 'n' => some (['\n'], rest)
      | 't' => some (['\t'], rest)
      | 'r' => some (['\r'], rest)
      | 'b' => some (['\x08'], rest)
      | 'f' => some (['\x0c'], rest)
      | 'v' => some (['\x0b'], rest)
      | '0' =>
          if (rest.head?.map Char.isDigit).getD false then
            none
          else
            some (['\x00'], rest)
      | _ =>
          if isLineEnd character then
            some ([], rest)
          else if character.isDigit then
            none
          else
            some ([character], rest)

/-- Read the inside of a string up to its closing quote. -/
def readStringFrom?
    (quote : Char) :
    Nat →
    List Char →
    Option (List Char × List Char)
  | 0, _ => none
  | _, [] => none
  | steps + 1, '\\' :: text => do
      let (characters, rest) ← readEscape? text
      let (value, after) ← readStringFrom? quote steps rest
      return (characters ++ value, after)
  | steps + 1, character :: rest =>
      if character == quote then
        some ([], rest)
      else if character == '\n' || character == '\r' then
        none
      else do
        let (value, after) ← readStringFrom? quote steps rest
        return (character :: value, after)

/-- Read the inside of a string up to its closing quote. -/
def readString?
    (quote : Char)
    (text : List Char) :
    Option (List Char × List Char) :=
  readStringFrom? quote (text.length + 1) text

/-- Every escape of a template text is one the language has. -/
def escapesAreValidFrom :
    Nat →
    List Char →
    Bool
  | 0, _ => false
  | _, [] => true
  | steps + 1, '\\' :: text =>
      match readEscape? text with
      | some (_, rest) => escapesAreValidFrom steps rest
      | none => false
  | steps + 1, _ :: rest => escapesAreValidFrom steps rest

/-- Every escape of a template text is one the language has. -/
def escapesAreValid
    (text : String) :
    Bool :=
  escapesAreValidFrom (text.toList.length + 1) text.toList

/-- Read the characters of an identifier; the flag says that some were escaped. -/
def readWordFrom :
    Nat →
    List Char →
    List Char × Bool × List Char
  | 0, text => ([], false, text)
  | _, [] => ([], false, [])
  | steps + 1, '\\' :: 'u' :: text =>
      match readCodePoint? text with
      | some (code, rest) =>
          if Text.isIdentifierPart (Char.ofNat code) then
            let (characters, _, after) := readWordFrom steps rest
            (Char.ofNat code :: characters, true, after)
          else
            ([], false, '\\' :: 'u' :: text)
      | none => ([], false, '\\' :: 'u' :: text)
  | steps + 1, character :: rest =>
      if Text.isIdentifierPart character then
        let (characters, escaped, after) := readWordFrom steps rest
        (character :: characters, escaped, after)
      else
        ([], false, character :: rest)

/-- Read an identifier, if the text starts with one. -/
def readWord?
    (text : List Char) :
    Option (String × Bool × List Char) :=
  match readWordFrom (text.length + 1) text with
  | (first :: others, escaped, rest) =>
      if Text.isIdentifierStart first then
        some (String.ofList (first :: others), escaped, rest)
      else
        none
  | ([], _, _) => none

end Reactivity.Script
