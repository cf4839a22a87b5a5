import Reactivity.Number.Magnitude
import Reactivity.Script.Escape

namespace Reactivity.Script

/-!
# Tokens

A token is read from the characters at its start. A slash is always read as an
operator and a backtick as a symbol of its own; where the grammar expects a
regular expression or a template text, it reads that from the same characters.

A text that starts no token gives the token `invalid`, which fits nowhere in the
grammar.
-/

/-- A token of a script. -/
inductive Token where
  | finish
  /-- An identifier or keyword. -/
  | word (text : String) (isEscaped : Bool)
  | privateWord (text : String)
  | symbol (text : String)
  | number (value : Number.Magnitude)
  | bigInteger (value : Nat)
  | string (value raw : String)
  | invalid
  deriving Repr, DecidableEq

/-- Space characters between tokens; line ends are not among them. -/
def isSpace
    (character : Char) :
    Bool :=
  let code := character.toNat
  code == 0x09 || code == 0x0B || code == 0x0C || code == 0x20 || code == 0x85 ||
    code == 0xA0 || code == 0x1680 || (0x2000 ≤ code && code ≤ 0x200B) ||
    code == 0x202F || code == 0x205F || code == 0x3000 || code == 0xFEFF

/-- What is being skipped between two tokens. -/
inductive Gap where
  | spaces
  | lineComment
  | blockComment
  deriving Repr, DecidableEq

/--
Skip spaces and comments.

The result says whether a line ended on the way. There is no result when a
comment is not closed.
-/
def skipGap? :
    Gap →
    Bool →
    List Char →
    Option (Bool × List Char)
  | .blockComment, _, [] => none
  | _, ended, [] => some (ended, [])
  | .spaces, ended, '/' :: '/' :: rest => skipGap? .lineComment ended rest
  | .spaces, ended, '/' :: '*' :: rest => skipGap? .blockComment ended rest
  | .spaces, ended, character :: rest =>
      if isLineEnd character then
        skipGap? .spaces true rest
      else if isSpace character then
        skipGap? .spaces ended rest
      else
        some (ended, character :: rest)
  | .lineComment, ended, character :: rest =>
      if isLineEnd character then
        skipGap? .spaces true rest
      else
        skipGap? .lineComment ended rest
  | .blockComment, ended, '*' :: '/' :: rest => skipGap? .spaces ended rest
  | .blockComment, ended, character :: rest =>
      skipGap? .blockComment (ended || isLineEnd character) rest

/-- The symbols, longer ones first. -/
def symbols : List String :=
  [">>>=", "...", "===", "!==", "**=", "<<=", ">>=", ">>>", "&&=", "||=", "??=", "=>", "==",
    "!=", "<=", ">=", "&&", "||", "??", "?.", "++", "--", "+=", "-=", "*=", "/=", "%=", "&=",
    "|=", "^=", "<<", ">>", "**", "\x7b", "\x7d", "(", ")", "[", "]", ";", ",", "<", ">", "+",
    "-", "*", "/", "%", "&", "|", "^", "!", "~", "?", ":", "=", ".", "`"]

/-- Read the longest symbol; a question mark before a decimal fraction stands alone. -/
def readSymbol?
    (text : List Char) :
    Option (String × List Char) :=
  match text with
  | '?' :: '.' :: digit :: _ =>
      if digit.isDigit then
        some ("?", text.drop 1)
      else
        some ("?.", text.drop 2)
  | _ =>
      (symbols.find? (fun symbol => symbol.toList.isPrefixOf text)).map
        (fun symbol => (symbol, text.drop symbol.toList.length))

/-- Underscores stand only between two digits. -/
def separatorsAreValid :
    List Char →
    Bool
  | [] => true
  | ['_'] => false
  | '_' :: '_' :: _ => false
  | _ :: rest => separatorsAreValid rest

/-- Read a run of digits with separators: the digits, and the rest. -/
def readRun?
    (isDigit : Char → Bool)
    (text : List Char) :
    Option (List Char × List Char) :=
  let run := text.takeWhile (fun character => isDigit character || character == '_')
  if run.head? != some '_' && separatorsAreValid run then
    some (run.filter (· != '_'), text.dropWhile (fun character =>
      isDigit character || character == '_'))
  else
    none

/-- A number must not be followed directly by a digit or an identifier. -/
def endsNumber
    (rest : List Char) :
    Bool :=
  match rest with
  | [] => true
  | '\\' :: _ => false
  | character :: _ => !(character.isDigit || Text.isIdentifierStart character)

/-- Finish a number that spells a natural number: a big one ends in `n`. -/
def finishInteger
    (value : Nat)
    (rest : List Char) :
    Token × List Char :=
  match rest with
  | 'n' :: after => if endsNumber after then (.bigInteger value, after) else (.invalid, [])
  | _ => if endsNumber rest then (.number (.ofNat value), rest) else (.invalid, [])

/-- Read a number in a base other than ten, after its two leading characters. -/
def readBased
    (base : Nat)
    (isDigit : Char → Bool)
    (text : List Char) :
    Token × List Char :=
  match readRun? isDigit text with
  | some (digit :: digits, rest) => finishInteger (readDigits base (digit :: digits)) rest
  | _ => (.invalid, [])

/-- Read the exponent of a decimal number; there is none unless the text starts with `e`. -/
def readExponent? :
    List Char →
    Option (Int × List Char)
  | marker :: text =>
      if marker == 'e' || marker == 'E' then
        let (sign, digits) :=
          match text with
          | '-' :: more => ((-1 : Int), more)
          | '+' :: more => (1, more)
          | more => (1, more)
        match readRun? Char.isDigit digits with
        | some (digit :: others, rest) =>
            some (sign * (readDigits 10 (digit :: others) : Int), rest)
        | _ => none
      else
        some (0, marker :: text)
  | [] => some (0, [])

/-- Read the rest of a decimal number after its whole part and point. -/
def readFraction
    (whole : List Char)
    (text : List Char) :
    Token × List Char :=
  match readRun? Char.isDigit text with
  | none => (.invalid, [])
  | some (fraction, afterFraction) =>
      match readExponent? afterFraction with
      | none => (.invalid, [])
      | some (exponent, rest) =>
          if endsNumber rest then
            (.number (.ofDecimal (readDigits 10 (whole ++ fraction))
              (exponent - (fraction.length : Int))), rest)
          else
            (.invalid, [])

/-- Read a decimal number that starts with a digit. -/
def readDecimal
    (text : List Char) :
    Token × List Char :=
  match readRun? Char.isDigit text with
  | none => (.invalid, [])
  | some (whole, rest) =>
      if whole.head? == some '0' && 1 < whole.length then
        (.invalid, [])
      else
        match rest with
        | '.' :: after => readFraction whole after
        | 'e' :: _ | 'E' :: _ =>
            match readExponent? rest with
            | none => (.invalid, [])
            | some (exponent, after) =>
                if endsNumber after then
                  (.number (.ofDecimal (readDigits 10 whole) exponent), after)
                else
                  (.invalid, [])
        | _ => finishInteger (readDigits 10 whole) rest

/-- Read a number; the text starts with a digit, or with a point and a digit. -/
def readNumber
    (text : List Char) :
    Token × List Char :=
  match text with
  | '0' :: marker :: rest =>
      if marker == 'x' || marker == 'X' then
        readBased 16 isHexadecimalDigit rest
      else if marker == 'o' || marker == 'O' then
        readBased 8 (fun character => '0' ≤ character && character ≤ '7') rest
      else if marker == 'b' || marker == 'B' then
        readBased 2 (fun character => character == '0' || character == '1') rest
      else
        readDecimal text
  | '.' :: rest => readFraction [] rest
  | _ => readDecimal text

/-- Read a token and the text after it. The text does not start with a gap. -/
def readToken
    (text : List Char) :
    Token × List Char :=
  match text with
  | [] => (.finish, [])
  | '.' :: next :: _ =>
      if next.isDigit then
        readNumber text
      else
        match readSymbol? text with
        | some (symbol, rest) => (.symbol symbol, rest)
        | none => (.invalid, [])
  | '#' :: rest =>
      match readWord? rest with
      | some (name, _, after) => (.privateWord name, after)
      | none => (.invalid, [])
  | character :: rest =>
      if character.isDigit then
        readNumber text
      else if character == '"' || character == '\'' then
        match readString? character rest with
        | some (value, after) =>
            (.string (String.ofList value)
              (String.ofList (rest.take (rest.length - after.length - 1))), after)
        | none => (.invalid, [])
      else
        match readWord? text with
        | some (name, escaped, after) => (.word name escaped, after)
        | none =>
            match readSymbol? text with
            | some (symbol, after) => (.symbol symbol, after)
            | none => (.invalid, [])

/--
Read the inside of a regular expression up to its closing slash.

`inClass` says that the text is inside square brackets, where a slash is an
ordinary character.
-/
def readRegexBody? :
    Bool →
    List Char →
    Option (List Char × List Char)
  | _, [] => none
  | inClass, '\\' :: character :: rest =>
      if isLineEnd character then
        none
      else
        (readRegexBody? inClass rest).map (fun read => ('\\' :: character :: read.1, read.2))
  | inClass, character :: rest =>
      if isLineEnd character then
        none
      else if character == '/' && !inClass then
        some ([], rest)
      else
        let inside := if character == '[' then true else if character == ']' then false else inClass
        (readRegexBody? inside rest).map (fun read => (character :: read.1, read.2))

/-- The flags of regular expressions, in the order in which they are written. -/
def regexFlags : List Char :=
  ['d', 'g', 'i', 'm', 's', 'u', 'v', 'y']

/-- Read a regular expression after its opening slash: body, flags in order, and rest. -/
def readRegex?
    (text : List Char) :
    Option (String × String × List Char) :=
  match readRegexBody? false text with
  | none => none
  | some (body, afterBody) =>
      let flags := afterBody.takeWhile Text.isIdentifierPart
      let known := flags.all regexFlags.contains
      let distinct := regexFlags.all (fun flag => flags.count flag ≤ 1)
      if known && distinct then
        some (String.ofList body, String.ofList (regexFlags.filter flags.contains),
          afterBody.dropWhile Text.isIdentifierPart)
      else
        none

/--
Read a template text up to a substitution or the closing backtick.

Line ends of two characters are read as one line feed. The flag says that the
template is closed.
-/
def readTemplateText? :
    List Char →
    Option (List Char × Bool × List Char)
  | [] => none
  | '\x60' :: rest => some ([], true, rest)
  | '$' :: '\x7b' :: rest => some ([], false, rest)
  | '\\' :: '\r' :: '\n' :: rest =>
      (readTemplateText? rest).map (fun read => ('\\' :: '\n' :: read.1, read.2))
  | '\\' :: '\r' :: rest =>
      (readTemplateText? rest).map (fun read => ('\\' :: '\n' :: read.1, read.2))
  | '\\' :: character :: rest =>
      (readTemplateText? rest).map (fun read => ('\\' :: character :: read.1, read.2))
  | '\r' :: '\n' :: rest => (readTemplateText? rest).map (fun read => ('\n' :: read.1, read.2))
  | '\r' :: rest => (readTemplateText? rest).map (fun read => ('\n' :: read.1, read.2))
  | character :: rest =>
      (readTemplateText? rest).map (fun read => (character :: read.1, read.2))

end Reactivity.Script
