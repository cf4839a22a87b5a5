import Reactivity.Number.Compact
import Reactivity.Script.Node

namespace Reactivity.Script.Layout

/-!
# Written literals

Strings are written in double quotes. The closing tag of a script element never
appears in what is written: its slash gets a backslash.
-/

/-- The text starts with the name of the script element, in any case. -/
def startsWithScript
    (text : List Char) :
    Bool :=
  (text.take 6).map Char.toLower == "script".toList

/-- Write a character of a string; `following` is the text after it. -/
def stringCharacter
    (character : Char)
    (following : List Char) :
    List Char :=
  match character with
  | '\x00' =>
      if (following.head?.map Char.isDigit).getD false then
        "\\x00".toList
      else
        "\\0".toList
  | '\x07' => "\\x07".toList
  | '\x08' => "\\b".toList
  | '\x0b' => "\\v".toList
  | '\x0c' => "\\f".toList
  | '\n' => "\\n".toList
  | '\r' => "\\r".toList
  | '\x1b' => "\\x1B".toList
  | '\\' => "\\\\".toList
  | '"' => "\\\"".toList
  | '\u00a0' => "\\xA0".toList
  | '\u2028' => "\\u2028".toList
  | '\u2029' => "\\u2029".toList
  | _ => [character]

/-- Write the characters of a string. -/
def stringCharacters :
    List Char →
    List Char
  | [] => []
  | '<' :: '/' :: rest =>
      let slash := if startsWithScript rest then "<\\/".toList else "</".toList
      slash ++ stringCharacters rest
  | character :: rest => stringCharacter character rest ++ stringCharacters rest

/-- Write a string. -/
def stringText
    (value : String) :
    String :=
  "\"" ++ String.ofList (stringCharacters value.toList) ++ "\""

/-- Write the characters of a template text. -/
def templateCharacters :
    List Char →
    List Char
  | [] => []
  | '<' :: '/' :: rest =>
      let slash := if startsWithScript rest then "<\\/".toList else "</".toList
      slash ++ templateCharacters rest
  | character :: rest => character :: templateCharacters rest

/-- Write a template text. -/
def templateText
    (text : String) :
    String :=
  String.ofList (templateCharacters text.toList)

/-- The first quote of a directive that has no backslash before it. -/
def firstQuote? :
    List Char →
    Option Char
  | [] => none
  | '\\' :: _ :: rest => firstQuote? rest
  | character :: rest =>
      if character == '"' || character == '\'' then
        some character
      else
        firstQuote? rest

/-- Write a directive, in quotes that do not end it early. -/
def directiveText
    (raw : String) :
    String :=
  let quote := if firstQuote? raw.toList == some '"' then "'" else "\""
  quote ++ raw ++ quote

/-- Write a name in an import or export list. -/
def moduleNameText :
    ModuleName →
    String
  | .plain name => name
  | .quoted text => stringText text

end Reactivity.Script.Layout
