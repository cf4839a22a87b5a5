namespace Reactivity.Text

/-!
# Text quoted for a template literal

Template text is emitted between backticks. A backtick inside it is preceded by
a backslash; the one-line form also writes a line feed as a backslash and `n`.
Backslashes of the text itself are left as they are.
-/

/-- Put a backslash before every backtick. -/
def quoteBackticks :
    List Char →
    List Char
  | [] => []
  | '\x60' :: rest => '\\' :: '\x60' :: quoteBackticks rest
  | character :: rest => character :: quoteBackticks rest

/-- Write every line feed as a backslash and `n`. -/
def quoteLineFeeds :
    List Char →
    List Char
  | [] => []
  | '\n' :: rest => '\\' :: 'n' :: quoteLineFeeds rest
  | character :: rest => character :: quoteLineFeeds rest

/-- The text of a template literal that may span lines. -/
def quoted
    (text : String) :
    String :=
  String.ofList (quoteBackticks text.toList)

/-- The text of a template literal on one line. -/
def quotedOnOneLine
    (text : String) :
    String :=
  String.ofList (quoteLineFeeds (quoteBackticks text.toList))

end Reactivity.Text
