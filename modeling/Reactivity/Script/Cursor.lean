import Reactivity.Script.Node
import Reactivity.Script.Token

namespace Reactivity.Script

/-!
# Cursors and readers

A cursor stands at a token of a script and knows the characters from that token
on, from which the token has been read. A reader takes a cursor, and either returns
a value and the cursor behind what it has read, or fails. A reader decides by the
token at the cursor and, in a few places, by the token after it. Only the head of an
asynchronous arrow function is tried first and then given up.
-/

/-- A place in a script. -/
structure Cursor where
  /-- The number of characters of the whole script. -/
  size : Nat
  /-- The script from the current token on. -/
  here : List Char
  /-- The current token. -/
  token : Token
  /-- The script behind the current token. -/
  rest : List Char
  /-- Where the current token starts. -/
  start : Nat
  /-- A line ended between the previous token and the current one. -/
  isOnNewLine : Bool
  /-- Where the previous token stopped. -/
  previousStop : Nat
  /-- The token stands where the cursor is, if the script can be read up to there. -/
  isRead : token = .invalid ∨ readToken here = (token, rest)
  deriving Repr

namespace Cursor

/-- The cursor at the first token of the end of a script. -/
def ofText
    (size : Nat)
    (text : List Char) :
    Cursor :=
  let previousStop := size - text.length
  match skipGap? .spaces false text with
  | none =>
      { size, here := text, token := .invalid, rest := [], start := previousStop,
        isOnNewLine := false, previousStop, isRead := .inl rfl }
  | some (ended, here) =>
      let read := readToken here
      { size, here, token := read.1, rest := read.2, start := size - here.length,
        isOnNewLine := ended, previousStop, isRead := .inr rfl }

/-- The cursor at the next token. -/
def next
    (cursor : Cursor) :
    Cursor :=
  ofText cursor.size cursor.rest

/-- The current token is a symbol. -/
def isAt
    (cursor : Cursor)
    (symbol : String) :
    Bool :=
  cursor.token == .symbol symbol

/-- The current token is one of some symbols. -/
def isAtAny
    (cursor : Cursor)
    (candidates : List String) :
    Bool :=
  candidates.any cursor.isAt

/-- The current token is a keyword; an escaped word is no keyword. -/
def isAtWord
    (cursor : Cursor)
    (word : String) :
    Bool :=
  cursor.token == .word word false

/-- The current token is the last one. -/
def isAtEnd
    (cursor : Cursor) :
    Bool :=
  cursor.token == .finish

end Cursor

/-- A reader of a part of a script. -/
abbrev Reader := StateT Cursor Option

namespace Reader

/-- The current cursor. -/
def cursor :
    Reader Cursor :=
  get

/-- Move to the next token. -/
def advance :
    Reader Unit :=
  modify Cursor.next

/-- Move to the first token of a later part of the script. -/
def continueAt
    (text : List Char) :
    Reader Unit :=
  modify (fun cursor => Cursor.ofText cursor.size text)

/-- Read nothing further unless a condition holds. -/
def require
    (condition : Bool) :
    Reader Unit :=
  if condition then pure () else failure

/-- The current token is a symbol. -/
def isAt
    (symbol : String) :
    Reader Bool :=
  return (← cursor).isAt symbol

/-- The current token is a keyword. -/
def isAtWord
    (word : String) :
    Reader Bool :=
  return (← cursor).isAtWord word

/-- Read a symbol if it is there, and say whether it was. -/
def accept
    (symbol : String) :
    Reader Bool := do
  if ← isAt symbol then
    advance
    return true
  else
    return false

/-- Read a keyword if it is there, and say whether it was. -/
def acceptWord
    (word : String) :
    Reader Bool := do
  if ← isAtWord word then
    advance
    return true
  else
    return false

/-- Read a symbol. -/
def expect
    (symbol : String) :
    Reader Unit := do
  require (← accept symbol)

/-- Read a keyword. -/
def expectWord
    (word : String) :
    Reader Unit := do
  require (← acceptWord word)

/-- Where the current token starts. -/
def position :
    Reader Nat :=
  return (← cursor).start

/-- The range from a position up to the end of what has been read. -/
def spanFrom
    (start : Nat) :
    Reader Span :=
  return ⟨start, (← cursor).previousStop⟩

/-- A node that ends where reading stands. -/
def finish
    (start : Nat)
    (role : Role)
    (form : Form)
    (children : List Node := []) :
    Reader Node :=
  return .mk form role (← spanFrom start) children

/--
Read the end of a statement.

It is a semicolon, or nothing where the next token closes a block, ends the script
or stands on a new line.
-/
def semicolon :
    Reader Unit := do
  let current ← cursor
  if current.isAt ";" then
    advance
  else
    require (current.isAt "\x7d" || current.isAtEnd || current.isOnNewLine)

/-- Repeat a step until it has a result, at most `bound` times. -/
def repeated
    {state result : Type}
    (step : state → Reader (state ⊕ result)) :
    Nat →
    state →
    Reader result
  | 0, _ => failure
  | bound + 1, current => do
      match ← step current with
      | .inl next => repeated step bound next
      | .inr result => return result

/-- Read an item, or the closing symbol that ends the items before it. -/
def untilStep
    {item : Type}
    (close : String)
    (read : Reader item)
    (items : List item) :
    Reader (List item ⊕ List item) := do
  if ← accept close then
    return .inr items.reverse
  else
    return .inl ((← read) :: items)

/-- Read items until the next token is a closing symbol, which is read too. -/
def untilSymbol
    {item : Type}
    (bound : Nat)
    (close : String)
    (read : Reader item) :
    Reader (List item) :=
  repeated (untilStep close read) bound []

/-- Read an item and the comma behind it; before a closing symbol there may be none. -/
def withSeparator
    {item : Type}
    (close : String)
    (read : Reader item) :
    Reader item := do
  let item ← read
  unless ← isAt close do
    expect ","
  return item

/--
Read items with commas between them up to a closing symbol, which is read too.

A comma may follow the last item.
-/
def separated
    {item : Type}
    (bound : Nat)
    (close : String)
    (read : Reader item) :
    Reader (List item) :=
  untilSymbol bound close (withSeparator close read)

end Reader

end Reactivity.Script
