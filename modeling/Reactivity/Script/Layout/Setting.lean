import Reactivity.Script.Layout.Literal

namespace Reactivity.Script.Layout

/-!
# Settings of the layout

Each node is written in a setting that its parent chooses. What a setting forbids
holds for the statements, functions and parameters inside of a node as well, until a
part is written free of it. A layout of a form gets its children as pieces: the node,
to look at, and a function that writes it in a setting.
-/

/-- What the text of an expression begins, if anything. -/
inductive Lead where
  | nothing
  | statement
  | arrowBody
  | exportDefault
  deriving Repr, DecidableEq

/-- How a node is fitted into its parent. -/
inductive Fit where
  /-- On lines of its own. -/
  | lines
  /-- After a space on the line of its parent. -/
  | sameLine
  /-- Inside the text of its parent. -/
  | inside
  /-- As the parameters and body of a method. -/
  | method
  /-- As the value of an arrow function. -/
  | value
  deriving Repr, DecidableEq

/-- Where and how a node is written. -/
structure Setting where
  /-- The number of tabs before a line. -/
  depth : Nat := 0
  /-- An expression that binds no tighter than this gets parentheses. -/
  level : Level := .lowest
  /-- The operator `in` gets parentheses. -/
  forbidsIn : Bool := false
  /-- A call gets parentheses. -/
  forbidsCall : Bool := false
  lead : Lead := .nothing
  fit : Fit := .lines
  deriving Repr, DecidableEq

namespace Setting

/-- The tabs before a line. -/
def tabs
    (setting : Setting) :
    String :=
  String.ofList (List.replicate setting.depth '\t')

/-- What is written before a statement. -/
def indent
    (setting : Setting) :
    String :=
  match setting.fit with
  | .lines => setting.tabs
  | .sameLine => " "
  | .inside | .method | .value => ""

/-- A node that is no operand, fitted in some way. -/
def fitted
    (setting : Setting)
    (fit : Fit) :
    Setting :=
  { setting with level := .lowest, lead := .nothing, fit }

/-- Statements one level deeper, on lines of their own. -/
def deeper
    (setting : Setting) :
    Setting :=
  { setting.fitted .lines with depth := setting.depth + 1 }

/-- A statement after a space on the same line. -/
def onSameLine
    (setting : Setting) :
    Setting :=
  setting.fitted .sameLine

/-- A node inside the text of its parent. -/
def within
    (setting : Setting) :
    Setting :=
  setting.fitted .inside

/-- A method. -/
def asMethod
    (setting : Setting) :
    Setting :=
  setting.fitted .method

/-- The start of a loop head, where only `in` is forbidden. -/
def asLoopStart
    (setting : Setting) :
    Setting :=
  { depth := setting.depth, fit := .inside, forbidsIn := true }

/-- A part of a pattern in brackets, where nothing is forbidden. -/
def inPattern
    (setting : Setting) :
    Setting :=
  { depth := setting.depth, fit := .inside }

/-- An expression that is free of what surrounds it. -/
def free
    (setting : Setting)
    (level : Level) :
    Setting :=
  { depth := setting.depth, level }

/-- An operand that is not the first part of its parent's text. -/
def later
    (setting : Setting)
    (level : Level) :
    Setting :=
  { setting with level, lead := .nothing, fit := .lines }

/-- An operand that is the first part of its parent's text. -/
def first
    (setting : Setting)
    (level : Level) :
    Setting :=
  { setting with level, fit := .lines }

/-- The setting of an expression that does not forbid calls. -/
def allowingCall
    (setting : Setting) :
    Setting :=
  { setting with forbidsCall := false }

end Setting

/-- Write an expression in parentheses if a condition holds. -/
def wrapped
    (condition : Bool)
    (setting : Setting)
    (write : Setting → String) :
    String :=
  if condition then
    "(" ++ write { setting with lead := .nothing } ++ ")"
  else
    write setting

/-- Like `wrapped`, and in parentheses the operator `in` is free. -/
def wrappedFree
    (condition : Bool)
    (setting : Setting)
    (write : Setting → String) :
    String :=
  wrapped condition
    (if condition then { setting with forbidsIn := false } else setting) write

/-- A child: the node, and how it is written. -/
structure Piece where
  node : Node
  write : Setting → String

namespace Piece

/-- The form of a piece. -/
def form
    (piece : Piece) :
    Form :=
  piece.node.form

/-- The place of a missing child. -/
def absent : Piece where
  node := .absent
  write := fun _ => ""

/-- The child is missing. -/
def isAbsent
    (piece : Piece) :
    Bool :=
  piece.node.isAbsent

end Piece

/-- Join texts with a separator. -/
def joined
    (separator : String)
    (texts : List String) :
    String :=
  String.intercalate separator texts

/-- Write pieces with commas between them. -/
def commaSeparated
    (pieces : List Piece)
    (setting : Setting) :
    String :=
  joined ", " (pieces.map (fun piece => piece.write setting))

/-- Write pieces one after the other. -/
def concatenated
    (pieces : List Piece)
    (setting : Setting) :
    String :=
  joined "" (pieces.map (fun piece => piece.write setting))

/-- Lines between braces; without any line there are only the braces. -/
def braces
    (setting : Setting)
    (lines : String) :
    String :=
  if lines.isEmpty then
    "\x7b\x7d"
  else
    "\x7b\n" ++ lines ++ setting.tabs ++ "\x7d"

end Reactivity.Script.Layout
