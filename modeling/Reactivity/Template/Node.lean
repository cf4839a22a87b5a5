import Reactivity.Text.Blank

namespace Reactivity.Template

/-!
# Template trees

The markup of a component as a tree of texts, elements and blocks. Every
children list has an owner, its container; the container decides which white
space in the list can be dropped.
-/

/-- The blocks that hold a single children list. -/
inductive BlockKind where
  | each
  | slot
  | fragment
  deriving Repr, DecidableEq

/-- A template node. -/
inductive Node where
  /-- Text between tags. -/
  | text (value : String)
  /-- An element with its tag name. -/
  | element (name : String) (children : List Node)
  /-- A loop, slot or fragment. -/
  | block (kind : BlockKind) (children : List Node)
  /-- A condition with the nodes of its two branches. -/
  | branch (children otherwise : List Node)
  /-- An awaited value: the nodes before, after success and after failure. -/
  | awaiting (main resolved rejected : List Node)
  deriving Repr, BEq

/-- The owner of a children list. -/
inductive Container where
  | root
  | element (name : String)
  | block (kind : BlockKind)
  | branch
  | awaiting
  deriving Repr, DecidableEq

namespace Node

/-- The value of a text. -/
def textValue? :
    Node →
    Option String
  | .text value => some value
  | _ => none

/-- The tag name of an element. -/
def elementName? :
    Node →
    Option String
  | .element name _ => some name
  | _ => none

/-- A text of blank characters only; the empty text is one. -/
def isBlankText :
    Node →
    Bool
  | .text value => Text.isBlankText value
  | _ => false

/-- The children lists of a node with their container, in document order. -/
def childLists :
    Node →
    List (Container × List Node)
  | .text _ => []
  | .element name children => [(.element name, children)]
  | .block kind children => [(.block kind, children)]
  | .branch children otherwise => [(.branch, children), (.branch, otherwise)]
  | .awaiting main resolved rejected =>
      [(.awaiting, main), (.awaiting, resolved), (.awaiting, rejected)]

end Node

end Reactivity.Template
