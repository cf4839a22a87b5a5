import Reactivity.Template.Visitor

namespace Reactivity.Template

/-!
# Traces of template walks

Two visitors that change nothing. One notes every children list and every node that a
walk comes to. The other records every children list that is entered, with its container
and length, and every text, and leaves out the subtrees of the elements and blocks that it
is told to prune.
-/

/-- What a walk comes to: a children list with its container, or a node. -/
inductive Spot where
  | list (container : Container) (children : List Node)
  | node (node : Node)
  deriving Repr

/-- The node of a spot, if it is one. -/
def Spot.node? :
    Spot →
    Option Node
  | .list _ _ => none
  | .node visited => some visited

/-- Note every list and every node, the latest first. -/
def Visitor.noting :
    Visitor (List Spot) where
  children := fun container children walk => do
    modify (.list container children :: ·)
    walk
  node := fun node walk => do
    modify (.node node :: ·)
    walk

/-- A template after a walk that notes what it comes to, and the notes in order. -/
def note
    (nodes : List Node) :
    List Node × List Spot :=
  let (images, spots) := Visitor.noting.walkRoot nodes |>.run []
  (images, spots.reverse)

/-- The nodes of a template in document order. -/
def visitedNodes
    (nodes : List Node) :
    List Node :=
  (note nodes).2.filterMap Spot.node?

/-- What a recording walk records. -/
inductive Event where
  | entered (container : Container) (length : Nat)
  | text (value : String)
  deriving Repr, DecidableEq

/--
Record the lists that are entered and the texts, the latest first.

The elements and blocks that are pruned are not entered.
-/
def Visitor.recording
    (prunes : Node → Bool) :
    Visitor (List Event) where
  children := fun container children walk => do
    modify (.entered container children.length :: ·)
    walk
  text := fun value => do
    modify (.text value :: ·)
    return value
  element := fun name children walk =>
    if prunes (.element name children) then return (name, children) else walk
  block := fun kind children walk =>
    if prunes (.block kind children) then return children else walk

/-- A template after a recording walk, and the events in order. -/
def record
    (prunes : Node → Bool)
    (nodes : List Node) :
    List Node × List Event :=
  let (images, events) := (Visitor.recording prunes).walkRoot nodes |>.run []
  (images, events.reverse)

/-- The names of the blocks. -/
def BlockKind.title :
    BlockKind →
    String
  | .each => "Each"
  | .slot => "Slot"
  | .fragment => "Fragment"

/-- The tag name of an element or the name of a block is one of these. -/
def Node.isNamedIn
    (names : List String) :
    Node →
    Bool
  | .element name _ => names.contains name
  | .block kind _ => names.contains kind.title
  | _ => false

/-- The events of a template in which elements and blocks are pruned by name. -/
def trace
    (pruned : List String)
    (nodes : List Node) :
    List Event :=
  (record (Node.isNamedIn pruned) nodes).2

/-- A character of a tag name, written so that the name can stand in quotes. -/
def escapeNameCharacter
    (character : Char) :
    String :=
  match character with
  | '"' => "\\\""
  | '\\' => "\\\\"
  | '\n' => "\\n"
  | '\t' => "\\t"
  | '\r' => "\\r"
  | _ =>
      let code := character.toNat
      if code == 0 then
        "\\0"
      else if code < 0x20 || (0x7F ≤ code && code < 0xA0) then
        "\\u\x7b" ++ String.ofList (Nat.toDigits 16 code) ++ "\x7d"
      else
        character.toString

/-- The written form of a container. -/
def Container.describe :
    Container →
    String
  | .root => "Root"
  | .element name =>
      "Element(\"" ++ String.join (name.toList.map escapeNameCharacter) ++ "\")"
  | .block kind => kind.title
  | .branch => "If"
  | .awaiting => "Await"

/-- The written form of an event. -/
def Event.describe :
    Event →
    String
  | .entered container length => container.describe ++ " " ++ toString length
  | .text value => "text " ++ value

end Reactivity.Template
