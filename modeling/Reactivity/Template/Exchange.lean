import Reactivity.Data.Value
import Reactivity.Template.Node

namespace Reactivity.Template

/-!
# Templates as structured values

A template node is a record with a `type` field. Children lists may be absent
when a node is read and are always present when it is written. A list is read
as a whole: one unreadable node makes the list unreadable, and so does nesting that is
too deep.

Two more forms are read and never written: a list that starts with the type and goes
on with the fields in their order, and in a children list a type that is given by the
number of its kind.
-/

open Reactivity.Data

mutual

/-- The structured value of a node. -/
def Node.encode :
    Node →
    Value
  | .text value => .record [("type", .text "text"), ("value", .text value)]
  | .element name children =>
      .record [("type", .text "node"), ("name", .text name),
        ("children", .list (encodeNodes children))]
  | .block .each children =>
      .record [("type", .text "each"), ("children", .list (encodeNodes children))]
  | .block .slot children =>
      .record [("type", .text "slot"), ("children", .list (encodeNodes children))]
  | .block .fragment children =>
      .record [("type", .text "fragment"), ("children", .list (encodeNodes children))]
  | .branch children otherwise =>
      .record [("type", .text "if"), ("children", .list (encodeNodes children)),
        ("elseChildren", .list (encodeNodes otherwise))]
  | .awaiting main resolved rejected =>
      .record [("type", .text "await"), ("main", .list (encodeNodes main)),
        ("then", .list (encodeNodes resolved)), ("catch", .list (encodeNodes rejected))]

/-- The structured values of a list of nodes. -/
def encodeNodes :
    List Node →
    List Value
  | [] => []
  | node :: rest => node.encode :: encodeNodes rest

end

/-- The kinds of nodes. -/
inductive NodeKind where
  | text
  | element
  | each
  | slot
  | fragment
  | branch
  | awaiting
  deriving Repr, DecidableEq

namespace NodeKind

/-- The kinds in the order in which they are numbered. -/
def all : List NodeKind :=
  [.text, .element, .each, .slot, .fragment, .branch, .awaiting]

/-- The name of a kind in the `type` field. -/
def name :
    NodeKind →
    String
  | .text => "text"
  | .element => "node"
  | .each => "each"
  | .slot => "slot"
  | .fragment => "fragment"
  | .branch => "if"
  | .awaiting => "await"

/-- The fields of a node that hold a text. -/
def textNames :
    NodeKind →
    List String
  | .text => ["value"]
  | .element => ["name"]
  | _ => []

/-- The fields of a node that hold a list of nodes. -/
def listNames :
    NodeKind →
    List String
  | .text => []
  | .element | .each | .slot | .fragment => ["children"]
  | .branch => ["children", "elseChildren"]
  | .awaiting => ["main", "then", "catch"]

/-- The fields of a node, in their order. -/
def fieldNames
    (kind : NodeKind) :
    List String :=
  "type" :: (kind.textNames ++ kind.listNames)

/-- Read a kind. It is given by its name, and inside of another node also by its number. -/
def ofTag?
    (isNested : Bool) :
    Value →
    Option NodeKind
  | .text name => all.find? (fun kind => kind.name == name)
  | .number (.ofNat index) 0 => if isNested then all[index]? else none
  | _ => none

end NodeKind

/-- The fields of a node, with what each of them gives when it is read as a list of nodes. -/
structure FieldReader where
  fields : List (String × Value)
  lists : List (String × Option (List Node))

namespace FieldReader

/-- The nodes of a list field; an absent field is an empty list. -/
def children?
    (reader : FieldReader)
    (name : String) :
    Option (List Node) :=
  match reader.lists.find? (fun entry => entry.1 == name) with
  | none => some []
  | some entry => entry.2

/-- The node of a kind with these fields. -/
def node?
    (reader : FieldReader) :
    NodeKind →
    Option Node
  | .text => do
      let value ← Value.required? reader.fields "value" Value.asText?
      return .text value
  | .element => do
      let name ← Value.required? reader.fields "name" Value.asText?
      let children ← reader.children? "children"
      return .element name children
  | .each => (reader.children? "children").map (.block .each)
  | .slot => (reader.children? "children").map (.block .slot)
  | .fragment => (reader.children? "children").map (.block .fragment)
  | .branch => do
      let children ← reader.children? "children"
      let otherwise ← reader.children? "elseChildren"
      return .branch children otherwise
  | .awaiting => do
      let main ← reader.children? "main"
      let resolved ← reader.children? "then"
      let rejected ← reader.children? "catch"
      return .awaiting main resolved rejected

end FieldReader

mutual

/-- Read a node, inside of another node or not. -/
def readNode?
    (isNested : Bool) :
    Value →
    Option Node
  | .record fields => do
      let kind ← (Value.lookup? "type" fields).bind (NodeKind.ofTag? isNested)
      if kind.fieldNames.all (Value.isSingle fields) then
        FieldReader.node? { fields, lists := readFields fields } kind
      else
        none
  | .list items => do
      let kind ← items.head?.bind (NodeKind.ofTag? isNested)
      if items.length ≤ kind.fieldNames.length then
        FieldReader.node?
          { fields := kind.fieldNames.zip items, lists := kind.fieldNames.zip (readItems items) }
          kind
      else
        none
  | _ => none

/-- Read every field as a list of nodes, where that is possible. -/
def readFields :
    List (String × Value) →
    List (String × Option (List Node))
  | [] => []
  | (name, value) :: rest => (name, readNodes? true value) :: readFields rest

/-- Read every item as a list of nodes, where that is possible. -/
def readItems :
    List Value →
    List (Option (List Node))
  | [] => []
  | value :: rest => readNodes? true value :: readItems rest

/-- Read a list of nodes, inside of another node or not. -/
def readNodes?
    (isNested : Bool) :
    Value →
    Option (List Node)
  | .list items => readAll? isNested items
  | _ => none

/-- Read the items of a list as nodes. -/
def readAll?
    (isNested : Bool) :
    List Value →
    Option (List Node)
  | [] => some []
  | item :: rest => do
      let node ← readNode? isNested item
      let nodes ← readAll? isNested rest
      return node :: nodes

end

/-- Read a node from a document. -/
def decodeNode?
    (value : Value) :
    Option Node :=
  if value.isShallow then readNode? false value else none

/-- Read a list of nodes from a document. -/
def decodeNodes?
    (value : Value) :
    Option (List Node) :=
  if value.isShallow then readNodes? false value else none

end Reactivity.Template
