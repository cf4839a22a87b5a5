import Reactivity.Template.Node

namespace Reactivity.Template

/-!
# White space compaction

Compaction works on one children list at a time. Adjacent texts are joined and
collapsed, nested nodes are compacted on the way, and then blank texts that
cannot affect the layout are dropped from left to right. Nothing moves from one
list to another.
-/

/-- Elements whose content keeps its white space. -/
def preservedElements : List String :=
  ["pre", "textarea"]

/-- Elements between equal ones of which white space never shows. -/
def insignificantPairs : List String :=
  ["td", "tr", "li", "div"]

/-- Lists whose white space layout is known. -/
def Container.hasKnownLayout :
    Container →
    Bool
  | .element name => ["tr", "table", "ul", "div"].contains name
  | .block .each => true
  | _ => false

/--
A blank text at one end of a list can be dropped.

`neighbour` is the tag name of the only sibling next to it.
-/
def Container.dropsAtEnd
    (container : Container)
    (neighbour : Option String) :
    Bool :=
  match container with
  | .element "tr" | .block .each => neighbour == some "td"
  | .element "table" => neighbour == some "tbody"
  | .element "ul" => neighbour == some "li"
  | .element "div" => true
  | _ => false

/-- A blank text between two siblings, or at an end of its list, can be dropped. -/
def Container.drops
    (container : Container)
    (previous next : Option Node) :
    Bool :=
  match previous, next with
  | some before, some after =>
      container.hasKnownLayout &&
        match before.elementName?, after.elementName? with
        | some left, some right => left == right && insignificantPairs.contains left
        | _, _ => false
  | some before, none => container.dropsAtEnd before.elementName?
  | none, some after => container.dropsAtEnd after.elementName?
  | none, none => container.dropsAtEnd none

/-- Drop the blank texts of a list; `previous` is the last node that was kept. -/
def dropBlanks
    (container : Container)
    (previous : Option Node) :
    List Node →
    List Node
  | [] => []
  | node :: rest =>
      if node.isBlankText && container.drops previous rest.head? then
        dropBlanks container previous rest
      else
        node :: dropBlanks container (some node) rest

/-- The node for a finished run of texts. -/
def closeRun :
    Option String →
    List Node
  | none => []
  | some run => [.text (Text.collapseBlanks run)]

mutual

/-- Compact all children lists below a node. -/
def Node.compact :
    Node →
    Node
  | .text value => .text value
  | .element name children =>
      if preservedElements.contains name then
        .element name children
      else
        .element name (dropBlanks (.element name) none (joinTexts none children))
  | .block kind children =>
      .block kind (dropBlanks (.block kind) none (joinTexts none children))
  | .branch children otherwise =>
      .branch
        (dropBlanks .branch none (joinTexts none children))
        (dropBlanks .branch none (joinTexts none otherwise))
  | .awaiting main resolved rejected =>
      .awaiting
        (dropBlanks .awaiting none (joinTexts none main))
        (dropBlanks .awaiting none (joinTexts none resolved))
        (dropBlanks .awaiting none (joinTexts none rejected))

/--
Join and collapse the runs of texts in a list and compact its other nodes.

`run` is the text of the run that is being read.
-/
def joinTexts
    (run : Option String) :
    List Node →
    List Node
  | [] => closeRun run
  | .text value :: rest => joinTexts (some (run.getD "" ++ value)) rest
  | node :: rest => closeRun run ++ node.compact :: joinTexts none rest

end

/-- Compact a children list. -/
def compactChildren
    (container : Container)
    (children : List Node) :
    List Node :=
  dropBlanks container none (joinTexts none children)

/-- Compact a template. -/
def compact
    (nodes : List Node) :
    List Node :=
  compactChildren .root nodes

end Reactivity.Template
