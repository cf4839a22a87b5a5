import Reactivity.Template.Node

namespace Reactivity.Template

/-!
# Visitors

A visitor has a method for children lists, one for nodes of any kind, and one for each
kind of node. A walk calls them on the way through a template: lists in order, the lists
of a node in the order of the document, and for a node first the method for any node and
then the one for its kind.

A method is handed the walk of what is below its place. To run it is to descend; a method
that does not run it prunes the subtree. Either way it answers with what stands at the
place from then on.
-/

/-- The methods of a visitor with a state. What is not given descends and changes nothing. -/
structure Visitor (state : Type) where
  children :
      Container → List Node → StateM state (List Node) → StateM state (List Node) :=
    fun _ _ walk => walk
  node :
      Node → StateM state Node → StateM state Node :=
    fun _ walk => walk
  text :
      String → StateM state String :=
    pure
  element :
      String → List Node → StateM state (String × List Node) →
        StateM state (String × List Node) :=
    fun _ _ walk => walk
  block :
      BlockKind → List Node → StateM state (List Node) → StateM state (List Node) :=
    fun _ _ walk => walk
  branch :
      List Node → List Node → StateM state (List Node × List Node) →
        StateM state (List Node × List Node) :=
    fun _ _ walk => walk
  awaiting :
      List Node → List Node → List Node → StateM state (List Node × List Node × List Node) →
        StateM state (List Node × List Node × List Node) :=
    fun _ _ _ walk => walk

namespace Visitor

variable {state : Type} (visitor : Visitor state)

mutual

/-- Walk a node: call the method for its kind. -/
def walkNode :
    Node →
    StateM state Node
  | .text value => do
      let image ← visitor.text value
      return .text image
  | .element name children => do
      let (tag, images) ← visitor.element name children do
        let images ← visitor.children (.element name) children (walkChildren children)
        return (name, images)
      return .element tag images
  | .block kind children => do
      let images ← visitor.block kind children
        (visitor.children (.block kind) children (walkChildren children))
      return .block kind images
  | .branch children otherwise => do
      let (images, others) ← visitor.branch children otherwise do
        let images ← visitor.children .branch children (walkChildren children)
        let others ← visitor.children .branch otherwise (walkChildren otherwise)
        return (images, others)
      return .branch images others
  | .awaiting main resolved rejected => do
      let (first, second, third) ← visitor.awaiting main resolved rejected do
        let first ← visitor.children .awaiting main (walkChildren main)
        let second ← visitor.children .awaiting resolved (walkChildren resolved)
        let third ← visitor.children .awaiting rejected (walkChildren rejected)
        return (first, second, third)
      return .awaiting first second third

/-- Walk a list: call the method for nodes on one after the other. -/
def walkChildren :
    List Node →
    StateM state (List Node)
  | [] => return []
  | node :: rest => do
      let image ← visitor.node node (walkNode node)
      let images ← walkChildren rest
      return image :: images

end

/-- Walk a template. -/
def walkRoot
    (nodes : List Node) :
    StateM state (List Node) :=
  visitor.children .root nodes (visitor.walkChildren nodes)

end Visitor

end Reactivity.Template
