import Reactivity.Proofs.Template.Gap

namespace Reactivity.Template

/-!
# Places in a template

A children list of a template has a place: the way that leads down to it from the root
list. A step of the way chooses a node among those that are no texts, and one of the
children lists of that node. No way leads into a preserved element. Compaction moves no
list to another place and makes no list or place of its own, so that what is known of
one list holds at every place.
-/

/-- The nodes of a list that are no texts. -/
def solids
    (children : List Node) :
    List Node :=
  children.filter (fun node => !node.isText)

/-- A step of the way to a children list, counted among the solid nodes and their lists. -/
structure Step where
  node : Nat
  list : Nat
  deriving Repr, DecidableEq

/-- The children list at a place, with its container. -/
def listAt? :
    List Step →
    Container →
    List Node →
    Option (Container × List Node)
  | [], container, children => some (container, children)
  | step :: place, _, children =>
      ((solids children)[step.node]?).bind (fun node =>
        if node.isPreserved then
          none
        else
          (node.childLists[step.list]?).bind (fun inner => listAt? place inner.1 inner.2))

theorem mem_solids
    {children : List Node}
    {node : Node} :
    node ∈ solids children ↔ node ∈ children ∧ node.isText = false := by
  simp [solids]

/-- The solid nodes of a list end its gaps. -/
theorem IsCut.solids_eq
    {before : Option Node}
    {children : List Node}
    {cut : List Gap}
    (isCut : IsCut before children cut) :
    solids children = cut.flatMap (fun gap => gap.after.toList) := by
  have noSolid (texts : List String) : solids (texts.map .text) = [] := by
    simp [solids, Node.isText, Node.textValue?]
  induction isCut with
  | last before texts =>
      rw [noSolid]
      rfl
  | @next before texts node rest cut solid _ inductionHypothesis =>
      have split : solids (texts.map .text ++ node :: rest) = node :: solids rest := by
        have front := noSolid texts
        unfold solids at front ⊢
        rw [List.filter_append, front]
        simp [solid]
      rw [split, inductionHypothesis]
      rfl

/-- Compaction neither drops nor moves a solid node. -/
theorem solids_compactChildren
    (container : Container)
    (children : List Node) :
    solids (compactChildren container children) = (solids children).map Node.compact := by
  have after := (isCut_gaps (compactChildren container children)).solids_eq
  rw [gaps_compactChildren] at after
  rw [after, (isCut_gaps children).solids_eq, List.flatMap_map, List.map_flatMap]
  congr 1
  funext gap
  exact Option.toList_map ..

namespace Node

/-- Compaction does not change whether an element is preserved. -/
theorem isPreserved_compact
    (node : Node) :
    node.compact.isPreserved = node.isPreserved := by
  by_cases preserved : node.isPreserved
  · rw [compact_of_isPreserved preserved]
  · rw [compact_eq, if_neg preserved]
    cases node <;> rfl

/-- The lists of a node are compacted each on its own. -/
theorem childLists_compact
    {node : Node}
    (isOpen : node.isPreserved = false) :
    node.compact.childLists =
      node.childLists.map (fun inner => (inner.1, compactChildren inner.1 inner.2)) := by
  rw [compact_eq, if_neg (by simp [isOpen])]
  cases node <;> rfl

theorem mapLists_congr
    {first second : Container → List Node → List Node}
    {node : Node}
    (same : ∀ inner ∈ node.childLists, first inner.1 inner.2 = second inner.1 inner.2) :
    node.mapLists first = node.mapLists second := by
  cases node <;> simp_all [mapLists, childLists]

theorem mapLists_same
    (node : Node) :
    node.mapLists (fun _ children => children) = node := by
  cases node <;> rfl

/-- The children lists of a node are smaller than the node. -/
theorem sizeOf_childLists
    {node : Node}
    {inner : Container × List Node}
    (member : inner ∈ node.childLists) :
    sizeOf inner.2 < sizeOf node := by
  cases node with
  | text value =>
      cases member
  | element name children | block kind children =>
      simp only [childLists, List.mem_singleton] at member
      subst member
      simp only [element.sizeOf_spec, block.sizeOf_spec]
      omega
  | branch children otherwise =>
      simp only [childLists, List.mem_cons, List.not_mem_nil, or_false] at member
      rw [branch.sizeOf_spec]
      rcases member with rfl | rfl <;> dsimp only <;> omega
  | awaiting main resolved rejected =>
      simp only [childLists, List.mem_cons, List.not_mem_nil, or_false] at member
      rw [awaiting.sizeOf_spec]
      rcases member with rfl | rfl | rfl <;> dsimp only <;> omega

end Node

/-- Induction on a children list, with the children lists of its nodes. -/
theorem inductionOnLists
    {motive : List Node → Prop}
    (step :
      ∀ children,
        (∀ node ∈ children, ∀ inner ∈ node.childLists, motive inner.2) → motive children)
    (children : List Node) :
    motive children := by
  apply step children
  intro node member inner innerMember
  have nodeSmaller := List.sizeOf_lt_of_mem member
  have innerSmaller := Node.sizeOf_childLists innerMember
  exact inductionOnLists step inner.2
termination_by sizeOf children

/-- At each place of a compacted list stands the compaction of the list that stood there. -/
theorem listAt?_compactChildren
    (place : List Step)
    (container : Container)
    (children : List Node) :
    listAt? place container (compactChildren container children) =
      (listAt? place container children).map (fun found =>
        (found.1, compactChildren found.1 found.2)) := by
  induction place generalizing container children with
  | nil =>
      rfl
  | cons step place inductionHypothesis =>
      unfold listAt?
      rw [solids_compactChildren, List.getElem?_map]
      cases (solids children)[step.node]? with
      | none =>
          rfl
      | some node =>
          dsimp only [Option.map_some, Option.bind_some]
          rw [node.isPreserved_compact]
          cases isOpen : node.isPreserved with
          | true =>
              rfl
          | false =>
              rw [Node.childLists_compact isOpen, List.getElem?_map]
              cases node.childLists[step.list]? with
              | none => rfl
              | some inner => exact inductionHypothesis inner.1 inner.2

end Reactivity.Template
