import Mathlib.Data.List.Basic
import Reactivity.Proofs.Text.Blank
import Reactivity.Template.Compact

namespace Reactivity.Template

/-!
# Gaps between nodes

A children list is cut at the nodes that are no texts. What is left between two of
them, before the first and after the last one, are gaps with any number of texts. The
compaction of the list is the compaction of its gaps, each for itself: whether the text
of a gap is dropped depends on the nodes at both of its ends in the list as it was
written, although the blank texts are dropped one after the other from a list in which
texts have been dropped before.
-/

namespace Node

/-- The node is a text. -/
def isText
    (node : Node) :
    Bool :=
  node.textValue?.isSome

/-- The node is an element whose content keeps its white space. -/
def isPreserved :
    Node →
    Bool
  | .element name _ => preservedElements.contains name
  | _ => false

/-- Change the children lists of a node. -/
def mapLists
    (change : Container → List Node → List Node) :
    Node →
    Node
  | .text value => .text value
  | .element name children => .element name (change (.element name) children)
  | .block kind children => .block kind (change (.block kind) children)
  | .branch children otherwise => .branch (change .branch children) (change .branch otherwise)
  | .awaiting main resolved rejected =>
      .awaiting (change .awaiting main) (change .awaiting resolved) (change .awaiting rejected)

/-- A node is compacted by compacting its children lists, unless it is preserved. -/
theorem compact_eq
    (node : Node) :
    node.compact = if node.isPreserved then node else node.mapLists compactChildren := by
  cases node <;> rfl

theorem compact_of_isPreserved
    {node : Node}
    (preserved : node.isPreserved) :
    node.compact = node := by
  rw [compact_eq, if_pos preserved]

theorem isText_compact
    (node : Node) :
    node.compact.isText = node.isText := by
  cases node with
  | element name children =>
      rw [compact_eq]
      split <;> rfl
  | _ => rfl

theorem elementName?_compact
    (node : Node) :
    node.compact.elementName? = node.elementName? := by
  cases node with
  | element name children =>
      rw [compact_eq]
      split <;> rfl
  | _ => rfl

end Node

/-- The texts between two nodes that are no texts, or at an end of a list. -/
structure Gap where
  before : Option Node
  texts : List String
  after : Option Node

namespace Gap

/-- The text of all texts in the gap. -/
def text
    (gap : Gap) :
    String :=
  String.join gap.texts

/-- The nodes of a gap, with the one that ends it. -/
def nodes
    (gap : Gap) :
    List Node :=
  gap.texts.map .text ++ gap.after.toList

/-- The text can be dropped from its list. -/
def isDropped
    (container : Container)
    (gap : Gap) :
    Bool :=
  Text.isBlankText (Text.collapseBlanks gap.text) && container.drops gap.before gap.after

/-- What is left of the texts in the gap. -/
def keptTexts
    (container : Container)
    (gap : Gap) :
    List String :=
  if gap.texts.isEmpty || gap.isDropped container then
    []
  else
    [Text.collapseBlanks gap.text]

/-- The gap after compaction. -/
def compacted
    (container : Container)
    (gap : Gap) :
    Gap where
  before := gap.before.map Node.compact
  texts := gap.keptTexts container
  after := gap.after.map Node.compact

end Gap

/-- The gaps of a list, the first of which starts behind a node. -/
inductive IsCut :
    Option Node →
    List Node →
    List Gap →
    Prop where
  | last
      (before : Option Node)
      (texts : List String) :
      IsCut before (texts.map .text) [⟨before, texts, none⟩]
  | next
      (before : Option Node)
      (texts : List String)
      {node : Node}
      {rest : List Node}
      {gaps : List Gap}
      (solid : node.isText = false)
      (cut : IsCut (some node) rest gaps) :
      IsCut before (texts.map .text ++ node :: rest) (⟨before, texts, some node⟩ :: gaps)

/-- The gaps of a list that stands behind a node. -/
def gapsFrom
    (before : Option Node) :
    List Node →
    List Gap
  | [] => [⟨before, [], none⟩]
  | .text value :: rest =>
      (gapsFrom before rest).modifyHead (fun gap => { gap with texts := value :: gap.texts })
  | node :: rest => ⟨before, [], some node⟩ :: gapsFrom (some node) rest

/-- The gaps of a children list. -/
def gaps
    (children : List Node) :
    List Gap :=
  gapsFrom none children

theorem gapsFrom_solid
    {node : Node}
    (solid : node.isText = false)
    (before : Option Node)
    (rest : List Node) :
    gapsFrom before (node :: rest) = ⟨before, [], some node⟩ :: gapsFrom (some node) rest := by
  cases node with
  | text value => cases solid
  | _ => rfl

theorem gapsFrom_texts
    (before : Option Node)
    (texts : List String)
    (rest : List Node) :
    gapsFrom before (texts.map .text ++ rest) =
      (gapsFrom before rest).modifyHead (fun gap => { gap with texts := texts ++ gap.texts }) := by
  induction texts with
  | nil =>
      rw [List.map_nil, List.nil_append]
      cases gapsFrom before rest <;> rfl
  | cons value texts inductionHypothesis =>
      rw [List.map_cons, List.cons_append, gapsFrom, inductionHypothesis]
      cases gapsFrom before rest <;> rfl

/-- A list has only one cut. -/
theorem IsCut.eq_gapsFrom
    {before : Option Node}
    {children : List Node}
    {cut : List Gap}
    (isCut : IsCut before children cut) :
    cut = gapsFrom before children := by
  induction isCut with
  | last before texts =>
      have shape := gapsFrom_texts before texts []
      rw [List.append_nil] at shape
      simp [shape, gapsFrom]
  | next before texts solid _ inductionHypothesis =>
      rw [gapsFrom_texts, gapsFrom_solid solid, ← inductionHypothesis]
      simp

/-- A text in front of a list stands in its first gap. -/
theorem IsCut.text
    {before : Option Node}
    {children : List Node}
    {cut : List Gap}
    (isCut : IsCut before children cut)
    (value : String) :
    IsCut before (.text value :: children)
      (cut.modifyHead (fun gap => { gap with texts := value :: gap.texts })) := by
  cases isCut with
  | last _ texts => exact .last before (value :: texts)
  | next _ texts solid rest => exact .next before (value :: texts) solid rest

theorem isCut_gapsFrom
    (before : Option Node)
    (children : List Node) :
    IsCut before children (gapsFrom before children) := by
  induction children generalizing before with
  | nil =>
      exact .last before []
  | cons node rest inductionHypothesis =>
      cases solid : node.isText with
      | true =>
          cases node with
          | text value => exact (inductionHypothesis before).text value
          | _ => cases solid
      | false =>
          rw [gapsFrom_solid solid]
          exact .next before [] solid (inductionHypothesis (some node))

theorem isCut_gaps
    (children : List Node) :
    IsCut none children (gaps children) :=
  isCut_gapsFrom none children

/-- A list consists of its gaps. -/
theorem IsCut.flatMap_nodes
    {before : Option Node}
    {children : List Node}
    {cut : List Gap}
    (isCut : IsCut before children cut) :
    cut.flatMap Gap.nodes = children := by
  induction isCut with
  | last before texts =>
      simp [Gap.nodes]
  | next before texts solid _ inductionHypothesis =>
      simp [Gap.nodes, inductionHypothesis]

/-- Texts in front of a list are joined into its first run. -/
theorem joinTexts_texts
    (run : Option String)
    (texts : List String)
    (rest : List Node) :
    joinTexts run (texts.map .text ++ rest) =
      joinTexts (if texts.isEmpty then run else some (run.getD "" ++ String.join texts)) rest := by
  induction texts generalizing run with
  | nil =>
      rfl
  | cons value texts inductionHypothesis =>
      rw [List.map_cons, List.cons_append, joinTexts, inductionHypothesis]
      cases texts with
      | nil => simp
      | cons second others => simp [String.append_assoc]

theorem joinTexts_solid
    {node : Node}
    (solid : node.isText = false)
    (run : Option String)
    (rest : List Node) :
    joinTexts run (node :: rest) = closeRun run ++ node.compact :: joinTexts none rest := by
  cases node with
  | text value => cases solid
  | _ => rfl

/-- A run of texts ends before a node that is no text, and at the end of a list. -/
theorem joinTexts_run
    {rest : List Node}
    (solid : ∀ node ∈ rest.head?, node.isText = false)
    (texts : List String) :
    joinTexts none (texts.map .text ++ rest) =
      closeRun (if texts.isEmpty then none else some (String.join texts)) ++
        joinTexts none rest := by
  rw [joinTexts_texts]
  cases rest with
  | nil =>
      simp [joinTexts, closeRun]
  | cons node rest =>
      have nodeSolid := solid node rfl
      rw [joinTexts_solid nodeSolid, joinTexts_solid nodeSolid]
      simp [closeRun]

/-- What is dropped depends on the names of the neighbours, which stay the same. -/
theorem Container.drops_compact
    (container : Container)
    (previous next : Option Node) :
    container.drops (previous.map Node.compact) (next.map Node.compact) =
      container.drops previous next := by
  cases previous <;> cases next <;> simp [Container.drops, Node.elementName?_compact]

theorem dropBlanks_solid
    {node : Node}
    (solid : node.isText = false)
    (container : Container)
    (previous : Option Node)
    (rest : List Node) :
    dropBlanks container previous (node :: rest) =
      node :: dropBlanks container (some node) rest := by
  have noBlank : node.isBlankText = false := by
    cases node with
    | text value => cases solid
    | _ => rfl
  simp [dropBlanks, noBlank]

/-- Before a node that is no text it does not matter which node was kept last. -/
theorem dropBlanks_congr
    {rest : List Node}
    (solid : ∀ node ∈ rest.head?, node.isText = false)
    (container : Container)
    (first second : Option Node) :
    dropBlanks container first rest = dropBlanks container second rest := by
  cases rest with
  | nil =>
      rfl
  | cons node rest =>
      have nodeSolid := solid node rfl
      rw [dropBlanks_solid nodeSolid, dropBlanks_solid nodeSolid]

/--
A gap is compacted when the passes come to it.

The node that was kept last is the compacted one before the gap, whatever has been
dropped earlier, because nothing but texts is ever dropped.
-/
theorem dropBlanks_gap
    (container : Container)
    (gap : Gap)
    (rest : List Node)
    (ended : rest.head? = gap.after)
    (solid : ∀ node ∈ rest.head?, node.isText = false) :
    dropBlanks container (gap.before.map Node.compact)
        (joinTexts none (gap.texts.map .text ++ rest)) =
      (gap.keptTexts container).map .text ++
        dropBlanks container (gap.before.map Node.compact) (joinTexts none rest) := by
  rw [joinTexts_run solid]
  cases noText : gap.texts.isEmpty with
  | true =>
      simp [closeRun, Gap.keptTexts, noText]
  | false =>
      have joinedEnd : (joinTexts none rest).head? = gap.after.map Node.compact := by
        rw [← ended]
        cases rest with
        | nil => rfl
        | cons node later =>
            rw [joinTexts_solid (solid node rfl)]
            rfl
      have joinedSolid : ∀ node ∈ (joinTexts none rest).head?, node.isText = false := by
        intro node member
        rw [joinedEnd, ← ended] at member
        obtain ⟨origin, isEnd, rfl⟩ := Option.map_eq_some_iff.mp member
        rw [Node.isText_compact]
        exact solid origin isEnd
      have dropped :
          ((Node.text (Text.collapseBlanks gap.text)).isBlankText &&
              container.drops (gap.before.map Node.compact) (joinTexts none rest).head?) =
            gap.isDropped container := by
        rw [joinedEnd, Container.drops_compact]
        rfl
      simp only [Bool.false_eq_true, if_false, closeRun, List.singleton_append, dropBlanks]
      rw [← Gap.text, dropped]
      cases isDropped : gap.isDropped container with
      | true =>
          simp [Gap.keptTexts, isDropped]
      | false =>
          simp [Gap.keptTexts, noText, isDropped,
            dropBlanks_congr joinedSolid container _ (gap.before.map Node.compact)]

/-- The passes over a list compact its gaps one by one. -/
theorem IsCut.dropBlanks_joinTexts
    {before : Option Node}
    {children : List Node}
    {cut : List Gap}
    (isCut : IsCut before children cut)
    (container : Container) :
    dropBlanks container (before.map Node.compact) (joinTexts none children) =
      cut.flatMap (fun gap => (gap.compacted container).nodes) := by
  induction isCut with
  | last before texts =>
      have passed := dropBlanks_gap container ⟨before, texts, none⟩ [] rfl (by simp)
      simpa [joinTexts, closeRun, dropBlanks, Gap.nodes, Gap.compacted] using passed
  | @next before texts node rest cut solid _ inductionHypothesis =>
      have passed :=
        dropBlanks_gap container ⟨before, texts, some node⟩ (node :: rest) rfl
          (by simpa using solid)
      have compactSolid : node.compact.isText = false := by
        rw [Node.isText_compact, solid]
      have later :
          dropBlanks container (some node.compact) (joinTexts none rest) =
            cut.flatMap (fun gap => (gap.compacted container).nodes) :=
        inductionHypothesis
      rw [passed, joinTexts_solid solid]
      simp only [closeRun, List.nil_append, dropBlanks_solid compactSolid, later]
      simp [Gap.nodes, Gap.compacted]

/-- The gaps after compaction are those of the list that comes out. -/
theorem IsCut.compacted
    {before : Option Node}
    {children : List Node}
    {cut : List Gap}
    (isCut : IsCut before children cut)
    (container : Container) :
    IsCut (before.map Node.compact)
      (cut.flatMap (fun gap => (gap.compacted container).nodes))
      (cut.map (Gap.compacted container)) := by
  induction isCut with
  | last before texts =>
      have shape :=
        IsCut.last (before.map Node.compact) (Gap.keptTexts container ⟨before, texts, none⟩)
      simpa [Gap.nodes, Gap.compacted] using shape
  | @next before texts node rest cut solid _ inductionHypothesis =>
      have compactSolid : node.compact.isText = false := by
        rw [Node.isText_compact, solid]
      have shape :=
        IsCut.next (before.map Node.compact) (Gap.keptTexts container ⟨before, texts, some node⟩)
          compactSolid inductionHypothesis
      simpa [Gap.nodes, Gap.compacted] using shape

theorem compactChildren_eq
    (container : Container)
    (children : List Node) :
    compactChildren container children =
      (gaps children).flatMap (fun gap => (gap.compacted container).nodes) :=
  (isCut_gaps children).dropBlanks_joinTexts container

theorem gaps_compactChildren
    (container : Container)
    (children : List Node) :
    gaps (compactChildren container children) =
      (gaps children).map (Gap.compacted container) := by
  rw [compactChildren_eq]
  exact ((isCut_gaps children).compacted container).eq_gapsFrom.symm

/--
The compaction of a list rewrites each of its gaps for itself, and each of its nodes.

What happens to a gap is decided by its own texts, the nodes around it in the list that
is compacted, and the container. A node that is not preserved has each of its children
lists compacted in the same way.
-/
theorem compactChildren_gapwise
    (container : Container)
    (children : List Node) :
    IsCut none children (gaps children) ∧
      compactChildren container children =
        (gaps children).flatMap (fun gap =>
          (if gap.texts.isEmpty ||
              (Text.isBlankText (Text.collapseBlanks gap.text) &&
                container.drops gap.before gap.after) then
            []
          else
            [.text (Text.collapseBlanks gap.text)]) ++
          gap.after.toList.map (fun node =>
            if node.isPreserved then node else node.mapLists compactChildren)) := by
  refine ⟨isCut_gaps children, ?_⟩
  rw [compactChildren_eq]
  congr 1
  funext gap
  have sameNodes :
      (gap.after.map Node.compact).toList =
        gap.after.toList.map (fun node =>
          if node.isPreserved then node else node.mapLists compactChildren) := by
    rw [Option.toList_map]
    exact List.map_congr_left (fun node _ => node.compact_eq)
  unfold Gap.nodes Gap.compacted Gap.keptTexts Gap.isDropped
  dsimp only
  rw [sameNodes]
  split <;> rfl

end Reactivity.Template
