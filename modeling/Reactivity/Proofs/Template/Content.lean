import Mathlib.Data.List.Forall2
import Reactivity.Proofs.Template.Place

namespace Reactivity.Template

/-!
# Content of a template

Compaction loses nothing but white space. Without its texts a template is after
compaction what it was before, preserved elements stay as they are where they are, and
every gap of every list keeps its text up to the blank characters around it. No text
gets into a gap where it did not stand before.
-/

mutual

/-- A node without the texts in it; a preserved element keeps them. -/
def Node.withoutTexts :
    Node →
    Node
  | .text value => .text value
  | .element name children =>
      if preservedElements.contains name then
        .element name children
      else
        .element name (dropTexts children)
  | .block kind children => .block kind (dropTexts children)
  | .branch children otherwise => .branch (dropTexts children) (dropTexts otherwise)
  | .awaiting main resolved rejected =>
      .awaiting (dropTexts main) (dropTexts resolved) (dropTexts rejected)

/-- A children list without texts. -/
def dropTexts :
    List Node →
    List Node
  | [] => []
  | .text _ :: rest => dropTexts rest
  | node :: rest => node.withoutTexts :: dropTexts rest

end

/-- A gap keeps its text up to blank characters, and gets none from elsewhere. -/
structure KeepsText
    (before after : Gap) :
    Prop where
  content : Text.trim after.text.toList = Text.trim before.text.toList
  own : ∀ value ∈ after.texts, value = Text.collapseBlanks before.text

/-- A list keeps its preserved elements and the texts of its gaps. -/
structure KeepsContent
    (before after : List Node) :
    Prop where
  preserved :
    ∀ (index : Nat) (node : Node),
      node.isPreserved →
        (solids before)[index]? = some node → (solids after)[index]? = some node
  gaps : List.Forall₂ KeepsText (gaps before) (gaps after)

theorem Node.withoutTexts_eq
    (node : Node) :
    node.withoutTexts =
      if node.isPreserved then node else node.mapLists (fun _ => dropTexts) := by
  cases node <;> rfl

theorem dropTexts_eq
    (children : List Node) :
    dropTexts children = (solids children).map Node.withoutTexts := by
  induction children with
  | nil =>
      rfl
  | cons node rest inductionHypothesis =>
      cases node with
      | text value => exact inductionHypothesis
      | _ => exact congrArg _ inductionHypothesis

/-- Without texts, a list is after compaction what it was before. -/
theorem dropTexts_compactChildren
    (children : List Node) :
    ∀ container, dropTexts (compactChildren container children) = dropTexts children := by
  induction children using inductionOnLists with
  | step children inductionHypothesis =>
      intro container
      rw [dropTexts_eq, dropTexts_eq, solids_compactChildren, List.map_map]
      apply List.map_congr_left
      intro node member
      by_cases preserved : node.isPreserved
      · rw [Function.comp_apply, Node.compact_of_isPreserved preserved]
      · have stillOpen : ¬ node.compact.isPreserved := by
          rwa [node.isPreserved_compact]
        rw [Function.comp_apply, Node.withoutTexts_eq, Node.withoutTexts_eq, if_neg stillOpen,
          if_neg preserved, Node.compact_eq, if_neg preserved]
        have twice :
            (node.mapLists compactChildren).mapLists (fun _ => dropTexts) =
              node.mapLists (fun inner nodes => dropTexts (compactChildren inner nodes)) := by
          cases node <;> rfl
        rw [twice]
        apply Node.mapLists_congr
        intro inner innerMember
        exact inductionHypothesis node (mem_solids.mp member).1 inner innerMember inner.1

/-- What is dropped from a gap, and what is collapsed in it, is blank. -/
theorem Gap.keepsText_compacted
    (container : Container)
    (gap : Gap) :
    KeepsText gap (gap.compacted container) := by
  cases noText : gap.texts.isEmpty with
  | true =>
      have empty : gap.texts = [] := List.isEmpty_iff.mp noText
      constructor <;> simp [Gap.compacted, Gap.keptTexts, Gap.text, empty]
  | false =>
      cases isDropped : gap.isDropped container with
      | true =>
          have blank : Text.allBlank gap.text.toList := by
            have collapsedBlank := (Bool.and_eq_true_iff.mp isDropped).1
            rwa [Text.isBlankText_collapseBlanks] at collapsedBlank
          constructor
          · rw [Text.trim_of_allBlank blank]
            simp [Gap.compacted, Gap.keptTexts, Gap.text, isDropped]
            rfl
          · simp [Gap.compacted, Gap.keptTexts, isDropped]
      | false =>
          have kept : (gap.compacted container).texts = [Text.collapseBlanks gap.text] := by
            simp [Gap.compacted, Gap.keptTexts, noText, isDropped]
          constructor
          · have joined : (gap.compacted container).text = Text.collapseBlanks gap.text := by
              simp [Gap.text, kept]
            rw [joined, Text.trim_collapseBlanks]
          · simp [kept]

theorem compactChildren_keepsContent
    (container : Container)
    (children : List Node) :
    KeepsContent children (compactChildren container children) where
  preserved := by
    intro index node preserved found
    rw [solids_compactChildren, List.getElem?_map, found, Option.map_some,
      Node.compact_of_isPreserved preserved]
  gaps := by
    rw [gaps_compactChildren, List.forall₂_map_right_iff, List.forall₂_same]
    exact fun gap _ => gap.keepsText_compacted container

/--
Compaction keeps a template apart from its texts, and at every place the preserved
elements and the texts of the gaps.
-/
theorem compact_keepsContent
    (template : List Node) :
    dropTexts (compact template) = dropTexts template ∧
      ∀ place,
        Option.Rel
          (fun before after => after.1 = before.1 ∧ KeepsContent before.2 after.2)
          (listAt? place .root template)
          (listAt? place .root (compact template)) := by
  refine ⟨dropTexts_compactChildren template .root, ?_⟩
  intro place
  have compacted : listAt? place .root (compact template) = _ :=
    listAt?_compactChildren place .root template
  rw [compacted]
  cases listAt? place .root template with
  | none => exact .none
  | some found => exact .some ⟨rfl, compactChildren_keepsContent found.1 found.2⟩

end Reactivity.Template
