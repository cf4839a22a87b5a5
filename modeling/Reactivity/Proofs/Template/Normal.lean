import Reactivity.Proofs.Template.Place

namespace Reactivity.Template

/-!
# Normal templates

A template is normal when compaction would find nothing to do: texts stand apart, their
margins are collapsed, and no blank text could be dropped. Compaction makes every
template normal, and leaves exactly the normal ones as they are.
-/

/-- A text of a list can stay as it is between its neighbours. -/
structure IsNormalText
    (container : Container)
    (previous : Option Node)
    (value : String)
    (next : Option Node) :
    Prop where
  /-- The text is not followed by another text. -/
  separate : ∀ other, next ≠ some (.text other)
  collapsed : Text.collapseBlanks value = value
  /-- The text is not blank, or cannot be dropped. -/
  significant : Text.isBlankText value → container.drops previous next = false

/-- Every text of a list can stay as it is. -/
def IsNormalList
    (container : Container)
    (children : List Node) :
    Prop :=
  ∀ earlier value later,
    children = earlier ++ .text value :: later →
      IsNormalText container earlier.getLast? value later.head?

/-- At every place of the template stands a normal list. -/
def IsNormal
    (template : List Node) :
    Prop :=
  ∀ place container children,
    listAt? place .root template = some (container, children) → IsNormalList container children

/-- The texts of a gap stand in the list between the nodes around the gap. -/
theorem IsCut.exists_split
    {before : Option Node}
    {children : List Node}
    {cut : List Gap}
    (isCut : IsCut before children cut)
    {gap : Gap}
    (member : gap ∈ cut) :
    ∃ earlier later,
      children = earlier ++ (gap.texts.map .text ++ later) ∧
        earlier.getLast?.or before = gap.before ∧ later.head? = gap.after := by
  induction isCut with
  | last before texts =>
      rw [List.mem_singleton] at member
      subst member
      exact ⟨[], [], by simp, rfl, rfl⟩
  | @next before texts node rest cut solid _ inductionHypothesis =>
      rcases List.mem_cons.mp member with isFirst | isLater
      · subst isFirst
        exact ⟨[], node :: rest, rfl, rfl, rfl⟩
      · obtain ⟨earlier, later, split, isBefore, isAfter⟩ := inductionHypothesis isLater
        refine ⟨texts.map .text ++ node :: earlier, later, by simp [split], ?_, isAfter⟩
        rw [← isBefore]
        simp [List.getLast?_cons]

/-- Every text of a list stands in one of its gaps. -/
theorem IsCut.exists_gap
    {before : Option Node}
    {children earlier later : List Node}
    {value : String}
    {cut : List Gap}
    (isCut : IsCut before children cut)
    (split : children = earlier ++ .text value :: later) :
    ∃ gap ∈ cut, ∃ front back,
      gap.texts = front ++ value :: back ∧
        (front = [] → earlier.getLast?.or before = gap.before) ∧
          (back = [] → later.head? = gap.after) := by
  induction isCut generalizing earlier with
  | last before texts =>
      obtain ⟨front, others, rfl, rfl, shape⟩ := List.map_eq_append_iff.mp split
      obtain ⟨first, back, rfl, isText, rfl⟩ := List.map_eq_cons_iff.mp shape
      cases isText
      refine ⟨_, List.mem_singleton_self _, front, back, rfl, ?_, ?_⟩
      · rintro rfl
        rfl
      · rintro rfl
        rfl
  | @next before texts node rest cut solid _ inductionHypothesis =>
      have notNode : node ≠ .text value := by
        rintro rfl
        cases solid
      rcases List.append_eq_append_iff.mp split with
        ⟨between, rfl, shape⟩ | ⟨between, listed, shape⟩
      · -- The text stands behind the node that ends the first gap.
        cases between with
        | nil =>
            exact (notNode (List.cons_eq_cons.mp shape).1).elim
        | cons first others =>
            obtain ⟨rfl, restSplit⟩ := List.cons_eq_cons.mp shape
            obtain ⟨gap, member, front, back, inGap, isBefore, isAfter⟩ :=
              inductionHypothesis restSplit
            refine ⟨gap, List.mem_cons_of_mem _ member, front, back, inGap, ?_, isAfter⟩
            intro noFront
            rw [← isBefore noFront]
            simp [List.getLast?_cons]
      · cases between with
        | nil =>
            exact (notNode (List.cons_eq_cons.mp shape).1.symm).elim
        | cons first others =>
            obtain ⟨isFirst, rfl⟩ := List.cons_eq_cons.mp shape
            subst isFirst
            obtain ⟨front, inner, rfl, rfl, innerShape⟩ := List.map_eq_append_iff.mp listed
            obtain ⟨same, back, rfl, isText, rfl⟩ := List.map_eq_cons_iff.mp innerShape
            cases isText
            refine ⟨_, List.mem_cons_self .., front, back, rfl, ?_, ?_⟩
            · rintro rfl
              rfl
            · rintro rfl
              rfl

theorem mem_solids_of_after
    {children : List Node}
    {gap : Gap}
    (member : gap ∈ gaps children)
    {node : Node}
    (isAfter : gap.after = some node) :
    node ∈ solids children := by
  rw [(isCut_gaps children).solids_eq]
  exact List.mem_flatMap_of_mem member (by simp [isAfter])

/-- A gap keeps its texts when it has none, or just one that can stay as it is. -/
theorem Gap.keptTexts_eq_self_iff
    {container : Container}
    {gap : Gap} :
    gap.keptTexts container = gap.texts ↔
      gap.texts = [] ∨
        ∃ value,
          gap.texts = [value] ∧ Text.collapseBlanks value = value ∧
            (Text.isBlankText value → container.drops gap.before gap.after = false) := by
  constructor
  · intro kept
    unfold Gap.keptTexts at kept
    split at kept
    · exact .inl kept.symm
    · next stays =>
        have collapsed : Text.collapseBlanks gap.text = gap.text := by
          conv_rhs => rw [Gap.text, ← kept]
          simp
        refine .inr ⟨gap.text, by rw [← kept, collapsed], collapsed, ?_⟩
        intro blank
        have notDropped : gap.isDropped container = false := by
          simp only [Bool.or_eq_true, not_or] at stays
          exact eq_false_of_ne_true stays.2
        simpa [Gap.isDropped, collapsed, blank] using notDropped
  · rintro (noText | ⟨value, single, collapsed, significant⟩)
    · simp [Gap.keptTexts, noText]
    · have joined : gap.text = value := by
        simp [Gap.text, single]
      have stays : gap.isDropped container = false := by
        unfold Gap.isDropped
        rw [joined, collapsed]
        cases blank : Text.isBlankText value with
        | true => exact significant blank
        | false => rfl
      simp [Gap.keptTexts, single, stays, joined, collapsed]

/-- A list is normal when all of its gaps keep their texts. -/
theorem isNormalList_iff
    {container : Container}
    {children : List Node} :
    IsNormalList container children ↔
      ∀ gap ∈ gaps children, gap.keptTexts container = gap.texts := by
  constructor
  · intro normal gap member
    obtain ⟨earlier, later, split, isBefore, isAfter⟩ :=
      (isCut_gaps children).exists_split member
    rw [Option.or_none] at isBefore
    rw [Gap.keptTexts_eq_self_iff]
    cases texts : gap.texts with
    | nil =>
        exact .inl rfl
    | cons value others =>
        rw [texts] at split
        have stays := normal earlier value _ split
        cases others with
        | nil =>
            refine .inr ⟨value, rfl, stays.collapsed, ?_⟩
            intro blank
            rw [← isBefore, ← isAfter]
            exact stays.significant blank
        | cons second more =>
            exact (stays.separate second rfl).elim
  · intro kept earlier value later split
    obtain ⟨gap, member, front, back, texts, isBefore, isAfter⟩ :=
      (isCut_gaps children).exists_gap split
    rcases Gap.keptTexts_eq_self_iff.mp (kept gap member) with
      noText | ⟨only, single, collapsed, significant⟩
    · simp [noText] at texts
    · -- The text is the only one of its gap, so its neighbours are the nodes around the gap.
      rw [single] at texts
      obtain ⟨rfl, rfl, rfl⟩ : front = [] ∧ only = value ∧ back = [] := by
        cases front <;> simp_all
      have previous := isBefore rfl
      rw [Option.or_none] at previous
      rw [previous, isAfter rfl]
      refine ⟨?_, collapsed, significant⟩
      intro other isAfterText
      cases (mem_solids.mp (mem_solids_of_after member isAfterText)).2

/-- What is left of a gap after compaction is kept by another compaction. -/
theorem Gap.keptTexts_compacted
    (container : Container)
    (gap : Gap) :
    (gap.compacted container).keptTexts container = (gap.compacted container).texts := by
  rw [Gap.keptTexts_eq_self_iff]
  cases noText : gap.texts.isEmpty with
  | true =>
      exact .inl (by simp [Gap.compacted, Gap.keptTexts, noText])
  | false =>
      cases isDropped : gap.isDropped container with
      | true =>
          exact .inl (by simp [Gap.compacted, Gap.keptTexts, isDropped])
      | false =>
          refine .inr ⟨Text.collapseBlanks gap.text,
            by simp [Gap.compacted, Gap.keptTexts, noText, isDropped],
            Text.collapseBlanks_collapseBlanks gap.text, ?_⟩
          intro blank
          have undroppable : container.drops gap.before gap.after = false := by
            simpa [Gap.isDropped, blank] using isDropped
          exact (Container.drops_compact container gap.before gap.after).trans undroppable

theorem compactChildren_isNormalList
    (container : Container)
    (children : List Node) :
    IsNormalList container (compactChildren container children) := by
  rw [isNormalList_iff, gaps_compactChildren]
  intro gap member
  obtain ⟨origin, _, rfl⟩ := List.mem_map.mp member
  exact origin.keptTexts_compacted container

theorem compact_isNormal
    (template : List Node) :
    IsNormal (compact template) := by
  intro place container children found
  have compacted := listAt?_compactChildren place .root template
  rw [show compactChildren .root template = compact template from rfl, found] at compacted
  obtain ⟨origin, _, same⟩ := Option.map_eq_some_iff.mp compacted.symm
  cases same
  exact compactChildren_isNormalList origin.1 origin.2

/-- A list is left as it is when it is normal and its nodes are left as they are. -/
theorem compactChildren_eq_self
    {container : Container}
    {children : List Node}
    (normal : IsNormalList container children)
    (fixed : ∀ node ∈ solids children, node.compact = node) :
    compactChildren container children = children := by
  have sameNodes : ∀ gap ∈ gaps children, (gap.compacted container).nodes = gap.nodes := by
    intro gap member
    have sameTexts := isNormalList_iff.mp normal gap member
    have sameAfter : gap.after.map Node.compact = gap.after := by
      cases isAfter : gap.after with
      | none => rfl
      | some node =>
          rw [Option.map_some, fixed node (mem_solids_of_after member isAfter)]
    simp only [Gap.nodes, Gap.compacted, sameTexts, sameAfter]
  calc
    compactChildren container children =
        (gaps children).flatMap (fun gap => (gap.compacted container).nodes) :=
      compactChildren_eq container children
    _ = (gaps children).flatMap Gap.nodes :=
      List.flatMap_congr sameNodes
    _ = children :=
      (isCut_gaps children).flatMap_nodes

/-- A list is left as it is when all lists at places below it are normal. -/
theorem compactChildren_eq_self_of_normal
    (children : List Node) :
    ∀ container,
      (∀ place inner nodes,
        listAt? place container children = some (inner, nodes) → IsNormalList inner nodes) →
        compactChildren container children = children := by
  induction children using inductionOnLists with
  | step children inductionHypothesis =>
      intro container normal
      apply compactChildren_eq_self (normal [] container children rfl)
      intro node member
      by_cases preserved : node.isPreserved
      · exact Node.compact_of_isPreserved preserved
      · rw [Node.compact_eq, if_neg preserved]
        conv_rhs => rw [← node.mapLists_same]
        apply Node.mapLists_congr
        intro inner innerMember
        apply inductionHypothesis node (mem_solids.mp member).1 inner innerMember
        -- One more step leads from the list to what is below the inner list.
        obtain ⟨nodeIndex, nodeFound⟩ := List.getElem?_of_mem member
        obtain ⟨listIndex, listFound⟩ := List.getElem?_of_mem innerMember
        intro place other nodes found
        apply normal (⟨nodeIndex, listIndex⟩ :: place) other nodes
        simpa [listAt?, nodeFound, listFound, preserved] using found

/--
Compaction makes a template normal, leaves exactly the normal templates as they are, and
so does nothing when it is repeated.
-/
theorem compact_normal
    (template : List Node) :
    IsNormal (compact template) ∧
      (compact template = template ↔ IsNormal template) ∧
        compact (compact template) = compact template := by
  have fixed (template : List Node) (normal : IsNormal template) : compact template = template :=
    compactChildren_eq_self_of_normal template .root normal
  refine ⟨compact_isNormal template, ⟨?_, fixed template⟩, fixed _ (compact_isNormal template)⟩
  intro same
  rw [← same]
  exact compact_isNormal template

end Reactivity.Template
