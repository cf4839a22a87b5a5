import Mathlib.Data.List.Basic
import Reactivity.Proofs.Template.Address

namespace Reactivity.Template

/-!
# Order and pruning of a template walk

A visitor that only takes notice of what it comes to leaves the template as it is. It comes
to the lists and nodes in the order of their addresses, once to each. If it prunes elements
and blocks, then it comes to the same spots in the same order except for those below a
pruned node, and these stand together.
-/

/-- The node is an element or block that is pruned; no other node can be. -/
def Node.isPrunedBy
    (prunes : Node → Bool) :
    Node →
    Bool
  | .element name children => prunes (.element name children)
  | .block kind children => prunes (.block kind children)
  | _ => false

namespace Spot

/-- The spot is a node that is pruned. -/
def isPrunedBy
    (prunes : Node → Bool) :
    Spot →
    Bool
  | .list _ _ => false
  | .node visited => visited.isPrunedBy prunes

/-- The way to an address goes through a pruned node and on below it. -/
def hides
    (prunes : Node → Bool) :
    Spot →
    Address →
    Bool
  | _, [] => false
  | spot, index :: inner =>
      spot.isPrunedBy prunes || spot.parts[index]?.any (fun part => part.hides prunes inner)

/-- The spots that are not below a pruned node, in order. -/
def reached
    (prunes : Node → Bool)
    (spot : Spot) :
    List Spot :=
  (spot.addresses.filter (fun address => !spot.hides prunes address)).filterMap spot.at?

/-- What a recording walk records at a spot. -/
def event? :
    Spot →
    Option Event
  | .list container children => some (.entered container children.length)
  | .node (.text value) => some (.text value)
  | .node _ => none

variable
  {spot : Spot}
  {prunes : Node → Bool}

theorem isPrunedBy_iff :
    spot.isPrunedBy prunes ↔ ∃ node, spot = .node node ∧ node.isPrunedBy prunes := by
  cases spot <;> simp [isPrunedBy]

/-- What is hidden is below a pruned node. -/
theorem hides_iff
    {address : Address} :
    spot.hides prunes address ↔
      ∃ outer node, outer <+: address ∧ outer ≠ address ∧
        spot.at? outer = some (.node node) ∧ node.isPrunedBy prunes := by
  induction address generalizing spot with
  | nil =>
      refine ⟨fun isHidden => (Bool.false_ne_true isHidden).elim, ?_⟩
      rintro ⟨outer, _, begins, differs, _⟩
      exact (differs (List.prefix_nil.mp begins)).elim
  | cons index inner inductionHypothesis =>
      rw [hides, Bool.or_eq_true, Option.any_eq_true, isPrunedBy_iff]
      constructor
      · rintro (⟨node, rfl, isPruned⟩ | ⟨part, isPart, isHidden⟩)
        · exact ⟨[], node, List.nil_prefix, (List.cons_ne_nil _ _).symm, rfl, isPruned⟩
        · obtain ⟨outer, node, begins, differs, found, isPruned⟩ :=
            inductionHypothesis.mp isHidden
          refine ⟨index :: outer, node, List.cons_prefix_cons.mpr ⟨rfl, begins⟩, ?_, ?_, isPruned⟩
          · exact fun same => differs ((List.cons_inj_right index).mp same)
          · rw [at?, Address.at?, isPart, Option.bind_some]
            exact found
      · rintro ⟨outer, node, begins, differs, found, isPruned⟩
        rcases List.prefix_cons_iff.mp begins with rfl | ⟨rest, rfl, restBegins⟩
        · exact .inl ⟨node, Option.some.inj found, isPruned⟩
        · obtain ⟨part, isPart, found⟩ := Option.bind_eq_some_iff.mp found
          refine .inr ⟨part, isPart, inductionHypothesis.mpr ?_⟩
          exact ⟨rest, node, restBegins, fun same => differs (same ▸ rfl), found, isPruned⟩

/-- A spot is reached before those that are reached below it, if it is not pruned. -/
theorem reached_eq
    (prunes : Node → Bool)
    (spot : Spot) :
    spot.reached prunes =
      spot :: if spot.isPrunedBy prunes then [] else spot.parts.flatMap (reached prunes) := by
  have below
      {numbered : Spot × Nat}
      (member : numbered ∈ spot.parts.zipIdx) :
      ((numbered.1.addresses.map (numbered.2 :: ·)).filter (fun address =>
          !spot.hides prunes address)).filterMap spot.at? =
        if spot.isPrunedBy prunes then [] else numbered.1.reached prunes := by
    have isPart := List.mem_zipIdx_iff_getElem?.mp member
    rw [List.filter_map, List.filterMap_map]
    cases isPruned : spot.isPrunedBy prunes with
    | true => simp [Function.comp_def, hides, isPruned]
    | false => simp [Function.comp_def, hides, isPruned, isPart, reached, Address.at?]
  have collected :
      ((Address.among addresses spot.parts.zipIdx).filter (fun address =>
          !spot.hides prunes address)).filterMap spot.at? =
        spot.parts.flatMap (fun part =>
          if spot.isPrunedBy prunes then [] else part.reached prunes) := by
    conv_rhs => rw [← List.zipIdx_map_fst 0 spot.parts, List.flatMap_map]
    rw [Address.among, List.filter_flatMap, List.filterMap_flatMap]
    exact List.flatMap_congr (fun numbered member => below member)
  rw [reached, addresses_eq, List.filter_cons_of_pos (by simp [hides]), List.filterMap_cons_some
    (by rw [at?, Address.at?]), collected]
  cases spot.isPrunedBy prunes <;> simp

end Spot

/-- What a visitor that changes no template does to its state, and which nodes it prunes. -/
structure Notice (state : Type) where
  onList : Container → List Node → state → state
  onNode : Node → state → state
  onText : String → state → state
  prunes : Node → Bool

namespace Notice

variable {state : Type} (notice : Notice state)

/-- The visitor that takes notice and prunes. -/
def visitor :
    Visitor state where
  children := fun container children walk => do
    modify (notice.onList container children)
    walk
  node := fun node walk => do
    modify (notice.onNode node)
    walk
  text := fun value => do
    modify (notice.onText value)
    return value
  element := fun name children walk =>
    if notice.prunes (.element name children) then return (name, children) else walk
  block := fun kind children walk =>
    if notice.prunes (.block kind children) then return children else walk

/-- The call of the method for lists. -/
abbrev visitList
    (container : Container)
    (children : List Node) :
    StateM state (List Node) :=
  notice.visitor.children container children (notice.visitor.walkChildren children)

/-- The call of the method for nodes. -/
abbrev visitNode
    (node : Node) :
    StateM state Node :=
  notice.visitor.node node (notice.visitor.walkNode node)

/-- What happens to the state at a spot. -/
def effect
    (current : state) :
    Spot →
    state
  | .list container children => notice.onList container children current
  | .node (.text value) => notice.onText value (notice.onNode (.text value) current)
  | .node visited => notice.onNode visited current

/-- The state after the spots that are reached from a spot. -/
def after
    (current : state)
    (spot : Spot) :
    state :=
  (spot.reached notice.prunes).foldl notice.effect current

theorem after_eq
    (current : state)
    (spot : Spot) :
    notice.after current spot =
      if spot.isPrunedBy notice.prunes then notice.effect current spot
      else spot.parts.foldl notice.after (notice.effect current spot) := by
  rw [after, Spot.reached_eq]
  split
  · rfl
  · rw [List.foldl_cons, List.foldl_flatMap]
    rfl

theorem after_of_open
    (current : state)
    {spot : Spot}
    (isOpen : spot.isPrunedBy notice.prunes = false) :
    notice.after current spot = spot.parts.foldl notice.after (notice.effect current spot) := by
  rw [after_eq, if_neg (by simp [isOpen])]

variable {notice}

/-- An action goes on with the value and the state that the one before it leaves. -/
theorem run_bind_of_run
    {α β : Type}
    {first : StateM state α}
    {current later : state}
    {value : α}
    (isRun : first.run current = (value, later))
    (next : α → StateM state β) :
    (first >>= next).run current = (next value).run later := by
  rw [StateT.run_bind, isRun]
  rfl

/-- A node is walked list by list. -/
theorem visitNode_of_lists
    {node : Node}
    (lists :
      ∀ inner ∈ node.childLists, ∀ current,
        (notice.visitList inner.1 inner.2).run current =
          (inner.2, notice.after current (.list inner.1 inner.2)))
    (current : state) :
    (notice.visitNode node).run current = (node, notice.after current (.node node)) := by
  have entered :
      (notice.visitNode node).run current =
        (notice.visitor.walkNode node).run (notice.onNode node current) :=
    rfl
  rw [entered]
  cases node with
  | text value =>
      rw [after_of_open notice current rfl]
      rfl
  | element name children =>
      have walked := lists (.element name, children) (List.mem_singleton_self _)
      have descends (walk : StateM state (String × List Node)) :
          notice.visitor.element name children walk =
            if notice.prunes (.element name children) then return (name, children) else walk :=
        rfl
      have isPrunedBy :
          (Spot.node (.element name children)).isPrunedBy notice.prunes =
            notice.prunes (.element name children) :=
        rfl
      rw [after_eq, Visitor.walkNode, descends, isPrunedBy]
      split
      · rfl
      · rw [bind_assoc, run_bind_of_run (walked _)]
        rfl
  | block kind children =>
      have walked := lists (.block kind, children) (List.mem_singleton_self _)
      have descends (walk : StateM state (List Node)) :
          notice.visitor.block kind children walk =
            if notice.prunes (.block kind children) then return children else walk :=
        rfl
      have isPrunedBy :
          (Spot.node (.block kind children)).isPrunedBy notice.prunes =
            notice.prunes (.block kind children) :=
        rfl
      rw [after_eq, Visitor.walkNode, descends, isPrunedBy]
      split
      · rfl
      · rw [run_bind_of_run (walked _)]
        rfl
  | branch children otherwise =>
      have first := lists (.branch, children) (by simp [Node.childLists])
      have second := lists (.branch, otherwise) (by simp [Node.childLists])
      have descends (walk : StateM state (List Node × List Node)) :
          notice.visitor.branch children otherwise walk = walk :=
        rfl
      rw [after_of_open notice current rfl, Visitor.walkNode, descends, bind_assoc,
        run_bind_of_run (first _), bind_assoc, run_bind_of_run (second _)]
      rfl
  | awaiting main resolved rejected =>
      have first := lists (.awaiting, main) (by simp [Node.childLists])
      have second := lists (.awaiting, resolved) (by simp [Node.childLists])
      have third := lists (.awaiting, rejected) (by simp [Node.childLists])
      have descends (walk : StateM state (List Node × List Node × List Node)) :
          notice.visitor.awaiting main resolved rejected walk = walk :=
        rfl
      rw [after_of_open notice current rfl, Visitor.walkNode, descends, bind_assoc,
        run_bind_of_run (first _), bind_assoc, run_bind_of_run (second _), bind_assoc,
        run_bind_of_run (third _)]
      rfl

/-- A list is walked node by node. -/
theorem walkChildren_of_each
    {children : List Node}
    (each :
      ∀ child ∈ children, ∀ current,
        (notice.visitNode child).run current = (child, notice.after current (.node child)))
    (current : state) :
    (notice.visitor.walkChildren children).run current =
      (children, (children.map .node).foldl notice.after current) := by
  induction children generalizing current with
  | nil =>
      rfl
  | cons child rest inductionHypothesis =>
      have others := inductionHypothesis (fun other member =>
        each other (List.mem_cons_of_mem _ member))
      rw [Visitor.walkChildren, run_bind_of_run (each child List.mem_cons_self current),
        run_bind_of_run (others _)]
      rfl

variable (notice)

/-- A visitor that takes notice leaves a list as it is, and comes to what is reached from it. -/
theorem visitList_eq
    (container : Container)
    (children : List Node)
    (current : state) :
    (notice.visitList container children).run current =
      (children, notice.after current (.list container children)) := by
  induction children using inductionOnLists generalizing container current with
  | step children inductionHypothesis =>
      have each (child : Node) (member : child ∈ children) :=
        visitNode_of_lists (fun inner isInner =>
          inductionHypothesis child member inner isInner inner.1)
      rw [after_of_open notice current rfl]
      exact walkChildren_of_each each _

end Notice

/-- The spot where a walk of a template starts. -/
def Spot.ofTemplate
    (nodes : List Node) :
    Spot :=
  .list .root nodes

/-- If what is noticed is put in front of a list, then the list is in reverse order in the end. -/
theorem Notice.walkRoot_of_notes
    {Item : Type}
    {notice : Notice (List Item)}
    {item? : Spot → Option Item}
    (notes : ∀ items spot, notice.effect items spot = (item? spot).toList ++ items)
    (nodes : List Node) :
    (notice.visitor.walkRoot nodes).run [] =
      (nodes, (((Spot.ofTemplate nodes).reached notice.prunes).filterMap item?).reverse) := by
  have noted (spots : List Spot) (items : List Item) :
      spots.foldl notice.effect items = (spots.filterMap item?).reverse ++ items := by
    induction spots generalizing items with
    | nil => rfl
    | cons spot rest inductionHypothesis =>
        rw [List.foldl_cons, inductionHypothesis, notes]
        cases isNoted : item? spot <;> simp [isNoted]
  rw [Visitor.walkRoot, visitList_eq, after, noted, List.append_nil, Spot.ofTemplate]

/-- The visitor that notes every list and node. -/
def Notice.ofNoting :
    Notice (List Spot) where
  onList := fun container children spots => .list container children :: spots
  onNode := fun node spots => .node node :: spots
  onText := fun _ spots => spots
  prunes := fun _ => false

/-- The visitor that records lists and texts. -/
def Notice.ofRecording
    (prunes : Node → Bool) :
    Notice (List Event) where
  onList := fun container children events => .entered container children.length :: events
  onNode := fun _ events => events
  onText := fun value events => .text value :: events
  prunes := prunes

/-- A noting walk comes to what is reached. -/
theorem note_eq
    (nodes : List Node) :
    note nodes = (nodes, (Spot.ofTemplate nodes).reached (fun _ => false)) := by
  have isNotice : Visitor.noting = Notice.ofNoting.visitor := rfl
  have notes (spots : List Spot) (spot : Spot) :
      Notice.ofNoting.effect spots spot = (some spot).toList ++ spots := by
    rcases spot with _ | (_ | _) <;> rfl
  rw [note, isNotice, Notice.walkRoot_of_notes notes, List.filterMap_some]
  dsimp only
  rw [List.reverse_reverse]
  rfl

/-- A recording walk records the events of what is reached. -/
theorem record_eq
    (prunes : Node → Bool)
    (nodes : List Node) :
    record prunes nodes =
      (nodes, ((Spot.ofTemplate nodes).reached prunes).filterMap Spot.event?) := by
  have isNotice : Visitor.recording prunes = (Notice.ofRecording prunes).visitor := rfl
  have notes (events : List Event) (spot : Spot) :
      (Notice.ofRecording prunes).effect events spot = spot.event?.toList ++ events := by
    rcases spot with _ | (_ | _) <;> rfl
  rw [record, isNotice, Notice.walkRoot_of_notes notes]
  dsimp only
  rw [List.reverse_reverse]
  rfl

/-- The event that belongs to an address in a template. -/
def eventAt?
    (nodes : List Node)
    (address : Address) :
    Option Event :=
  ((Spot.ofTemplate nodes).at? address).bind Spot.event?

/-- Without pruning no address is hidden. -/
theorem Spot.hides_of_none
    (spot : Spot)
    (address : Address) :
    spot.hides (fun _ => false) address = false := by
  rw [Bool.eq_false_iff, ne_eq, hides_iff]
  rintro ⟨_, node, _, _, _, isPruned⟩
  cases node <;> cases isPruned

/-- A recording walk records the events of the addresses that are not hidden. -/
theorem record_eq_filterMap
    (prunes : Node → Bool)
    (nodes : List Node) :
    record prunes nodes =
      (nodes, ((Spot.ofTemplate nodes).addresses.filter (fun address =>
        !(Spot.ofTemplate nodes).hides prunes address)).filterMap (eventAt? nodes)) := by
  rw [record_eq, Spot.reached, List.filterMap_filterMap]
  rfl

/--
A walk with the methods that are not given comes to every children list, with the container of
its owner, and to every node, once to each and in the order of their addresses.

A walk that records lists and texts and prunes elements and blocks records the events of the
same addresses in the same order, except for those below a pruned node. The addresses that go
through one node stand together. Both walks leave the template as it is.
-/
theorem walk_visits_addresses
    (prunes : Node → Bool)
    (nodes : List Node) :
    (Spot.ofTemplate nodes).addresses.Pairwise (· < ·) ∧
      (∀ address,
        address ∈ (Spot.ofTemplate nodes).addresses ↔
          ((Spot.ofTemplate nodes).at? address).isSome) ∧
      note nodes =
        (nodes, (Spot.ofTemplate nodes).addresses.filterMap (Spot.ofTemplate nodes).at?) ∧
      record (fun _ => false) nodes =
        (nodes, (Spot.ofTemplate nodes).addresses.filterMap (eventAt? nodes)) ∧
      (∀ outer spot, (Spot.ofTemplate nodes).at? outer = some spot →
        ∃ before behind,
          (Spot.ofTemplate nodes).addresses =
              before ++ spot.addresses.map (outer ++ ·) ++ behind ∧
            ∀ address ∈ before ++ behind, ¬ outer <+: address) ∧
      ∃ kept : List Address,
        kept.Sublist (Spot.ofTemplate nodes).addresses ∧
          (∀ address ∈ (Spot.ofTemplate nodes).addresses,
            address ∈ kept ↔
              ¬ ∃ outer node, outer <+: address ∧ outer ≠ address ∧
                (Spot.ofTemplate nodes).at? outer = some (.node node) ∧ node.isPrunedBy prunes) ∧
          record prunes nodes = (nodes, kept.filterMap (eventAt? nodes)) := by
  have everything :
      (Spot.ofTemplate nodes).addresses.filter (fun address =>
          !(Spot.ofTemplate nodes).hides (fun _ => false) address) =
        (Spot.ofTemplate nodes).addresses := by
    simp [Spot.hides_of_none]
  refine ⟨Spot.anatomy.pairwise_addresses _, fun address => Spot.anatomy.mem_addresses_iff, ?_, ?_,
    fun outer spot found => Spot.anatomy.exists_segment found, _, List.filter_sublist, ?_,
    record_eq_filterMap prunes nodes⟩
  · rw [note_eq, Spot.reached, everything]
  · rw [record_eq_filterMap, everything]
  · intro address member
    rw [List.mem_filter, and_iff_right member, Bool.not_eq_true', Bool.eq_false_iff, ne_eq,
      Spot.hides_iff]

end Reactivity.Template
