import Mathlib.Data.List.Basic
import Reactivity.Proofs.Script.Place
import Reactivity.Proofs.Script.Stack
import Reactivity.Script.Visit

namespace Reactivity.Script

/-!
# Order and chains of a walk

A rule that only takes notes leaves every tree as it is. It is asked at the functions,
arrow functions and awaits in the order of their places, once at each, and the chain it is
shown is made of the labels of the nodes around the place. What it skips are the places
inside of the places where it is asked and does not go on.
-/

/-- The labels of a node in the chains of what is inside of it. -/
def Node.labels
    (node : Node) :
    List Ancestor :=
  Ancestor.labels node.form node.role node.children

/-- The rule takes a note of each question, and does not go on at the kinds that are skipped. -/
def Rule.noting
    {Item : Type}
    (note : StopKind → List Ancestor → Node → Item)
    (skipped : List StopKind) :
    Rule (List Item) where
  enter := fun ancestors node items =>
    match StopKind.ofForm? node.form with
    | none => (.descend id, items)
    | some kind =>
        let flow := if skipped.contains kind then Flow.skip node else Flow.descend id
        (flow, note kind ancestors node :: items)

theorem Rule.noting_enter
    {Item : Type}
    {node : Node}
    {kind : StopKind}
    (stop : StopKind.ofForm? node.form = some kind)
    (note : StopKind → List Ancestor → Node → Item)
    (skipped : List StopKind)
    (ancestors : List Ancestor)
    (items : List Item) :
    (Rule.noting note skipped).enter ancestors node items =
      (if kind ∈ skipped then .skip node else .descend id, note kind ancestors node :: items) := by
  simp [Rule.noting, stop]

/-- Where nothing is waiting, nothing is inserted. -/
theorem Rule.collect_of_idle
    {state : Type}
    (form : Form)
    (own : state) :
    Rule.collect form { own } = ([], { own }) := by
  unfold Rule.collect
  split <;> rfl

/-- Visits are notes of the kind of a node and its chain. -/
theorem Visit.rule_eq_noting
    (skipped : List StopKind) :
    Visit.rule skipped = .noting (fun kind ancestors _ => { kind, ancestors }) skipped :=
  rfl

/-- A rule that takes notes does not go on at this node. -/
def Node.isSkipped
    (skipped : List StopKind)
    (node : Node) :
    Bool :=
  (StopKind.ofForm? node.form).any skipped.contains

namespace Place

/-- The kind of the stop at a place, if there is one. -/
def kind?
    (nodes : List Node)
    (place : Place) :
    Option StopKind :=
  (node? nodes place).bind (fun node => StopKind.ofForm? node.form)

/-- The chain of a place: the labels of the nodes around it, the innermost first. -/
def chain
    (nodes : List Node)
    (place : Place) :
    List Ancestor :=
  (around nodes place).flatMap Node.labels

section Notes

variable
  {Item : Type}
  {nodes : List Node}
  (note : StopKind → List Ancestor → Node → Item)
  (skipped : List StopKind)

/-- The note that belongs to a place. -/
def note?
    (nodes : List Node)
    (place : Place) :
    Option Item :=
  (node? nodes place).bind (fun node =>
    (StopKind.ofForm? node.form).map (fun kind => note kind (chain nodes place) node))

/-- The note that is taken at the end of a path, unless a node on the way is skipped. -/
def noteOn?
    (ancestors : List Ancestor) :
    List Node →
    Option Item
  | [] => none
  | [node] => (StopKind.ofForm? node.form).map (fun kind => note kind ancestors node)
  | node :: path =>
      if node.isSkipped skipped then none else noteOn? (node.labels ++ ancestors) path

/-- The notes that are taken among some trees. -/
def notes
    (ancestors : List Ancestor)
    (nodes : List Node) :
    List Item :=
  (among nodes).filterMap (fun place =>
    (path? nodes place).bind (noteOn? note skipped ancestors))

variable
  {note skipped}
  {ancestors : List Ancestor}

/-- Behind a node on the way, notes are taken if the node is not skipped. -/
theorem noteOn?_cons
    (node : Node)
    {path : List Node}
    (occupied : path ≠ []) :
    noteOn? note skipped ancestors (node :: path) =
      if node.isSkipped skipped then none
      else noteOn? note skipped (node.labels ++ ancestors) path := by
  cases path with
  | nil => exact (occupied rfl).elim
  | cons next rest => rfl

/-- The note at a node comes before those that are taken inside of it. -/
theorem notes_cons
    (node : Node)
    (nodes : List Node) :
    notes note skipped ancestors (node :: nodes) =
      (noteOn? note skipped ancestors [node]).toList ++
        (if node.isSkipped skipped then []
          else notes note skipped (node.labels ++ ancestors) node.children) ++
        notes note skipped ancestors nodes := by
  have onWay (inner : Place)
      (member : inner ∈ among node.children) :
      ((path? node.children inner).map (node :: ·)).bind (noteOn? note skipped ancestors) =
        if node.isSkipped skipped then none
        else (path? node.children inner).bind
          (noteOn? note skipped (node.labels ++ ancestors)) := by
    obtain ⟨path, isPath⟩ := Option.isSome_iff_exists.mp (mem_among_iff.mp member).2
    have occupied : path ≠ [] := by
      have isLong := List.length_pos_iff.mpr (mem_among_iff.mp member).1
      rw [← length_path? isPath] at isLong
      exact List.length_pos_iff.mp isLong
    rw [isPath, Option.map_some, Option.bind_some, noteOn?_cons node occupied, Option.bind_some]
  have inside :
      ((among node.children).map (0 :: ·)).filterMap (fun place =>
          (path? (node :: nodes) place).bind (noteOn? note skipped ancestors)) =
        if node.isSkipped skipped then []
        else notes note skipped (node.labels ++ ancestors) node.children := by
    rw [List.filterMap_map]
    dsimp only [Function.comp_def]
    simp only [path?_zero]
    rw [List.filterMap_congr onWay]
    split
    · exact List.filterMap_none _
    · rfl
  have behind :
      ((among nodes).map later).filterMap (fun place =>
          (path? (node :: nodes) place).bind (noteOn? note skipped ancestors)) =
        notes note skipped ancestors nodes := by
    rw [List.filterMap_map]
    refine List.filterMap_congr (fun place member => ?_)
    rw [Function.comp_apply, path?_later node nodes (mem_among_iff.mp member).1]
  have here :
      [[0]].filterMap (fun place =>
          (path? (node :: nodes) place).bind (noteOn? note skipped ancestors)) =
        (noteOn? note skipped ancestors [node]).toList := by
    have atNode :
        (path? (node :: nodes) [0]).bind (noteOn? note skipped ancestors) =
          noteOn? note skipped ancestors [node] := by
      simp [path?_cons]
    rw [List.filterMap_cons, atNode]
    cases noteOn? note skipped ancestors [node] <;> rfl
  have places :
      among (node :: nodes) =
        [[0]] ++ (among node.children).map (0 :: ·) ++ (among nodes).map later := by
    rw [among, inside_eq]
    rfl
  rw [notes, places, List.filterMap_append, List.filterMap_append, here, inside, behind]

/-- The note that a path leaves, in terms of the nodes around its end. -/
theorem noteOn?_eq
    (path : List Node) :
    noteOn? note skipped ancestors path =
      if path.dropLast.any (Node.isSkipped skipped) then none
      else path.getLast?.bind (fun node =>
        (StopKind.ofForm? node.form).map (fun kind =>
          note kind (path.dropLast.reverse.flatMap Node.labels ++ ancestors) node)) := by
  induction path generalizing ancestors with
  | nil =>
      rfl
  | cons node rest inductionHypothesis =>
      cases rest with
      | nil =>
          simp [noteOn?]
      | cons next others =>
          rw [noteOn?_cons node (List.cons_ne_nil _ _), inductionHypothesis]
          by_cases isSkipped : node.isSkipped skipped = true
          · simp [isSkipped]
          · simp [isSkipped, List.flatMap_append]

theorem notes_nil :
    notes note skipped ancestors [] = [] := by
  simp [notes, among]

/-- Notes are taken tree by tree. -/
theorem notes_append_singleton
    (node : Node)
    (nodes : List Node) :
    notes note skipped ancestors (node :: nodes) =
      notes note skipped ancestors [node] ++ notes note skipped ancestors nodes := by
  rw [notes_cons, notes_cons node [], notes_nil, List.append_nil]

/-- A walk that takes notes of each tree in turn takes notes of all of them. -/
theorem walkNodes_of_each
    {nodes : List Node}
    (each :
      ∀ node ∈ nodes, ∀ items,
        (Rule.noting note skipped).walkNode ancestors node { own := items } =
          (node, { own := (notes note skipped ancestors [node]).reverse ++ items }))
    (form : Form)
    (items : List Item) :
    (Rule.noting note skipped).walkNodes form ancestors nodes { own := items } =
      (nodes, { own := (notes note skipped ancestors nodes).reverse ++ items }) := by
  induction nodes generalizing items with
  | nil =>
      rw [notes_nil]
      rfl
  | cons node rest inductionHypothesis =>
      have others := inductionHypothesis (fun other member =>
        each other (List.mem_cons_of_mem _ member))
      rw [Rule.walkNodes_cons, each node List.mem_cons_self]
      dsimp only
      rw [Rule.collect_of_idle, others, notes_append_singleton node rest, List.reverse_append,
        List.append_assoc]
      rfl

variable (note skipped)

/-- A walk that takes notes of a tree leaves it as it is. -/
theorem walkNode_noting
    (node : Node)
    (ancestors : List Ancestor)
    (items : List Item) :
    (Rule.noting note skipped).walkNode ancestors node { own := items } =
      (node, { own := (notes note skipped ancestors [node]).reverse ++ items }) := by
  induction node using Node.inductionOnChildren generalizing ancestors items with
  | step form role span children inductionHypothesis =>
      have below (ancestors : List Ancestor) (items : List Item) :=
        walkNodes_of_each (fun child member items =>
          inductionHypothesis child member ancestors items) form items
      rw [notes_cons, notes_nil, List.append_nil]
      cases stop : StopKind.ofForm? form with
      | none =>
          rw [Rule.walkNode_of_noStop _ stop]
          simp [below, noteOn?, Node.isSkipped, Node.labels, stop]
      | some kind =>
          have asked := @Rule.noting_enter Item (.mk form role span children) kind stop note skipped
            ancestors items
          by_cases isSkipped : kind ∈ skipped
          · simp [Rule.walkNode, asked, stop, isSkipped, noteOn?, Node.isSkipped]
          · simp [Rule.walkNode, asked, stop, isSkipped, noteOn?, Node.isSkipped, Node.labels,
              below]

/-- A walk that takes notes of some trees leaves them as they are. -/
theorem walk_noting
    (nodes : List Node) :
    (Rule.noting note skipped).walk nodes [] =
      (nodes, (notes note skipped [] nodes).reverse) := by
  have each (node : Node) (_ : node ∈ nodes) := walkNode_noting note skipped node []
  rw [Rule.walk, walkNodes_of_each each, List.append_nil]

/-- The places of the functions, arrow functions and awaits of some trees, in order. -/
def stops
    (nodes : List Node) :
    List Place :=
  (among nodes).filter (fun place => (kind? nodes place).isSome)

/-- The stops that are not inside of a skipped node. -/
def reached
    (nodes : List Node) :
    List Place :=
  (stops nodes).filter (fun place => !(around nodes place).any (Node.isSkipped skipped))

/-- Notes are taken at the places that are reached. -/
theorem notes_eq
    (nodes : List Node) :
    notes note skipped [] nodes = (reached skipped nodes).filterMap (note? note nodes) := by
  rw [reached, stops, List.filter_filter, List.filterMap_filter, notes]
  refine List.filterMap_congr (fun place member => ?_)
  obtain ⟨path, isPath⟩ := Option.isSome_iff_exists.mp (mem_among_iff.mp member).2
  have isAround : around nodes place = path.dropLast.reverse := by
    rw [around, isPath, Option.getD_some]
  have isNode : node? nodes place = path.getLast? := by
    rw [node?, isPath, Option.bind_some]
  rw [isPath, Option.bind_some, noteOn?_eq, kind?, note?, chain, isAround, isNode,
    List.any_reverse, List.append_nil]
  cases path.dropLast.any (Node.isSkipped skipped) with
  | true =>
      simp
  | false =>
      cases path.getLast? with
      | none => rfl
      | some node => cases stop : StopKind.ofForm? node.form <;> simp [stop]

/-- If nothing is skipped, all stops are reached. -/
theorem reached_nil
    (nodes : List Node) :
    reached [] nodes = stops nodes := by
  refine List.filter_eq_self.mpr (fun place _ => ?_)
  rw [Bool.not_eq_true', List.any_eq_false]
  intro node _
  rw [Node.isSkipped, Option.any_eq_true]
  rintro ⟨kind, _, isSkipped⟩
  cases isSkipped

/-- The stops stand in the order of their places, so each of them stands there once. -/
theorem pairwise_stops
    (nodes : List Node) :
    (stops nodes).Pairwise (· < ·) :=
  (pairwise_among nodes).filter _

/-- A node does not let a walk go on if its kind is skipped. -/
theorem isSkipped_iff
    {node : Node}
    {place : Place}
    (isNode : node? nodes place = some node) :
    node.isSkipped skipped ↔ ∃ kind ∈ skipped, kind? nodes place = some kind := by
  rw [kind?, isNode, Option.bind_some, Node.isSkipped, Option.any_eq_true]
  simp only [List.contains_iff_mem, and_comm]

/-- A place with a kind is a stop. -/
theorem mem_stops_iff
    {place : Place} :
    place ∈ stops nodes ↔ (kind? nodes place).isSome := by
  rw [stops, List.mem_filter, and_iff_right_iff_imp]
  intro isStop
  obtain ⟨kind, isKind⟩ := Option.isSome_iff_exists.mp isStop
  obtain ⟨node, isNode, _⟩ := Option.bind_eq_some_iff.mp isKind
  exact mem_among_of_node? isNode

/-- A stop is reached if no node around it is skipped. -/
theorem mem_reached
    {place : Place} :
    place ∈ reached skipped nodes ↔
      place ∈ stops nodes ∧ ∀ node ∈ around nodes place, ¬ node.isSkipped skipped := by
  rw [reached, List.mem_filter, Bool.not_eq_true', List.any_eq_false]

/--
The stops that are not reached are those inside of others that are reached and skipped.

Of the skipped nodes around a stop, the outermost one is reached.
-/
theorem mem_reached_iff
    {place : Place}
    (isStop : place ∈ stops nodes) :
    place ∈ reached skipped nodes ↔
      ¬ ∃ outer ∈ reached skipped nodes,
        outer <+: place ∧ outer ≠ place ∧ ∃ kind ∈ skipped, kind? nodes outer = some kind := by
  have isThere {place : Place} (isStop : place ∈ stops nodes) : (path? nodes place).isSome :=
    (mem_among_iff.mp (List.mem_filter.mp isStop).1).2
  rw [mem_reached, and_iff_right isStop]
  constructor
  · rintro uncovered ⟨outer, _, begins, differs, kind, member, isKind⟩
    obtain ⟨node, isNode, _⟩ := Option.bind_eq_some_iff.mp isKind
    refine uncovered node
      ((mem_around_iff (isThere isStop)).mpr ⟨outer, begins, differs, isNode⟩) ?_
    exact (isSkipped_iff skipped isNode).mpr ⟨kind, member, isKind⟩
  · intro noneReached node isAround isSkipped
    obtain ⟨outer, begins, differs, isNode⟩ := (mem_around_iff (isThere isStop)).mp isAround
    -- Going outwards from a skipped node ends at one that is reached.
    induction length : outer.length using Nat.strongRecOn generalizing outer node with
    | ind count inductionHypothesis =>
        obtain ⟨kind, member, isKind⟩ := (isSkipped_iff skipped isNode).mp isSkipped
        have outerStop : outer ∈ stops nodes := mem_stops_iff.mpr (by rw [isKind]; rfl)
        refine noneReached ⟨outer, (mem_reached skipped).mpr ⟨outerStop, ?_⟩, begins, differs, kind,
          member, isKind⟩
        intro further isAround isSkipped
        obtain ⟨outermost, beginsOuter, differsOuter, isFurther⟩ :=
          (mem_around_iff (isThere outerStop)).mp isAround
        have isShorter : outermost.length < outer.length :=
          Nat.lt_of_le_of_ne beginsOuter.length_le
            (fun same => differsOuter (beginsOuter.eq_of_length same))
        have differsPlace : outermost ≠ place := by
          rintro rfl
          exact Nat.not_lt.mpr begins.length_le isShorter
        refine inductionHypothesis outermost.length (length ▸ isShorter) further ?_ isSkipped
          outermost (beginsOuter.trans begins) differsPlace isFurther rfl
        exact (mem_around_iff (isThere isStop)).mpr
          ⟨outermost, beginsOuter.trans begins, differsPlace, isFurther⟩

/-- What a walk notes when it does not go on at the kinds that are skipped. -/
theorem walk_noting_eq
    (nodes : List Node) :
    (Rule.noting note skipped).walk nodes [] =
      (nodes, ((reached skipped nodes).filterMap (note? note nodes)).reverse) := by
  rw [walk_noting, notes_eq]

end Notes

end Place

/--
A walk asks at every stop once, in the order of the places, and shows the labels of the
nodes around it. With kinds that are skipped it asks at the same stops with the same
chains, except at those inside of a stop where it asks and that is skipped. A stack that
carries the chain is empty at the end.
-/
theorem Rule.walk_asks_at_stops
    {Item : Type}
    (note : StopKind → List Ancestor → Node → Item)
    (skipped : List StopKind)
    (statements : List Node) :
    (Place.stops statements).Pairwise (· < ·) ∧
      (∀ place, place ∈ Place.stops statements ↔ (Place.kind? statements place).isSome) ∧
      (Rule.noting note []).walk statements [] =
        (statements, ((Place.stops statements).filterMap (Place.note? note statements)).reverse) ∧
      ∃ asked : List Place,
        asked.Sublist (Place.stops statements) ∧
        (∀ place ∈ Place.stops statements, place ∈ asked ↔
          ¬ ∃ outer ∈ asked, outer <+: place ∧ outer ≠ place ∧
            ∃ kind ∈ skipped, Place.kind? statements outer = some kind) ∧
        (Rule.noting note skipped).walk statements [] =
          (statements, (asked.filterMap (Place.note? note statements)).reverse) ∧
        Visit.all skipped statements =
          asked.filterMap (Place.note? (fun kind ancestors _ => { kind, ancestors }) statements) ∧
        ((Rule.noting note skipped).stackWalk statements []).2.stack = [] ∧
        (((Rule.noting note skipped).stackWalk statements []).1,
            ((Rule.noting note skipped).stackWalk statements []).2.carried.own) =
          (Rule.noting note skipped).walk statements [] := by
  have unskipped := Place.walk_noting_eq note [] statements
  rw [Place.reached_nil] at unskipped
  have visited : Visit.all skipped statements =
      (Place.reached skipped statements).filterMap
        (Place.note? (fun kind ancestors _ => { kind, ancestors }) statements) := by
    rw [Visit.all, Visit.rule_eq_noting, Place.walk_noting_eq, List.reverse_reverse]
  exact ⟨Place.pairwise_stops statements, fun place => Place.mem_stops_iff, unskipped,
    Place.reached skipped statements, List.filter_sublist,
    fun place isStop => Place.mem_reached_iff skipped isStop,
    Place.walk_noting_eq note skipped statements, visited,
    Rule.stackWalk_eq statements []⟩

end Reactivity.Script
