import Mathlib.Data.List.Induction
import Reactivity.Proofs.Script.WellFormed
import Reactivity.Proofs.Tree

namespace Reactivity.Script

/-!
# Places

A place says which tree of a list to take and then, node by node, which child, down to
one node. The nodes on that way are the path of the place. In the order of lists, a place
comes before the places inside of it, and these come before the places of later siblings:
this is the order in which a walk comes to them.
-/

/-- The number of a tree in a list, and of a child at each node on the way down. -/
abbrev Place := Address

namespace Place

/-- The nodes on the way to a place, the outermost first. -/
abbrev path? :
    List Node →
    Place →
    Option (List Node) :=
  Address.path? Node.children

/-- The node at a place. -/
def node?
    (nodes : List Node)
    (place : Place) :
    Option Node :=
  (path? nodes place).bind List.getLast?

/-- The nodes around a place, the innermost first. -/
def around
    (nodes : List Node)
    (place : Place) :
    List Node :=
  ((path? nodes place).getD []).dropLast.reverse

/-- The same place when a tree is put in front of the list. -/
def later :
    Place →
    Place
  | [] => []
  | index :: inner => (index + 1) :: inner

mutual

/-- The places of a tree and of all that is inside of it, by the way down from its root. -/
def inside :
    Node →
    List Place
  | .mk _ _ _ children => [] :: among children

/-- The places of some trees and of all that is inside of them. -/
def among :
    List Node →
    List Place
  | [] => []
  | node :: nodes => (inside node).map (0 :: ·) ++ (among nodes).map later

end

variable
  {node : Node}
  {nodes : List Node}
  {place inner : Place}
  {index : Nat}

theorem inside_eq
    (node : Node) :
    inside node = [] :: among node.children := by
  obtain ⟨form, role, span, children⟩ := node
  rw [inside, Node.children_mk]

/-- The places are the addresses in the numbered trees. -/
theorem among_eq
    (nodes : List Node) :
    among nodes = Address.among inside nodes.zipIdx := by
  induction nodes with
  | nil => rfl
  | cons node rest inductionHypothesis =>
      have shifted :
          (Address.among inside rest.zipIdx).map later =
            Address.among inside (rest.zipIdx 1) := by
        rw [List.zipIdx_succ, Address.among, Address.among, List.map_flatMap, List.flatMap_map]
        refine List.flatMap_congr (fun numbered _ => ?_)
        rw [List.map_map]
        rfl
      rw [among, inductionHypothesis, shifted, List.zipIdx_cons]
      rfl

/-- Trees are taken apart into the children of their roots. -/
def anatomy : Anatomy Node where
  parts := Node.children
  addresses := inside
  addresses_eq node := by
    rw [inside_eq, among_eq]
  inductionOnParts step node := by
    induction node using Node.inductionOnChildren with
    | step form role span children inductionHypothesis =>
        exact step _ inductionHypothesis

/-- The places of some trees are those with a path. -/
theorem mem_among_iff :
    place ∈ among nodes ↔ place ≠ [] ∧ (path? nodes place).isSome := by
  rw [among_eq]
  exact anatomy.mem_among_iff

/-- Every node is at one of the places. -/
theorem mem_among_of_node?
    (isNode : node? nodes place = some node) :
    place ∈ among nodes := by
  obtain ⟨path, isPath, isLast⟩ := Option.bind_eq_some_iff.mp isNode
  refine mem_among_iff.mpr ⟨?_, by rw [isPath]; rfl⟩
  rintro rfl
  cases isPath
  cases isLast

@[simp]
theorem path?_nil
    (nodes : List Node) :
    path? nodes [] = some [] :=
  rfl

/-- The way down goes through the tree with the first number. -/
theorem path?_cons
    (nodes : List Node)
    (index : Nat)
    (inner : Place) :
    path? nodes (index :: inner) =
      nodes[index]?.bind (fun node => (path? node.children inner).map (node :: ·)) :=
  rfl

theorem path?_zero
    (node : Node)
    (nodes : List Node)
    (inner : Place) :
    path? (node :: nodes) (0 :: inner) = (path? node.children inner).map (node :: ·) := by
  simp [path?_cons]

theorem path?_later
    (node : Node)
    (nodes : List Node)
    (occupied : place ≠ []) :
    path? (node :: nodes) place.later = path? nodes place := by
  cases place with
  | nil => exact (occupied rfl).elim
  | cons index inner => simp [path?_cons, later]

/-- There is a node on the way for each number of a place. -/
theorem length_path?
    {path : List Node}
    (isPath : path? nodes place = some path) :
    path.length = place.length := by
  induction place generalizing nodes path with
  | nil =>
      cases isPath
      rfl
  | cons index inner inductionHypothesis =>
      obtain ⟨node, _, isPath⟩ := Option.bind_eq_some_iff.mp isPath
      obtain ⟨rest, isRest, rfl⟩ := Option.map_eq_some_iff.mp isPath
      simp [inductionHypothesis isRest]

/-- The way to a place goes through all places around it. -/
theorem path?_take
    {path : List Node}
    (isPath : path? nodes place = some path)
    (count : Nat) :
    path? nodes (place.take count) = some (path.take count) := by
  induction place generalizing nodes path count with
  | nil =>
      cases isPath
      simp
  | cons index inner inductionHypothesis =>
      cases count with
      | zero =>
          simp
      | succ count =>
          obtain ⟨node, found, isPath⟩ := Option.bind_eq_some_iff.mp isPath
          obtain ⟨rest, isRest, rfl⟩ := Option.map_eq_some_iff.mp isPath
          simp [path?_cons, found, inductionHypothesis isRest]

/-- The node at a place that a place begins with lies on its way. -/
theorem node?_of_outer
    {path : List Node}
    (isPath : path? nodes place = some path)
    {outer : Place}
    (begins : outer <+: place)
    (occupied : outer ≠ []) :
    node? nodes outer = path[outer.length - 1]? := by
  have isShort : outer.length - 1 < path.length := by
    have := begins.length_le
    have := List.length_pos_iff.mpr occupied
    rw [length_path? isPath]
    omega
  have taken : path? nodes outer = some (path.take outer.length) := by
    conv_lhs => rw [List.prefix_iff_eq_take.mp begins]
    exact path?_take isPath outer.length
  rw [node?, taken, Option.bind_some, List.getLast?_take,
    if_neg (fun empty => occupied (List.length_eq_zero_iff.mp empty)),
    List.getElem?_eq_getElem isShort, Option.some_or]

/-- The nodes around a place are those at the places that it begins with. -/
theorem mem_around_iff
    (isThere : (path? nodes place).isSome) :
    node ∈ around nodes place ↔
      ∃ outer, outer <+: place ∧ outer ≠ place ∧ node? nodes outer = some node := by
  obtain ⟨path, isPath⟩ := Option.isSome_iff_exists.mp isThere
  have sameLength := length_path? isPath
  rw [around, isPath, Option.getD_some, List.mem_reverse, List.mem_iff_getElem?]
  constructor
  · rintro ⟨index, found⟩
    obtain ⟨isShort, isFound⟩ := List.getElem?_eq_some_iff.mp found
    rw [List.length_dropLast] at isShort
    have length : (place.take (index + 1)).length = index + 1 := by
      rw [List.length_take]
      omega
    refine ⟨place.take (index + 1), List.take_prefix _ _, fun same => ?_, ?_⟩
    · rw [same] at length
      omega
    · rw [node?_of_outer isPath (List.take_prefix _ _)
        (List.ne_nil_of_length_eq_add_one length), length, Nat.add_sub_cancel, ← found,
        List.getElem?_dropLast, if_pos isShort]
  · rintro ⟨outer, begins, differs, found⟩
    have occupied : outer ≠ [] := by
      rintro rfl
      simp [node?] at found
    have isShorter : outer.length < place.length :=
      Nat.lt_of_le_of_ne begins.length_le (fun same => differs (begins.eq_of_length same))
    have isShort : outer.length - 1 < path.length - 1 := by
      have := List.length_pos_iff.mpr occupied
      omega
    refine ⟨outer.length - 1, ?_⟩
    rw [List.getElem?_dropLast, if_pos isShort, ← node?_of_outer isPath begins occupied]
    exact found

/-- The way to a child goes on from the way to its parent. -/
theorem path?_append_singleton
    {path : List Node}
    {parent : Node}
    (isPath : path? nodes place = some path)
    (isLast : path.getLast? = some parent)
    (index : Nat) :
    path? nodes (place ++ [index]) =
      parent.children[index]?.map (fun child => path ++ [child]) := by
  induction place generalizing nodes path with
  | nil =>
      cases isPath
      cases isLast
  | cons first inner inductionHypothesis =>
      obtain ⟨node, found, isPath⟩ := Option.bind_eq_some_iff.mp isPath
      obtain ⟨rest, isRest, rfl⟩ := Option.map_eq_some_iff.mp isPath
      rw [List.cons_append, path?_cons, found, Option.bind_some]
      cases inner with
      | nil =>
          cases isRest
          obtain rfl : node = parent := Option.some.inj isLast
          simp only [List.nil_append, path?_cons, Option.map_bind]
          cases node.children[index]? <;> rfl
      | cons next others =>
          obtain ⟨head, tail, rfl⟩ : ∃ head tail, rest = head :: tail :=
            List.exists_cons_of_ne_nil (List.length_pos_iff.mp (by simp [length_path? isRest]))
          rw [inductionHypothesis isRest (by simpa using isLast), Option.map_map]
          rfl

/-- The node at the place of a child. -/
theorem node?_append_singleton
    {parent : Node}
    (isParent : node? nodes place = some parent)
    (index : Nat) :
    node? nodes (place ++ [index]) = parent.children[index]? := by
  obtain ⟨path, isPath, isLast⟩ := Option.bind_eq_some_iff.mp isParent
  rw [node?, path?_append_singleton isPath isLast]
  cases parent.children[index]? with
  | none => rfl
  | some child => simp

/-- Around a child are its parent and what is around that. -/
theorem around_append_singleton
    {parent child : Node}
    (isParent : node? nodes place = some parent)
    (isChild : parent.children[index]? = some child) :
    around nodes (place ++ [index]) = parent :: around nodes place := by
  obtain ⟨path, isPath, isLast⟩ := Option.bind_eq_some_iff.mp isParent
  obtain ⟨outer, rfl⟩ := List.getLast?_eq_some_iff.mp isLast
  rw [around, around, isPath, path?_append_singleton isPath isLast, isChild]
  simp

theorem around_singleton
    (isNode : nodes[index]? = some node) :
    around nodes [index] = [] := by
  simp [around, path?_cons, isNode]

/-- Induction on the way down to a node, from each parent to its children. -/
theorem inductionOnWay
    {motive : Place → Node → Prop}
    (top : ∀ index node, nodes[index]? = some node → motive [index] node)
    (inside :
      ∀ place parent index child, node? nodes place = some parent →
        parent.children[index]? = some child → motive place parent →
          motive (place ++ [index]) child)
    (isNode : node? nodes place = some node) :
    motive place node := by
  induction place using List.reverseRecOn generalizing node with
  | nil =>
      cases isNode
  | append_singleton outer index inductionHypothesis =>
      cases outer with
      | nil =>
          refine top index node ?_
          rw [← isNode]
          simp only [List.nil_append, node?, path?_cons]
          cases nodes[index]? <;> rfl
      | cons first rest =>
          obtain ⟨path, isPath, _⟩ := Option.bind_eq_some_iff.mp isNode
          have begins : first :: rest <+: first :: rest ++ [index] := List.prefix_append _ _
          have isShort : rest.length < path.length := by
            rw [length_path? isPath, List.length_append, List.length_cons]
            omega
          have isParent := node?_of_outer isPath begins (List.cons_ne_nil _ _)
          rw [List.length_cons, Nat.add_sub_cancel, List.getElem?_eq_getElem isShort] at isParent
          refine inside _ _ index node isParent ?_ (inductionHypothesis isParent)
          rw [← node?_append_singleton isParent, isNode]

/-- The places of trees are listed in their order, and each of them once. -/
theorem pairwise_among
    (nodes : List Node) :
    (among nodes).Pairwise (· < ·) := by
  rw [among_eq]
  exact Address.pairwise_among (fun node _ => anatomy.pairwise_addresses node)

end Place

end Reactivity.Script
