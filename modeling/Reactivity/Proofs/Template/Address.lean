import Reactivity.Proofs.Template.Place
import Reactivity.Proofs.Tree
import Reactivity.Template.Trace

namespace Reactivity.Template

/-!
# Addresses in a template

Children lists and nodes lie in each other by turns: below a list are its nodes, and below
a node are its children lists. An address in a template tells the way down to one of them.
-/

namespace Spot

/-- What lies directly below a spot: the nodes of a list, or the children lists of a node. -/
def parts :
    Spot →
    List Spot
  | .list _ children => children.map .node
  | .node visited => visited.childLists.map (fun inner => .list inner.1 inner.2)

/-- The spot at an address below a spot. -/
abbrev at? :
    Spot →
    Address →
    Option Spot :=
  Address.at? parts

/-- The size of the tree below a spot. -/
noncomputable def weight :
    Spot →
    Nat
  | .list _ children => sizeOf children
  | .node visited => sizeOf visited

variable {spot part : Spot}

/-- Every part is smaller than the spot above it. -/
theorem weight_lt_of_mem_parts
    (member : part ∈ spot.parts) :
    part.weight < spot.weight := by
  cases spot with
  | list container children =>
      obtain ⟨child, isChild, rfl⟩ := List.mem_map.mp member
      exact List.sizeOf_lt_of_mem isChild
  | node visited =>
      obtain ⟨below, isBelow, rfl⟩ := List.mem_map.mp member
      exact Node.sizeOf_childLists isBelow

/-- Induction on a spot, with the spots directly below it. -/
theorem inductionOnParts
    {motive : Spot → Prop}
    (step : ∀ spot, (∀ part ∈ spot.parts, motive part) → motive spot)
    (spot : Spot) :
    motive spot := by
  refine step spot (fun part member => ?_)
  have isSmaller := weight_lt_of_mem_parts member
  exact inductionOnParts step part
termination_by spot.weight

/-- The addresses of a spot and of all spots below it, in order. -/
def addresses
    (spot : Spot) :
    List Address :=
  [] :: spot.parts.attach.zipIdx.flatMap (fun numbered =>
    (addresses numbered.1.1).map (numbered.2 :: ·))
termination_by spot.weight
decreasing_by exact weight_lt_of_mem_parts numbered.1.2

theorem addresses_eq
    (spot : Spot) :
    spot.addresses = [] :: Address.among addresses spot.parts.zipIdx := by
  have unattached :
      spot.parts.zipIdx = spot.parts.attach.zipIdx.map (Prod.map Subtype.val id) := by
    rw [← List.zipIdx_map, List.attach_map_subtype_val]
  rw [addresses, Address.among, unattached, List.flatMap_map]
  rfl

/-- Lists and nodes are taken apart by turns. -/
def anatomy : Anatomy Spot where
  parts := parts
  addresses := addresses
  addresses_eq := addresses_eq
  inductionOnParts := inductionOnParts

end Spot

end Reactivity.Template
