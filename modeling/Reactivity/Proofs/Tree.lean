import Mathlib.Data.List.Basic

namespace Reactivity

/-!
# Addresses in trees

A tree is taken apart into the parts directly below it, and these into theirs. An address
tells the way down to one of them by the numbers of the parts to take. In the order of lists
an address comes before the addresses below it, and these come before the addresses of later
parts, so this is the order of the document.
-/

/-- The way down in a tree: the number of the part to take, at each tree on the way. -/
abbrev Address := List Nat

namespace Address

variable {α : Type}

/-- The trees on the way down from one of some trees, the outermost first. -/
def path?
    (parts : α → List α) :
    List α →
    Address →
    Option (List α)
  | _, [] => some []
  | trees, index :: inner =>
      trees[index]?.bind (fun tree => (path? parts (parts tree) inner).map (tree :: ·))

/-- What is at an address in a tree. -/
def at?
    (parts : α → List α) :
    α →
    Address →
    Option α
  | tree, [] => some tree
  | tree, index :: inner => (parts tree)[index]?.bind (fun part => at? parts part inner)

/-- The addresses in some trees with these numbers, if those in each tree are known. -/
def among
    (inside : α → List Address)
    (numbered : List (α × Nat)) :
    List Address :=
  numbered.flatMap (fun numbered => (inside numbered.1).map (numbered.2 :: ·))

variable
  {parts : α → List α}
  {inside : α → List Address}
  {numbered : List (α × Nat)}
  {trees : List α}
  {address inner outer : Address}
  {index : Nat}

theorem mem_among_iff :
    address ∈ among inside numbered ↔
      ∃ tree index, (tree, index) ∈ numbered ∧ ∃ inner ∈ inside tree, index :: inner = address := by
  simp [among]

/-- The first number of an address is that of a tree, and the others lead on inside of it. -/
theorem cons_mem_among_iff :
    index :: inner ∈ among inside trees.zipIdx ↔
      ∃ tree, trees[index]? = some tree ∧ inner ∈ inside tree := by
  rw [mem_among_iff]
  constructor
  · rintro ⟨tree, number, isNumbered, inner, isInner, same⟩
    obtain ⟨rfl, rfl⟩ := List.cons_eq_cons.mp same
    exact ⟨tree, List.mem_zipIdx_iff_getElem?.mp isNumbered, isInner⟩
  · rintro ⟨tree, isTree, isInner⟩
    exact ⟨tree, index, List.mem_zipIdx_iff_getElem?.mpr isTree, inner, isInner, rfl⟩

theorem ne_nil_of_mem_among
    (member : address ∈ among inside numbered) :
    address ≠ [] := by
  obtain ⟨_, _, _, _, _, rfl⟩ := mem_among_iff.mp member
  exact List.cons_ne_nil _ _

/-- There is a way down as far as there is something at the address. -/
theorem isSome_path?_parts
    (tree : α) :
    (path? parts (parts tree) address).isSome = (at? parts tree address).isSome := by
  induction address generalizing tree with
  | nil => rfl
  | cons index inner inductionHypothesis =>
      rw [path?, at?]
      cases (parts tree)[index]? with
      | none => rfl
      | some part => rw [Option.bind_some, Option.bind_some, Option.isSome_map, inductionHypothesis]

/-- Trees are numbered in their order. -/
theorem pairwise_numbers
    (trees : List α) :
    trees.zipIdx.Pairwise (fun first second => first.2 < second.2) := by
  rw [← List.pairwise_map, List.zipIdx_map_snd]
  exact List.pairwise_lt_range' 1 Nat.one_pos

/-- The addresses in some trees stand in their order, if those in each tree do. -/
theorem pairwise_among
    (ordered : ∀ tree ∈ trees, (inside tree).Pairwise (· < ·)) :
    (among inside trees.zipIdx).Pairwise (· < ·) := by
  rw [among, List.pairwise_flatMap]
  refine ⟨fun numbered member => ?_, (pairwise_numbers trees).imp ?_⟩
  · have isTree := List.mem_of_getElem? (List.mem_zipIdx_iff_getElem?.mp member)
    rw [List.pairwise_map]
    exact (ordered numbered.1 isTree).imp (fun before =>
      List.cons_lt_cons_iff.mpr (.inr ⟨rfl, before⟩))
  · intro first second isLess earlier isEarlier later isLater
    obtain ⟨_, _, rfl⟩ := List.mem_map.mp isEarlier
    obtain ⟨_, _, rfl⟩ := List.mem_map.mp isLater
    exact List.cons_lt_cons_iff.mpr (.inl isLess)

/-- Addresses in other trees do not go through a tree. -/
theorem not_prefix_of_other
    (differ : ∀ other ∈ numbered, other.2 ≠ index)
    (member : address ∈ among inside numbered) :
    ¬ index :: outer <+: address := by
  obtain ⟨tree, number, isOther, inner, _, rfl⟩ := mem_among_iff.mp member
  rw [List.cons_prefix_cons]
  exact fun begins => differ (tree, number) isOther begins.1.symm

end Address

/-- How trees of a kind are taken apart, and how the addresses in them are listed. -/
structure Anatomy (α : Type) where
  parts : α → List α
  /-- The address of a tree itself, and then those in its parts. -/
  addresses : α → List Address
  addresses_eq : ∀ tree, addresses tree = [] :: Address.among addresses (parts tree).zipIdx
  /-- Nothing is part of itself, however far it is taken apart. -/
  inductionOnParts : ∀ {motive : α → Prop},
    (∀ tree, (∀ part ∈ parts tree, motive part) → motive tree) → ∀ tree, motive tree

namespace Anatomy

variable
  {α : Type}
  (anatomy : Anatomy α)
  {tree part : α}
  {address outer : Address}

/-- The addresses in a tree are those at which there is something. -/
theorem mem_addresses_iff :
    address ∈ anatomy.addresses tree ↔ (Address.at? anatomy.parts tree address).isSome := by
  induction address generalizing tree with
  | nil =>
      rw [anatomy.addresses_eq]
      simp [Address.at?]
  | cons index inner inductionHypothesis =>
      rw [anatomy.addresses_eq, List.mem_cons, or_iff_right (List.cons_ne_nil _ _),
        Address.cons_mem_among_iff, Address.at?]
      cases (anatomy.parts tree)[index]? with
      | none => simp
      | some part => simp [inductionHypothesis]

/-- The addresses in some trees are those to which there is a way. -/
theorem mem_among_iff
    {trees : List α} :
    address ∈ Address.among anatomy.addresses trees.zipIdx ↔
      address ≠ [] ∧ (Address.path? anatomy.parts trees address).isSome := by
  cases address with
  | nil => simpa using fun member => Address.ne_nil_of_mem_among member rfl
  | cons index inner =>
      rw [Address.cons_mem_among_iff, Address.path?, and_iff_right (List.cons_ne_nil _ _)]
      cases trees[index]? with
      | none => simp
      | some tree =>
          rw [Option.bind_some, Option.isSome_map, Address.isSome_path?_parts,
            ← anatomy.mem_addresses_iff]
          simp

/-- The addresses stand in their order, so each of them stands there once. -/
theorem pairwise_addresses
    (tree : α) :
    (anatomy.addresses tree).Pairwise (· < ·) := by
  induction tree using anatomy.inductionOnParts with
  | _ tree inductionHypothesis =>
      rw [anatomy.addresses_eq, List.pairwise_cons]
      refine ⟨fun address member => ?_, Address.pairwise_among inductionHypothesis⟩
      cases address with
      | nil => exact (Address.ne_nil_of_mem_among member rfl).elim
      | cons index inner => exact List.nil_lt_cons _ _

/-- The addresses that go through an address stand together: they lead on from what is there. -/
theorem exists_segment
    (found : Address.at? anatomy.parts tree outer = some part) :
    ∃ before behind,
      anatomy.addresses tree =
          before ++ (anatomy.addresses part).map (outer ++ ·) ++ behind ∧
        ∀ address ∈ before ++ behind, ¬ outer <+: address := by
  induction outer generalizing tree with
  | nil =>
      cases found
      exact ⟨[], [], by simp, by simp⟩
  | cons index outer inductionHypothesis =>
      obtain ⟨next, isNext, found⟩ := Option.bind_eq_some_iff.mp found
      obtain ⟨before, behind, split, outside⟩ := inductionHypothesis found
      have isNumbered : (next, index) ∈ (anatomy.parts tree).zipIdx :=
        List.mem_zipIdx_iff_getElem?.mpr isNext
      obtain ⟨earlier, later, numbers⟩ := List.append_of_mem isNumbered
      have numbersGrow := Address.pairwise_numbers (anatomy.parts tree)
      rw [numbers, List.pairwise_append, List.pairwise_cons] at numbersGrow
      obtain ⟨_, ⟨isLess, _⟩, isGreater⟩ := numbersGrow
      refine ⟨[] :: Address.among anatomy.addresses earlier ++ before.map (index :: ·),
        behind.map (index :: ·) ++ Address.among anatomy.addresses later, ?_,
        fun address member => ?_⟩
      · rw [anatomy.addresses_eq, numbers, Address.among, List.flatMap_append, List.flatMap_cons,
          split]
        simp [Address.among]
      · have outsideNext
            {inner : Address}
            (member : inner ∈ before ++ behind) :
            ¬ index :: outer <+: index :: inner := by
          rw [List.cons_prefix_cons]
          exact fun begins => outside inner member begins.2
        simp only [List.mem_append, List.mem_cons, List.mem_map] at member
        rcases member with ((rfl | isEarlier) | ⟨inner, isInner, rfl⟩) |
          ⟨inner, isInner, rfl⟩ | isLater
        · exact fun begins => List.cons_ne_nil _ _ (List.prefix_nil.mp begins)
        · exact Address.not_prefix_of_other (fun numbered isOther =>
            Nat.ne_of_lt (isGreater numbered isOther (next, index) List.mem_cons_self)) isEarlier
        · exact outsideNext (List.mem_append_left _ isInner)
        · exact outsideNext (List.mem_append_right _ isInner)
        · exact Address.not_prefix_of_other (fun numbered isOther =>
            Nat.ne_of_gt (isLess numbered isOther)) isLater

end Anatomy

end Reactivity
