namespace Reactivity.Text

/-!
# Sets of names

A finite set of names, kept as the strictly increasing list of its members in
code point order. The order is part of the type, so equal sets are equal values
and a set can be written out by listing it.
-/

/-- A finite set of names in increasing order. -/
structure NameSet where
  names : List String
  increasing : names.Pairwise (· < ·)
  deriving DecidableEq

namespace NameSet

/-- The set without members. -/
def empty : NameSet where
  names := []
  increasing := .nil

/-- Put a name at its place in an increasing list. -/
def insertName
    (name : String) :
    List String →
    List String
  | [] => [name]
  | first :: rest =>
      if name < first then
        name :: first :: rest
      else if name = first then
        first :: rest
      else
        first :: insertName name rest

/-- Of two distinct names that are not in order, the second comes first. -/
private theorem lt_of_not_lt_of_ne
    {left right : String}
    (notLess : ¬ left < right)
    (distinct : left ≠ right) :
    right < left := by
  by_cases less : right < left
  · exact less
  · exact absurd
      (String.le_antisymm (String.not_lt.1 less) (String.not_lt.1 notLess))
      distinct

/-- Insertion adds the name and keeps the members. -/
theorem mem_insertName
    {member name : String}
    {names : List String} :
    member ∈ insertName name names ↔ member = name ∨ member ∈ names := by
  induction names with
  | nil =>
      simp [insertName]
  | cons first rest inductionHypothesis =>
      by_cases less : name < first
      · simp [insertName, less]
      · by_cases same : name = first
        · simp [insertName, same]
        · simp only [insertName, less, same, if_false, List.mem_cons,
            inductionHypothesis]
          constructor <;> rintro (h | h | h) <;> simp [h]

/-- Insertion keeps a list increasing. -/
theorem insertName_increasing
    {name : String}
    {names : List String}
    (increasing : names.Pairwise (· < ·)) :
    (insertName name names).Pairwise (· < ·) := by
  induction names with
  | nil =>
      simp [insertName]
  | cons first rest inductionHypothesis =>
      have firstLess := (List.pairwise_cons.1 increasing).1
      have restIncreasing := (List.pairwise_cons.1 increasing).2
      by_cases less : name < first
      · simp only [insertName, less, if_true]
        refine List.pairwise_cons.2 ⟨?_, increasing⟩
        intro member inList
        rcases List.mem_cons.1 inList with rfl | inRest
        · exact less
        · exact String.lt_trans less (firstLess member inRest)
      · by_cases same : name = first
        · simpa [insertName, same] using increasing
        · simp only [insertName, less, same, if_false]
          refine List.pairwise_cons.2 ⟨?_, inductionHypothesis restIncreasing⟩
          intro member inList
          rcases mem_insertName.1 inList with rfl | inRest
          · exact lt_of_not_lt_of_ne less same
          · exact firstLess member inRest

/-- Add a name. -/
def insert
    (set : NameSet)
    (name : String) :
    NameSet where
  names := insertName name set.names
  increasing := insertName_increasing set.increasing

/-- Add every name of a list. -/
def insertAll
    (set : NameSet)
    (names : List String) :
    NameSet :=
  names.foldl insert set

/-- The set of the names in a list. -/
def ofList
    (names : List String) :
    NameSet :=
  empty.insertAll names

/-- The name is a member. -/
def contains
    (set : NameSet)
    (name : String) :
    Bool :=
  set.names.contains name

end NameSet

end Reactivity.Text
