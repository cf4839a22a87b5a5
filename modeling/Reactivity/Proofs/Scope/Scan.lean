import Reactivity.Scope.Root

namespace Reactivity

open Script

/-!
# What a script declares

Membership in the sets of names that the scan of a script gives.
-/

namespace Text.NameSet

theorem mem_insertAll
    {name : String}
    {set : NameSet}
    {names : List String} :
    name ∈ (set.insertAll names).names ↔ name ∈ set.names ∨ name ∈ names := by
  induction names generalizing set with
  | nil =>
      simp [insertAll]
  | cons first rest inductionHypothesis =>
      have step := @inductionHypothesis (set.insert first)
      rw [insert, mem_insertName, or_assoc, or_left_comm] at step
      rw [List.mem_cons]
      exact step

/-- The set of the names in a list has these names as its members. -/
theorem mem_ofList
    {name : String}
    {names : List String} :
    name ∈ (ofList names).names ↔ name ∈ names := by
  rw [ofList, mem_insertAll]
  simp [empty]

theorem contains_iff_mem
    {name : String}
    {set : NameSet} :
    set.contains name ↔ name ∈ set.names :=
  List.contains_iff_mem

end Text.NameSet

namespace Scope

/-- A name is declared when a statement of the top level declares it as variable or function. -/
theorem declares_scan
    {name : String}
    {statements : List Node} :
    (Root.scan statements).declares name ↔
      ∃ statement ∈ statements,
        name ∈ variableNames statement ∨ name ∈ functionNames statement := by
  rw [Root.declares, Bool.or_eq_true, Root.scan, Text.NameSet.contains_iff_mem,
    Text.NameSet.contains_iff_mem, Text.NameSet.mem_ofList, Text.NameSet.mem_ofList,
    List.mem_flatMap, List.mem_flatMap]
  constructor
  · rintro (⟨statement, member, isVariable⟩ | ⟨statement, member, isFunction⟩)
    · exact ⟨statement, member, .inl isVariable⟩
    · exact ⟨statement, member, .inr isFunction⟩
  · rintro ⟨statement, member, isVariable | isFunction⟩
    · exact .inl ⟨statement, member, isVariable⟩
    · exact .inr ⟨statement, member, isFunction⟩

end Scope

end Reactivity
