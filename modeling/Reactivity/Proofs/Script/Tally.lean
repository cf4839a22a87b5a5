import Reactivity.Proofs.Script.WellFormed

namespace Reactivity.Script.Node

/-!
# Counting nodes

How many nodes of a tree have a form that passes a check.
-/

mutual

/-- The number of nodes of a tree whose form passes a check. -/
def tally
    (check : Form → Bool) :
    Node →
    Nat
  | .mk form _ _ children => (check form).toNat + tallyAll check children

/-- The number of nodes of some trees whose form passes a check. -/
def tallyAll
    (check : Form → Bool) :
    List Node →
    Nat
  | [] => 0
  | node :: nodes => tally check node + tallyAll check nodes

end

variable {check : Form → Bool}

@[simp]
theorem tally_mk
    (form : Form)
    (role : Role)
    (span : Span)
    (children : List Node) :
    tally check (.mk form role span children) =
      (check form).toNat + tallyAll check children := by
  rw [tally]

@[simp]
theorem tallyAll_nil :
    tallyAll check [] = 0 := by
  rw [tallyAll]

@[simp]
theorem tallyAll_cons
    (node : Node)
    (nodes : List Node) :
    tallyAll check (node :: nodes) = tally check node + tallyAll check nodes := by
  rw [tallyAll]

@[simp]
theorem tallyAll_append
    (first second : List Node) :
    tallyAll check (first ++ second) = tallyAll check first + tallyAll check second := by
  induction first with
  | nil =>
      simp
  | cons node rest inductionHypothesis =>
      simp [inductionHypothesis, Nat.add_assoc]

/-- The role of a node does not count. -/
@[simp]
theorem tally_withRole
    (role : Role)
    (node : Node) :
    tally check (node.withRole role) = tally check node := by
  obtain ⟨form, oldRole, span, children⟩ := node
  simp [withRole]

/-- Nothing is counted in trees just when nothing is counted in any of them. -/
theorem tallyAll_eq_zero_iff
    {nodes : List Node} :
    tallyAll check nodes = 0 ↔ ∀ node ∈ nodes, tally check node = 0 := by
  induction nodes with
  | nil =>
      simp
  | cons node rest inductionHypothesis =>
      simp [inductionHypothesis]

/-- Nothing is counted in a tree just when nothing that occurs in it passes the check. -/
theorem tally_eq_zero_iff
    {node : Node} :
    tally check node = 0 ↔ ∀ inner, node.Holds inner → check inner.form = false := by
  induction node using inductionOnChildren with
  | step form role span children inductionHypothesis =>
      rw [tally_mk, Nat.add_eq_zero_iff, tallyAll_eq_zero_iff]
      constructor
      · rintro ⟨atRoot, below⟩ inner holds
        cases holds with
        | whole =>
            exact Bool.toNat_eq_zero.mp atRoot
        | inside member holds =>
            exact (inductionHypothesis _ member).mp (below _ member) inner holds
      · intro nowhere
        refine ⟨Bool.toNat_eq_zero.mpr (nowhere _ (.whole _)), ?_⟩
        intro child member
        apply (inductionHypothesis child member).mpr
        intro inner holds
        exact nowhere inner (.inside member holds)

end Reactivity.Script.Node
