import Reactivity.Proofs.Script.WellFormed

namespace Reactivity.Script

/-!
# Surveys

A survey goes through a tree in source order and lists what it finds. What it finds at a
node can depend on the nodes around it, as far as the setting tells of them.
-/

/-- What is found at a node in a setting, and the setting that the node makes for its children. -/
structure Survey (Setting Item : Type) where
  found : Setting → Node → List Item
  inside : Setting → Node → Setting

namespace Survey

variable {Setting Item : Type}

mutual

/-- All that is found in a tree. -/
def run
    (survey : Survey Setting Item)
    (setting : Setting) :
    Node →
    List Item
  | .mk form role span children =>
      survey.found setting (.mk form role span children) ++
        runAll survey (survey.inside setting (.mk form role span children)) children

/-- All that is found in some trees. -/
def runAll
    (survey : Survey Setting Item)
    (setting : Setting) :
    List Node →
    List Item
  | [] => []
  | node :: nodes => run survey setting node ++ runAll survey setting nodes

end

variable
  {survey : Survey Setting Item}
  {setting : Setting}

/-- In a tree is found what is found at its root, and in its children. -/
theorem run_eq
    (node : Node) :
    survey.run setting node =
      survey.found setting node ++
        survey.runAll (survey.inside setting node) node.children := by
  obtain ⟨form, role, span, children⟩ := node
  rw [run, Node.children_mk]

@[simp]
theorem runAll_nil :
    survey.runAll setting [] = [] := by
  rw [runAll]

@[simp]
theorem runAll_cons
    (node : Node)
    (nodes : List Node) :
    survey.runAll setting (node :: nodes) =
      survey.run setting node ++ survey.runAll setting nodes := by
  rw [runAll]

/-- What is found in some trees is what is found in each of them. -/
theorem runAll_eq
    (nodes : List Node) :
    survey.runAll setting nodes = nodes.flatMap (survey.run setting) := by
  induction nodes with
  | nil =>
      rw [runAll_nil, List.flatMap_nil]
  | cons node rest inductionHypothesis =>
      rw [runAll_cons, inductionHypothesis, List.flatMap_cons]

@[simp]
theorem runAll_append
    (first second : List Node) :
    survey.runAll setting (first ++ second) =
      survey.runAll setting first ++ survey.runAll setting second := by
  rw [runAll_eq, runAll_eq, runAll_eq, List.flatMap_append]

end Survey

end Reactivity.Script
