import Reactivity.Proofs.Script.Grammar.Target
import Reactivity.Proofs.Script.Twin.Tree

namespace Reactivity.Script.Node

open Refresh

/-!
# Targets of trees with marks

Turning an expression into the pattern it stands for does not look into lists of statements,
so it makes no difference whether marks are taken away before or after. And what is astray
in the expression is astray in the pattern.
-/

/-- The form of an expression that is no simple target, but stands for a pattern. -/
def isStructured :
    Form →
    Bool
  | .assignment .plain | .array | .object | .parenthesized | .property .value _ _
  | .shorthandDefault | .spread false | .rest | .absent => true
  | _ => false

/-- What has no structure is a target if it is a simple one. -/
theorem target?_of_simple
    {form : Form}
    {role : Role}
    {span : Span}
    {children : List Node}
    (isSimple : isStructured form = false)
    (allowsDefault : Bool) :
    target? allowsDefault (.mk form role span children) =
      simpleTarget? (.mk form role span children) := by
  unfold target?
  split
  all_goals first
    | rfl
    | next shape =>
        cases shape
        cases isSimple

/-- The form of a name or member access that can be assigned to. -/
def isSimpleTarget :
    Form →
    Bool
  | .identifier _ | .member _ false | .privateMember _ false | .computedMember false => true
  | _ => false

/-- Apart from parentheses, the form decides what is a simple target. -/
theorem simpleTarget?_mk
    {form : Form}
    {role : Role}
    {span : Span}
    {children : List Node}
    (isOther : form = .parenthesized → children.length ≠ 1) :
    simpleTarget? (.mk form role span children) =
      if isSimpleTarget form then some (.mk form .part span children) else none := by
  unfold simpleTarget?
  split
  · next shape =>
      cases shape
      exact (isOther rfl rfl).elim
  · next shape =>
      cases shape
      unfold isSimpleTarget
      split <;> simp_all

/-- Marks do not matter for simple targets. -/
theorem simpleTarget?_unmarked
    (node : Node) :
    node.unmarked.simpleTarget? = node.simpleTarget?.map unmarked := by
  induction node using inductionOnChildren with
  | step form role span children inductionHypothesis =>
      by_cases isWrapped : form = .parenthesized ∧ children.length = 1
      · obtain ⟨rfl, isSingle⟩ := isWrapped
        obtain ⟨inner, rfl⟩ := List.length_eq_one_iff.mp isSingle
        rw [unmarked_noList rfl, List.map_singleton, simpleTarget?,
          inductionHypothesis inner (by simp), simpleTarget?]
        cases simpleTarget? inner with
        | none => rfl
        | some target => simp [unmarked_mk, Form.listsStatements]
      · rw [not_and] at isWrapped
        rw [simpleTarget?_mk isWrapped, unmarked_mk, simpleTarget?_mk]
        · split <;> simp [unmarked_mk]
        · rintro rfl
          simpa [Form.listsStatements] using isWrapped rfl

theorem spreadIsSimple_unmarked
    (node : Node) :
    node.unmarked.spreadIsSimple = node.spreadIsSimple := by
  obtain ⟨form, role, span, children⟩ := node
  cases form
  case spread isFollowed =>
      rw [unmarked_noList rfl]
      rcases children with _ | ⟨value, _ | ⟨other, rest⟩⟩
      · rfl
      · simp [spreadIsSimple, simpleTarget?_unmarked]
      · rfl
  all_goals
    rw [unmarked_mk]
    rfl

/-- Marks do not matter for targets in a row, if they do not for each. -/
theorem targets?_unmarked
    {nodes : List Node}
    (each : ∀ node ∈ nodes, target? true node.unmarked = (target? true node).map unmarked) :
    targets? (nodes.map unmarked) = (targets? nodes).map (List.map unmarked) := by
  induction nodes with
  | nil => rfl
  | cons node rest inductionHypothesis =>
      rw [List.map_cons, targets?, targets?, each node (by simp),
        inductionHypothesis (fun other member => each other (by simp [member]))]
      cases target? true node <;> cases targets? rest <;> rfl

/-- The target that a tree without marks stands for. -/
theorem target?_unmarked
    (allowsDefault : Bool)
    (node : Node) :
    target? allowsDefault node.unmarked = (target? allowsDefault node).map unmarked := by
  induction node using inductionOnChildren generalizing allowsDefault with
  | step form role span children inductionHypothesis =>
      have listed := targets?_unmarked (fun node member => inductionHypothesis node member true)
      have turned (child : Node) (member : child ∈ children) (allowsDefault : Bool) :=
        inductionHypothesis child member allowsDefault
      cases structured : isStructured form with
      | false =>
          rw [target?_of_simple structured, ← simpleTarget?_unmarked, unmarked_mk,
            target?_of_simple structured]
      | true =>
          unfold isStructured at structured
          split at structured
          case h_10 => cases structured
          all_goals rw [unmarked_noList rfl]
          case h_1 => cases allowsDefault <;> simp [target?, unmarked_mk, Form.listsStatements]
          case h_2 =>
              rw [target?, target?, listed]
              cases targets? children <;> simp [unmarked_mk, Form.listsStatements]
          case h_3 =>
              have simple : (children.map unmarked).all spreadIsSimple =
                  children.all spreadIsSimple := by
                simp [List.all_map, Function.comp_def, spreadIsSimple_unmarked]
              rw [target?, target?, listed, simple]
              split
              · cases targets? children <;> simp [unmarked_mk, Form.listsStatements]
              · rfl
          case h_4 =>
              rcases children with _ | ⟨inner, _ | ⟨other, rest⟩⟩
              · rfl
              · rw [List.map_singleton, target?, target?, turned inner (by simp)]
                cases target? allowsDefault inner <;> simp [unmarked_mk, Form.listsStatements]
              · rfl
          case h_5 =>
              rcases children with _ | ⟨key, _ | ⟨value, _ | ⟨other, rest⟩⟩⟩
              · rfl
              · rfl
              · rw [List.map_cons, List.map_singleton, target?, target?, turned value (by simp)]
                cases target? true value <;> simp [unmarked_mk, Form.listsStatements]
              · rfl
          case h_6 =>
              rcases children with _ | ⟨key, _ | ⟨name, _ | ⟨value, _ | ⟨other, rest⟩⟩⟩⟩
              · rfl
              · rfl
              · rfl
              · simp [target?, unmarked_mk, Form.listsStatements, withRole_unmarked]
              · rfl
          case h_7 =>
              rcases children with _ | ⟨value, _ | ⟨other, rest⟩⟩
              · rfl
              · rw [List.map_singleton, target?, target?, turned value (by simp)]
                cases target? false value <;> simp [unmarked_mk, Form.listsStatements]
              · rfl
          case h_8 | h_9 => simp [target?, unmarked_mk, Form.listsStatements]

theorem restIsName_unmarked
    (node : Node) :
    node.unmarked.restIsName = node.restIsName := by
  obtain ⟨form, role, span, children⟩ := node
  cases form
  case rest =>
      rw [unmarked_noList rfl]
      rcases children with _ | ⟨⟨form, _, _, below⟩, _ | ⟨other, rest⟩⟩
      · rfl
      all_goals
        rw [List.map_cons, unmarked_mk]
        cases form <;> rfl
  all_goals
    rw [unmarked_mk]
    rfl

/-- Marks do not matter for bindings in a row, if they do not for each. -/
theorem bindings?_unmarked
    {nodes : List Node}
    (each : ∀ node ∈ nodes, binding? node.unmarked = (binding? node).map unmarked) :
    bindings? (nodes.map unmarked) = (bindings? nodes).map (List.map unmarked) := by
  induction nodes with
  | nil => rfl
  | cons node rest inductionHypothesis =>
      rw [List.map_cons, bindings?, bindings?, each node (by simp),
        inductionHypothesis (fun other member => each other (by simp [member]))]
      cases binding? node <;> cases bindings? rest <;> rfl

/-- The form of a target that can be bound. -/
def isBindable :
    Form →
    Bool
  | .identifier _ | .absent | .objectPattern _ | .arrayPattern _ | .patternProperty _ _
  | .defaulted | .rest => true
  | _ => false

theorem binding?_of_other
    {form : Form}
    {role : Role}
    {span : Span}
    {children : List Node}
    (isOther : isBindable form = false) :
    binding? (.mk form role span children) = none := by
  unfold binding?
  split
  all_goals first
    | rfl
    | next shape =>
        cases shape
        cases isOther

/-- The binding that a target without marks stands for. -/
theorem binding?_unmarked
    (node : Node) :
    binding? node.unmarked = (binding? node).map unmarked := by
  induction node using inductionOnChildren with
  | step form role span children inductionHypothesis =>
      have listed := bindings?_unmarked inductionHypothesis
      cases bindable : isBindable form with
      | false =>
          rw [binding?_of_other bindable, unmarked_mk, binding?_of_other bindable]
          rfl
      | true =>
          unfold isBindable at bindable
          split at bindable
          case h_8 => cases bindable
          all_goals rw [unmarked_noList rfl]
          case h_1 | h_2 => simp [binding?, unmarked_mk, Form.listsStatements]
          case h_3 =>
              have named : (children.map unmarked).all restIsName = children.all restIsName := by
                simp [List.all_map, Function.comp_def, restIsName_unmarked]
              rw [binding?, binding?, listed, named]
              split
              · cases bindings? children <;> simp [unmarked_mk, Form.listsStatements]
              · rfl
          case h_4 =>
              rw [binding?, binding?, listed]
              cases bindings? children <;> simp [unmarked_mk, Form.listsStatements]
          case h_5 =>
              rcases children with _ | ⟨key, _ | ⟨pattern, _ | ⟨other, rest⟩⟩⟩
              · rfl
              · rfl
              · rw [List.map_cons, List.map_singleton, binding?, binding?,
                  inductionHypothesis pattern (by simp)]
                cases binding? pattern <;> simp [unmarked_mk, Form.listsStatements]
              · rfl
          case h_6 =>
              rcases children with _ | ⟨pattern, _ | ⟨value, _ | ⟨other, rest⟩⟩⟩
              · rfl
              · rfl
              · rw [List.map_cons, List.map_singleton, binding?, binding?,
                  inductionHypothesis pattern (by simp)]
                cases binding? pattern <;> simp [unmarked_mk, Form.listsStatements]
              · rfl
          case h_7 =>
              rcases children with _ | ⟨pattern, _ | ⟨other, rest⟩⟩
              · rfl
              · rw [List.map_singleton, binding?, binding?, inductionHypothesis pattern (by simp)]
                cases binding? pattern <;> simp [unmarked_mk, Form.listsStatements]
              · rfl

/-- The items that a tree without marks stands for before an arrow. -/
theorem arrowItems?_unmarked
    (node : Node) :
    node.unmarked.arrowItems? = node.arrowItems?.map (List.map unmarked) := by
  obtain ⟨form, role, span, children⟩ := node
  cases form
  case arrowParameters => simp [arrowItems?, unmarked_mk, Form.listsStatements]
  case identifier name => simp [arrowItems?, unmarked_mk, Form.listsStatements]
  case parenthesized =>
      rw [unmarked_noList rfl]
      rcases children with _ | ⟨⟨form, innerRole, innerSpan, items⟩, _ | ⟨other, rest⟩⟩
      · rfl
      · by_cases isSequence : form = .sequence
        · subst isSequence
          simp [arrowItems?, unmarked_mk, Form.listsStatements]
        · have single (item : Node) (noSequence : item.form ≠ .sequence) (span : Span) :
              (Node.mk .parenthesized role span [item]).arrowItems? =
                some [if item.name?.isSome then item.bare else item] := by
            refine arrowItems?.eq_3 _ _ _ ?_
            rintro _ _ _ rfl
            exact noSequence rfl
          rw [List.map_singleton, single (unmarked _) (by rwa [form_unmarked]),
            single (.mk form _ _ _) isSequence,
            name?_unmarked, bare_unmarked]
          simp only [Option.map_some, List.map_singleton]
          split <;> rfl
      · rw [List.map_cons, unmarked_mk]
        cases form <;> rfl
  all_goals
    rw [unmarked_mk]
    rfl

/-- Marks do not matter for the head of an arrow function. -/
theorem arrowHead?_unmarked
    (node : Node) :
    node.unmarked.arrowHead? = node.arrowHead?.map (List.map unmarked) := by
  rw [arrowHead?, arrowHead?, arrowItems?_unmarked]
  cases node.arrowItems? with
  | none => rfl
  | some items =>
      have turned := targets?_unmarked (fun node (_ : node ∈ items) => target?_unmarked true node)
      simp only [Option.map_some, Option.bind_some, turned]
      cases targets? items with
      | none => rfl
      | some targets => exact bindings?_unmarked (fun target _ => binding?_unmarked target)

/-- What is astray stays so when it is turned into a simple target. -/
theorem simpleTarget?_strays
    {node target : Node}
    {grade : Grade}
    (turned : node.simpleTarget? = some target)
    (isAstray : node.strays grade) :
    target.strays grade := by
  induction node using inductionOnChildren generalizing target with
  | step form role span children inductionHypothesis =>
      by_cases isWrapped : form = .parenthesized ∧ children.length = 1
      · obtain ⟨rfl, isSingle⟩ := isWrapped
        obtain ⟨inner, rfl⟩ := List.length_eq_one_iff.mp isSingle
        rw [simpleTarget?] at turned
        obtain ⟨innerTarget, innerTurned, rfl⟩ := Option.map_eq_some_iff.mp turned
        exact strays_parenthesized.mpr
          (inductionHypothesis inner (by simp) innerTurned (strays_parenthesized.mp isAstray))
      · rw [not_and] at isWrapped
        rw [simpleTarget?_mk isWrapped] at turned
        split at turned
        · cases turned
          exact strays_mk.mpr (strays_mk.mp isAstray)
        · cases turned

/-- Each item that is turned is found among the targets. -/
theorem exists_target_of_mem
    {nodes targets : List Node}
    (turned : targets? nodes = some targets)
    {node : Node}
    (member : node ∈ nodes) :
    ∃ target ∈ targets, target? true node = some target := by
  induction nodes generalizing targets with
  | nil => cases member
  | cons first rest inductionHypothesis =>
      unfold targets? at turned
      split at turned
      · next firstTarget others firstTurned othersTurned =>
          cases turned
          rcases List.mem_cons.mp member with rfl | isOther
          · exact ⟨firstTarget, by simp, firstTurned⟩
          · obtain ⟨target, targetMember, targetTurned⟩ :=
              inductionHypothesis othersTurned isOther
            exact ⟨target, by simp [targetMember], targetTurned⟩
      · cases turned

/-- What is astray in an expression is astray in its target. -/
theorem target?_strays
    {allowsDefault : Bool}
    {node target : Node}
    {grade : Grade}
    (turned : node.target? allowsDefault = some target)
    (isAstray : node.strays grade) :
    target.strays grade := by
  induction node using inductionOnChildren generalizing allowsDefault target grade with
  | step form role span children inductionHypothesis =>
      have listed
          {targets : List Node}
          (allTurned : targets? children = some targets)
          (below : ∃ child ∈ children, child.strays .bare) :
          ∃ target ∈ targets, target.strays .bare := by
        obtain ⟨child, member, childAstray⟩ := below
        obtain ⟨target, targetMember, childTurned⟩ := exists_target_of_mem allTurned member
        exact ⟨target, targetMember, inductionHypothesis child member childTurned childAstray⟩
      unfold target? at turned
      split at turned
      · next shape =>
          cases shape
          obtain ⟨child, member, childAstray⟩ := exists_of_strays rfl isAstray rfl
          split at turned
          · cases turned
            exact strays_of_mem rfl member childAstray
          · cases turned
      · next shape =>
          cases shape
          obtain ⟨targets, allTurned, rfl⟩ := Option.map_eq_some_iff.mp turned
          obtain ⟨target, member, below⟩ := listed allTurned (exists_of_strays rfl isAstray rfl)
          exact strays_of_mem rfl member below
      · next shape =>
          cases shape
          split at turned
          · obtain ⟨targets, allTurned, rfl⟩ := Option.map_eq_some_iff.mp turned
            obtain ⟨target, member, below⟩ := listed allTurned (exists_of_strays rfl isAstray rfl)
            exact strays_of_mem rfl member below
          · cases turned
      · next inner shape =>
          cases shape
          obtain ⟨innerTarget, innerTurned, rfl⟩ := Option.map_eq_some_iff.mp turned
          exact strays_parenthesized.mpr
            (inductionHypothesis inner (by simp) innerTurned (strays_parenthesized.mp isAstray))
      · next key value shape =>
          cases shape
          obtain ⟨valueTarget, valueTurned, rfl⟩ := Option.map_eq_some_iff.mp turned
          obtain ⟨child, member, childAstray⟩ := exists_of_strays rfl isAstray rfl
          rcases List.mem_pair.mp member with rfl | rfl
          · exact strays_of_mem rfl (by simp) childAstray
          · exact strays_of_mem rfl (by simp)
              (inductionHypothesis child (by simp) valueTurned childAstray)
      · next key name value shape =>
          cases shape
          cases turned
          obtain ⟨child, member, childAstray⟩ := exists_of_strays rfl isAstray rfl
          rcases List.mem_cons.mp member with rfl | others
          · exact strays_of_mem rfl (by simp) childAstray
          · refine strays_of_mem rfl (List.mem_cons_of_mem _ (List.mem_singleton.mpr rfl)) ?_
            rcases List.mem_pair.mp others with rfl | rfl
            · refine strays_of_mem rfl List.mem_cons_self ?_
              obtain ⟨form, _, _, children⟩ := child
              exact strays_mk.mpr (strays_mk.mp childAstray)
            · exact strays_of_mem rfl (by simp) childAstray
      · next value shape =>
          cases shape
          obtain ⟨valueTarget, valueTurned, rfl⟩ := Option.map_eq_some_iff.mp turned
          obtain ⟨child, member, childAstray⟩ := exists_of_strays rfl isAstray rfl
          obtain rfl := List.mem_singleton.mp member
          exact strays_of_mem rfl (by simp)
            (inductionHypothesis child (by simp) valueTurned childAstray)
      · next shape =>
          cases shape
          cases turned
          exact isAstray
      · next shape =>
          cases shape
          cases turned
          exact isAstray
      · exact simpleTarget?_strays turned isAstray

theorem exists_binding_of_mem
    {nodes bindings : List Node}
    (turned : bindings? nodes = some bindings)
    {node : Node}
    (member : node ∈ nodes) :
    ∃ binding ∈ bindings, binding? node = some binding := by
  induction nodes generalizing bindings with
  | nil => cases member
  | cons first rest inductionHypothesis =>
      unfold bindings? at turned
      split at turned
      · next firstBinding others firstTurned othersTurned =>
          cases turned
          rcases List.mem_cons.mp member with rfl | isOther
          · exact ⟨firstBinding, by simp, firstTurned⟩
          · obtain ⟨binding, bindingMember, bindingTurned⟩ :=
              inductionHypothesis othersTurned isOther
            exact ⟨binding, by simp [bindingMember], bindingTurned⟩
      · cases turned

/-- What is astray in a target is astray in its binding. -/
theorem binding?_strays
    {node binding : Node}
    {grade : Grade}
    (turned : node.binding? = some binding)
    (isAstray : node.strays grade) :
    binding.strays grade := by
  induction node using inductionOnChildren generalizing binding grade with
  | step form role span children inductionHypothesis =>
      have listed
          {bindings : List Node}
          (allTurned : bindings? children = some bindings)
          (below : ∃ child ∈ children, child.strays .bare) :
          ∃ binding ∈ bindings, binding.strays .bare := by
        obtain ⟨child, member, childAstray⟩ := below
        obtain ⟨binding, bindingMember, childTurned⟩ := exists_binding_of_mem allTurned member
        exact ⟨binding, bindingMember, inductionHypothesis child member childTurned childAstray⟩
      unfold binding? at turned
      split at turned
      · next shape =>
          cases shape
          cases turned
          rcases strays_mk.mp isAstray with here | ⟨noLeaf, _⟩
          · exact strays_mk.mpr (.inl here)
          · cases noLeaf
      · next shape =>
          cases shape
          cases turned
          exact isAstray
      · next shape =>
          cases shape
          split at turned
          · obtain ⟨bindings, allTurned, rfl⟩ := Option.map_eq_some_iff.mp turned
            obtain ⟨binding, member, below⟩ := listed allTurned (exists_of_strays rfl isAstray rfl)
            exact strays_of_mem rfl member below
          · cases turned
      · next shape =>
          cases shape
          obtain ⟨bindings, allTurned, rfl⟩ := Option.map_eq_some_iff.mp turned
          obtain ⟨binding, member, below⟩ := listed allTurned (exists_of_strays rfl isAstray rfl)
          exact strays_of_mem rfl member below
      · next key pattern shape =>
          cases shape
          obtain ⟨inner, innerTurned, rfl⟩ := Option.map_eq_some_iff.mp turned
          obtain ⟨child, member, childAstray⟩ := exists_of_strays rfl isAstray rfl
          rcases List.mem_pair.mp member with rfl | rfl
          · exact strays_of_mem rfl (by simp) childAstray
          · exact strays_of_mem rfl (by simp)
              (inductionHypothesis child (by simp) innerTurned childAstray)
      · next pattern value shape =>
          cases shape
          obtain ⟨inner, innerTurned, rfl⟩ := Option.map_eq_some_iff.mp turned
          obtain ⟨child, member, childAstray⟩ := exists_of_strays rfl isAstray rfl
          rcases List.mem_pair.mp member with rfl | rfl
          · exact strays_of_mem rfl (by simp)
              (inductionHypothesis child (by simp) innerTurned childAstray)
          · exact strays_of_mem rfl (by simp) childAstray
      · next pattern shape =>
          cases shape
          obtain ⟨inner, innerTurned, rfl⟩ := Option.map_eq_some_iff.mp turned
          obtain ⟨child, member, childAstray⟩ := exists_of_strays rfl isAstray rfl
          obtain rfl := List.mem_singleton.mp member
          exact strays_of_mem rfl (by simp)
            (inductionHypothesis child (by simp) innerTurned childAstray)
      · cases turned

/-- What is astray in parentheses is astray without them. -/
theorem strays_bare_of_strays
    {node : Node}
    {grade : Grade}
    (isAstray : node.strays grade) :
    node.bare.strays grade := by
  induction node using inductionOnChildren with
  | step form role span children inductionHypothesis =>
      unfold bare
      split
      · next inner shape =>
          cases shape
          exact inductionHypothesis inner (by simp) (strays_parenthesized.mp isAstray)
      · exact isAstray

/-- What is astray in the head of an arrow function is astray in one of its parameters. -/
theorem arrowHead?_strays
    {node : Node}
    {grade : Grade}
    {parameters : List Node}
    (turned : node.arrowHead? = some parameters)
    (isAstray : node.strays grade) :
    ∃ parameter ∈ parameters, parameter.strays .bare := by
  obtain ⟨items, itemsTurned, rest⟩ := Option.bind_eq_some_iff.mp turned
  obtain ⟨targets, targetsTurned, bindingsTurned⟩ := Option.bind_eq_some_iff.mp rest
  have below : ∃ item ∈ items, item.strays .bare := by
    unfold arrowItems? at itemsTurned
    split at itemsTurned
    · cases itemsTurned
      exact exists_of_strays rfl isAstray rfl
    · cases itemsTurned
      exact exists_of_strays rfl (strays_parenthesized.mp isAstray) rfl
    · next inner _ =>
        cases itemsTurned
        have innerAstray := strays_bare (strays_parenthesized.mp isAstray)
        refine ⟨_, List.mem_singleton.mpr rfl, ?_⟩
        split
        · exact strays_bare_of_strays innerAstray
        · exact innerAstray
    · cases itemsTurned
      exact ⟨_, List.mem_singleton.mpr rfl, strays_bare isAstray⟩
    · cases itemsTurned
  obtain ⟨item, itemMember, itemAstray⟩ := below
  obtain ⟨target, targetMember, targeted⟩ := exists_target_of_mem targetsTurned itemMember
  obtain ⟨binding, bindingMember, bound⟩ := exists_binding_of_mem bindingsTurned targetMember
  exact ⟨binding, bindingMember, binding?_strays bound (target?_strays targeted itemAstray)⟩

end Reactivity.Script.Node
