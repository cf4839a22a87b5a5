import Mathlib.Data.List.Chain
import Mathlib.Data.List.Induction
import Reactivity.Proofs.Script.Reading
import Reactivity.Proofs.Script.Visit

namespace Reactivity.Script

/-!
# Parents

A rule asks for the innermost label of a chain to learn what the parent of a node is. That
is right as long as the parent has a label. A node without one hides: what it holds has
the chain that the node itself has.

Parts of expressions and statements have no label, and an await has none either. So the
innermost label is that of the nearest labelled node, with parts and awaits in between.
In front of a call these are awaits and one spread at most, and in front of an expression
statement they are awaits.
-/

namespace Node

/-- The first node is held by the second one. -/
def IsChildOf
    (child parent : Node) :
    Prop :=
  child ∈ parent.children

/-- All that the node holds are expressions. -/
def HoldsExpressions
    (node : Node) :
    Prop :=
  ∀ child ∈ node.children, child.role = .expression

variable {node : Node}

theorem labels_eq_nil_or
    (node : Node) :
    node.labels = [] ∨ ∃ label, node.labels = [label] := by
  obtain ⟨form, role, span, children⟩ := node
  unfold labels Ancestor.labels
  split <;> try (split <;> simp)
  all_goals simp

/-- A node without a label is an await or a part. -/
theorem hides_of_labels_eq_nil
    (unlabelled : node.labels = []) :
    node.form = .awaiting ∨ node.role = .part := by
  obtain ⟨form, role, span, children⟩ := node
  cases form <;> cases role <;> cases children <;> simp [labels, Ancestor.labels] at unlabelled ⊢

theorem form_of_labels_expressionStatement
    (labelled : node.labels = [.expressionStatement]) :
    node.form = .expressionStatement := by
  obtain ⟨form, role, span, children⟩ := node
  cases form <;> cases role <;> cases children <;> simp [labels, Ancestor.labels] at labelled ⊢

theorem form_of_labels_call
    {callee : Callee}
    (labelled : node.labels = [.call callee]) :
    ∃ isOptional, node.form = .call isOptional := by
  obtain ⟨form, role, span, children⟩ := node
  cases form <;> cases role <;> cases children <;> simp [labels, Ancestor.labels] at labelled ⊢

theorem holdsExpressions_of_fits
    (fits : node.isWellFormed)
    (holder :
      node.form = .awaiting ∨ node.form = .expressionStatement ∨
        ∃ isFollowed, node.form = .spread isFollowed) :
    node.HoldsExpressions := by
  obtain ⟨form, role, span, children⟩ := node
  have atRoot := (isWellFormed_mk.mp fits).1
  have single : children.map Node.role = [.expression] := by
    rcases holder with isForm | isForm | ⟨isFollowed, isForm⟩ <;> cases isForm
    · exact beq_iff_eq.mp (Bool.and_eq_true_iff.mp atRoot).2
    · exact beq_iff_eq.mp (Bool.and_eq_true_iff.mp atRoot).2
    · exact beq_iff_eq.mp atRoot
  obtain ⟨child, rfl, isExpression⟩ := List.map_eq_singleton_iff.mp single
  intro other member
  rw [List.mem_singleton.mp member, isExpression]

/-- Nodes without labels one below the other, below one that holds expressions, are awaits. -/
theorem areAwaits_of_isChain
    {nodes : List Node}
    {outermost : Node}
    (isChain : (nodes ++ [outermost]).IsChain IsChildOf)
    (unlabelled : ∀ node ∈ nodes, node.labels = [])
    (fit : ∀ node ∈ nodes, node.isWellFormed)
    (holds : outermost.HoldsExpressions) :
    ∀ node ∈ nodes, node.form = .awaiting := by
  induction nodes using List.reverseRecOn generalizing outermost with
  | nil =>
      simp
  | append_singleton inner outer inductionHypothesis =>
      have isMember : outer ∈ inner ++ [outer] := by simp
      rw [List.append_assoc, List.singleton_append, List.isChain_append_cons_cons] at isChain
      obtain ⟨innerChain, isChild, _⟩ := isChain
      have isAwait : outer.form = .awaiting :=
        (hides_of_labels_eq_nil (unlabelled outer isMember)).resolve_right (fun isPart => by
          rw [holds outer isChild] at isPart
          cases isPart)
      have below := inductionHypothesis innerChain
        (fun node member => unlabelled node (List.mem_append_left _ member))
        (fun node member => fit node (List.mem_append_left _ member))
        (holdsExpressions_of_fits (fit outer isMember) (.inl isAwait))
      intro node member
      rcases List.mem_append.mp member with member | member
      · exact below node member
      · rw [List.mem_singleton.mp member, isAwait]

/-- Nodes without labels one below the other, below a call, are awaits in at most one spread. -/
theorem areAwaits_of_isChain_call
    {nodes : List Node}
    {call : Node}
    {isOptional : Bool}
    (isCall : call.form = .call isOptional)
    (callFits : call.isWellFormed)
    (isChain : (nodes ++ [call]).IsChain IsChildOf)
    (unlabelled : ∀ node ∈ nodes, node.labels = [])
    (fit : ∀ node ∈ nodes, node.isWellFormed) :
    ∃ awaits, ∃ spread : Option Node,
      nodes = awaits ++ spread.toList ∧ (∀ node ∈ awaits, node.form = .awaiting) ∧
        ∀ node ∈ spread, ∃ isFollowed, node.form = .spread isFollowed := by
  rcases List.eq_nil_or_concat' nodes with rfl | ⟨inner, outer, rfl⟩
  · exact ⟨[], none, rfl, by simp, by simp⟩
  · have isMember : outer ∈ inner ++ [outer] := by simp
    rw [List.append_assoc, List.singleton_append, List.isChain_append_cons_cons] at isChain
    obtain ⟨innerChain, isChild, _⟩ := isChain
    have isCalled : outer.isCalled := by
      obtain ⟨form, role, span, children⟩ := call
      obtain rfl : form = .call isOptional := isCall
      exact List.all_eq_true.mp (isWellFormed_mk.mp callFits).1 outer isChild
    have innerAwaits (holds : outer.HoldsExpressions) : ∀ node ∈ inner, node.form = .awaiting :=
      areAwaits_of_isChain innerChain
        (fun node member => unlabelled node (List.mem_append_left _ member))
        (fun node member => fit node (List.mem_append_left _ member)) holds
    rcases isCalled_iff.mp isCalled with isExpression | isSpread
    · have isAwait : outer.form = .awaiting :=
        (hides_of_labels_eq_nil (unlabelled outer isMember)).resolve_right (fun isPart => by
          rw [isExpression] at isPart
          cases isPart)
      have areAwaits := innerAwaits (holdsExpressions_of_fits (fit outer isMember) (.inl isAwait))
      refine ⟨inner ++ [outer], none, by simp, fun node member => ?_, by simp⟩
      rcases List.mem_append.mp member with member | member
      · exact areAwaits node member
      · rw [List.mem_singleton.mp member, isAwait]
    · have areAwaits :=
        innerAwaits (holdsExpressions_of_fits (fit outer isMember) (.inr (.inr isSpread)))
      refine ⟨inner, some outer, rfl, areAwaits, fun node member => ?_⟩
      rw [Option.mem_some.mp member] at isSpread
      exact isSpread

/-- The innermost label of a chain is that of the nearest node with a label. -/
theorem exists_owner
    {nodes : List Node}
    {label : Ancestor}
    {others : List Ancestor}
    (labelled : nodes.flatMap labels = label :: others) :
    ∃ between owner outer,
      nodes = between ++ owner :: outer ∧ (∀ node ∈ between, node.labels = []) ∧
        owner.labels = [label] ∧ outer.flatMap labels = others := by
  induction nodes with
  | nil =>
      cases labelled
  | cons node rest inductionHypothesis =>
      rw [List.flatMap_cons] at labelled
      rcases labels_eq_nil_or node with unlabelled | ⟨own, isLabelled⟩
      · rw [unlabelled, List.nil_append] at labelled
        obtain ⟨between, owner, outer, rfl, areUnlabelled, isOwner, isRest⟩ :=
          inductionHypothesis labelled
        exact ⟨node :: between, owner, outer, rfl,
          List.forall_mem_cons.mpr ⟨unlabelled, areUnlabelled⟩, isOwner, isRest⟩
      · rw [isLabelled] at labelled
        obtain ⟨rfl, isRest⟩ := List.cons.inj labelled
        exact ⟨[], node, rest, rfl, by simp, isLabelled, isRest⟩

end Node

/-- A walk that comes to a node and goes on inside of it comes to the children. -/
theorem Moment.Leads.toChild
    {state : Type}
    {rule : Rule state}
    {moment target : Moment state}
    {opened : WalkState state}
    {earlier later : List Node}
    {node : Node}
    (leads : Leads rule moment target)
    (opens : target.opened? rule = some opened)
    (children : target.node.children = earlier ++ node :: later) :
    Leads rule moment (target.child rule opened earlier node) := by
  induction leads with
  | here moment =>
      exact .inside opens children (.here _)
  | inside opensOuter outer _ inductionHypothesis =>
      exact .inside opensOuter outer (inductionHypothesis opens children)

namespace Place

variable
  {nodes : List Node}
  {node : Node}
  {place : Place}

/-- A node and the nodes around it are one below the other. -/
theorem isChain_around
    (isNode : node? nodes place = some node) :
    (node :: around nodes place).IsChain Node.IsChildOf := by
  refine inductionOnWay (motive := fun place node =>
    (node :: around nodes place).IsChain Node.IsChildOf) ?_ ?_ isNode
  · intro index node isNode
    rw [around_singleton isNode]
    exact .singleton node
  · intro place parent index child isParent isChild inductionHypothesis
    rw [around_append_singleton isParent isChild]
    exact .cons_cons (List.mem_of_getElem? isChild) inductionHypothesis

/-- In well-formed trees a node and the nodes around it are well formed. -/
theorem around_isWellFormed
    (fit : ∀ node ∈ nodes, node.isWellFormed)
    (isNode : node? nodes place = some node) :
    ∀ inner ∈ node :: around nodes place, inner.isWellFormed := by
  refine inductionOnWay (motive := fun place node =>
    ∀ inner ∈ node :: around nodes place, inner.isWellFormed) ?_ ?_ isNode
  · intro index node isNode
    rw [around_singleton isNode]
    simpa using fit node (List.mem_of_getElem? isNode)
  · intro place parent index child isParent isChild inductionHypothesis
    rw [around_append_singleton isParent isChild]
    refine List.forall_mem_cons.mpr ⟨?_, inductionHypothesis⟩
    obtain ⟨form, role, span, children⟩ := parent
    have parentFits := inductionHypothesis _ List.mem_cons_self
    exact (Node.isWellFormed_mk.mp parentFits).2 child (List.mem_of_getElem? isChild)

theorem chain_append_singleton
    {parent child : Node}
    {index : Nat}
    (isParent : node? nodes place = some parent)
    (isChild : parent.children[index]? = some child) :
    chain nodes (place ++ [index]) = parent.labels ++ chain nodes place := by
  rw [chain, around_append_singleton isParent isChild, List.flatMap_cons, chain]

/-- A moment that comes from a moment at a place is at a place inside of it. -/
theorem exists_of_leads
    {state : Type}
    {rule : Rule state}
    {moment target : Moment state}
    (leads : Moment.Leads rule moment target)
    (place : Place)
    (isNode : node? nodes place = some moment.node)
    (isChain : chain nodes place = moment.ancestors) :
    ∃ inner, node? nodes inner = some target.node ∧ chain nodes inner = target.ancestors := by
  induction leads generalizing place with
  | here moment =>
      exact ⟨place, isNode, isChain⟩
  | @inside moment target opened earlier later child _ children _ inductionHypothesis =>
      have isChild : moment.node.children[earlier.length]? = some child := by
        simp [children]
      refine inductionHypothesis (place ++ [earlier.length]) ?_ ?_
      · rw [node?_append_singleton isNode, isChild]
        rfl
      · rw [chain_append_singleton isNode isChild, isChain]
        rfl

/-- A walk comes to nodes at places of the trees, with the chains of these places. -/
theorem exists_of_visits
    {state : Type}
    {rule : Rule state}
    {first : state}
    {moment : Moment state}
    (visits : rule.Visits nodes first moment) :
    ∃ place, node? nodes place = some moment.node ∧ chain nodes place = moment.ancestors := by
  obtain ⟨earlier, statement, later, rfl, leads⟩ := visits
  have isStatement : (earlier ++ statement :: later)[earlier.length]? = some statement := by
    simp
  refine exists_of_leads leads [earlier.length] ?_ ?_
  · simp [node?, path?_cons]
  · rw [chain, around_singleton isStatement]
    rfl

/-- Where no node is skipped, a walk comes to every place. -/
theorem exists_visits
    {state : Type}
    {rule : Rule state}
    (opens : ∀ moment : Moment state, (moment.opened? rule).isSome)
    (first : state)
    (isNode : node? nodes place = some node) :
    ∃ moment,
      rule.Visits nodes first moment ∧ moment.node = node ∧
        moment.ancestors = chain nodes place := by
  refine inductionOnWay (motive := fun place node => ∃ moment,
    rule.Visits nodes first moment ∧ moment.node = node ∧
      moment.ancestors = chain nodes place) ?_ ?_ isNode
  · intro index node isNode
    obtain ⟨earlier, later, rfl⟩ := List.append_of_mem (List.mem_of_getElem? isNode)
    refine ⟨_, ⟨earlier, node, later, rfl, .here _⟩, rfl, ?_⟩
    rw [chain, around_singleton isNode]
    rfl
  · intro place parent index child isParent isChild inductionHypothesis
    obtain ⟨moment, ⟨before, statement, behind, rfl, leads⟩, rfl, isChain⟩ := inductionHypothesis
    obtain ⟨opened, isOpened⟩ := Option.isSome_iff_exists.mp (opens moment)
    obtain ⟨earlier, later, children⟩ := List.append_of_mem (List.mem_of_getElem? isChild)
    refine ⟨moment.child rule opened earlier child,
      ⟨before, statement, behind, rfl, leads.toChild isOpened children⟩, rfl, ?_⟩
    rw [chain_append_singleton isParent isChild, ← isChain]
    rfl

end Place

/-- Visits are noted everywhere if nothing is skipped. -/
theorem Visit.rule_opens
    (moment : Moment (List Visit)) :
    (moment.opened? (Visit.rule [])).isSome := by
  cases stop : StopKind.ofForm? moment.node.form <;>
    simp [Moment.opened?, Visit.rule_eq_noting, Rule.noting, stop]

/--
The innermost label of a chain is that of the nearest node with a label. Only awaits and
parts stand between: awaits if it is an expression statement, and awaits in at most one
spread if it is a call. If nothing stands between, the node is held by the labelled one.
-/
theorem visits_nearest_label
    {source : String}
    {program : Program}
    {state : Type}
    {rule : Rule state}
    {first : state}
    {moment : Moment state}
    {label : Ancestor}
    {others : List Ancestor}
    (isRead : readProgram source = .ok program)
    (visits : rule.Visits program.statements first moment)
    (labelled : moment.ancestors = label :: others) :
    ∃ place between owner outer,
      Place.node? program.statements place = some moment.node ∧
        Place.around program.statements place = between ++ owner :: outer ∧
        (moment.node :: between ++ [owner]).IsChain Node.IsChildOf ∧
        owner.labels = [label] ∧ outer.flatMap Node.labels = others ∧
        (∀ node ∈ between, node.form = .awaiting ∨ node.role = .part) ∧
        (label = .expressionStatement →
          owner.form = .expressionStatement ∧ ∀ node ∈ between, node.form = .awaiting) ∧
        (∀ callee, label = .call callee →
          (∃ isOptional, owner.form = .call isOptional) ∧
            ∃ awaits, ∃ spread : Option Node,
              between = awaits ++ spread.toList ∧ (∀ node ∈ awaits, node.form = .awaiting) ∧
                ∀ node ∈ spread, ∃ isFollowed, node.form = .spread isFollowed) := by
  obtain ⟨place, isNode, isChain⟩ := Place.exists_of_visits visits
  rw [labelled] at isChain
  obtain ⟨between, owner, outer, isAround, unlabelled, isOwner, isRest⟩ :=
    Node.exists_owner isChain
  have fit := Place.around_isWellFormed
    (fun statement member => (readProgram_stands isRead statement member).wellFormed) isNode
  have below := Place.isChain_around isNode
  rw [isAround] at fit below
  have toOwner : (between ++ [owner]).IsChain Node.IsChildOf := by
    have tail := below.tail
    rw [List.tail_cons, List.append_cons] at tail
    exact tail.left_of_append
  have betweenFit (node : Node) (member : node ∈ between) : node.isWellFormed :=
    fit node (by simp [member])
  have ownerFits : owner.isWellFormed := fit owner (by simp)
  refine ⟨place, between, owner, outer, isNode, isAround, ?_, isOwner, isRest,
    fun node member => Node.hides_of_labels_eq_nil (unlabelled node member), ?_, ?_⟩
  · rw [List.append_cons, ← List.cons_append] at below
    exact below.left_of_append
  · rintro rfl
    have isStatement := Node.form_of_labels_expressionStatement isOwner
    exact ⟨isStatement, Node.areAwaits_of_isChain toOwner unlabelled betweenFit
      (Node.holdsExpressions_of_fits ownerFits (.inr (.inl isStatement)))⟩
  · rintro callee rfl
    obtain ⟨isOptional, isCall⟩ := Node.form_of_labels_call isOwner
    exact ⟨⟨isOptional, isCall⟩,
      Node.areAwaits_of_isChain_call isCall ownerFits toOwner unlabelled betweenFit⟩

/-- The arrow function in this script is below a call, with an await between. -/
theorem visits_nearest_label_awaited :
    ∃ program, ∃ moment : Moment (List Visit), ∃ place between owner outer,
      readProgram "f(await (() => 1))" = .ok program ∧
        (Visit.rule []).Visits program.statements [] moment ∧
        moment.ancestors = [.call .other, .expressionStatement] ∧
        Place.around program.statements place = between ++ owner :: outer ∧
        (moment.node :: between ++ [owner]).IsChain Node.IsChildOf ∧
        (∃ isOptional, owner.form = .call isOptional) := by
  have checked :
      (readProgram "f(await (() => 1))").toOption.any (fun program =>
        (Place.node? program.statements [0, 0, 1, 0]).isSome &&
          Place.chain program.statements [0, 0, 1, 0] ==
            [.call .other, .expressionStatement]) := by
    decide +kernel
  obtain ⟨program, isRead, checked⟩ := Outcome.exists_of_any checked
  rw [Bool.and_eq_true, beq_iff_eq] at checked
  obtain ⟨isThere, isChain⟩ := checked
  obtain ⟨node, isNode⟩ := Option.isSome_iff_exists.mp isThere
  obtain ⟨moment, visits, _, ancestors⟩ := Place.exists_visits Visit.rule_opens [] isNode
  rw [isChain] at ancestors
  obtain ⟨place, between, owner, outer, _, isAround, below, _, _, _, _, called⟩ :=
    @visits_nearest_label "f(await (() => 1))" program _ _ _ moment _ _ isRead visits ancestors
  exact ⟨program, moment, place, between, owner, outer, isRead, visits, ancestors, isAround, below,
    (called .other rfl).1⟩

/-- The innermost label of the arrow function in this script is that of a call, and no call holds it. -/
theorem visits_call_of_awaited :
    ∃ program, ∃ moment : Moment (List Visit),
      readProgram "f(await (() => 1))" = .ok program ∧
        (Visit.rule []).Visits program.statements [] moment ∧
        StopKind.ofForm? moment.node.form = some .arrow ∧
        moment.ancestors = [.call .other, .expressionStatement] ∧
        ∀ place call isOptional,
          Place.node? program.statements place = some call → call.form = .call isOptional →
            moment.node ∉ call.children := by
  have checked :
      (readProgram "f(await (() => 1))").toOption.any (fun program =>
        (Place.node? program.statements [0, 0, 1, 0]).any (fun node =>
            StopKind.ofForm? node.form == some .arrow) &&
          Place.chain program.statements [0, 0, 1, 0] ==
            [.call .other, .expressionStatement] &&
          (Place.among program.statements).all (fun place =>
            (Place.node? program.statements place).all (fun node =>
              (node.form != .call false && node.form != .call true) ||
                node.children.all (fun child => StopKind.ofForm? child.form != some .arrow)))) := by
    decide +kernel
  obtain ⟨program, isRead, checked⟩ := Outcome.exists_of_any checked
  simp only [Bool.and_eq_true, Option.any_eq_true, beq_iff_eq, List.all_eq_true] at checked
  obtain ⟨⟨⟨node, isNode, isArrow⟩, isChain⟩, noArrow⟩ := checked
  obtain ⟨moment, visits, rfl, ancestors⟩ := Place.exists_visits Visit.rule_opens [] isNode
  rw [isChain] at ancestors
  refine ⟨program, moment, isRead, visits, isArrow, ancestors, ?_⟩
  intro place call isOptional isCall isForm member
  have atPlace := noArrow place (Place.mem_among_of_node? isCall)
  rw [isCall, Option.all_some, isForm, Bool.or_eq_true, List.all_eq_true] at atPlace
  rcases atPlace with noCall | noArrow
  · cases isOptional <;> cases noCall
  · exact bne_iff_ne.mp (noArrow _ member) isArrow

end Reactivity.Script
