import Mathlib.Data.List.Basic
import Reactivity.Proofs.Script.Stack

namespace Reactivity.Script

/-!
# The loop over a function body

The statements of a function body can be walked in place. A loop goes with an index through
the list, visits the statement there, and puts the statement that is waiting behind it, if
there is one, before it goes on behind both. The list grows under the loop, and what is
inserted depends on the rule. Nevertheless the loop makes one round for each statement that
was there at first, and ends: what it has not visited is always the rest of these.

A rule that changes no nodes only lets bodies grow, by at most one statement behind each of
their statements.
-/

/-- The decision changes nothing about the node. -/
def Flow.KeepsNode
    (node : Node) :
    Flow →
    Prop
  | .skip image => image = node
  | .descend edit => edit = id
  | .insertAfter _ => True

/-- The rule changes no node, whatever else it decides. -/
def Rule.KeepsNodes
    {state : Type}
    (rule : Rule state) :
    Prop :=
  ∀ ancestors node own, (rule.enter ancestors node own).1.KeepsNode node

mutual

/-- The second node is the first one with statements inserted into bodies. -/
inductive Grows : Node → Node → Prop
  | mk
      {form : Form}
      {children images : List Node}
      (role : Role)
      (span : Span)
      (below : GrowsBelow form children images) :
      Grows (.mk form role span children) (.mk form role span images)

/-- The same below a node, where behind each statement of a body one more may stand. -/
inductive GrowsBelow : Form → List Node → List Node → Prop
  | nil
      (form : Form) :
      GrowsBelow form [] []
  | kept
      {form : Form}
      {node image : Node}
      {nodes images : List Node}
      (grows : Grows node image)
      (others : GrowsBelow form nodes images) :
      GrowsBelow form (node :: nodes) (image :: images)
  | inserted
      {form : Form}
      {node image : Node}
      {nodes images : List Node}
      (isBody : Rule.isBody form)
      (statement : Node)
      (grows : Grows node image)
      (others : GrowsBelow form nodes images) :
      GrowsBelow form (node :: nodes) (image :: statement :: images)

end

/-- A node may stay as it is. -/
theorem Grows.refl
    (node : Node) :
    Grows node node := by
  induction node using Node.inductionOnChildren with
  | step form role span children inductionHypothesis =>
      have below (nodes : List Node) (each : ∀ node ∈ nodes, Grows node node) :
          GrowsBelow form nodes nodes := by
        induction nodes with
        | nil => exact .nil form
        | cons node rest restHypothesis =>
            exact .kept (each node List.mem_cons_self)
              (restHypothesis (fun other member => each other (List.mem_cons_of_mem _ member)))
      exact .mk role span (below children inductionHypothesis)

namespace Rule

variable {state : Type} {rule : Rule state}

/-- If the walk of each of some nodes lets it grow, then so does the walk of all of them. -/
theorem growsBelow_of_each
    {ancestors : List Ancestor}
    {nodes : List Node}
    (each : ∀ node ∈ nodes, ∀ current, Grows node (rule.walkNode ancestors node current).1)
    (form : Form)
    (current : WalkState state) :
    GrowsBelow form nodes (rule.walkNodes form ancestors nodes current).1 := by
  induction nodes generalizing current with
  | nil =>
      exact .nil form
  | cons node rest inductionHypothesis =>
      have grows := each node List.mem_cons_self current
      have others := inductionHypothesis (fun other member =>
        each other (List.mem_cons_of_mem _ member))
      rw [walkNodes_cons]
      dsimp only
      unfold collect
      cases isBody : isBody form with
      | false =>
          exact .kept grows (others _)
      | true =>
          cases pending : (rule.walkNode ancestors node current).2.pending with
          | none => exact .kept grows (others _)
          | some statement => exact .inserted isBody statement grows (others _)

/-- A rule that changes no node only lets nodes grow. -/
theorem KeepsNodes.grows
    (keeps : rule.KeepsNodes)
    (node : Node)
    (ancestors : List Ancestor)
    (current : WalkState state) :
    Grows node (rule.walkNode ancestors node current).1 := by
  induction node using Node.inductionOnChildren generalizing ancestors current with
  | step form role span children inductionHypothesis =>
      have below (ancestors : List Ancestor) (current : WalkState state) :=
        growsBelow_of_each (fun child member current =>
          inductionHypothesis child member ancestors current) form current
      cases stop : StopKind.ofForm? form with
      | none =>
          rw [walkNode_of_noStop rule stop]
          exact .mk role span (below _ _)
      | some kind =>
          have kept := keeps ancestors (.mk form role span children) current.own
          rcases asked : rule.enter ancestors (.mk form role span children) current.own with
            ⟨image | edit | statement, own⟩
          · rw [asked] at kept
            simp only [walkNode, stop, asked]
            exact kept ▸ Grows.refl _
          · rw [asked] at kept
            simp only [walkNode, stop, asked]
            exact kept ▸ .mk role span (below _ _)
          · simp only [walkNode, stop, asked]
            exact .mk role span (below _ _)

end Rule

/-- A statement of a body that is walked in place, and where it comes from. -/
structure BodyEntry where
  /-- The number of the statement in the body at first; an inserted one has none. -/
  origin : Option Nat
  node : Node

namespace BodyEntry

/-- A statement that was inserted. -/
def ofInserted
    (statement : Node) :
    BodyEntry where
  origin := none
  node := statement

/-- The statements of a body at first. -/
def ofStatements
    (statements : List Node) :
    List BodyEntry :=
  statements.zipIdx.map (fun numbered => { origin := some numbered.2, node := numbered.1 })

theorem map_node_ofStatements
    (statements : List Node) :
    (ofStatements statements).map node = statements := by
  rw [ofStatements, List.map_map]
  exact List.zipIdx_map_fst 0 statements

end BodyEntry

/-- The second list is the first one with at most one inserted statement behind each entry. -/
inductive EntriesGrow : List BodyEntry → List BodyEntry → Prop
  | nil : EntriesGrow [] []
  | kept
      {node image : Node}
      {entries later : List BodyEntry}
      (origin : Option Nat)
      (grows : Grows node image)
      (others : EntriesGrow entries later) :
      EntriesGrow ({ origin, node } :: entries) ({ origin, node := image } :: later)
  | inserted
      {node image : Node}
      {entries later : List BodyEntry}
      (origin : Option Nat)
      (statement : Node)
      (grows : Grows node image)
      (others : EntriesGrow entries later) :
      EntriesGrow ({ origin, node } :: entries)
        ({ origin, node := image } :: .ofInserted statement :: later)

/-- Where the loop over a body stands. -/
structure BodyLoop (state : Type) where
  /-- The statements that are in the body now. -/
  entries : List BodyEntry
  /-- The number of the statement to visit next. -/
  index : Nat
  current : StackState state
  /-- The statements that were visited, as they were then. -/
  visited : List BodyEntry := []

namespace Rule

variable {state : Type} (rule : Rule state)

/-- A round of the loop, as long as the index is in the list. -/
def bodyRound?
    (loop : BodyLoop state) :
    Option (BodyLoop state) :=
  loop.entries[loop.index]?.map (fun entry =>
    let (image, left) := rule.stackNode entry.node loop.current
    let entries := loop.entries.set loop.index { entry with node := image }
    let visited := loop.visited ++ [entry]
    match left.carried.pending with
    | none => { entries, index := loop.index + 1, current := left, visited }
    | some statement =>
        { entries := entries.insertIdx (loop.index + 1) (.ofInserted statement)
          index := loop.index + 2
          current := { left with carried.pending := none }
          visited })

/-- Some rounds of the loop. -/
def bodyRounds? :
    Nat →
    BodyLoop state →
    Option (BodyLoop state)
  | 0, loop => some loop
  | count + 1, loop => (rule.bodyRound? loop).bind (bodyRounds? count)

/-- What stands in the place of an entry after its visit, and what is carried on. -/
def visitEntry
    (entry : BodyEntry)
    (current : StackState state) :
    List BodyEntry × StackState state :=
  let (image, left) := rule.stackNode entry.node current
  ({ entry with node := image } :: left.carried.pending.toList.map .ofInserted,
    { left with carried.pending := none })

/-- Inserting behind a part of a list. -/
theorem insertIdx_length_append
    {α : Type}
    (front rest : List α)
    (item : α) :
    (front ++ rest).insertIdx front.length item = front ++ item :: rest := by
  induction front with
  | nil => rfl
  | cons first front inductionHypothesis => exact congrArg (first :: ·) inductionHypothesis

/-- A round visits the entry at the index, and goes on behind what stands in its place. -/
theorem bodyRound?_eq
    (front rest : List BodyEntry)
    (entry : BodyEntry)
    (current : StackState state)
    (visited : List BodyEntry) :
    rule.bodyRound?
        { entries := front ++ entry :: rest, index := front.length, current, visited } =
      some
        { entries := front ++ (rule.visitEntry entry current).1 ++ rest
          index := (front ++ (rule.visitEntry entry current).1).length
          current := (rule.visitEntry entry current).2
          visited := visited ++ [entry] } := by
  have here : (front ++ entry :: rest)[front.length]? = some entry := by simp
  have replaced (image : BodyEntry) :
      (front ++ entry :: rest).set front.length image = front ++ image :: rest := by simp
  have extended (image inserted : BodyEntry) :
      (front ++ image :: rest).insertIdx (front.length + 1) inserted =
        front ++ image :: inserted :: rest := by
    have split := insertIdx_length_append (front ++ [image]) rest inserted
    simpa using split
  unfold bodyRound? visitEntry
  rw [here, Option.map_some]
  dsimp only
  rw [replaced]
  rcases rule.stackNode entry.node current with ⟨image, ⟨⟨own, _ | statement⟩, stack⟩⟩
  · simp
  · simp [extended]

variable {rule}

/-- Behind a visited entry stands at most one inserted statement. -/
theorem KeepsNodes.entriesGrow_cons
    (keeps : rule.KeepsNodes)
    (entry : BodyEntry)
    (current : StackState state)
    {rest images : List BodyEntry}
    (others : EntriesGrow rest images) :
    EntriesGrow (entry :: rest) ((rule.visitEntry entry current).1 ++ images) := by
  obtain ⟨carried, stack⟩ := current
  have grows := keeps.grows entry.node stack carried
  rw [visitEntry, stackNode_eq]
  dsimp only
  cases (rule.walkNode stack entry.node carried).2.pending with
  | none => exact .kept entry.origin grows others
  | some statement => exact .inserted entry.origin statement grows others

/-- The walk of a body visits its first statement and goes on with the others. -/
theorem stackNodes_of_entry
    {form : Form}
    (isBody : isBody form)
    {entry : BodyEntry}
    {nodes images : List Node}
    {current later : StackState state}
    (walked : rule.stackNodes form nodes (rule.visitEntry entry current).2 = (images, later)) :
    rule.stackNodes form (entry.node :: nodes) current =
      ((rule.visitEntry entry current).1.map BodyEntry.node ++ images, later) := by
  have nodesInserted (statement : Option Node) :
      (statement.toList.map BodyEntry.ofInserted).map BodyEntry.node = statement.toList := by
    rw [List.map_map]
    exact List.map_id _
  have collected (carried : WalkState state) :
      collect form carried = (carried.pending.toList, { carried with pending := none }) :=
    if_pos isBody
  rw [visitEntry] at walked
  rw [stackNodes, visitEntry]
  generalize rule.stackNode entry.node current = visited at walked ⊢
  obtain ⟨image, left⟩ := visited
  dsimp only at walked ⊢
  rw [collected, walked, List.map_cons, nodesInserted]

/-- After the visits of some entries their list is behind the loop, whatever was inserted. -/
theorem bodyRounds?_eq
    (keeps : rule.KeepsNodes)
    {form : Form}
    (isBody : isBody form)
    (entries front : List BodyEntry)
    (current : StackState state)
    (visited : List BodyEntry) :
    ∃ images later,
      rule.bodyRounds? entries.length
          { entries := front ++ entries, index := front.length, current, visited } =
        some
          { entries := front ++ images
            index := (front ++ images).length
            current := later
            visited := visited ++ entries } ∧
      EntriesGrow entries images ∧
      rule.stackNodes form (entries.map BodyEntry.node) current =
        (images.map BodyEntry.node, later) := by
  induction entries generalizing front current visited with
  | nil =>
      exact ⟨[], current, by simp [bodyRounds?], .nil, rfl⟩
  | cons entry rest inductionHypothesis =>
      obtain ⟨images, later, rounds, grow, walked⟩ :=
        inductionHypothesis (front ++ (rule.visitEntry entry current).1)
          (rule.visitEntry entry current).2 (visited ++ [entry])
      refine ⟨(rule.visitEntry entry current).1 ++ images, later, ?_,
        keeps.entriesGrow_cons entry current grow, ?_⟩
      · rw [List.length_cons, bodyRounds?, bodyRound?_eq, Option.bind_some, rounds]
        simp
      · rw [List.map_cons, stackNodes_of_entry isBody walked, List.map_append]

/-- The loop at the start of a body, with the label of the body on the stack. -/
def bodyStart
    (statements : List Node)
    (before : StackState state) :
    BodyLoop state where
  entries := BodyEntry.ofStatements statements
  index := 0
  current := before.push [.functionBody]

/--
The loop over a function body ends after one round for each statement that was there at first.

It visits exactly these, in their order and as they were, and no statement that was inserted.
In the end the body holds them in their order, grown by what was inserted inside of them, with
at most one inserted statement directly behind each. This is what a walk makes of the body. The
stack is the same as before.
-/
theorem bodyLoop_visits_originals
    (keeps : rule.KeepsNodes)
    (directives : List String)
    (role : Role)
    (span : Span)
    (statements : List Node)
    (before : StackState state) :
    ∃ last,
      rule.bodyRounds? statements.length (bodyStart statements before) = some last ∧
      rule.bodyRound? last = none ∧
      last.visited = BodyEntry.ofStatements statements ∧
      EntriesGrow (BodyEntry.ofStatements statements) last.entries ∧
      (last.current.pop [.functionBody]).stack = before.stack ∧
      rule.stackNode (.mk (.body directives) role span statements) before =
        (.mk (.body directives) role span (last.entries.map BodyEntry.node),
          last.current.pop [.functionBody]) ∧
      rule.walkNode before.stack (.mk (.body directives) role span statements) before.carried =
        (.mk (.body directives) role span (last.entries.map BodyEntry.node),
          last.current.carried) := by
  have isBody : isBody (.body directives) := rfl
  obtain ⟨images, later, rounds, grow, walked⟩ :=
    bodyRounds?_eq keeps isBody (BodyEntry.ofStatements statements) []
      (before.push [.functionBody]) []
  rw [BodyEntry.map_node_ofStatements] at walked
  have onStack :
      rule.stackNode (.mk (.body directives) role span statements) before =
        (.mk (.body directives) role span (images.map BodyEntry.node),
          later.pop [.functionBody]) := by
    have opened :
        rule.stackNode (.mk (.body directives) role span statements) before =
          let below := rule.stackNodes (.body directives) statements (before.push [.functionBody])
          (.mk (.body directives) role span below.1, below.2.pop [.functionBody]) :=
      rfl
    rw [opened, walked]
  obtain ⟨image, left⟩ :=
    Prod.mk.inj (onStack.symm.trans (stackNode_eq _ before.stack before.carried))
  refine ⟨⟨images, images.length, later, BodyEntry.ofStatements statements⟩, ?_, ?_, rfl, grow, ?_,
    onStack, ?_⟩
  · have count : (BodyEntry.ofStatements statements).length = statements.length := by
      rw [← List.length_map BodyEntry.node, BodyEntry.map_node_ofStatements]
    rw [← count]
    exact rounds
  · simp [bodyRound?]
  · rw [left]
  · exact Prod.ext image.symm (congrArg StackState.carried left).symm

/-- Insert a statement after every await, and do not visit arrow functions. -/
def afterAwaits
    (statement : Node) :
    Rule Nat where
  enter := fun _ node count =>
    match StopKind.ofForm? node.form with
    | some .await => (.insertAfter statement, count + 1)
    | some .arrow => (.skip node, count)
    | _ => (.descend id, count)

theorem keepsNodes_afterAwaits
    (statement : Node) :
    (afterAwaits statement).KeepsNodes := by
  intro ancestors node count
  unfold afterAwaits
  dsimp only
  split
  · trivial
  · rfl
  · rfl

/-- The statement of a name. -/
def nameStatement : Node :=
  .mk .expressionStatement .statement .none [.mk (.identifier "x") .expression .none []]

/-- The statement of an await. -/
def awaitStatement : Node :=
  .mk .expressionStatement .statement .none
    [.mk .awaiting .expression .none [.mk (.identifier "x") .expression .none []]]

/-- A walk that comes to a body with a statement waiting. -/
def waitingWalk : StackState Nat where
  carried := { own := 0, pending := some nameStatement }
  stack := [.function true true]

/-- The statement that waits is claimed by the first round, the others by the awaits. -/
theorem bodyLoop_visits_originals_awaits :
    (afterAwaits nameStatement).KeepsNodes ∧
      ∃ last,
        (afterAwaits nameStatement).bodyRounds? 4
            (bodyStart [nameStatement, awaitStatement, nameStatement, awaitStatement] waitingWalk) =
          some last ∧
        (afterAwaits nameStatement).bodyRound? last = none ∧
        last.visited.map BodyEntry.origin = [some 0, some 1, some 2, some 3] ∧
        last.entries.map BodyEntry.origin = [some 0, none, some 1, none, some 2, some 3, none] := by
  have keeps := keepsNodes_afterAwaits nameStatement
  obtain ⟨last, rounds, ends, visited, _⟩ :=
    bodyLoop_visits_originals keeps [] .part .none
      [nameStatement, awaitStatement, nameStatement, awaitStatement] waitingWalk
  have origins :
      ((afterAwaits nameStatement).bodyRounds? 4
            (bodyStart [nameStatement, awaitStatement, nameStatement, awaitStatement]
              waitingWalk)).map (fun loop => loop.entries.map BodyEntry.origin) =
        some [some 0, none, some 1, none, some 2, some 3, none] :=
    rfl
  refine ⟨keeps, last, rounds, ends, by rw [visited]; rfl, ?_⟩
  rw [List.length_cons, List.length_cons, List.length_cons, List.length_singleton] at rounds
  rw [rounds] at origins
  exact Option.some.inj origins

end Rule

end Reactivity.Script
