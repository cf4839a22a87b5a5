import Reactivity.Proofs.Watcher.Bytes
import Reactivity.Proofs.Watcher.Reactive

namespace Reactivity

open Script

/-!
# Texts of watchers

The texts of a watcher are cut out of the source by the ranges of its nodes, and one of
them by a range that starts with one node and ends with another. If the reading of a script
keeps its promises about ranges, every cut is possible, and the text of the dependencies is
put together from the texts of each of them and what stands between.
-/

namespace Reactive

/-- A computation that cuts texts; it has no outcome if a text cannot be cut. -/
abbrev Cutting := ExceptT Failure Option

namespace Cutting

/-- Cut the text of a range. -/
def textOf
    (cut? : Span → Option String)
    (span : Span) :
    Cutting String :=
  ExceptT.lift (cut? span)

/-- The contribution of a reactive statement with this body, from texts that are cut. -/
def ofBody
    (cut? : Span → Option String)
    (scope : Scope.Root)
    (body : Node) :
    Cutting Reactive :=
  ofStatement (textOf cut?) scope body

/-- Every text can be cut, and this is the outcome. -/
def Yields
    {α : Type}
    (cutting : Cutting α)
    (outcome : Outcome α) :
    Prop :=
  cutting.run = some outcome

section

variable {α β : Type}

theorem Yields.pure
    (value : α) :
    Yields (Pure.pure value) (.ok value) :=
  rfl

theorem Yields.refuse
    (cause : Cause) :
    Yields (Reactive.refuse cause : Cutting α) (Reactive.refuse cause) :=
  rfl

/-- Of two computations in a row, both outcomes are there. -/
theorem Yields.bind
    {first : Cutting α}
    {next : α → Cutting β}
    {outcome : Outcome α}
    {rest : α → Outcome β}
    (yields : first.Yields outcome)
    (nextYields : ∀ value, outcome = .ok value → (next value).Yields (rest value)) :
    Yields (first >>= next) (outcome >>= rest) := by
  unfold Yields at yields nextYields ⊢
  rw [ExceptT.run_bind, yields]
  cases outcome with
  | error failure => rfl
  | ok value => exact nextYields value rfl

/-- Where the first of two computations has a value, the second has the outcome. -/
theorem Yields.onward
    {first : Cutting α}
    {next : α → Cutting β}
    {value : α}
    {outcome : Outcome β}
    (yields : first.Yields (.ok value))
    (nextYields : (next value).Yields outcome) :
    Yields (first >>= next) outcome := by
  unfold Yields at yields nextYields ⊢
  rw [ExceptT.run_bind, yields]
  exact nextYields

end

variable
  {cut? : Span → Option String}
  {source : List Char}
  {position : Nat → Nat}
  {scope : Scope.Root}

theorem textOf_yields
    {span : Span}
    {text : String}
    (isCut : cut? span = some text) :
    (textOf cut? span).Yields (.ok text) := by
  rw [Yields, textOf, isCut]
  rfl

/-- A range gives the same text when its positions are counted in another way. -/
def CutsAs
    (cut? : Span → Option String)
    (source : List Char)
    (position : Nat → Nat)
    (span : Span) :
    Prop :=
  cut? span = some ((span.map position).text source)

/-- The text of a node is cut where its range can be. -/
theorem textOf_node_yields
    {node : Node}
    (cuts : CutsAs cut? source position node.span) :
    (textOf cut? node.span).Yields (.ok (sourceText source (node.mapPositions position))) := by
  rw [sourceText, Node.span_mapPositions]
  exact textOf_yields cuts

/-- A value that never changes is blamed with its text. -/
theorem requireWatchable_yields
    {value : Node}
    (cuts : CutsAs cut? source position value.span) :
    Yields (requireWatchable (textOf cut?) value)
      (requireWatchable (takeText source) (value.mapPositions position)) := by
  unfold requireWatchable
  rw [Node.form_mapPositions]
  split
  · exact .pure ()
  · exact (textOf_node_yields cuts).onward (.refuse _)

/-- Values are required one after the other. -/
theorem forM_requireWatchable_yields
    {values : List Node}
    (cuts : ∀ value ∈ values, CutsAs cut? source position value.span) :
    Yields (values.forM (requireWatchable (textOf cut?)))
      ((values.map (Node.mapPositions position)).forM (requireWatchable (takeText source))) := by
  induction values with
  | nil => exact .pure ()
  | cons value rest inductionHypothesis =>
      rw [List.map_cons]
      exact (requireWatchable_yields (cuts value List.mem_cons_self)).bind (fun _ _ =>
        inductionHypothesis (fun value member => cuts value (List.mem_cons_of_mem _ member)))

/-- A target is named or cut. -/
theorem target_yields
    {node : Node}
    (cuts : CutsAs cut? source position node.span) :
    Yields (target (textOf cut?) scope node)
      (target (takeText source) scope (node.mapPositions position)) := by
  unfold target
  rw [Node.form_mapPositions]
  have text := textOf_node_yields cuts
  cases node.form with
  | identifier name => exact .pure _
  | member | computedMember | privateMember => exact text.onward (.pure _)
  | _ => exact text.onward (.refuse _)

/-- An assignment needs the texts of both sides. -/
theorem ofAssignment_yields
    {left right : Node}
    (operator : AssignmentOperator)
    (leftCuts : CutsAs cut? source position left.span)
    (rightCuts : CutsAs cut? source position right.span) :
    Yields (ofAssignment (textOf cut?) scope operator left right)
      (ofAssignment (takeText source) scope operator (left.mapPositions position)
        (right.mapPositions position)) := by
  cases operator with
  | plain =>
      refine (target_yields leftCuts).bind (fun _ _ => ?_)
      refine (requireWatchable_yields rightCuts).bind (fun _ _ => ?_)
      exact (textOf_node_yields rightCuts).onward (.pure _)
  | combined operator => exact .refuse _
  | guarded operator => exact .refuse _

/-- The texts of some nodes are cut one after the other. -/
theorem mapM_textOf_yields
    {nodes : List Node}
    (cuts : ∀ node ∈ nodes, CutsAs cut? source position node.span) :
    (nodes.mapM (fun node => textOf cut? node.span)).Yields
      (.ok ((nodes.map (Node.mapPositions position)).map (sourceText source))) := by
  induction nodes with
  | nil => exact .pure []
  | cons node rest inductionHypothesis =>
      rw [List.mapM_cons]
      have others :=
        inductionHypothesis (fun node member => cuts node (List.mem_cons_of_mem _ member))
      exact (textOf_node_yields (cuts node List.mem_cons_self)).onward (others.onward (.pure _))

/-- A watcher needs the texts of the dependencies, of all of them and of the callback. -/
theorem tracked_yields
    {first last callback : Node}
    {dependencies : List Node}
    (cuts : ∀ node ∈ dependencies, CutsAs cut? source position node.span)
    (sourceCuts : CutsAs cut? source position ⟨first.span.start, last.span.stop⟩)
    (callbackCuts : CutsAs cut? source position callback.span) :
    Yields (tracked (textOf cut?) first last dependencies callback)
      (tracked (takeText source) (first.mapPositions position) (last.mapPositions position)
        (dependencies.map (Node.mapPositions position)) (callback.mapPositions position)) := by
  rw [tracked_takeText]
  have sourceYields :
      (textOf cut? ⟨first.span.start, last.span.stop⟩).Yields
        (.ok
          (Span.text
            ⟨(first.mapPositions position).span.start, (last.mapPositions position).span.stop⟩
            source)) := by
    rw [Node.span_mapPositions, Node.span_mapPositions]
    exact textOf_yields sourceCuts
  exact (mapM_textOf_yields cuts).onward
    (sourceYields.onward ((textOf_node_yields callbackCuts).onward (.pure _)))

/-- A sequence needs the text of each item and that from the first to the last dependency. -/
theorem ofSequence_yields
    {items : List Node}
    (cuts : ∀ item ∈ items, CutsAs cut? source position item.span)
    (sourceCuts :
      ∀ first last,
        items.dropLast.head? = some first → items.dropLast.getLast? = some last →
          CutsAs cut? source position ⟨first.span.start, last.span.stop⟩) :
    Yields (ofSequence (textOf cut?) items)
      (ofSequence (takeText source) (items.map (Node.mapPositions position))) := by
  unfold ofSequence
  rw [List.getLast?_map]
  cases isLast : items.getLast? with
  | none => exact .refuse _
  | some callback =>
      have callbackCuts := cuts callback (List.mem_of_getLast? isLast)
      have dependenciesCut :
          ∀ item ∈ items.dropLast, CutsAs cut? source position item.span :=
        fun item member => cuts item ((List.dropLast_sublist items).subset member)
      dsimp only [Option.map_some]
      rw [Node.form_mapPositions, ← List.map_dropLast, List.head?_map, List.getLast?_map]
      cases isFunction callback.form with
      | false => exact (textOf_node_yields callbackCuts).onward (.refuse _)
      | true =>
          cases isFirst : items.dropLast.head? with
          | none => exact .refuse _
          | some first =>
              cases isEnd : items.dropLast.getLast? with
              | none => exact .refuse _
              | some last =>
                  exact (forM_requireWatchable_yields dependenciesCut).bind (fun _ _ =>
                    tracked_yields dependenciesCut (sourceCuts first last isFirst isEnd)
                      callbackCuts)

/--
All texts that the watcher of a statement can need are cut as characters: those of the
nodes, and that from the first to the last dependency of a sequence.
-/
structure CutsAllAs
    (cut? : Span → Option String)
    (source : List Char)
    (position : Nat → Nat)
    (body : Node) :
    Prop where
  nodes : ∀ node, body.Holds node → CutsAs cut? source position node.span
  sources :
    ∀ node first last,
      body.Holds node → node.form = .sequence → node.children.dropLast.head? = some first →
        node.children.dropLast.getLast? = some last →
          CutsAs cut? source position ⟨first.span.start, last.span.stop⟩

theorem ofExpression_yields
    {value : Node}
    (cuts : CutsAllAs cut? source position value) :
    Yields (ofExpression (textOf cut?) scope value)
      (ofExpression (takeText source) scope (value.mapPositions position)) := by
  have own := cuts.nodes value (.whole value)
  have refused :
      Yields (do refuse (.wrongReactive (← textOf cut? value.span)))
        (refuse (.wrongReactive (sourceText source (value.mapPositions position))) :
          Outcome Reactive) :=
    (textOf_node_yields own).onward (.refuse _)
  obtain ⟨form, role, span, children⟩ := value
  have childCuts (child : Node) (member : child ∈ children) :
      CutsAs cut? source position child.span :=
    cuts.nodes child (.inside member (.whole child))
  rw [Node.mapPositions_mk] at refused ⊢
  cases form with
  | assignment operator =>
      rcases children with _ | ⟨left, _ | ⟨right, _ | ⟨third, others⟩⟩⟩
      case cons.cons.nil =>
        exact ofAssignment_yields operator (childCuts left (by simp)) (childCuts right (by simp))
      all_goals exact refused
  | sequence =>
      exact ofSequence_yields childCuts (fun first last =>
        cuts.sources _ first last (.whole _) rfl)
  | _ => exact refused

/-- If all texts can be cut as characters, the outcome is that of the characters. -/
theorem ofBody_yields
    {body : Node}
    (cuts : CutsAllAs cut? source position body) :
    (ofBody cut? scope body).Yields
      (Reactive.ofBody source scope (body.mapPositions position)) := by
  obtain ⟨form, role, span, children⟩ := body
  rw [Node.mapPositions_mk]
  cases form with
  | expressionStatement =>
      rcases children with _ | ⟨value, _ | ⟨second, others⟩⟩
      case cons.nil =>
        refine ofExpression_yields ⟨fun node holds => ?_, fun node first last holds => ?_⟩
        · exact cuts.nodes node (.inside (by simp) holds)
        · exact cuts.sources node first last (.inside (by simp) holds)
      all_goals exact .refuse _
  | _ => exact .refuse _

end Cutting

end Reactive

end Reactivity
