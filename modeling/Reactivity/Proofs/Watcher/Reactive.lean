import Mathlib.Data.List.Basic
import Reactivity.Watcher.Reactive

namespace Reactivity.Reactive

open Script

/-!
# Accepted reactive statements

What a reactive statement that is accepted looks like, and which watcher is built of it from
the characters of the source. An assignment has a variable or a member as its target, and a
sequence has dependencies before its callback.
-/

/-- The source text of a node. -/
def sourceText
    (source : List Char)
    (node : Node) :
    String :=
  node.span.text source

/-- The form is that of a member of a value. -/
def isMember :
    Form →
    Bool
  | .member _ _ | .computedMember _ | .privateMember _ _ => true
  | _ => false

/-- The watcher of a function, with the texts of all nodes. -/
def trackedBy
    (source : List Char)
    (first last : Node)
    (dependencies : List Node)
    (callback : Node) :
    Reactive where
  watcher :=
    .tracked (dependencies.map (sourceText source))
      (Span.text ⟨first.span.start, last.span.stop⟩ source) (sourceText source callback)
  declares := none

/-- The statement is accepted, and its contribution is built of it. -/
inductive Accepted
    (source : List Char)
    (scope : Scope.Root) :
    Node →
    Reactive →
    Prop where
  | toVariable
      (role valueRole nameRole : Role)
      (span valueSpan nameSpan : Span)
      (name : String)
      (inner : List Node)
      (right : Node) :
      Accepted source scope
        (.mk .expressionStatement role span
          [.mk (.assignment .plain) valueRole valueSpan
            [.mk (.identifier name) nameRole nameSpan inner, right]])
        { watcher := .assigned name (sourceText source right)
          declares := if scope.variableSet.contains name then none else some name }
  | toMember
      (role valueRole : Role)
      (span valueSpan : Span)
      {left : Node}
      (right : Node)
      (isMember : isMember left.form) :
      Accepted source scope
        (.mk .expressionStatement role span
          [.mk (.assignment .plain) valueRole valueSpan [left, right]])
        { watcher := .assigned (sourceText source left) (sourceText source right)
          declares := none }
  | sequence
      (role valueRole : Role)
      (span valueSpan : Span)
      {dependencies : List Node}
      {callback first last : Node}
      (isFirst : dependencies.head? = some first)
      (isLast : dependencies.getLast? = some last) :
      Accepted source scope
        (.mk .expressionStatement role span
          [.mk .sequence valueRole valueSpan (dependencies ++ [callback])])
        (trackedBy source first last dependencies callback)

variable
  {source : List Char}
  {scope : Scope.Root}
  {reactive : Reactive}

/-- The texts of nodes are taken one after the other. -/
theorem mapM_takeText
    (nodes : List Node) :
    nodes.mapM (fun node => takeText source node.span) =
      .ok (nodes.map (sourceText source)) := by
  induction nodes with
  | nil => rfl
  | cons node rest inductionHypothesis =>
      rw [List.mapM_cons, inductionHypothesis]
      rfl

theorem tracked_takeText
    (first last : Node)
    (dependencies : List Node)
    (callback : Node) :
    tracked (takeText source) first last dependencies callback =
      .ok (trackedBy source first last dependencies callback) := by
  rw [tracked, mapM_takeText]
  rfl

theorem accepted_of_ofAssignment
    {operator : AssignmentOperator}
    {left right : Node}
    (built : ofAssignment (takeText source) scope operator left right = .ok reactive)
    (role valueRole : Role)
    (span valueSpan : Span) :
    Accepted source scope
      (.mk .expressionStatement role span
        [.mk (.assignment operator) valueRole valueSpan [left, right]])
      reactive := by
  unfold ofAssignment at built
  split at built
  · obtain ⟨⟨text, declares⟩, targeted, built⟩ := Outcome.bind_eq_ok.mp built
    obtain ⟨_, _, built⟩ := Outcome.bind_eq_ok.mp built
    cases built
    obtain ⟨form, leftRole, leftSpan, inner⟩ := left
    unfold target at targeted
    dsimp only [Node.form] at targeted
    cases form with
    | identifier =>
        cases targeted
        exact .toVariable ..
    | member | computedMember | privateMember =>
        cases targeted
        exact .toMember _ _ _ _ _ rfl
    | _ => cases targeted
  · cases built

theorem accepted_of_ofSequence
    {items : List Node}
    (built : ofSequence (takeText source) items = .ok reactive)
    (role valueRole : Role)
    (span valueSpan : Span) :
    Accepted source scope
      (.mk .expressionStatement role span [.mk .sequence valueRole valueSpan items])
      reactive := by
  unfold ofSequence at built
  split at built
  · cases built
  · next callback isLast =>
      dsimp only at built
      split at built
      · split at built
        · next first last isFirst isEnd =>
            obtain ⟨_, _, built⟩ := Outcome.bind_eq_ok.mp built
            rw [tracked_takeText] at built
            cases built
            have accepted := @Accepted.sequence source scope role valueRole span valueSpan _
              callback _ _ isFirst isEnd
            rwa [List.dropLast_append_getLast? callback isLast] at accepted
        · cases built
      · cases built

/-- A reactive statement with a contribution is accepted. -/
theorem accepted_of_ofBody
    {body : Node}
    (built : ofBody source scope body = .ok reactive) :
    Accepted source scope body reactive := by
  unfold ofBody ofStatement at built
  split at built
  · unfold ofExpression at built
    split at built
    · exact accepted_of_ofAssignment built _ _ _ _
    · exact accepted_of_ofSequence built _ _ _ _
    · cases built
  · cases built

/-- What an accepted sequence consists of. -/
theorem Accepted.exists_tracked
    {role valueRole : Role}
    {span valueSpan : Span}
    {items : List Node}
    (accepted :
      Accepted source scope
        (.mk .expressionStatement role span [.mk .sequence valueRole valueSpan items])
        reactive) :
    ∃ dependencies callback first last,
      items = dependencies ++ [callback] ∧ dependencies.head? = some first ∧
        dependencies.getLast? = some last ∧
          reactive = trackedBy source first last dependencies callback := by
  cases accepted with
  | sequence _ _ _ _ isFirst isLast => exact ⟨_, _, _, _, rfl, isFirst, isLast, rfl⟩

end Reactivity.Reactive
