import Reactivity.Proofs.Script.Single
import Reactivity.Proofs.Script.Twin.Operation

namespace Reactivity.Script

open Refresh Reader

/-!
# Expressions of twins

The only choice that is tried first and then given up is the head of an asynchronous arrow
function. Where the twin gives it up, it reads a call of a function named `async`, and that
counts as astray.
-/

/-- The cursor stands at no operator, and at no private name. -/
structure Cursor.StartsPlainly
    (cursor : Cursor) :
    Prop where
  noUnary : Grammar.unaryOperator? cursor = none
  noUpdate : Grammar.updateOperator? cursor = none
  noAwait : cursor.isAtWord "await" = false
  noPrivate : ∀ name, cursor.token ≠ .privateWord name

namespace Cursor

variable
  {cursor : Cursor}

theorem startsPlainly_of_word
    {word : String}
    (isWord : cursor.token = .word word false)
    (isOther : word ∉ ["typeof", "void", "delete", "await"]) :
    cursor.StartsPlainly := by
  simp only [List.mem_cons, List.not_mem_nil, or_false, not_or] at isOther
  obtain ⟨noTypeOf, noVoid, noDelete, noAwait⟩ := isOther
  refine ⟨?_, ?_, ?_, ?_⟩
  · simp [Grammar.unaryOperator?, UnaryOperator.all, UnaryOperator.isWord, UnaryOperator.symbol,
      isAt, isAtWord, isWord, noTypeOf, noVoid, noDelete]
  · simp [Grammar.updateOperator?, isAt, isWord]
  · simp [isAtWord, isWord, noAwait]
  · simp [isWord]

theorem startsPlainly_of_finish
    (atEnd : cursor.token = .finish) :
    cursor.StartsPlainly := by
  refine ⟨?_, ?_, ?_, ?_⟩
  · simp [Grammar.unaryOperator?, UnaryOperator.all, UnaryOperator.isWord, isAt, isAtWord, atEnd]
  · simp [Grammar.updateOperator?, isAt, atEnd]
  · simp [isAtWord, atEnd]
  · simp [atEnd]

end Cursor

namespace Grammar

/-- All that can stand behind the first access of an expression. -/
def readBehindAccess
    (grammar : Grammar)
    (context : Context)
    (start : Nat)
    (leftOpens : Bool)
    (node : Node) :
    Reader Node := do
  let first ← readUpdateBehind start node
  let condition ←
    repeated (grammar.readOperationStep context .lowest start leftOpens) grammar.bound first
  let left ← grammar.readChoiceBehind context start condition
  grammar.readAssignedBehind context start left

section Layers

variable
  {grammar : Grammar}
  {context : Context}
  {cursor stop last : Cursor}
  {node value : Node}

theorem run_readFirstOperand
    (plain : cursor.StartsPlainly) :
    (grammar.readFirstOperand context).run cursor =
      (grammar.readAccess context >>= readUpdateBehind cursor.start).run cursor := by
  have first : (grammar.readFirstOperand context).run cursor =
      (grammar.readOperand context).run cursor := by
    simp only [readFirstOperand, StateT.run_bind, run_cursor, Option.bind_eq_bind, Option.bind_some]
    split
    · next isPrivate => exact (plain.noPrivate _ isPrivate).elim
    · rfl
  rw [first, readOperand, StateT.run_bind, run_cursor]
  simp only [Option.bind_eq_bind, Option.bind_some, plain.noUnary, plain.noUpdate, plain.noAwait]
  rfl

/-- An expression that starts with no operator starts with an access. -/
theorem run_readAssigned
    (plain : cursor.StartsPlainly) :
    (grammar.readAssigned context).run cursor =
      (grammar.readAccess context >>=
        grammar.readBehindAccess context cursor.start (cursor.isAt "(")).run cursor := by
  rw [readAssigned_eq, readConditional_eq, readOperation_eq]
  simp only [StateT.run_bind, run_position, run_isAt, Option.bind_eq_bind, Option.bind_some,
    run_readFirstOperand plain, readBehindAccess, Option.bind_assoc]

/-- A repetition that ends with its first step. -/
theorem eq_of_run_repeated
    {state result : Type}
    {step : state → Reader (state ⊕ result)}
    {reached : state}
    {final returned : result}
    {bound : Nat}
    (ends : (step reached).run cursor = some (.inr final, stop))
    (ran : (repeated step bound reached).run cursor = some (returned, last)) :
    returned = final ∧ last = stop := by
  cases bound with
  | zero => cases ran
  | succ bound =>
      obtain ⟨_, _, stepRan, restRan⟩ := run_bind_eq_some.mp ran
      rw [ends] at stepRan
      cases stepRan
      cases restRan
      exact ⟨rfl, rfl⟩

/-- Before a token that ends an operand, nothing is made of an access. -/
theorem eq_of_run_readBehindAccess
    {start : Nat}
    {leftOpens : Bool}
    (ends : stop.token.endsOperand)
    (ran : (grammar.readBehindAccess context start leftOpens node).run stop = some (value, last)) :
    value = node ∧ last = stop := by
  obtain ⟨first, _, firstRan, afterUpdate⟩ := run_bind_eq_some.mp ran
  rw [run_readUpdateBehind ends] at firstRan
  cases firstRan
  obtain ⟨condition, _, conditionRan, afterOperation⟩ := run_bind_eq_some.mp afterUpdate
  obtain ⟨rfl, rfl⟩ := eq_of_run_repeated (run_readOperationStep ends _ _ _ _) conditionRan
  obtain ⟨left, _, leftRan, afterChoice⟩ := run_bind_eq_some.mp afterOperation
  rw [run_readChoiceBehind ends] at leftRan
  cases leftRan
  rw [run_readAssignedBehind ends] at afterChoice
  cases afterChoice
  exact ⟨rfl, rfl⟩

end Layers

/-- The name of the marker as it is read at a mark. -/
def markNode
    (cursor : Cursor) :
    Node :=
  .mk (.identifier markerName) .expression ⟨cursor.start, cursor.next.previousStop⟩ []

section Marks

variable
  {grammar : Grammar}
  {context : Context}
  {cursor stop : Cursor}
  {value : Node}

theorem readAccess_mark
    (atMark : cursor.AtMark)
    (ran : (grammar.readAccess context).run cursor = some (value, stop)) :
    value = markNode cursor ∧ stop = cursor.next := by
  have primary : (grammar.readPrimary context).run cursor = some (markNode cursor, cursor.next) :=
    run_readPrimary_of_name atMark.token (Carries.isName_markerName context)
      (by simp [Cursor.isAtWord, atMark.ends])
  have noAccess : cursor.next.token.isAccess = false := by
    rw [atMark.ends]
    rfl
  rw [readAccess, run_bind_eq_some] at ran
  obtain ⟨_, _, started, afterStart⟩ := ran
  cases started
  obtain ⟨first, _, firstRan, afterFirst⟩ := run_bind_eq_some.mp afterStart
  rw [primary] at firstRan
  cases firstRan
  obtain ⟨⟨node, isChain⟩, _, accessesRan, afterAccesses⟩ := run_bind_eq_some.mp afterFirst
  unfold Grammar.readAccesses at accessesRan
  obtain ⟨made, rfl⟩ := eq_of_run_repeated (run_readAccessStep noAccess _ _ _ _) accessesRan
  cases made
  cases afterAccesses
  exact ⟨rfl, rfl⟩

theorem readAssigned_mark
    (atMark : cursor.AtMark)
    (ran : (grammar.readAssigned context).run cursor = some (value, stop)) :
    value = markNode cursor ∧ stop = cursor.next := by
  have plain : cursor.StartsPlainly := Cursor.startsPlainly_of_word atMark.token (by decide)
  rw [run_readAssigned plain] at ran
  obtain ⟨node, _, accessRan, behindRan⟩ := run_bind_eq_some.mp ran
  obtain ⟨rfl, rfl⟩ := readAccess_mark atMark accessRan
  refine eq_of_run_readBehindAccess ?_ behindRan
  rw [atMark.ends]
  rfl

/-- Away from `yield` and `async`, an assignment starts with no head. -/
theorem run_readAssignment
    (noYield : cursor.isAtWord "yield" = false)
    (noAsync : cursor.isAtWord "async" = false) :
    (grammar.readAssignment context).run cursor = (grammar.readAssigned context).run cursor := by
  simp [readAssignment, StateT.run_bind, isAtAsyncArrow, readAsyncHead?, isAtAsyncHead, noYield,
    noAsync]

theorem readAssignment_mark
    (atMark : cursor.AtMark)
    (ran : (grammar.readAssignment context).run cursor = some (value, stop)) :
    value = markNode cursor ∧ stop = cursor.next := by
  rw [run_readAssignment (by rw [Cursor.isAtWord, atMark.token]; rfl)
    (by rw [Cursor.isAtWord, atMark.token]; rfl)] at ran
  exact readAssigned_mark atMark ran

theorem readExpression_mark
    (atMark : cursor.AtMark)
    (ran : (grammar.readExpression context).run cursor = some (value, stop)) :
    value = markNode cursor ∧ stop = cursor.next := by
  rw [readExpression, run_bind_eq_some] at ran
  obtain ⟨_, _, started, afterStart⟩ := ran
  cases started
  obtain ⟨first, _, firstRan, afterFirst⟩ := run_bind_eq_some.mp afterStart
  obtain ⟨rfl, rfl⟩ := readAssignment_mark atMark firstRan
  have noComma : cursor.next.isAt "," = false := by simp [Cursor.isAt, atMark.ends]
  simp only [StateT.run_bind, run_isAt, Option.bind_eq_bind, Option.bind_some, noComma]
    at afterFirst
  cases afterFirst
  exact ⟨rfl, rfl⟩

/-- An access at a parenthesis is a call. -/
theorem readAccessStep_call
    {start : Nat}
    {node : Node}
    {isChain : Bool}
    {reached : (Node × Bool) ⊕ (Node × Bool)}
    (opens : cursor.token = .symbol "(")
    (ran : (grammar.readAccessStep context start true (node, isChain)).run cursor =
      some (reached, stop)) :
    ∃ span values,
      reached = .inl (.mk (.call false) .expression span (node :: values), isChain) := by
  simp only [readAccessStep, StateT.run_bind, run_cursor, Option.bind_eq_bind, Option.bind_some,
    opens] at ran
  obtain ⟨⟨values, _⟩, _, made⟩ := Option.bind_eq_some_iff.mp ran
  cases made
  exact ⟨_, values, rfl⟩

/-- There is no expression at the end of a script. -/
theorem run_readExpression_of_finish
    (atEnd : cursor.token = .finish) :
    (grammar.readExpression context).run cursor = none := by
  have access : (grammar.readAccess context).run cursor = none := by
    simp [readAccess, readPrimary, StateT.run_bind, atEnd]
  have assignment : (grammar.readAssignment context).run cursor = none := by
    rw [run_readAssignment (by simp [Cursor.isAtWord, atEnd]) (by simp [Cursor.isAtWord, atEnd]),
      run_readAssigned (Cursor.startsPlainly_of_finish atEnd), StateT.run_bind, access]
    rfl
  simp [readExpression, StateT.run_bind, assignment]

end Marks

namespace Mirrors

variable
  {grammar marked : Grammar}
  {context : Context}
  {cursor markedCursor stop : Cursor}
  {value : Node}

/-- What stands behind the first access keeps what is astray in it. -/
theorem readBehindAccess
    (mirrors : grammar.Mirrors marked)
    (start markedStart : Nat)
    (leftOpens : Bool)
    {node markedNode : Node}
    (alike : node.unmarked = markedNode.unmarked)
    (cursor markedCursor : Cursor) :
    Carries .anywhere (markedNode.strays ·) .node cursor markedCursor
      (grammar.readBehindAccess context start leftOpens node)
      (marked.readBehindAccess context markedStart leftOpens markedNode) := by
  refine (readUpdateBehind start markedStart alike).handOn (fun first _ firstAlike _ _ => ?_)
  refine Carries.handOn (.loop .node .node
    (fun _ _ alike _ _ => mirrors.readOperationStep _ _ _ _ leftOpens alike) mirrors.bound
    firstAlike) (fun condition _ conditionAlike _ _ => ?_)
  exact (mirrors.readChoiceBehind _ _ _ conditionAlike).handOn
    (fun left _ leftAlike _ _ => mirrors.readAssignedBehind _ _ _ leftAlike)

/-- The accesses that start with a call of a function named `async`. -/
theorem readAccesses_async
    (mirrors : grammar.Mirrors marked)
    {start : Nat}
    {first : Node}
    {read : Node × Bool}
    (isAsync : first.name? = some "async")
    (opens : cursor.token = .symbol "(")
    (ran : (marked.readAccesses context start true first).run cursor = some (read, stop)) :
    read.1.strays .deep := by
  unfold Grammar.readAccesses at ran
  generalize marked.bound = bound at ran
  cases bound with
  | zero => cases ran
  | succ bound =>
      obtain ⟨reached, between, stepRan, restRan⟩ := run_bind_eq_some.mp ran
      obtain ⟨span, values, rfl⟩ := readAccessStep_call opens stepRan
      have isCall : (View.node.with' Bool).soiled .deep
          (Node.mk (.call false) .expression span (first :: values), false) := by
        refine Node.strays_mk.mpr (.inl ?_)
        rw [Form.strays, List.head?_cons, Option.any_some, isAsync]
        rfl
      have goesOn (reached : Node × Bool) :
          Carries .anywhere ((View.node.with' Bool).soiled · reached) (View.node.with' Bool) cursor
            cursor (repeated (grammar.readAccessStep context start true) bound reached)
            (repeated (marked.readAccessStep context start true) bound reached) :=
        .loop _ _ (fun _ _ alike _ _ => mirrors.readAccessStep context start start true alike)
          (Nat.le_refl bound) ((View.node.with' Bool).refl _)
      exact (goesOn _).keeps isCall restRan

/-- An access that starts with a call of a function named `async`. -/
theorem readAccess_async
    (mirrors : grammar.Mirrors marked)
    (isAsync : cursor.token = .word "async" false)
    (opens : cursor.next.token = .symbol "(")
    (ran : (marked.readAccess context).run cursor = some (value, stop)) :
    value.strays .deep := by
  have isName : isName context "async" := by simp [Script.isName, reservedWords]
  rw [Grammar.readAccess, run_bind_eq_some] at ran
  obtain ⟨_, _, started, afterStart⟩ := ran
  cases started
  obtain ⟨first, _, firstRan, afterFirst⟩ := run_bind_eq_some.mp afterStart
  rw [run_readPrimary_of_name isAsync isName (by simp [Cursor.isAtWord, opens])] at firstRan
  cases firstRan
  obtain ⟨⟨node, isChain⟩, _, accessesRan, afterAccesses⟩ := run_bind_eq_some.mp afterFirst
  have isAstray := mirrors.readAccesses_async rfl opens accessesRan
  cases isChain with
  | true =>
      cases afterAccesses
      refine Node.strays_of_mem rfl List.mem_cons_self ?_
      rw [Node.strays_withRole]
      exact Node.strays_bare isAstray
  | false =>
      cases afterAccesses
      exact isAstray

theorem readAssigned_async
    (mirrors : grammar.Mirrors marked)
    (isAsync : cursor.token = .word "async" false)
    (opens : cursor.next.token = .symbol "(")
    (ran : (marked.readAssigned context).run cursor = some (value, stop)) :
    value.strays .deep := by
  rw [run_readAssigned (Cursor.startsPlainly_of_word isAsync (by decide))] at ran
  obtain ⟨node, between, accessRan, behindRan⟩ := run_bind_eq_some.mp ran
  have isAstray := mirrors.readAccess_async isAsync opens accessRan
  exact (mirrors.readBehindAccess cursor.start _ _ rfl cursor cursor).keeps isAstray behindRan

/-- The head of an asynchronous arrow function up to its arrow. -/
theorem readAsyncHead
    (mirrors : grammar.Mirrors marked)
    (context : Context) :
    Reads .inside (.list .node) cursor markedCursor (grammar.readAsyncHead context)
      (marked.readAsyncHead context) := by
  refine .advance (fun _ _ => ?_)
  refine (mirrors.readParameters _).enter.bind (fun parameters _ alike _ _ => ?_)
  refine .look (fun stop markedStop => .require (fun paired isThere => ?_) (.pure alike.2 ?_))
  · rw [Bool.and_eq_true] at isThere
    rcases paired with same | atMarker
    · rw [Bool.and_comm, same.isAt_eq, same.onLine_eq]
      · rw [isThere.1, isThere.2]
        rfl
      · intro atEnd
        simp [Cursor.isAt, atEnd] at isThere
    · rw [atMarker.marked_isAt] at isThere
      cases isThere.1
  · exact fun grade isLost => (isLost.resolve_left id).2

end Mirrors

section Heads

variable
  {cursor marked : Cursor}

theorem isAtAsyncArrow_eq
    (same : cursor.SameToken marked)
    (context : Context) :
    isAtAsyncArrow cursor context = isAtAsyncArrow marked context := by
  simp only [isAtAsyncArrow, same.isAtWord_eq, Bool.and_assoc]
  congr 1
  rcases same.next with nextSame | nextMarker
  · have sameArrow : cursor.next.next.isAt "=>" = marked.next.next.isAt "=>" := by
      rcases nextSame.next with laterSame | laterMarker
      · exact laterSame.isAt_eq _
      · rw [laterMarker.isAt (by decide), laterMarker.marked_isAt]
    rw [nextSame.name?_eq, sameArrow, nextSame.onLine_eq]
    intro atEnd
    simp [Cursor.name?, atEnd]
  · simp [nextMarker.newLine, nextMarker.markedNewLine]

theorem isAtAsyncHead_eq
    (same : cursor.SameToken marked) :
    isAtAsyncHead cursor = isAtAsyncHead marked := by
  rw [isAtAsyncHead, isAtAsyncHead, same.isAtWord_eq]
  rcases same.next with nextSame | nextMarker
  · rw [Bool.and_assoc, Bool.and_assoc, Bool.and_comm _ (!_), Bool.and_comm _ (!_),
      nextSame.isAt_eq, nextSame.onLine_eq]
    intro atEnd
    simp [Cursor.isAt, atEnd]
  · simp [nextMarker.newLine, nextMarker.markedNewLine]

/-- What stands in the parentheses of a head is looked at alike in twins. -/
theorem isEmptyHead_eq
    (paired : cursor.Paired marked) :
    (cursor.isAt ")" && cursor.next.isAt "\x7b") =
      (marked.isAt ")" && marked.next.isAt "\x7b") := by
  rcases paired with same | atMarker
  · rw [same.isAt_eq]
    rcases same.next with nextSame | nextMarker
    · rw [nextSame.isAt_eq]
    · rw [nextMarker.isAt (by decide), nextMarker.marked_isAt]
  · rw [atMarker.isAt (by decide), atMarker.marked_isAt, Bool.false_and, Bool.false_and]

end Heads

/-- An asynchronous arrow function with parentheses, or anything else that has no other head. -/
def readHeaded
    (grammar : Grammar)
    (context : Context)
    (start : Nat) :
    Reader Node := do
  match ← grammar.readAsyncHead? context with
  | some items => grammar.readArrow context start true items
  | none => grammar.readAssigned context

theorem readAssignment_eq
    (grammar : Grammar)
    (context : Context) :
    grammar.readAssignment context = (do
      let current ← cursor
      if context.allowsYield && current.isAtWord "yield" then
        grammar.readYield context
      else if isAtAsyncArrow current context then
        advance
        let parameter ← readNamePattern context
        grammar.readArrow context current.start true [parameter]
      else
        grammar.readHeaded context current.start) :=
  rfl

section Headed

variable
  {grammar : Grammar}
  {context : Context}
  {start : Nat}
  {cursor stop : Cursor}

theorem run_readHeaded_of_other
    (noHead : isAtAsyncHead cursor = false) :
    (grammar.readHeaded context start).run cursor = (grammar.readAssigned context).run cursor := by
  simp [readHeaded, readAsyncHead?, StateT.run_bind, noHead]

theorem run_readHeaded_of_empty
    (isHead : isAtAsyncHead cursor)
    (isEmpty : (cursor.next.next.isAt ")" && cursor.next.next.next.isAt "\x7b") = true) :
    (grammar.readHeaded context start).run cursor = none := by
  simp only [readHeaded, readAsyncHead?, StateT.run_bind, run_cursor, Option.bind_eq_bind,
    Option.bind_some, isHead, isEmpty]
  rfl

/-- The head is tried first. -/
theorem run_readAsyncHead?
    (isHead : isAtAsyncHead cursor)
    (noEmpty : (cursor.next.next.isAt ")" && cursor.next.next.next.isAt "\x7b") = false) :
    (grammar.readAsyncHead? context).run cursor =
      ((some <$> grammar.readAsyncHead context).run cursor <|> some (none, cursor)) := by
  simp only [readAsyncHead?, StateT.run_bind, run_cursor, Option.bind_eq_bind, Option.bind_some,
    isHead, noEmpty]
  rfl

theorem run_readHeaded_of_head
    (isHead : isAtAsyncHead cursor)
    (noEmpty : (cursor.next.next.isAt ")" && cursor.next.next.next.isAt "\x7b") = false)
    {items : List Node}
    (ran : (grammar.readAsyncHead context).run cursor = some (items, stop)) :
    (grammar.readHeaded context start).run cursor =
      (grammar.readArrow context start true items).run stop := by
  rw [readHeaded, StateT.run_bind, run_readAsyncHead? isHead noEmpty, StateT.run_map, ran]
  rfl

theorem run_readHeaded_of_givenUp
    (isHead : isAtAsyncHead cursor)
    (noEmpty : (cursor.next.next.isAt ")" && cursor.next.next.next.isAt "\x7b") = false)
    (fails : (grammar.readAsyncHead context).run cursor = none) :
    (grammar.readHeaded context start).run cursor = (grammar.readAssigned context).run cursor := by
  rw [readHeaded, StateT.run_bind, run_readAsyncHead? isHead noEmpty, StateT.run_map, fails]
  rfl

end Headed

namespace Mirrors

variable
  {grammar marked : Grammar}
  {context : Context}
  {cursor markedCursor : Cursor}

/-- A head that is given up in the twin makes what is read astray. -/
theorem readHeaded
    (mirrors : grammar.Mirrors marked)
    (start markedStart : Nat) :
    Reads .opening .node cursor markedCursor (grammar.readHeaded context start)
      (marked.readHeaded context markedStart) := by
  refine ⟨fun _ => False.elim, fun same => ?_, fun atMarker => ?_⟩
  · have sameHead := isAtAsyncHead_eq same
    cases isHead : isAtAsyncHead markedCursor with
    | false =>
        rw [isHead] at sameHead
        rw [run_readHeaded_of_other isHead, run_readHeaded_of_other sameHead]
        exact (mirrors.readAssigned context).same same
    | true =>
        rw [isHead] at sameHead
        have nextSame : cursor.next.SameToken markedCursor.next := by
          refine same.next.resolve_right (fun nextMarker => ?_)
          simp [isAtAsyncHead, nextMarker.markedNewLine] at isHead
        have sameEmpty := isEmptyHead_eq nextSame.next
        cases isEmpty :
          markedCursor.next.next.isAt ")" && markedCursor.next.next.next.isAt "\x7b" with
        | true =>
            rw [run_readHeaded_of_empty isHead isEmpty]
            intro _ _ ran
            cases ran
        | false =>
            rw [isEmpty] at sameEmpty
            cases headRan : (marked.readAsyncHead context).run markedCursor with
            | none =>
                rw [run_readHeaded_of_givenUp isHead isEmpty headRan]
                intro _ _ ran
                obtain ⟨⟨isAsync, opens⟩, _⟩ :
                    (markedCursor.isAtWord "async" ∧ markedCursor.next.isAt "(") ∧ _ := by
                  simpa only [isAtAsyncHead, Bool.and_eq_true] using isHead
                exact .inl (mirrors.readAssigned_async (beq_iff_eq.mp isAsync)
                  (beq_iff_eq.mp opens) ran)
            | some read =>
                obtain ⟨items, markedStop⟩ := read
                rw [run_readHeaded_of_head isHead isEmpty headRan]
                rcases (mirrors.readAsyncHead context).same same headRan with
                  soiled | ⟨textItems, stop, textRan, alike, paired⟩
                · have arrow : Carries .absorbing _ .node cursor markedCursor _ _ :=
                    mirrors.readArrow context start markedStart true ((View.list .node).refl items)
                  exact fun _ _ ran => .inl (arrow.keeps soiled ran)
                · rw [run_readHeaded_of_head sameHead sameEmpty textRan]
                  exact (mirrors.readArrow _ _ _ _ alike).enter.follows paired
  · have noHead : isAtAsyncHead markedCursor = false := by
      rw [isAtAsyncHead, atMarker.marked_isAtWord (by decide)]
      rfl
    rw [run_readHeaded_of_other noHead]
    exact (mirrors.readAssigned context).mark atMarker

/-- An expression that is no sequence. -/
theorem readAssignment
    (mirrors : grammar.Mirrors marked)
    (context : Context) :
    Reads .opening .node cursor markedCursor (grammar.readAssignment context)
      (marked.readAssignment context) := by
  rw [readAssignment_eq, readAssignment_eq]
  refine .lookSame (fun cursor markedCursor same => ?_) (fun cursor markedCursor atMarker => ?_)
  · rw [same.isAtWord_eq, isAtAsyncArrow_eq same]
    split
    · exact (mirrors.readYield context).inside
    · split
      · refine .advance (fun _ _ => ?_)
        refine (readNamePattern context).bindInner (fun parameter _ alike _ _ => ?_)
        refine (mirrors.readArrow context _ _ true (.cons alike .nil)).enter.weaken
          (fun _ isLost => ?_)
        exact ⟨_, List.mem_cons_self, isLost.resolve_left id⟩
      · exact (mirrors.readHeaded _ _).inside
  · have noYield : (context.allowsYield && markedCursor.isAtWord "yield") = false := by
      rw [atMarker.marked_isAtWord (by decide), Bool.and_false]
    have noArrow : isAtAsyncArrow markedCursor context = false := by
      simp [isAtAsyncArrow, atMarker.marked_isAtWord (show "async" ≠ markerName by decide)]
    rw [noYield, noArrow]
    exact (mirrors.readHeaded cursor.start markedCursor.start).mark atMarker

/-- An expression, perhaps a sequence. -/
theorem readExpression
    (mirrors : grammar.Mirrors marked)
    (context : Context) :
    Reads .opening .node cursor markedCursor (grammar.readExpression context)
      (marked.readExpression context) := by
  refine .position (fun _ _ => ?_)
  refine (mirrors.readAssignment context).handOn (fun first markedFirst firstAlike _ _ => ?_)
  refine .ifAt "," (fun _ _ => ?_) (fun _ _ => .pure firstAlike (by grind)) (by simp)
  have firstLost (grade : Grade) (isLost : markedFirst.strays grade) :
      (View.list .node).soiled grade [markedFirst] :=
    ⟨markedFirst, List.mem_cons_self, Node.strays_bare isLost⟩
  refine Carries.inside (Carries.handOn (Carries.weaken (.loop (.list .node) (.list .node)
    (fun items _ alike _ _ => ?_) mirrors.bound (.cons firstAlike .nil)) firstLost)
    (fun items _ alike _ _ => .finishCompound alike (by grind) rfl))
  refine .ifAccept "," (fun _ _ => ?_) (fun _ _ => .pure (.inr (List.rel_reverse alike)) (by grind))
    (by simp)
  exact (mirrors.assignment context _ _).bindInner
    (fun item _ itemAlike _ _ => .pure (.inl (.cons itemAlike alike)) (by grind))

end Mirrors

end Grammar

end Reactivity.Script
