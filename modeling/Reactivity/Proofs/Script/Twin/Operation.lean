import Reactivity.Proofs.Script.Twin.Access
import Reactivity.Proofs.Script.Twin.Target
import Reactivity.Script.Grammar.Expression

namespace Reactivity.Script

open Refresh Reader

/-!
# Operations of twins

An expression is read in layers: an access, and behind it what an operator makes of it. Each
layer leaves alone what stands before a token that ends an operand, so it does so before a
mark and before what stands for it in the text.
-/

namespace Grammar

section Operators

variable
  {cursor marked : Cursor}

/-- Operators depend on the token at the cursor only. -/
theorem updateOperator?_eq
    (same : cursor.token = marked.token) :
    updateOperator? cursor = updateOperator? marked := by
  rw [updateOperator?, updateOperator?, Cursor.isAt, Cursor.isAt, Cursor.isAt, Cursor.isAt, same]

/-- The same token is the same operator before an operand. -/
theorem unaryOperator?_eq
    (same : cursor.token = marked.token) :
    unaryOperator? cursor = unaryOperator? marked := by
  simp only [unaryOperator?, Cursor.isAt, Cursor.isAtWord, same]

/-- The same token joins operands in the same way. -/
theorem connective?_eq
    (same : cursor.token = marked.token)
    (context : Context) :
    connective? cursor context = connective? marked context := by
  simp only [connective?, same]

theorem assignmentOperator?_eq
    (same : cursor.token = marked.token) :
    assignmentOperator? cursor = assignmentOperator? marked := by
  simp only [assignmentOperator?, Cursor.isAt, same]

/-- A token that ends an operand is none of the symbols that go on with it. -/
theorem isAt_of_endsOperand
    (ends : cursor.token.endsOperand)
    {symbol : String}
    (isOther : (Token.symbol symbol).endsOperand = false) :
    cursor.isAt symbol = false := by
  rw [Cursor.isAt, beq_eq_false_iff_ne]
  intro isSymbol
  rw [isSymbol, isOther] at ends
  cases ends

theorem updateOperator?_of_endsOperand
    (ends : cursor.token.endsOperand) :
    updateOperator? cursor = none := by
  rw [updateOperator?, isAt_of_endsOperand ends rfl, isAt_of_endsOperand ends rfl]
  rfl

theorem assignmentOperator?_of_endsOperand
    (ends : cursor.token.endsOperand) :
    assignmentOperator? cursor = none := by
  rw [assignmentOperator?, List.find?_eq_none]
  intro operator member
  have isOther : ∀ operator ∈ AssignmentOperator.all,
      (Token.symbol operator.symbol).endsOperand = false := by
    decide
  simp [isAt_of_endsOperand ends (isOther operator member)]

/-- Behind an operand that ends there, nothing joins it to another. -/
theorem connective?_of_endsOperand
    (ends : cursor.token.endsOperand)
    (context : Context) :
    connective? cursor context = none := by
  unfold connective?
  split
  · next isToken =>
      rw [isToken] at ends
      cases ends
  · next isToken =>
      rw [isToken] at ends
      cases ends
  · next symbol isToken =>
      have noBinary : ∀ operator ∈ BinaryOperator.all,
          (Token.symbol operator.symbol).endsOperand = false := by
        decide
      have noLogical : ∀ operator ∈ LogicalOperator.all,
          (Token.symbol operator.symbol).endsOperand = false := by
        decide
      rw [isToken] at ends
      have isOther {text : String} (noEnd : (Token.symbol text).endsOperand = false) :
          ¬(text == symbol) = true := by
        intro same
        rw [beq_iff_eq.mp same, ends] at noEnd
        cases noEnd
      have noneBinary :
          BinaryOperator.all.find? (fun operator => operator.symbol == symbol) = none :=
        List.find?_eq_none.mpr (fun operator member => isOther (noBinary operator member))
      have noneLogical :
          LogicalOperator.all.find? (fun operator => operator.symbol == symbol) = none :=
        List.find?_eq_none.mpr (fun operator member => isOther (noLogical operator member))
      simp [noneBinary, noneLogical]
  · rfl

end Operators

/-- What an update operator behind an access makes of it. -/
def readUpdateBehind
    (start : Nat)
    (node : Node) :
    Reader Node := do
  let current ← cursor
  match updateOperator? current with
  | some operator =>
      if current.isOnNewLine then
        return node
      else
        let target ← found node.simpleTarget?
        advance
        finish start .expression (.update operator false) [target]
  | none => return node

/-- One more operation behind a left operand, or none. -/
def readOperationStep
    (grammar : Grammar)
    (context : Context)
    (minimum : Level)
    (start : Nat)
    (leftOpens : Bool)
    (left : Node) :
    Reader (Node ⊕ Node) := do
  match connective? (← cursor) context with
  | some operator =>
      if minimum < operator.level then
        advance
        let rightOpens ← isAt "("
        let right ← grammar.operation context operator.rightLevel
        require (operandsFit operator ⟨left, leftOpens⟩ ⟨right, rightOpens⟩)
        return .inl (← finish start .expression operator.form [left, right])
      else
        return .inr left
  | none => return .inr left

/-- The choice that a condition makes, if it makes one. -/
def readChoiceBehind
    (grammar : Grammar)
    (context : Context)
    (start : Nat)
    (condition : Node) :
    Reader Node := do
  if ← accept "?" then
    let consequent ← before ":" (grammar.assignment context.enclosed)
    let alternative ← grammar.assignment context
    finish start .expression .conditional [condition, consequent, alternative]
  else
    return condition

/-- The arrow function or assignment that a left side starts, if it starts one. -/
def readAssignedBehind
    (grammar : Grammar)
    (context : Context)
    (start : Nat)
    (left : Node) :
    Reader Node := do
  let following ← cursor
  if following.isAt "=>" && !following.isOnNewLine then
    grammar.readArrow context start false (← found left.arrowHead?)
  else
    match assignmentOperator? following with
    | none => return left
    | some operator =>
        let target ← found (left.target? false)
        advance
        let value ← grammar.assignment context
        finish start .expression (.assignment operator) [target, value]

section Layers

variable
  {grammar : Grammar}
  {context : Context}

/-- What is read behind an access is read on its own. -/
theorem readUpdated_eq :
    grammar.readUpdated context =
      position >>= fun start => grammar.readAccess context >>= readUpdateBehind start :=
  rfl

/-- Operations are read step by step behind the first operand. -/
theorem readOperation_eq
    {minimum : Level} :
    grammar.readOperation context minimum =
      position >>= fun start => isAt "(" >>= fun leftOpens =>
        grammar.readFirstOperand context >>=
          repeated (grammar.readOperationStep context minimum start leftOpens) grammar.bound :=
  rfl

/-- A choice is read behind its condition. -/
theorem readConditional_eq :
    grammar.readConditional context =
      position >>= fun start =>
        grammar.readOperation context .lowest >>= grammar.readChoiceBehind context start :=
  rfl

theorem readAssigned_eq :
    grammar.readAssigned context =
      position >>= fun start =>
        grammar.readConditional context >>= grammar.readAssignedBehind context start :=
  rfl

variable
  {stop : Cursor}

/-- Where an operand ends, it is not updated. -/
theorem run_readUpdateBehind
    (ends : stop.token.endsOperand)
    (start : Nat)
    (node : Node) :
    (readUpdateBehind start node).run stop = some (node, stop) := by
  simp [readUpdateBehind, StateT.run_bind, updateOperator?_of_endsOperand ends]

/-- Where an operand ends, the operation ends. -/
theorem run_readOperationStep
    (ends : stop.token.endsOperand)
    (minimum : Level)
    (start : Nat)
    (leftOpens : Bool)
    (left : Node) :
    (grammar.readOperationStep context minimum start leftOpens left).run stop =
      some (.inr left, stop) := by
  simp [readOperationStep, StateT.run_bind, connective?_of_endsOperand ends]

/-- Where an operand ends, there is no choice. -/
theorem run_readChoiceBehind
    (ends : stop.token.endsOperand)
    (start : Nat)
    (condition : Node) :
    (grammar.readChoiceBehind context start condition).run stop = some (condition, stop) := by
  have noChoice : stop.isAt "?" = false := isAt_of_endsOperand ends rfl
  simp [readChoiceBehind, StateT.run_bind, noChoice]

/-- Where an operand ends, nothing is assigned to it. -/
theorem run_readAssignedBehind
    (ends : stop.token.endsOperand)
    (start : Nat)
    (left : Node) :
    (grammar.readAssignedBehind context start left).run stop = some (left, stop) := by
  have noArrow : stop.isAt "=>" = false := isAt_of_endsOperand ends rfl
  simp [readAssignedBehind, StateT.run_bind, noArrow, assignmentOperator?_of_endsOperand ends]

end Layers

end Grammar

/-- A reader that goes on with a value, if there is one. -/
theorem Carries.found
    {value other : Type}
    {entry : Entry}
    {lost : Grade → Prop}
    {view : View other}
    {cursor marked : Cursor}
    {held markedHeld : Option value}
    {alike : value → value → Prop}
    {next markedNext : value → Reader other}
    (related : Option.Rel alike held markedHeld)
    (second : ∀ returned markedReturned, markedHeld = some markedReturned →
      alike returned markedReturned →
        Carries entry lost view cursor marked (next returned) (markedNext markedReturned)) :
    Carries entry lost view cursor marked (Grammar.found held >>= next)
      (Grammar.found markedHeld >>= markedNext) := by
  cases related with
  | none => exact .failure
  | some isAlike => exact second _ _ rfl isAlike

namespace Grammar

/-- What is made of the same trees is the same, or there is nothing in either case. -/
theorem rel_of_natural
    {made : Type}
    {turn : Node → Option made}
    {erase : made → made}
    (natural : ∀ node, turn node.unmarked = (turn node).map erase)
    {node marked : Node}
    (alike : node.unmarked = marked.unmarked) :
    Option.Rel (fun first second => erase first = erase second) (turn node) (turn marked) := by
  have same : (turn node).map erase = (turn marked).map erase := by
    rw [← natural, alike, natural]
  cases left : turn node with
  | none =>
      rw [left] at same
      rw [Option.map_eq_none_iff.mp same.symm]
      exact .none
  | some value =>
      rw [left] at same
      obtain ⟨other, isOther, sameValue⟩ := Option.map_eq_some_iff.mp same.symm
      rw [isOther]
      exact .some sameValue.symm

/-- Nodes that are alike have the same form. -/
theorem form_eq
    {node marked : Node}
    (alike : node.unmarked = marked.unmarked) :
    node.form = marked.form := by
  rw [← Node.form_unmarked node, alike, Node.form_unmarked]

theorem bare_form_eq
    {node marked : Node}
    (alike : node.unmarked = marked.unmarked) :
    node.bare.form = marked.bare.form := by
  refine form_eq ?_
  rw [← Node.bare_unmarked, alike, Node.bare_unmarked]

/-- Whether operators may be mixed depends on the forms of the operands only. -/
theorem operandsFit_eq
    {left markedLeft right markedRight : Node}
    (leftAlike : left.unmarked = markedLeft.unmarked)
    (rightAlike : right.unmarked = markedRight.unmarked)
    (operator : Connective)
    (leftOpens rightOpens : Bool) :
    operandsFit operator ⟨left, leftOpens⟩ ⟨right, rightOpens⟩ =
      operandsFit operator ⟨markedLeft, leftOpens⟩ ⟨markedRight, rightOpens⟩ := by
  simp only [operandsFit, form_eq leftAlike, bare_form_eq leftAlike, bare_form_eq rightAlike]

namespace Mirrors

variable
  {grammar marked : Grammar}
  {cursor markedCursor : Cursor}

/-- An update behind an access is read alike. -/
theorem readUpdateBehind
    (start markedStart : Nat)
    {node markedNode : Node}
    (alike : node.unmarked = markedNode.unmarked) :
    Carries .anywhere (markedNode.strays ·) .node cursor markedCursor
      (readUpdateBehind start node) (readUpdateBehind markedStart markedNode) := by
  refine .lookSame (fun cursor markedCursor same => ?_) (fun cursor markedCursor atMarker => ?_)
  · rw [updateOperator?_eq same.token]
    cases isOperator : updateOperator? markedCursor with
    | none => exact .inside (.pure alike (by grind))
    | some operator =>
        have newLine : cursor.isOnNewLine = markedCursor.isOnNewLine := by
          refine same.newLine.resolve_left (fun atEnd => ?_)
          rw [updateOperator?_of_endsOperand (by rw [← same.token, atEnd]; rfl)] at isOperator
          cases isOperator
        simp only [newLine]
        split
        · exact .inside (.pure alike (by grind))
        · refine .found (rel_of_natural Node.simpleTarget?_unmarked alike)
            (fun target _ isTarget targetAlike => .advance (fun _ _ => ?_))
          refine .finishCompound (.cons targetAlike .nil) (fun grade isLost => ?_) rfl
          exact .inr ⟨_, List.mem_cons_self,
            Node.strays_bare (Node.simpleTarget?_strays isTarget isLost)⟩
  · exact .stay (run_readUpdateBehind atMarker.endsOperand start node)
      (run_readUpdateBehind atMarker.marked_endsOperand markedStart markedNode) alike
      (.inr atMarker)

/-- One more operator with its operand is read alike. -/
theorem readOperationStep
    (mirrors : grammar.Mirrors marked)
    (context : Context)
    (minimum : Level)
    (start markedStart : Nat)
    (leftOpens : Bool)
    {left markedLeft : Node}
    (alike : left.unmarked = markedLeft.unmarked) :
    Carries .anywhere (markedLeft.strays ·) (.step .node .node) cursor markedCursor
      (grammar.readOperationStep context minimum start leftOpens left)
      (marked.readOperationStep context minimum markedStart leftOpens markedLeft) := by
  refine .lookSame (fun cursor markedCursor same => ?_) (fun cursor markedCursor atMarker => ?_)
  · rw [connective?_eq same.token]
    cases connective? markedCursor context with
    | none => exact .inside (.pure (.inr alike) (by grind))
    | some operator =>
        simp only
        split
        · refine .advance (fun _ _ => .onAt "(" (fun rightOpens _ _ => ?_) (by simp))
          refine (mirrors.operation _ _ _ _).bindInner (fun right _ rightAlike _ _ => ?_)
          refine .require (fun _ fits => operandsFit_eq alike rightAlike _ _ _ ▸ fits) ?_
          refine (Carries.finishCompound (.cons alike (.cons rightAlike .nil)) ?_ ?_).handOn
            (fun node _ nodeAlike _ _ => .pure (.inl nodeAlike) (by grind))
          · grind
          · cases operator <;> rfl
        · exact .inside (.pure (.inr alike) (by grind))
  · exact .stay (run_readOperationStep atMarker.endsOperand minimum start leftOpens left)
      (run_readOperationStep atMarker.marked_endsOperand minimum markedStart leftOpens markedLeft)
      (.inr alike) (.inr atMarker)

/-- The alternatives of a condition are read alike. -/
theorem readChoiceBehind
    (mirrors : grammar.Mirrors marked)
    (context : Context)
    (start markedStart : Nat)
    {condition markedCondition : Node}
    (alike : condition.unmarked = markedCondition.unmarked) :
    Carries .anywhere (markedCondition.strays ·) .node cursor markedCursor
      (grammar.readChoiceBehind context start condition)
      (marked.readChoiceBehind context markedStart markedCondition) := by
  refine .ifAccept "?" (fun _ _ => ?_) (fun _ _ => .pure alike (by grind)) (by simp)
  refine (Carries.before ":" (mirrors.assignment _ _ _)).bindInner
    (fun consequent _ consequentAlike _ _ => ?_)
  refine (mirrors.assignment _ _ _).bindInner (fun alternative _ alternativeAlike _ _ => ?_)
  exact .finishCompound (.cons alike (.cons consequentAlike (.cons alternativeAlike .nil)))
    (by grind) rfl

/-- What follows the left side is read alike, if the left sides are alike. -/
theorem readAssignedBehind
    (mirrors : grammar.Mirrors marked)
    (context : Context)
    (start markedStart : Nat)
    {left markedLeft : Node}
    (alike : left.unmarked = markedLeft.unmarked) :
    Carries .anywhere (markedLeft.strays ·) .node cursor markedCursor
      (grammar.readAssignedBehind context start left)
      (marked.readAssignedBehind context markedStart markedLeft) := by
  refine .lookSame (fun cursor markedCursor same => ?_) (fun cursor markedCursor atMarker => ?_)
  · have sameArrow : (cursor.isAt "=>" && !cursor.isOnNewLine) =
        (markedCursor.isAt "=>" && !markedCursor.isOnNewLine) := by
      rw [Bool.and_comm, Bool.and_comm (markedCursor.isAt _), same.isAt_eq, same.onLine_eq]
      intro atEnd
      simp [Cursor.isAt, atEnd]
    rw [sameArrow, assignmentOperator?_eq same.token]
    split
    · refine .found (rel_of_natural Node.arrowHead?_unmarked alike)
        (fun items markedItems isHead itemsAlike => ?_)
      have itemsAlike := View.alike_of_map itemsAlike
      refine (mirrors.readArrow _ _ _ _ itemsAlike).inside.weaken (fun grade isLost => ?_)
      exact Node.arrowHead?_strays isHead isLost
    · cases assignmentOperator? markedCursor with
      | none => exact .inside (.pure alike (by grind))
      | some operator =>
          refine .found (rel_of_natural (Node.target?_unmarked false) alike)
            (fun target _ isTarget targetAlike => .advance (fun _ _ => ?_))
          refine (mirrors.assignment _ _ _).bindInner (fun value _ valueAlike _ _ => ?_)
          refine .finishCompound (.cons targetAlike (.cons valueAlike .nil))
            (fun grade isLost => ?_)
            rfl
          rcases isLost with isLost | isLost
          · exact .inr ⟨_, List.mem_cons_self,
              Node.strays_bare (Node.target?_strays isTarget isLost)⟩
          · exact .inr ⟨_, by simp, isLost⟩
  · exact .stay (run_readAssignedBehind atMarker.endsOperand start left)
      (run_readAssignedBehind atMarker.marked_endsOperand markedStart markedLeft) alike
      (.inr atMarker)

/-- An access with its update is read alike. -/
theorem readUpdated
    (mirrors : grammar.Mirrors marked)
    (context : Context) :
    Reads .opening .node cursor markedCursor (grammar.readUpdated context)
      (marked.readUpdated context) := by
  rw [readUpdated_eq, readUpdated_eq]
  refine .position (fun _ _ => ?_)
  exact (mirrors.readAccess context).handOn (fun node _ alike _ _ => readUpdateBehind _ _ alike)

/-- The name of the marker is no operator. -/
theorem unaryOperator?_marked
    (ahead : cursor.MarkerAhead markedCursor) :
    unaryOperator? markedCursor = none := by
  rw [unaryOperator?, List.find?_eq_none]
  intro operator _
  split
  · rw [ahead.marked_isAtWord (by cases operator <;> decide)]
    decide
  · rw [ahead.marked_isAt]
    decide

/-- An operand with the unary operators before it. -/
theorem readOperand
    (mirrors : grammar.Mirrors marked)
    (context : Context) :
    Reads .opening .node cursor markedCursor (grammar.readOperand context)
      (marked.readOperand context) := by
  refine .lookSame (fun cursor markedCursor same => ?_) (fun cursor markedCursor atMarker => ?_)
  · rw [unaryOperator?_eq same.token, updateOperator?_eq same.token]
    cases unaryOperator? markedCursor with
    | some operator =>
        refine .advance (fun _ _ => ?_)
        refine (mirrors.operand _ _ _).bindInner (fun operand _ alike _ _ => ?_)
        exact .finishCompound (.cons alike .nil) (by grind) rfl
    | none =>
        cases updateOperator? markedCursor with
        | some operator =>
            refine .advance (fun _ _ => ?_)
            refine (mirrors.operand _ _ _).bindInner (fun operand _ alike _ _ => ?_)
            refine .found (rel_of_natural Node.simpleTarget?_unmarked alike)
              (fun target _ isTarget targetAlike => ?_)
            refine .finishCompound (.cons targetAlike .nil) (fun grade isLost => ?_) rfl
            exact .inr ⟨_, List.mem_cons_self,
              Node.simpleTarget?_strays isTarget (isLost.resolve_left id)⟩
        | none =>
            refine .iteAtWord "await" (.require (fun _ => id) (.advance (fun _ _ => ?_)))
              (mirrors.readUpdated context).inside (by decide) (by decide)
            refine (mirrors.operand _ _ _).bindInner (fun operand _ alike _ _ => ?_)
            exact .finishCompound (.cons alike .nil) (by grind) rfl
  · rw [unaryOperator?_marked atMarker.toMarkerAhead,
      updateOperator?_of_endsOperand atMarker.marked_endsOperand]
    simp only [atMarker.marked_isAtWord (by decide : "await" ≠ markerName)]
    exact (mirrors.readUpdated context).mark atMarker

/-- The first operand of an operation. -/
theorem readFirstOperand
    (mirrors : grammar.Mirrors marked)
    (context : Context) :
    Reads .opening .node cursor markedCursor (grammar.readFirstOperand context)
      (marked.readFirstOperand context) := by
  refine .lookSame (fun cursor markedCursor same => ?_) (fun cursor markedCursor atMarker => ?_)
  · rw [same.token]
    split
    · refine .require (fun _ => id)
        (.advance (fun _ _ => .expectWord "in" (fun _ _ => ?_) (by decide)))
      refine (mirrors.operation _ _ _ _).bindInner (fun object _ alike _ _ => ?_)
      refine .require (fun _ fits => ?_) (.finishCompound (.cons alike .nil) (by grind) rfl)
      rwa [bare_form_eq alike]
    · exact (mirrors.readOperand context).inside
  · rw [atMarker.token]
    exact (mirrors.readOperand context).mark atMarker

theorem readOperation
    (mirrors : grammar.Mirrors marked)
    (context : Context)
    (minimum : Level) :
    Reads .opening .node cursor markedCursor (grammar.readOperation context minimum)
      (marked.readOperation context minimum) := by
  rw [readOperation_eq, readOperation_eq]
  refine .position (fun _ _ => .onAt "(" (fun leftOpens _ _ => ?_) (by simp))
  refine (mirrors.readFirstOperand context).handOn (fun first _ alike _ _ => ?_)
  exact .loop .node .node
    (fun _ _ alike _ _ => mirrors.readOperationStep _ _ _ _ leftOpens alike) mirrors.bound alike

/-- A condition with its alternatives is read alike. -/
theorem readConditional
    (mirrors : grammar.Mirrors marked)
    (context : Context) :
    Reads .opening .node cursor markedCursor (grammar.readConditional context)
      (marked.readConditional context) := by
  rw [readConditional_eq, readConditional_eq]
  refine .position (fun _ _ => ?_)
  exact (mirrors.readOperation context _).handOn
    (fun condition _ alike _ _ => mirrors.readChoiceBehind _ _ _ alike)

theorem readAssigned
    (mirrors : grammar.Mirrors marked)
    (context : Context) :
    Reads .opening .node cursor markedCursor (grammar.readAssigned context)
      (marked.readAssigned context) := by
  rw [readAssigned_eq, readAssigned_eq]
  refine .position (fun _ _ => ?_)
  exact (mirrors.readConditional context).handOn
    (fun left _ alike _ _ => mirrors.readAssignedBehind _ _ _ alike)

/-- An expression that starts with `yield`; a mark behind it is on a new line. -/
theorem readYield
    (mirrors : grammar.Mirrors marked)
    (context : Context) :
    Reads .absorbing .node cursor markedCursor (grammar.readYield context)
      (marked.readYield context) := by
  refine .position (fun start markedStart => .expectWord "yield" (fun _ _ => ?_) (by decide))
  refine .lookSame (fun cursor markedCursor same => ?_) (fun cursor markedCursor atMarker => ?_)
  · have sameBare : (cursor.isOnNewLine || cursor.isAtEnd) =
        (markedCursor.isOnNewLine || markedCursor.isAtEnd) := by
      rcases same.newLine with atEnd | newLine
      · simp [Cursor.isAtEnd, ← same.token, atEnd]
      · rw [newLine, same.isAtEnd_eq]
    simp only [sameBare, same.isAtAny_eq, same.isAtWord_eq]
    split
    · exact .inside .leaf
    · refine .onAccept "*" (fun _ _ => ?_) (fun _ _ => ?_) (by simp)
      · refine (mirrors.assignment _ _ _).bindInner (fun value _ alike _ _ => ?_)
        exact .finishCompound (.cons alike .nil) (by grind) rfl
      · refine (mirrors.assignment _ _ _).bindInner (fun value _ alike _ _ => ?_)
        exact .finishCompound (.cons alike .nil) (by grind) rfl
  · simp only [atMarker.newLine, atMarker.markedNewLine, Bool.true_or, if_true]
    exact Carries.leaf.mark atMarker

end Mirrors

end Grammar

end Reactivity.Script
