import Reactivity.Proofs.Script.Build
import Reactivity.Proofs.Script.Operand
import Reactivity.Proofs.Script.WellFormed

namespace Reactivity.Script

open Reader

/-!
# Statements put together from their tokens

What a reader makes of the tokens at a cursor follows from what is made of the parts: of the
arguments of a call, the sides of an operation, the head and the body of an arrow function
and the expression of a statement. Trees are compared without the places of their parts.
-/

namespace Node

@[simp]
theorem unplaced_mk
    (form : Form)
    (role : Role)
    (span : Span)
    (children : List Node) :
    (Node.mk form role span children).unplaced = .mk form role .none (unplacedAll children) := by
  rw [unplaced]

theorem unplacedAll_eq_map
    (nodes : List Node) :
    unplacedAll nodes = nodes.map unplaced := by
  induction nodes with
  | nil => rw [unplacedAll, List.map_nil]
  | cons node nodes inductionHypothesis =>
      rw [unplacedAll, inductionHypothesis, List.map_cons]

@[simp]
theorem form_unplaced
    (node : Node) :
    node.unplaced.form = node.form := by
  cases node
  rw [unplaced]
  rfl

/-- A call is no name. -/
theorem name?_of_call
    {node : Node}
    {isOptional : Bool}
    (isCall : node.form = .call isOptional) :
    node.name? = none := by
  cases node
  cases isCall
  rfl

end Node

/-- A reader makes this tree of the script between two cursors, wherever its parts stand. -/
def Reader.Gives
    (read : Reader Node)
    (start : Cursor)
    (tree : Node)
    (stop : Cursor) :
    Prop :=
  ∃ node, read.run start = some (node, stop) ∧ node.unplaced = tree

/-- Trees are read one after the other up to a closing symbol. -/
inductive Reader.GivesAll
    (read : Reader Node)
    (close : String) :
    Cursor →
    List Node →
    Cursor →
    Prop where
  | nil
      {stop : Cursor}
      (closes : stop.isAt close) :
      GivesAll read close stop [] stop
  | cons
      {start between stop : Cursor}
      {tree : Node}
      {trees : List Node}
      (notClosed : start.isAt close = false)
      (gives : read.Gives start tree between)
      (others : GivesAll read close between trees stop) :
      GivesAll read close start (tree :: trees) stop

namespace Reader.GivesAll

variable
  {read : Reader Node}
  {close : String}
  {start stop : Cursor}
  {trees : List Node}
  {bound : Nat}

/-- The items are read behind others, each in a step of its own. -/
theorem run_repeated
    (given : GivesAll read close start trees stop)
    (enough : trees.length < bound)
    (items : List Node) :
    ∃ nodes,
      (repeated (untilStep close read) bound items).run start =
          some (items.reverse ++ nodes, stop.next) ∧
        nodes.map Node.unplaced = trees := by
  induction given generalizing bound items with
  | nil closes =>
      obtain ⟨bound, rfl⟩ : ∃ fewer, bound = fewer + 1 := ⟨bound - 1, by omega⟩
      exact ⟨[], by simp [repeated, untilStep, closes], rfl⟩
  | cons notClosed gives others inductionHypothesis =>
      obtain ⟨bound, rfl⟩ : ∃ fewer, bound = fewer + 1 := ⟨bound - 1, by omega⟩
      obtain ⟨node, ran, rfl⟩ := gives
      rw [List.length_cons, Nat.add_lt_add_iff_right] at enough
      obtain ⟨nodes, othersRan, rfl⟩ := inductionHypothesis enough (node :: items)
      rw [List.reverse_cons, List.append_assoc, List.singleton_append] at othersRan
      exact ⟨node :: nodes, by simp [repeated, untilStep, notClosed, ran, othersRan], rfl⟩

/-- The closing symbol stands at the end. -/
theorem isAt_stop
    (given : GivesAll read close start trees stop) :
    stop.isAt close := by
  induction given with
  | nil closes => exact closes
  | cons _ _ _ inductionHypothesis => exact inductionHypothesis

theorem run_untilSymbol
    (given : GivesAll read close start trees stop)
    (enough : trees.length < bound) :
    ∃ nodes,
      (untilSymbol bound close read).run start = some (nodes, stop.next) ∧
        nodes.map Node.unplaced = trees :=
  given.run_repeated enough []

end Reader.GivesAll

/-- Where nothing is yielded, an identifier is a name. -/
theorem isName_of_isIdentifier
    {context : Context}
    {word : String}
    (noYield : context.allowsYield = false)
    (isIdentifier : isIdentifier word) :
    isName context word := by
  rw [isName, (isIdentifier_iff.mp isIdentifier).2, noYield]
  rfl

namespace Grammar

variable
  {grammar : Grammar}
  {context : Context}
  {placement : Placement}
  {bound : Nat}
  {start last arrow stop : Cursor}
  {tree : Node}
  {word : String}

section Operand

/-- A name is an operand, if it stands alone or is not `async`. -/
theorem IsOperand.ofName
    (noYield : context.allowsYield = false)
    (stands : start.token = .word word false)
    (isNamed : isName context word)
    (noAsync : word ≠ "async" ∨ start.next.token.endsOperation) :
    IsOperand context start := by
  refine ⟨?_, noYield, noAsync.imp_left (fun isOther => ?_)⟩
  · rw [stands]
    exact Token.opensOperand_of_unreserved (unreserved_of_isName isNamed) _
  · rw [Cursor.isAtWord, stands, beq_eq_false_iff_ne]
    rintro ⟨rfl⟩
    exact isOther rfl

/-- What starts with a bracket or a string is an operand. -/
theorem IsOperand.ofOther
    (noYield : context.allowsYield = false)
    (opens : start.token.opensOperand)
    (noWord : start.token.isWord = false) :
    IsOperand context start := by
  refine ⟨opens, noYield, .inl ?_⟩
  rw [Cursor.isAtWord, beq_eq_false_iff_ne]
  intro isWord
  rw [isWord] at noWord
  cases noWord

theorem gives_primary_name
    (stands : start.token = .word word false)
    (isNamed : isName context word)
    (noFunction : start.next.isAtWord "function" = false) :
    (grammar.readPrimary context).Gives start (Build.name word) start.next :=
  ⟨_, run_readPrimary_of_name stands isNamed noFunction, rfl⟩

theorem gives_primary_text
    {value raw : String}
    (stands : start.token = .string value raw) :
    (grammar.readPrimary context).Gives start (Build.text value) start.next := by
  refine ⟨.mk (.string value) .expression ⟨start.start, start.next.previousStop⟩ [], ?_, rfl⟩
  simp [readPrimary, stands]

theorem gives_primary_emptyObject
    (isBound : grammar.bound = bound + 1)
    (passes : start.Passes [.symbol "\x7b", .symbol "\x7d"] stop) :
    (grammar.readPrimary context).Gives start Build.emptyObject stop := by
  obtain ⟨⟨opens, _⟩, ⟨closes, _⟩, rfl⟩ := passes
  refine ⟨.mk .object .expression ⟨start.start, start.next.next.previousStop⟩ [], ?_, rfl⟩
  simp [readPrimary, opens, readObject, separated, untilSymbol, untilStep, repeated, isBound,
    Cursor.isAt, closes]

/-- The word for no value. -/
theorem gives_primary_null
    (stands : start.token = .word "null" false) :
    (grammar.readPrimary context).Gives start Build.null start.next := by
  refine ⟨.mk .null .expression ⟨start.start, start.next.previousStop⟩ [], ?_, rfl⟩
  simp [readPrimary, readWordExpression, stands]

/-- A value in parentheses. -/
theorem gives_primary_enclosed
    (isBound : grammar.bound = bound + 2)
    (isOpen : start.token = .symbol "(")
    (opens : start.next.token.opensItem)
    (gives : (grammar.assignment context.enclosed).Gives start.next tree last)
    (isClosed : last.token = .symbol ")") :
    (grammar.readPrimary context).Gives start (Build.enclosed tree) last.next := by
  obtain ⟨node, ran, rfl⟩ := gives
  have noSpread := Cursor.isAt_of_opensItem opens "..." (by decide)
  have notClosed := Cursor.isAt_of_opensItem opens ")" (by decide)
  have noComma : last.isAt "," = false := by
    rw [Cursor.isAt, isClosed]
    rfl
  have isClosed : last.isAt ")" = true := by
    rw [Cursor.isAt, isClosed]
    rfl
  have isOpening : start.isAt "(" = true := by
    rw [Cursor.isAt, isOpen]
    rfl
  refine ⟨.mk .parenthesized .expression ⟨start.start, last.next.previousStop⟩ [node], ?_, rfl⟩
  simp [readPrimary, isOpen, readParenthesized, isOpening, isBound, repeated, noSpread, notClosed,
    ran, noComma, isClosed]

/-- The items of an array stand in its brackets. -/
theorem gives_primary_array
    {trees : List Node}
    (isOpen : start.token = .symbol "[")
    (given : (grammar.readArrayItem context).GivesAll "]" start.next trees last)
    (enough : trees.length < grammar.bound) :
    (grammar.readPrimary context).Gives start (Build.array trees) last.next := by
  obtain ⟨nodes, ran, rfl⟩ := given.run_untilSymbol enough
  refine ⟨.mk .array .expression ⟨start.start, last.next.previousStop⟩ nodes, ?_, ?_⟩
  · simp [readPrimary, isOpen, readArray, Cursor.isAt, ran]
  · rw [Node.unplaced_mk, Node.unplacedAll_eq_map]
    rfl

/-- An object with one property. -/
theorem gives_primary_object
    {key : String}
    (isBound : grammar.bound = bound + 2)
    (passes : start.Passes [.symbol "\x7b", .word key false, .symbol ":"] arrow)
    (gives : (grammar.assignment context.enclosed).Gives arrow tree last)
    (isClosed : last.token = .symbol "\x7d") :
    (grammar.readPrimary context).Gives start (Build.object key tree) last.next := by
  obtain ⟨⟨isOpen, _⟩, ⟨isKey, _⟩, ⟨isColon, _⟩, rfl⟩ := passes
  obtain ⟨node, ran, rfl⟩ := gives
  refine ⟨.mk .object .expression ⟨start.start, last.next.previousStop⟩
    [.mk (.property .value false false) .part ⟨start.next.start, last.previousStop⟩
      [.mk (.propertyName key) .part ⟨start.next.start, start.next.next.previousStop⟩ [], node]],
    ?_, rfl⟩
  simp [readPrimary, isOpen, readObject, separated, untilSymbol, untilStep, withSeparator, repeated,
    isBound, Cursor.isAt, Cursor.isAtAny, isKey, isColon, readProperty, isPropertyModifier,
    readPlainProperty, readKey, ran, isClosed]

/-- The arguments of a call are the items in its parentheses. -/
theorem run_readArguments
    {trees : List Node}
    (isOpen : start.token = .symbol "(")
    (given : (withSeparator ")" (grammar.readItem context)).GivesAll ")" start.next trees last)
    (enough : trees.length < grammar.bound) :
    ∃ nodes,
      (grammar.readArguments context).run start = some (nodes, last.next) ∧
        nodes.map Node.unplaced = trees := by
  obtain ⟨nodes, ran, same⟩ := given.run_untilSymbol enough
  refine ⟨nodes, ?_, same⟩
  simp [readArguments, Cursor.isAt, isOpen, separated, ran]

/-- Members and calls behind an expression, each of which makes a larger tree of it. -/
inductive Accesses
    (grammar : Grammar)
    (context : Context) :
    Cursor →
    Node →
    Nat →
    Node →
    Cursor →
    Prop where
  | none
      {stop : Cursor}
      {tree : Node}
      (noAccess : stop.token.isAccess = false) :
      Accesses grammar context stop tree 0 tree stop
  | member
      {start between stop : Cursor}
      {object tree : Node}
      {word : String}
      {count : Nat}
      (passes : start.Passes [.symbol ".", .word word false] between)
      (others : Accesses grammar context between (Build.member object word) count tree stop) :
      Accesses grammar context start object (count + 1) tree stop
  | call
      {start last stop : Cursor}
      {object tree : Node}
      {trees : List Node}
      {count : Nat}
      (isOpen : start.token = .symbol "(")
      (given : (withSeparator ")" (grammar.readItem context)).GivesAll ")" start.next trees last)
      (enough : trees.length < grammar.bound)
      (others : Accesses grammar context last.next (Build.call object trees) count tree stop) :
      Accesses grammar context start object (count + 1) tree stop

/-- The accesses are read one after the other. -/
theorem Accesses.run_repeated
    {object : Node}
    {count : Nat}
    (accesses : Accesses grammar context start object count tree stop)
    (enough : count < bound)
    {node : Node}
    (same : node.unplaced = object)
    (first : Nat) :
    ∃ accessed,
      (repeated (grammar.readAccessStep context first true) bound (node, false)).run start =
          some ((accessed, false), stop) ∧
        accessed.unplaced = tree := by
  induction accesses generalizing bound node with
  | none noAccess =>
      obtain ⟨bound, rfl⟩ : ∃ fewer, bound = fewer + 1 := ⟨bound - 1, by omega⟩
      exact ⟨node, by simp [repeated, run_readAccessStep noAccess], same⟩
  | @member start between stop object tree word count passes others inductionHypothesis =>
      obtain ⟨bound, rfl⟩ : ∃ fewer, bound = fewer + 1 := ⟨bound - 1, by omega⟩
      obtain ⟨⟨isPoint, _⟩, ⟨isWord, _⟩, rfl⟩ := passes
      let accessed : Node :=
        .mk (.member word false) .expression ⟨first, start.next.next.previousStop⟩ [node]
      have step : (grammar.readAccessStep context first true (node, false)).run start =
          some (.inl (accessed, false), start.next.next) := by
        simp [readAccessStep, isPoint, readMemberName, isWord, accessed]
      have unplaced : accessed.unplaced = Build.member object word := by
        rw [← same]
        rfl
      obtain ⟨result, ran, isResult⟩ := inductionHypothesis (Nat.lt_of_succ_lt_succ enough) unplaced
      exact ⟨result, by simp [repeated, step, ran], isResult⟩
  | @call start last stop object tree trees count isOpen given enoughTrees others
      inductionHypothesis =>
      obtain ⟨bound, rfl⟩ : ∃ fewer, bound = fewer + 1 := ⟨bound - 1, by omega⟩
      obtain ⟨values, valuesRan, rfl⟩ := run_readArguments isOpen given enoughTrees
      let called : Node :=
        .mk (.call false) .expression ⟨first, last.next.previousStop⟩ (node :: values)
      have step : (grammar.readAccessStep context first true (node, false)).run start =
          some (.inl (called, false), last.next) := by
        simp [readAccessStep, isOpen, valuesRan, called]
      have unplaced : called.unplaced = Build.call object (values.map Node.unplaced) := by
        rw [Node.unplaced_mk, Node.unplacedAll_eq_map, ← same]
        rfl
      obtain ⟨result, ran, isResult⟩ := inductionHypothesis (Nat.lt_of_succ_lt_succ enough) unplaced
      exact ⟨result, by simp [repeated, step, ran], isResult⟩

/-- A primary expression with the accesses behind it. -/
theorem gives_access
    {object : Node}
    {count : Nat}
    (gives : (grammar.readPrimary context).Gives start object last)
    (accesses : Accesses grammar context last object count tree stop)
    (enough : count < grammar.bound) :
    (grammar.readAccess context).Gives start tree stop := by
  obtain ⟨node, ran, same⟩ := gives
  obtain ⟨accessed, accessesRan, isTree⟩ := accesses.run_repeated enough same start.start
  exact ⟨accessed, by simp [readAccess, ran, readAccesses, accessesRan], isTree⟩

/-- An operand and the alternative in its place. -/
theorem gives_conditional_or
    {left right : Node}
    (operand : IsOperand context start)
    (isBound : grammar.bound = bound + 2)
    (leftGives : (grammar.readAccess context).Gives start left last)
    (isOr : last.token = .symbol "||")
    (rightGives : (grammar.operation context LogicalOperator.or.level).Gives last.next right stop)
    (ends : stop.token.endsOperation) :
    (grammar.readConditional context).Gives start (.expression (.logical .or) [left, right])
      stop := by
  obtain ⟨left, leftRan, rfl⟩ := leftGives
  obtain ⟨right, rightRan, rfl⟩ := rightGives
  have updated : (grammar.readUpdated context).run start = some (left, last) := by
    simp [readUpdated, leftRan, updateOperator?, Cursor.isAt, isOr]
  have isConnective : connective? last context = some (.logical .or) := by
    rw [connective?, isOr]
    rfl
  have binds : Level.lowest < (Connective.logical .or).level := by decide
  have fits (left right : Operand) : operandsFit (.logical .or) left right = true := rfl
  refine ⟨.mk (.logical .or) .expression ⟨start.start, stop.previousStop⟩ [left, right], ?_, rfl⟩
  have operation : (grammar.readOperation context .lowest).run start =
      some (.mk (.logical .or) .expression ⟨start.start, stop.previousStop⟩ [left, right],
        stop) := by
    have rightRan : (grammar.operation context (Connective.logical .or).rightLevel).run last.next =
        some (right, stop) := rightRan
    simp [readOperation, operand.run_readFirstOperand, updated, repeated, isBound, isConnective,
      binds, rightRan, fits, connective?_of_endsOperation ends, Connective.form]
  simp [readConditional, operation, Cursor.isAt_of_endsOperation ends "?" (by decide)]

theorem gives_assignment
    (operand : IsOperand context start)
    (gives : (grammar.readConditional context).Gives start tree stop)
    (closes : stop.token.closes) :
    (grammar.readAssignment context).Gives start tree stop := by
  obtain ⟨node, ran, same⟩ := gives
  exact ⟨node, operand.run_readAssignment_conditional ran closes, same⟩

theorem gives_assignment_access
    (operand : IsOperand context start)
    (isBound : grammar.bound = bound + 1)
    (gives : (grammar.readAccess context).Gives start tree stop)
    (closes : stop.token.closes) :
    (grammar.readAssignment context).Gives start tree stop := by
  obtain ⟨node, ran, same⟩ := gives
  exact ⟨node, operand.run_readAssignment_access isBound ran closes, same⟩

/-- A name before a closing symbol. -/
theorem gives_assignment_name
    (noYield : context.allowsYield = false)
    (isBound : grammar.bound = bound + 1)
    (stands : start.token = .word word false)
    (isNamed : isName context word)
    (closes : start.next.token.closes) :
    (grammar.readAssignment context).Gives start (Build.name word) start.next := by
  have ends := Token.endsOperation_of_closes closes
  have primary : (grammar.readPrimary context).Gives start (Build.name word) start.next :=
    gives_primary_name stands isNamed (Cursor.isAtWord_of_endsOperation ends _)
  exact gives_assignment_access (.ofName noYield stands isNamed (.inr ends)) isBound
    (gives_access primary (.none (Cursor.isAccess_of_endsOperation ends)) (by omega)) closes

end Operand

section Items

/-- A reader takes the items of a list, with the commas between them, up to a closing symbol. -/
structure TakesItems
    (grammar : Grammar)
    (context : Context)
    (close : String)
    (read : Reader Node) :
    Prop where
  isClosing : close ∈ closingSymbols
  noComma : close ≠ ","
  takes :
    ∀ ⦃start : Cursor⦄, start.token.opensItem →
      read.run start = (withSeparator close (grammar.readItem context)).run start

/-- The reader of the arguments of a call. -/
theorem TakesItems.arguments :
    TakesItems grammar context ")" (withSeparator ")" (grammar.readItem context)) :=
  ⟨by decide, by decide, fun _ _ => rfl⟩

/-- The reader of the items of an array. -/
theorem TakesItems.array :
    TakesItems grammar context "]" (grammar.readArrayItem context) := by
  refine ⟨by decide, by decide, fun start opens => ?_⟩
  have noComma := Cursor.isAt_of_opensItem opens "," (by decide)
  cases ran : (grammar.readItem context).run start with
  | none => simp [readArrayItem, noComma, withSeparator, ran]
  | some item =>
      by_cases isClosed : item.2.isAt "]" <;>
        simp [readArrayItem, noComma, withSeparator, readSeparator, ran, isClosed]

variable
  {close : String}
  {read : Reader Node}

/-- The symbol that closes a list closes its last item. -/
theorem TakesItems.closes
    (items : TakesItems grammar context close read)
    (isClosed : stop.token = .symbol close) :
    stop.token.closes := by
  rw [isClosed, Token.closes]
  exact List.contains_iff_mem.mpr items.isClosing

/-- An item before others is read with the comma behind it. -/
theorem givesAll_item
    {trees : List Node}
    (items : TakesItems grammar context close read)
    (opens : start.token.opensItem)
    (gives : (grammar.assignment context.enclosed).Gives start tree last)
    (isComma : last.token = .symbol ",")
    (others : read.GivesAll close last.next trees stop) :
    read.GivesAll close start (tree :: trees) stop := by
  obtain ⟨node, ran, same⟩ := gives
  have noSpread := Cursor.isAt_of_opensItem opens "..." (by decide)
  have notClosed : last.isAt close = false := by
    rw [Cursor.isAt, isComma, beq_eq_false_iff_ne]
    rintro ⟨rfl⟩
    exact items.noComma rfl
  have isComma : last.isAt "," = true := by
    rw [Cursor.isAt, isComma]
    rfl
  refine .cons (Cursor.isAt_of_opensItem opens close (List.mem_cons_of_mem _ items.isClosing))
    ⟨node, ?_, same⟩ others
  rw [items.takes opens]
  simp [withSeparator, readItem, noSpread, ran, notClosed, isComma]

/-- The last item is read up to the closing symbol. -/
theorem givesAll_lastItem
    (items : TakesItems grammar context close read)
    (opens : start.token.opensItem)
    (gives : (grammar.assignment context.enclosed).Gives start tree stop)
    (isClosed : stop.token = .symbol close) :
    read.GivesAll close start [tree] stop := by
  obtain ⟨node, ran, same⟩ := gives
  have noSpread := Cursor.isAt_of_opensItem opens "..." (by decide)
  have isClosed : stop.isAt close = true := by
    rw [Cursor.isAt, isClosed, beq_self_eq_true]
  refine .cons (Cursor.isAt_of_opensItem opens close (List.mem_cons_of_mem _ items.isClosing))
    ⟨node, ?_, same⟩ (.nil isClosed)
  rw [items.takes opens]
  simp [withSeparator, readItem, noSpread, ran, isClosed]

end Items

section Arrow

/-- The inside of an arrow function that is not asynchronous. -/
def inArrow
    (context : Context) :
    Context :=
  { Context.inFunction false false with allowsIn := context.allowsIn }

/-- What stands before an arrow is the head of a function. -/
theorem run_readAssignment_arrow
    {head : Node}
    {items : List Node}
    (operand : IsOperand context start)
    (isBound : grammar.bound = bound + 1)
    (headRan : (grammar.readPrimary context).run start = some (head, arrow))
    (stands : arrow.StandsAt (.symbol "=>"))
    (isHead : head.arrowHead? = some items) :
    (grammar.readAssignment context).run start =
      (grammar.readArrow context start.start false items).run arrow := by
  have ends : arrow.token.endsOperation := by
    rw [stands.token_eq]
    rfl
  have conditional :=
    operand.run_readConditional isBound
      (run_readAccess isBound headRan (Cursor.isAccess_of_endsOperation ends)) ends
  rw [operand.run_readAssignment]
  simp [readAssigned, conditional, Cursor.isAt, stands.token_eq, stands.onLine, isHead, found]

/-- What stands before an arrow is read as the head of a function with these parameters. -/
structure IsArrowHead
    (grammar : Grammar)
    (context : Context)
    (start : Cursor)
    (names : List String)
    (arrow : Cursor) :
    Prop where
  isOperand : IsOperand context start
  stands : arrow.StandsAt (.symbol "=>")
  isHead :
    ∃ head items,
      (grammar.readPrimary context).run start = some (head, arrow) ∧
        head.arrowHead? = some items ∧ items.map Node.unplaced = names.map Build.target

/-- Empty parentheses before an arrow. -/
theorem IsArrowHead.noParameters
    (noYield : context.allowsYield = false)
    (isBound : grammar.bound = bound + 1)
    (passes : start.Passes [.symbol "(", .symbol ")"] arrow)
    (stands : arrow.StandsAt (.symbol "=>")) :
    IsArrowHead grammar context start [] arrow := by
  obtain ⟨⟨isOpen, _⟩, ⟨isClosed, _⟩, rfl⟩ := passes
  refine ⟨.ofOther noYield (by rw [isOpen]; rfl) (by rw [isOpen]; rfl), stands,
    .mk .arrowParameters .expression ⟨start.start, start.next.next.previousStop⟩ [], [], ?_, rfl,
    rfl⟩
  simp [readPrimary, isOpen, readParenthesized, isBound, repeated, Cursor.isAt, isClosed]

/-- A name before an arrow. -/
theorem IsArrowHead.ofName
    (noYield : context.allowsYield = false)
    (isNamed : isName context word)
    (isWord : start.token = .word word false)
    (stands : start.next.StandsAt (.symbol "=>")) :
    IsArrowHead grammar context start [word] start.next := by
  have ends : start.next.token.endsOperation := by
    rw [stands.token_eq]
    rfl
  refine ⟨.ofName noYield isWord isNamed (.inr ends), stands,
    .mk (.identifier word) .expression ⟨start.start, start.next.previousStop⟩ [],
    [.mk (.identifier word) .part ⟨start.start, start.next.previousStop⟩ []], ?_, rfl, rfl⟩
  exact run_readPrimary_of_name isWord isNamed (Cursor.isAtWord_of_endsOperation ends _)

/-- A name in parentheses before an arrow. -/
theorem IsArrowHead.enclosedName
    {bound : Nat}
    (noYield : context.allowsYield = false)
    (isBound : grammar.bound = bound + 2)
    (isOpen : start.token = .symbol "(")
    (isWord : start.next.token = .word word false)
    (gives : (grammar.assignment context.enclosed).Gives start.next (Build.name word) last)
    (isClosed : last.token = .symbol ")")
    (stands : last.next.StandsAt (.symbol "=>")) :
    IsArrowHead grammar context start [word] last.next := by
  obtain ⟨⟨form, role, span, children⟩, ran, same⟩ := gives
  rw [Node.unplaced_mk, Node.unplacedAll_eq_map] at same
  obtain ⟨rfl, rfl, _, noChildren⟩ := Node.mk.inj same
  obtain rfl := List.map_eq_nil_iff.mp noChildren
  refine ⟨.ofOther noYield (by rw [isOpen]; rfl) (by rw [isOpen]; rfl), stands,
    .mk .parenthesized .expression ⟨start.start, last.next.previousStop⟩
      [.mk (.identifier word) .expression span []],
    [.mk (.identifier word) .part span []], ?_, rfl, rfl⟩
  simp [readPrimary, isOpen, readParenthesized, isBound, repeated, Cursor.isAt, isWord, ran,
    isClosed]

/-- An arrow function that has a value. -/
theorem gives_assignment_arrow
    {names : List String}
    (isHead : IsArrowHead grammar context start names arrow)
    (isBound : grammar.bound = bound + 1)
    (gives : (grammar.assignment (inArrow context)).Gives arrow.next tree stop)
    (noBody : arrow.next.isAt "\x7b" = false) :
    (grammar.readAssignment context).Gives start (Build.arrowValue names tree) stop := by
  obtain ⟨operand, stands, head, items, headRan, isHead, areNames⟩ := isHead
  obtain ⟨value, ran, rfl⟩ := gives
  rw [inArrow] at ran
  have isArrow : arrow.isAt "=>" = true := by
    rw [Cursor.isAt, stands.token_eq]
    rfl
  refine ⟨.mk (.arrow { isConcise := true }) .expression ⟨start.start, stop.previousStop⟩
    [.mk .parameters .part ⟨start.start, arrow.previousStop⟩ items,
      .mk (.body []) .part ⟨arrow.next.start, stop.previousStop⟩
        [.mk .expressionStatement .statement ⟨arrow.next.start, stop.previousStop⟩ [value]]],
    ?_, ?_⟩
  · rw [run_readAssignment_arrow operand isBound headRan stands isHead]
    simp [readArrow, isArrow, stands.onLine, noBody, ran]
  · simp only [Node.unplaced_mk, Node.unplacedAll_eq_map, List.map_cons, List.map_nil, areNames]
    rfl

/-- An arrow function with a body. -/
theorem gives_assignment_block
    {names : List String}
    (isHead : IsArrowHead grammar context start names arrow)
    (isBound : grammar.bound = bound + 1)
    (gives : (grammar.readBody (inArrow context)).Gives arrow.next tree stop)
    (hasBody : arrow.next.token = .symbol "\x7b") :
    (grammar.readAssignment context).Gives start
      (.expression (.arrow {}) [Build.parameters names, tree]) stop := by
  obtain ⟨operand, stands, head, items, headRan, isHead, areNames⟩ := isHead
  obtain ⟨body, ran, rfl⟩ := gives
  rw [inArrow] at ran
  have isArrow : arrow.isAt "=>" = true := by
    rw [Cursor.isAt, stands.token_eq]
    rfl
  have hasBody : arrow.next.isAt "\x7b" = true := by
    rw [Cursor.isAt, hasBody]
    rfl
  refine ⟨.mk (.arrow {}) .expression ⟨start.start, stop.previousStop⟩
    [.mk .parameters .part ⟨start.start, arrow.previousStop⟩ items, body], ?_, ?_⟩
  · rw [run_readAssignment_arrow operand isBound headRan stands isHead]
    simp [readArrow, isArrow, stands.onLine, hasBody, ran]
  · simp only [Node.unplaced_mk, Node.unplacedAll_eq_map, List.map_cons, List.map_nil, areNames]
    rfl

/-- Statements up to a closing symbol are read behind others; only the first may be a directive. -/
theorem run_readStatementSteps
    {read : Reader Node}
    {close : String}
    {trees : List Node}
    (given : read.GivesAll close start trees stop)
    (enough : trees.length < bound)
    (statements : List Node)
    (noString : statements = [] → ∀ value raw, start.token ≠ .string value raw) :
    ∃ nodes,
      (repeated (readStatementStep (Cursor.isAt · close) read) bound ([], statements)).run start =
          some (([], statements.reverse ++ nodes), stop) ∧
        nodes.map Node.unplaced = trees := by
  induction given generalizing bound statements with
  | nil closes =>
      obtain ⟨bound, rfl⟩ : ∃ fewer, bound = fewer + 1 := ⟨bound - 1, by omega⟩
      exact ⟨[], by simp [repeated, readStatementStep, closes], rfl⟩
  | @cons start between stop tree trees notClosed gives others inductionHypothesis =>
      obtain ⟨bound, rfl⟩ : ∃ fewer, bound = fewer + 1 := ⟨bound - 1, by omega⟩
      obtain ⟨node, ran, rfl⟩ := gives
      have step :
          (readStatementStep (Cursor.isAt · close) read ([], statements)).run start =
            some (.inl ([], node :: statements), between) := by
        cases statements with
        | nil =>
            have noDirective := directive?_of_noString (noString rfl) node
            simp [readStatementStep, notClosed, ran, noDirective]
        | cons first rest => simp [readStatementStep, notClosed, ran]
      rw [List.length_cons, Nat.add_lt_add_iff_right] at enough
      obtain ⟨nodes, othersRan, rfl⟩ :=
        inductionHypothesis enough (node :: statements)
          (fun isNil => absurd isNil (List.cons_ne_nil _ _))
      rw [List.reverse_cons, List.append_assoc, List.singleton_append] at othersRan
      exact ⟨node :: nodes, by simp [repeated, step, othersRan], rfl⟩

/-- A body that starts with no string has the statements in its braces. -/
theorem gives_body
    {trees : List Node}
    (isOpen : start.token = .symbol "\x7b")
    (given : (grammar.statement context .listed).GivesAll "\x7d" start.next trees last)
    (enough : trees.length < grammar.bound)
    (noString : ∀ value raw, start.next.token ≠ .string value raw) :
    (grammar.readBody context).Gives start (Build.body trees) last.next := by
  obtain ⟨nodes, ran, rfl⟩ := run_readStatementSteps given enough [] (fun _ => noString)
  rw [List.reverse_nil, List.nil_append] at ran
  have isOpen : start.isAt "\x7b" = true := by
    rw [Cursor.isAt, isOpen]
    rfl
  refine ⟨.mk (.body []) .part ⟨start.start, last.next.previousStop⟩ nodes, ?_, ?_⟩
  · simp [readBody, readStatements, isOpen, ran, given.isAt_stop]
  · rw [Node.unplaced_mk, Node.unplacedAll_eq_map]
    rfl

end Arrow

section Statement

/-- A word that names something starts an expression statement, if it is not `let`. -/
theorem readWordStatement_name
    (isNamed : isName context word)
    (noLet : word ≠ "let")
    (noFunction : word ≠ "async" ∨ start.next.isAtWord "function" = false)
    (placement : Placement) :
    (grammar.readWordStatement context placement word).run start =
      (grammar.readLabeledOrExpression context).run start := by
  have unreserved := unreserved_of_isName isNamed
  rw [readWordStatement, StateT.run_bind, run_cursor]
  dsimp only [Option.bind_eq_bind, Option.bind_some]
  split
  case h_3 => exact (noLet rfl).elim
  case h_19 => rcases noFunction with noAsync | noFunction <;> simp [*]
  all_goals exact absurd unreserved (by decide)

/-- An expression that is no name is a statement up to its end. -/
theorem run_readLabeledOrExpression
    {node : Node}
    (ran : (grammar.readAssignment context).run start = some (node, last))
    (noName : node.name? = none)
    (noComma : last.isAt "," = false)
    (ended : semicolon.run last = some ((), stop)) :
    (grammar.readLabeledOrExpression context).run start =
      some (.mk .expressionStatement .statement ⟨start.start, stop.previousStop⟩ [node],
        stop) := by
  simp [readLabeledOrExpression, readExpression, ran, noComma, noName, readExpressionEnd, ended]

/-- A semicolon ends a statement. -/
theorem run_semicolon_of_symbol
    (isEnd : last.token = .symbol ";") :
    semicolon.run last = some ((), last.next) := by
  simp [semicolon, Cursor.isAt, isEnd]

theorem assignmentOperator?_plain
    (isSymbol : start.token = .symbol "=") :
    assignmentOperator? start = some .plain := by
  simp only [assignmentOperator?, Cursor.isAt, isSymbol]
  rfl

/-- What stands before an assignment symbol is assigned the value behind it. -/
theorem run_readAssignment_assign
    {left target value : Node}
    (operand : IsOperand context start)
    (isBound : grammar.bound = bound + 1)
    (leftRan : (grammar.readAccess context).run start = some (left, last))
    (isTarget : left.target? false = some target)
    (isAssigned : last.token = .symbol "=")
    (ran : (grammar.assignment context).run last.next = some (value, stop)) :
    (grammar.readAssignment context).run start =
      some
        (.mk (.assignment .plain) .expression ⟨start.start, stop.previousStop⟩ [target, value],
          stop) := by
  have ends : last.token.endsOperation := by
    rw [isAssigned]
    rfl
  have noArrow : last.isAt "=>" = false := by
    rw [Cursor.isAt, isAssigned]
    rfl
  rw [operand.run_readAssignment]
  simp [readAssigned, operand.run_readConditional isBound leftRan ends, noArrow,
    assignmentOperator?_plain isAssigned, isTarget, found, ran]

/-- The assignment of a value to a name is a statement, also where the name is `let`. -/
theorem gives_statement_assign
    {value : Node}
    (noYield : context.allowsYield = false)
    (isBound : grammar.bound = bound + 1)
    (stands : start.token = .word word false)
    (isNamed : isName context word)
    (isAssigned : start.next.token = .symbol "=")
    (gives : (grammar.assignment context).Gives start.next.next value last)
    (isEnd : last.token = .symbol ";") :
    (grammar.readStatement context placement).Gives start
      (Build.assign (Build.target word) value) last.next := by
  obtain ⟨value, valueRan, rfl⟩ := gives
  have ends : start.next.token.endsOperation := by
    rw [isAssigned]
    rfl
  have noFunction := Cursor.isAtWord_of_endsOperation ends "function"
  have ran := run_readAssignment_assign (.ofName noYield stands isNamed (.inr ends)) isBound
    (run_readAccess isBound (run_readPrimary_of_name stands isNamed noFunction)
      (Cursor.isAccess_of_endsOperation ends))
    rfl isAssigned valueRan
  have ended := run_semicolon_of_symbol isEnd
  have noComma : last.isAt "," = false := by
    rw [Cursor.isAt, isEnd]
    rfl
  refine ⟨.mk .expressionStatement .statement ⟨start.start, last.next.previousStop⟩
    [.mk (.assignment .plain) .expression ⟨start.start, last.previousStop⟩
      [.mk (.identifier word) .part ⟨start.start, start.next.previousStop⟩ [], value]], ?_, rfl⟩
  rw [run_readStatement _ _ _ stands]
  by_cases isLet : word = "let"
  · subst isLet
    have byLet : (grammar.readWordStatement context placement "let").run start =
        (grammar.readLetStatement context placement).run start := rfl
    have isOperator : isAtLetOperator start.next context = true := by
      rw [isAtLetOperator, connective?_of_endsOperation ends,
        assignmentOperator?_plain isAssigned]
      rfl
    rw [byLet]
    simp [readLetStatement, isOperator, ran, readExpressionEnd, ended]
  · rw [readWordStatement_name isNamed isLet (.inr noFunction)]
    exact run_readLabeledOrExpression ran rfl noComma ended

/-- The declaration of a variable without a value is read up to its end. -/
theorem run_readStatement_variable
    {inner : Grammar}
    (isPattern : grammar.pattern = inner.readPattern)
    (isBound : grammar.bound = bound + 1)
    (isNamed : isName .top word)
    (passes : start.Passes [.word "var" false, .word word false] last)
    (noInitial : last.isAt "=" = false)
    (noComma : last.isAt "," = false)
    (ended : semicolon.run last = some ((), stop)) :
    ∃ span declaratorSpan nameSpan,
      (grammar.readStatement .top .listed).run start =
        some
          (.mk (.declaration .var) .statement span
            [.mk .declarator .part declaratorSpan [.mk (.identifier word) .part nameSpan []]],
            stop) := by
  obtain ⟨⟨atVar, _⟩, ⟨atName, _⟩, rfl⟩ := passes
  have isVar : start.isAtWord "var" = true := by
    rw [Cursor.isAtWord, atVar]
    rfl
  have noSymbol (symbol : String) : start.next.isAt symbol = false := by
    rw [Cursor.isAt, atName]
    rfl
  have named : start.next.name? .top = some word := by
    rw [Cursor.name?, atName]
    exact if_pos isNamed
  let nameSpan : Span := ⟨start.next.start, start.next.next.previousStop⟩
  have byWord : (grammar.readStatement .top .listed).run start =
      (grammar.readDeclaration .top .statement).run start :=
    run_readStatement grammar .top .listed atVar
  have readsPattern :
      (grammar.pattern .top).run start.next =
        some (.mk (.identifier word) .part nameSpan [], start.next.next) := by
    simp [isPattern, readPattern, readNamePattern, Reader.name, noSymbol, named, nameSpan]
  have readsDeclarator :
      (grammar.readDeclarator .top).run start.next =
        some (.mk .declarator .part nameSpan [.mk (.identifier word) .part nameSpan []],
          start.next.next) := by
    simp [readDeclarator, readsPattern, readInitial, noInitial, nameSpan]
  have readsVariables :
      (grammar.readVariables .top .statement).run start =
        some
          (.mk (.declaration .var) .statement ⟨start.start, start.next.next.previousStop⟩
            [.mk .declarator .part nameSpan [.mk (.identifier word) .part nameSpan []]],
            start.next.next) := by
    simp [readVariables, readVariableKeyword, isVar, readsDeclarator, isBound, Reader.repeated,
      noComma]
  refine ⟨⟨start.start, stop.previousStop⟩, nameSpan, nameSpan, ?_⟩
  rw [byWord]
  simp [readDeclaration, readsVariables, declaratorsFit, declaratorFits, readEnd, ended,
    Node.form, Node.children, Node.role, Node.span]

end Statement

end Grammar

namespace Node

/-- The node as it is when parentheses around it are removed. -/
def wrapped
    (node : Node) :
    Node :=
  node.withForm node.form.wrapped

theorem settle?_parenthesized
    (role : Role)
    (span : Span)
    (inner : Node) :
    (Node.mk .parenthesized role span [inner]).settle? = inner.settle?.map wrapped := by
  rw [settle?]
  rfl

/-- What is no pair of parentheses around a node settles with its parts. -/
theorem settle?_other
    {form : Form}
    {children : List Node}
    (isOther : form = .parenthesized → children.length ≠ 1)
    (role : Role)
    (span : Span) :
    (Node.mk form role span children).settle? =
      if form.isUnsettled then none
      else (settleAll? children).map (fun settled => .mk form role span settled) := by
  refine settle?.eq_2 _ _ _ _ ?_
  rintro inner rfl rfl
  exact isOther rfl rfl

/-- A tree settles with its parts, if its own form does. -/
theorem settle?_of_children
    {form : Form}
    {children settled : List Node}
    (isOther : form ≠ .parenthesized)
    (canSettle : form.isUnsettled = false)
    (settles : settleAll? children = some settled)
    (role : Role)
    (span : Span) :
    (Node.mk form role span children).settle? = some (.mk form role span settled) := by
  rw [settle?_other (fun isEnclosed => (isOther isEnclosed).elim), canSettle, settles]
  rfl

theorem settleAll?_cons
    (node : Node)
    (nodes : List Node) :
    settleAll? (node :: nodes) =
      node.settle?.bind (fun settled => (settleAll? nodes).map (settled :: ·)) := by
  rw [settleAll?]
  cases node.settle? <;> cases settleAll? nodes <;> rfl

theorem settleAll?_of_cons
    {node settled : Node}
    {nodes others : List Node}
    (first : node.settle? = some settled)
    (rest : settleAll? nodes = some others) :
    settleAll? (node :: nodes) = some (settled :: others) := by
  rw [settleAll?_cons, first, rest]
  rfl

theorem unplaced_wrapped
    (node : Node) :
    node.wrapped.unplaced = node.unplaced.wrapped := by
  obtain ⟨form, role, span, children⟩ := node
  simp only [wrapped, withForm, unplaced_mk, Node.form]

/-- Lists settle in the same way, if their items do. -/
theorem settleAll?_unplacedAll
    {nodes : List Node}
    (alike : ∀ node ∈ nodes, node.unplaced.settle? = node.settle?.map unplaced) :
    settleAll? (unplacedAll nodes) = (settleAll? nodes).map unplacedAll := by
  induction nodes with
  | nil => rw [unplacedAll, settleAll?, Option.map_some, unplacedAll]
  | cons node nodes inductionHypothesis =>
      have first := alike node List.mem_cons_self
      have others :=
        inductionHypothesis (fun other member => alike other (List.mem_cons_of_mem _ member))
      rw [unplacedAll, settleAll?_cons, settleAll?_cons, first, others]
      cases node.settle? with
      | none => rfl
      | some settled =>
          cases settleAll? nodes with
          | none => rfl
          | some rest => simp [unplacedAll]

/-- Parentheses are removed from a tree in the same way, wherever its parts stand. -/
theorem settle?_unplaced
    (node : Node) :
    node.unplaced.settle? = node.settle?.map unplaced := by
  induction node using inductionOnChildren with
  | step form role span children inductionHypothesis =>
      by_cases isWrapped : form = .parenthesized ∧ children.length = 1
      · obtain ⟨rfl, isSingle⟩ := isWrapped
        obtain ⟨inner, rfl⟩ := List.length_eq_one_iff.mp isSingle
        have inside := inductionHypothesis inner (by simp)
        have commutes : unplaced ∘ wrapped = wrapped ∘ unplaced := funext unplaced_wrapped
        rw [unplaced_mk, unplacedAll, unplacedAll, settle?_parenthesized, settle?_parenthesized,
          inside, Option.map_map, Option.map_map, commutes]
      · rw [not_and] at isWrapped
        have inside := settleAll?_unplacedAll inductionHypothesis
        have made : unplaced ∘ (fun settled => Node.mk form role span settled) =
            (fun settled => .mk form role .none settled) ∘ unplacedAll :=
          funext (fun settled => unplaced_mk form role span settled)
        rw [unplaced_mk, settle?_other isWrapped, settle?_other, inside]
        · split
          · rfl
          · rw [Option.map_map, Option.map_map, made]
        · rwa [unplacedAll_eq_map, List.length_map]

end Node

/-- What starts with a word or symbol has no first line for the system. -/
theorem splitHashbang_of_textAfter?
    {first : Token}
    {tokens : List Token}
    {text rest : List Char}
    (opens : first.isWordOrSymbol)
    (behind : textAfter? (first :: tokens) text = some rest) :
    splitHashbang text = (none, text) := by
  unfold splitHashbang
  split
  · next line =>
      have isInvalid : firstToken? ('#' :: '!' :: line) = some (.invalid, []) := rfl
      rw [textAfter?, isInvalid, Option.bind_some] at behind
      split at behind
      · next isFirst =>
          cases isFirst
          cases opens
      · cases behind
  · rfl

/-- A snippet is the tree that is made of all of its tokens, without its parentheses. -/
theorem readSnippet_of_tokens
    {source : String}
    {first : Token}
    {tokens : List Token}
    {tree settled : Node}
    (opens : first.isWordOrSymbol)
    (behind : textAfter? (first :: tokens) source.toList = some [])
    (gives :
      ∀ ⦃start stop⦄, start.Passes (first :: tokens) stop → stop.token = .finish →
        ((Grammar.ofSize source.toList.length).readStatement .top .listed).Gives start tree stop)
    (settles : tree.settle? = some settled)
    (noExport : ∀ node : Node, node.form = settled.form → node.exportedNames = []) :
    readSnippet source = .ok settled := by
  have passes := Cursor.passes_of_textAfter? behind source.toList.length
  have notAtEnd : (Cursor.ofText source.toList.length source.toList).isAtEnd = false := by
    rw [Cursor.isAtEnd, passes.1.token_eq, beq_eq_false_iff_ne]
    rintro rfl
    cases opens
  have noString (value raw : String) :
      (Cursor.ofText source.toList.length source.toList).token ≠ .string value raw := by
    rw [passes.1.token_eq]
    rintro rfl
    cases opens
  obtain ⟨node, ran, rfl⟩ := gives passes rfl
  rw [Node.settle?_unplaced] at settles
  obtain ⟨other, settles, same⟩ := Option.map_eq_some_iff.mp settles
  have noNames : other.exportedNames = [] := by
    refine noExport other ?_
    rw [← same, Node.form_unplaced]
  rw [readSnippet, readStatement,
    readProgram_of_single (splitHashbang_of_textAfter? opens behind) notAtEnd noString ran rfl
      settles (by rw [noNames]; exact List.nodup_nil)]
  exact congrArg Except.ok same

end Reactivity.Script
