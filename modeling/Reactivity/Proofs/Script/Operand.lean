import Reactivity.Proofs.Script.Single

namespace Reactivity.Script

open Reader

/-!
# Operands that stand alone

An operand before a closing symbol, or at the end of a script, is all that there is of an
expression: no access, operator or choice goes on behind it. Then every reader of
expressions returns the operand.
-/

/-- The symbols before which an expression ends, whatever it is. -/
def closingSymbols : List String :=
  [")", "]", "\x7d", ",", ";", ":"]

namespace Token

/-- An expression ends before the token. -/
def closes :
    Token →
    Bool
  | .symbol text => closingSymbols.contains text
  | .finish => true
  | _ => false

/-- An operation ends before the token, which may make it a target or parameters. -/
def endsOperation :
    Token →
    Bool
  | .symbol text => ("=" :: "=>" :: closingSymbols).contains text
  | .finish => true
  | _ => false

/-- The token goes on with an access of what stands before it. -/
def isAccess :
    Token →
    Bool
  | .symbol text => [".", "[", "?.", "(", "\x60"].contains text
  | _ => false

/-- No operator stands before an operand that starts with the token. -/
def opensOperand :
    Token →
    Bool
  | .symbol text => ["(", "[", "\x7b"].contains text
  | .word text _ => ["null", "true", "false", "this"].contains text || !reservedWords.contains text
  | .privateWord _ => false
  | _ => true

/-- The token neither ends a list nor spreads a value in it. -/
def opensItem :
    Token →
    Bool
  | .symbol text => !("..." :: closingSymbols).contains text
  | _ => true

theorem opensOperand_of_unreserved
    {word : String}
    (unreserved : reservedWords.contains word = false)
    (hasEscape : Bool) :
    (Token.word word hasEscape).opensOperand := by
  rw [opensOperand, unreserved, Bool.not_false, Bool.or_true]

/-- What closes an expression ends its operations. -/
theorem endsOperation_of_closes
    {token : Token}
    (closes : token.closes) :
    token.endsOperation := by
  cases token with
  | symbol symbol =>
      simp only [Token.closes, List.contains_eq_mem, decide_eq_true_eq] at closes
      simp [endsOperation, closes]
  | finish => rfl
  | _ => cases closes

theorem isWord_of_endsOperation
    {token : Token}
    (ends : token.endsOperation) :
    token.isWord = false := by
  cases token with
  | word => cases ends
  | _ => rfl

end Token

namespace Cursor

variable {start stop : Cursor}

/-- Only an assignment, an arrow or a closing symbol ends an operation. -/
theorem isAt_of_endsOperation
    (ends : stop.token.endsOperation)
    (symbol : String)
    (isOther : symbol ∉ "=" :: "=>" :: closingSymbols) :
    stop.isAt symbol = false := by
  rw [isAt, beq_eq_false_iff_ne]
  intro same
  rw [same] at ends
  exact isOther (by simpa [Token.endsOperation] using ends)

theorem isAt_of_closes
    (closes : stop.token.closes)
    (symbol : String)
    (isOther : symbol ∉ closingSymbols) :
    stop.isAt symbol = false := by
  rw [isAt, beq_eq_false_iff_ne]
  intro same
  rw [same] at closes
  exact isOther (by simpa [Token.closes] using closes)

/-- No access goes on behind the end of an operation. -/
theorem isAccess_of_endsOperation
    (ends : stop.token.endsOperation) :
    stop.token.isAccess = false := by
  cases token : stop.token with
  | symbol symbol =>
      have noAccess : ∀ access ∈ [".", "[", "?.", "(", "\x60"],
          access ∉ "=" :: "=>" :: closingSymbols := by
        decide
      rw [token] at ends
      rw [Token.isAccess, List.contains_eq_mem, decide_eq_false_iff_not]
      exact fun isAccess => noAccess symbol isAccess (by simpa [Token.endsOperation] using ends)
  | _ => rfl

theorem isAtWord_of_endsOperation
    (ends : stop.token.endsOperation)
    (word : String) :
    stop.isAtWord word = false := by
  rw [isAtWord, beq_eq_false_iff_ne]
  intro same
  rw [same] at ends
  cases ends

theorem name?_of_endsOperation
    (ends : stop.token.endsOperation)
    (context : Context) :
    stop.name? context = none := by
  unfold name?
  split
  · next same =>
      rw [same] at ends
      cases ends
  · rfl

/-- A symbol that no operand starts with is not there. -/
theorem isAt_of_opensOperand
    (opens : start.token.opensOperand)
    (symbol : String)
    (isOther : symbol ∉ ["(", "[", "\x7b"]) :
    start.isAt symbol = false := by
  rw [isAt, beq_eq_false_iff_ne]
  intro same
  rw [same] at opens
  exact isOther (by simpa [Token.opensOperand] using opens)

/-- A word that no operand starts with is not there. -/
theorem isAtWord_of_opensOperand
    (opens : start.token.opensOperand)
    {word : String}
    (isOther : (Token.word word false).opensOperand = false) :
    start.isAtWord word = false := by
  rw [isAtWord, beq_eq_false_iff_ne]
  intro same
  rw [same, isOther] at opens
  cases opens

/-- A symbol that ends or spreads the items of a list is not there. -/
theorem isAt_of_opensItem
    (opens : start.token.opensItem)
    (symbol : String)
    (isOther : symbol ∈ "..." :: closingSymbols) :
    start.isAt symbol = false := by
  rw [isAt, beq_eq_false_iff_ne]
  intro same
  rw [same, Token.opensItem, List.contains_iff_mem.mpr isOther] at opens
  cases opens

end Cursor

namespace Grammar

variable
  {grammar : Grammar}
  {context : Context}
  {bound : Nat}
  {start stop : Cursor}
  {node : Node}

/-- What ends an operation updates nothing. -/
theorem updateOperator?_of_endsOperation
    (ends : stop.token.endsOperation) :
    updateOperator? stop = none := by
  simp [updateOperator?, Cursor.isAt_of_endsOperation ends "++" (by decide),
    Cursor.isAt_of_endsOperation ends "--" (by decide)]

/-- What ends an operation does not join operands. -/
theorem connective?_of_endsOperation
    (ends : stop.token.endsOperation) :
    connective? stop context = none := by
  unfold connective?
  cases token : stop.token with
  | symbol symbol =>
      rw [token] at ends
      simp only [Token.endsOperation, List.contains_eq_mem, decide_eq_true_eq, closingSymbols,
        List.mem_cons, List.not_mem_nil, or_false] at ends
      rcases ends with rfl | rfl | rfl | rfl | rfl | rfl | rfl | rfl <;> rfl
  | finish => rfl
  | _ => simp [token, Token.endsOperation] at ends

theorem assignmentOperator?_of_closes
    (closes : stop.token.closes) :
    assignmentOperator? stop = none := by
  have noClosing : ∀ operator ∈ AssignmentOperator.all, operator.symbol ∉ closingSymbols := by
    decide
  rw [assignmentOperator?, List.find?_eq_none]
  intro operator isOperator
  rw [Cursor.isAt_of_closes closes _ (noClosing operator isOperator)]
  exact Bool.false_ne_true

/-- There is no access before a token that is none. -/
theorem run_readAccessStep
    (noAccess : stop.token.isAccess = false)
    (context : Context)
    (first : Nat)
    (allowsCalls : Bool)
    (reached : Node × Bool) :
    (grammar.readAccessStep context first allowsCalls reached).run stop =
      some (.inr reached, stop) := by
  simp only [readAccessStep, StateT.run_bind, run_cursor, Option.bind_eq_bind, Option.bind_some]
  split
  iterate 5
    next isToken =>
      rw [isToken] at noAccess
      exact absurd noAccess (by decide)
  rfl

/-- A primary expression alone is all that is accessed. -/
theorem run_readAccess
    (isBound : grammar.bound = bound + 1)
    (ran : (grammar.readPrimary context).run start = some (node, stop))
    (noAccess : stop.token.isAccess = false) :
    (grammar.readAccess context).run start = some (node, stop) := by
  simp [readAccess, readAccesses, isBound, repeated, ran, run_readAccessStep noAccess]

/--
An operand starts at the cursor, with no operator before it.

Neither does it start with `yield`, nor as an arrow function that is asynchronous.
-/
structure IsOperand
    (context : Context)
    (start : Cursor) :
    Prop where
  opens : start.token.opensOperand
  noYield : context.allowsYield = false
  noAsync : start.isAtWord "async" = false ∨ start.next.token.endsOperation

namespace IsOperand

theorem unaryOperator?_eq
    (operand : IsOperand context start) :
    unaryOperator? start = none := by
  rw [unaryOperator?, List.find?_eq_none]
  have noSymbol := Cursor.isAt_of_opensOperand operand.opens
  have noWord {word : String} := @Cursor.isAtWord_of_opensOperand _ operand.opens word
  intro operator _
  cases operator <;>
    simp [UnaryOperator.isWord, UnaryOperator.symbol, noSymbol, noWord, Token.opensOperand,
      reservedWords]

theorem updateOperator?_eq
    (operand : IsOperand context start) :
    updateOperator? start = none := by
  simp [updateOperator?, Cursor.isAt_of_opensOperand operand.opens]

/-- An operand without a unary operator is read as an access. -/
theorem run_readOperand
    (operand : IsOperand context start) :
    (grammar.readOperand context).run start = (grammar.readUpdated context).run start := by
  have noAwait : start.isAtWord "await" = false :=
    Cursor.isAtWord_of_opensOperand operand.opens (by decide)
  simp [readOperand, operand.unaryOperator?_eq, operand.updateOperator?_eq, noAwait]

theorem run_readFirstOperand
    (operand : IsOperand context start) :
    (grammar.readFirstOperand context).run start = (grammar.readUpdated context).run start := by
  rw [← operand.run_readOperand, readFirstOperand, StateT.run_bind, run_cursor]
  dsimp only [Option.bind_eq_bind, Option.bind_some]
  split
  · next name isPrivate =>
      have opens := operand.opens
      rw [isPrivate] at opens
      cases opens
  · rfl

/-- What starts as an operand is no yield and no asynchronous function. -/
theorem run_readAssignment
    (operand : IsOperand context start) :
    (grammar.readAssignment context).run start = (grammar.readAssigned context).run start := by
  have noArrow : isAtAsyncArrow start context = false := by
    rcases operand.noAsync with noAsync | ends
    · simp [isAtAsyncArrow, noAsync]
    · simp [isAtAsyncArrow, Cursor.name?_of_endsOperation ends]
  have noHead : isAtAsyncHead start = false := by
    rcases operand.noAsync with noAsync | ends
    · simp [isAtAsyncHead, noAsync]
    · simp [isAtAsyncHead, Cursor.isAt_of_endsOperation ends "(" (by decide)]
  simp [readAssignment, readAsyncHead?, operand.noYield, noArrow, noHead]

/-- An access alone is an operation. -/
theorem run_readOperation
    (operand : IsOperand context start)
    (isBound : grammar.bound = bound + 1)
    (ran : (grammar.readAccess context).run start = some (node, stop))
    (ends : stop.token.endsOperation)
    (minimum : Level) :
    (grammar.readOperation context minimum).run start = some (node, stop) := by
  have updated : (grammar.readUpdated context).run start = some (node, stop) := by
    simp [readUpdated, ran, updateOperator?_of_endsOperation ends]
  simp [readOperation, operand.run_readFirstOperand, updated, repeated, isBound,
    connective?_of_endsOperation ends]

/-- An access alone is no choice. -/
theorem run_readConditional
    (operand : IsOperand context start)
    (isBound : grammar.bound = bound + 1)
    (ran : (grammar.readAccess context).run start = some (node, stop))
    (ends : stop.token.endsOperation) :
    (grammar.readConditional context).run start = some (node, stop) := by
  simp [readConditional, operand.run_readOperation isBound ran ends,
    Cursor.isAt_of_endsOperation ends "?" (by decide)]

/-- An operation before a closing symbol is all that there is. -/
theorem run_readAssignment_conditional
    (operand : IsOperand context start)
    (ran : (grammar.readConditional context).run start = some (node, stop))
    (closes : stop.token.closes) :
    (grammar.readAssignment context).run start = some (node, stop) := by
  rw [operand.run_readAssignment]
  simp [readAssigned, ran, assignmentOperator?_of_closes closes,
    Cursor.isAt_of_closes closes "=>" (by decide)]

/-- An access before a closing symbol is all that there is. -/
theorem run_readAssignment_access
    (operand : IsOperand context start)
    (isBound : grammar.bound = bound + 1)
    (ran : (grammar.readAccess context).run start = some (node, stop))
    (closes : stop.token.closes) :
    (grammar.readAssignment context).run start = some (node, stop) :=
  operand.run_readAssignment_conditional
    (operand.run_readConditional isBound ran (Token.endsOperation_of_closes closes)) closes

/-- Where there is no primary expression, there is none at all. -/
theorem run_readAssignment_none
    (operand : IsOperand context start)
    (failed : (grammar.readPrimary context).run start = none) :
    (grammar.readAssignment context).run start = none := by
  have noUpdated : (grammar.readUpdated context).run start = none := by
    simp [readUpdated, readAccess, failed]
  rw [operand.run_readAssignment]
  simp [readAssigned, readConditional, readOperation, operand.run_readFirstOperand, noUpdated]

end IsOperand

end Grammar

end Reactivity.Script
