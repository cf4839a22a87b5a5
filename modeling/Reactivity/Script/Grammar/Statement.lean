import Reactivity.Script.Grammar.Module

namespace Reactivity.Script.Grammar

open Reader

/-!
# Statements
-/

/-- Read a block. -/
def readBlock
    (grammar : Grammar)
    (context : Context)
    (role : Role) :
    Reader Node := do
  let start ← position
  expect "\x7b"
  let statements ← untilSymbol grammar.bound "\x7d" (grammar.statement context .listed)
  finish start role .block statements

/-- Read the end of an expression statement. -/
def readExpressionEnd
    (start : Nat)
    (value : Node) :
    Reader Node := do
  semicolon
  finish start .statement .expressionStatement [value]

/-- Read a condition in parentheses. -/
def readCondition
    (grammar : Grammar)
    (context : Context) :
    Reader Node :=
  inParentheses (grammar.readExpression context)

/-- Read the rest of an `if` statement. -/
def readIf
    (grammar : Grammar)
    (context : Context)
    (start : Nat) :
    Reader Node := do
  let condition ← grammar.readCondition context
  let consequent ← grammar.statement context .single
  if ← acceptWord "else" then
    let alternative ← grammar.statement context .single
    finish start .statement .conditionally [condition, consequent, alternative]
  else
    finish start .statement .conditionally [condition, consequent]

/-- Read an expression if the next token is not the symbol that ends its place. -/
def readOptional
    (grammar : Grammar)
    (context : Context)
    (close : String) :
    Reader Node := do
  if ← isAt close then
    return .absent
  else
    grammar.readExpression context

/-- Read the rest of a loop with a condition and a step. -/
def readForRest
    (grammar : Grammar)
    (context : Context)
    (start : Nat)
    (first : Node) :
    Reader Node := do
  expect ";"
  let condition ← before ";" (grammar.readOptional context.enclosed ";")
  let step ← before ")" (grammar.readOptional context.enclosed ")")
  let body ← grammar.statement context .single
  finish start .statement .forLoop [first, condition, step, body]

/-- Read the rest of a loop over the items of a value. -/
def readForOfRest
    (grammar : Grammar)
    (context : Context)
    (start : Nat)
    (isAwait : Bool)
    (first : Node) :
    Reader Node := do
  expectWord "of"
  let value ← before ")" (grammar.readAssignment context)
  let body ← grammar.statement context .single
  finish start .statement (.forOf isAwait) [first, value, body]

/-- Read the rest of a loop over the keys of a value. -/
def readForInRest
    (grammar : Grammar)
    (context : Context)
    (start : Nat)
    (first : Node) :
    Reader Node := do
  expectWord "in"
  let value ← before ")" (grammar.readExpression context)
  let body ← grammar.statement context .single
  finish start .statement .forIn [first, value, body]

/-- A cursor in the head of a loop stands at a declaration. -/
def isAtLoopDeclaration
    (cursor : Cursor) :
    Bool :=
  let following := cursor.next
  cursor.isAtWord "var" || cursor.isAtWord "const" ||
    cursor.isAtWord "let" && !following.isAtWord "in" && !following.isAtWord "instanceof" &&
      match following.token with
      | .word _ _ | .symbol "[" | .symbol "\x7b" => true
      | _ => false

/--
What is read at a cursor can stand before `of`.

It does not start with `let`. Before `of`, the word `yield` alone is no name, and
`async` alone is one only if the loop awaits.
-/
def loopTargetFits
    (cursor : Cursor)
    (isAwait : Bool)
    (target : Node) :
    Bool :=
  let isAlone (word : String) : Bool :=
    cursor.isAtWord word && target.form == .identifier word
  !cursor.isAtWord "let" && !isAlone "yield" && (isAwait || !isAlone "async")

/-- Read the rest of a `for` statement. -/
def readFor
    (grammar : Grammar)
    (context : Context)
    (start : Nat) :
    Reader Node := do
  let isAwait ← acceptWord "await"
  require (!isAwait || context.allowsAwait)
  expect "("
  let current ← cursor
  let head := { context with allowsIn := false }
  if current.isAt ";" then
    require (!isAwait)
    grammar.readForRest context start .absent
  else if isAtLoopDeclaration current then
    let declaration ← grammar.readVariables head .part
    if ← isAtWord "of" then
      grammar.readForOfRest context start isAwait declaration
    else
      require (!isAwait)
      if ← isAtWord "in" then
        grammar.readForInRest context start declaration
      else
        require (declaratorsFit declaration)
        grammar.readForRest context start declaration
  else
    let first ← grammar.readExpression head
    if ← isAtWord "of" then
      require (loopTargetFits current isAwait first)
      grammar.readForOfRest context start isAwait (← found (first.target? false))
    else
      require (!isAwait)
      if ← isAtWord "in" then
        grammar.readForInRest context start (← found (first.target? false))
      else
        grammar.readForRest context start first

/-- Read the rest of a `while` statement. -/
def readWhile
    (grammar : Grammar)
    (context : Context)
    (start : Nat) :
    Reader Node := do
  let condition ← grammar.readCondition context
  let body ← grammar.statement context .single
  finish start .statement .whileLoop [condition, body]

/-- Read the rest of a `do` statement. -/
def readDo
    (grammar : Grammar)
    (context : Context)
    (start : Nat) :
    Reader Node := do
  let body ← grammar.statement context .single
  expectWord "while"
  let condition ← grammar.readCondition context
  let _ ← accept ";"
  finish start .statement .doWhile [body, condition]

/-- Read the value of a case of a `switch` statement; the default case has none. -/
def readCaseValue
    (grammar : Grammar)
    (context : Context) :
    Reader Node := do
  if ← acceptWord "default" then
    return .absent
  else
    expectWord "case"
    grammar.readExpression context

/-- The statements of a case end before the token at a cursor. -/
def endsCase
    (cursor : Cursor) :
    Bool :=
  cursor.isAt "\x7d" || cursor.isAtWord "case" || cursor.isAtWord "default"

/-- Read the statements of a case. -/
def readCaseStatements
    (grammar : Grammar)
    (context : Context) :
    Reader (List Node) :=
  repeated (fun statements => do
    if endsCase (← cursor) then
      return .inr statements.reverse
    else
      return .inl ((← grammar.statement context .listed) :: statements)) grammar.bound []

/-- Read a case of a `switch` statement. -/
def readCase
    (grammar : Grammar)
    (context : Context) :
    Reader Node := do
  let start ← position
  let value ← grammar.readCaseValue context
  expect ":"
  let statements ← grammar.readCaseStatements context
  finish start .part .case (value :: statements)

/-- Read the rest of a `switch` statement. -/
def readSwitch
    (grammar : Grammar)
    (context : Context)
    (start : Nat) :
    Reader Node := do
  let value ← grammar.readCondition context
  expect "\x7b"
  let cases ← untilSymbol grammar.bound "\x7d" (grammar.readCase context)
  finish start .statement .switch (value :: cases)

/-- Read a catch clause if there is one. -/
def readCatch
    (grammar : Grammar)
    (context : Context) :
    Reader Node := do
  let start ← position
  if ← acceptWord "catch" then
    let pattern ←
      if ← isAt "(" then
        inParentheses (grammar.pattern context)
      else
        pure .absent
    let block ← grammar.readBlock context .part
    finish start .part .catchClause [pattern, block]
  else
    return .absent

/-- Read the rest of a `try` statement. -/
def readTry
    (grammar : Grammar)
    (context : Context)
    (start : Nat) :
    Reader Node := do
  let block ← grammar.readBlock context .part
  let clause ← grammar.readCatch context
  let last ←
    if ← acceptWord "finally" then
      grammar.readBlock context .part
    else
      pure .absent
  require (!(clause.isAbsent && last.isAbsent))
  finish start .statement .trying [block, clause, last]

/-- The statement ends before the next token, whether or not there is a semicolon. -/
def endsHere
    (cursor : Cursor) :
    Bool :=
  cursor.isAt ";" || cursor.isAt "\x7d" || cursor.isAtEnd || cursor.isOnNewLine

/-- Read the rest of a `return` statement. -/
def readReturn
    (grammar : Grammar)
    (context : Context)
    (start : Nat) :
    Reader Node := do
  require context.allowsReturn
  let values ←
    if endsHere (← cursor) then
      pure []
    else
      pure [← grammar.readExpression context.enclosed]
  semicolon
  finish start .statement .returning values

/-- Read the rest of a `throw` statement. -/
def readThrow
    (grammar : Grammar)
    (context : Context)
    (start : Nat) :
    Reader Node := do
  require (!(← cursor).isOnNewLine)
  let value ← grammar.readExpression context
  semicolon
  finish start .statement .throwing [value]

/-- Read the rest of a `break` or `continue` statement. -/
def readJump
    (context : Context)
    (start : Nat)
    (form : Option String → Form) :
    Reader Node := do
  let label ← if endsHere (← cursor) then pure none else name? context
  semicolon
  finish start .statement (form label)

/-- The operator at a cursor makes a `let` before it a name. -/
def isAtLetOperator
    (cursor : Cursor)
    (context : Context) :
    Bool :=
  match connective? cursor context.enclosed with
  | some (.binary _) => true
  | _ => (assignmentOperator? cursor).isSome

/--
Read a statement that starts with `let`.

What follows tells a declaration from an expression. Before an operator, `let` starts
an expression that is no sequence. Before an access it starts any expression, and a
semicolon behind that is a statement of its own. Alone as the body of another
statement, or before a semicolon, it is only a name.
-/
def readLetStatement
    (grammar : Grammar)
    (context : Context)
    (placement : Placement) :
    Reader Node := do
  let current ← cursor
  let following := current.next
  if isAtLetOperator following context then
    grammar.readAssignment context >>= readExpressionEnd current.start
  else if following.isAtAny [".", "?.", "("] then
    let value ← grammar.readExpression context
    finish current.start .statement .expressionStatement [value]
  else if following.isAt ";" || placement == .single && !following.isAt "[" then
    let name ← name context
    let value ← finish current.start .expression (.identifier name)
    readExpressionEnd current.start value
  else
    require (placement == .listed)
    grammar.readDeclaration context .statement

/-- Read an expression statement, or a labeled statement if the expression is a name. -/
def readLabeledOrExpression
    (grammar : Grammar)
    (context : Context) :
    Reader Node := do
  let start ← position
  let value ← grammar.readExpression context
  match value.name? with
  | some label =>
      if ← accept ":" then
        let body ← grammar.statement context .single
        finish start .statement (.labeled label) [body]
      else
        readExpressionEnd start value
  | none => readExpressionEnd start value

/-- Read a statement that starts with a word. -/
def readWordStatement
    (grammar : Grammar)
    (context : Context)
    (placement : Placement)
    (word : String) :
    Reader Node := do
  let current ← cursor
  let start := current.start
  let following := current.next
  match word with
  | "var" => grammar.readDeclaration context .statement
  | "const" =>
      require (placement == .listed)
      grammar.readDeclaration context .statement
  | "let" => grammar.readLetStatement context placement
  | "if" => advance; grammar.readIf context start
  | "for" => advance; grammar.readFor context start
  | "while" => advance; grammar.readWhile context start
  | "do" => advance; grammar.readDo context start
  | "switch" => advance; grammar.readSwitch context start
  | "try" => advance; grammar.readTry context start
  | "throw" => advance; grammar.readThrow context start
  | "return" => advance; grammar.readReturn context start
  | "break" => advance; readJump context start .breaking
  | "continue" => advance; readJump context start .continuing
  | "debugger" =>
      advance
      semicolon
      finish start .statement .debugger
  | "function" => grammar.readFunctionStatement context placement
  | "class" =>
      require (placement == .listed)
      grammar.readClass context .statement true
  | "export" => grammar.readExport context
  | "import" =>
      if following.isAtAny ["(", "."] then
        grammar.readLabeledOrExpression context
      else
        readImport grammar.bound context
  | _ =>
      if word == "async" && following.isAtWord "function" && !following.isOnNewLine then
        grammar.readFunctionStatement context placement
      else
        grammar.readLabeledOrExpression context

/-- Read a statement. -/
def readStatement
    (grammar : Grammar)
    (context : Context)
    (placement : Placement) :
    Reader Node := do
  let current ← cursor
  match current.token with
  | .symbol "\x7b" => grammar.readBlock context .statement
  | .symbol ";" =>
      advance
      finish current.start .statement .empty
  | .word word false => grammar.readWordStatement context placement word
  | _ => grammar.readLabeledOrExpression context

end Reactivity.Script.Grammar
