import Reactivity.Script.Grammar.Class
import Reactivity.Script.Grammar.Target

namespace Reactivity.Script.Grammar

open Reader

/-!
# Accesses

Primary expressions, and the member accesses, calls and templates behind them.
-/

/-- Read the arguments of a call. -/
def readArguments
    (grammar : Grammar)
    (context : Context) :
    Reader (List Node) := do
  expect "("
  separated grammar.bound ")" (grammar.readItem context)

/--
Read what stands in parentheses.

An empty list, a rest and a comma before the closing parenthesis are possible
only in the parameters of an arrow function.
-/
def readParenthesized
    (grammar : Grammar)
    (context : Context) :
    Reader Node := do
  let start ← position
  expect "("
  let innerStart ← position
  let (items, isHead) ← repeated (fun (items, isHead) => do
    let current ← cursor
    if current.isAt ")" then
      return .inr (items.reverse, isHead)
    else if current.isAt "..." then
      let rest ← readRest ")" (grammar.pattern context)
      return .inl (rest :: items, true)
    else
      let item ← grammar.assignment context.enclosed
      if ← accept "," then
        return .inl (item :: items, ← isAt ")")
      else
        require (← isAt ")")
        return .inl (item :: items, false)) grammar.bound ([], true)
  let innerSpan ← spanFrom innerStart
  expect ")"
  match items, isHead with
  | [item], false => finish start .expression .parenthesized [item]
  | items, false =>
      finish start .expression .parenthesized [.mk .sequence .expression innerSpan items]
  | items, true => finish start .expression .arrowParameters items

/-- Read an expression that starts with `import`. -/
def readImportExpression
    (grammar : Grammar)
    (context : Context) :
    Reader Node := do
  let start ← position
  expectWord "import"
  if ← accept "." then
    expectWord "meta"
    finish start .expression (.metaProperty "import" "meta")
  else
    expect "("
    let values ← separated grammar.bound ")" (grammar.assignment context.enclosed)
    require (values.length == 1 || values.length == 2)
    finish start .expression .importCall values

/-- Read an expression that starts with `new`. -/
def readConstruct
    (grammar : Grammar)
    (context : Context) :
    Reader Node := do
  let start ← position
  expectWord "new"
  if ← accept "." then
    expectWord "target"
    finish start .expression (.metaProperty "new" "target")
  else
    let constructed ← grammar.constructed context
    let values ← if ← isAt "(" then grammar.readArguments context else pure []
    finish start .expression .construct (constructed :: values)

/-- Read an expression that starts with a word. -/
def readWordExpression
    (grammar : Grammar)
    (context : Context) :
    Reader Node := do
  let current ← cursor
  let leaf (form : Form) : Reader Node := do
    advance
    finish current.start .expression form
  match current.token with
  | .word "this" false => leaf .this
  | .word "null" false => leaf .null
  | .word "true" false => leaf (.boolean true)
  | .word "false" false => leaf (.boolean false)
  | .word "super" false =>
      let node ← leaf .super
      require ((← cursor).isAtAny ["(", ".", "["])
      return node
  | .word "function" false => grammar.readFunction context .expression false
  | .word "class" false => grammar.readClass context .expression false
  | .word "new" false => grammar.readConstruct context
  | .word "import" false => grammar.readImportExpression context
  | _ =>
      let following := current.next
      if current.isAtWord "async" && following.isAtWord "function" &&
          !following.isOnNewLine then
        grammar.readFunction context .expression false
      else
        let name ← name context
        finish current.start .expression (.identifier name)

/-- Read a primary expression. -/
def readPrimary
    (grammar : Grammar)
    (context : Context) :
    Reader Node := do
  let current ← cursor
  let leaf (form : Form) : Reader Node := do
    advance
    finish current.start .expression form
  match current.token with
  | .number value => leaf (.number value)
  | .bigInteger value => leaf (.bigInteger value)
  | .string value _ => leaf (.string value)
  | .word _ _ => grammar.readWordExpression context
  | .symbol "(" => grammar.readParenthesized context
  | .symbol "[" => grammar.readArray context
  | .symbol "\x7b" => grammar.readObject context
  | .symbol "`" => grammar.readTemplate context .expression false
  | .symbol "/" | .symbol "/=" => readRegex
  | _ => failure

/-- Read the name of a member after its point. -/
def readMemberName
    (start : Nat)
    (object : Node)
    (isOptional : Bool) :
    Reader Node := do
  match (← cursor).token with
  | .word name _ =>
      advance
      finish start .expression (.member name isOptional) [object]
  | .privateWord name =>
      require (object.form != .super)
      advance
      finish start .expression (.privateMember name isOptional) [object]
  | _ => failure

/-- Read the key of a member in brackets. -/
def readComputedMember
    (grammar : Grammar)
    (context : Context)
    (start : Nat)
    (object : Node)
    (isOptional : Bool) :
    Reader Node := do
  expect "["
  let key ← before "]" (grammar.expression context.enclosed)
  finish start .expression (.computedMember isOptional) [object, key]

/--
Read one access behind an expression, or none.

The flag says that an optional access was among those before it; there is no
template behind one. Without `allowsCalls` the accesses stop before arguments, and
none is optional.
-/
def readAccessStep
    (grammar : Grammar)
    (context : Context)
    (start : Nat)
    (allowsCalls : Bool) :
    Node × Bool →
    Reader ((Node × Bool) ⊕ (Node × Bool))
  | (node, isChain) => do
      let current ← cursor
      match current.token with
      | .symbol "." =>
          advance
          return .inl (← readMemberName start node false, isChain)
      | .symbol "[" =>
          return .inl (← grammar.readComputedMember context start node false, isChain)
      | .symbol "?." =>
          require allowsCalls
          advance
          if ← isAt "(" then
            let values ← grammar.readArguments context
            return .inl (← finish start .expression (.call true) (node :: values), true)
          else if ← isAt "[" then
            return .inl (← grammar.readComputedMember context start node true, true)
          else
            return .inl (← readMemberName start node true, true)
      | .symbol "(" =>
          if allowsCalls then
            let values ← grammar.readArguments context
            return .inl (← finish start .expression (.call false) (node :: values), isChain)
          else
            return .inr (node, isChain)
      | .symbol "`" =>
          require (!isChain)
          let template ← grammar.readTemplate context .part true
          return .inl (← finish start .expression .taggedTemplate [node, template], isChain)
      | _ => return .inr (node, isChain)

/-- Read the accesses behind an expression. -/
def readAccesses
    (grammar : Grammar)
    (context : Context)
    (start : Nat)
    (allowsCalls : Bool)
    (first : Node) :
    Reader (Node × Bool) :=
  repeated (grammar.readAccessStep context start allowsCalls) grammar.bound (first, false)

/-- Read a primary expression and the accesses behind it. -/
def readAccess
    (grammar : Grammar)
    (context : Context) :
    Reader Node := do
  let start ← position
  let first ← grammar.readPrimary context
  let (node, isChain) ← grammar.readAccesses context start true first
  if isChain then
    finish start .expression .chain [node.withRole .part]
  else
    return node

/-- Read what is constructed by `new`. -/
def readConstructed
    (grammar : Grammar)
    (context : Context) :
    Reader Node := do
  let start ← position
  let first ← grammar.readPrimary context
  let (node, _) ← grammar.readAccesses context start false first
  require (node.bare.form != .importCall)
  return node

end Reactivity.Script.Grammar
