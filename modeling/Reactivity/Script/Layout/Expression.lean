import Reactivity.Script.Layout.Setting

namespace Reactivity.Script.Layout

/-!
# Layout of expressions and patterns

An expression is written for a level and gets parentheses when its own level is
not higher. The functions take the pieces of the children that their form has.
-/

/-- Write a key of a property or member; some numbers can only be computed keys. -/
def keyText
    (key : Piece)
    (isComputed : Bool)
    (setting : Setting) :
    String :=
  let text := key.write (setting.free .comma)
  let isInfinite :=
    match key.form with
    | .number .infinite => true
    | _ => false
  if isComputed || isInfinite then "[" ++ text ++ "]" else text

/-- Write what stands before the key of a method. -/
def methodModifiers
    (kind : PropertyKind)
    (function : Piece) :
    String :=
  let accessor :=
    match kind with
    | .getter => "get "
    | .setter => "set "
    | _ => ""
  match function.form with
  | .function head =>
      accessor ++ (if head.isAsync then "async " else "") ++ (if head.isGenerator then "*" else "")
  | _ => accessor

/-- The name that an identifier, with or without a default value, writes at its start. -/
def leadingName? :
    Node →
    Option String
  | .mk (.identifier name) _ _ _ => some name
  | .mk .defaulted _ _ (.mk (.identifier name) _ _ _ :: _) => some name
  | _ => none

/-- The key of a property is a plain name that its value repeats. -/
def repeatsKey
    (key value : Node)
    (isComputed : Bool) :
    Bool :=
  match key.form with
  | .propertyName name => !isComputed && leadingName? value == some name
  | _ => false

/-- Write a property of an object. -/
def property
    (kind : PropertyKind)
    (isComputed isShorthand : Bool)
    (key value : Piece)
    (setting : Setting) :
    String :=
  match kind with
  | .value =>
      let isShort := repeatsKey key.node value.node isComputed &&
        (isShorthand || key.form != .propertyName "__proto__")
      if isShort then
        value.write (setting.free .comma)
      else
        keyText key isComputed setting ++ ": " ++ value.write (setting.free .comma)
  | _ =>
      methodModifiers kind value ++ keyText key isComputed setting ++
        value.write setting.asMethod

/-- Write an object: two properties or more stand on lines of their own. -/
def object
    (properties : List Piece)
    (setting : Setting) :
    String :=
  let text :=
    match properties with
    | [] => "\x7b\x7d"
    | [property] => "\x7b " ++ property.write setting.within ++ " \x7d"
    | _ =>
        let deeper := setting.deeper
        "\x7b\n" ++
          joined ",\n" (properties.map (fun property => deeper.tabs ++ property.write deeper)) ++
          "\n" ++ setting.tabs ++ "\x7d"
  if setting.lead == .statement || setting.lead == .arrowBody then "(" ++ text ++ ")" else text

/-- A hole at the end of a list needs a comma of its own. -/
def trailingComma
    (items : List Piece) :
    String :=
  if (items.getLast?.map Piece.isAbsent).getD false then "," else ""

/-- Write an array: three items or more stand on lines of their own. -/
def array
    (items : List Piece)
    (setting : Setting) :
    String :=
  if items.length ≤ 2 then
    "[" ++ commaSeparated items (setting.free .comma) ++ trailingComma items ++ "]"
  else
    let deeper := setting.deeper
    let item := deeper.free .comma
    "[\n" ++ joined ",\n" (items.map (fun piece => deeper.tabs ++ piece.write item)) ++
      trailingComma items ++ "\n" ++ setting.tabs ++ "]"

/-- Write a template from its texts and substitutions. -/
def template :
    List String →
    List Piece →
    Setting →
    String
  | text :: texts, value :: values, setting =>
      templateText text ++ "$\x7b" ++ value.write (setting.free .lowest) ++ "\x7d" ++
        template texts values setting
  | texts, _, _ => joined "" (texts.map templateText)

/-- Write the parameters and body of a function. -/
def functionTail
    (parameters body : Piece)
    (setting : Setting) :
    String :=
  "(" ++ parameters.write setting.within ++ ") " ++ body.write setting.within

/-- Write a function from its keyword on. -/
def functionText
    (head : FunctionHead)
    (parameters body : Piece)
    (setting : Setting) :
    String :=
  let keyword := (if head.isAsync then "async function" else "function") ++
    (if head.isGenerator then "*" else "")
  let name :=
    match head.name with
    | some name => " " ++ name
    | none => if head.isGenerator then " " else ""
  keyword ++ name ++ functionTail parameters body setting

/-- Write a function. -/
def function
    (head : FunctionHead)
    (parameters body : Piece)
    (setting : Setting) :
    String :=
  if setting.fit == .method then
    functionTail parameters body setting
  else if head.isDeclaration then
    let text := setting.indent ++ functionText head parameters body setting
    if setting.fit == .inside then text else text ++ "\n"
  else
    wrapped (head.isWrapped || setting.lead == .statement || setting.lead == .exportDefault)
      setting (functionText head parameters body)

/-- Write an arrow function. -/
def arrow
    (head : ArrowHead)
    (parameters body : Piece)
    (setting : Setting) :
    String :=
  wrapped (head.isWrapped || Level.assign ≤ setting.level) setting (fun inner =>
    (if head.isAsync then "async (" else "(") ++ parameters.write inner.within ++ ") => " ++
      (if head.isConcise then
        body.write { inner.later .comma with lead := .arrowBody, fit := .value }
      else
        body.write inner.within))

/-- Write the object of a member access. -/
def memberObject
    (object : Piece)
    (setting : Setting) :
    String :=
  object.write { setting.first .update with forbidsIn := false }

/-- Write a member access with a key; `let` before a bracket would start a declaration. -/
def computedMember
    (isOptional : Bool)
    (object key : Piece)
    (setting : Setting) :
    String :=
  let isLet := object.form == .identifier "let"
  (if isLet then "(let)" else memberObject object setting) ++
    (if isOptional then "?.[" else "[") ++ key.write (setting.free .lowest) ++ "]"

/-- Write the point before the name of a member; after plain digits it needs a space. -/
def memberPoint
    (object : Piece)
    (isOptional : Bool) :
    String :=
  if isOptional then
    "?."
  else
    match object.form with
    | .number value => if Number.isPlainDigits value.text then " ." else "."
    | _ => "."

/-- Write a call. -/
def call
    (isOptional : Bool)
    (callee : Piece)
    (values : List Piece)
    (setting : Setting) :
    String :=
  wrapped (Level.construct ≤ setting.level || setting.forbidsCall) setting (fun inner =>
    callee.write { inner.free .update with lead := inner.lead } ++
      (if isOptional then "?.(" else "(") ++
      commaSeparated values (inner.free .comma) ++ ")")

/-- Write a construction. -/
def construct
    (callee : Piece)
    (values : List Piece)
    (setting : Setting) :
    String :=
  wrapped (Level.call ≤ setting.level) setting (fun inner =>
    "new " ++ callee.write { inner.free .construct with forbidsCall := true } ++ "(" ++
      commaSeparated values (inner.free .comma) ++ ")")

/-- The operator needs a space before an operand that starts with the same symbol. -/
def needsSpace
    (operator : UnaryOperator)
    (operand : Form) :
    Bool :=
  match operator, operand with
  | .plus, .unary .plus | .plus, .update .increment true => true
  | .minus, .unary .minus | .minus, .update .decrement true => true
  | _, _ => operator.isWord

/-- Write a unary operation. -/
def unary
    (operator : UnaryOperator)
    (operand : Piece)
    (setting : Setting) :
    String :=
  wrapped (Level.unary ≤ setting.level) setting (fun inner =>
    operator.symbol ++ (if needsSpace operator operand.form then " " else "") ++
      operand.write (inner.later .power))

/-- Write an update. -/
def update
    (operator : UpdateOperator)
    (isBefore : Bool)
    (target : Piece)
    (setting : Setting) :
    String :=
  if isBefore then
    wrapped (Level.unary ≤ setting.level) setting (fun inner =>
      operator.symbol ++ target.write (inner.later .unary))
  else
    wrapped (Level.update ≤ setting.level) setting (fun inner =>
      target.write (inner.first .update) ++ operator.symbol)

/-- The level for the left operand of a binary operator. -/
def leftLevel
    (operator : BinaryOperator)
    (left : Form) :
    Level :=
  match operator, left with
  | .power, .unary _ | .power, .number _ => .call
  | .power, _ => .power
  | _, _ => operator.level - 1

/-- The level for the right operand of a binary operator. -/
def rightLevel :
    BinaryOperator →
    Level
  | .power => Level.power - 1
  | operator => operator.level

/-- Write a binary operation. -/
def binary
    (operator : BinaryOperator)
    (left right : Piece)
    (setting : Setting) :
    String :=
  let isForbidden := operator == .membership && setting.forbidsIn
  wrappedFree (operator.level ≤ setting.level || isForbidden) setting.allowingCall
    (fun inner =>
      left.write (inner.first (leftLevel operator left.form)) ++
        " " ++ operator.symbol ++ " " ++
        right.write (inner.later (rightLevel operator)))

/-- The level for an operand of a logical operator. -/
def logicalLevel
    (operator : LogicalOperator)
    (operand : Form) :
    Level :=
  match operator, operand with
  | .coalesce, .logical .and | .coalesce, .logical .or => .unary
  | _, _ => operator.level - 1

/-- Write a logical operation. -/
def logical
    (operator : LogicalOperator)
    (left right : Piece)
    (setting : Setting) :
    String :=
  wrappedFree (operator.level ≤ setting.level) setting.allowingCall (fun inner =>
    left.write (inner.first (logicalLevel operator left.form)) ++
      " " ++ operator.symbol ++ " " ++
      right.write (inner.later (logicalLevel operator right.form)))

/-- Write a choice between two expressions. -/
def conditional
    (condition consequent alternative : Piece)
    (setting : Setting) :
    String :=
  wrappedFree (Level.conditional ≤ setting.level) setting.allowingCall (fun inner =>
    condition.write (inner.first .conditional) ++ " ? " ++
      consequent.write (inner.free .yielding) ++ " : " ++
      alternative.write (inner.later .yielding))

/-- The assignment starts a statement or arrow body with a brace. -/
def startsWithBrace
    (target : Form)
    (setting : Setting) :
    Bool :=
  match target with
  | .objectPattern _ => setting.lead == .statement || setting.lead == .arrowBody
  | _ => false

/-- Write an assignment. -/
def assignment
    (operator : AssignmentOperator)
    (target value : Piece)
    (setting : Setting) :
    String :=
  wrapped (Level.assign ≤ setting.level || startsWithBrace target.form setting) setting
    (fun inner =>
      target.write (inner.first .comma) ++ " " ++ operator.symbol ++ " " ++
        value.write (inner.later .comma))

/-- Write a sequence. -/
def sequence
    (items : List Piece)
    (setting : Setting) :
    String :=
  wrapped (Level.comma ≤ setting.level) setting.allowingCall (fun inner =>
    match items with
    | [] => ""
    | item :: others =>
        joined ", " (item.write (inner.first .lowest) ::
          others.map (fun other => other.write (inner.later .lowest))))

/-- Write a yield. -/
def yielding
    (isDelegate : Bool)
    (values : List Piece)
    (setting : Setting) :
    String :=
  wrapped (Level.assign ≤ setting.level) setting (fun inner =>
    (if isDelegate then "yield*" else "yield") ++
      joined "" (values.map (fun value => " " ++ value.write (inner.later .yielding))))

/-- Write a property of a pattern. -/
def patternProperty
    (isComputed : Bool)
    (key pattern : Piece)
    (setting : Setting) :
    String :=
  if repeatsKey key.node pattern.node isComputed then
    pattern.write setting.inPattern
  else
    keyText key isComputed setting ++ ": " ++ pattern.write setting.inPattern

/-- Write an object pattern; only bindings have spaces inside of the braces. -/
def objectPattern
    (isBinding : Bool)
    (properties : List Piece)
    (setting : Setting) :
    String :=
  let space := if isBinding && !properties.isEmpty then " " else ""
  "\x7b" ++ space ++ commaSeparated properties setting.inPattern ++ space ++ "\x7d"

/-- The piece is the rest of a pattern. -/
def isRest
    (piece : Piece) :
    Bool :=
  match piece.form with
  | .rest => true
  | _ => false

/-- Write an array pattern; a binding has a space before a rest that stands alone. -/
def arrayPattern
    (isBinding : Bool)
    (items : List Piece)
    (setting : Setting) :
    String :=
  let space :=
    match items with
    | [item] => if isBinding && isRest item then " " else ""
    | _ => ""
  "[" ++ space ++ commaSeparated items setting.inPattern ++ trailingComma items ++ "]"

end Reactivity.Script.Layout
