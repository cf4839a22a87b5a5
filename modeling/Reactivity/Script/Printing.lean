import Reactivity.Script.Layout.Module
import Reactivity.Script.Layout.Statement

namespace Reactivity.Script

/-!
# Printing scripts

Every form has a layout that arranges what its children write. A node with other
children than its form has writes nothing.
-/

open Layout

/-- Write a node that has no children. -/
def leafText :
    Form →
    Setting →
    String
  | .identifier name, _ | .propertyName name, _ => name
  | .privateName name, _ => "#" ++ name
  | .this, _ => "this"
  | .super, _ => "super"
  | .null, _ => "null"
  | .boolean value, _ => if value then "true" else "false"
  | .number value, _ => value.text
  | .bigInteger value, _ => String.ofList (Nat.toDigits 10 value) ++ "n"
  | .string value, _ => stringText value
  | .regex body flags, _ => "/" ++ body ++ "/" ++ flags
  | .metaProperty object property, _ => object ++ "." ++ property
  | .empty, setting => ended setting ""
  | .debugger, setting => ended setting "debugger"
  | .breaking label, setting => jump "break" label setting
  | .continuing label, setting => jump "continue" label setting
  | .importing bindings source attributes, setting =>
      setting.indent ++ importText bindings source attributes
  | .exportList entries source attributes, setting =>
      setting.indent ++ exportListText entries source attributes
  | .exportAll outer source attributes, setting =>
      setting.indent ++ exportAllText outer source attributes
  | _, _ => ""

/-- Write an expression or pattern from its pieces. -/
def expressionText
    (form : Form)
    (pieces : List Piece)
    (setting : Setting) :
    String :=
  match form, pieces with
  | .template texts, values => "`" ++ Layout.template texts values setting ++ "`"
  | .taggedTemplate, [tag, template] =>
      tag.write { setting.free .update with lead := setting.lead } ++ template.write setting.within
  | .array, items => Layout.array items setting
  | .object, properties => Layout.object properties setting
  | .property kind isComputed isShorthand, [key, value] =>
      property kind isComputed isShorthand key value setting
  | .spread _, [value] => "..." ++ value.write (setting.free .comma)
  | .function head, [parameters, body] => Layout.function head parameters body setting
  | .arrow head, [parameters, body] => arrow head parameters body setting
  | .parameters, items => commaSeparated items setting.within
  | .call isOptional, callee :: values => call isOptional callee values setting
  | .construct, callee :: values => construct callee values setting
  | .importCall, values =>
      wrapped (Level.construct ≤ setting.level || setting.forbidsCall) setting (fun inner =>
        "import(" ++ commaSeparated values (inner.free .comma) ++ ")")
  | .member name isOptional, [object] =>
      memberObject object setting ++ memberPoint object isOptional ++ name
  | .privateMember name isOptional, [object] =>
      memberObject object setting ++ memberPoint object isOptional ++ "#" ++ name
  | .computedMember isOptional, [object, key] => computedMember isOptional object key setting
  | .chain, [element] => wrapped (Level.update ≤ setting.level) setting element.write
  | .unary operator, [operand] => unary operator operand setting
  | .update operator isBefore, [target] => update operator isBefore target setting
  | .binary operator, [left, right] => binary operator left right setting
  | .privateMembership name, [object] =>
      wrapped (Level.comparison ≤ setting.level) setting (fun inner =>
        "#" ++ name ++ " in " ++ object.write (inner.free .equality))
  | .logical operator, [left, right] => logical operator left right setting
  | .conditional, [condition, consequent, alternative] =>
      conditional condition consequent alternative setting
  | .assignment operator, [target, value] => assignment operator target value setting
  | .sequence, items => sequence items setting
  | .yielding isDelegate, values => yielding isDelegate values setting
  | .awaiting, [operand] =>
      wrapped (Level.unary ≤ setting.level) setting (fun inner =>
        "await " ++ operand.write (inner.later .power))
  | .objectPattern isBinding, properties => objectPattern isBinding properties setting
  | .arrayPattern isBinding, items => arrayPattern isBinding items setting
  | .patternProperty isComputed _, [key, pattern] =>
      patternProperty isComputed key pattern setting
  | .defaulted, [pattern, value] =>
      pattern.write setting.within ++ " = " ++ value.write (setting.later .comma)
  | .rest, [pattern] => "..." ++ pattern.write setting.within
  | form, _ => leafText form setting

/-- Write a node from its pieces. -/
def nodeText
    (form : Form)
    (pieces : List Piece)
    (setting : Setting) :
    String :=
  match form, pieces with
  | .body directives, statements => Layout.body directives statements setting
  | .classBody name isDeclaration, superclass :: members =>
      Layout.classBody name isDeclaration superclass members setting
  | .classMethod kind isStatic isComputed, [key, function] =>
      classMethod kind isStatic isComputed key function setting
  | .classField isStatic isComputed, key :: values =>
      classField isStatic isComputed key values setting
  | .staticBlock, statements => staticBlock statements setting
  | .expressionStatement, [value] => expressionStatement value setting
  | .declaration keyword, declarators => Layout.declaration keyword declarators setting
  | .declarator, pattern :: values => declarator pattern values setting
  | .returning, values => keywordStatement "return" values setting
  | .throwing, values => keywordStatement "throw" values setting
  | .conditionally, test :: consequent :: alternatives =>
      conditionally test consequent alternatives setting
  | .forLoop, [first, test, step, body] => forLoop first test step body setting
  | .forIn, [target, object, body] => forIn target object body setting
  | .forOf isAwait, [target, iterable, body] => forOf isAwait target iterable body setting
  | .whileLoop, [test, body] =>
      setting.indent ++ "while " ++ condition test setting ++ nested body setting
  | .doWhile, [body, test] => doWhile body test setting
  | .switch, value :: cases =>
      setting.indent ++ "switch " ++ condition value setting ++ " " ++
        braces setting (concatenated cases setting.deeper) ++ "\n"
  | .case, value :: statements => Layout.case value statements setting
  | .trying, [block, clause, last] => trying block clause last setting
  | .catchClause, [pattern, block] => catchClause pattern block setting
  | .block, statements => Layout.block statements setting
  | .labeled label, [body] => setting.indent ++ label ++ ":" ++ nested body setting
  | .exportDeclaration, [declaration] => exportDeclaration declaration setting
  | .exportDefault, [value] => exportDefault value setting
  | form, pieces => expressionText form pieces setting

mutual

/-- Write a node. -/
def Node.write :
    Node →
    Setting →
    String
  | .mk form _ _ children => nodeText form (Node.pieces children)

/-- The pieces of some nodes. -/
def Node.pieces :
    List Node →
    List Piece
  | [] => []
  | node :: nodes => { node, write := Node.write node } :: Node.pieces nodes

end

/-- The text of a script. -/
def Program.print
    (program : Program) :
    String :=
  joined "" (program.hashbang.toList.map (fun text => "#!" ++ text ++ "\n")) ++
    bodyLines program.directives (Node.pieces program.statements) {}

end Reactivity.Script
