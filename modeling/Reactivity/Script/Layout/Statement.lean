import Reactivity.Script.Layout.Expression

namespace Reactivity.Script.Layout

/-!
# Layout of statements

A statement is written with its indentation and the line end behind it. A
statement that is fitted inside of its parent has neither, and no semicolon.
-/

/-- Write a statement that ends in a semicolon. -/
def ended
    (setting : Setting)
    (text : String) :
    String :=
  if setting.fit == .inside then text else setting.indent ++ text ++ ";\n"

/-- Write the body of another statement. -/
def nested
    (body : Piece)
    (setting : Setting) :
    String :=
  match body.form with
  | .block => " " ++ body.write setting.within ++ "\n"
  | .empty => ";\n"
  | _ => body.write setting.onSameLine

/-- Write an expression in parentheses that belong to a statement. -/
def condition
    (value : Piece)
    (setting : Setting) :
    String :=
  "(" ++ value.write (setting.free .lowest) ++ ")"

/--
The statement ends in an `if` without alternative.

An `else` behind such a statement would belong to that `if`.
-/
def endsInOpenIf :
    Node →
    Bool
  | .mk .conditionally _ _ [_, _] => true
  | .mk .conditionally _ _ [_, _, alternative] => endsInOpenIf alternative
  | .mk .forLoop _ _ [_, _, _, body] => endsInOpenIf body
  | .mk .forIn _ _ [_, _, body] => endsInOpenIf body
  | .mk (.forOf _) _ _ [_, _, body] => endsInOpenIf body
  | .mk .whileLoop _ _ [_, body] => endsInOpenIf body
  | .mk (.labeled _) _ _ [body] => endsInOpenIf body
  | _ => false

/-- Write the consequent of an `if`; the flag says that the line has not ended. -/
def consequentText
    (consequent : Piece)
    (setting : Setting) :
    String × Bool :=
  if consequent.form == .block then
    (" " ++ consequent.write setting.within, true)
  else if endsInOpenIf consequent.node then
    (" " ++ braces setting (consequent.write setting.deeper), true)
  else
    (nested consequent setting, false)

/-- Write an `if` statement. -/
def conditionally
    (test consequent : Piece)
    (alternatives : List Piece)
    (setting : Setting) :
    String :=
  let (text, isOpen) := consequentText consequent setting
  let head := setting.indent ++ "if " ++ condition test setting ++ text
  match alternatives with
  | [] => if isOpen then head ++ "\n" else head
  | alternative :: _ =>
      head ++ (if isOpen then " else" else setting.tabs ++ "else") ++ nested alternative setting

/-- Write a part of a loop head after its semicolon. -/
def headPart
    (part : Piece)
    (setting : Setting) :
    String :=
  if part.isAbsent then "" else " " ++ part.write (setting.free .lowest)

/-- Write a loop with a condition and a step. -/
def forLoop
    (first test step body : Piece)
    (setting : Setting) :
    String :=
  setting.indent ++ "for (" ++ first.write setting.asLoopStart ++ ";" ++
    headPart test setting ++ ";" ++ headPart step setting ++ ")" ++ nested body setting

/-- Write what a loop over keys or items assigns; `async` alone would start a function. -/
def loopTarget
    (target : Piece)
    (setting : Setting) :
    String :=
  if target.form == .identifier "async" then "(async)" else target.write setting.asLoopStart

/-- Write a loop over keys. -/
def forIn
    (target object body : Piece)
    (setting : Setting) :
    String :=
  setting.indent ++ "for (" ++ loopTarget target setting ++ " in " ++
    object.write (setting.free .lowest) ++ ")" ++ nested body setting

/-- Write a loop over items. -/
def forOf
    (isAwait : Bool)
    (target iterable body : Piece)
    (setting : Setting) :
    String :=
  setting.indent ++ (if isAwait then "for await (" else "for (") ++
    loopTarget target setting ++ " of " ++ iterable.write (setting.free .comma) ++ ")" ++
    nested body setting

/-- Write a loop that tests after its body. -/
def doWhile
    (body test : Piece)
    (setting : Setting) :
    String :=
  let bodyText :=
    match body.form with
    | .block => " " ++ body.write setting.within ++ " "
    | .empty => ";\n" ++ setting.tabs
    | _ => "\n" ++ body.write setting.deeper ++ setting.tabs
  setting.indent ++ "do" ++ bodyText ++ "while " ++ condition test setting ++ ";\n"

/-- Write a case of a `switch` statement. -/
def case
    (value : Piece)
    (statements : List Piece)
    (setting : Setting) :
    String :=
  let head := if value.isAbsent then "default" else "case " ++ value.write (setting.free .lowest)
  setting.indent ++ head ++ ":" ++
    match statements with
    | [statement] => nested statement setting
    | _ => "\n" ++ concatenated statements setting.deeper

/-- Write a `try` statement. -/
def trying
    (block clause last : Piece)
    (setting : Setting) :
    String :=
  setting.indent ++ "try " ++ block.write setting.within ++ clause.write setting.within ++
    (if last.isAbsent then "" else " finally " ++ last.write setting.within) ++ "\n"

/-- Write a catch clause. -/
def catchClause
    (pattern block : Piece)
    (setting : Setting) :
    String :=
  " catch " ++ (if pattern.isAbsent then "" else "(" ++ pattern.write setting.within ++ ") ") ++
    block.write setting.within

/-- Write a block. -/
def block
    (statements : List Piece)
    (setting : Setting) :
    String :=
  let text := braces setting (concatenated statements setting.deeper)
  if setting.fit == .inside then text else setting.indent ++ text ++ "\n"

/--
Write the directives and statements of a body.

A first statement that is a string alone would be read as a directive, so without
directives before it, it gets parentheses.
-/
def bodyLines
    (directives : List String)
    (statements : List Piece)
    (setting : Setting) :
    String :=
  let directiveLines :=
    joined "" (directives.map (fun raw => setting.tabs ++ directiveText raw ++ ";\n"))
  let statementLines :=
    match directives, statements with
    | [], statement :: others =>
        match statement.node with
        | .mk .expressionStatement _ _ [.mk (.string value) _ _ _] =>
            "(" ++ stringText value ++ ");\n" ++ concatenated others setting
        | _ => concatenated statements setting
    | _, _ => concatenated statements setting
  directiveLines ++ statementLines

/-- Write the body of a function. -/
def body
    (directives : List String)
    (statements : List Piece)
    (setting : Setting) :
    String :=
  if setting.fit == .value then
    concatenated (statements.take 1) setting
  else
    braces setting (bodyLines directives statements setting.deeper)

/-- Write an expression statement. -/
def expressionStatement
    (value : Piece)
    (setting : Setting) :
    String :=
  if setting.fit == .value then
    value.write { setting with fit := .lines }
  else
    ended setting (value.write { setting.free .lowest with lead := .statement })

/-- The spelling of the keyword of a variable declaration. -/
def variableKeyword :
    VariableKeyword →
    String
  | .var => "var"
  | .let => "let"
  | .const => "const"

/-- Write a variable declaration. -/
def declaration
    (keyword : VariableKeyword)
    (declarators : List Piece)
    (setting : Setting) :
    String :=
  ended setting (variableKeyword keyword ++ " " ++ commaSeparated declarators setting.within)

/-- Write a declarator. -/
def declarator
    (pattern : Piece)
    (values : List Piece)
    (setting : Setting) :
    String :=
  pattern.write setting.within ++
    joined "" (values.map (fun value => " = " ++ value.write (setting.later .comma)))

/-- Write a keyword and the value behind it if there is one. -/
def keywordStatement
    (keyword : String)
    (values : List Piece)
    (setting : Setting) :
    String :=
  ended setting
    (keyword ++ joined "" (values.map (fun value => " " ++ value.write (setting.free .lowest))))

/-- Write a jump. -/
def jump
    (keyword : String)
    (label : Option String)
    (setting : Setting) :
    String :=
  ended setting (keyword ++ joined "" (label.toList.map (" " ++ ·)))

/-- Write a class from its keyword on. -/
def classText
    (name : Option String)
    (superclass : Piece)
    (members : List Piece)
    (setting : Setting) :
    String :=
  "class" ++ joined "" (name.toList.map (" " ++ ·)) ++
    (if superclass.isAbsent then "" else " extends " ++ superclass.write (setting.free .update)) ++
    " " ++ braces setting (concatenated members setting.deeper)

/-- Write a class. -/
def classBody
    (name : Option String)
    (isDeclaration : Bool)
    (superclass : Piece)
    (members : List Piece)
    (setting : Setting) :
    String :=
  if isDeclaration then
    let text := setting.indent ++ classText name superclass members setting
    if setting.fit == .inside then text else text ++ "\n"
  else
    wrapped (setting.lead == .statement || setting.lead == .exportDefault) setting
      (classText name superclass members)

/-- Write a method of a class. -/
def classMethod
    (kind : PropertyKind)
    (isStatic isComputed : Bool)
    (key function : Piece)
    (setting : Setting) :
    String :=
  setting.indent ++ (if isStatic then "static " else "") ++ methodModifiers kind function ++
    keyText key isComputed setting ++ function.write setting.asMethod ++ "\n"

/-- Write a field of a class. -/
def classField
    (isStatic isComputed : Bool)
    (key : Piece)
    (values : List Piece)
    (setting : Setting) :
    String :=
  ended setting ((if isStatic then "static " else "") ++ keyText key isComputed setting ++
    joined "" (values.map (fun value => " = " ++ value.write (setting.free .comma))))

/-- Write the static block of a class. -/
def staticBlock
    (statements : List Piece)
    (setting : Setting) :
    String :=
  setting.indent ++ "static " ++ braces setting (concatenated statements setting.deeper) ++ "\n"

end Reactivity.Script.Layout
