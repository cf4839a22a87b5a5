import Reactivity.Script.Reading
import Reactivity.Text.SimpleName

namespace Reactivity.Expression

open Script Text

/-!
# Template expressions

What kind of expression a template holds, and the braces around it.
-/

/-- The kinds of template expressions. -/
inductive Kind where
  /-- A name, or a path that ends in one. -/
  | identifier
  /-- An arrow function. -/
  | function
  | unclassified
  deriving Repr, DecidableEq

/-- The name of a kind. -/
def Kind.name :
    Kind →
    String
  | .identifier => "identifier"
  | .function => "function"
  | .unclassified => "unclassified"

/-- The kind of an expression. -/
def Kind.ofNode :
    Node →
    Kind
  | .mk (.identifier _) _ _ _ => .identifier
  | .mk (.member _ _) _ _ _ => .identifier
  | .mk (.computedMember _) _ _ [_, .mk (.identifier _) _ _ _] => .identifier
  | .mk (.arrow _) _ _ _ => .function
  | _ => .unclassified

/-- The kind of a script: only a single expression statement has one. -/
def Kind.ofStatements :
    List Node →
    Kind
  | [.mk .expressionStatement _ _ [value]] => .ofNode value
  | _ => .unclassified

/-- The kind of a template expression. A simple name is an identifier without reading it. -/
def classify
    (code : String) :
    Outcome Kind :=
  if isSimpleName code then
    .ok .identifier
  else do
    let program ← readProgram code
    return .ofStatements program.statements

/-- The text between a pair of braces, if it stays on one line. -/
def inBraces? :
    List Char →
    Option (List Char)
  | '\x7b' :: text =>
      match text.getLast? with
      | some '\x7d' =>
          let inner := text.dropLast
          if inner.contains '\n' then none else some inner
      | _ => none
  | _ => none

/-- Remove the braces around a template expression. -/
def unwrap
    (code : String) :
    Outcome String :=
  if code.isEmpty then
    .fail .emptyExpression
  else
    match inBraces? code.toList with
    | some inner => .ok (String.ofList inner)
    | none => .fail (.unwrappedExpression code)

end Reactivity.Expression
