import Reactivity.Script.Node

namespace Reactivity.Script

/-!
# Declared names

The names that patterns bind, declarations declare and statements export.
-/

namespace Node

mutual

/-- The names that a pattern binds, in source order. -/
def boundNames :
    Node →
    List String
  | .mk (.identifier name) _ _ _ => [name]
  | .mk (.patternProperty _ _) _ _ [_, pattern] => boundNames pattern
  | .mk .defaulted _ _ [pattern, _] => boundNames pattern
  | .mk .rest _ _ [pattern] => boundNames pattern
  | .mk (.objectPattern _) _ _ patterns => boundNamesOfAll patterns
  | .mk (.arrayPattern _) _ _ patterns => boundNamesOfAll patterns
  | _ => []

/-- The names that patterns bind, in source order. -/
def boundNamesOfAll :
    List Node →
    List String
  | [] => []
  | node :: nodes => boundNames node ++ boundNamesOfAll nodes

end

/-- The names that a declaration binds. -/
def declaredNames
    (declaration : Node) :
    List String :=
  match declaration.form with
  | .declaration _ =>
      declaration.children.flatMap (fun declarator =>
        boundNamesOfAll (declarator.children.take 1))
  | .function head => head.name.toList
  | .classBody name _ => name.toList
  | _ => []

/-- The names under which a statement exports something. -/
def exportedNames
    (statement : Node) :
    List String :=
  match statement.form with
  | .exportList entries _ _ => entries.map (fun entry => entry.outer.text)
  | .exportAll outer _ _ => outer.toList.map ModuleName.text
  | .exportDefault => ["default"]
  | .exportDeclaration => statement.children.flatMap declaredNames
  | _ => []

end Node

end Reactivity.Script
