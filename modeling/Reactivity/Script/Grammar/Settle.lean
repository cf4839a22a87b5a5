import Reactivity.Script.Node

namespace Reactivity.Script

/-!
# Settled trees

A settled tree has none of the forms that occur only while a script is read.
Parentheses leave no node behind, but a function directly inside of them is marked.
-/

/-- The form of a node that stood in parentheses. -/
def Form.wrapped :
    Form →
    Form
  | .function head => .function { head with isWrapped := true }
  | .arrow head => .arrow { head with isWrapped := true }
  | form => form

/-- The form occurs only while a script is read and does not settle. -/
def Form.isUnsettled :
    Form →
    Bool
  | .shorthandDefault | .arrowParameters => true
  | _ => false

namespace Node

mutual

/-- Remove parentheses; fail if the tree holds what is no part of a script. -/
def settle? :
    Node →
    Option Node
  | .mk .parenthesized _ _ [inner] =>
      (settle? inner).map (fun node => node.withForm node.form.wrapped)
  | .mk form role span children =>
      if form.isUnsettled then
        none
      else
        (settleAll? children).map (fun settled => .mk form role span settled)

/-- Remove parentheses from a list of trees. -/
def settleAll? :
    List Node →
    Option (List Node)
  | [] => some []
  | node :: nodes =>
      match settle? node, settleAll? nodes with
      | some settled, some others => some (settled :: others)
      | _, _ => none

end

end Node

end Reactivity.Script
