import Reactivity.Script.Node

namespace Reactivity.Script

/-!
# Targets and bindings

What stands left of an assignment or an arrow is first read as an expression,
because only the operator that follows tells it apart from one. These functions
turn such an expression into the pattern it stands for, and fail if it stands for
none. Parentheses are still nodes here: they are allowed around every target, but
not around a part of what an arrow function binds.
-/

namespace Node

/-- A name or member access, perhaps in parentheses, as the target of an assignment. -/
def simpleTarget? :
    Node →
    Option Node
  | .mk .parenthesized _ span [inner] =>
      (simpleTarget? inner).map (fun target => .mk .parenthesized .part span [target])
  | .mk form _ span children =>
      match form with
      | .identifier _ | .member _ false | .privateMember _ false | .computedMember false =>
          some (.mk form .part span children)
      | _ => none

/-- The property is no spread, or a spread of a name or member access. -/
def spreadIsSimple :
    Node →
    Bool
  | .mk (.spread _) _ _ [value] => value.simpleTarget?.isSome
  | _ => true

mutual

/--
The target that an expression stands for.

With `allowsDefault`, an assignment stands for a target with a default value. A
comma after a rest is an error, so a rest is always the last target of a list. The
rest of an object is a single target and no pattern.
-/
def target?
    (allowsDefault : Bool) :
    Node →
    Option Node
  | .mk (.assignment .plain) _ span children =>
      if allowsDefault then some (.mk .defaulted .part span children) else none
  | .mk .array _ span items =>
      (targets? items).map (fun targets => .mk (.arrayPattern false) .part span targets)
  | .mk .object _ span properties =>
      if properties.all spreadIsSimple then
        (targets? properties).map (fun targets => .mk (.objectPattern false) .part span targets)
      else
        none
  | .mk .parenthesized _ span [inner] =>
      (target? allowsDefault inner).map (fun target => .mk .parenthesized .part span [target])
  | .mk (.property .value isComputed isShorthand) _ span [key, value] =>
      (target? true value).map (fun target =>
        .mk (.patternProperty isComputed isShorthand) .part span [key, target])
  | .mk .shorthandDefault _ span [key, name, value] =>
      some (.mk (.patternProperty false true) .part span
        [key, .mk .defaulted .part span [name.withRole .part, value]])
  | .mk (.spread false) _ span [value] =>
      (target? false value).map (fun target => .mk .rest .part span [target])
  | .mk .rest role span children => some (.mk .rest role span children)
  | .mk .absent role span children => some (.mk .absent role span children)
  | node => simpleTarget? node

/-- The targets that the items of a list stand for. -/
def targets? :
    List Node →
    Option (List Node)
  | [] => some []
  | node :: nodes =>
      match target? true node, targets? nodes with
      | some target, some targets => some (target :: targets)
      | _, _ => none

end

/-- The target is no rest, or a rest that takes a name. -/
def restIsName :
    Node →
    Bool
  | .mk .rest _ _ [.mk (.identifier _) _ _ _] => true
  | .mk .rest _ _ _ => false
  | _ => true

mutual

/--
The binding that a target stands for; only names can be bound.

The rest of an object pattern is a name and not another pattern.
-/
def binding? :
    Node →
    Option Node
  | .mk (.identifier name) _ span _ => some (.mk (.identifier name) .part span [])
  | .mk .absent role span children => some (.mk .absent role span children)
  | .mk (.objectPattern _) role span children =>
      if children.all restIsName then
        (bindings? children).map (fun bindings => .mk (.objectPattern true) role span bindings)
      else
        none
  | .mk (.arrayPattern _) role span children =>
      (bindings? children).map (fun bindings => .mk (.arrayPattern true) role span bindings)
  | .mk (.patternProperty isComputed isShorthand) role span [key, pattern] =>
      (binding? pattern).map (fun binding =>
        .mk (.patternProperty isComputed isShorthand) role span [key, binding])
  | .mk .defaulted role span [pattern, value] =>
      (binding? pattern).map (fun binding => .mk .defaulted role span [binding, value])
  | .mk .rest role span [pattern] =>
      (binding? pattern).map (fun binding => .mk .rest role span [binding])
  | _ => none

/-- The bindings that a list of targets stands for. -/
def bindings? :
    List Node →
    Option (List Node)
  | [] => some []
  | node :: nodes =>
      match binding? node, bindings? nodes with
      | some binding, some bindings => some (binding :: bindings)
      | _, _ => none

end

/-- The expression without the parentheses around it. -/
def bare :
    Node →
    Node
  | .mk .parenthesized _ _ [inner] => bare inner
  | node => node

/-- The name that an expression is, perhaps in parentheses. -/
def name?
    (node : Node) :
    Option String :=
  match node.bare.form with
  | .identifier name => some name
  | _ => none

/--
The items of the parameter list that an expression stands for before an arrow.

A single name may stand in any number of parentheses.
-/
def arrowItems?
    (node : Node) :
    Option (List Node) :=
  match node with
  | .mk .arrowParameters _ _ items => some items
  | .mk .parenthesized _ _ [.mk .sequence _ _ items] => some items
  | .mk .parenthesized _ _ [item] => some [if item.name?.isSome then item.bare else item]
  | .mk (.identifier _) _ _ _ => some [node]
  | _ => none

/-- The parameters of an arrow function whose head was read as an expression. -/
def arrowHead?
    (node : Node) :
    Option (List Node) :=
  node.arrowItems?.bind (fun items => (targets? items).bind bindings?)

end Node

end Reactivity.Script
