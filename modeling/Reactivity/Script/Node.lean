import Reactivity.Number.Magnitude
import Reactivity.Script.Operator

namespace Reactivity.Script

/-!
# Syntax trees of scripts

A node has a form, a role, the range of source characters it was read from, and
its children in source order. The form says what the node is and carries what is
not itself a tree: names, literal values, operators, flags. The role says whether
the node stands where a statement is expected, where an expression is expected,
or is only a part of its parent.

Keeping all forms in one type lets every pass over a script treat the forms it
does not care about alike: it visits the children in order and rebuilds the node.

The child lists of the forms are fixed. An optional child in the middle of a list
is an `absent` node when it is missing, and an optional last child is left out.

Not every construct of the language has a form. There is none for `using`
declarations, decorators, `accessor` fields, `with` statements and the phases of
imports (`import defer`, `import source`).
-/

/-- A range of source characters, from `start` up to but not including `stop`. -/
structure Span where
  start : Nat
  stop : Nat
  deriving Repr, DecidableEq

namespace Span

/-- The range of nodes that were not read from a source. -/
def none : Span where
  start := 0
  stop := 0

/-- The characters of a source in a range. -/
def slice
    (span : Span)
    (source : List Char) :
    List Char :=
  (source.drop span.start).take (span.stop - span.start)

/-- The source text of a range. -/
def text
    (span : Span)
    (source : List Char) :
    String :=
  String.ofList (span.slice source)

end Span

/-- Where a node stands. -/
inductive Role where
  | statement
  | expression
  | part
  deriving Repr, DecidableEq

/-- How a property of an object literal is defined. -/
inductive PropertyKind where
  | value
  | getter
  | setter
  | method
  deriving Repr, DecidableEq

/-- The keyword of a variable declaration. -/
inductive VariableKeyword where
  | var
  | let
  | const
  deriving Repr, DecidableEq

/-- What is known of a function besides its parameters and body. -/
structure FunctionHead where
  name : Option String := none
  isAsync : Bool := false
  isGenerator : Bool := false
  /-- The function is a declaration, not an expression or a method. -/
  isDeclaration : Bool := false
  /-- The function stood directly inside parentheses. -/
  isWrapped : Bool := false
  deriving Repr, DecidableEq

/-- What is known of an arrow function besides its parameters and body. -/
structure ArrowHead where
  isAsync : Bool := false
  /-- The body was written as an expression, without braces. -/
  isConcise : Bool := false
  /-- The arrow function stood directly inside parentheses. -/
  isWrapped : Bool := false
  deriving Repr, DecidableEq

/-- A name in an import or export list: an identifier or a quoted text. -/
inductive ModuleName where
  | plain (name : String)
  | quoted (text : String)
  deriving Repr, DecidableEq

/-- The text of a module name without quotes. -/
def ModuleName.text :
    ModuleName →
    String
  | .plain name => name
  | .quoted text => text

/-- What an import binds. -/
inductive ImportBinding where
  | default (name : String)
  | everything (name : String)
  | named (imported : ModuleName) (name : String)
  deriving Repr, DecidableEq

/-- One entry of an export list. -/
structure ExportEntry where
  inner : ModuleName
  outer : ModuleName
  deriving Repr, DecidableEq

/-- The attributes of an import or export. -/
structure ModuleAttributes where
  /-- They are introduced by `assert` and not by `with`. -/
  isAssertion : Bool := false
  /-- Keys and values. -/
  entries : List (ModuleName × String)
  deriving Repr, DecidableEq

/-- The form of a syntax tree node, with its children in a comment. -/
inductive Form where
  -- Leaves
  | absent
  | identifier (name : String)
  | propertyName (name : String)
  | privateName (name : String)
  | this
  | super
  | null
  | boolean (value : Bool)
  | number (value : Number.Magnitude)
  | bigInteger (value : Nat)
  | string (value : String)
  | regex (body flags : String)
  | metaProperty (object property : String)
  -- Expressions
  /-- The substitutions; there is one more text than there are substitutions. -/
  | template (texts : List String)
  /-- Tag, template. -/
  | taggedTemplate
  /-- Items, spreads and holes. -/
  | array
  /-- Properties and spreads. -/
  | object
  /-- Key, value. -/
  | property (kind : PropertyKind) (isComputed isShorthand : Bool)
  /-- The spread value; the flag says that a comma follows. -/
  | spread (isFollowed : Bool)
  /-- Parameters, body. -/
  | function (head : FunctionHead)
  /-- Parameters, body. -/
  | arrow (head : ArrowHead)
  /-- Patterns. -/
  | parameters
  /-- Statements. -/
  | body (directives : List String)
  /-- Superclass or absent, then members. -/
  | classBody (name : Option String) (isDeclaration : Bool)
  /-- Key, function. -/
  | classMethod (kind : PropertyKind) (isStatic isComputed : Bool)
  /-- Key, then the initial value if there is one. -/
  | classField (isStatic isComputed : Bool)
  /-- Statements. -/
  | staticBlock
  /-- Callee, then arguments. -/
  | call (isOptional : Bool)
  /-- Callee, then arguments. -/
  | construct
  /-- Source, then options if there are any. -/
  | importCall
  /-- Object. -/
  | member (name : String) (isOptional : Bool)
  /-- Object. -/
  | privateMember (name : String) (isOptional : Bool)
  /-- Object, key. -/
  | computedMember (isOptional : Bool)
  /-- The member or call that ends an optional chain. -/
  | chain
  /-- Operand. -/
  | unary (operator : UnaryOperator)
  /-- Target. -/
  | update (operator : UpdateOperator) (isBefore : Bool)
  /-- Two operands. -/
  | binary (operator : BinaryOperator)
  /-- The object that is asked for a private name. -/
  | privateMembership (name : String)
  /-- Two operands. -/
  | logical (operator : LogicalOperator)
  /-- Condition and two branches. -/
  | conditional
  /-- Target, value. -/
  | assignment (operator : AssignmentOperator)
  /-- Items. -/
  | sequence
  /-- The value if there is one. -/
  | yielding (isDelegate : Bool)
  /-- Operand. -/
  | awaiting
  -- Patterns
  /-- Pattern properties, then a rest if there is one. -/
  | objectPattern (isBinding : Bool)
  /-- Patterns and holes, then a rest if there is one. -/
  | arrayPattern (isBinding : Bool)
  /-- Key, pattern. -/
  | patternProperty (isComputed isShorthand : Bool)
  /-- Pattern, default value. -/
  | defaulted
  /-- Pattern. -/
  | rest
  -- Statements
  /-- Expression. -/
  | expressionStatement
  /-- Declarators. -/
  | declaration (keyword : VariableKeyword)
  /-- Pattern, then the initial value if there is one. -/
  | declarator
  /-- The value if there is one. -/
  | returning
  /-- Condition, consequent, then the alternative if there is one. -/
  | conditionally
  /-- Start, condition, step (each may be absent), body. -/
  | forLoop
  /-- Declaration or target, object, body. -/
  | forIn
  /-- Declaration or target, iterable, body. -/
  | forOf (isAwait : Bool)
  /-- Condition, body. -/
  | whileLoop
  /-- Body, condition. -/
  | doWhile
  /-- Value, then cases. -/
  | switch
  /-- Value or absent, then statements. -/
  | case
  /-- Value. -/
  | throwing
  /-- Block, catch clause or absent, last block or absent. -/
  | trying
  /-- Pattern or absent, block. -/
  | catchClause
  /-- Statements. -/
  | block
  | empty
  | debugger
  | breaking (label : Option String)
  | continuing (label : Option String)
  /-- Statement. -/
  | labeled (label : String)
  | importing (bindings : Option (List ImportBinding)) (source : String)
      (attributes : Option ModuleAttributes)
  | exportList (entries : List ExportEntry) (source : Option String)
      (attributes : Option ModuleAttributes)
  | exportAll (outer : Option ModuleName) (source : String)
      (attributes : Option ModuleAttributes)
  /-- Declaration. -/
  | exportDeclaration
  /-- Function or class declaration, or expression. -/
  | exportDefault
  -- Forms that occur only while a script is read
  /-- The expression in parentheses. -/
  | parenthesized
  /-- Key, default value: a property that only a pattern may hold. -/
  | shorthandDefault
  /-- Items that only the parameters of an arrow function may be. -/
  | arrowParameters
  deriving Repr, DecidableEq

/-- A syntax tree. -/
inductive Node where
  | mk (form : Form) (role : Role) (span : Span) (children : List Node)
  deriving Repr

namespace Node

mutual

/-- Compare two trees. -/
def decideEq :
    (first second : Node) →
    Decidable (first = second)
  | .mk form role span children, .mk otherForm otherRole otherSpan otherChildren =>
      have := decideAllEq children otherChildren
      decidable_of_iff
        (form = otherForm ∧ role = otherRole ∧ span = otherSpan ∧ children = otherChildren)
        (by rw [mk.injEq])

/-- Compare two lists of trees. -/
def decideAllEq :
    (first second : List Node) →
    Decidable (first = second)
  | [], [] => .isTrue rfl
  | [], _ :: _ => .isFalse (List.cons_ne_nil _ _).symm
  | _ :: _, [] => .isFalse (List.cons_ne_nil _ _)
  | node :: rest, other :: others =>
      have := decideEq node other
      have := decideAllEq rest others
      decidable_of_iff (node = other ∧ rest = others) (by rw [List.cons.injEq])

end

instance : DecidableEq Node :=
  decideEq

/-- What the node is. -/
def form :
    Node →
    Form
  | .mk form _ _ _ => form

/-- Where the node stands. -/
def role :
    Node →
    Role
  | .mk _ role _ _ => role

/-- The source range of the node. -/
def span :
    Node →
    Span
  | .mk _ _ span _ => span

/-- The children in source order. -/
def children :
    Node →
    List Node
  | .mk _ _ _ children => children

/-- The same node in another role. -/
def withRole
    (role : Role) :
    Node →
    Node
  | .mk form _ span children => .mk form role span children

/-- The same node with another form. -/
def withForm
    (form : Form) :
    Node →
    Node
  | .mk _ role span children => .mk form role span children

/-- The same node with other children. -/
def withChildren
    (children : List Node) :
    Node →
    Node
  | .mk form role span _ => .mk form role span children

/-- An expression that was not read from a source. -/
def expression
    (form : Form)
    (children : List Node := []) :
    Node :=
  .mk form .expression .none children

/-- A statement that was not read from a source. -/
def statement
    (form : Form)
    (children : List Node := []) :
    Node :=
  .mk form .statement .none children

/-- A part of a node that was not read from a source. -/
def part
    (form : Form)
    (children : List Node := []) :
    Node :=
  .mk form .part .none children

mutual

/-- The same tree, as one that was not read from a source. -/
def unplaced :
    Node →
    Node
  | .mk form role _ children => .mk form role .none (unplacedAll children)

/-- The same trees, as some that were not read from a source. -/
def unplacedAll :
    List Node →
    List Node
  | [] => []
  | node :: nodes => unplaced node :: unplacedAll nodes

end

/-- The place of a missing child. -/
def absent : Node :=
  part .absent

/-- The child is missing. -/
def isAbsent
    (node : Node) :
    Bool :=
  match node.form with
  | .absent => true
  | _ => false

end Node

/-- A script that has been read. -/
structure Program where
  hashbang : Option String := none
  directives : List String := []
  statements : List Node
  deriving Repr

end Reactivity.Script
