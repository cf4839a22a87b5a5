namespace Reactivity.Script

/-!
# Operators

The operators of the script language, their spelling, and the levels that decide
where an expression needs parentheses. A higher level binds tighter.
-/

/-- Binding strength of an expression form. -/
abbrev Level := Nat

namespace Level

/-- An expression that stands alone. -/
def lowest : Level := 0

/-- Items of a sequence. -/
def comma : Level := 1

/-- Spread items. -/
def spread : Level := 2

/-- Yields. -/
def yielding : Level := 3

/-- Assignments and arrow functions. -/
def assign : Level := 4

/-- Choices between two expressions. -/
def conditional : Level := 5

/-- The operator `??`. -/
def coalesce : Level := 6

/-- The operator `||`. -/
def either : Level := 7

/-- The operator `&&`. -/
def both : Level := 8

/-- The operator `|`. -/
def bitOr : Level := 9

/-- The operator `^`. -/
def bitXor : Level := 10

/-- The operator `&`. -/
def bitAnd : Level := 11

/-- Equalities. -/
def equality : Level := 12

/-- Comparisons and memberships. -/
def comparison : Level := 13

/-- Shifts. -/
def shift : Level := 14

/-- Sums and differences. -/
def sum : Level := 15

/-- Products, quotients and remainders. -/
def product : Level := 16

/-- Powers. -/
def power : Level := 17

/-- Operators before one operand. -/
def unary : Level := 18

/-- Updates behind their operand. -/
def update : Level := 19

/-- Constructions without arguments. -/
def construct : Level := 20

/-- Calls. -/
def call : Level := 21

/-- Member accesses. -/
def member : Level := 22

end Level

/-- Operators before one operand that leave it unchanged. -/
inductive UnaryOperator where
  | plus
  | minus
  | not
  | complement
  | typeOf
  | void
  | delete
  deriving Repr, DecidableEq

namespace UnaryOperator

/-- The spelling of a unary operator. -/
def symbol :
    UnaryOperator →
    String
  | .plus => "+"
  | .minus => "-"
  | .not => "!"
  | .complement => "~"
  | .typeOf => "typeof"
  | .void => "void"
  | .delete => "delete"

/-- All unary operators. -/
def all : List UnaryOperator :=
  [.plus, .minus, .not, .complement, .typeOf, .void, .delete]

/-- The operator is spelled as a word. -/
def isWord :
    UnaryOperator →
    Bool
  | .typeOf | .void | .delete => true
  | _ => false

end UnaryOperator

/-- Operators that change their operand by one. -/
inductive UpdateOperator where
  | increment
  | decrement
  deriving Repr, DecidableEq

/-- The spelling of an update operator. -/
def UpdateOperator.symbol :
    UpdateOperator →
    String
  | .increment => "++"
  | .decrement => "--"

/-- Operators between two operands that are both evaluated. -/
inductive BinaryOperator where
  | equal
  | notEqual
  | strictEqual
  | strictNotEqual
  | less
  | lessEqual
  | greater
  | greaterEqual
  | shiftLeft
  | shiftRight
  | shiftRightUnsigned
  | add
  | subtract
  | multiply
  | divide
  | remainder
  | power
  | bitOr
  | bitXor
  | bitAnd
  | membership
  | instanceOf
  deriving Repr, DecidableEq

namespace BinaryOperator

/-- All binary operators. -/
def all : List BinaryOperator :=
  [.equal, .notEqual, .strictEqual, .strictNotEqual, .less, .lessEqual, .greater,
    .greaterEqual, .shiftLeft, .shiftRight, .shiftRightUnsigned, .add, .subtract,
    .multiply, .divide, .remainder, .power, .bitOr, .bitXor, .bitAnd, .membership,
    .instanceOf]

/-- The spelling of a binary operator. -/
def symbol :
    BinaryOperator →
    String
  | .equal => "=="
  | .notEqual => "!="
  | .strictEqual => "==="
  | .strictNotEqual => "!=="
  | .less => "<"
  | .lessEqual => "<="
  | .greater => ">"
  | .greaterEqual => ">="
  | .shiftLeft => "<<"
  | .shiftRight => ">>"
  | .shiftRightUnsigned => ">>>"
  | .add => "+"
  | .subtract => "-"
  | .multiply => "*"
  | .divide => "/"
  | .remainder => "%"
  | .power => "**"
  | .bitOr => "|"
  | .bitXor => "^"
  | .bitAnd => "&"
  | .membership => "in"
  | .instanceOf => "instanceof"

/-- The level of a binary expression. -/
def level :
    BinaryOperator →
    Level
  | .equal | .notEqual | .strictEqual | .strictNotEqual => .equality
  | .less | .lessEqual | .greater | .greaterEqual | .membership | .instanceOf => .comparison
  | .shiftLeft | .shiftRight | .shiftRightUnsigned => .shift
  | .add | .subtract => .sum
  | .multiply | .divide | .remainder => .product
  | .power => .power
  | .bitOr => .bitOr
  | .bitXor => .bitXor
  | .bitAnd => .bitAnd

end BinaryOperator

/-- Operators whose second operand is evaluated only if it is needed. -/
inductive LogicalOperator where
  | and
  | or
  | coalesce
  deriving Repr, DecidableEq

namespace LogicalOperator

/-- All logical operators. -/
def all : List LogicalOperator :=
  [.and, .or, .coalesce]

/-- The spelling of a logical operator. -/
def symbol :
    LogicalOperator →
    String
  | .and => "&&"
  | .or => "||"
  | .coalesce => "??"

/-- The level of a logical expression. -/
def level :
    LogicalOperator →
    Level
  | .and => .both
  | .or => .either
  | .coalesce => .coalesce

end LogicalOperator

/-- Plain assignment, or assignment combined with another operator. -/
inductive AssignmentOperator where
  | plain
  | combined (operator : BinaryOperator)
  | guarded (operator : LogicalOperator)
  deriving Repr, DecidableEq

namespace AssignmentOperator

/-- The spelling of an assignment operator. -/
def symbol :
    AssignmentOperator →
    String
  | .plain => "="
  | .combined operator => operator.symbol ++ "="
  | .guarded operator => operator.symbol ++ "="

/-- The binary operators that combine with assignment. -/
def combinable : List BinaryOperator :=
  [.add, .subtract, .multiply, .divide, .remainder, .power, .shiftLeft, .shiftRight,
    .shiftRightUnsigned, .bitOr, .bitXor, .bitAnd]

/-- All assignment operators. -/
def all : List AssignmentOperator :=
  .plain :: combinable.map .combined ++ LogicalOperator.all.map .guarded

end AssignmentOperator

end Reactivity.Script
