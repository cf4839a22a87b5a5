import Reactivity.Script.Node

namespace Reactivity.Script.Build

/-!
# Building scripts

Short names for the nodes that the snippets of a component are read as.
-/

/-- A name used as a value. -/
def name
    (text : String) :
    Node :=
  .expression (.identifier text)

/-- A name that is assigned or bound. -/
def target
    (text : String) :
    Node :=
  .part (.identifier text)

/-- A member of an object. -/
def member
    (object : Node)
    (text : String) :
    Node :=
  .expression (.member text false) [object]

/-- An object without properties. -/
def emptyObject : Node :=
  .expression .object

/-- A value, or an object without properties in its place. -/
def orEmptyObject
    (value : Node) :
    Node :=
  .expression (.logical .or) [value, emptyObject]

/-- A string. -/
def text
    (value : String) :
    Node :=
  .expression (.string value)

/-- The value that there is none. -/
def null : Node :=
  .expression .null

/-- A value in parentheses. -/
def enclosed
    (value : Node) :
    Node :=
  .expression .parenthesized [value]

/-- An array. -/
def array
    (items : List Node) :
    Node :=
  .expression .array items

/-- An object with one property. -/
def object
    (key : String)
    (value : Node) :
    Node :=
  .expression .object
    [.part (.property .value false false) [.part (.propertyName key), value]]

/-- A call. -/
def call
    (callee : Node)
    (values : List Node) :
    Node :=
  .expression (.call false) (callee :: values)

/-- An expression as a statement. -/
def statement
    (value : Node) :
    Node :=
  .statement .expressionStatement [value]

/-- An assignment as a statement. -/
def assign
    (left right : Node) :
    Node :=
  statement (.expression (.assignment .plain) [left, right])

/-- A declaration of one variable. -/
def declare
    (keyword : VariableKeyword)
    (declared : String)
    (values : List Node) :
    Node :=
  .statement (.declaration keyword) [.part .declarator (target declared :: values)]

/-- A statement that is executed when a value is empty. -/
def whenEmpty
    (value : Node)
    (consequent : Node) :
    Node :=
  .statement .conditionally [.expression (.unary .not) [value], consequent]

/-- Parameters that are plain names. -/
def parameters
    (names : List String) :
    Node :=
  .part .parameters (names.map target)

/-- The body of a function. -/
def body
    (statements : List Node) :
    Node :=
  .part (.body []) statements

/-- A function declaration. -/
def declareFunction
    (function : String)
    (names : List String)
    (statements : List Node) :
    Node :=
  .statement (.function { name := some function, isDeclaration := true })
    [parameters names, body statements]

/-- An arrow function with a value. -/
def arrowValue
    (names : List String)
    (value : Node) :
    Node :=
  .expression (.arrow { isConcise := true }) [parameters names, body [statement value]]

/-- An arrow function with statements. -/
def arrowBlock
    (names : List String)
    (statements : List Node) :
    Node :=
  .expression (.arrow {}) [parameters names, body statements]

end Reactivity.Script.Build
