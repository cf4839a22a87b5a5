import Reactivity.Proofs.Script.Token
import Reactivity.Script.Walk

namespace Reactivity.Script

/-!
# Well-formed trees

The type of nodes lets any form have any children. Trees that have been read are
far more regular, and the walks over them rely on it: a function has parameters and
a body, a body holds statements, and what an expression statement or an await holds
is one expression. What a call holds are expressions and spreads, and a spread holds
one expression. A declaration holds declarators, its export just the declaration, and
there is nothing in an import. A name is an identifier, and nothing is in it.

A tree is well formed when every node of it fits its children. Parentheses are
covered too, because a tree still has them while it is read.
-/

namespace Node

@[simp]
theorem form_mk
    (form : Form)
    (role : Role)
    (span : Span)
    (children : List Node) :
    (Node.mk form role span children).form = form :=
  rfl

@[simp]
theorem role_mk
    (form : Form)
    (role : Role)
    (span : Span)
    (children : List Node) :
    (Node.mk form role span children).role = role :=
  rfl

@[simp]
theorem children_mk
    (form : Form)
    (role : Role)
    (span : Span)
    (children : List Node) :
    (Node.mk form role span children).children = children :=
  rfl

/-- The children of a function: parameters, and a body. -/
def areFunction :
    List Node →
    Bool
  | [_, inner] => Rule.isBody inner.form
  | _ => false

/-- The children of an arrow function without braces, whose body is a value. -/
def areConcise :
    List Node →
    Bool
  | [_, .mk _ _ _ [.mk .expressionStatement _ _ [_]]] => true
  | _ => false

/-- The children of a property of which only a pattern makes sense: a name is the second one. -/
def areShorthand :
    List Node →
    Bool
  | _ :: .mk (.identifier _) _ _ _ :: _ => true
  | _ => false

end Node

/-- The form is a spread. -/
def Form.isSpread :
    Form →
    Bool
  | .spread _ => true
  | _ => false

/-- The node can be the callee or an argument of a call. -/
def Node.isCalled
    (node : Node) :
    Bool :=
  node.role == .expression || node.form.isSpread

/-- A node of this form can have this role and these children. -/
def Form.fits
    (form : Form)
    (role : Role)
    (children : List Node) :
    Bool :=
  match form with
  | .function _ => Node.areFunction children
  | .arrow head => Node.areFunction children && (!head.isConcise || Node.areConcise children)
  | .body _ => role == .part && (children.map Node.role).all (· == .statement)
  | .expressionStatement => role == .statement && children.map Node.role == [.expression]
  | .awaiting => role == .expression && children.map Node.role == [.expression]
  | .parenthesized => children.map Node.role == [role]
  | .call _ => children.all Node.isCalled
  | .spread _ => children.map Node.role == [.expression]
  | .shorthandDefault => Node.areShorthand children
  | .declaration _ => (children.map Node.form).all (· == .declarator)
  | .identifier name => isIdentifier name && children.isEmpty
  | .importing _ _ _ => children.isEmpty
  | .exportDeclaration => children.length == 1
  | .rest | .absent => role == .part
  | _ => true

/-- Nodes of this form are not bound to one role. -/
def Form.takesAnyRole :
    Form →
    Bool
  | .absent | .rest | .body _ | .expressionStatement | .awaiting | .parenthesized => false
  | _ => true

namespace Node

/-- What a call holds are expressions and spreads. -/
theorem isCalled_iff
    {node : Node} :
    node.isCalled ↔ node.role = .expression ∨ ∃ isFollowed, node.form = .spread isFollowed := by
  obtain ⟨form, role, span, children⟩ := node
  cases form <;> simp [isCalled, Form.isSpread]

/-- The children of a function are its parameters and its body. -/
theorem areFunction_iff
    {children : List Node} :
    areFunction children ↔
      ∃ parameters directives role span statements,
        children = [parameters, .mk (.body directives) role span statements] := by
  constructor
  · intro shape
    unfold areFunction at shape
    split at shape
    · next parameters inner =>
        obtain ⟨form, role, span, statements⟩ := inner
        cases form with
        | body directives =>
            exact ⟨parameters, directives, role, span, statements, rfl⟩
        | _ =>
            cases shape
    · cases shape
  · rintro ⟨parameters, directives, role, span, statements, rfl⟩
    rfl

/-- The only statement of an arrow function without braces holds its value. -/
theorem areConcise_iff
    {parameters : Node}
    {form : Form}
    {role : Role}
    {span : Span}
    {statements : List Node} :
    areConcise [parameters, .mk form role span statements] ↔
      ∃ role span value, statements = [.mk .expressionStatement role span [value]] := by
  constructor
  · intro shape
    unfold areConcise at shape
    split at shape
    · next value same =>
        cases same
        exact ⟨_, _, value, rfl⟩
    · cases shape
  · rintro ⟨role, span, value, rfl⟩
    rfl

/-- Induction on a node, with its children. -/
theorem inductionOnChildren
    {motive : Node → Prop}
    (step :
      ∀ form role span children,
        (∀ child ∈ children, motive child) → motive (.mk form role span children)) :
    ∀ node, motive node
  | .mk form role span children =>
      step form role span children (fun child _ => inductionOnChildren step child)

/-- A node occurs in a tree: it is the whole tree, or occurs in a child. -/
inductive Holds :
    Node →
    Node →
    Prop where
  | whole (node : Node) :
      Holds node node
  | inside
      {form : Form}
      {role : Role}
      {span : Span}
      {children : List Node}
      {child inner : Node}
      (member : child ∈ children)
      (holds : Holds child inner) :
      Holds (.mk form role span children) inner

/-- Induction on a node, with all that occurs in its children. -/
theorem inductionOnInner
    {motive : Node → Prop}
    (step :
      ∀ form role span children,
        (∀ child ∈ children, ∀ inner, child.Holds inner → motive inner) →
          motive (.mk form role span children))
    (node : Node) :
    motive node := by
  have everywhere (node : Node) : ∀ inner, node.Holds inner → motive inner := by
    induction node using inductionOnChildren with
    | step form role span children inductionHypothesis =>
        intro inner holds
        cases holds with
        | whole => exact step form role span children inductionHypothesis
        | inside member holds => exact inductionHypothesis _ member inner holds
  exact everywhere node node (.whole node)

/-- What occurs in a node of another form occurs in a child. -/
theorem Holds.child
    {form : Form}
    {role : Role}
    {span : Span}
    {children : List Node}
    {inner : Node}
    (holds : (Node.mk form role span children).Holds inner)
    (differs : inner.form ≠ form) :
    ∃ child ∈ children, child.Holds inner := by
  cases holds with
  | whole => exact (differs rfl).elim
  | inside member holds => exact ⟨_, member, holds⟩

mutual

/-- Every node of the tree fits its children. -/
def isWellFormed :
    Node →
    Bool
  | .mk form role _ children => form.fits role children && allWellFormed children

/-- Every node of the trees fits its children. -/
def allWellFormed :
    List Node →
    Bool
  | [] => true
  | node :: nodes => isWellFormed node && allWellFormed nodes

end

/-- Well-formed trees, one by one. -/
theorem allWellFormed_iff
    {nodes : List Node} :
    allWellFormed nodes ↔ ∀ node ∈ nodes, node.isWellFormed := by
  induction nodes with
  | nil =>
      simp [allWellFormed]
  | cons node rest inductionHypothesis =>
      simp [allWellFormed, inductionHypothesis]

/-- A tree is well formed at its root and below. -/
theorem isWellFormed_mk
    {form : Form}
    {role : Role}
    {span : Span}
    {children : List Node} :
    (Node.mk form role span children).isWellFormed ↔
      form.fits role children ∧ ∀ child ∈ children, child.isWellFormed := by
  simp [isWellFormed, allWellFormed_iff]

/-- An identifier is well formed. -/
theorem identifier_isWellFormed
    {name : String}
    (named : isIdentifier name)
    (role : Role)
    (span : Span) :
    (Node.mk (.identifier name) role span []).isWellFormed :=
  isWellFormed_mk.mpr ⟨by simp [Form.fits, named], by simp⟩

/-- A well-formed name is an identifier. -/
theorem isIdentifier_of_isWellFormed
    {name : String}
    {role : Role}
    {span : Span}
    {children : List Node}
    (fits : (Node.mk (.identifier name) role span children).isWellFormed) :
    isIdentifier name :=
  (Bool.and_eq_true_iff.mp (isWellFormed_mk.mp fits).1).1

/-- The node is well formed and has a role. -/
structure Stands
    (role : Role)
    (node : Node) :
    Prop where
  wellFormed : node.isWellFormed
  hasRole : node.role = role

/-- A node that is not bound to one role stays well formed in another one. -/
theorem withRole_isWellFormed
    {node : Node}
    (fits : node.isWellFormed)
    (takesAny : node.form.takesAnyRole)
    (role : Role) :
    (node.withRole role).isWellFormed := by
  obtain ⟨form, oldRole, span, children⟩ := node
  obtain ⟨atRoot, below⟩ := isWellFormed_mk.mp fits
  refine isWellFormed_mk.mpr ⟨?_, below⟩
  cases form with
  | absent | rest | body | expressionStatement | awaiting | parenthesized =>
      cases takesAny
  | _ =>
      exact atRoot

end Node

end Reactivity.Script
