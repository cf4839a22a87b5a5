import Mathlib.Data.List.Infix
import Reactivity.Proofs.Script.WellFormed
import Reactivity.Refresh.CheckStop
import Reactivity.Script.Grammar.Target

namespace Reactivity.Script

open Refresh

/-!
# Marks in trees

A mark is a statement that is just the name of the marker. Where it is one of a list of
statements it can be taken away. Everywhere else the name of the marker is astray.
-/

/-- The node is a statement that names the marker, perhaps in parentheses. -/
def Node.isMark :
    Node →
    Bool
  | .mk .expressionStatement _ _ [value] => value.name? == some markerName
  | _ => false

mutual

/-- The node is just the name of the marker, perhaps in parentheses or as a statement. -/
def Node.isJustMarker :
    Node →
    Bool
  | .mk (.identifier name) _ _ _ => name == markerName
  | .mk .parenthesized _ _ children | .mk .expressionStatement _ _ children =>
      Node.anyIsJustMarker children
  | _ => false

/-- One of the nodes is just the name of the marker. -/
def Node.anyIsJustMarker :
    List Node →
    Bool
  | [] => false
  | node :: nodes => node.isJustMarker || Node.anyIsJustMarker nodes

end

/-- The children of a node of this form are a list of statements. -/
def Form.listsStatements :
    Form →
    Bool
  | .block | .body _ | .case | .staticBlock => true
  | _ => false

/--
How the name of the marker is looked for.

It may be all that there is, as in a mark, or that does not count.
-/
inductive Grade where
  | bare
  | deep
  deriving Repr, DecidableEq

/-- How the name of the marker is looked for in the children of a node. -/
def Form.gradeBelow
    (form : Form)
    (grade : Grade) :
    Grade :=
  match form with
  | .parenthesized | .expressionStatement => grade
  | .block | .body _ | .case | .staticBlock => .deep
  | _ => .bare

/-- The name in an import or export list is that of the marker. -/
def ModuleName.isMarker
    (name : ModuleName) :
    Bool :=
  name.text == markerName

/-- A name that an import binds or asks for is that of the marker. -/
def ImportBinding.isMarker :
    ImportBinding →
    Bool
  | .default name | .everything name => name == markerName
  | .named imported name => imported.isMarker || name == markerName

/-- An entry of an export list has the name of the marker. -/
def ExportEntry.isMarker
    (entry : ExportEntry) :
    Bool :=
  entry.inner.isMarker || entry.outer.isMarker

/-- A key of the attributes is the name of the marker. -/
def ModuleAttributes.isMarker
    (attributes : ModuleAttributes) :
    Bool :=
  attributes.entries.any (fun entry => entry.1.isMarker)

/-- The text of a template holds the name of the marker. -/
def holdsMarker
    (text : String) :
    Bool :=
  decide (markerName.toList <:+: text.toList)

/--
The form of a node, with its children, has the name of the marker astray.

The value of an arrow function without braces is no list of statements, and that of a case
stands before its statements. A call of a function named `async` counts too, because it is
told from the head of an arrow function only by what follows.
-/
def Form.strays
    (grade : Grade)
    (form : Form)
    (children : List Node) :
    Bool :=
  match form with
  | .identifier name => grade == .bare && name == markerName
  | .propertyName name | .member name _ | .labeled name => name == markerName
  | .function head => head.name == some markerName
  | .classBody name _ | .breaking name | .continuing name => name == some markerName
  | .template texts => texts.any holdsMarker
  | .arrow head =>
      head.isConcise && children.getLast?.any (fun body => body.children.any Node.isJustMarker)
  | .case => children.head?.any Node.isJustMarker
  | .call _ => children.head?.any (fun callee => callee.name? == some "async")
  | .importing bindings _ attributes =>
      bindings.any (·.any ImportBinding.isMarker) || attributes.any ModuleAttributes.isMarker
  | .exportList entries _ attributes =>
      entries.any ExportEntry.isMarker || attributes.any ModuleAttributes.isMarker
  | .exportAll outer _ attributes =>
      outer.any ModuleName.isMarker || attributes.any ModuleAttributes.isMarker
  | _ => false

/-- A node of this form is a name or a text, whose children do not matter. -/
def Form.isLeaf :
    Form →
    Bool
  | .identifier _ | .string _ => true
  | _ => false

/-- A node of this form takes in its children, whatever they are. -/
def Form.isCompound
    (form : Form) :
    Bool :=
  !form.isLeaf && form.gradeBelow .deep == .bare && !form.listsStatements

/-- A form passes the grade on to its children, or looks for the marker in a way of its own. -/
theorem Form.gradeBelow_cases
    (form : Form) :
    (form = .parenthesized ∨ form = .expressionStatement) ∨
      ∀ first second, form.gradeBelow first = form.gradeBelow second := by
  unfold Form.gradeBelow
  cases form <;> simp

theorem Form.isCompound_iff
    {form : Form} :
    form.isCompound ↔
      form.isLeaf = false ∧ (∀ grade, form.gradeBelow grade = .bare) ∧
        form.listsStatements = false := by
  simp only [isCompound, Bool.and_eq_true, Bool.not_eq_true', beq_iff_eq, and_assoc]
  constructor
  · rintro ⟨noLeaf, below, noList⟩
    refine ⟨noLeaf, fun grade => ?_, noList⟩
    rcases form.gradeBelow_cases with (rfl | rfl) | stays
    · cases below
    · cases below
    · rw [stays grade .deep, below]
  · rintro ⟨noLeaf, below, noList⟩
    exact ⟨noLeaf, below .deep, noList⟩

/-- What is astray where a mark does not count is astray anywhere. -/
theorem Form.strays_bare
    {grade : Grade}
    {children : List Node}
    (form : Form)
    (isAstray : form.strays grade children) :
    form.strays .bare children := by
  cases form
  case identifier name =>
      rw [Form.strays, Bool.and_eq_true] at isAstray
      exact isAstray.2
  all_goals exact isAstray

namespace Node

mutual

/-- The tree without marks in its lists of statements, and without source ranges. -/
def unmarked :
    Node →
    Node
  | .mk form role _ children => .mk form role .none (unmarkedAll form.listsStatements children)

/-- The trees without marks; among statements, those that are marks are left out. -/
def unmarkedAll
    (lists : Bool) :
    List Node →
    List Node
  | [] => []
  | node :: nodes =>
      if lists && node.isMark then
        unmarkedAll lists nodes
      else
        unmarked node :: unmarkedAll lists nodes

end

mutual

/-- The name of the marker is astray in the tree. -/
def strays
    (grade : Grade) :
    Node →
    Bool
  | .mk form _ _ children =>
      form.strays grade children || !form.isLeaf && straysAny (form.gradeBelow grade) children

/-- The name of the marker is astray in one of the trees. -/
def straysAny
    (grade : Grade) :
    List Node →
    Bool
  | [] => false
  | node :: nodes => strays grade node || straysAny grade nodes

end

/-- Marks are left out of a list of statements only. -/
theorem unmarkedAll_eq
    (lists : Bool)
    (nodes : List Node) :
    unmarkedAll lists nodes =
      (nodes.filter (fun node => !(lists && node.isMark))).map unmarked := by
  induction nodes with
  | nil => rfl
  | cons node rest inductionHypothesis =>
      rw [unmarkedAll, List.filter_cons, inductionHypothesis]
      cases lists && node.isMark <;> simp

@[simp]
theorem unmarkedAll_false
    (nodes : List Node) :
    unmarkedAll false nodes = nodes.map unmarked := by
  rw [unmarkedAll_eq]
  simp only [Bool.false_and, Bool.not_false, List.filter_true]

/-- Nodes are astray if one of them is. -/
theorem straysAny_iff
    {grade : Grade}
    {nodes : List Node} :
    straysAny grade nodes ↔ ∃ node ∈ nodes, node.strays grade := by
  induction nodes with
  | nil => simp [straysAny]
  | cons node rest inductionHypothesis => simp [straysAny, inductionHypothesis]

theorem unmarked_mk
    (form : Form)
    (role : Role)
    (span : Span)
    (children : List Node) :
    (Node.mk form role span children).unmarked =
      .mk form role .none (unmarkedAll form.listsStatements children) := by
  rw [unmarked]

/-- The name of the marker is astray in a node or below it. -/
theorem strays_mk
    {grade : Grade}
    {form : Form}
    {role : Role}
    {span : Span}
    {children : List Node} :
    (Node.mk form role span children).strays grade ↔
      form.strays grade children ∨
        form.isLeaf = false ∧ ∃ child ∈ children, child.strays (form.gradeBelow grade) := by
  rw [strays, Bool.or_eq_true, Bool.and_eq_true, Bool.not_eq_true', straysAny_iff]

/-- Below a node that lists no statements nothing is left out. -/
theorem unmarked_noList
    {form : Form}
    (noList : form.listsStatements = false)
    (role : Role)
    (span : Span)
    (children : List Node) :
    (Node.mk form role span children).unmarked = .mk form role .none (children.map unmarked) := by
  rw [unmarked_mk, noList, unmarkedAll_false]

@[simp]
theorem form_unmarked
    (node : Node) :
    node.unmarked.form = node.form := by
  obtain ⟨form, role, span, children⟩ := node
  rw [unmarked_mk]
  rfl

/-- Away from lists of statements, no child is taken away. -/
theorem children_unmarked
    {node : Node}
    (noList : node.form.listsStatements = false) :
    node.unmarked.children = node.children.map unmarked := by
  obtain ⟨form, role, span, children⟩ := node
  rw [form_mk] at noList
  rw [unmarked_mk, noList, unmarkedAll_false]
  rfl

/-- Parentheses around a node stay. -/
theorem bare_unmarked
    (node : Node) :
    node.unmarked.bare = node.bare.unmarked := by
  induction node using inductionOnChildren with
  | step form role span children inductionHypothesis =>
      rw [unmarked_mk]
      by_cases isWrapped : form = .parenthesized ∧ children.length = 1
      · obtain ⟨rfl, isSingle⟩ := isWrapped
        obtain ⟨inner, rfl⟩ := List.length_eq_one_iff.mp isSingle
        simpa [Form.listsStatements, bare] using inductionHypothesis inner (by simp)
      · have stays (span : Span) {nodes : List Node}
            (same : form = .parenthesized → nodes.length ≠ 1) :
            (Node.mk form role span nodes).bare = .mk form role span nodes := by
          refine bare.eq_2 _ ?_
          rintro _ _ inner shape
          cases shape
          exact same rfl rfl
        rw [not_and] at isWrapped
        rw [stays span isWrapped, unmarked_mk, stays .none]
        rintro rfl
        simpa [Form.listsStatements] using isWrapped rfl

theorem name?_unmarked
    (node : Node) :
    node.unmarked.name? = node.name? := by
  rw [name?, name?, bare_unmarked, form_unmarked]

/-- A mark stays one when the marks below it are left out. -/
theorem isMark_unmarked
    (node : Node) :
    node.unmarked.isMark = node.isMark := by
  obtain ⟨form, role, span, children⟩ := node
  rw [unmarked_mk]
  by_cases isSingle : form = .expressionStatement ∧ children.length = 1
  · obtain ⟨rfl, isSingle⟩ := isSingle
    obtain ⟨value, rfl⟩ := List.length_eq_one_iff.mp isSingle
    simp [Form.listsStatements, isMark, name?_unmarked]
  · have isOther {span : Span} {nodes : List Node}
        (same : form = .expressionStatement → nodes.length ≠ 1) :
        (Node.mk form role span nodes).isMark = false := by
      refine isMark.eq_2 _ ?_
      rintro _ _ value shape
      cases shape
      exact same rfl rfl
    rw [not_and] at isSingle
    rw [isOther isSingle, isOther]
    rintro rfl
    simpa [Form.listsStatements] using isSingle rfl

/-- What is astray in the deeper sense is astray. -/
@[grind →]
theorem strays_bare
    {node : Node}
    {grade : Grade}
    (isAstray : node.strays grade) :
    node.strays .bare := by
  induction node using inductionOnChildren generalizing grade with
  | step form role span children inductionHypothesis =>
      rcases strays_mk.mp isAstray with here | ⟨noLeaf, child, member, below⟩
      · exact strays_mk.mpr (.inl (form.strays_bare here))
      · refine strays_mk.mpr (.inr ⟨noLeaf, child, member, ?_⟩)
        rcases form.gradeBelow_cases with (rfl | rfl) | stays
        · exact inductionHypothesis child member below
        · exact inductionHypothesis child member below
        · rw [stays .bare grade]
          exact below

/-- The marker is astray in a node that takes in its children if it is astray in one of them. -/
theorem strays_of_mem
    {form : Form}
    (isCompound : form.isCompound)
    {grade : Grade}
    {role : Role}
    {span : Span}
    {children : List Node}
    {child : Node}
    (member : child ∈ children)
    (isAstray : child.strays .bare) :
    (Node.mk form role span children).strays grade := by
  obtain ⟨noLeaf, takesBare, _⟩ := Form.isCompound_iff.mp isCompound
  exact strays_mk.mpr (.inr ⟨noLeaf, child, member, by rwa [takesBare]⟩)

/-- The marker is astray in a node that takes in its children only below it. -/
theorem exists_of_strays
    {form : Form}
    (isCompound : form.isCompound)
    {grade : Grade}
    {role : Role}
    {span : Span}
    {children : List Node}
    (isAstray : (Node.mk form role span children).strays grade)
    (noName : form.strays grade children = false) :
    ∃ child ∈ children, child.strays .bare := by
  obtain ⟨_, takesBare, _⟩ := Form.isCompound_iff.mp isCompound
  rw [strays_mk, noName, takesBare] at isAstray
  rcases isAstray with here | ⟨_, below⟩
  · cases here
  · exact below

/-- Parentheses lead nothing astray. -/
theorem strays_parenthesized
    {grade : Grade}
    {role : Role}
    {span : Span}
    {inner : Node} :
    (Node.mk .parenthesized role span [inner]).strays grade ↔ inner.strays grade := by
  simp [strays_mk, Form.strays, Form.isLeaf, Form.gradeBelow]

theorem strays_expressionStatement
    {grade : Grade}
    {role : Role}
    {span : Span}
    {value : Node} :
    (Node.mk .expressionStatement role span [value]).strays grade ↔ value.strays grade := by
  simp [strays_mk, Form.strays, Form.isLeaf, Form.gradeBelow]

theorem withRole_unmarked
    (role : Role)
    (node : Node) :
    node.unmarked.withRole role = (node.withRole role).unmarked := by
  obtain ⟨form, _, span, children⟩ := node
  rw [unmarked_mk, withRole, withRole, unmarked_mk]

/-- Whether a node is astray does not depend on its role. -/
theorem strays_withRole
    (role : Role)
    (grade : Grade)
    (node : Node) :
    (node.withRole role).strays grade = node.strays grade := by
  obtain ⟨form, _, span, children⟩ := node
  rw [withRole, strays, strays]

theorem anyIsJustMarker_iff
    {nodes : List Node} :
    anyIsJustMarker nodes ↔ ∃ node ∈ nodes, node.isJustMarker := by
  induction nodes with
  | nil => simp [anyIsJustMarker]
  | cons node rest inductionHypothesis => simp [anyIsJustMarker, inductionHypothesis]

/-- What is astray is so in the deeper sense, or is just the marker. -/
theorem strays_deep_or_isJustMarker
    {node : Node}
    (isAstray : node.strays .bare) :
    node.strays .deep ∨ node.isJustMarker := by
  induction node using inductionOnChildren with
  | step form role span children inductionHypothesis =>
      rcases strays_mk.mp isAstray with here | ⟨noLeaf, child, member, below⟩
      · cases form
        case identifier name => exact .inr here
        all_goals exact .inl (strays_mk.mpr (.inl here))
      · have passed (childAstray : child.strays .bare) :
            (∃ child ∈ children, child.strays .deep) ∨ anyIsJustMarker children :=
          (inductionHypothesis child member childAstray).imp (fun deeper => ⟨child, member, deeper⟩)
            (fun isJust => anyIsJustMarker_iff.mpr ⟨child, member, isJust⟩)
        rcases form.gradeBelow_cases with (rfl | rfl) | stays
        · exact (passed below).imp_left (fun deeper => strays_mk.mpr (.inr ⟨rfl, deeper⟩))
        · exact (passed below).imp_left (fun deeper => strays_mk.mpr (.inr ⟨rfl, deeper⟩))
        · rw [stays .bare .deep] at below
          exact .inl (strays_mk.mpr (.inr ⟨noLeaf, child, member, below⟩))

end Node

end Reactivity.Script
