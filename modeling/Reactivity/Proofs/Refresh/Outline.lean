import Mathlib.Data.List.Basic
import Reactivity.Proofs.Refresh.Erasure
import Reactivity.Scope.Root

namespace Reactivity.Refresh

open Script

/-!
# Outline of a script

The outline of a script is the script without the statements of its functions, and
without saying which arrow functions have braces. The injection works inside of
functions only, so it keeps the outline, with all source ranges in it. Whatever can be
read off the outline is the same before and after the injection.
-/

/-- Forget the statements of a body, and whether an arrow function has braces. -/
def forgetBody :
    Node →
    Node
  | .mk form role span children =>
      .mk (withBraces form) role span (if Rule.isBody form then [] else children)

/-- What is left of a script without the inside of its functions. -/
def outline
    (node : Node) :
    Node :=
  rebuild forgetBody node

theorem outline_mk
    (form : Form)
    (role : Role)
    (span : Span)
    (children : List Node) :
    outline (.mk form role span children) =
      .mk (withBraces form) role span
        (if Rule.isBody form then [] else children.map outline) := by
  unfold outline
  rw [rebuild_mk]
  rfl

theorem withBraces_withBraces
    (form : Form) :
    withBraces (withBraces form) = withBraces form := by
  cases form <;> rfl

theorem form_outline
    (node : Node) :
    (outline node).form = withBraces node.form := by
  obtain ⟨form, role, span, children⟩ := node
  rw [outline_mk]
  rfl

theorem span_outline
    (node : Node) :
    (outline node).span = node.span := by
  obtain ⟨form, role, span, children⟩ := node
  rw [outline_mk]
  rfl

theorem outline_withRole
    (role : Role)
    (node : Node) :
    outline (node.withRole role) = (outline node).withRole role := by
  obtain ⟨form, oldRole, span, children⟩ := node
  rw [outline_mk]
  exact outline_mk form role span children

/-- Of nodes with the same outline, only arrow functions can differ in form. -/
theorem form_of_outline
    {before after : Node}
    (same : outline before = outline after) :
    before.form = after.form ∨
      ∃ head otherHead, before.form = .arrow head ∧ after.form = .arrow otherHead := by
  have sameForm : withBraces before.form = withBraces after.form := by
    rw [← form_outline, same, form_outline]
  generalize before.form = form at sameForm ⊢
  generalize after.form = otherForm at sameForm ⊢
  by_cases isArrow : ∃ head, form = .arrow head
  · obtain ⟨head, rfl⟩ := isArrow
    cases otherForm with
    | arrow otherHead => exact .inr ⟨head, otherHead, rfl, rfl⟩
    | _ => cases sameForm
  · have keepsForm : withBraces form = form := by
      cases form with
      | arrow head => exact (isArrow ⟨head, rfl⟩).elim
      | _ => rfl
    rw [keepsForm] at sameForm
    cases otherForm with
    | arrow otherHead => exact (isArrow ⟨_, sameForm⟩).elim
    | _ => exact .inl sameForm

/-- A node with the outline of a node that is neither a function nor a body. -/
theorem exists_of_outline_mk
    {form : Form}
    {role : Role}
    {span : Span}
    {children : List Node}
    {after : Node}
    (same : outline (.mk form role span children) = outline after)
    (noCallable : isCallable form = false)
    (noBody : Rule.isBody form = false) :
    ∃ otherChildren,
      after = .mk form role span otherChildren ∧
        children.map outline = otherChildren.map outline := by
  have sameForm : form = after.form := by
    rcases form_of_outline same with sameForm | ⟨head, _, isArrow, _⟩
    · exact sameForm
    · cases isArrow
      cases noCallable
  obtain ⟨otherForm, otherRole, otherSpan, otherChildren⟩ := after
  obtain rfl : form = otherForm := sameForm
  rw [outline_mk, outline_mk, noBody] at same
  injection same with _ sameRole sameSpan sameChildren
  exact ⟨otherChildren, by rw [sameRole, sameSpan], sameChildren⟩

/-- The outline of a function does not show its statements, nor its braces. -/
theorem Callable.outline_build
    (function : Callable)
    {form : Form}
    (callable : isCallable form)
    (parameters : Node)
    (statements : List Node) :
    outline (function.build form parameters statements) =
      .mk (withBraces form) function.role function.span
        [outline parameters, .mk (.body function.directives) .part function.bodySpan []] := by
  have noBody := isBody_of_isCallable callable
  have bodyOutline :
      outline (.mk (.body function.directives) .part function.bodySpan statements) =
        .mk (.body function.directives) .part function.bodySpan [] :=
    outline_mk _ _ _ _
  rw [Callable.build, outline_mk, noBody]
  simp [bodyOutline]

variable
  {skipsDestroy : Bool}
  {ancestors : List Ancestor}

/-- The image of a function has its outline, if the images of its parameters have theirs. -/
theorem Callable.outline_image
    (function : Callable)
    (placed : Placed ancestors function.node)
    (parametersSame :
      outline (image skipsDestroy (function.chain ancestors) function.parameters) =
        outline function.parameters) :
    outline (image skipsDestroy ancestors function.node) = outline function.node := by
  have visitedSame (statements : List Node) :
      outline
          (function.build function.form
            (image skipsDestroy (function.chain ancestors) function.parameters) statements) =
        outline function.node := by
    rw [Callable.node, function.outline_build function.callable,
      function.outline_build function.callable, parametersSame]
  have made := function.decision skipsDestroy ancestors
  rw [function.image_node placed]
  generalize (decide skipsDestroy ancestors function.node).1 = flow at made
  cases made with
  | empty | iterating =>
      exact visitedSame _
  | exempt =>
      rfl
  | @stopped earlier later marker =>
      have edited :
          mapBody (fun _ => earlier ++ stopStatement :: later) function.node =
            function.build function.form function.parameters
              (earlier ++ stopStatement :: later) :=
        rfl
      dsimp only [Flow.applyTo]
      rw [edited, Callable.node, function.outline_build function.callable,
        function.outline_build function.callable]
  | refreshed =>
      exact visitedSame (refreshStatement :: _)
  | braced noExemption noBraces =>
      have edited (parameters : Node) (statements : List Node) :
          refreshAtStart (function.build (withBraces function.form) parameters statements) =
            function.build (withBraces function.form) parameters
              (refreshStatement :: statements) :=
        rfl
      dsimp only [Flow.applyTo, Callable.visited]
      rw [blockArrow_build noBraces, edited, Callable.node,
        function.outline_build (isCallable_withBraces function.callable),
        function.outline_build function.callable, withBraces_withBraces, parametersSame]

/-- The injection keeps the outline of a node. -/
theorem outline_image
    {node : Node}
    (placed : Placed ancestors node) :
    outline (image skipsDestroy ancestors node) = outline node := by
  induction node using Node.inductionOnChildren generalizing ancestors with
  | step form role span children inductionHypothesis =>
      have childrenSame :
          ∀ child ∈ children,
            outline (image skipsDestroy (Ancestor.labels form role children ++ ancestors) child) =
              outline child := by
        intro child member
        exact inductionHypothesis child member (placed.children child member)
      cases isFunction : isCallable form with
      | true =>
          obtain ⟨function, shape⟩ := placed.callable isFunction
          cases shape
          exact function.outline_image placed (childrenSame function.parameters (by simp))
      | false =>
          rw [image_of_noCallable placed isFunction, outline_mk, outline_mk]
          cases isBody : Rule.isBody form with
          | true =>
              rfl
          | false =>
              rw [images_of_noBody isBody, List.map_map]
              exact congrArg _ (List.map_congr_left childrenSame)

/-- Nodes with the same outlines are as many: none, one, or more. -/
theorem cases_of_outlines
    {nodes others : List Node}
    (same : nodes.map outline = others.map outline) :
    nodes = [] ∧ others = [] ∨
      (∃ node other, nodes = [node] ∧ others = [other] ∧ outline node = outline other) ∨
        ∃ first second rest otherFirst otherSecond otherRest,
          nodes = first :: second :: rest ∧ others = otherFirst :: otherSecond :: otherRest := by
  rcases nodes with _ | ⟨first, _ | ⟨second, rest⟩⟩
  · exact .inl ⟨rfl, List.map_eq_nil_iff.mp same.symm⟩
  · obtain ⟨other, otherRest, rfl, sameOther, noRest⟩ := List.map_eq_cons_iff.mp same.symm
    obtain rfl : otherRest = [] := List.map_eq_nil_iff.mp noRest
    exact .inr (.inl ⟨first, other, rfl, rfl, sameOther.symm⟩)
  · obtain ⟨otherFirst, later, rfl, _, sameLater⟩ := List.map_eq_cons_iff.mp same.symm
    obtain ⟨otherSecond, otherRest, rfl, _, _⟩ := List.map_eq_cons_iff.mp sameLater
    exact .inr (.inr ⟨_, _, _, _, _, _, rfl, rfl⟩)

theorem boundNamesOfAll_eq
    (patterns : List Node) :
    Node.boundNamesOfAll patterns = patterns.flatMap Node.boundNames := by
  induction patterns with
  | nil =>
      rfl
  | cons pattern rest inductionHypothesis =>
      rw [Node.boundNamesOfAll, inductionHypothesis, List.flatMap_cons]

/-- The names that a pattern binds are in its outline. -/
theorem boundNames_outline
    (pattern : Node) :
    (outline pattern).boundNames = pattern.boundNames := by
  induction pattern using Node.inductionOnChildren with
  | step form role span children inductionHypothesis =>
      have childrenSame :
          Node.boundNamesOfAll (children.map outline) = Node.boundNamesOfAll children := by
        rw [boundNamesOfAll_eq, boundNamesOfAll_eq, List.flatMap_map]
        exact List.flatMap_congr inductionHypothesis
      rw [outline_mk]
      cases form with
      | objectPattern | arrayPattern =>
          exact childrenSame
      | patternProperty | defaulted =>
          rcases children with _ | ⟨first, _ | ⟨second, _ | ⟨third, rest⟩⟩⟩
          case cons.cons.nil =>
            simp_all [Node.boundNames, withBraces, Rule.isBody]
          all_goals rfl
      | rest =>
          rcases children with _ | ⟨first, _ | ⟨second, rest⟩⟩
          case cons.nil =>
            simp_all [Node.boundNames, withBraces, Rule.isBody]
          all_goals rfl
      | _ =>
          rfl

/-- What each node gives by its outline, nodes with the same outlines give in all. -/
theorem flatMap_of_outline
    {names : Node → List String}
    {nodes others : List Node}
    (same : nodes.map outline = others.map outline)
    (alike :
      ∀ node ∈ nodes, ∀ other, outline node = outline other → names node = names other) :
    nodes.flatMap names = others.flatMap names := by
  induction nodes generalizing others with
  | nil =>
      rw [List.map_eq_nil_iff.mp same.symm]
  | cons node rest inductionHypothesis =>
      obtain ⟨other, otherRest, rfl, sameOther, sameRest⟩ := List.map_eq_cons_iff.mp same.symm
      have restSame :=
        inductionHypothesis sameRest.symm (fun node member => alike node (by simp [member]))
      rw [List.flatMap_cons, List.flatMap_cons, restSame,
        alike node (List.mem_cons_self ..) other sameOther.symm]

/-- Declarators with the same outline bind the same names. -/
theorem declaratorNames_of_outline
    {declarator other : Node}
    (same : outline declarator = outline other)
    (isDeclarator : declarator.form = .declarator) :
    Node.boundNamesOfAll (declarator.children.take 1) =
      Node.boundNamesOfAll (other.children.take 1) := by
  obtain ⟨form, role, span, children⟩ := declarator
  obtain rfl : form = .declarator := isDeclarator
  obtain ⟨otherChildren, rfl, sameChildren⟩ := exists_of_outline_mk same rfl rfl
  have samePattern :
      (children.take 1).map outline = (otherChildren.take 1).map outline := by
    rw [List.map_take, List.map_take, sameChildren]
  rw [boundNamesOfAll_eq, boundNamesOfAll_eq]
  apply flatMap_of_outline samePattern
  intro pattern _ otherPattern sameOutline
  rw [← boundNames_outline pattern, sameOutline, boundNames_outline]

/-- Declarations with the same outline declare the same names. -/
theorem declaredNames_of_outline
    {before after : Node}
    (same : outline before = outline after)
    (wellFormed : before.isWellFormed) :
    before.declaredNames = after.declaredNames := by
  rcases form_of_outline same with sameForm | ⟨head, otherHead, isArrow, isOther⟩
  · obtain ⟨form, role, span, children⟩ := before
    cases form with
    | declaration keyword =>
        obtain ⟨otherChildren, rfl, sameChildren⟩ := exists_of_outline_mk same rfl rfl
        have fits := (Node.isWellFormed_mk.mp wellFormed).1
        have areDeclarators : ∀ child ∈ children, child.form = .declarator := by
          simpa [Form.fits] using fits
        apply flatMap_of_outline sameChildren
        intro child member other sameChild
        exact declaratorNames_of_outline sameChild (areDeclarators child member)
    | _ =>
        unfold Node.declaredNames
        rw [← sameForm]
        rfl
  · unfold Node.declaredNames
    rw [isArrow, isOther]

/-- The declarations of statements with the same outline have the same outline. -/
theorem declaration?_of_outline
    {before after : Node}
    (same : outline before = outline after) :
    (Scope.declaration? before).map outline = (Scope.declaration? after).map outline := by
  rcases form_of_outline same with sameForm | ⟨head, otherHead, isArrow, isOther⟩
  · obtain ⟨form, role, span, children⟩ := before
    obtain ⟨otherForm, otherRole, otherSpan, otherChildren⟩ := after
    obtain rfl : form = otherForm := sameForm
    cases form with
    | exportDeclaration =>
        obtain ⟨_, shape, sameChildren⟩ := exists_of_outline_mk same rfl rfl
        cases shape
        rcases cases_of_outlines sameChildren with
          ⟨rfl, rfl⟩ | ⟨child, other, rfl, rfl, sameChild⟩ | ⟨_, _, _, _, _, _, rfl, rfl⟩
        · rfl
        · exact congrArg some sameChild
        · rfl
    | declaration | function =>
        exact congrArg some same
    | _ =>
        rfl
  · obtain ⟨form, role, span, children⟩ := before
    obtain ⟨otherForm, otherRole, otherSpan, otherChildren⟩ := after
    cases isArrow
    cases isOther
    rfl

/-- The declaration that a statement is or exports is well formed. -/
theorem isWellFormed_of_declaration?
    {statement declaration : Node}
    (wellFormed : statement.isWellFormed)
    (found : Scope.declaration? statement = some declaration) :
    declaration.isWellFormed := by
  unfold Scope.declaration? at found
  split at found
  · cases found
    exact (Node.isWellFormed_mk.mp wellFormed).2 _ (List.mem_singleton_self _)
  · cases found
    exact wellFormed
  · cases found
    exact wellFormed
  · cases found

/-- Statements with the same outline declare the same variables and functions. -/
theorem scopeNames_of_outline
    {before after : Node}
    (same : outline before = outline after)
    (wellFormed : before.isWellFormed) :
    Scope.variableNames before = Scope.variableNames after ∧
      Scope.functionNames before = Scope.functionNames after := by
  have sameFound := declaration?_of_outline same
  unfold Scope.variableNames Scope.functionNames
  cases found : Scope.declaration? before with
  | none =>
      rw [found] at sameFound
      rw [Option.map_eq_none_iff.mp sameFound.symm]
      exact ⟨rfl, rfl⟩
  | some declaration =>
      rw [found] at sameFound
      obtain ⟨other, otherFound, sameDeclaration⟩ := Option.map_eq_some_iff.mp sameFound.symm
      have sameNames :=
        declaredNames_of_outline sameDeclaration.symm
          (isWellFormed_of_declaration? wellFormed found)
      rw [otherFound]
      dsimp only
      rw [sameNames]
      rcases form_of_outline sameDeclaration.symm with sameForm | ⟨_, _, isArrow, isOther⟩
      · rw [sameForm]
        exact ⟨rfl, rfl⟩
      · rw [isArrow, isOther]
        exact ⟨rfl, rfl⟩

/-- Scripts whose statements have the same outlines have the same scope. -/
theorem scan_of_outline
    {statements others : List Node}
    (same : statements.map outline = others.map outline)
    (wellFormed : ∀ statement ∈ statements, statement.isWellFormed) :
    Scope.Root.scan statements = Scope.Root.scan others := by
  have alike (statement : Node) (member : statement ∈ statements) (other : Node)
      (sameOther : outline statement = outline other) :=
    scopeNames_of_outline sameOther (wellFormed statement member)
  have sameVariables :
      statements.flatMap Scope.variableNames = others.flatMap Scope.variableNames :=
    flatMap_of_outline same (fun statement member other sameOther =>
      (alike statement member other sameOther).1)
  have sameFunctions :
      statements.flatMap Scope.functionNames = others.flatMap Scope.functionNames :=
    flatMap_of_outline same (fun statement member other sameOther =>
      (alike statement member other sameOther).2)
  rw [Scope.Root.scan, Scope.Root.scan, sameVariables, sameFunctions]

end Reactivity.Refresh
