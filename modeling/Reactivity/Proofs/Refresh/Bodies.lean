import Reactivity.Proofs.Refresh.Decision
import Reactivity.Proofs.Refresh.Image

namespace Reactivity.Refresh

open Script

/-!
# Bodies of functions

The walk visits a function before it edits it. What comes out is the same as if the
edit were made first and the new body visited afterwards: a refresh is its own image,
and the value of an arrow function has the same image whether it stands there as the
value or in a return statement.
-/

/-- A well-formed function, taken apart. -/
structure Callable where
  form : Form
  role : Role
  span : Span
  parameters : Node
  directives : List String
  bodySpan : Span
  statements : List Node
  callable : isCallable form
  /-- The body holds statements. -/
  stand : ∀ statement ∈ statements, statement.Stands .statement
  /-- Without braces the body holds a value. -/
  concise :
    hasBraces form = false →
      ∃ role span value, statements = [.mk .expressionStatement role span [value]]

namespace Callable

/-- The function with another form, other parameters and other statements. -/
def build
    (function : Callable)
    (form : Form)
    (parameters : Node)
    (statements : List Node) :
    Node :=
  .mk form function.role function.span
    [parameters, .mk (.body function.directives) .part function.bodySpan statements]

/-- The function put together again. -/
def node
    (function : Callable) :
    Node :=
  function.build function.form function.parameters function.statements

/-- One of the decisions is made at the function. -/
theorem decision
    (function : Callable)
    (skipsDestroy : Bool)
    (ancestors : List Ancestor) :
    Decision skipsDestroy ancestors function.node
      (decide skipsDestroy ancestors function.node).1 :=
  decide_decision function.callable

/-- The chain of the parameters and the body of a function. -/
def chain
    (function : Callable)
    (ancestors : List Ancestor) :
    List Ancestor :=
  Ancestor.labels function.form function.role function.node.children ++ ancestors

/-- The function put together has its form. -/
theorem form_node
    (function : Callable) :
    function.node.form = function.form :=
  rfl

end Callable

/-- The form of a function, with braces around its body. -/
def withBraces :
    Form →
    Form
  | .arrow head => .arrow { head with isConcise := false }
  | form => form

/-- A function with braces has braces. -/
theorem hasBraces_withBraces
    (form : Form) :
    hasBraces (withBraces form) := by
  cases form <;> rfl

/-- A function with braces is a function. -/
theorem isCallable_withBraces
    {form : Form}
    (callable : isCallable form) :
    isCallable (withBraces form) := by
  cases form with
  | function | arrow => rfl
  | _ => cases callable

/-- The function is an asynchronous function declaration. -/
def isAsyncDeclaration :
    Form →
    Bool
  | .function head => head.isDeclaration && head.isAsync
  | _ => false

/-- The chain of the statements of a function. -/
def bodyChain
    (ancestors : List Ancestor)
    (node : Node) :
    List Ancestor :=
  .functionBody :: (Ancestor.labels node.form node.role node.children ++ ancestors)

/-- The images of statements of a function, with a refresh behind each of its awaits. -/
def bodyImages
    (skipsDestroy : Bool)
    (ancestors : List Ancestor)
    (owner : Node)
    (statements : List Node) :
    List Node :=
  statements.flatMap (fun statement =>
    image skipsDestroy (bodyChain ancestors owner) statement ::
      if isAsyncDeclaration owner.form && isBareAwait statement then [refreshStatement] else [])

variable
  {skipsDestroy : Bool}
  {ancestors : List Ancestor}

/-- A function that is well placed can be taken apart. -/
theorem Placed.callable
    {node : Node}
    (placed : Placed ancestors node)
    (isFunction : isCallable node.form) :
    ∃ function : Callable, node = function.node := by
  obtain ⟨form, role, span, children⟩ := node
  obtain ⟨atRoot, below⟩ := Node.isWellFormed_mk.mp placed.wellFormed
  have shape : Node.areFunction children := by
    cases form with
    | function head => exact atRoot
    | arrow head => exact (Bool.and_eq_true_iff.mp atRoot).1
    | _ => cases isFunction
  obtain ⟨parameters, directives, bodyRole, bodySpan, statements, rfl⟩ :=
    Node.areFunction_iff.mp shape
  obtain ⟨atBody, belowBody⟩ :=
    Node.isWellFormed_mk.mp (below (.mk (.body directives) bodyRole bodySpan statements) (by simp))
  simp only [Form.fits, Bool.and_eq_true, beq_iff_eq, List.all_eq_true, List.mem_map,
    forall_exists_index, and_imp, forall_apply_eq_imp_iff₂] at atBody
  obtain ⟨rfl, areStatements⟩ := atBody
  have concise (noBraces : hasBraces form = false) :
      ∃ role span value, statements = [.mk .expressionStatement role span [value]] := by
    cases form with
    | arrow head =>
        have isConcise : head.isConcise := by
          simpa [hasBraces] using noBraces
        simp only [Form.fits, isConcise, Bool.not_true, Bool.false_or, Bool.and_eq_true] at atRoot
        exact Node.areConcise_iff.mp atRoot.2
    | _ => cases noBraces
  exact
    ⟨{ form, role, span, parameters, directives, bodySpan, statements, concise
       callable := isFunction
       stand := fun statement member =>
        ⟨belowBody statement member, areStatements statement member⟩ },
      rfl⟩

/-- The chain of the statements of a function says whether it is an asynchronous declaration. -/
theorem isInAsyncDeclaration_bodyChain
    (ancestors : List Ancestor)
    (function : Callable) :
    isInAsyncDeclaration (bodyChain ancestors function.node) =
      isAsyncDeclaration function.form := by
  obtain ⟨form, _, _, _, _, _, _, callable, _, _⟩ := function
  cases form with
  | function head =>
      obtain ⟨name, isAsync, isGenerator, isDeclaration, isWrapped⟩ := head
      cases isAsync <;> cases isDeclaration <;> rfl
  | arrow head =>
      rfl
  | _ =>
      cases callable

/-- A statement of a body is followed by a refresh if its owner owes it one. -/
theorem pendingAfter_bodyChain
    {statement : Node}
    (stands : statement.Stands .statement)
    (function : Callable) :
    (pendingAfter (bodyChain ancestors function.node) statement).toList =
      if isAsyncDeclaration function.form && isBareAwait statement then
        [refreshStatement]
      else
        [] := by
  have requested :
      requests (bodyChain ancestors function.node) statement =
        (isAsyncDeclaration function.form && isBareAwait statement) := by
    rw [← isInAsyncDeclaration_bodyChain ancestors function, Bool.and_comm]
    unfold requests
    split
    · next isAwait =>
        -- An await is no statement.
        obtain ⟨form, role, span, children⟩ := statement
        obtain rfl : form = .awaiting := isAwait
        obtain rfl : role = .statement := stands.hasRole
        cases (Node.isWellFormed_mk.mp stands.wellFormed).1
    · rfl
  rw [pendingAfter, requested]
  split <;> rfl

/-- The image of the body of a function. -/
theorem image_body
    (function : Callable)
    (placed : Placed ancestors function.node) :
    image skipsDestroy (function.chain ancestors)
        (.mk (.body function.directives) .part function.bodySpan function.statements) =
      .mk (.body function.directives) .part function.bodySpan
        (bodyImages skipsDestroy ancestors function.node function.statements) := by
  have bodyPlaced :
      Placed (function.chain ancestors)
        (.mk (.body function.directives) .part function.bodySpan function.statements) :=
    placed.children _ (by simp)
  have taken :
      images skipsDestroy (.body function.directives) (bodyChain ancestors function.node)
          function.statements =
        bodyImages skipsDestroy ancestors function.node function.statements := by
    unfold images bodyImages
    rw [List.flatMap_def, List.flatMap_def]
    congr 1
    refine List.map_congr_left (fun statement member => ?_)
    exact congrArg _ (pendingAfter_bodyChain (function.stand statement member) function)
  rw [image_mk bodyPlaced, ← taken]
  rfl

/-- The function with the images of its parameters and its statements. -/
def Callable.visited
    (function : Callable)
    (skipsDestroy : Bool)
    (ancestors : List Ancestor) :
    Node :=
  function.build function.form
    (image skipsDestroy (function.chain ancestors) function.parameters)
    (bodyImages skipsDestroy ancestors function.node function.statements)

/-- The images of the parts of a function. -/
theorem Callable.images_children
    (function : Callable)
    (placed : Placed ancestors function.node) :
    images skipsDestroy function.form (function.chain ancestors) function.node.children =
      (function.visited skipsDestroy ancestors).children := by
  unfold Callable.visited Callable.build
  rw [← image_body function placed]
  exact images_of_noBody (isBody_of_isCallable function.callable) _ _

/-- What is decided at a function is carried out after its inside has been visited. -/
theorem Callable.image_node
    (function : Callable)
    (placed : Placed ancestors function.node) :
    image skipsDestroy ancestors function.node =
      (decide skipsDestroy ancestors function.node).1.applyTo
        (function.visited skipsDestroy ancestors) := by
  have unfolded :
      image skipsDestroy ancestors function.node =
        (decide skipsDestroy ancestors function.node).1.applyTo
          (.mk function.form function.role function.span
            (images skipsDestroy function.form (function.chain ancestors)
              function.node.children)) :=
    image_mk placed
  rw [unfolded, function.images_children placed]
  rfl

/-- A refresh at the start of a body is its own image. -/
theorem bodyImages_refresh
    (owner : Node)
    (statements : List Node) :
    bodyImages skipsDestroy ancestors owner (refreshStatement :: statements) =
      refreshStatement :: bodyImages skipsDestroy ancestors owner statements := by
  have noAwait : isBareAwait refreshStatement = false := rfl
  have ownImage :
      image skipsDestroy (bodyChain ancestors owner) refreshStatement = refreshStatement :=
    rfl
  simp [bodyImages, noAwait, ownImage]

/-- The rule looks at three properties of a chain. -/
theorem decide_congr
    {first second : List Ancestor}
    (sameDestroy : isDestroyCallback first = isDestroyCallback second)
    (sameIteration : isIterationCallback first = isIterationCallback second)
    (sameAwait : isInAwaitStatement first = isInAwaitStatement second)
    (node : Node) :
    decide skipsDestroy first node = decide skipsDestroy second node := by
  simp only [decide, enterArrow, enterFunction, enterAwait_eq, sameDestroy, sameIteration,
    sameAwait]

/-- The rule does not tell the value of an arrow function from one that is returned. -/
theorem alike_value_return :
    (injection skipsDestroy).Alike
      (.expressionStatement :: .functionBody :: .arrowFunction :: ancestors)
      (.other :: .functionBody :: .arrowFunction :: ancestors) := by
  intro inner node own
  have sameDecision :
      decide skipsDestroy
          (inner ++ .expressionStatement :: .functionBody :: .arrowFunction :: ancestors) node =
        decide skipsDestroy
          (inner ++ .other :: .functionBody :: .arrowFunction :: ancestors) node := by
    refine decide_congr ?_ ?_ ?_ node
    · cases inner <;> rfl
    · cases inner <;> rfl
    · -- The third label from within is the last one that matters.
      match inner with
      | [] => rfl
      | [first] => cases first <;> rfl
      | [first, second] => cases first <;> cases second <;> rfl
      | first :: second :: third :: rest =>
          cases first <;> try rfl
          cases second <;> try rfl
          cases third <;> try rfl
          next isDeclaration isAsync => cases isDeclaration <;> cases isAsync <;> rfl
  simp only [injection, sameDecision]

/-- A value that is returned from an arrow function has the image of the value. -/
theorem image_returned
    (value : Node) :
    image skipsDestroy (.other :: .functionBody :: .arrowFunction :: ancestors) value =
      image skipsDestroy (.expressionStatement :: .functionBody :: .arrowFunction :: ancestors)
        value :=
  congrArg Prod.fst (alike_value_return.walkNode_eq [] value { own := 0 }).symm

/-- The chain of the value of an arrow function. -/
theorem bodyChain_of_noBraces
    {function : Callable}
    (noBraces : hasBraces function.form = false) :
    bodyChain ancestors function.node = .functionBody :: .arrowFunction :: ancestors := by
  obtain ⟨form, _, _, _, _, _, _, _, _, _⟩ := function
  cases form with
  | arrow head => rfl
  | _ => cases noBraces

/-- The image of the value of an arrow function is its only statement. -/
theorem bodyImages_value
    {function : Callable}
    (noBraces : hasBraces function.form = false)
    {role : Role}
    {span : Span}
    {value : Node}
    (shape : function.statements = [.mk .expressionStatement role span [value]]) :
    bodyImages skipsDestroy ancestors function.node function.statements =
      [.mk .expressionStatement role span
        [image skipsDestroy (.expressionStatement :: bodyChain ancestors function.node)
          value]] := by
  have stands : (Node.mk .expressionStatement role span [value]).Stands .statement :=
    function.stand _ (by simp [shape])
  have valueImage :
      image skipsDestroy (bodyChain ancestors function.node)
          (.mk .expressionStatement role span [value]) =
        .mk .expressionStatement role span
          [image skipsDestroy (.expressionStatement :: bodyChain ancestors function.node) value] :=
    image_mk (.ofStands stands _)
  have noDeclaration : isAsyncDeclaration function.form = false := by
    have fromChain := isInAsyncDeclaration_bodyChain ancestors function
    rw [bodyChain_of_noBraces noBraces] at fromChain
    exact fromChain.symm
  simp [bodyImages, shape, valueImage, noDeclaration, Callable.form_node]

/-- The body of an arrow function without braces, once its value is returned. -/
theorem bodyImages_returnValue
    {function : Callable}
    (noBraces : hasBraces function.form = false) :
    bodyImages skipsDestroy ancestors function.node (returnValue function.statements) =
      returnValue (bodyImages skipsDestroy ancestors function.node function.statements) := by
  obtain ⟨role, span, value, shape⟩ := function.concise noBraces
  have stands : (Node.mk .expressionStatement role span [value]).Stands .statement :=
    function.stand _ (by simp [shape])
  have valueWellFormed := (Node.isWellFormed_mk.mp stands.wellFormed).2 value (by simp)
  have returnStands : (Node.statement .returning [value]).Stands .statement :=
    ⟨Node.isWellFormed_mk.mpr ⟨rfl, by simpa using valueWellFormed⟩, rfl⟩
  have returnImage :
      image skipsDestroy (bodyChain ancestors function.node) (.statement .returning [value]) =
        .statement .returning
          [image skipsDestroy (.expressionStatement :: bodyChain ancestors function.node)
            value] := by
    rw [bodyChain_of_noBraces noBraces, ← image_returned]
    exact image_mk (.ofStands returnStands _)
  have noAwait : isBareAwait (.statement .returning [value]) = false := rfl
  rw [bodyImages_value noBraces shape, shape]
  simp [bodyImages, returnValue, returnImage, noAwait]

/-- An arrow function gets braces, and returns its value. -/
theorem blockArrow_build
    {function : Callable}
    (noBraces : hasBraces function.form = false)
    (parameters : Node)
    (statements : List Node) :
    blockArrow (function.build function.form parameters statements) =
      function.build (withBraces function.form) parameters (returnValue statements) := by
  obtain ⟨form, _, _, _, _, _, _, _, _, _⟩ := function
  cases form with
  | arrow head => rfl
  | _ => cases noBraces

/--
The image of a function that is visited, read from the edited function.

The parameters and the statements of the edited function have got images. Behind each
statement of an asynchronous function declaration that is an await a refresh follows.
-/
theorem Callable.image_entered
    {edit : Node → Node}
    (function : Callable)
    (placed : Placed ancestors function.node)
    (decision : (decide skipsDestroy ancestors function.node).1 = .descend edit) :
    image skipsDestroy ancestors function.node =
      function.build (edit function.node).form
        (image skipsDestroy (function.chain ancestors) function.parameters)
        (bodyImages skipsDestroy ancestors function.node
          (bodyStatements (edit function.node))) := by
  rw [function.image_node placed, decision]
  have made : Decision skipsDestroy ancestors function.node (.descend edit) :=
    decision ▸ function.decision skipsDestroy ancestors
  generalize same : Flow.descend edit = flow at made
  cases made with
  | exempt | stopped => cases same
  | empty | iterating =>
      cases same
      rfl
  | refreshed =>
      cases same
      exact congrArg (function.build function.form _) (bodyImages_refresh _ _).symm
  | braced noExemption noBraces noIteration =>
      cases same
      have edited : blockArrow function.node =
          function.build (withBraces function.form) function.parameters
            (returnValue function.statements) :=
        blockArrow_build noBraces _ _
      dsimp only [Flow.applyTo, Callable.visited]
      rw [edited, blockArrow_build noBraces, ← bodyImages_returnValue noBraces]
      exact congrArg (function.build (withBraces function.form) _) (bodyImages_refresh _ _).symm

end Reactivity.Refresh
