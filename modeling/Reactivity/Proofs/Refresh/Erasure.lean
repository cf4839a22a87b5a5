import Reactivity.Proofs.Refresh.Visited

namespace Reactivity.Refresh

open Script

/-!
# Erasure of refreshes

The erasure of a script gives braces to every arrow function without them, and drops
refreshes, check stops and markers from the bodies of functions. The injection changes
nothing that the erasure keeps: no statement, expression, parameter or function of the
script is lost, doubled, moved or altered.
-/

mutual

/-- Change every node of a tree, the children of a node before the node. -/
def rebuild
    (change : Node → Node) :
    Node →
    Node
  | .mk form role span children => change (.mk form role span (rebuildAll change children))

/-- Change every node of some trees. -/
def rebuildAll
    (change : Node → Node) :
    List Node →
    List Node
  | [] => []
  | node :: nodes => rebuild change node :: rebuildAll change nodes

end

/-- The children of a node are rebuilt one by one. -/
theorem rebuild_mk
    (change : Node → Node)
    (form : Form)
    (role : Role)
    (span : Span)
    (children : List Node) :
    rebuild change (.mk form role span children) =
      change (.mk form role span (children.map (rebuild change))) := by
  have oneByOne (nodes : List Node) : rebuildAll change nodes = nodes.map (rebuild change) := by
    induction nodes with
    | nil =>
        rfl
    | cons node rest inductionHypothesis =>
        simp [rebuildAll, inductionHypothesis]
  rw [rebuild, oneByOne]

/-- An arrow function that is a value returns it from braces. -/
def returnFromBraces :
    Node →
    Node
  | .mk (.arrow ⟨isAsync, true, isWrapped⟩) role span
      [parameters, .mk bodyForm bodyRole bodySpan [.mk .expressionStatement _ _ [value]]] =>
      .mk (.arrow ⟨isAsync, false, isWrapped⟩) role span
        [parameters, .mk bodyForm bodyRole bodySpan [.mk .returning .statement .none [value]]]
  | node => node

/-- The statement is a refresh, a check stop or a marker. -/
def isRefresh :
    Node →
    Bool
  | .mk .expressionStatement _ _ [.mk (.call false) _ _ [.mk (.identifier name) _ _ _]] =>
      name == refreshName
  | .mk .expressionStatement _ _
      [.mk (.call false) _ _ [.mk (.identifier name) _ _ _, .mk (.boolean false) _ _ _]] =>
      name == refreshName
  | .mk .expressionStatement _ _ [.mk (.identifier name) _ _ _] => name == markerName
  | _ => false

/-- Forget where a node was read, and drop refreshes from the body of a function. -/
def dropRefreshes :
    Node →
    Node
  | .mk (.body directives) role _ statements =>
      .mk (.body directives) role .none (statements.filter (fun statement => !isRefresh statement))
  | .mk form role _ children => .mk form role .none children

/-- What is left of a script without refreshes. -/
def erase
    (node : Node) :
    Node :=
  rebuild dropRefreshes (rebuild returnFromBraces node)

/-- What is left of the statements of a function. -/
def eraseStatements
    (statements : List Node) :
    List Node :=
  (statements.map erase).filter (fun statement => !isRefresh statement)

/-- An arrow function with braces stays as it is, and so does every other node. -/
theorem returnFromBraces_of_hasBraces
    {form : Form}
    (braces : hasBraces form)
    (role : Role)
    (span : Span)
    (children : List Node) :
    returnFromBraces (.mk form role span children) = .mk form role span children := by
  unfold returnFromBraces
  split
  · next same =>
      cases same
      cases braces
  · rfl

/-- A node that needs no braces is erased by erasing its children. -/
theorem erase_mk
    {form : Form}
    (braces : hasBraces form)
    (role : Role)
    (span : Span)
    (children : List Node) :
    erase (.mk form role span children) =
      dropRefreshes (.mk form role span (children.map erase)) := by
  unfold erase
  rw [rebuild_mk returnFromBraces, returnFromBraces_of_hasBraces braces, rebuild_mk dropRefreshes,
    List.map_map]
  rfl

/-- A node that is no body of a function keeps all its children. -/
theorem erase_of_noBody
    {form : Form}
    (braces : hasBraces form)
    (noBody : Rule.isBody form = false)
    (role : Role)
    (span : Span)
    (children : List Node) :
    erase (.mk form role span children) = .mk form role .none (children.map erase) := by
  rw [erase_mk braces]
  cases form with
  | body directives => cases noBody
  | _ => rfl

/-- The body of a function keeps what is left of its statements. -/
theorem erase_body
    (directives : List String)
    (role : Role)
    (span : Span)
    (statements : List Node) :
    erase (.mk (.body directives) role span statements) =
      .mk (.body directives) role .none (eraseStatements statements) :=
  erase_mk rfl role span statements

/-- The erasure of a function with braces. -/
theorem Callable.erase_build
    (function : Callable)
    {form : Form}
    (braces : hasBraces form)
    (callable : isCallable form)
    (parameters : Node)
    (statements : List Node) :
    erase (function.build form parameters statements) =
      .mk form function.role .none
        [erase parameters,
          .mk (.body function.directives) .part .none (eraseStatements statements)] := by
  rw [Callable.build, erase_of_noBody braces (isBody_of_isCallable callable)]
  simp only [List.map_cons, List.map_nil, erase_body]

/-- The erasure of an arrow function without braces. -/
theorem Callable.erase_build_value
    (function : Callable)
    {form : Form}
    (noBraces : hasBraces form = false)
    (parameters value : Node)
    (role : Role)
    (span : Span) :
    erase (function.build form parameters [.mk .expressionStatement role span [value]]) =
      .mk (withBraces form) function.role .none
        [erase parameters,
          .mk (.body function.directives) .part .none
            [.mk .returning .statement .none [erase value]]] := by
  cases form with
  | arrow head =>
      obtain ⟨isAsync, isConcise, isWrapped⟩ := head
      obtain rfl : isConcise = true := by
        simpa [hasBraces] using noBraces
      unfold erase Callable.build
      simp only [rebuild_mk, List.map_cons, List.map_nil]
      rfl
  | _ =>
      cases noBraces

/-- Nothing is left of a refresh. -/
theorem isRefresh_erase_refreshStatement :
    isRefresh (erase refreshStatement) :=
  rfl

/-- Nothing is left of a check stop. -/
theorem isRefresh_erase_stopStatement :
    isRefresh (erase stopStatement) :=
  rfl

/-- Nothing is left of a marker. -/
theorem isRefresh_erase_marker
    {statement : Node}
    (isStop : isMarker statement) :
    isRefresh (erase statement) := by
  unfold isMarker at isStop
  split at isStop
  · rw [erase_of_noBody rfl rfl, List.map_cons, erase_of_noBody rfl rfl]
    exact isStop
  · cases isStop

/-- What is left of statements that follow a refresh. -/
theorem eraseStatements_cons
    {statement : Node}
    (refresh : isRefresh (erase statement))
    (statements : List Node) :
    eraseStatements (statement :: statements) = eraseStatements statements := by
  simp [eraseStatements, refresh]

/-- What is left of the first statements is followed by what is left of the others. -/
theorem eraseStatements_append
    (first second : List Node) :
    eraseStatements (first ++ second) = eraseStatements first ++ eraseStatements second := by
  simp [eraseStatements]

variable
  {skipsDestroy : Bool}
  {ancestors : List Ancestor}

/-- Of the images of statements the same is left as of the statements. -/
theorem eraseStatements_images
    {nodes : List Node}
    (same : ∀ node ∈ nodes, erase (image skipsDestroy ancestors node) = erase node)
    (form : Form) :
    eraseStatements (images skipsDestroy form ancestors nodes) = eraseStatements nodes := by
  induction nodes with
  | nil =>
      rfl
  | cons node rest inductionHypothesis =>
      have restSame := inductionHypothesis (fun other member => same other (by simp [member]))
      have nothingInserted :
          eraseStatements (if Rule.isBody form then (pendingAfter ancestors node).toList else []) =
            [] := by
        unfold pendingAfter
        split
        · split <;> rfl
        · rfl
      have split :
          images skipsDestroy form ancestors (node :: rest) =
            [image skipsDestroy ancestors node] ++
              (if Rule.isBody form then (pendingAfter ancestors node).toList else []) ++
                images skipsDestroy form ancestors rest := by
        simp [images]
      have nodeSame :
          eraseStatements [image skipsDestroy ancestors node] = eraseStatements [node] := by
        simp [eraseStatements, same node]
      rw [split, eraseStatements_append, eraseStatements_append, nothingInserted, restSame,
        nodeSame, List.append_nil]
      exact (eraseStatements_append [node] rest).symm

/-- What is left of a statement that returns a value. -/
theorem eraseStatements_returning
    (value : Node) :
    eraseStatements [.statement .returning [value]] =
      [.mk .returning .statement .none [erase value]] := by
  have kept :
      erase (.statement .returning [value]) = .mk .returning .statement .none [erase value] :=
    erase_of_noBody rfl rfl _ _ _
  simp [eraseStatements, kept, isRefresh]

/-- The statements of a function have images of which the same is left. -/
theorem Callable.eraseStatements_bodyImages
    {function : Callable}
    (placed : Placed ancestors function.node)
    (same :
      ∀ child ∈ function.node.children,
        erase (image skipsDestroy (function.chain ancestors) child) = erase child) :
    eraseStatements (bodyImages skipsDestroy ancestors function.node function.statements) =
      eraseStatements function.statements := by
  have bodySame :=
    same (.mk (.body function.directives) .part function.bodySpan function.statements)
      (by simp [Callable.node, Callable.build])
  rw [image_body function placed, erase_body, erase_body] at bodySame
  simpa using bodySame

/-- Erasure forgets what the injection does to an arrow function without braces. -/
theorem Callable.erase_image_value
    {function : Callable}
    (noBraces : hasBraces function.form = false)
    (same :
      ∀ child ∈ function.node.children, ∀ inner, child.Holds inner → ∀ ancestors,
        Placed ancestors inner → erase (image skipsDestroy ancestors inner) = erase inner)
    (parametersSame :
      erase (image skipsDestroy (function.chain ancestors) function.parameters) =
        erase function.parameters) :
    erase (function.visited skipsDestroy ancestors) = erase function.node ∧
      erase (refreshAtStart (blockArrow (function.visited skipsDestroy ancestors))) =
        erase function.node := by
  obtain ⟨role, span, value, shape⟩ := function.concise noBraces
  have stands : (Node.mk .expressionStatement role span [value]).Stands .statement :=
    function.stand _ (by simp [shape])
  have statement := Placed.ofStands stands (bodyChain ancestors function.node)
  -- The erased body may have lost the value, when that is a refresh, so it tells nothing of it.
  have valueSame :
      erase (image skipsDestroy (.expressionStatement :: bodyChain ancestors function.node) value) =
        erase value := by
    refine same (.mk (.body function.directives) .part function.bodySpan function.statements)
      (by simp [Callable.node, Callable.build]) value ?_ _ (statement.children value (by simp))
    rw [shape]
    exact .inside (List.mem_singleton_self _) (.inside (List.mem_singleton_self _) (.whole value))
  have whole :
      erase function.node =
        .mk (withBraces function.form) function.role .none
          [erase function.parameters,
            .mk (.body function.directives) .part .none
              [.mk .returning .statement .none [erase value]]] := by
    rw [Callable.node, shape]
    exact function.erase_build_value noBraces _ _ _ _
  unfold Callable.visited
  rw [blockArrow_build noBraces, bodyImages_value noBraces shape, whole]
  constructor
  · rw [function.erase_build_value noBraces, parametersSame, valueSame]
  · have edited (parameters value : Node) :
        refreshAtStart (function.build (withBraces function.form) parameters
            (returnValue [.mk .expressionStatement role span [value]])) =
          function.build (withBraces function.form) parameters
            [refreshStatement, .statement .returning [value]] :=
      rfl
    rw [edited, function.erase_build (hasBraces_withBraces _)
        (isCallable_withBraces function.callable),
      eraseStatements_cons isRefresh_erase_refreshStatement, eraseStatements_returning,
      parametersSame, valueSame]

/-- Erasure forgets what the injection does to a function. -/
theorem Callable.erase_image
    (function : Callable)
    (placed : Placed ancestors function.node)
    (same :
      ∀ child ∈ function.node.children, ∀ inner, child.Holds inner → ∀ ancestors,
        Placed ancestors inner → erase (image skipsDestroy ancestors inner) = erase inner) :
    erase (image skipsDestroy ancestors function.node) = erase function.node := by
  have partsSame :
      ∀ child ∈ function.node.children,
        erase (image skipsDestroy (function.chain ancestors) child) = erase child :=
    fun child member => same child member child (.whole child) _ (placed.children child member)
  have parametersSame := partsSame function.parameters (by simp [Callable.node, Callable.build])
  have statementsSame := Callable.eraseStatements_bodyImages placed partsSame
  -- With braces it is enough that the same is left of the statements.
  have bracesSame
      (braces : hasBraces function.form)
      {statements : List Node}
      (left : eraseStatements statements = eraseStatements function.statements)
      {parameters : Node}
      (unchanged : erase parameters = erase function.parameters) :
      erase (function.build function.form parameters statements) = erase function.node := by
    rw [Callable.node, function.erase_build braces function.callable,
      function.erase_build braces function.callable, left, unchanged]
  have made := function.decision skipsDestroy ancestors
  rw [function.image_node placed]
  generalize (decide skipsDestroy ancestors function.node).1 = flow at made
  cases made with
  | empty braces noStatement =>
      exact bracesSame braces statementsSame parametersSame
  | exempt isExempted =>
      rfl
  | @stopped earlier later marker noExemption braces split isStop isFirst =>
      have left :
          eraseStatements (earlier ++ stopStatement :: later) =
            eraseStatements (bodyStatements function.node) := by
        rw [split, eraseStatements_append, eraseStatements_append,
          eraseStatements_cons isRefresh_erase_stopStatement,
          eraseStatements_cons (isRefresh_erase_marker isStop)]
      exact bracesSame braces left rfl
  | iterating noExemption occupied noStop iteration =>
      cases braces : hasBraces function.form with
      | true => exact bracesSame braces statementsSame parametersSame
      | false => exact (Callable.erase_image_value braces same parametersSame).1
  | refreshed noExemption braces occupied noStop noIteration =>
      refine bracesSame braces ?_ parametersSame
      rw [eraseStatements_cons isRefresh_erase_refreshStatement, statementsSame]
  | braced noExemption noBraces noIteration =>
      exact (Callable.erase_image_value noBraces same parametersSame).2

/-- Erasure forgets what the injection does to a node. -/
theorem erase_image
    {node : Node}
    (placed : Placed ancestors node) :
    erase (image skipsDestroy ancestors node) = erase node := by
  induction node using Node.inductionOnInner generalizing ancestors with
  | step form role span children inductionHypothesis =>
      have childrenSame :
          ∀ child ∈ children,
            erase (image skipsDestroy (Ancestor.labels form role children ++ ancestors) child) =
              erase child :=
        fun child member =>
          inductionHypothesis child member child (.whole child) (placed.children child member)
      cases isFunction : isCallable form with
      | true =>
          obtain ⟨function, shape⟩ := placed.callable isFunction
          rw [shape] at placed ⊢
          refine function.erase_image placed (fun child member inner holds outer innerPlaced => ?_)
          refine inductionHypothesis child ?_ inner holds innerPlaced
          have sameChildren : children = function.node.children := congrArg Node.children shape
          rwa [sameChildren]
      | false =>
          have braces : hasBraces form := by
            cases form with
            | arrow head => cases isFunction
            | _ => rfl
          rw [image_of_noCallable placed isFunction]
          cases isBody : Rule.isBody form with
          | true =>
              cases form with
              | body directives =>
                  rw [erase_body, erase_body, eraseStatements_images childrenSame]
              | _ => cases isBody
          | false =>
              rw [images_of_noBody isBody, erase_of_noBody braces isBody,
                erase_of_noBody braces isBody, List.map_map]
              exact congrArg _ (List.map_congr_left childrenSame)

/-- Without refreshes, a script is after the injection what it was before. -/
theorem map_erase_inject
    {source : String}
    {program : Program}
    (read : readProgram source = .ok program) :
    (inject skipsDestroy program.statements).1.map erase = program.statements.map erase := by
  rw [inject_eq read, List.map_map]
  refine List.map_congr_left (fun statement member => ?_)
  exact erase_image (.ofStands (readProgram_stands read statement member) [])

/-- Two refreshes are injected into this script, and both are erased. -/
theorem map_erase_inject_await :
    ∃ program,
      readProgram "async function f()\x7bawait g()\x7d" = .ok program ∧
        (inject true program.statements).2 = 2 ∧
          (inject true program.statements).1.map erase = program.statements.map erase := by
  have checked :
      (readProgram "async function f()\x7bawait g()\x7d").toOption.any (fun program =>
        (inject true program.statements).2 == 2) := by
    decide +kernel
  obtain ⟨program, read, added⟩ := Outcome.exists_of_any checked
  exact ⟨program, read, beq_iff_eq.mp added, map_erase_inject read⟩

end Reactivity.Refresh
