import Reactivity.Proofs.Refresh.Counting
import Reactivity.Proofs.Refresh.Stops

namespace Reactivity.Refresh

open Script

/-!
# The count of refreshes

The rule counts a refresh when it decides on it. One at the start of a function is put
there at once. One after an await is only requested, and a newer request replaces an older
one: when an await is awaited by another one, both request a refresh after the statement
that holds them, and one is inserted. So the count is too high by one for each await that
awaits such an await, and exact in a script where the walk comes to none.
-/

/-- The node awaits an await, and both request a refresh after the same statement. -/
def repeatsRequest
    (ancestors : List Ancestor) :
    Node →
    Bool
  | .mk .awaiting _ _ [.mk .awaiting _ _ _] => isInAwaitStatement ancestors
  | _ => false

mutual

/-- The number of requests in a tree that are replaced by another one. -/
def repeats
    (skipsDestroy : Bool)
    (ancestors : List Ancestor) :
    Node →
    Nat
  | .mk form role span children =>
      if isLeftAlone skipsDestroy ancestors (.mk form role span children) ||
          isStopped skipsDestroy ancestors (.mk form role span children) then
        0
      else
        (repeatsRequest ancestors (.mk form role span children)).toNat +
          repeatsAll skipsDestroy (Ancestor.labels form role children ++ ancestors) children

/-- The number of requests in some trees that are replaced by another one. -/
def repeatsAll
    (skipsDestroy : Bool)
    (ancestors : List Ancestor) :
    List Node →
    Nat
  | [] => 0
  | node :: nodes => repeats skipsDestroy ancestors node + repeatsAll skipsDestroy ancestors nodes

end

variable
  {skipsDestroy : Bool}
  {ancestors : List Ancestor}

/--
What is counted in a tree are the refreshes that its image has more, the one that the tree
requests behind itself, and the requests that are replaced.
-/
def Balanced
    (skipsDestroy : Bool)
    (ancestors : List Ancestor)
    (node : Node) :
    Prop :=
  counter skipsDestroy ancestors node + refreshes node =
    refreshes (image skipsDestroy ancestors node) + (requests ancestors node).toNat +
      repeats skipsDestroy ancestors node

/-- Of one node, one or none passes a check. -/
theorem countP_singleton_toNat
    (check : Node → Bool)
    (node : Node) :
    [node].countP check = (check node).toNat := by
  cases passes : check node <;> simp [passes]

/-- Trees that are balanced one by one are balanced in all. -/
theorem sum_of_balanced
    {nodes : List Node}
    (balanced : ∀ node ∈ nodes, Balanced skipsDestroy ancestors node) :
    counterAll skipsDestroy ancestors nodes + refreshesAll nodes =
      refreshesAll (nodes.map (image skipsDestroy ancestors)) +
        nodes.countP (requests ancestors) + repeatsAll skipsDestroy ancestors nodes := by
  induction nodes with
  | nil =>
      rfl
  | cons node rest inductionHypothesis =>
      have atNode : Balanced skipsDestroy ancestors node := balanced node (by simp)
      have atRest := inductionHypothesis (fun other member => balanced other (by simp [member]))
      have requested :
          (node :: rest).countP (requests ancestors) =
            (requests ancestors node).toNat + rest.countP (requests ancestors) := by
        rw [← countP_singleton_toNat, ← List.countP_append]
        rfl
      unfold Balanced at atNode
      simp only [List.map_cons, counterAll, refreshesAll, repeatsAll, requested]
      omega

/-- There is no body in a refresh, so none of its own refreshes count. -/
theorem refreshesAll_images
    (form : Form)
    (nodes : List Node) :
    refreshesAll (images skipsDestroy form ancestors nodes) =
      refreshesAll (nodes.map (image skipsDestroy ancestors)) := by
  have inserted (node : Node) :
      refreshesAll (if Rule.isBody form then (pendingAfter ancestors node).toList else []) = 0 := by
    unfold pendingAfter
    split
    · split <;> rfl
    · rfl
  induction nodes with
  | nil =>
      rfl
  | cons node rest inductionHypothesis =>
      have step :
          images skipsDestroy form ancestors (node :: rest) =
            (image skipsDestroy ancestors node ::
              if Rule.isBody form then (pendingAfter ancestors node).toList else []) ++
              images skipsDestroy form ancestors rest :=
        rfl
      rw [step, refreshesAll_append, refreshesAll, inserted, inductionHypothesis, List.map_cons, refreshesAll,
        Nat.add_zero]

/-- A body gets the refreshes that its statements request. -/
theorem countP_images
    {directives : List String}
    {statements : List Node}
    (placed : ∀ statement ∈ statements, Placed ancestors statement) :
    (images skipsDestroy (.body directives) ancestors statements).countP isRefreshCall =
      statements.countP isRefreshCall + statements.countP (requests ancestors) := by
  induction statements with
  | nil =>
      rfl
  | cons statement rest inductionHypothesis =>
      have atRest := inductionHypothesis (fun other member => placed other (by simp [member]))
      have step :
          images skipsDestroy (.body directives) ancestors (statement :: rest) =
            image skipsDestroy ancestors statement ::
              ((pendingAfter ancestors statement).toList ++
                images skipsDestroy (.body directives) ancestors rest) :=
        rfl
      have inserted :
          (pendingAfter ancestors statement).toList.countP isRefreshCall =
            if requests ancestors statement then 1 else 0 := by
        unfold pendingAfter
        split <;> rfl
      rw [step, List.countP_cons, List.countP_append, inserted, atRest,
        isRefreshCall_image (placed statement (by simp)), List.countP_cons, List.countP_cons]
      omega

/-- In a node that is no function, requests are replaced at the node or inside of it. -/
theorem repeats_of_noCallable
    {form : Form}
    (noCallable : isCallable form = false)
    (role : Role)
    (span : Span)
    (children : List Node) :
    repeats skipsDestroy ancestors (.mk form role span children) =
      (repeatsRequest ancestors (.mk form role span children)).toNat +
        repeatsAll skipsDestroy (Ancestor.labels form role children ++ ancestors) children := by
  have noLeave : isLeftAlone skipsDestroy ancestors (.mk form role span children) = false := by
    cases form with
    | function | arrow => cases noCallable
    | _ => rfl
  have noStop : isStopped skipsDestroy ancestors (.mk form role span children) = false := by
    simp [isStopped, noCallable]
  rw [repeats, noLeave, noStop]
  rfl

/-- A node makes a request just when a refresh is waiting after its walk. -/
theorem isSome_pendingAfter
    (ancestors : List Ancestor)
    (node : Node) :
    (pendingAfter ancestors node).isSome = requests ancestors node := by
  unfold pendingAfter
  cases requests ancestors node <;> rfl

/-- A node that is neither an await nor an expression statement makes no request. -/
theorem requests_of_other
    {form : Form}
    (noAwait : form ≠ .awaiting)
    (noStatement : form ≠ .expressionStatement)
    (role : Role)
    (span : Span)
    (children : List Node) :
    requests ancestors (.mk form role span children) = false := by
  rw [← isSome_pendingAfter, pendingAfter_of_other noAwait noStatement]
  rfl

/-- The image of a node that is no function has the refreshes of the images of its children. -/
theorem refreshes_image_of_other
    {form : Form}
    {role : Role}
    {span : Span}
    {children : List Node}
    (placed : Placed ancestors (.mk form role span children))
    (noCallable : isCallable form = false)
    (noBody : Rule.isBody form = false) :
    refreshes (image skipsDestroy ancestors (.mk form role span children)) =
      refreshesAll
        (children.map
          (image skipsDestroy (Ancestor.labels form role children ++ ancestors))) := by
  rw [image_of_noCallable placed noCallable, refreshes_of_other noCallable noBody,
    refreshesAll_images]

/-- An await is balanced if what it awaits is: a newer request replaces the older one. -/
theorem balanced_await
    {role : Role}
    {span : Span}
    {value : Node}
    (placed : Placed ancestors (.mk .awaiting role span [value]))
    (below : Balanced skipsDestroy ancestors value) :
    Balanced skipsDestroy ancestors (.mk .awaiting role span [value]) := by
  obtain ⟨atRoot, wellFormed⟩ := Node.isWellFormed_mk.mp placed.wellFormed
  have isExpression : value.role = .expression := by
    simp only [Form.fits, Bool.and_eq_true, beq_iff_eq, List.map_cons, List.map_nil,
      List.cons.injEq, and_true] at atRoot
    exact atRoot.2
  have replaced :
      repeatsRequest ancestors (.mk .awaiting role span [value]) = requests ancestors value := by
    have noBareAwait := isBareAwait_of_expression (wellFormed value (by simp)) isExpression
    obtain ⟨form, valueRole, valueSpan, children⟩ := value
    cases form with
    | awaiting => rfl
    | _ => simp [repeatsRequest, requests, noBareAwait]
  have counts :
      counter skipsDestroy ancestors (.mk .awaiting role span [value]) =
        (requests ancestors (.mk .awaiting role span [value])).toNat +
          counter skipsDestroy ancestors value := by
    have decision :
        decide skipsDestroy ancestors (.mk .awaiting role span [value]) = enterAwait ancestors :=
      rfl
    rw [counter_mk, decision, enterAwait_eq]
    cases isRequest : isInAwaitStatement ancestors <;>
      simp [requests, isRequest, goesOn, Ancestor.labels, counterAll]
  have inside :
      refreshes (image skipsDestroy ancestors (.mk .awaiting role span [value])) =
        refreshes (image skipsDestroy ancestors value) :=
    refreshes_image_of_other placed rfl rfl
  have replacedInside :
      repeats skipsDestroy ancestors (.mk .awaiting role span [value]) =
        (requests ancestors value).toNat + repeats skipsDestroy ancestors value := by
    rw [repeats_of_noCallable rfl, replaced]
    rfl
  have own : refreshes (.mk .awaiting role span [value]) = refreshes value :=
    refreshes_of_other rfl rfl role span [value]
  unfold Balanced at below ⊢
  omega

/-- A node of another form than those with requests of their own is balanced if its children are. -/
theorem balanced_other
    {form : Form}
    {role : Role}
    {span : Span}
    {children : List Node}
    (placed : Placed ancestors (.mk form role span children))
    (noCallable : isCallable form = false)
    (noBody : Rule.isBody form = false)
    (noAwait : form ≠ .awaiting)
    (carried :
      children.countP (requests (Ancestor.labels form role children ++ ancestors)) =
        (requests ancestors (.mk form role span children)).toNat)
    (below :
      ∀ child ∈ children,
        Balanced skipsDestroy (Ancestor.labels form role children ++ ancestors) child) :
    Balanced skipsDestroy ancestors (.mk form role span children) := by
  have inside := sum_of_balanced below
  have decision :
      decide skipsDestroy ancestors (.mk form role span children) = (.descend id, 0) := by
    cases form with
    | function | arrow => cases noCallable
    | awaiting => exact (noAwait rfl).elim
    | _ => rfl
  have noRepeat : repeatsRequest ancestors (.mk form role span children) = false := by
    cases form with
    | awaiting => exact (noAwait rfl).elim
    | _ => rfl
  unfold Balanced
  rw [counter_mk, decision, refreshes_of_other noCallable noBody,
    refreshes_image_of_other placed noCallable noBody, repeats_of_noCallable noCallable, noRepeat]
  simp only [goesOn, if_true, Bool.toNat_false]
  omega

/-- A body is balanced if its statements are: it takes their requests. -/
theorem balanced_body
    {directives : List String}
    {role : Role}
    {span : Span}
    {statements : List Node}
    (placed : Placed ancestors (.mk (.body directives) role span statements))
    (below :
      ∀ statement ∈ statements,
        Balanced skipsDestroy (.functionBody :: ancestors) statement) :
    Balanced skipsDestroy ancestors (.mk (.body directives) role span statements) := by
  have inside := sum_of_balanced below
  have taken :
      refreshes (image skipsDestroy ancestors (.mk (.body directives) role span statements)) =
        statements.countP isRefreshCall + statements.countP (requests (.functionBody :: ancestors)) +
          refreshesAll (statements.map (image skipsDestroy (.functionBody :: ancestors))) := by
    rw [image_of_noCallable placed rfl, refreshes, refreshesAll_images]
    exact congrArg (· + _) (countP_images placed.children)
  have counts :
      counter skipsDestroy ancestors (.mk (.body directives) role span statements) =
        counterAll skipsDestroy (.functionBody :: ancestors) statements := by
    rw [counter_mk]
    exact Nat.zero_add _
  have replaced :
      repeats skipsDestroy ancestors (.mk (.body directives) role span statements) =
        repeatsAll skipsDestroy (.functionBody :: ancestors) statements := by
    rw [repeats_of_noCallable rfl]
    exact Nat.zero_add _
  unfold Balanced
  rw [counts, taken, replaced, refreshes, requests_of_other (by simp) (by simp)]
  simp only [Bool.toNat_false]
  omega

/-- Without braces nothing is inserted behind the value of an arrow function. -/
theorem countP_bodyImages_of_noBraces
    {function : Callable}
    (noBraces : hasBraces function.form = false) :
    (bodyImages skipsDestroy ancestors function.node function.statements).countP isRefreshCall =
      function.statements.countP isRefreshCall := by
  obtain ⟨role, span, value, shape⟩ := function.concise noBraces
  have stands : (Node.mk .expressionStatement role span [value]).Stands .statement :=
    function.stand _ (by simp [shape])
  have valueImage :
      image skipsDestroy (bodyChain ancestors function.node)
          (.mk .expressionStatement role span [value]) =
        .mk .expressionStatement role span
          [image skipsDestroy (.expressionStatement :: bodyChain ancestors function.node) value] :=
    image_mk (.ofStands stands _)
  have same :
      isRefreshCall
          (image skipsDestroy (bodyChain ancestors function.node)
            (.mk .expressionStatement role span [value])) =
        isRefreshCall (.mk .expressionStatement role span [value]) :=
    isRefreshCall_image (.ofStands stands _)
  rw [valueImage] at same
  rw [bodyImages_value noBraces shape, shape, List.countP_singleton, List.countP_singleton, same]

/-- A marker is no refresh, and there is no body in it. -/
theorem refreshes_marker
    {marker : Node}
    (wellFormed : marker.isWellFormed)
    (isStop : isMarker marker) :
    isRefreshCall marker = false ∧ refreshes marker = 0 := by
  unfold isMarker at isStop
  split at isStop
  · next nameRole nameSpan inner =>
      have below := (Node.isWellFormed_mk.mp wellFormed).2
      have atName := (Node.isWellFormed_mk.mp (below _ (List.mem_singleton_self _))).1
      obtain rfl : inner = [] := List.isEmpty_iff.mp (Bool.and_eq_true_iff.mp atName).2
      exact ⟨rfl, rfl⟩
  · cases isStop

namespace Callable

/-- What is counted in the parts of a function that is visited. -/
theorem parts_balanced
    (function : Callable)
    (placed : Placed ancestors function.node)
    (below :
      ∀ child ∈ function.node.children,
        Balanced skipsDestroy (function.chain ancestors) child) :
    counterAll skipsDestroy (function.chain ancestors) function.node.children +
        (refreshes function.parameters + function.statements.countP isRefreshCall +
          refreshesAll function.statements) =
      refreshes (image skipsDestroy (function.chain ancestors) function.parameters) +
        (bodyImages skipsDestroy ancestors function.node function.statements).countP
          isRefreshCall +
        refreshesAll (bodyImages skipsDestroy ancestors function.node function.statements) +
        repeatsAll skipsDestroy (function.chain ancestors) function.node.children := by
  have inside := sum_of_balanced below
  have quiet : isQuiet (function.chain ancestors) := by
    obtain ⟨form, _, _, _, _, _, _, callable, _, _⟩ := function
    cases form with
    | function | arrow => rfl
    | _ => cases callable
  have noRequest :
      function.node.children.countP (requests (function.chain ancestors)) = 0 := by
    simp [requests_of_isQuiet quiet]
  have before :
      refreshesAll function.node.children =
        refreshes function.parameters +
          (function.statements.countP isRefreshCall + refreshesAll function.statements) := by
    simp [Callable.node, Callable.build, refreshesAll, refreshes]
  have after :
      refreshesAll
          (function.node.children.map (image skipsDestroy (function.chain ancestors))) =
        refreshes (image skipsDestroy (function.chain ancestors) function.parameters) +
          ((bodyImages skipsDestroy ancestors function.node function.statements).countP
              isRefreshCall +
            refreshesAll
              (bodyImages skipsDestroy ancestors function.node function.statements)) := by
    have images :
        function.node.children.map (image skipsDestroy (function.chain ancestors)) =
          (function.visited skipsDestroy ancestors).children := by
      rw [← function.images_children placed,
        images_of_noBody (isBody_of_isCallable function.callable)]
    rw [images]
    simp [Callable.visited, Callable.build, refreshesAll, refreshes]
  omega

/-- What is counted at a function: its own refresh, and what is counted in its parts. -/
theorem counter_node
    (function : Callable) :
    counter skipsDestroy ancestors function.node =
      (isRefreshed skipsDestroy ancestors function.node).toNat +
        if goesOn (decide skipsDestroy ancestors function.node).1 then
          counterAll skipsDestroy (function.chain ancestors) function.node.children
        else
          0 := by
  have added : (decide skipsDestroy ancestors function.node).2 =
      (isRefreshed skipsDestroy ancestors function.node).toNat :=
    decide_added function.callable
  rw [← added]
  exact counter_mk function.form function.role function.span function.node.children

/-- The walk goes on inside of a function unless the function is left alone or stopped. -/
theorem goesOn_decide
    (function : Callable) :
    goesOn (decide skipsDestroy ancestors function.node).1 =
      !(isLeftAlone skipsDestroy ancestors function.node ||
        isStopped skipsDestroy ancestors function.node) := by
  cases isLeft : isLeftAlone skipsDestroy ancestors function.node with
  | true =>
      rw [decide_of_isLeftAlone isLeft]
      rfl
  | false =>
      have made := function.decision skipsDestroy ancestors
      generalize decided : (decide skipsDestroy ancestors function.node).1 = flow at made
      cases made with
      | empty braces noStatement =>
          simp [goesOn, isStopped, noStatement]
      | exempt isExempted =>
          exact (descends_of_exempt isExempted isLeft decided).elim
      | stopped noExemption braces split isStop isFirst =>
          have callable : isCallable function.node.form := function.callable
          simp [goesOn, isStopped, callable, braces, noExemption, split, isStop]
      | iterating noExemption occupied noStop iteration =>
          cases braces : hasBraces function.node.form with
          | false => simp [goesOn, isStopped, braces]
          | true => simpa [goesOn, isStopped] using .inr (noStop braces)
      | refreshed noExemption braces occupied noStop noIteration =>
          simpa [goesOn, isStopped] using .inr noStop
      | braced noExemption noBraces noIteration =>
          simp [goesOn, isStopped, noBraces]

/-- Nothing is awaited by a function itself. -/
theorem repeatsRequest_node
    (function : Callable) :
    repeatsRequest ancestors function.node = false := by
  obtain ⟨form, _, _, _, _, _, _, callable, _, _⟩ := function
  cases form with
  | function | arrow => rfl
  | _ => cases callable

/-- Requests are replaced inside of a function if the walk goes on there. -/
theorem repeats_node
    (function : Callable) :
    repeats skipsDestroy ancestors function.node =
      if goesOn (decide skipsDestroy ancestors function.node).1 then
        repeatsAll skipsDestroy (function.chain ancestors) function.node.children
      else
        0 := by
  have unfolded :
      repeats skipsDestroy ancestors function.node =
        if isLeftAlone skipsDestroy ancestors function.node ||
            isStopped skipsDestroy ancestors function.node then
          0
        else
          (repeatsRequest ancestors function.node).toNat +
            repeatsAll skipsDestroy (function.chain ancestors) function.node.children :=
    rfl
  rw [unfolded, function.goesOn_decide, function.repeatsRequest_node, Bool.toNat_false,
    Nat.zero_add]
  cases isLeftAlone skipsDestroy ancestors function.node ||
    isStopped skipsDestroy ancestors function.node <;> rfl

/-- The refreshes of a function, from its parts. -/
theorem refreshes_node
    (function : Callable) :
    refreshes function.node =
      refreshes function.parameters +
        (if hasBraces function.form then function.statements.countP isRefreshCall else 0) +
          refreshesAll function.statements :=
  function.refreshes_build function.callable function.parameters function.statements

/-- No request is made by a function itself. -/
theorem requests_node
    (function : Callable) :
    requests ancestors function.node = false := by
  obtain ⟨form, _, _, _, _, _, _, callable, _, _⟩ := function
  cases form with
  | function | arrow => rfl
  | _ => cases callable

/--
A function that is visited and edited is balanced, if its parts are and the edit adds just the
refresh that is counted for the function itself.
-/
theorem balanced_of_visited
    (function : Callable)
    (placed : Placed ancestors function.node)
    (below :
      ∀ child ∈ function.node.children,
        Balanced skipsDestroy (function.chain ancestors) child)
    {edit : Node → Node}
    (decided : (decide skipsDestroy ancestors function.node).1 = .descend edit)
    {form : Form}
    {statements : List Node}
    (callable : isCallable form)
    (edited :
      edit (function.visited skipsDestroy ancestors) =
        function.build form (image skipsDestroy (function.chain ancestors) function.parameters)
          statements)
    (added :
      (isRefreshed skipsDestroy ancestors function.node).toNat +
          (if hasBraces function.form then function.statements.countP isRefreshCall else 0) +
          ((bodyImages skipsDestroy ancestors function.node function.statements).countP
              isRefreshCall +
            refreshesAll
              (bodyImages skipsDestroy ancestors function.node function.statements)) =
        (if hasBraces form then statements.countP isRefreshCall else 0) +
          refreshesAll statements + function.statements.countP isRefreshCall) :
    Balanced skipsDestroy ancestors function.node := by
  have inside := function.parts_balanced placed below
  have after := function.refreshes_build callable
    (image skipsDestroy (function.chain ancestors) function.parameters) statements
  have before := function.refreshes_node
  unfold Balanced
  rw [function.counter_node, function.image_node placed, function.requests_node,
    function.repeats_node, decided]
  simp only [Flow.applyTo, edited, after, before, goesOn, if_true, Bool.toNat_false]
  omega

/-- A function that is left alone is balanced: nothing is counted in it. -/
theorem balanced_of_exempt
    (function : Callable)
    (placed : Placed ancestors function.node)
    (isExempted : isExempt skipsDestroy ancestors)
    (decided : (decide skipsDestroy ancestors function.node).1 = .skip function.node) :
    Balanced skipsDestroy ancestors function.node := by
  unfold Balanced
  rw [function.counter_node, function.image_node placed, function.requests_node,
    function.repeats_node, decided]
  simp [isRefreshed, isExempted, goesOn, Flow.applyTo]

/-- A function that is stopped is balanced: a marker is replaced, and nothing is counted. -/
theorem balanced_of_stopped
    (function : Callable)
    (placed : Placed ancestors function.node)
    {earlier later : List Node}
    {marker : Node}
    (braces : hasBraces function.form)
    (split : function.statements = earlier ++ marker :: later)
    (isStop : isMarker marker)
    (decided :
      (decide skipsDestroy ancestors function.node).1 =
        .skip (mapBody (fun _ => earlier ++ stopStatement :: later) function.node)) :
    Balanced skipsDestroy ancestors function.node := by
  have statements : bodyStatements function.node = earlier ++ marker :: later := split
  have formBraces : hasBraces function.node.form := braces
  have noRefresh : isRefreshed skipsDestroy ancestors function.node = false := by
    simp [isRefreshed, formBraces, statements, isStop]
  have edited :
      mapBody (fun _ => earlier ++ stopStatement :: later) function.node =
        function.build function.form function.parameters (earlier ++ stopStatement :: later) :=
    rfl
  obtain ⟨noCall, noBody⟩ :=
    refreshes_marker (function.stand marker (by simp [split])).wellFormed isStop
  have stopCounts : isRefreshCall stopStatement = false ∧ refreshes stopStatement = 0 :=
    ⟨rfl, rfl⟩
  unfold Balanced
  rw [function.counter_node, function.image_node placed, function.requests_node,
    function.repeats_node, decided, noRefresh]
  simp only [Flow.applyTo, edited, function.refreshes_build function.callable,
    function.refreshes_node, braces, if_true, goesOn, split, List.countP_append,
    List.countP_cons, noCall, stopCounts, refreshesAll_append, refreshesAll, noBody]
  simp

/-- A function is balanced if its parts are. -/
theorem balanced
    (function : Callable)
    (placed : Placed ancestors function.node)
    (below :
      ∀ child ∈ function.node.children,
        Balanced skipsDestroy (function.chain ancestors) child) :
    Balanced skipsDestroy ancestors function.node := by
  have made := function.decision skipsDestroy ancestors
  generalize decided : (decide skipsDestroy ancestors function.node).1 = flow at made
  cases made with
  | empty braces noStatement =>
      have noRefresh : isRefreshed skipsDestroy ancestors function.node = false := by
        simp [isRefreshed, braces, noStatement]
      have braces : hasBraces function.form := braces
      refine function.balanced_of_visited placed below decided function.callable rfl ?_
      rw [noRefresh, if_pos braces, if_pos braces, Bool.toNat_false]
      omega
  | exempt isExempted =>
      exact function.balanced_of_exempt placed isExempted decided
  | stopped noExemption braces split isStop isFirst =>
      exact function.balanced_of_stopped placed braces split isStop decided
  | iterating noExemption occupied noStop iteration =>
      have noRefresh : isRefreshed skipsDestroy ancestors function.node = false := by
        simp [isRefreshed, iteration]
      refine function.balanced_of_visited placed below decided function.callable rfl ?_
      rw [noRefresh, Bool.toNat_false]
      cases braces : hasBraces function.form with
      | true =>
          simp only [if_true]
          omega
      | false =>
          rw [countP_bodyImages_of_noBraces braces]
          simp only [Bool.false_eq_true, if_false]
          omega
  | refreshed noExemption braces occupied noStop noIteration =>
      have noMarker : (bodyStatements function.node).any isMarker = false := by
        simpa using noStop
      have isRefresh : isRefreshed skipsDestroy ancestors function.node := by
        simp [isRefreshed, noExemption, noIteration, occupied, noMarker]
      have braces : hasBraces function.form := braces
      have refresh : isRefreshCall refreshStatement ∧ refreshes refreshStatement = 0 :=
        ⟨rfl, rfl⟩
      refine function.balanced_of_visited placed below decided function.callable rfl ?_
      rw [isRefresh, if_pos braces, if_pos braces, List.countP_cons_of_pos refresh.1,
        refreshesAll, refresh.2, Bool.toNat_true]
      omega
  | braced noExemption noBraces noIteration =>
      have isRefresh : isRefreshed skipsDestroy ancestors function.node := by
        simp [isRefreshed, noExemption, noIteration, noBraces]
      have noBraces : hasBraces function.form = false := noBraces
      have edited (parameters : Node) (statements : List Node) :
          refreshAtStart (blockArrow (function.build function.form parameters statements)) =
            function.build (withBraces function.form) parameters
              (refreshStatement :: returnValue statements) := by
        rw [blockArrow_build noBraces]
        rfl
      -- A returned value has the refreshes of the value, and is itself no refresh.
      obtain ⟨role, span, value, shape⟩ := function.concise noBraces
      have returned (value : Node) :
          (refreshStatement :: returnValue [.mk .expressionStatement role span [value]]).countP
                isRefreshCall = 1 ∧
            refreshesAll
                (refreshStatement :: returnValue [.mk .expressionStatement role span [value]]) =
              refreshesAll [.mk .expressionStatement role span [value]] :=
        ⟨rfl, Nat.zero_add _⟩
      refine function.balanced_of_visited placed below decided
        (isCallable_withBraces function.callable) (edited _ _) ?_
      rw [isRefresh, if_neg (by simp [noBraces]), if_pos (hasBraces_withBraces _),
        countP_bodyImages_of_noBraces noBraces, bodyImages_value noBraces shape,
        (returned _).1, (returned _).2, Bool.toNat_true]
      omega

end Callable

/-- Every tree that is well placed is balanced. -/
theorem Placed.balanced
    {node : Node}
    (placed : Placed ancestors node) :
    Balanced skipsDestroy ancestors node := by
  induction node using Node.inductionOnChildren generalizing ancestors with
  | step form role span children inductionHypothesis =>
      have below :
          ∀ child ∈ children,
            Balanced skipsDestroy (Ancestor.labels form role children ++ ancestors) child :=
        fun child member => inductionHypothesis child member (placed.children child member)
      obtain ⟨atRoot, wellFormed⟩ := Node.isWellFormed_mk.mp placed.wellFormed
      cases isFunction : isCallable form with
      | true =>
          obtain ⟨function, same⟩ := placed.callable isFunction
          cases same
          exact function.balanced placed below
      | false =>
          cases form with
          | body directives =>
              exact balanced_body placed below
          | awaiting =>
              simp only [Form.fits, Bool.and_eq_true, beq_iff_eq] at atRoot
              obtain ⟨value, rfl, isExpression⟩ := List.map_eq_singleton_iff.mp atRoot.2
              exact balanced_await placed (below value (by simp))
          | expressionStatement =>
              simp only [Form.fits, Bool.and_eq_true, beq_iff_eq] at atRoot
              obtain ⟨value, rfl, isExpression⟩ := List.map_eq_singleton_iff.mp atRoot.2
              have carried :
                  requests ancestors (.mk .expressionStatement role span [value]) =
                    requests (.expressionStatement :: ancestors) value := by
                rw [← isSome_pendingAfter, ← isSome_pendingAfter,
                  pendingAfter_expressionStatement (wellFormed value (by simp)) isExpression]
              refine balanced_other placed rfl rfl (by simp) ?_ below
              rw [carried]
              exact countP_singleton_toNat _ value
          | _ =>
              refine balanced_other placed isFunction rfl (by simp) ?_ below
              have taken := (placed.taken (by simp) (by simp)).resolve_left (by simp [Rule.isBody])
              rw [requests_of_other (by simp) (by simp), Bool.toNat_false, List.countP_eq_zero]
              simpa using taken

/-- In some trees no request is replaced just when none is replaced in any of them. -/
theorem repeatsAll_eq_zero_iff
    {nodes : List Node} :
    repeatsAll skipsDestroy ancestors nodes = 0 ↔
      ∀ node ∈ nodes, repeats skipsDestroy ancestors node = 0 := by
  induction nodes with
  | nil =>
      simp [repeatsAll]
  | cons node rest inductionHypothesis =>
      simp [repeatsAll, inductionHypothesis]

/-- Requests are replaced at a node, or inside of it if the walk goes on there. -/
theorem Placed.repeats_eq_zero_iff
    {form : Form}
    {role : Role}
    {span : Span}
    {children : List Node}
    (placed : Placed ancestors (.mk form role span children)) :
    repeats skipsDestroy ancestors (.mk form role span children) = 0 ↔
      repeatsRequest ancestors (.mk form role span children) = false ∧
        (goesOn (decide skipsDestroy ancestors (.mk form role span children)).1 →
          ∀ child ∈ children,
            repeats skipsDestroy (Ancestor.labels form role children ++ ancestors) child = 0) := by
  rw [← repeatsAll_eq_zero_iff]
  cases isFunction : isCallable form with
  | true =>
      obtain ⟨function, same⟩ := placed.callable isFunction
      cases same
      have noRepeat : repeatsRequest ancestors function.node = false :=
        function.repeatsRequest_node
      have inside :
          repeats skipsDestroy ancestors function.node =
            if goesOn (decide skipsDestroy ancestors function.node).1 then
              repeatsAll skipsDestroy (function.chain ancestors) function.node.children
            else
              0 :=
        function.repeats_node
      change repeats skipsDestroy ancestors function.node = 0 ↔
        repeatsRequest ancestors function.node = false ∧
          (goesOn (decide skipsDestroy ancestors function.node).1 →
            repeatsAll skipsDestroy (function.chain ancestors) function.node.children = 0)
      rw [inside, noRepeat]
      simp
  | false =>
      have continues :
          goesOn (decide skipsDestroy ancestors (.mk form role span children)).1 := by
        cases form with
        | function | arrow => cases isFunction
        | awaiting =>
            have decision :
                decide skipsDestroy ancestors (.mk .awaiting role span children) =
                  enterAwait ancestors :=
              rfl
            rw [decision, enterAwait_eq]
            split <;> rfl
        | _ => rfl
      simp [repeats_of_noCallable isFunction, continues]

/-- The walk goes on inside of a node if what is decided there lets it. -/
theorem isSome_opened?
    (moment : Moment Nat) :
    (moment.opened? (injection skipsDestroy)).isSome =
      goesOn (decide skipsDestroy moment.ancestors moment.node).1 := by
  obtain ⟨ancestors, ⟨form, role, span, children⟩, current⟩ := moment
  cases isStop : StopKind.ofForm? form with
  | none =>
      have decision :
          decide skipsDestroy ancestors (.mk form role span children) = (.descend id, 0) := by
        cases form with
        | function | arrow | awaiting => cases isStop
        | _ => rfl
      simp [Moment.opened?, isStop, decision, goesOn]
  | some kind =>
      simp only [Moment.opened?, Node.form_mk, isStop, injection_enter]
      cases (decide skipsDestroy ancestors (.mk form role span children)).1 <;> rfl

/-- No request is replaced in a tree if the walk of it comes to no await that repeats one. -/
theorem Placed.repeats_eq_zero_iff_leads
    {node : Node}
    (placed : Placed ancestors node)
    (current : WalkState Nat) :
    repeats skipsDestroy ancestors node = 0 ↔
      ∀ target,
        Moment.Leads (injection skipsDestroy) { ancestors, node, current } target →
          repeatsRequest target.ancestors target.node = false := by
  induction node using Node.inductionOnChildren generalizing ancestors current with
  | step form role span children inductionHypothesis =>
      rw [placed.repeats_eq_zero_iff]
      constructor
      · rintro ⟨atNode, below⟩ target leads
        cases leads with
        | here =>
            exact atNode
        | @inside _ _ opened earlier later child opens split leads =>
            have split : children = earlier ++ child :: later := split
            have member : child ∈ children := by
              simp [split]
            have continues : goesOn (decide skipsDestroy ancestors (.mk form role span children)).1 :=
              (isSome_opened? _).symm.trans (Option.isSome_iff_exists.mpr ⟨opened, opens⟩)
            exact (inductionHypothesis child member (placed.children child member) _).mp
              (below continues child member) target leads
      · intro nowhere
        refine ⟨nowhere _ (.here _), fun continues child member => ?_⟩
        obtain ⟨earlier, later, split⟩ := List.append_of_mem member
        obtain ⟨opened, opens⟩ :=
          Option.isSome_iff_exists.mp
            ((isSome_opened? { ancestors, node := .mk form role span children, current }).trans
              continues)
        apply (inductionHypothesis child member (placed.children child member) _).mpr
        intro target leads
        exact nowhere target (.inside opens split leads)

/-- What the injection counts, in terms of the script before and after. -/
theorem inject_balanced
    {source : String}
    {program : Program}
    (read : readProgram source = .ok program) :
    (inject skipsDestroy program.statements).2 + refreshesAll program.statements =
      refreshesAll (inject skipsDestroy program.statements).1 +
        repeatsAll skipsDestroy [] program.statements := by
  have each :
      ∀ statement ∈ program.statements, Balanced skipsDestroy [] statement :=
    fun statement member =>
      (Placed.ofStands (readProgram_stands read statement member) []).balanced
  have balanced := sum_of_balanced each
  have noRequest : program.statements.countP (requests []) = 0 := by
    rw [List.countP_eq_zero]
    exact fun statement _ => ne_true_of_eq_false (requests_of_isQuiet rfl statement)
  have counts :
      (inject skipsDestroy program.statements).2 =
        0 + counterAll skipsDestroy [] program.statements :=
    walkNodes_own (fun statement _ => walkNode_own statement []) .block { own := 0 }
  rw [inject_eq read]
  omega

/-- No request is replaced in a script if the walk of it comes to no await that repeats one. -/
theorem repeatsAll_eq_zero_iff_visits
    {source : String}
    {program : Program}
    (read : readProgram source = .ok program) :
    repeatsAll skipsDestroy [] program.statements = 0 ↔
      ∀ moment,
        (injection skipsDestroy).Visits program.statements 0 moment →
          repeatsRequest moment.ancestors moment.node = false := by
  have placed :
      ∀ statement ∈ program.statements, Placed [] statement :=
    fun statement member => .ofStands (readProgram_stands read statement member) []
  rw [repeatsAll_eq_zero_iff]
  constructor
  · rintro none moment ⟨earlier, statement, later, split, leads⟩
    have member : statement ∈ program.statements := by
      simp [split]
    exact ((placed statement member).repeats_eq_zero_iff_leads _).mp (none statement member)
      moment leads
  · intro nowhere statement member
    obtain ⟨earlier, later, split⟩ := List.append_of_mem member
    apply ((placed statement member).repeats_eq_zero_iff_leads _).mpr
    intro moment leads
    exact nowhere moment ⟨earlier, statement, later, split, leads⟩

/--
The count of the injection is the number of refreshes that it adds to the bodies of functions,
and one more for each await that awaits another one where both request a refresh. So the count is
exact just when the walk comes to no such await.
-/
theorem inject_counts
    {source : String}
    {program : Program}
    (read : readProgram source = .ok program) :
    (inject skipsDestroy program.statements).2 + refreshesAll program.statements =
        refreshesAll (inject skipsDestroy program.statements).1 +
          repeatsAll skipsDestroy [] program.statements ∧
      ((inject skipsDestroy program.statements).2 + refreshesAll program.statements =
          refreshesAll (inject skipsDestroy program.statements).1 ↔
        ∀ moment,
          (injection skipsDestroy).Visits program.statements 0 moment →
            repeatsRequest moment.ancestors moment.node = false) := by
  refine ⟨inject_balanced read, ?_⟩
  rw [← repeatsAll_eq_zero_iff_visits read, inject_balanced read]
  omega

/-- In an asynchronous function with a refresh of its own, two are added and counted. -/
theorem inject_counts_await :
    ∃ program,
      readProgram "async function f()\x7bawait a;$$apply()\x7d" = .ok program ∧
        refreshesAll program.statements = 1 ∧
          (inject true program.statements).2 = 2 ∧
            (inject true program.statements).2 + refreshesAll program.statements =
                refreshesAll (inject true program.statements).1 +
                  repeatsAll true [] program.statements ∧
              ((inject true program.statements).2 + refreshesAll program.statements =
                  refreshesAll (inject true program.statements).1 ↔
                ∀ moment,
                  (injection true).Visits program.statements 0 moment →
                    repeatsRequest moment.ancestors moment.node = false) := by
  have checked :
      (readProgram "async function f()\x7bawait a;$$apply()\x7d").toOption.any (fun program =>
        refreshesAll program.statements == 1 && (inject true program.statements).2 == 2) := by
    decide +kernel
  obtain ⟨program, read, checked⟩ := Outcome.exists_of_any checked
  simp only [Bool.and_eq_true, beq_iff_eq] at checked
  exact ⟨program, read, checked.1, checked.2, inject_counts read⟩

/-- An await that is awaited is counted, though only one refresh is inserted for both. -/
theorem inject_counts_awaited_await :
    ∃ program,
      readProgram "async function f()\x7bawait await a\x7d" = .ok program ∧
        refreshesAll program.statements = 0 ∧
          (inject true program.statements).2 = 3 ∧
            refreshesAll (inject true program.statements).1 = 2 := by
  have checked :
      (readProgram "async function f()\x7bawait await a\x7d").toOption.any (fun program =>
        refreshesAll program.statements == 0 && (inject true program.statements).2 == 3 &&
          refreshesAll (inject true program.statements).1 == 2) := by
    decide +kernel
  obtain ⟨program, read, checked⟩ := Outcome.exists_of_any checked
  simp only [Bool.and_eq_true, beq_iff_eq] at checked
  exact ⟨program, read, checked.1.1, checked.1.2, checked.2⟩

end Reactivity.Refresh
