import Reactivity.Proofs.Refresh.Visited
import Reactivity.Proofs.Script.Tally

namespace Reactivity.Refresh

open Script

/-!
# What check stops leave behind

A function whose statements have a marker among them is stopped: its first marker turns
into a check stop, and the walk goes no further into it. Nothing else makes a marker
go away, so the markers that are left can be counted: one less for each function that is
stopped. Forms that neither refreshes nor functions have are left as often as they were.
-/

/-- The function is left alone, with all that is in it. -/
def isLeftAlone
    (skipsDestroy : Bool)
    (ancestors : List Ancestor)
    (node : Node) :
    Bool :=
  match node.form with
  | .function _ => isExempt skipsDestroy ancestors && !(bodyStatements node).isEmpty
  | .arrow _ => isExempt skipsDestroy ancestors
  | _ => false

/-- The function is stopped at the first marker of its statements. -/
def isStopped
    (skipsDestroy : Bool)
    (ancestors : List Ancestor)
    (node : Node) :
    Bool :=
  isCallable node.form && hasBraces node.form && !isExempt skipsDestroy ancestors &&
    (bodyStatements node).any isMarker

mutual

/-- The number of functions in a tree that are stopped. -/
def stops
    (skipsDestroy : Bool)
    (ancestors : List Ancestor) :
    Node →
    Nat
  | .mk form role span children =>
      if isLeftAlone skipsDestroy ancestors (.mk form role span children) then
        0
      else if isStopped skipsDestroy ancestors (.mk form role span children) then
        1
      else
        stopsAll skipsDestroy (Ancestor.labels form role children ++ ancestors) children

/-- The number of functions in some trees that are stopped. -/
def stopsAll
    (skipsDestroy : Bool)
    (ancestors : List Ancestor) :
    List Node →
    Nat
  | [] => 0
  | node :: nodes => stops skipsDestroy ancestors node + stopsAll skipsDestroy ancestors nodes

end

variable
  {skipsDestroy : Bool}
  {ancestors : List Ancestor}

/-- The walk goes into a tree that is neither left alone nor stopped. -/
theorem stops_mk
    {form : Form}
    {role : Role}
    {span : Span}
    {children : List Node}
    (noLeave : isLeftAlone skipsDestroy ancestors (.mk form role span children) = false)
    (noStop : isStopped skipsDestroy ancestors (.mk form role span children) = false) :
    stops skipsDestroy ancestors (.mk form role span children) =
      stopsAll skipsDestroy (Ancestor.labels form role children ++ ancestors) children := by
  rw [stops, if_neg (by simp [noLeave]), if_neg (by simp [noStop])]

/-- The walk goes into a node that is no function. -/
theorem stops_of_noCallable
    {form : Form}
    (noCallable : isCallable form = false)
    (role : Role)
    (span : Span)
    (children : List Node) :
    stops skipsDestroy ancestors (.mk form role span children) =
      stopsAll skipsDestroy (Ancestor.labels form role children ++ ancestors) children := by
  apply stops_mk
  · cases form with
    | function | arrow => cases noCallable
    | _ => rfl
  · simp [isStopped, noCallable]

/-- A function that is left alone is put back as it is. -/
theorem decide_of_isLeftAlone
    {node : Node}
    (isLeft : isLeftAlone skipsDestroy ancestors node) :
    (decide skipsDestroy ancestors node).1 = .skip node := by
  obtain ⟨form, role, span, children⟩ := node
  cases form with
  | function head =>
      obtain ⟨isExempted, occupied⟩ := Bool.and_eq_true_iff.mp isLeft
      have isExempted : (skipsDestroy && isDestroyCallback ancestors) = true := isExempted
      simp only [decide, Node.form_mk, enterFunction]
      rw [if_neg (by simpa using occupied), if_pos isExempted]
  | arrow head =>
      have isExempted : (skipsDestroy && isDestroyCallback ancestors) = true := isLeft
      simp only [decide, Node.form_mk, enterArrow]
      rw [if_pos isExempted]
  | _ =>
      cases isLeft

/-- The walk goes into a callback for the destroy hook that is not left alone. -/
theorem descends_of_exempt
    {function : Callable}
    {image : Node}
    (isExempted : isExempt skipsDestroy ancestors)
    (noLeave : isLeftAlone skipsDestroy ancestors function.node = false)
    (skipped : (decide skipsDestroy ancestors function.node).1 = .skip image) :
    False := by
  obtain ⟨form, role, span, parameters, directives, bodySpan, statements, callable, _, _⟩ :=
    function
  cases form with
  | function head =>
      -- Only a function with nothing in it is not left alone, and it is not skipped either.
      have noStatement : statements = [] := by
        simpa [isLeftAlone, isExempted, Callable.node, Callable.build, bodyStatements] using
          noLeave
      subst noStatement
      cases skipped
  | arrow head =>
      have isLeft := isExempted.symm.trans noLeave
      cases isLeft
  | _ =>
      cases callable

/-- The check passes over functions, their bodies and what the injection makes. -/
structure IsBlind
    (check : Form → Bool) :
    Prop where
  callable : ∀ form, isCallable form → check form = false
  body : ∀ directives, check (.body directives) = false
  value : check .expressionStatement = false
  returned : check .returning = false
  call : check (.call false) = false
  name : check (.identifier refreshName) = false
  argument : check (.boolean false) = false

namespace IsBlind

variable {check : Form → Bool}

theorem tally_refreshStatement
    (blind : IsBlind check) :
    refreshStatement.tally check = 0 := by
  simp [refreshStatement, callStatement, Node.statement, Node.expression, blind.value, blind.call,
    blind.name]

theorem tally_stopStatement
    (blind : IsBlind check) :
    stopStatement.tally check = 0 := by
  simp [stopStatement, callStatement, Node.statement, Node.expression, blind.value, blind.call,
    blind.name, blind.argument]

/-- In a marker only its name counts. -/
theorem tally_marker
    (blind : IsBlind check)
    {marker : Node}
    (wellFormed : marker.isWellFormed)
    (isStop : isMarker marker) :
    marker.tally check = (check (.identifier markerName)).toNat := by
  unfold isMarker at isStop
  split at isStop
  · next nameRole nameSpan inner =>
      obtain rfl := beq_iff_eq.mp isStop
      have below := (Node.isWellFormed_mk.mp wellFormed).2
      have atName := (Node.isWellFormed_mk.mp (below _ (List.mem_singleton_self _))).1
      obtain rfl : inner = [] := List.isEmpty_iff.mp atName
      simp [blind.value]
  · cases isStop

/-- What counts in a function counts in its parameters and its statements. -/
theorem tally_build
    (blind : IsBlind check)
    (function : Callable)
    {form : Form}
    (callable : isCallable form)
    (parameters : Node)
    (statements : List Node) :
    (function.build form parameters statements).tally check =
      parameters.tally check + Node.tallyAll check statements := by
  simp [Callable.build, blind.callable form callable, blind.body]

/-- A value counts alike whether it stands alone or is returned. -/
theorem tallyAll_returnValue
    (blind : IsBlind check)
    (statements : List Node) :
    Node.tallyAll check (returnValue statements) = Node.tallyAll check statements := by
  unfold returnValue
  split
  · simp [Node.statement, blind.value, blind.returned]
  · rfl

/-- The refreshes among the images of nodes do not count. -/
theorem tallyAll_images
    (blind : IsBlind check)
    (form : Form)
    (nodes : List Node) :
    Node.tallyAll check (images skipsDestroy form ancestors nodes) =
      Node.tallyAll check (nodes.map (image skipsDestroy ancestors)) := by
  have inserted (node : Node) :
      Node.tallyAll check
          (if Rule.isBody form then (pendingAfter ancestors node).toList else []) = 0 := by
    unfold pendingAfter
    split
    · split
      · simp [blind.tally_refreshStatement]
      · rfl
    · rfl
  unfold images
  induction nodes with
  | nil =>
      rfl
  | cons node rest inductionHypothesis =>
      simp [inserted, inductionHypothesis]

/-- The names of markers that are gone, if these are what is counted. -/
theorem tallyAll_map_image
    {nodes : List Node}
    (counted :
      ∀ node ∈ nodes,
        (image skipsDestroy ancestors node).tally check +
            stops skipsDestroy ancestors node * (check (.identifier markerName)).toNat =
          node.tally check) :
    Node.tallyAll check (nodes.map (image skipsDestroy ancestors)) +
        stopsAll skipsDestroy ancestors nodes * (check (.identifier markerName)).toNat =
      Node.tallyAll check nodes := by
  induction nodes with
  | nil =>
      simp [stopsAll]
  | cons node rest inductionHypothesis =>
      have atNode := counted node (by simp)
      have atRest := inductionHypothesis (fun other member => counted other (by simp [member]))
      simp only [List.map_cons, Node.tallyAll_cons, stopsAll, Nat.add_mul]
      omega

/-- What counts in a function that is visited, before the edit. -/
theorem tally_visited
    (blind : IsBlind check)
    (function : Callable)
    (placed : Placed ancestors function.node)
    (counted :
      ∀ child ∈ function.node.children,
        (image skipsDestroy (function.chain ancestors) child).tally check +
            stops skipsDestroy (function.chain ancestors) child *
              (check (.identifier markerName)).toNat =
          child.tally check) :
    (function.visited skipsDestroy ancestors).tally check +
        stopsAll skipsDestroy (function.chain ancestors) function.node.children *
          (check (.identifier markerName)).toNat =
      function.node.tally check := by
  have parts : Node.tallyAll check (function.visited skipsDestroy ancestors).children =
      Node.tallyAll check
        (function.node.children.map (image skipsDestroy (function.chain ancestors))) := by
    rw [← function.images_children placed, blind.tallyAll_images]
  have whole : (function.visited skipsDestroy ancestors).tally check =
      Node.tallyAll check (function.visited skipsDestroy ancestors).children := by
    simp [Callable.visited, Callable.build, blind.callable _ function.callable]
  have own : function.node.tally check = Node.tallyAll check function.node.children := by
    simp [Callable.node, Callable.build, blind.callable _ function.callable]
  rw [whole, own, parts]
  exact tallyAll_map_image counted

/-- What is left of a function, and the names of the markers that are gone. -/
theorem tally_callable
    (blind : IsBlind check)
    (function : Callable)
    (placed : Placed ancestors function.node)
    (counted :
      ∀ child ∈ function.node.children,
        (image skipsDestroy (function.chain ancestors) child).tally check +
            stops skipsDestroy (function.chain ancestors) child *
              (check (.identifier markerName)).toNat =
          child.tally check) :
    (image skipsDestroy ancestors function.node).tally check +
        stops skipsDestroy ancestors function.node * (check (.identifier markerName)).toNat =
      function.node.tally check := by
  rw [function.image_node placed]
  cases isLeft : isLeftAlone skipsDestroy ancestors function.node with
  | true =>
      have noStops : stops skipsDestroy ancestors function.node = 0 :=
        if_pos isLeft
      rw [decide_of_isLeftAlone isLeft, noStops]
      simp [Flow.applyTo]
  | false =>
      have inside := blind.tally_visited function placed counted
      have entered (noStop : isStopped skipsDestroy ancestors function.node = false) :
          stops skipsDestroy ancestors function.node =
            stopsAll skipsDestroy (function.chain ancestors) function.node.children :=
        stops_mk isLeft noStop
      have made := function.decision skipsDestroy ancestors
      generalize decided : (decide skipsDestroy ancestors function.node).1 = flow at made
      cases made with
      | empty braces noStatement =>
          rw [entered (by simp [isStopped, noStatement])]
          exact inside
      | exempt isExempted =>
          exact (descends_of_exempt isExempted isLeft decided).elim
      | @stopped earlier later marker noExemption braces split isStop isFirst =>
          have callable : isCallable function.node.form := function.callable
          have stopped : isStopped skipsDestroy ancestors function.node := by
            simp [isStopped, callable, braces, noExemption, split, isStop]
          have oneStop : stops skipsDestroy ancestors function.node = 1 :=
            (if_neg (ne_true_of_eq_false isLeft)).trans (if_pos stopped)
          have split : function.statements = earlier ++ marker :: later := split
          have wellFormed := (function.stand marker (by simp [split])).wellFormed
          have edited (statements : List Node) :
              mapBody (fun _ => statements) function.node =
                function.build function.form function.parameters statements :=
            rfl
          have own :
              function.node.tally check =
                function.parameters.tally check + Node.tallyAll check function.statements :=
            blind.tally_build function function.callable _ _
          simp only [Flow.applyTo, edited, oneStop, own,
            blind.tally_build function function.callable, split, Node.tallyAll_append,
            Node.tallyAll_cons, blind.tally_stopStatement, blind.tally_marker wellFormed isStop]
          omega
      | iterating noExemption occupied noStop iteration =>
          have noStopped : isStopped skipsDestroy ancestors function.node = false := by
            cases braces : hasBraces function.node.form with
            | false => simp [isStopped, braces]
            | true => simpa [isStopped, braces] using fun _ _ => noStop braces
          rw [entered noStopped]
          exact inside
      | refreshed noExemption braces occupied noStop noIteration =>
          have noStopped : isStopped skipsDestroy ancestors function.node = false := by
            simpa [isStopped] using fun _ _ _ => noStop
          have edited :
              refreshAtStart (function.visited skipsDestroy ancestors) =
                function.build function.form
                  (image skipsDestroy (function.chain ancestors) function.parameters)
                  (refreshStatement ::
                    bodyImages skipsDestroy ancestors function.node function.statements) :=
            rfl
          rw [Callable.visited, blind.tally_build function function.callable] at inside
          simp only [Flow.applyTo, edited, entered noStopped,
            blind.tally_build function function.callable, Node.tallyAll_cons,
            blind.tally_refreshStatement]
          omega
      | braced noExemption noBraces noIteration =>
          have edited (statements : List Node) (parameters : Node) :
              refreshAtStart (blockArrow (function.build function.form parameters statements)) =
                function.build (withBraces function.form) parameters
                  (refreshStatement :: returnValue statements) := by
            rw [blockArrow_build noBraces]
            rfl
          rw [Callable.visited, blind.tally_build function function.callable] at inside
          simp only [Flow.applyTo, Callable.visited, edited,
            entered (by simp [isStopped, noBraces]),
            blind.tally_build function (isCallable_withBraces function.callable),
            Node.tallyAll_cons, blind.tally_refreshStatement, blind.tallyAll_returnValue]
          omega

/--
What is left of a tree, and the names of the markers that are gone.

With a check that passes over these names too, everything is left.
-/
theorem tally_image
    (blind : IsBlind check)
    {node : Node}
    (placed : Placed ancestors node) :
    (image skipsDestroy ancestors node).tally check +
        stops skipsDestroy ancestors node * (check (.identifier markerName)).toNat =
      node.tally check := by
  induction node using Node.inductionOnChildren generalizing ancestors with
  | step form role span children inductionHypothesis =>
      have counted :
          ∀ child ∈ children,
            (image skipsDestroy (Ancestor.labels form role children ++ ancestors) child).tally
                check +
                stops skipsDestroy (Ancestor.labels form role children ++ ancestors) child *
                  (check (.identifier markerName)).toNat =
              child.tally check :=
        fun child member => inductionHypothesis child member (placed.children child member)
      cases isFunction : isCallable form with
      | false =>
          have inside := tallyAll_map_image counted
          rw [image_of_noCallable placed isFunction, stops_of_noCallable isFunction,
            Node.tally_mk, Node.tally_mk, blind.tallyAll_images]
          omega
      | true =>
          obtain ⟨function, same⟩ := placed.callable isFunction
          cases same
          exact blind.tally_callable function placed counted

end IsBlind

end Reactivity.Refresh
