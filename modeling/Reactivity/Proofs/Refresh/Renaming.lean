import Reactivity.Proofs.Refresh.Erasure

namespace Reactivity.Refresh

open Script

/-!
# Another name for the destroy hook

A rule that leaves no callbacks alone does not know the destroy hook: the injection gives
the same, up to that name, when the hook is called otherwise throughout the script.
-/

/-- The form with another name for the destroy hook. -/
def renameForm
    (name : String) :
    Form →
    Form
  | .identifier old => .identifier (if old = destroyHookName then name else old)
  | form => form

/-- The tree with another name for the destroy hook. -/
def renameHook
    (name : String)
    (node : Node) :
    Node :=
  rebuild (fun node => node.withForm (renameForm name node.form)) node

/-- The label of a call of the destroy hook, as if it called something else. -/
def plainLabel :
    Ancestor →
    Ancestor
  | .call .destroyHook => .call .other
  | label => label

variable {name : String}

theorem renameHook_mk
    (form : Form)
    (role : Role)
    (span : Span)
    (children : List Node) :
    renameHook name (.mk form role span children) =
      .mk (renameForm name form) role span (children.map (renameHook name)) := by
  unfold renameHook
  rw [rebuild_mk]
  rfl

theorem renameHook_refreshStatement :
    renameHook name refreshStatement = refreshStatement :=
  rfl

theorem form_renameHook
    (node : Node) :
    (renameHook name node).form = renameForm name node.form := by
  obtain ⟨form, role, span, children⟩ := node
  rw [renameHook_mk]
  rfl

/-- A marker is one under another name of the hook too, and nothing else becomes one. -/
theorem isMarker_renameHook
    (noMarker : name ≠ markerName)
    (statement : Node) :
    isMarker (renameHook name statement) = isMarker statement := by
  obtain ⟨form, role, span, children⟩ := statement
  rw [renameHook_mk]
  cases form with
  | expressionStatement =>
      rcases children with _ | ⟨⟨inner, innerRole, innerSpan, below⟩, _ | ⟨second, rest⟩⟩
      · rfl
      · rw [List.map_singleton, renameHook_mk]
        cases inner with
        | identifier old =>
            by_cases isHook : old = destroyHookName
            · subst isHook
              have noMention : (name == markerName) = false :=
                beq_eq_false_iff_ne.mpr noMarker
              have hookIsNone : (destroyHookName == markerName) = false := by
                decide
              simp [renameForm, isMarker, noMention, hookIsNone]
            · simp [renameForm, isMarker, isHook]
        | _ => rfl
      · simp [renameForm, isMarker]
  | _ => rfl

/-- The first marker of some statements is replaced wherever the name of the hook stands. -/
theorem replaceMarker?_renameHook
    (noMarker : name ≠ markerName)
    (statements : List Node) :
    replaceMarker? (statements.map (renameHook name)) =
      (replaceMarker? statements).map (List.map (renameHook name)) := by
  induction statements with
  | nil =>
      rfl
  | cons statement rest inductionHypothesis =>
      rw [List.map_cons, replaceMarker?, replaceMarker?, isMarker_renameHook noMarker,
        inductionHypothesis]
      cases isMarker statement with
      | true =>
          rfl
      | false =>
          cases replaceMarker? rest <;> rfl

theorem bodyStatements_renameHook
    (node : Node) :
    bodyStatements (renameHook name node) = (bodyStatements node).map (renameHook name) := by
  obtain ⟨form, role, span, children⟩ := node
  rw [renameHook_mk]
  rcases children with _ | ⟨first, _ | ⟨⟨inner, innerRole, innerSpan, below⟩, _ | ⟨third, rest⟩⟩⟩
  · rfl
  · rfl
  · rw [List.map_cons, List.map_singleton, renameHook_mk]
    rfl
  · rfl

/-- A change of the statements of a function that does not look at the name of the hook. -/
theorem mapBody_renameHook
    {change renamedChange : List Node → List Node}
    (alike :
      ∀ statements,
        renamedChange (statements.map (renameHook name)) =
          (change statements).map (renameHook name))
    (node : Node) :
    mapBody renamedChange (renameHook name node) = renameHook name (mapBody change node) := by
  obtain ⟨form, role, span, children⟩ := node
  rcases children with _ | ⟨first, _ | ⟨⟨inner, innerRole, innerSpan, below⟩, _ | ⟨third, rest⟩⟩⟩
  all_goals simp [mapBody, renameHook_mk, alike]

theorem refreshAtStart_renameHook
    (node : Node) :
    refreshAtStart (renameHook name node) = renameHook name (refreshAtStart node) :=
  mapBody_renameHook (fun _ => by rw [List.map_cons, renameHook_refreshStatement]) node

theorem returnValue_renameHook
    (statements : List Node) :
    returnValue (statements.map (renameHook name)) =
      (returnValue statements).map (renameHook name) := by
  rcases statements with _ | ⟨⟨form, role, span, children⟩, _ | ⟨second, rest⟩⟩
  · rfl
  · cases form with
    | expressionStatement =>
        rcases children with _ | ⟨value, _ | ⟨other, others⟩⟩
        all_goals simp [returnValue, Node.statement, renameHook_mk, renameForm]
    | _ => simp [returnValue, renameHook_mk, renameForm]
  · simp [returnValue]

theorem blockArrow_renameHook
    (node : Node) :
    blockArrow (renameHook name node) = renameHook name (blockArrow node) := by
  obtain ⟨form, role, span, children⟩ := node
  cases form with
  | arrow head =>
      have renamed :=
        @mapBody_renameHook name returnValue returnValue returnValue_renameHook
          (.mk (.arrow { head with isConcise := false }) role span children)
      rw [renameHook_mk] at renamed ⊢
      exact renamed
  | _ =>
      simp [blockArrow, renameHook_mk, renameForm]

/-- The chains differ in calls of the destroy hook only, which may call something else. -/
def SameButHook
    (first second : List Ancestor) :
    Prop :=
  first.map plainLabel = second.map plainLabel

theorem isIterationCallback_map_plainLabel
    (ancestors : List Ancestor) :
    isIterationCallback (ancestors.map plainLabel) = isIterationCallback ancestors := by
  rcases ancestors with _ | ⟨first, rest⟩
  · rfl
  · cases first with
    | call callee => cases callee <;> rfl
    | _ => rfl

theorem isInAsyncDeclaration_map_plainLabel
    (ancestors : List Ancestor) :
    isInAsyncDeclaration (ancestors.map plainLabel) = isInAsyncDeclaration ancestors := by
  rcases ancestors with _ | ⟨first, _ | ⟨second, rest⟩⟩
  · rfl
  · cases first with
    | call callee => cases callee <;> rfl
    | _ => rfl
  · cases first with
    | call callee => cases callee <;> rfl
    | functionBody =>
        cases second with
        | call callee => cases callee <;> rfl
        | function isDeclaration isAsync => cases isDeclaration <;> cases isAsync <;> rfl
        | _ => rfl
    | _ => rfl

theorem isInAwaitStatement_map_plainLabel
    (ancestors : List Ancestor) :
    isInAwaitStatement (ancestors.map plainLabel) = isInAwaitStatement ancestors := by
  rcases ancestors with _ | ⟨first, rest⟩
  · rfl
  · cases first with
    | call callee => cases callee <;> rfl
    | expressionStatement => exact isInAsyncDeclaration_map_plainLabel rest
    | _ => rfl

/-- A call of the hook under another name is labelled as a call of something else, if at all. -/
theorem SameButHook.labels
    {first second : List Ancestor}
    (same : SameButHook first second)
    (form : Form)
    (role : Role)
    (children : List Node) :
    SameButHook
      (Ancestor.labels (renameForm name form) role (children.map (renameHook name)) ++ first)
      (Ancestor.labels form role children ++ second) := by
  have sameLabels :
      (Ancestor.labels (renameForm name form) role (children.map (renameHook name))).map
          plainLabel =
        (Ancestor.labels form role children).map plainLabel := by
    cases form with
    | call isOptional =>
        rcases children with _ | ⟨⟨callee, calleeRole, calleeSpan, below⟩, rest⟩
        · rfl
        · rw [List.map_cons, renameHook_mk]
          cases callee with
          | identifier old =>
              by_cases isHook : old = destroyHookName
              · by_cases isSame : name = destroyHookName
                · simp [renameForm, isHook, isSame, Ancestor.labels]
                · simp [renameForm, isHook, isSame, Ancestor.labels, Callee.ofForm, plainLabel]
              · simp [renameForm, isHook, Ancestor.labels]
          | _ => rfl
    | _ => rfl
  rw [SameButHook, List.map_append, List.map_append, sameLabels, same]

/-- A decision at a node, and the one at the node with another name for the hook. -/
inductive FlowRenamed
    (name : String) :
    Flow →
    Flow →
    Prop where
  | skip (image : Node) :
      FlowRenamed name (.skip image) (.skip (renameHook name image))
  | descend
      {edit : Node → Node}
      (alike : ∀ node, edit (renameHook name node) = renameHook name (edit node)) :
      FlowRenamed name (.descend edit) (.descend edit)
  | insertAfter
      {statement : Node}
      (fixed : renameHook name statement = statement) :
      FlowRenamed name (.insertAfter statement) (.insertAfter statement)

variable
  {first second : List Ancestor}

/-- At a function with braces the decisions are alike. -/
theorem enterFunction_renameHook
    (noMarker : name ≠ markerName)
    (sameIteration : isIterationCallback first = isIterationCallback second)
    (node : Node) :
    FlowRenamed name (enterFunction false second node).1
        (enterFunction false first (renameHook name node)).1 ∧
      (enterFunction false second node).2 =
        (enterFunction false first (renameHook name node)).2 := by
  unfold enterFunction
  dsimp only
  rw [bodyStatements_renameHook, List.isEmpty_map, replaceMarker?_renameHook noMarker,
    sameIteration, Bool.false_and, Bool.false_and]
  cases (bodyStatements node).isEmpty with
  | true =>
      exact ⟨.descend (fun _ => rfl), rfl⟩
  | false =>
      cases replaceMarker? (bodyStatements node) with
      | some replaced =>
          refine ⟨?_, rfl⟩
          have renamed :
              mapBody (fun _ => replaced.map (renameHook name)) (renameHook name node) =
                renameHook name (mapBody (fun _ => replaced) node) :=
            @mapBody_renameHook name (fun _ => replaced) _ (fun _ => rfl) node
          dsimp only [Option.map_some]
          rw [if_neg Bool.false_ne_true, if_neg Bool.false_ne_true, if_neg Bool.false_ne_true,
            if_neg Bool.false_ne_true, renamed]
          exact .skip _
      | none =>
          cases isIterationCallback second with
          | true => exact ⟨.descend (fun _ => rfl), rfl⟩
          | false => exact ⟨.descend refreshAtStart_renameHook, rfl⟩

/-- Without exemptions the decisions are alike under another name for the hook. -/
theorem decide_renameHook
    (noMarker : name ≠ markerName)
    (same : SameButHook first second)
    (node : Node) :
    FlowRenamed name (decide false second node).1 (decide false first (renameHook name node)).1 ∧
      (decide false second node).2 = (decide false first (renameHook name node)).2 := by
  have sameIteration : isIterationCallback first = isIterationCallback second := by
    rw [← isIterationCallback_map_plainLabel first, same, isIterationCallback_map_plainLabel]
  have sameAwait : isInAwaitStatement first = isInAwaitStatement second := by
    rw [← isInAwaitStatement_map_plainLabel first, same, isInAwaitStatement_map_plainLabel]
  unfold decide
  rw [form_renameHook]
  cases node.form with
  | function head =>
      exact enterFunction_renameHook noMarker sameIteration node
  | arrow head =>
      dsimp only [renameForm]
      unfold enterArrow
      rw [Bool.false_and, Bool.false_and, sameIteration]
      cases head.isConcise with
      | false =>
          exact enterFunction_renameHook noMarker sameIteration node
      | true =>
          cases isIterationCallback second with
          | true =>
              exact ⟨.descend (fun _ => rfl), rfl⟩
          | false =>
              refine ⟨.descend (fun image => ?_), rfl⟩
              rw [blockArrow_renameHook, refreshAtStart_renameHook]
  | awaiting =>
      dsimp only [renameForm]
      rw [enterAwait_eq, enterAwait_eq, sameAwait]
      cases isInAwaitStatement second with
      | true => exact ⟨.insertAfter renameHook_refreshStatement, rfl⟩
      | false => exact ⟨.descend (fun _ => rfl), rfl⟩
  | _ =>
      exact ⟨.descend (fun _ => rfl), rfl⟩

/-- What a walk carries along, with another name for the hook. -/
def renamedState
    (name : String)
    (current : WalkState Nat) :
    WalkState Nat :=
  { current with pending := current.pending.map (renameHook name) }

/-- Lists of nodes are walked alike, if each of the nodes is. -/
theorem walkNodes_renameHook
    {nodes : List Node}
    (alike :
      ∀ node ∈ nodes, ∀ current,
        (injection false).walkNode first (renameHook name node) (renamedState name current) =
          let walked := (injection false).walkNode second node current
          (renameHook name walked.1, renamedState name walked.2))
    (form : Form)
    (current : WalkState Nat) :
    (injection false).walkNodes (renameForm name form) first (nodes.map (renameHook name))
        (renamedState name current) =
      let walked := (injection false).walkNodes form second nodes current
      (walked.1.map (renameHook name), renamedState name walked.2) := by
  have collected (visited : WalkState Nat) :
      Rule.collect (renameForm name form) (renamedState name visited) =
        ((Rule.collect form visited).1.map (renameHook name),
          renamedState name (Rule.collect form visited).2) := by
    have sameBody : Rule.isBody (renameForm name form) = Rule.isBody form := by
      cases form <;> rfl
    rw [Rule.collect, Rule.collect, sameBody]
    cases Rule.isBody form with
    | false => rfl
    | true =>
        obtain ⟨own, pending⟩ := visited
        cases pending <;> rfl
  induction nodes generalizing current with
  | nil =>
      rfl
  | cons node rest inductionHypothesis =>
      have atRest := inductionHypothesis (fun other member => alike other (by simp [member]))
      simp only [List.map_cons, Rule.walkNodes_cons, alike node (by simp), collected, atRest,
        List.map_append]

/-- Without exemptions, a walk under another name for the hook gives the same up to that name. -/
theorem walkNode_renameHook
    (noMarker : name ≠ markerName)
    (same : SameButHook first second)
    (node : Node)
    (current : WalkState Nat) :
    (injection false).walkNode first (renameHook name node) (renamedState name current) =
      let walked := (injection false).walkNode second node current
      (renameHook name walked.1, renamedState name walked.2) := by
  induction node using Node.inductionOnChildren generalizing first second current with
  | step form role span children inductionHypothesis =>
      have sameInner := @SameButHook.labels name first second same form role children
      have inside :=
        walkNodes_renameHook
          (fun child member current => inductionHypothesis child member sameInner current) form
      obtain ⟨flows, sameCount⟩ := decide_renameHook noMarker same (.mk form role span children)
      rw [renameHook_mk] at flows sameCount ⊢
      have sameStop : StopKind.ofForm? (renameForm name form) = StopKind.ofForm? form := by
        cases form <;> rfl
      cases isStop : StopKind.ofForm? form with
      | none =>
          rw [Rule.walkNode_of_noStop _ isStop, Rule.walkNode_of_noStop _ (sameStop.trans isStop)]
          dsimp only
          rw [inside, renameHook_mk]
      | some kind =>
          rw [walkNode_of_stop isStop, walkNode_of_stop (sameStop.trans isStop)]
          have opened (count : Nat) :
              counted count (renamedState name current) =
                renamedState name (counted count current) :=
            rfl
          dsimp only
          rw [← sameCount, opened, inside]
          generalize (decide false second (.mk form role span children)).1 = flow at flows
          generalize
            (decide false first
              (.mk (renameForm name form) role span (children.map (renameHook name)))).1 =
              otherFlow at flows
          cases flows with
          | skip image =>
              rfl
          | descend alike =>
              dsimp only
              rw [← alike, renameHook_mk]
          | insertAfter fixed =>
              dsimp only
              rw [renameHook_mk]
              cases kind with
              | await => simp only [Rule.request, renamedState, Option.map_some, fixed]
              | _ => rfl

/--
Without exemptions, the injection gives the same when the destroy hook has another name.

The name must not be that of a marker, which the injection does know.
-/
theorem inject_renameHook
    (noMarker : name ≠ markerName)
    (statements : List Node) :
    inject false (statements.map (renameHook name)) =
      ((inject false statements).1.map (renameHook name), (inject false statements).2) := by
  have walked :=
    @walkNodes_renameHook name [] [] statements
      (fun statement _ current => walkNode_renameHook noMarker rfl statement current)
      .block { own := 0 }
  have unchanged : renamedState name { own := 0 } = { own := 0 } := rfl
  have sameForm : renameForm name .block = .block := rfl
  rw [unchanged, sameForm] at walked
  rw [inject, inject, Rule.walk, Rule.walk, walked]
  rfl

end Reactivity.Refresh
