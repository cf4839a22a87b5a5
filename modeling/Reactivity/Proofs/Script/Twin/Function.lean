import Reactivity.Proofs.Script.Twin.Listing

namespace Reactivity.Script

open Refresh Reader

/-!
# Functions of twins

Bodies, functions, methods and arrow functions are read alike.
-/

namespace View

/-- Trees whose first children are the same, and the children of these. -/
def headed :
    View Node where
  soiled grade node := node.strays grade
  alike node marked :=
    node.unmarked = marked.unmarked ∧
      Option.Rel (opened View.node).alike node.children.head? marked.children.head?
  refl node := ⟨rfl, (option (opened View.node)).refl node.children.head?⟩
  bare := Node.strays_bare

@[grind =]
theorem headed_soiled
    (grade : Grade)
    (returned : Node) :
    headed.soiled grade returned = returned.strays grade :=
  rfl

end View

namespace Grammar

/-- Parameters fit a kind of method alike in twins. -/
theorem parametersFit_eq
    {parameters marked : List Node}
    (alike : List.Forall₂ View.node.alike parameters marked)
    (kind : PropertyKind) :
    parametersFit kind parameters = parametersFit kind marked := by
  cases alike with
  | nil => rfl
  | @cons first second _ _ sameFirst rest =>
      have sameForm : first.form = second.form := by
        rw [← Node.form_unmarked first, sameFirst, Node.form_unmarked]
      cases rest with
      | nil => cases kind <;> simp [parametersFit, sameForm]
      | cons => cases kind <;> rfl

namespace Mirrors

variable
  {grammar marked : Grammar}
  {cursor markedCursor : Cursor}

theorem readBody
    (mirrors : grammar.Mirrors marked)
    (context : Context) :
    Reads .absorbing .node cursor markedCursor (grammar.readBody context)
      (marked.readBody context) := by
  have listed (cursor markedCursor : Cursor) :
      Reads .anywhere .script cursor markedCursor
        (Grammar.readStatements grammar.bound (Cursor.isAt · "\x7d")
          (grammar.statement context .listed))
        (Grammar.readStatements marked.bound (Cursor.isAt · "\x7d")
          (marked.statement context .listed)) := by
    have follows (beside : cursor.SameToken markedCursor ∨ cursor.MarkerAhead markedCursor) :
        Follows .script _ _ :=
      mirrors.readStatements context (fun same => same.isAt_eq "\x7d")
        (fun ahead => ahead.marked_isAt "\x7d") beside
    exact ⟨fun _ => False.elim, fun same => follows (.inl same),
      fun atMarker => follows (.inr atMarker.toMarkerAhead)⟩
  refine .position (fun _ _ => .expect "\x7b" (fun stop markedStop => ?_))
  refine (listed stop markedStop).bind ?_
  rintro ⟨directives, statements⟩ ⟨_, markedStatements⟩ ⟨rfl, alike⟩ _ _
  refine .expect "\x7d" (fun _ _ => .finish alike (fun grade isLost => ?_))
  exact .inr ⟨rfl, isLost.resolve_left id⟩

/-- The parameters and body of a function; its name may be that of the marker. -/
theorem readParametersAndBody
    (mirrors : grammar.Mirrors marked)
    (start markedStart : Nat)
    (role : Role)
    (head : FunctionHead) :
    Carries .absorbing (fun _ => head.name = some markerName) .headed cursor markedCursor
      (grammar.readParametersAndBody start role head)
      (marked.readParametersAndBody markedStart role head) := by
  refine (mirrors.readParameters _).bind (fun parameters markedParameters alike _ _ => ?_)
  refine (mirrors.readBody _).enter.bind (fun body markedBody bodyAlike _ _ => ?_)
  refine .spanFrom _ _ (fun _ _ => .pure ⟨?_, .some alike⟩ (fun grade isLost => ?_))
  · rw [Node.unmarked_noList rfl, Node.unmarked_noList rfl, View.map_unmarked]
    exact .cons alike.1 (.cons bodyAlike .nil)
  · rcases isLost with (isNamed | parametersLost) | bodyLost
    · exact Node.strays_mk.mpr (.inl (beq_iff_eq.mpr isNamed))
    · exact Node.strays_of_mem rfl List.mem_cons_self (Node.strays_bare parametersLost.1)
    · exact Node.strays_of_mem rfl (by simp) (Node.strays_bare bodyLost)

/-- The name of a function, if it has one, and what follows. -/
theorem readNamed
    (mirrors : grammar.Mirrors marked)
    (place : Context)
    (start markedStart : Nat)
    (role : Role)
    (head : FunctionHead)
    (cursor markedCursor : Cursor) :
    Reads .anywhere .node cursor markedCursor
      (name? place >>= fun name => grammar.readParametersAndBody start role { head with name })
      (name? place >>= fun name =>
        marked.readParametersAndBody markedStart role { head with name }) := by
  refine (Carries.name? place).bindInner (fun name markedName alike _ _ => ?_)
  obtain rfl : name = markedName := by
    cases alike with
    | none => rfl
    | some same => rw [same]
  refine ((mirrors.readParametersAndBody start markedStart role _).enter.weaken ?_).through
    (fun _ _ => id) (fun _ _ => And.left)
  rintro grade (impossible | ⟨text, rfl, _, rfl⟩)
  · exact impossible.elim
  · rfl

/-- A function that starts with `function` or `async`. -/
theorem readFunction
    (mirrors : grammar.Mirrors marked)
    (context : Context)
    (role : Role)
    (isDeclaration : Bool) :
    Reads .absorbing .node cursor markedCursor (grammar.readFunction context role isDeclaration)
      (marked.readFunction context role isDeclaration) := by
  refine .position (fun start markedStart => ?_)
  have named (isAsync isGenerator : Bool) :=
    mirrors.readNamed (if isDeclaration then context else Context.inFunction isAsync isGenerator)
      start markedStart role { isAsync, isGenerator, isDeclaration }
  refine .onAcceptWord "async" (fun _ _ => .expectWord "function" (fun _ _ => ?_) (by decide))
    (fun _ _ => .expectWord "function" (fun _ _ => ?_) (by decide)) (by decide) (by decide)
  · exact .onAccept "*" (named true true) (named true false) (by simp)
  · exact .onAccept "*" (named false true) (named false false) (by simp)

/-- The function of a method. -/
theorem readMethod
    (mirrors : grammar.Mirrors marked)
    (kind : PropertyKind)
    (isAsync isGenerator : Bool) :
    Reads .absorbing .node cursor markedCursor (grammar.readMethod kind isAsync isGenerator)
      (marked.readMethod kind isAsync isGenerator) := by
  refine .position (fun start markedStart => ?_)
  refine ((mirrors.readParametersAndBody start markedStart .expression _).weaken
    (fun _ => False.elim)).bind ?_
  rintro ⟨form, role, span, children⟩ ⟨markedForm, markedRole, markedSpan, markedChildren⟩
    ⟨alike, headAlike⟩ _ _
  simp only [Node.children_mk] at headAlike ⊢
  cases children with
  | nil =>
      cases markedChildren with
      | nil => exact .failure
      | cons => cases headAlike
  | cons parameters others =>
      cases markedChildren with
      | nil => cases headAlike
      | cons markedParameters markedOthers =>
          cases headAlike with
          | some opened =>
              refine .require (fun _ fits => ?_) (.pure alike (by grind))
              rwa [parametersFit_eq opened.2]

/-- An arrow and the body of its function. -/
theorem readArrow
    (mirrors : grammar.Mirrors marked)
    (context : Context)
    (start markedStart : Nat)
    (isAsync : Bool)
    {items markedItems : List Node}
    (alike : List.Forall₂ View.node.alike items markedItems) :
    Carries .absorbing (fun _ => ∃ item ∈ markedItems, item.strays .bare) .node cursor markedCursor
      (grammar.readArrow context start isAsync items)
      (marked.readArrow context markedStart isAsync markedItems) := by
  refine .finished (fun span markedSpan => ?_)
  have parametersAlike :
      (Node.mk .parameters .part span items).unmarked =
        (Node.mk .parameters .part markedSpan markedItems).unmarked := by
    rw [Node.unmarked_noList rfl, Node.unmarked_noList rfl, View.map_unmarked alike]
  have parametersLost (isLost : ∃ item ∈ markedItems, item.strays .bare) :
      (Node.mk .parameters .part markedSpan markedItems).strays .bare := by
    obtain ⟨item, member, isAstray⟩ := isLost
    exact Node.strays_of_mem rfl member isAstray
  refine .sameLine (fun atEnd isEnd => ?_) (fun _ _ => .expect "=>" (fun _ _ => ?_))
  · simp [StateT.run_bind, Cursor.isAt, isEnd]
  · refine .ifAt "\x7b" (fun _ _ => ?_) (fun _ _ => .position (fun _ _ => ?_)) (by simp)
    · refine (mirrors.readBody _).inside.bind (fun body _ bodyAlike _ _ => ?_)
      refine .finishCompound (.cons parametersAlike (.cons bodyAlike .nil)) (fun grade isLost => ?_)
        rfl
      refine .inr (isLost.elim (fun isLost => ⟨_, List.mem_cons_self, parametersLost isLost⟩) ?_)
      exact fun isLost => ⟨_, by simp, Node.strays_bare isLost⟩
    · refine (mirrors.assignment _ _ _).bindInner (fun value markedValue valueAlike _ _ => ?_)
      refine .finished (fun statementSpan markedStatementSpan => .finished (fun _ _ => ?_))
      refine .finishCompound (.cons parametersAlike (.cons ?_ .nil)) (fun grade isLost => ?_) rfl
      · show Node.unmarked _ = Node.unmarked _
        rw [Node.unmarked_mk, Node.unmarked_mk]
        refine congrArg (Node.mk _ _ _) (Node.unmarkedAll_cons_congr ?_ rfl)
        rw [Node.unmarked_noList rfl, Node.unmarked_noList rfl, List.map_singleton,
          List.map_singleton, valueAlike]
      · rcases isLost with isLost | isAstray
        · exact .inr ⟨_, List.mem_cons_self, parametersLost isLost⟩
        · rcases Node.strays_deep_or_isJustMarker isAstray with isDeep | isJust
          · refine .inr ⟨_, List.mem_cons_of_mem _ List.mem_cons_self, ?_⟩
            exact Node.strays_mk.mpr (.inr ⟨rfl, _, List.mem_cons_self,
              Node.strays_expressionStatement.mpr isDeep⟩)
          · refine .inl ?_
            simp [Form.strays, Node.isJustMarker, Node.anyIsJustMarker, isJust]

end Mirrors

end Grammar

end Reactivity.Script
