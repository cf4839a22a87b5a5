import Reactivity.Proofs.Script.Grammar.Function
import Reactivity.Proofs.Script.Grammar.Target
import Reactivity.Script.Grammar.Expression

namespace Reactivity.Script.Grammar.IsSound

open Reader

/-!
# Expressions that are read are well formed

Accesses, operators, arrow functions and sequences. What stands left of an
assignment or an arrow is read as an expression first and turned afterwards.
-/

/-- A candidate is found with what holds of it. -/
theorem found
    {value : Type}
    {candidate : Option value}
    {post : value → Prop}
    (holds : ∀ returned, candidate = some returned → post returned) :
    (Grammar.found candidate).Yields post := by
  cases candidate with
  | none =>
      exact .failure
  | some returned =>
      exact .pure (holds returned rfl)

variable {grammar : Grammar} (sound : grammar.IsSound)

include sound

/-- The arguments of a call are well formed, and each is an expression or spread out. -/
theorem readArguments
    (context : Context) :
    (grammar.readArguments context).Yields
      (fun values => ∀ value ∈ values, value.isWellFormed ∧ value.isCalled) :=
  .after (fun _ => .separated _ (sound.readItem context) _ _)

/--
What stands in parentheses.

The item that was read last is an expression unless the whole can only be the head
of an arrow function.
-/
theorem readParenthesized
    (context : Context) :
    (grammar.readParenthesized context).Yields (Node.Stands .expression) := by
  refine .after (fun start => .after (fun _ => .after (fun innerStart => ?_)))
  refine Yields.bind (.repeated
    (fun reached => (∀ item ∈ reached.1, item.isWellFormed) ∧
      (reached.2 = false → reached.1.head?.map Node.role = some .expression))
    (fun result => (∀ item ∈ result.1, item.isWellFormed) ∧
      (result.2 = false → result.1.getLast?.map Node.role = some .expression))
    ?_ _ (by simp)) (fun result fit => .after (fun innerSpan => .after (fun _ => ?_)))
  · rintro ⟨items, isHead⟩ ⟨itemsFit, lastFits⟩
    refine .after (fun current => ?_)
    split
    · exact .pure ⟨by simpa using itemsFit, by simpa using lastFits⟩
    · split
      · refine (readRest (sound.pattern context) ")").bind (fun rest restFits => .pure ?_)
        exact ⟨by simpa using ⟨restFits.wellFormed, itemsFit⟩, by simp⟩
      · refine (sound.assignment _).bind (fun item itemFits => .after (fun isFollowed => ?_))
        have allFit : ∀ other ∈ item :: items, other.isWellFormed := by
          simpa using ⟨itemFits.wellFormed, itemsFit⟩
        split
        · exact .after (fun isLast => .pure ⟨allFit, by simp [itemFits.hasRole]⟩)
        · refine .after (fun isClosed => .after (fun _ => .pure ⟨allFit, ?_⟩))
          simp [itemFits.hasRole]
  · obtain ⟨items, isHead⟩ := result
    obtain ⟨itemsFit, lastFits⟩ := fit
    dsimp only
    split
    · refine .finish _ ?_ itemsFit
      simpa [Form.fits] using lastFits rfl
    · refine .finish _ rfl ?_
      simpa [Node.isWellFormed_mk, Form.fits] using itemsFit
    · exact .finish _ rfl itemsFit

/-- An import as an expression gives a module or what is known of the script itself. -/
theorem readImportExpression
    (context : Context) :
    (grammar.readImportExpression context).Yields (Node.Stands .expression) := by
  refine .after (fun start => .after (fun _ => .after (fun isMeta => ?_)))
  split
  · exact .after (fun _ => .leaf _ rfl)
  · refine .after (fun _ => Yields.bind (.separated _ (sound.assignment _) _ _)
      (fun values fit => .after (fun _ => ?_)))
    exact .finish _ rfl (fun value member => (fit value member).wellFormed)

/-- A construction is well formed with its arguments and without them. -/
theorem readConstruct
    (context : Context) :
    (grammar.readConstruct context).Yields (Node.Stands .expression) := by
  refine .after (fun start => .after (fun _ => .after (fun isMeta => ?_)))
  split
  · exact .after (fun _ => .leaf _ rfl)
  · refine (sound.constructed context).bind (fun constructed fits => .after (fun opens => ?_))
    dsimp only
    split
    · refine (sound.readArguments context).bind (fun values valuesFit => ?_)
      have areFit (value : Node) (member : value ∈ values) := (valuesFit value member).1
      exact .finish _ rfl (by simpa using ⟨fits.wellFormed, areFit⟩)
    · rw [pure_bind]
      exact .finish _ rfl (by simpa using fits.wellFormed)

/-- What a word starts is an expression. -/
theorem readWordExpression
    (context : Context) :
    (grammar.readWordExpression context).Yields (Node.Stands .expression) := by
  refine .after (fun current => ?_)
  dsimp only
  split
  · exact .after (fun _ => .leaf _ rfl)
  · exact .after (fun _ => .leaf _ rfl)
  · exact .after (fun _ => .leaf _ rfl)
  · exact .after (fun _ => .leaf _ rfl)
  · refine Yields.bind (.after (fun _ => .leaf _ rfl)) (fun node fits => ?_)
    exact .after (fun following => .after (fun _ => .pure fits))
  · exact sound.readFunction _ _ _
  · exact sound.readClass _ _ _
  · exact sound.readConstruct _
  · exact sound.readImportExpression _
  · split
    · exact sound.readFunction _ _ _
    · exact (Yields.name context).bind (fun _ named => .identifier _ named)

theorem readPrimary
    (context : Context) :
    (grammar.readPrimary context).Yields (Node.Stands .expression) := by
  refine .after (fun current => ?_)
  dsimp only
  split
  · exact .after (fun _ => .leaf _ rfl)
  · exact .after (fun _ => .leaf _ rfl)
  · exact .after (fun _ => .leaf _ rfl)
  · exact sound.readWordExpression _
  · exact sound.readParenthesized _
  · exact sound.readArray _
  · exact sound.readObject _
  · exact sound.readTemplate _ _ _
  · exact readRegex
  · exact readRegex
  · exact .failure

omit sound in
theorem readMemberName
    {object : Node}
    (fits : object.isWellFormed)
    (start : Nat)
    (isOptional : Bool) :
    (Grammar.readMemberName start object isOptional).Yields
      (fun node => node.Stands .expression ∧ node.form.takesAnyRole) := by
  refine .after (fun current => ?_)
  split
  · exact .after (fun _ => .finishLoose _ rfl (by simpa using fits) rfl)
  · exact .after (fun _ => .after (fun _ => .finishLoose _ rfl (by simpa using fits) rfl))
  · exact .failure

/-- A member by a key may stand in any role, as its object and its key are well formed. -/
theorem readComputedMember
    {object : Node}
    (fits : object.isWellFormed)
    (context : Context)
    (start : Nat)
    (isOptional : Bool) :
    (grammar.readComputedMember context start object isOptional).Yields
      (fun node => node.Stands .expression ∧ node.form.takesAnyRole) := by
  refine .after (fun _ => ((sound.expression _).before "]").bind (fun key keyFits => ?_))
  exact .finishLoose _ rfl (by simpa using ⟨fits, keyFits.wellFormed⟩) rfl

/--
An expression, and whether it is a chain.

A chain is given the role of a part later on, so its last access must not be bound
to the role of an expression.
-/
def IsAccess
    (accessed : Node × Bool) :
    Prop :=
  accessed.1.Stands .expression ∧ (accessed.2 = true → accessed.1.form.takesAnyRole)

/-- Each access in a row keeps the whole an expression. -/
theorem readAccesses
    {first : Node}
    (firstFits : first.Stands .expression)
    (context : Context)
    (start : Nat)
    (allowsCalls : Bool) :
    (grammar.readAccesses context start allowsCalls first).Yields IsAccess := by
  refine .repeated IsAccess _ ?_ _ ⟨firstFits, by simp⟩
  rintro ⟨node, isChain⟩ ⟨fits, chainFits⟩
  have accessed
      {read : Reader Node}
      (yields : read.Yields (fun node => node.Stands .expression ∧ node.form.takesAnyRole))
      (isNowChain : Bool) :
      Yields (do return .inl (← read, isNowChain)) (Sum.elim IsAccess IsAccess) :=
    yields.bind (fun _ nodeFits => .pure ⟨nodeFits.1, fun _ => nodeFits.2⟩)
  have called
      {values : List Node}
      (valuesFit : ∀ value ∈ values, value.isWellFormed ∧ value.isCalled)
      (isOptional : Bool) :
      (Reader.finish start .expression (.call isOptional) (node :: values)).Yields
        (fun node => node.Stands .expression ∧ node.form.takesAnyRole) := by
    have calledFit := Node.isCalled_iff.mpr (.inl fits.hasRole)
    have areCalled : ∀ child ∈ node :: values, child.isCalled :=
      List.forall_mem_cons.mpr ⟨calledFit, fun value member => (valuesFit value member).2⟩
    have areFit : ∀ child ∈ node :: values, child.isWellFormed :=
      List.forall_mem_cons.mpr ⟨fits.wellFormed, fun value member => (valuesFit value member).1⟩
    exact .finishLoose _ (List.all_eq_true.mpr areCalled) areFit rfl
  refine .after (fun current => ?_)
  split
  · exact .after (fun _ => accessed (readMemberName fits.wellFormed _ _) _)
  · exact accessed (sound.readComputedMember fits.wellFormed _ _ _) _
  · refine .after (fun _ => .after (fun _ => .after (fun opens => ?_)))
    split
    · exact (sound.readArguments _).bind (fun _ valuesFit => accessed (called valuesFit _) _)
    · refine .after (fun isComputed => ?_)
      split
      · exact accessed (sound.readComputedMember fits.wellFormed _ _ _) _
      · exact accessed (readMemberName fits.wellFormed _ _) _
  · split
    · exact (sound.readArguments _).bind (fun _ valuesFit => accessed (called valuesFit _) _)
    · exact .pure ⟨fits, chainFits⟩
  · refine .after (fun _ => (sound.readTemplate _ _ _).bind (fun template templateFits => ?_))
    exact accessed
      (.finishLoose _ rfl (by simpa using ⟨fits.wellFormed, templateFits.wellFormed⟩) rfl) _
  · exact .pure ⟨fits, chainFits⟩

/-- The last access of a chain becomes a part of it. -/
theorem readAccess
    (context : Context) :
    (grammar.readAccess context).Yields (Node.Stands .expression) := by
  refine .after (fun start => (sound.readPrimary context).bind (fun first firstFits => ?_))
  refine (sound.readAccesses firstFits _ _ _).bind (fun accessed fits => ?_)
  obtain ⟨node, isChain⟩ := accessed
  dsimp only
  split
  · next isChained =>
      have partFits := Node.withRole_isWellFormed fits.1.wellFormed (fits.2 isChained) .part
      exact .finish _ rfl (by simpa using partFits)
  · exact .pure fits.1

/-- What is constructed is accessed like any other expression, but not called. -/
theorem readConstructed
    (context : Context) :
    (grammar.readConstructed context).Yields (Node.Stands .expression) := by
  refine .after (fun start => (sound.readPrimary context).bind (fun first firstFits => ?_))
  refine (sound.readAccesses firstFits _ _ _).bind (fun accessed fits => ?_)
  exact .after (fun _ => .pure fits.1)

/-- What is increased or decreased afterwards is turned into a target. -/
theorem readUpdated
    (context : Context) :
    (grammar.readUpdated context).Yields (Node.Stands .expression) := by
  refine .after (fun start => (sound.readAccess context).bind (fun node fits => ?_))
  refine .after (fun current => ?_)
  split
  · split
    · exact .pure fits
    · refine Yields.bind (found (fun target turned =>
        Node.simpleTarget?_stands turned fits.wellFormed)) (fun target targetFits => ?_)
      exact .after (fun _ => .finish _ rfl (by simpa using targetFits.wellFormed))
  · exact .pure fits

/-- An operand with its unary operators is an expression. -/
theorem readOperand
    (context : Context) :
    (grammar.readOperand context).Yields (Node.Stands .expression) := by
  refine .after (fun current => ?_)
  split
  · refine .after (fun _ => (sound.operand context).bind (fun operand fits => ?_))
    exact .finish _ rfl (by simpa using fits.wellFormed)
  · refine .after (fun _ => (sound.operand context).bind (fun operand fits => ?_))
    refine Yields.bind (found (fun target turned =>
      Node.simpleTarget?_stands turned fits.wellFormed)) (fun target targetFits => ?_)
    exact .finish _ rfl (by simpa using targetFits.wellFormed)
  · split
    · refine .after (fun _ => .after (fun _ => ?_))
      refine (sound.operand context).bind (fun operand fits => ?_)
      exact .finish _ (by simp [Form.fits, fits.hasRole]) (by simpa using fits.wellFormed)
    · exact sound.readUpdated context

theorem readFirstOperand
    (context : Context) :
    (grammar.readFirstOperand context).Yields (Node.Stands .expression) := by
  refine .after (fun current => ?_)
  split
  · refine .after (fun _ => .after (fun _ => .after (fun _ => ?_)))
    refine (sound.operation _ _).bind (fun object fits => .after (fun _ => ?_))
    exact .finish _ rfl (by simpa using fits.wellFormed)
  · exact sound.readOperand context

/-- Operations in a row are expressions, by whatever operators they are joined. -/
theorem readOperation
    (context : Context)
    (minimum : Level) :
    (grammar.readOperation context minimum).Yields (Node.Stands .expression) := by
  refine .after (fun start => .after (fun leftOpens => ?_))
  refine (sound.readFirstOperand context).bind (fun first firstFits => ?_)
  refine .repeated (Node.Stands .expression) _ (fun left leftFits => ?_) _ firstFits
  refine .after (fun current => ?_)
  split
  · next operator _ =>
      split
      · refine .after (fun _ => .after (fun rightOpens => ?_))
        refine (sound.operation _ _).bind (fun right rightFits => .after (fun _ => ?_))
        have formFits : operator.form.fits .expression [left, right] := by
          cases operator <;> rfl
        have below : ∀ operand ∈ [left, right], operand.isWellFormed := by
          simpa using ⟨leftFits.wellFormed, rightFits.wellFormed⟩
        exact (Yields.finish _ formFits below).bind (fun _ fits => .pure fits)
      · exact .pure leftFits
  · exact .pure leftFits

/-- A condition with its two alternatives is an expression. -/
theorem readConditional
    (context : Context) :
    (grammar.readConditional context).Yields (Node.Stands .expression) := by
  refine .after (fun start => (sound.readOperation _ _).bind (fun condition conditionFits => ?_))
  refine .after (fun isChoice => ?_)
  split
  · refine ((sound.assignment _).before ":").bind (fun consequent consequentFits => ?_)
    refine (sound.assignment _).bind (fun alternative alternativeFits => ?_)
    refine .finish _ rfl ?_
    simpa using ⟨conditionFits.wellFormed, consequentFits.wellFormed, alternativeFits.wellFormed⟩
  · exact .pure conditionFits

theorem readYield
    (context : Context) :
    (grammar.readYield context).Yields (Node.Stands .expression) := by
  refine .after (fun start => .after (fun _ => .after (fun current => ?_)))
  dsimp only
  split
  · exact .leaf _ rfl
  · refine .after (fun isDelegate => (sound.assignment _).bind (fun value fits => ?_))
    exact .finish _ rfl (by simpa using fits.wellFormed)

theorem readAsyncHead
    (context : Context) :
    (grammar.readAsyncHead context).Yields (fun items => ∀ item ∈ items, item.isWellFormed) := by
  refine .after (fun _ => (sound.readParameters _).bind (fun parameters fits => ?_))
  refine .after (fun following => .after (fun _ => .pure ?_))
  obtain ⟨form, role, span, children⟩ := parameters
  exact (Node.isWellFormed_mk.mp fits.wellFormed).2

/-- The parameters of an asynchronous arrow function are well formed, if this is one. -/
theorem readAsyncHead?
    (context : Context) :
    (grammar.readAsyncHead? context).Yields
      (fun head => ∀ items, head = some items → ∀ item ∈ items, item.isWellFormed) := by
  refine .after (fun current => ?_)
  split
  · refine .after (fun _ => .orElse ?_ (.pure (by simp)))
    refine .map ((sound.readAsyncHead context).weaken (fun items fit => ?_))
    rintro others ⟨⟩
    exact fit
  · exact .pure (by simp)

/-- What stands left of an arrow or an assignment is turned into parameters or a target. -/
theorem readAssigned
    (context : Context) :
    (grammar.readAssigned context).Yields (Node.Stands .expression) := by
  refine .after (fun start => (sound.readConditional context).bind (fun left leftFits => ?_))
  refine .after (fun following => ?_)
  split
  · refine Yields.bind (found (fun items turned =>
      Node.arrowHead?_isWellFormed turned leftFits.wellFormed)) (fun items itemsFit => ?_)
    exact sound.readArrow _ _ _ itemsFit
  · split
    · exact .pure leftFits
    · refine Yields.bind (found (fun target turned =>
        Node.target?_stands turned leftFits.wellFormed)) (fun target targetFits => ?_)
      refine .after (fun _ => (sound.assignment _).bind (fun value valueFits => ?_))
      exact .finish _ rfl (by simpa using ⟨targetFits.wellFormed, valueFits.wellFormed⟩)

/-- An assignment, an arrow function or a yield is an expression. -/
theorem readAssignment
    (context : Context) :
    (grammar.readAssignment context).Yields (Node.Stands .expression) := by
  refine .after (fun current => ?_)
  split
  · exact sound.readYield context
  · split
    · refine .after (fun _ => (readNamePattern context).bind (fun parameter fits => ?_))
      exact sound.readArrow _ _ _ (by simpa using fits.wellFormed)
    · refine (sound.readAsyncHead? context).bind (fun head headFits => ?_)
      split
      · exact sound.readArrow _ _ _ (headFits _ rfl)
      · exact sound.readAssigned context

/-- A sequence is an expression as all of its items are. -/
theorem readExpression
    (context : Context) :
    (grammar.readExpression context).Yields (Node.Stands .expression) := by
  refine .after (fun start => (sound.readAssignment context).bind (fun first firstFits => ?_))
  refine .after (fun isSequence => ?_)
  split
  · refine Yields.bind (.repeated (fun items => ∀ item ∈ items, item.isWellFormed)
      (fun items => ∀ item ∈ items, item.isWellFormed) (fun items fit => ?_) _
      (by simpa using firstFits.wellFormed)) (fun items fit => .finish _ rfl fit)
    refine .after (fun isMore => ?_)
    split
    · refine (sound.assignment _).bind (fun item itemFits => .pure ?_)
      simpa using ⟨itemFits.wellFormed, fit⟩
    · exact .pure (by simpa using fit)
  · exact .pure firstFits

end Reactivity.Script.Grammar.IsSound
