import Mathlib.Data.List.Forall2
import Reactivity.Proofs.Script.Grammar.Statement
import Reactivity.Script.Reading

namespace Reactivity.Script

open Reader

/-!
# Scripts that are read are well formed

The grammar of every number of rounds is sound, and removing the parentheses of a
tree keeps it well formed. So every script that is read has only well-formed
statements.
-/

/-- The grammar of every number of rounds is sound. -/
theorem Grammar.ofRounds_isSound
    (bound rounds : Nat) :
    (Grammar.ofRounds bound rounds).IsSound := by
  induction rounds with
  | zero =>
      exact {
        expression := fun _ => .failure
        assignment := fun _ => .failure
        operation := fun _ _ => .failure
        operand := fun _ => .failure
        access := fun _ => .failure
        constructed := fun _ => .failure
        pattern := fun _ => .failure
        statement := fun _ _ => .failure }
  | succ rounds inductionHypothesis =>
      have sound : ({ Grammar.ofRounds bound rounds with bound } : Grammar).IsSound := {
        expression := inductionHypothesis.expression
        assignment := inductionHypothesis.assignment
        operation := inductionHypothesis.operation
        operand := inductionHypothesis.operand
        access := inductionHypothesis.access
        constructed := inductionHypothesis.constructed
        pattern := inductionHypothesis.pattern
        statement := inductionHypothesis.statement }
      exact {
        expression := sound.readExpression
        assignment := sound.readAssignment
        operation := sound.readOperation
        operand := sound.readOperand
        access := sound.readAccess
        constructed := sound.readConstructed
        pattern := sound.readPattern
        statement := sound.readStatement }

namespace Node

/-- Lists settle item by item. -/
theorem settleAll?_eq_some
    {nodes settled : List Node}
    (turned : settleAll? nodes = some settled) :
    List.Forall₂ (fun node result => node.settle? = some result) nodes settled := by
  induction nodes generalizing settled with
  | nil =>
      simp only [settleAll?, Option.some.injEq] at turned
      rw [← turned]
      exact .nil
  | cons node rest inductionHypothesis =>
      unfold settleAll? at turned
      split at turned
      · next first others firstTurned othersTurned =>
          cases turned
          exact .cons firstTurned (inductionHypothesis othersTurned)
      · cases turned

/-- Away from parentheses a node settles by settling its children. -/
theorem settle?_mk
    {form : Form}
    {role : Role}
    {span : Span}
    {children : List Node}
    {result : Node}
    (isOther : form ≠ .parenthesized)
    (turned : (Node.mk form role span children).settle? = some result) :
    ∃ settled, settleAll? children = some settled ∧ result = .mk form role span settled := by
  unfold settle? at turned
  split at turned
  · next shape =>
      cases shape
      exact (isOther rfl).elim
  · next shape =>
      cases shape
      split at turned
      · cases turned
      · obtain ⟨settled, allTurned, rfl⟩ := Option.map_eq_some_iff.mp turned
        exact ⟨settled, allTurned, rfl⟩

/-- The children of a function stay those of a function. -/
theorem areFunction_of_settled
    {children settled : List Node}
    (turned : List.Forall₂ (fun node result => node.settle? = some result) children settled)
    (shape : areFunction children) :
    areFunction settled := by
  obtain ⟨parameters, directives, role, span, statements, rfl⟩ := areFunction_iff.mp shape
  cases turned with
  | cons _ turned =>
      cases turned with
      | cons bodyTurned turned =>
          cases turned
          obtain ⟨settledStatements, _, rfl⟩ := settle?_mk (by simp) bodyTurned
          rfl

/-- The body of an arrow function without braces stays a value. -/
theorem areConcise_of_settled
    {children settled : List Node}
    (turned : List.Forall₂ (fun node result => node.settle? = some result) children settled)
    (isFunction : areFunction children)
    (shape : areConcise children) :
    areConcise settled := by
  obtain ⟨parameters, directives, role, span, statements, rfl⟩ := areFunction_iff.mp isFunction
  obtain ⟨statementRole, statementSpan, value, rfl⟩ := areConcise_iff.mp shape
  cases turned with
  | cons _ turned =>
      cases turned with
      | cons bodyTurned turned =>
          cases turned
          obtain ⟨settledStatements, statementsTurned, rfl⟩ := settle?_mk (by simp) bodyTurned
          cases settleAll?_eq_some statementsTurned with
          | cons statementTurned rest =>
              cases rest
              obtain ⟨values, valuesTurned, rfl⟩ := settle?_mk (by simp) statementTurned
              cases settleAll?_eq_some valuesTurned with
              | cons _ rest =>
                  cases rest
                  rfl

/-- Declarators stay declarators. -/
theorem areDeclarators_of_settled
    {children settled : List Node}
    (turned : List.Forall₂ (fun node result => node.settle? = some result) children settled)
    (shape : ∀ child ∈ children, child.form = .declarator) :
    ∀ child ∈ settled, child.form = .declarator := by
  induction turned with
  | nil =>
      simp
  | @cons child result _ _ headTurned _ inductionHypothesis =>
      obtain ⟨form, role, span, inner⟩ := child
      obtain rfl : form = .declarator := shape (.mk form role span inner) (by simp)
      obtain ⟨_, _, rfl⟩ := settle?_mk (by simp) headTurned
      simpa using inductionHypothesis (fun other member => shape other (by simp [member]))

/-- What a call can hold is still that when it settles. -/
theorem areCalled_of_settled
    {children settled : List Node}
    (turned : List.Forall₂ (fun node result => node.settle? = some result) children settled)
    (sameRoles : settled.map Node.role = children.map Node.role)
    (shape : ∀ child ∈ children, child.isCalled) :
    ∀ child ∈ settled, child.isCalled := by
  induction turned with
  | nil =>
      simp
  | @cons child result _ _ headTurned _ inductionHypothesis =>
      obtain ⟨sameRole, sameRest⟩ := List.cons.inj sameRoles
      have others := inductionHypothesis sameRest (fun other member => shape other (by simp [member]))
      refine List.forall_mem_cons.mpr ⟨?_, others⟩
      have isCalled := shape child List.mem_cons_self
      rw [isCalled_iff, sameRole]
      refine (isCalled_iff.mp isCalled).imp_right ?_
      obtain ⟨form, role, span, inner⟩ := child
      rintro ⟨isFollowed, rfl⟩
      obtain ⟨_, _, rfl⟩ := settle?_mk (by simp) headTurned
      exact ⟨isFollowed, rfl⟩

/-- A form fits the settled children if it fits the children. -/
theorem fits_of_settled
    {form : Form}
    {role : Role}
    {children settled : List Node}
    (isOther : form ≠ .parenthesized)
    (isSettled : form.isUnsettled = false)
    (turned : List.Forall₂ (fun node result => node.settle? = some result) children settled)
    (sameRoles : settled.map Node.role = children.map Node.role)
    (fits : form.fits role children) :
    form.fits role settled := by
  cases form with
  | function head =>
      exact areFunction_of_settled turned fits
  | arrow head =>
      simp only [Form.fits, Bool.and_eq_true, Bool.or_eq_true] at fits ⊢
      exact ⟨areFunction_of_settled turned fits.1,
        fits.2.imp_right (areConcise_of_settled turned fits.1)⟩
  | parenthesized =>
      exact (isOther rfl).elim
  | shorthandDefault =>
      cases isSettled
  | declaration keyword =>
      simp only [Form.fits, List.all_map, List.all_eq_true, Function.comp_apply,
        beq_iff_eq] at fits ⊢
      exact areDeclarators_of_settled turned fits
  | identifier =>
      obtain rfl : children = [] := List.isEmpty_iff.mp (Bool.and_eq_true_iff.mp fits).2
      cases turned
      exact fits
  | importing =>
      obtain rfl : children = [] := List.isEmpty_iff.mp fits
      cases turned
      rfl
  | exportDeclaration =>
      simpa only [Form.fits, turned.length_eq] using fits
  | call isOptional =>
      exact List.all_eq_true.mpr
        (areCalled_of_settled turned sameRoles (List.all_eq_true.mp fits))
  | body | expressionStatement | awaiting | spread =>
      simpa only [Form.fits, sameRoles] using fits
  | _ =>
      exact fits

/-- Parentheses around a function leave a mark that changes no shape. -/
theorem Stands.wrapped
    {role : Role}
    {node : Node}
    (stands : node.Stands role) :
    (node.withForm node.form.wrapped).Stands role := by
  obtain ⟨form, nodeRole, span, children⟩ := node
  obtain ⟨atRoot, below⟩ := isWellFormed_mk.mp stands.wellFormed
  refine ⟨isWellFormed_mk.mpr ⟨?_, below⟩, stands.hasRole⟩
  cases form <;> exact atRoot

/-- A list of nodes that stay well formed and keep their roles when they settle. -/
theorem stands_of_settled
    {children settled : List Node}
    (turned : List.Forall₂ (fun node result => node.settle? = some result) children settled)
    (stand :
      ∀ child ∈ children, ∀ result, child.settle? = some result → result.Stands child.role) :
    settled.map Node.role = children.map Node.role ∧ ∀ node ∈ settled, node.isWellFormed := by
  induction turned with
  | nil =>
      simp
  | cons headTurned _ inductionHypothesis =>
      have headStands := stand _ (by simp) _ headTurned
      have tailStands := inductionHypothesis (fun child member => stand child (by simp [member]))
      refine ⟨?_, ?_⟩
      · simp [headStands.hasRole, tailStands.1]
      · simpa using ⟨headStands.wellFormed, tailStands.2⟩

/-- What settles stays well formed and keeps its role. -/
theorem settle?_stands
    {node result : Node}
    (turned : node.settle? = some result)
    (fits : node.isWellFormed) :
    result.Stands node.role := by
  induction node using inductionOnChildren generalizing result with
  | step form role span children inductionHypothesis =>
      obtain ⟨atRoot, below⟩ := isWellFormed_mk.mp fits
      unfold settle? at turned
      split at turned
      · next inner shape =>
          cases shape
          obtain ⟨settled, innerTurned, rfl⟩ := Option.map_eq_some_iff.mp turned
          have stands := inductionHypothesis inner (by simp) innerTurned (below inner (by simp))
          have sameRole : inner.role = role := by
            simpa [Form.fits] using atRoot
          exact sameRole ▸ stands.wrapped
      · next isOther shape =>
          cases shape
          split at turned
          · cases turned
          · next isUnsettled =>
              obtain ⟨settled, allTurned, rfl⟩ := Option.map_eq_some_iff.mp turned
              have pairs := settleAll?_eq_some allTurned
              obtain ⟨sameRoles, settledFit⟩ := stands_of_settled pairs
                (fun child member result childTurned =>
                  inductionHypothesis child member childTurned (below child member))
              have noParentheses : form ≠ .parenthesized := by
                rintro rfl
                simp only [Form.fits, beq_iff_eq] at atRoot
                obtain ⟨inner, rfl, _⟩ := List.map_eq_singleton_iff.mp atRoot
                exact isOther _ rfl rfl
              refine ⟨isWellFormed_mk.mpr ⟨?_, settledFit⟩, rfl⟩
              exact fits_of_settled noParentheses (by simpa using isUnsettled) pairs sameRoles
                atRoot

end Node

/-- Every statement of a script that is read is well formed. -/
theorem readProgram?_stands
    {source : String}
    {program : Program}
    (isRead : readProgram? source = some program) :
    ∀ statement ∈ program.statements, statement.Stands .statement := by
  unfold readProgram? at isRead
  simp only [Option.bind_eq_bind, Option.bind_eq_some_iff] at isRead
  obtain ⟨⟨⟨directives, statements⟩, stop⟩, ran, settled, allTurned, isDistinct⟩ := isRead
  have sound := Grammar.ofRounds_isSound (source.toList.length + 2) (source.toList.length + 2)
  have stand := Grammar.IsSound.readStatements (sound.statement .top .listed) _ _ ran
  obtain ⟨sameRoles, settledFit⟩ := Node.stands_of_settled (Node.settleAll?_eq_some allTurned)
    (fun statement member result turned =>
      Node.settle?_stands turned (stand statement member).wellFormed)
  split at isDistinct
  · cases isDistinct
    intro statement member
    refine ⟨settledFit statement member, ?_⟩
    have roleMember : statement.role ∈ statements.map Node.role :=
      sameRoles ▸ List.mem_map_of_mem member
    obtain ⟨origin, originMember, sameRole⟩ := List.mem_map.mp roleMember
    rw [← sameRole]
    exact (stand origin originMember).hasRole
  · cases isDistinct

/-- Every statement of a script that is read is well formed. -/
theorem readProgram_stands
    {source : String}
    {program : Program}
    (isRead : readProgram source = .ok program) :
    ∀ statement ∈ program.statements, statement.Stands .statement := by
  unfold readProgram at isRead
  split at isRead
  · next found =>
      cases isRead
      exact readProgram?_stands found
  · cases isRead

end Reactivity.Script
