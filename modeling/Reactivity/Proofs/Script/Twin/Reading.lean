import Reactivity.Proofs.Script.Twin.Marking
import Reactivity.Proofs.Script.Twin.Settle
import Reactivity.Proofs.Script.Twin.Statement

namespace Reactivity.Script

open Refresh Reader

/-!
# Scripts that are twins

The grammar of a text with more rounds follows that of its twin, so the statements of both
are alike.
-/

/-- In every number of rounds a mark is read as the marker. -/
theorem Grammar.ofRounds_readsMarks
    (bound rounds : Nat) :
    (Grammar.ofRounds bound rounds).ReadsMarks := by
  cases rounds with
  | zero => exact ⟨fun _ _ _ _ _ ran => (by cases ran), fun _ _ _ _ _ _ ran => (by cases ran)⟩
  | succ rounds =>
      exact ⟨fun _ _ atMark _ _ ran => (readAssignment_mark atMark ran).2,
        fun _ _ _ atMark _ _ ran => readStatement_mark atMark ran⟩

/-- A grammar with more rounds follows one with fewer. -/
theorem Grammar.ofRounds_mirrors
    {bound markedBound : Nat}
    (bounds : markedBound ≤ bound)
    {rounds markedRounds : Nat}
    (more : markedRounds ≤ rounds) :
    (Grammar.ofRounds bound rounds).Mirrors (Grammar.ofRounds markedBound markedRounds) := by
  induction markedRounds generalizing rounds with
  | zero =>
      exact {
        bound := Nat.zero_le _
        marks := ofRounds_readsMarks _ 0
        expression := fun _ _ _ => .failure
        assignment := fun _ _ _ => .failure
        operation := fun _ _ _ _ => .failure
        operand := fun _ _ _ => .failure
        access := fun _ _ _ => .failure
        constructed := fun _ _ _ => .failure
        pattern := fun _ _ _ => .failure
        statement := fun _ _ _ _ => .failure }
  | succ markedRounds inductionHypothesis =>
      obtain ⟨rounds, rfl⟩ : ∃ fewer, rounds = fewer + 1 := ⟨rounds - 1, by omega⟩
      have before := inductionHypothesis (Nat.le_of_succ_le_succ more)
      have mirrors : ({ Grammar.ofRounds bound rounds with bound } : Grammar).Mirrors
          { Grammar.ofRounds markedBound markedRounds with bound := markedBound } := {
        bound := bounds
        marks := ⟨before.marks.assignment, before.marks.statement⟩
        expression := before.expression
        assignment := before.assignment
        operation := before.operation
        operand := before.operand
        access := before.access
        constructed := before.constructed
        pattern := before.pattern
        statement := before.statement }
      exact {
        bound := bounds
        marks := ofRounds_readsMarks _ (markedRounds + 1)
        expression := fun context _ _ => mirrors.readExpression context
        assignment := fun context _ _ => mirrors.readAssignment context
        operation := fun context level _ _ => mirrors.readOperation context level
        operand := fun context _ _ => mirrors.readOperand context
        access := fun context _ _ => mirrors.readAccess context
        constructed := fun context _ _ => mirrors.readConstructed context
        pattern := fun context _ _ => mirrors.readPattern context
        statement := fun context placement _ _ => mirrors.readStatement context placement }

/-- A first character that is not blank is that of both twins, up to a mark. -/
theorem Twin.head_cases
    {text marked : List Char}
    (twin : Twin true text marked) :
    text = marked ∧ text = [] ∨
      (∃ character onward markedOnward,
        text = character :: onward ∧ marked = character :: markedOnward ∧
          (Text.isBlank character = false → Twin false onward markedOnward)) ∨
      text.head? = some '/' ∧ marked.head? = some '$' := by
  cases twin with
  | nil => exact .inl ⟨rfl, rfl⟩
  | @cons _ onward markedOnward character twin =>
      refine .inr (.inl ⟨character, onward, markedOnward, rfl, rfl, fun solid => ?_⟩)
      have sameLine : character ≠ '\n' := by
        rintro rfl
        cases solid
      rwa [beq_eq_false_iff_ne.mpr sameLine, solid] at twin
  | mark isComment =>
      obtain ⟨before, after, rfl, _⟩ := isComment.shape
      exact .inr (.inr ⟨rfl, rfl⟩)

/-- Behind a first line that starts with `#!`, which is the same, twins are twins. -/
theorem Twin.splitHashbang
    {text marked : List Char}
    (twin : Twin true text marked) :
    (splitHashbang text).1 = (splitHashbang marked).1 ∧
      Twin true (splitHashbang text).2 (splitHashbang marked).2 := by
  have stays {characters : List Char} (isOther : ∀ rest, characters ≠ '#' :: '!' :: rest) :
      Script.splitHashbang characters = (none, characters) := by
    unfold Script.splitHashbang
    split
    · exact (isOther _ rfl).elim
    · rfl
  rcases twin.head_cases with ⟨rfl, rfl⟩ | ⟨character, onward, markedOnward, rfl, rfl, inLine⟩ |
    ⟨isSlash, isDollar⟩
  · exact ⟨rfl, twin⟩
  · by_cases isHash : character = '#'
    · subst isHash
      have lineTwin := inLine rfl
      rcases lineTwin.inLine with ⟨rfl, rfl⟩ | ⟨second, rest, markedRest, rfl, rfl, restTwin⟩
      · exact ⟨rfl, twin⟩
      · by_cases isBang : second = '!'
        · subst isBang
          have stops : (!isLineEnd '\n') = false := rfl
          refine ⟨?_, (Twin.dropWhile stops restTwin).widen true⟩
          exact congrArg (some ∘ String.ofList) (Twin.takeWhile_eq stops restTwin)
        · rw [stays (by simp [isBang]), stays (by simp [isBang])]
          exact ⟨rfl, twin⟩
    · rw [stays (by simp [isHash]), stays (by simp [isHash])]
      exact ⟨rfl, twin⟩
  · rw [stays, stays]
    · exact ⟨rfl, twin⟩
    · rintro rest rfl
      cases isDollar
    · rintro rest rfl
      cases isSlash

/-- Statements that are alike up to marks settle alike. -/
theorem Node.exists_settleAll?
    {statements markedStatements markedSettled : List Node}
    (fit : ∀ statement ∈ statements, statement.isWellFormed)
    (markedFit : ∀ statement ∈ markedStatements, statement.isWellFormed)
    (alike : unmarkedAll true statements = unmarkedAll true markedStatements)
    (turned : settleAll? markedStatements = some markedSettled) :
    ∃ settled,
      settleAll? statements = some settled ∧
        unmarkedAll true settled = unmarkedAll true markedSettled := by
  have settles {nodes : List Node} (fit : ∀ node ∈ nodes, node.isWellFormed) :=
    settleAll?_unmarkedAll true fit (fun node member => settle?_unmarked (fit node member))
  have same : (settleAll? statements).map (unmarkedAll true) =
      some (unmarkedAll true markedSettled) := by
    rw [← settles fit, alike, settles markedFit, turned, Option.map_some]
  exact Option.map_eq_some_iff.mp same

/-- A script is read like its twin, unless the name of the marker is astray there. -/
theorem readProgram?_twin
    {code markedCode : String}
    {marked : Program}
    (twin : Twin true code.toList markedCode.toList)
    (isRead : readProgram? markedCode = some marked)
    (inPlace : ∀ statement ∈ marked.statements, statement.strays .deep = false) :
    ∃ program,
      readProgram? code = some program ∧ program.hashbang = marked.hashbang ∧
        program.directives = marked.directives ∧
          Node.unmarkedAll true program.statements = Node.unmarkedAll true marked.statements := by
  have shorter := twin.length_le
  obtain ⟨sameHashbang, textTwin⟩ := twin.splitHashbang
  have markedStands := readProgram?_stands isRead
  unfold readProgram? at isRead
  simp only [Option.bind_eq_bind, Option.bind_eq_some_iff] at isRead
  obtain ⟨⟨⟨markedDirectives, markedStatements⟩, markedStop⟩, markedRan, markedSettled,
    markedTurned, isDistinct⟩ := isRead
  split at isDistinct
  · next distinct =>
      cases isDistinct
      have markedSound :=
        Grammar.ofRounds_isSound (markedCode.toList.length + 2) (markedCode.toList.length + 2)
      have markedFit (statement : Node) (member : statement ∈ markedStatements) :
          statement.isWellFormed :=
        (Grammar.IsSound.readStatements (markedSound.statement .top .listed) _ _ markedRan
          statement member).wellFormed
      have mirrors : (Grammar.ofRounds (code.toList.length + 2) (code.toList.length + 2)).Mirrors
          (Grammar.ofRounds (markedCode.toList.length + 2) (markedCode.toList.length + 2)) :=
        Grammar.ofRounds_mirrors (Nat.add_le_add_right shorter 2) (Nat.add_le_add_right shorter 2)
      have beside := Cursor.beside_ofText code.toList.length markedCode.toList.length False.elim
        textTwin
      have follows := mirrors.readStatements .top Cursor.SameToken.isAtEnd_eq
        (fun ahead => by rw [Cursor.isAtEnd, ahead.token]; rfl) (beside.imp_right And.left)
      rcases follows markedRan with ⟨statement, member, isAstray⟩ |
        ⟨⟨directives, statements⟩, stop, ran, ⟨sameDirectives, alike⟩, _⟩
      · obtain ⟨result, resultMember, turned⟩ :=
          Node.exists_settled_of_mem (Node.settleAll?_eq_some markedTurned) member
        have stillAstray := Node.strays_settled (markedFit statement member) turned isAstray
        rw [inPlace result resultMember] at stillAstray
        cases stillAstray
      · have sound := Grammar.ofRounds_isSound (code.toList.length + 2) (code.toList.length + 2)
        have stand := Grammar.IsSound.readStatements (sound.statement .top .listed) _ _ ran
        obtain ⟨settled, turned, settledAlike⟩ :=
          Node.exists_settleAll? (fun statement member => (stand statement member).wellFormed)
            markedFit alike markedTurned
        have settledFit := (Node.stands_of_settled (Node.settleAll?_eq_some turned)
          (fun statement member result statementTurned =>
            Node.settle?_stands statementTurned (stand statement member).wellFormed)).2
        have sameExports :
            settled.flatMap Node.exportedNames = markedSettled.flatMap Node.exportedNames := by
          rw [← Node.exportedNames_unmarkedAll settledFit, settledAlike,
            Node.exportedNames_unmarkedAll
              (fun statement member => (markedStands statement member).wellFormed)]
        refine ⟨⟨(splitHashbang code.toList).1, directives, settled⟩, ?_, sameHashbang,
          sameDirectives, settledAlike⟩
        have isDistinct : (settled.flatMap Node.exportedNames).Nodup := sameExports ▸ distinct
        unfold readProgram?
        simp only [Option.bind_eq_bind, Option.bind_eq_some_iff]
        exact ⟨_, ran, settled, turned, if_pos isDistinct⟩
  · cases isDistinct

/--
Marking only adds marker statements to lists of statements.

That is so when each comment that asks for a check stop stands apart, and the name of the marker
is nowhere astray in the marked script. Then the script itself is read too, and it has the same
directives and, without marks and source ranges, the same statements.
-/
theorem readProgram_markCheckStops
    {code : String}
    {marked : Program}
    (apart : stopsStandApart (code.toList.splitOn '\n'))
    (isRead : readProgram (markCheckStops code) = .ok marked)
    (inPlace : ∀ statement ∈ marked.statements, statement.strays .deep = false) :
    ∃ program,
      readProgram code = .ok program ∧ program.hashbang = marked.hashbang ∧
        program.directives = marked.directives ∧
          Node.unmarkedAll true program.statements = Node.unmarkedAll true marked.statements := by
  have markedRead : readProgram? (markCheckStops code) = some marked := by
    unfold readProgram at isRead
    split at isRead
    · next found =>
        cases isRead
        exact found
    · cases isRead
  obtain ⟨program, programRead, same⟩ :=
    readProgram?_twin (Twin.ofMarking apart) markedRead inPlace
  refine ⟨program, ?_, same⟩
  rw [readProgram, programRead]

/-- A check stop in a function, before a call, is taken away again. -/
theorem readProgram_markCheckStops_function :
    ∃ program marked,
      readProgram (markCheckStops "function f()\x7b\n //!check-stop\na()\x7d") = .ok marked ∧
        readProgram "function f()\x7b\n //!check-stop\na()\x7d" = .ok program ∧
          Node.unmarkedAll true program.statements = Node.unmarkedAll true marked.statements := by
  have checked :
      (readProgram (markCheckStops "function f()\x7b\n //!check-stop\na()\x7d")).toOption.any
        (fun marked => marked.statements.all (fun statement => !statement.strays .deep)) := by
    decide +kernel
  have apart :
      stopsStandApart ("function f()\x7b\n //!check-stop\na()\x7d".toList.splitOn '\n') := by
    decide +kernel
  obtain ⟨marked, isRead, checked⟩ := Outcome.exists_of_any checked
  have inPlace : ∀ statement ∈ marked.statements, statement.strays .deep = false := by
    simpa using checked
  obtain ⟨program, programRead, _, _, same⟩ := readProgram_markCheckStops apart isRead inPlace
  exact ⟨program, marked, isRead, programRead, same⟩

/-- A line of a template that looks like the comment is marked too, and the template changes. -/
theorem readProgram_marked_template :
    ∃ program marked,
      readProgram "x=`\n//!check-stop\n`" = .ok program ∧
        readProgram (markCheckStops "x=`\n//!check-stop\n`") = .ok marked ∧
          Node.unmarkedAll true program.statements ≠ Node.unmarkedAll true marked.statements := by
  have checked :
      (readProgram "x=`\n//!check-stop\n`").toOption.any (fun program =>
        !Node.straysAny .deep (Node.unmarkedAll true program.statements)) := by
    decide +kernel
  have markedChecked :
      (readProgram (markCheckStops "x=`\n//!check-stop\n`")).toOption.any (fun marked =>
        Node.straysAny .deep (Node.unmarkedAll true marked.statements)) := by
    decide +kernel
  obtain ⟨program, isRead, checked⟩ := Outcome.exists_of_any checked
  obtain ⟨marked, markedRead, markedChecked⟩ := Outcome.exists_of_any markedChecked
  refine ⟨program, marked, isRead, markedRead, fun same => ?_⟩
  rw [same, markedChecked] at checked
  cases checked

end Reactivity.Script
