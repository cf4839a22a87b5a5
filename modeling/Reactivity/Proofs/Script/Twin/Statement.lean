import Reactivity.Proofs.Script.Twin.Declaration
import Reactivity.Script.Grammar.Statement

namespace Reactivity.Script

open Refresh Reader

/-!
# Statements of twins

A mark is a statement of its own. Where one statement is asked for that is no part of a
list, the mark is taken for it, and then the name of the marker is astray.
-/

/-- A name that is astray is that of the marker. -/
theorem Node.eq_markerName_of_strays
    {node : Node}
    {name : String}
    {grade : Grade}
    (isName : node.name? = some name)
    (isAstray : node.strays grade) :
    name = markerName := by
  have bareAstray := strays_bare_of_strays isAstray
  unfold name? at isName
  split at isName
  · next found isFound =>
      cases isName
      generalize node.bare = bare at isFound bareAstray
      obtain ⟨form, role, span, children⟩ := bare
      subst isFound
      rcases strays_mk.mp bareAstray with here | ⟨isLeaf, _⟩
      · exact beq_iff_eq.mp (Bool.and_eq_true_iff.mp here).2
      · cases isLeaf
  · cases isName

namespace Grammar

namespace Mirrors

variable
  {grammar marked : Grammar}
  {cursor markedCursor : Cursor}

theorem readBlock
    (mirrors : grammar.Mirrors marked)
    (context : Context)
    (role : Role) :
    Reads .absorbing .node cursor markedCursor (grammar.readBlock context role)
      (marked.readBlock context role) := by
  refine .position (fun _ _ => .expect "\x7b" (fun _ _ => ?_))
  exact (mirrors.readListed context).handOn
    (fun statements _ alike _ _ => .finish alike (fun _ isLost => .inr ⟨rfl, isLost⟩))

/-- An expression as a statement, which is a mark if the expression is the marker. -/
theorem finishExpression
    (start markedStart : Nat)
    {value markedValue : Node}
    (alike : value.unmarked = markedValue.unmarked) :
    Carries .anywhere (markedValue.strays ·) .node cursor markedCursor
      (finish start .statement .expressionStatement [value])
      (finish markedStart .statement .expressionStatement [markedValue]) := by
  refine .finish ?_ (fun grade isLost => ?_)
  · simp [Form.listsStatements, alike]
  · exact .inr ⟨rfl, markedValue, List.mem_cons_self, isLost⟩

theorem readExpressionEnd
    (start markedStart : Nat)
    {value markedValue : Node}
    (alike : value.unmarked = markedValue.unmarked) :
    Carries .anywhere (markedValue.strays ·) .node cursor markedCursor
      (readExpressionEnd start value) (readExpressionEnd markedStart markedValue) :=
  .semicolon (fun _ _ => finishExpression start markedStart alike)

theorem readCondition
    (mirrors : grammar.Mirrors marked)
    (context : Context) :
    Reads .absorbing (.inner .node) cursor markedCursor (grammar.readCondition context)
      (marked.readCondition context) :=
  .inParentheses (fun _ _ => mirrors.readExpression context)

theorem readIf
    (mirrors : grammar.Mirrors marked)
    (context : Context)
    (start markedStart : Nat) :
    Reads .absorbing .node cursor markedCursor (grammar.readIf context start)
      (marked.readIf context markedStart) := by
  refine (mirrors.readCondition context).bind (fun condition _ conditionAlike _ _ => ?_)
  refine (mirrors.statement _ _ _ _).bindInner (fun consequent _ consequentAlike _ _ => ?_)
  refine .ifAcceptWord "else" (fun _ _ => ?_)
    (fun _ _ => .finishCompound (.cons conditionAlike (.cons consequentAlike .nil)) (by grind) rfl)
      (by decide) (by decide)
  refine (mirrors.statement _ _ _ _).bindInner (fun alternative _ alternativeAlike _ _ => ?_)
  exact .finishCompound (.cons conditionAlike (.cons consequentAlike (.cons alternativeAlike .nil)))
    (by grind) rfl

theorem readOptional
    (mirrors : grammar.Mirrors marked)
    (context : Context)
    (close : String) :
    Reads .opening .node cursor markedCursor (grammar.readOptional context close)
      (marked.readOptional context close) :=
  .ifAt close (fun _ _ => .inside (.pure rfl (by grind)))
    (fun _ _ => mirrors.readExpression context)
    (by simp)

section Loops

variable
  {first markedFirst : Node}

theorem readForRest
    (mirrors : grammar.Mirrors marked)
    (context : Context)
    (start markedStart : Nat)
    (alike : first.unmarked = markedFirst.unmarked) :
    Carries .absorbing (fun _ => markedFirst.strays .bare) .node cursor markedCursor
      (grammar.readForRest context start first)
      (marked.readForRest context markedStart markedFirst) := by
  refine .expect ";" (fun _ _ => ?_)
  refine (Carries.before ";" (mirrors.readOptional _ ";")).bindInner
    (fun condition _ conditionAlike _ _ => ?_)
  refine (Carries.before ")" (mirrors.readOptional _ ")")).bindInner
    (fun step _ stepAlike _ _ => ?_)
  refine (mirrors.statement _ _ _ _).bindInner (fun body _ bodyAlike _ _ => ?_)
  exact .finishCompound
    (.cons alike (.cons conditionAlike (.cons stepAlike (.cons bodyAlike .nil))))
    (fun _ isLost => .inr (by simpa [View.node, or_assoc] using isLost)) rfl

theorem readForOfRest
    (mirrors : grammar.Mirrors marked)
    (context : Context)
    (start markedStart : Nat)
    (isAwait : Bool)
    (alike : first.unmarked = markedFirst.unmarked) :
    Carries .absorbing (fun _ => markedFirst.strays .bare) .node cursor markedCursor
      (grammar.readForOfRest context start isAwait first)
      (marked.readForOfRest context markedStart isAwait markedFirst) := by
  refine .expectWord "of" (fun _ _ => ?_) (by decide)
  refine (Carries.before ")" (mirrors.readAssignment _)).bindInner
    (fun value _ valueAlike _ _ => ?_)
  refine (mirrors.statement _ _ _ _).bindInner (fun body _ bodyAlike _ _ => ?_)
  exact .finishCompound (.cons alike (.cons valueAlike (.cons bodyAlike .nil))) (by grind) rfl

theorem readForInRest
    (mirrors : grammar.Mirrors marked)
    (context : Context)
    (start markedStart : Nat)
    (alike : first.unmarked = markedFirst.unmarked) :
    Carries .absorbing (fun _ => markedFirst.strays .bare) .node cursor markedCursor
      (grammar.readForInRest context start first)
      (marked.readForInRest context markedStart markedFirst) := by
  refine .expectWord "in" (fun _ _ => ?_) (by decide)
  refine (Carries.before ")" (mirrors.readExpression _)).bindInner
    (fun value _ valueAlike _ _ => ?_)
  refine (mirrors.statement _ _ _ _).bindInner (fun body _ bodyAlike _ _ => ?_)
  exact .finishCompound (.cons alike (.cons valueAlike (.cons bodyAlike .nil))) (by grind) rfl

end Loops

end Mirrors

/-- A declaration in the head of a loop starts alike in twins, unless a marker follows `let`. -/
theorem isAtLoopDeclaration_eq
    {cursor markedCursor : Cursor}
    (same : cursor.SameToken markedCursor)
    (follows : cursor.next.SameToken markedCursor.next ∨ markedCursor.isAtWord "let" = false) :
    isAtLoopDeclaration cursor = isAtLoopDeclaration markedCursor := by
  simp only [isAtLoopDeclaration, same.isAtWord_eq]
  rcases follows with nextSame | noLet
  · simp only [nextSame.isAtWord_eq, nextSame.token]
  · simp only [noLet, Bool.false_and]

/-- Read the rest of a loop behind the declaration in its head. -/
def readForDeclared
    (grammar : Grammar)
    (context : Context)
    (start : Nat)
    (isAwait : Bool)
    (declaration : Node) :
    Reader Node := do
  if ← isAtWord "of" then
    grammar.readForOfRest context start isAwait declaration
  else
    require (!isAwait)
    if ← isAtWord "in" then
      grammar.readForInRest context start declaration
    else
      require (declaratorsFit declaration)
      grammar.readForRest context start declaration

/-- Read the rest of a loop whose head starts with an expression. -/
def readForOther
    (grammar : Grammar)
    (context : Context)
    (start : Nat)
    (isAwait : Bool)
    (current : Cursor) :
    Reader Node := do
  let first ← grammar.readExpression { context with allowsIn := false }
  if ← isAtWord "of" then
    require (loopTargetFits current isAwait first)
    grammar.readForOfRest context start isAwait (← found (first.target? false))
  else
    require (!isAwait)
    if ← isAtWord "in" then
      grammar.readForInRest context start (← found (first.target? false))
    else
      grammar.readForRest context start first

/-- Read the rest of a loop behind its parenthesis. -/
def readForHead
    (grammar : Grammar)
    (context : Context)
    (start : Nat)
    (isAwait : Bool) :
    Reader Node := do
  let current ← cursor
  if current.isAt ";" then
    require (!isAwait)
    grammar.readForRest context start .absent
  else if isAtLoopDeclaration current then
    grammar.readVariables { context with allowsIn := false } .part >>=
      grammar.readForDeclared context start isAwait
  else
    grammar.readForOther context start isAwait current

theorem readFor_eq
    (grammar : Grammar)
    (context : Context)
    (start : Nat) :
    grammar.readFor context start = (do
      let isAwait ← acceptWord "await"
      require (!isAwait || context.allowsAwait)
      expect "("
      grammar.readForHead context start isAwait) :=
  rfl

theorem run_readVariables_let
    {grammar : Grammar}
    {context : Context}
    {role : Role}
    {cursor : Cursor}
    (isLet : cursor.isAtWord "let") :
    (grammar.readVariables context role).run cursor =
      (grammar.readDeclarators context role cursor.start .let).run cursor.next := by
  have noVar : cursor.isAtWord "var" = false := by
    rw [Cursor.isAtWord, beq_iff_eq.mp isLet]
    rfl
  simp [readVariables_eq, readVariableKeyword, StateT.run_bind, acceptWord, Reader.isAtWord, noVar,
    isLet]

namespace Mirrors

variable
  {grammar marked : Grammar}
  {cursor markedCursor : Cursor}

theorem readForDeclared
    (mirrors : grammar.Mirrors marked)
    (context : Context)
    (start markedStart : Nat)
    (isAwait : Bool)
    {declaration markedDeclaration : Node}
    (alike : (View.opened (.opened .node)).alike declaration markedDeclaration) :
    Carries .anywhere ((View.opened (.opened .node)).soiled · markedDeclaration) .node cursor
      markedCursor (grammar.readForDeclared context start isAwait declaration)
      (marked.readForDeclared context markedStart isAwait markedDeclaration) := by
  refine Carries.weaken ?_ (fun _ isLost => Node.strays_bare isLost.1)
  refine .ifAtWord "of" (fun _ _ => (mirrors.readForOfRest _ _ _ _ alike.1).inside)
    (fun _ _ => .require (fun _ => id) ?_) (by decide) (by decide)
  refine .ifAtWord "in" (fun _ _ => (mirrors.readForInRest _ _ _ alike.1).inside)
    (fun _ _ => .require (fun _ fits => ?_) (mirrors.readForRest _ _ _ alike.1).enter)
      (by decide) (by decide)
  rwa [declaratorsFit_eq alike]

theorem readForOther
    (mirrors : grammar.Mirrors marked)
    (context : Context)
    (start markedStart : Nat)
    (isAwait : Bool)
    {current markedCurrent : Cursor}
    (same : current.SameToken markedCurrent) :
    Reads .absorbing .node cursor markedCursor (grammar.readForOther context start isAwait current)
      (marked.readForOther context markedStart isAwait markedCurrent) := by
  refine (mirrors.readExpression _).bindInner (fun first markedFirst alike _ _ => ?_)
  refine Carries.weaken ?_ (fun _ isLost => isLost.resolve_left id)
  have sameTarget := rel_of_natural (Node.target?_unmarked false) alike
  have kept {target : Node} (isTarget : markedFirst.target? false = some target)
      (isLost : markedFirst.strays .bare) : target.strays .bare :=
    Node.target?_strays isTarget isLost
  refine .ifAtWord "of" (fun _ _ => .require (fun _ fits => ?_) ?_)
    (fun _ _ => .require (fun _ => id) ?_) (by decide) (by decide)
  · have sameFits : loopTargetFits current isAwait first =
        loopTargetFits markedCurrent isAwait markedFirst := by
      simp only [loopTargetFits, same.isAtWord_eq, form_eq alike]
    rwa [sameFits]
  · exact .found sameTarget (fun target _ isTarget targetAlike =>
      ((mirrors.readForOfRest _ _ _ _ targetAlike).inside.weaken (fun _ => kept isTarget)))
  · refine .ifAtWord "in" (fun _ _ => ?_) (fun _ _ => (mirrors.readForRest _ _ _ alike).enter)
      (by decide) (by decide)
    exact .found sameTarget (fun target _ isTarget targetAlike =>
      ((mirrors.readForInRest _ _ _ targetAlike).inside.weaken (fun _ => kept isTarget)))

/-- The head of a loop; where `let` stands before a marker, the marker is declared. -/
theorem readForHead
    (mirrors : grammar.Mirrors marked)
    (context : Context)
    (start markedStart : Nat)
    (isAwait : Bool) :
    Reads .anywhere .node cursor markedCursor (grammar.readForHead context start isAwait)
      (marked.readForHead context markedStart isAwait) := by
  refine .lookSame (fun cursor markedCursor same => ?_) (fun cursor markedCursor atMarker => ?_)
  · refine .iteAt ";" (.require (fun _ => id) ?_) ?_ (by simp)
    · exact (mirrors.readForRest context start markedStart rfl).inside.weaken (fun _ => False.elim)
    refine ⟨fun _ => False.elim, fun _ => ?_, fun _ => trivial⟩
    by_cases follows : cursor.next.SameToken markedCursor.next ∨ markedCursor.isAtWord "let" = false
    · rw [isAtLoopDeclaration_eq same follows]
      split
      · exact ((mirrors.readVariables _ _).handOn (fun _ _ alike _ _ =>
          mirrors.readForDeclared _ _ _ _ alike)).same same
      · exact (mirrors.readForOther _ _ _ _ same).same same
    · rw [not_or, Bool.not_eq_false] at follows
      obtain ⟨noSame, isLet⟩ := follows
      have nextMarker := same.next.resolve_left noSame
      have isDeclaration : isAtLoopDeclaration markedCursor = true := by
        simp [isAtLoopDeclaration, isLet, nextMarker.token,
          nextMarker.marked_isAtWord (show "in" ≠ markerName by decide),
          nextMarker.marked_isAtWord (show "instanceof" ≠ markerName by decide)]
      rw [isDeclaration]
      intro _ _ ran
      obtain ⟨declaration, _, declared, restRan⟩ := run_bind_eq_some.mp ran
      rw [run_readVariables_let isLet] at declared
      have isLost := (mirrors.readDeclarators _ .part cursor.start _ .let).mark nextMarker declared
      have keeps : Carries .anywhere _ .node cursor markedCursor _ _ :=
        mirrors.readForDeclared context start markedStart isAwait
          ((View.opened (.opened .node)).refl declaration)
      exact .inl (keeps.keeps isLost restRan)
  · have noDeclaration : isAtLoopDeclaration markedCursor = false := by
      simp [isAtLoopDeclaration, atMarker.marked_isAtWord (show "var" ≠ markerName by decide),
        atMarker.marked_isAtWord (show "const" ≠ markerName by decide),
        atMarker.marked_isAtWord (show "let" ≠ markerName by decide)]
    rw [atMarker.marked_isAt, noDeclaration]
    have other : Reads .absorbing .node cursor markedCursor _ _ :=
      mirrors.readForOther context start markedStart isAwait (.refl markedCursor)
    exact fun _ _ ran => .inl (other.mark atMarker ran)

theorem readFor
    (mirrors : grammar.Mirrors marked)
    (context : Context)
    (start markedStart : Nat) :
    Reads .absorbing .node cursor markedCursor (grammar.readFor context start)
      (marked.readFor context markedStart) := by
  rw [readFor_eq, readFor_eq]
  exact .onAcceptWord "await"
    (fun _ _ => .require (fun _ => id) (.expect "(" (fun _ _ => mirrors.readForHead _ _ _ true)))
    (fun _ _ => .require (fun _ => id) (.expect "(" (fun _ _ => mirrors.readForHead _ _ _ false)))
      (by decide) (by decide)

theorem readWhile
    (mirrors : grammar.Mirrors marked)
    (context : Context)
    (start markedStart : Nat) :
    Reads .absorbing .node cursor markedCursor (grammar.readWhile context start)
      (marked.readWhile context markedStart) := by
  refine (mirrors.readCondition context).bind (fun condition _ conditionAlike _ _ => ?_)
  refine (mirrors.statement _ _ _ _).bindInner (fun body _ bodyAlike _ _ => ?_)
  exact .finishCompound (.cons conditionAlike (.cons bodyAlike .nil)) (by grind) rfl

theorem readDo
    (mirrors : grammar.Mirrors marked)
    (context : Context)
    (start markedStart : Nat) :
    Reads .absorbing .node cursor markedCursor (grammar.readDo context start)
      (marked.readDo context markedStart) := by
  refine (mirrors.statement _ _ _ _).bindInner (fun body _ bodyAlike _ _ => ?_)
  refine .expectWord "while" (fun _ _ => ?_) (by decide)
  refine (mirrors.readCondition context).enter.bind (fun condition _ conditionAlike _ _ => ?_)
  exact .onAccept ";"
    (fun _ _ => .finishCompound (.cons bodyAlike (.cons conditionAlike .nil)) (by grind) rfl)
    (fun _ _ => .finishCompound (.cons bodyAlike (.cons conditionAlike .nil)) (by grind) rfl)
      (by simp)

/-- The value of a case, which belongs to it even when it is just the marker. -/
theorem readCaseValue
    (mirrors : grammar.Mirrors marked)
    (context : Context) :
    Reads .absorbing (.inner .node) cursor markedCursor (grammar.readCaseValue context)
      (marked.readCaseValue context) :=
  .ifAcceptWord "default" (fun _ _ => .pure rfl (by grind))
    (fun _ _ =>
      .expectWord "case" (fun _ _ => (mirrors.readExpression context).inner.enter) (by decide))
      (by decide) (by decide)

theorem readCaseStatements_eq
    (grammar : Grammar)
    (context : Context) :
    grammar.readCaseStatements context =
      repeated ((Listing.plain endsCase (pure ())).step (grammar.statement context .listed))
        grammar.bound [] := by
  rfl

theorem readCaseStatements
    (mirrors : grammar.Mirrors marked)
    (context : Context) :
    Reads .anywhere .statements cursor markedCursor (grammar.readCaseStatements context)
      (marked.readCaseStatements context) := by
  rw [readCaseStatements_eq, readCaseStatements_eq]
  refine (Listing.plain_fits (fun same => ?_) (fun ahead => ?_)
    (.inside (.pure rfl (by grind)))).reads
    (mirrors.statement context .listed) (mirrors.marks.statement context .listed) mirrors.bound
    (fun _ => rfl)
  · rw [endsCase, endsCase, same.isAt_eq, same.isAtWord_eq, same.isAtWord_eq]
  · rw [endsCase, ahead.marked_isAt, ahead.marked_isAtWord (by decide),
      ahead.marked_isAtWord (by decide)]
    rfl

/-- A case; its statements are a list, but its value is none of them. -/
theorem readCase
    (mirrors : grammar.Mirrors marked)
    (context : Context) :
    Reads .absorbing .node cursor markedCursor (grammar.readCase context)
      (marked.readCase context) := by
  refine .position (fun _ _ => ?_)
  refine (mirrors.readCaseValue context).bind (fun value _ valueAlike _ _ => ?_)
  refine .expect ":" (fun _ _ => ?_)
  refine (mirrors.readCaseStatements context).bind (fun statements _ alike _ _ => ?_)
  refine .finish (Node.unmarkedAll_cons_congr valueAlike alike) (fun grade isLost => ?_)
  rcases isLost with (impossible | valueLost) | ⟨statement, member, isAstray⟩
  · exact impossible.elim
  · rcases Node.strays_deep_or_isJustMarker valueLost with isDeep | isJust
    · exact .inr ⟨rfl, _, List.mem_cons_self, isDeep⟩
    · exact .inl isJust
  · exact .inr ⟨rfl, statement, List.mem_cons_of_mem _ member, isAstray⟩

theorem readSwitch
    (mirrors : grammar.Mirrors marked)
    (context : Context)
    (start markedStart : Nat) :
    Reads .absorbing .node cursor markedCursor (grammar.readSwitch context start)
      (marked.readSwitch context markedStart) := by
  refine (mirrors.readCondition context).bind (fun value _ valueAlike _ _ => ?_)
  refine .expect "\x7b" (fun _ _ => ?_)
  refine Carries.bind (.untilSymbol "\x7d" mirrors.bound
    (fun _ _ => (mirrors.readCase context).enter)) (fun cases _ casesAlike _ _ => ?_)
  exact .finishCompound (.cons valueAlike casesAlike) (by grind) rfl

theorem readCatch
    (mirrors : grammar.Mirrors marked)
    (context : Context) :
    Reads .anywhere .node cursor markedCursor (grammar.readCatch context)
      (marked.readCatch context) := by
  refine .position (fun _ _ => .ifAcceptWord "catch" (fun _ _ => ?_)
    (fun _ _ => .pure rfl (by grind)) (by decide) (by decide))
  refine .ifAt "(" (fun _ _ => ?_) (fun _ _ => ?_) (by simp)
  · refine (Carries.inParentheses (mirrors.pattern context)).enter.bind
      (fun pattern _ patternAlike _ _ => ?_)
    refine (mirrors.readBlock context .part).enter.bind (fun block _ blockAlike _ _ => ?_)
    exact .finishCompound (.cons patternAlike (.cons blockAlike .nil)) (by grind) rfl
  · simp only [pure_bind]
    refine (mirrors.readBlock context .part).enter.bind (fun block _ blockAlike _ _ => ?_)
    exact .finishCompound (.cons rfl (.cons blockAlike .nil)) (by grind) rfl

theorem readTry
    (mirrors : grammar.Mirrors marked)
    (context : Context)
    (start markedStart : Nat) :
    Reads .absorbing .node cursor markedCursor (grammar.readTry context start)
      (marked.readTry context markedStart) := by
  refine (mirrors.readBlock context .part).bind (fun block _ blockAlike _ _ => ?_)
  refine (mirrors.readCatch context).bind (fun clause markedClause clauseAlike _ _ => ?_)
  have sameAbsent {last markedLast : Node} (lastAlike : last.unmarked = markedLast.unmarked) :
      (!(clause.isAbsent && last.isAbsent)) = !(markedClause.isAbsent && markedLast.isAbsent) := by
    simp only [Node.isAbsent, form_eq clauseAlike, form_eq lastAlike]
  refine .ifAcceptWord "finally" (fun _ _ => ?_) (fun _ _ => ?_) (by decide) (by decide)
  · refine (mirrors.readBlock context .part).enter.bind (fun last _ lastAlike _ _ => ?_)
    refine .require (fun _ isThere => by rwa [sameAbsent lastAlike]) ?_
    exact .finishCompound (.cons blockAlike (.cons clauseAlike (.cons lastAlike .nil)))
      (by grind) rfl
  · simp only [pure_bind]
    refine .require (fun _ isThere => by rwa [sameAbsent rfl]) ?_
    exact .finishCompound (.cons blockAlike (.cons clauseAlike (.cons rfl .nil))) (by grind) rfl

theorem endsHere_eq
    (paired : cursor.Paired markedCursor) :
    endsHere cursor = endsHere markedCursor := by
  rcases paired with same | atMarker
  · rw [endsHere, endsHere, same.isAt_eq, same.isAt_eq, same.isAtEnd_eq]
    rcases same.newLine with atEnd | newLine
    · simp [Cursor.isAtEnd, ← same.token, atEnd]
    · rw [newLine]
  · simp [endsHere, atMarker.newLine, atMarker.markedNewLine]

/-- A choice by whether the statement ends here, as it does before a marker. -/
theorem ifEndsHere
    {lost : Grade → Prop}
    {read markedRead second markedSecond : Reader Node}
    (yes : ∀ stop markedStop, Carries .anywhere lost .node stop markedStop read markedRead)
    (no : ∀ stop markedStop, Carries .inside lost .node stop markedStop second markedSecond) :
    Carries .anywhere lost .node cursor markedCursor
      (Reader.cursor >>= fun current => if endsHere current then read else second)
      (Reader.cursor >>= fun current => if endsHere current then markedRead else markedSecond) := by
  refine .lookSame (fun cursor markedCursor same => ?_) (fun cursor markedCursor atMarker => ?_)
  · rw [endsHere_eq (.inl same)]
    split
    · exact (yes _ _).inside
    · exact no _ _
  · have ends : endsHere markedCursor = true := by simp [endsHere, atMarker.markedNewLine]
    rw [endsHere_eq (.inr atMarker), ends]
    exact (yes _ _).mark atMarker

theorem readReturn
    (mirrors : grammar.Mirrors marked)
    (context : Context)
    (start markedStart : Nat) :
    Reads .anywhere .node cursor markedCursor (grammar.readReturn context start)
      (marked.readReturn context markedStart) := by
  refine .require (fun _ => id) (ifEndsHere (fun _ _ => ?_) (fun _ _ => ?_))
  · simp only [pure_bind]
    exact .semicolon (fun _ _ => .leaf)
  · refine (mirrors.readExpression _).bindInner (fun value _ alike _ _ => ?_)
    simp only [pure_bind]
    exact .semicolon (fun _ _ => .finishCompound (.cons alike .nil) (by grind) rfl)

theorem readThrow
    (mirrors : grammar.Mirrors marked)
    (context : Context)
    (start markedStart : Nat) :
    Reads .absorbing .node cursor markedCursor (grammar.readThrow context start)
      (marked.readThrow context markedStart) := by
  refine .sameLine (fun atEnd isEnd => ?_) (fun _ _ => ?_)
  · rw [StateT.run_bind, run_readExpression_of_finish isEnd]
    rfl
  · exact (mirrors.readExpression _).bindInner (fun value _ alike _ _ =>
      .semicolon (fun _ _ => .finishCompound (.cons alike .nil) (by grind) rfl))

/-- The label of a jump may be the marker, if it stands in the same line. -/
theorem readJump
    {form : Option String → Form}
    (strays : ∀ grade, (form (some markerName)).strays grade [])
    (context : Context)
    (start markedStart : Nat) :
    Reads .anywhere .node cursor markedCursor (readJump context start form)
      (readJump context markedStart form) := by
  refine ifEndsHere (fun _ _ => ?_) (fun _ _ => ?_)
  · simp only [pure_bind]
    exact .semicolon (fun _ _ => .leaf)
  · refine (Carries.name? context).bindInner (fun label markedLabel alike _ _ => ?_)
    obtain rfl : label = markedLabel := by
      cases alike with
      | none => rfl
      | some same => rw [same]
    refine .semicolon (fun _ _ => .finish rfl (fun grade isLost => .inl ?_))
    obtain ⟨_, rfl, _, rfl⟩ := isLost.resolve_left id
    exact strays grade

/-- An operator behind `let` is there in both twins. -/
theorem isAtLetOperator_eq
    (paired : cursor.Paired markedCursor)
    (context : Context) :
    isAtLetOperator cursor context = isAtLetOperator markedCursor context := by
  rcases paired with same | atMarker
  · simp only [isAtLetOperator, connective?_eq same.token, assignmentOperator?_eq same.token]
  · simp only [isAtLetOperator, connective?_of_endsOperand atMarker.endsOperand,
      connective?_of_endsOperand atMarker.marked_endsOperand,
      assignmentOperator?_of_endsOperand atMarker.endsOperand,
      assignmentOperator?_of_endsOperand atMarker.marked_endsOperand]

/-- A symbol that starts nothing new is there in both twins. -/
theorem isAt_eq
    (paired : cursor.Paired markedCursor)
    {symbol : String}
    (isOther : symbol ≠ "\x7d") :
    cursor.isAt symbol = markedCursor.isAt symbol := by
  rcases paired with same | atMarker
  · exact same.isAt_eq symbol
  · rw [atMarker.isAt isOther, atMarker.marked_isAt]

theorem isAtAny_eq
    (paired : cursor.Paired markedCursor)
    {symbols : List String}
    (areOther : "\x7d" ∉ symbols) :
    cursor.isAtAny symbols = markedCursor.isAtAny symbols := by
  rcases paired with same | atMarker
  · exact same.isAtAny_eq symbols
  · rw [atMarker.isAtAny areOther, atMarker.marked_isAtAny]

/-- What follows `let` tells what it starts. -/
theorem readLetStatement
    (mirrors : grammar.Mirrors marked)
    (context : Context)
    (placement : Placement) :
    Reads .inside .node cursor markedCursor (grammar.readLetStatement context placement)
      (marked.readLetStatement context placement) := by
  refine .lookHere (fun same => ?_)
  dsimp only
  rw [isAtLetOperator_eq same.next, isAtAny_eq same.next (by decide), isAt_eq same.next (by decide),
    isAt_eq same.next (by decide)]
  split
  · exact (mirrors.readAssignment _).inside.handOn
      (fun _ _ alike _ _ => readExpressionEnd _ _ alike)
  · split
    · exact (mirrors.readExpression _).inside.handOn
        (fun _ _ alike _ _ => finishExpression _ _ alike)
    · split
      · refine (Carries.name _).inside.bind ?_
        rintro name _ rfl _ _
        refine .finished (fun _ _ => (readExpressionEnd _ _ ?_).weaken (fun grade isLost => ?_))
        · rw [Node.unmarked_mk, Node.unmarked_mk]
        obtain ⟨rfl, rfl⟩ := isLost.resolve_left id
        rfl
      · exact .require (fun _ => id) (mirrors.readDeclaration _ _).inside

/-- An expression, or a name that labels a statement. -/
theorem readLabeledOrExpression
    (mirrors : grammar.Mirrors marked)
    (context : Context) :
    Reads .opening .node cursor markedCursor (grammar.readLabeledOrExpression context)
      (marked.readLabeledOrExpression context) := by
  refine .position (fun _ _ => ?_)
  refine (mirrors.readExpression context).handOn (fun value markedValue alike _ _ => ?_)
  have sameName : value.name? = markedValue.name? := by
    rw [← Node.name?_unmarked, alike, Node.name?_unmarked]
  rw [sameName]
  split
  · next label isName =>
      refine .ifAccept ":" (fun _ _ => ?_) (fun _ _ => readExpressionEnd _ _ alike) (by simp)
      refine (mirrors.statement _ _ _ _).bindInner (fun body _ bodyAlike _ _ => ?_)
      refine .finishCompound (.cons bodyAlike .nil) (fun grade isLost => ?_) rfl
      rcases isLost with isLost | isLost
      · exact .inl (beq_iff_eq.mpr (Node.eq_markerName_of_strays isName isLost))
      · exact .inr ⟨_, List.mem_cons_self, isLost⟩
  · exact readExpressionEnd _ _ alike

end Mirrors

/-- The words that start a statement in a way of their own. -/
def statementWords : List String :=
  ["var", "const", "let", "if", "for", "while", "do", "switch", "try", "throw", "return", "break",
    "continue", "debugger", "function", "class", "export", "import", "async"]

/-- A statement that starts with any other word is an expression or labeled. -/
theorem run_readStatement_of_name
    {grammar : Grammar}
    {context : Context}
    {placement : Placement}
    {cursor : Cursor}
    {word : String}
    (isWord : cursor.token = .word word false)
    (isOther : word ∉ statementWords) :
    (grammar.readStatement context placement).run cursor =
      (grammar.readLabeledOrExpression context).run cursor := by
  simp only [readStatement, StateT.run_bind, run_cursor, Option.bind_eq_bind, Option.bind_some,
    isWord]
  simp only [readWordStatement, StateT.run_bind, run_cursor, Option.bind_eq_bind, Option.bind_some]
  split
  iterate 18
    next => exact (isOther (by decide)).elim
  have noAsync : (word == "async") = false := by
    rw [beq_eq_false_iff_ne]
    rintro rfl
    exact isOther (by decide)
  rw [noAsync]
  rfl

/-- A mark is read as a statement with its semicolon. -/
theorem readStatement_mark
    {grammar : Grammar}
    {context : Context}
    {placement : Placement}
    {cursor stop : Cursor}
    {value : Node}
    (atMark : cursor.AtMark)
    (ran : (grammar.readStatement context placement).run cursor = some (value, stop)) :
    value.isMark ∧ stop = cursor.next.next := by
  rw [run_readStatement_of_name atMark.token (by decide), readLabeledOrExpression,
    run_bind_eq_some] at ran
  obtain ⟨_, _, started, afterStart⟩ := ran
  cases started
  obtain ⟨first, _, firstRan, afterFirst⟩ := run_bind_eq_some.mp afterStart
  obtain ⟨rfl, rfl⟩ := readExpression_mark atMark firstRan
  have isName : (markNode cursor).name? = some markerName := rfl
  have noColon : cursor.next.isAt ":" = false := by simp [Cursor.isAt, atMark.ends]
  have ends : cursor.next.isAt ";" = true := by simp [Cursor.isAt, atMark.ends]
  have made : Node.mk .expressionStatement .statement
      ⟨cursor.start, cursor.next.next.previousStop⟩ [markNode cursor] = value ∧
        cursor.next.next = stop := by
    simpa [isName, accept, Reader.isAt, readExpressionEnd, semicolon, StateT.run_bind, noColon,
      ends, finish, Reader.spanFrom] using afterFirst
  obtain ⟨rfl, rfl⟩ := made
  exact ⟨rfl, rfl⟩

namespace Mirrors

variable
  {grammar marked : Grammar}
  {cursor markedCursor : Cursor}

/-- A statement that starts with a word, the same in both twins. -/
theorem readWordStatement
    (mirrors : grammar.Mirrors marked)
    (context : Context)
    (placement : Placement)
    (word : String) :
    Reads .inside .node cursor markedCursor (grammar.readWordStatement context placement word)
      (marked.readWordStatement context placement word) := by
  refine .lookHere (fun same => ?_)
  dsimp only
  split
  · exact (mirrors.readDeclaration _ _).inside
  · exact .require (fun _ => id) (mirrors.readDeclaration _ _).inside
  · exact mirrors.readLetStatement _ _
  · exact .advance (fun _ _ => (mirrors.readIf _ _ _).enter)
  · exact .advance (fun _ _ => (mirrors.readFor _ _ _).enter)
  · exact .advance (fun _ _ => (mirrors.readWhile _ _ _).enter)
  · exact .advance (fun _ _ => (mirrors.readDo _ _ _).enter)
  · exact .advance (fun _ _ => (mirrors.readSwitch _ _ _).enter)
  · exact .advance (fun _ _ => (mirrors.readTry _ _ _).enter)
  · exact .advance (fun _ _ => (mirrors.readThrow _ _ _).enter)
  · exact .advance (fun _ _ => mirrors.readReturn _ _ _)
  · exact .advance (fun _ _ => readJump (fun _ => rfl) _ _ _)
  · exact .advance (fun _ _ => readJump (fun _ => rfl) _ _ _)
  · exact .advance (fun _ _ => .semicolon (fun _ _ => .leaf))
  · exact (mirrors.readFunctionStatement _ _).inside
  · exact .require (fun _ => id) (mirrors.readClass _ _ _).inside
  · exact (mirrors.readExport _).inside
  · rw [isAtAny_eq same.next (by decide)]
    split
    · exact (mirrors.readLabeledOrExpression _).inside
    · exact (readImport mirrors.bound _).inside
  · rw [Bool.and_assoc, Bool.and_assoc, isFunctionInLine_eq same.next]
    split
    · exact (mirrors.readFunctionStatement _ _).inside
    · exact (mirrors.readLabeledOrExpression _).inside

/-- A statement; a marker would be the name that it starts with. -/
theorem readStatement
    (mirrors : grammar.Mirrors marked)
    (context : Context)
    (placement : Placement) :
    Reads .opening .node cursor markedCursor (grammar.readStatement context placement)
      (marked.readStatement context placement) := by
  refine .lookSame (fun cursor markedCursor same => ?_) (fun cursor markedCursor atMarker => ?_)
  · rw [same.token]
    split
    · exact (mirrors.readBlock _ _).inside
    · exact .advance (fun _ _ => .leaf)
    · exact mirrors.readWordStatement _ _ _
    · exact (mirrors.readLabeledOrExpression _).inside
  · have demanded := (mirrors.readLabeledOrExpression context).mark atMarker
    intro _ _ ran
    have isRun : (marked.readStatement context placement).run markedCursor = _ := ran
    rw [run_readStatement_of_name atMarker.token (by decide)] at isRun
    exact demanded isRun

end Mirrors

end Grammar

end Reactivity.Script
