import Reactivity.Proofs.Script.Twin.Pattern
import Reactivity.Script.Grammar.Function

namespace Reactivity.Script

open Refresh Reader

/-!
# Lists of statements of twins

A list of statements is where a mark may stand. There the twin reads one statement more
than the text, and the text waits for it.
-/

/-- How a list of statements is read: where it ends, and what is made of the statements. -/
structure Listing (state result : Type) where
  ends : Cursor → Bool
  leave : Reader Unit
  push : Cursor → Node → state → state
  out : state → result

namespace Listing

variable
  {state result : Type}

/-- Read one more statement, or the end of the list. -/
def step
    (listing : Listing state result)
    (read : Reader Node)
    (reached : state) :
    Reader (state ⊕ result) := do
  let current ← cursor
  if listing.ends current then
    listing.leave
    return .inr (listing.out reached)
  else
    return .inl (listing.push current (← read) reached)

/--
What is asked of a way to read a list.

States are related at a cursor of the text. A mark makes no difference to the twin, and
what is astray in one of the statements is astray in the result.
-/
structure Fits
    (listing : Listing state result)
    (results : View result)
    (related : Cursor → state → state → Prop)
    (soiled : state → Prop) :
    Prop where
  ends : ∀ {cursor marked : Cursor}, cursor.SameToken marked →
    listing.ends cursor = listing.ends marked
  goesOn : ∀ {cursor marked : Cursor}, cursor.MarkerAhead marked → listing.ends marked = false
  leave : ∀ {cursor marked : Cursor},
    Reads .inside (.plain Unit) cursor marked listing.leave listing.leave
  skip : ∀ {cursor marked : Cursor} {reached markedReached : state} {mark : Node},
    cursor.MarkerAhead marked → related cursor reached markedReached → mark.isMark →
      related cursor reached (listing.push marked mark markedReached)
  push : ∀ {cursor marked : Cursor} {reached markedReached : state} {node markedNode : Node},
    cursor.SameToken marked → related cursor reached markedReached →
      node.unmarked = markedNode.unmarked → ∀ stop,
        related stop (listing.push cursor node reached)
          (listing.push marked markedNode markedReached)
  out : ∀ {cursor : Cursor} {reached markedReached : state},
    related cursor reached markedReached →
      results.alike (listing.out reached) (listing.out markedReached)
  soils : ∀ {cursor : Cursor} {node : Node} (reached : state), node.strays .deep →
    soiled (listing.push cursor node reached)
  keeps : ∀ {cursor : Cursor} {node : Node} {reached : state}, soiled reached →
    soiled (listing.push cursor node reached)
  shows : ∀ {reached : state}, soiled reached → results.soiled .deep (listing.out reached)

variable
  {listing : Listing state result}
  {results : View result}
  {related : Cursor → state → state → Prop}
  {soiled : state → Prop}
  {read markedRead : Reader Node}
  {cursor marked : Cursor}

theorem run_step
    (reached : state)
    (start : Cursor) :
    (listing.step read reached).run start =
      if listing.ends start then
        (listing.leave.run start).map (fun left => (.inr (listing.out reached), left.2))
      else
        (read.run start).map (fun left => (.inl (listing.push start left.1 reached), left.2)) := by
  simp only [step, StateT.run_bind, run_cursor, Option.bind_eq_bind, Option.bind_some]
  split
  · rw [StateT.run_bind]
    cases listing.leave.run start <;> rfl
  · rw [StateT.run_bind]
    cases read.run start <;> rfl

/-- What is astray in a statement is astray in the list. -/
theorem Fits.yields
    (fits : listing.Fits results related soiled)
    (bound : Nat)
    {reached : state}
    (isSoiled : soiled reached) :
    (repeated (listing.step read) bound reached).Yields (results.soiled .deep) := by
  refine Yields.repeated soiled _ (fun reached isSoiled => ?_) bound isSoiled
  refine .after (fun current => ?_)
  split
  · exact .after (fun _ => .pure (fits.shows isSoiled))
  · exact .after (fun _ => .pure (fits.keeps isSoiled))

/-- The text follows the twin through a list of statements, and waits where the twin has a mark. -/
theorem Fits.follows
    (fits : listing.Fits results related soiled)
    (reads : ∀ stop markedStop, Reads .opening .node stop markedStop read markedRead)
    (marks : ∀ cursor, cursor.AtMark → ∀ value stop,
      markedRead.run cursor = some (value, stop) → value.isMark ∧ stop = cursor.next.next)
    {bound markedBound : Nat}
    (enough : markedBound ≤ bound)
    {reached markedReached : state}
    (isRelated : related cursor reached markedReached)
    (beside : cursor.SameToken marked ∨ cursor.MarkerAhead marked) :
    Follows results ((repeated (listing.step read) bound reached).run cursor)
      ((repeated (listing.step markedRead) markedBound markedReached).run marked) := by
  induction markedBound generalizing bound reached markedReached cursor marked with
  | zero =>
      intro _ _ ran
      cases ran
  | succ markedBound inductionHypothesis =>
      intro final finalStop ran
      obtain ⟨returned, between, stepRan, restRan⟩ := run_bind_eq_some.mp ran
      rw [run_step] at stepRan
      rcases beside with same | ahead
      · obtain ⟨bound, rfl⟩ : ∃ fewer, bound = fewer + 1 := ⟨bound - 1, by omega⟩
        have textRun : (listing.step read reached).run cursor = _ := run_step reached cursor
        rw [fits.ends same] at textRun
        split at stepRan
        next ends =>
          rw [if_pos ends] at textRun
          obtain ⟨⟨_, left⟩, leftRan, made⟩ := Option.map_eq_some_iff.mp stepRan
          cases made
          cases restRan
          rcases fits.leave.same same leftRan with impossible | ⟨_, stop, textLeft, _, paired⟩
          · cases impossible
          · rw [textLeft] at textRun
            exact .inr ⟨_, stop, run_bind_eq_some.mpr ⟨_, stop, textRun, rfl⟩,
              fits.out isRelated, paired⟩
        next isMore =>
          rw [if_neg isMore] at textRun
          obtain ⟨⟨markedNode, left⟩, leftRan, made⟩ := Option.map_eq_some_iff.mp stepRan
          cases made
          rcases (reads cursor marked).same same leftRan with
            isAstray | ⟨node, stop, isRead, alike, paired⟩
          · exact .inl (fits.yields markedBound (fits.soils markedReached isAstray) restRan)
          · rw [isRead] at textRun
            have rest := inductionHypothesis (by omega : markedBound ≤ bound)
              (fits.push same isRelated alike stop) (paired.imp_right (·.toMarkerAhead)) restRan
            refine rest.imp_right ?_
            rintro ⟨last, lastStop, lastRan, lastAlike, lastPaired⟩
            exact ⟨last, lastStop, run_bind_eq_some.mpr ⟨_, stop, textRun, lastRan⟩, lastAlike,
              lastPaired⟩
      · rw [fits.goesOn ahead, if_neg (by decide)] at stepRan
        obtain ⟨⟨mark, left⟩, leftRan, made⟩ := Option.map_eq_some_iff.mp stepRan
        cases made
        obtain ⟨isMark, rfl⟩ := marks marked ahead.atMark mark _ leftRan
        exact inductionHypothesis (by omega) (fits.skip ahead isRelated isMark)
          (ahead.paired.imp_right (·.toMarkerAhead)) restRan

theorem Fits.reads
    (fits : listing.Fits results related soiled)
    (reads : ∀ stop markedStop, Reads .opening .node stop markedStop read markedRead)
    (marks : ∀ cursor, cursor.AtMark → ∀ value stop,
      markedRead.run cursor = some (value, stop) → value.isMark ∧ stop = cursor.next.next)
    {bound markedBound : Nat}
    (enough : markedBound ≤ bound)
    {first : state}
    (isRelated : ∀ cursor, related cursor first first) :
    Reads .anywhere results cursor marked (repeated (listing.step read) bound first)
      (repeated (listing.step markedRead) markedBound first) :=
  ⟨fun _ => False.elim,
    fun same => fits.follows reads marks enough (isRelated cursor) (.inl same),
    fun atMarker =>
      fits.follows reads marks enough (isRelated cursor) (.inr atMarker.toMarkerAhead)⟩

/-- A list of statements up to a token, one after the other. -/
def plain
    (ends : Cursor → Bool)
    (leave : Reader Unit) :
    Listing (List Node) (List Node) where
  ends := ends
  leave := leave
  push _ node nodes := node :: nodes
  out := List.reverse

end Listing

theorem Node.unmarkedAll_reverse
    (lists : Bool)
    (nodes : List Node) :
    unmarkedAll lists nodes.reverse = (unmarkedAll lists nodes).reverse := by
  rw [unmarkedAll_eq, unmarkedAll_eq, List.filter_reverse, List.map_reverse]

/-- A node and its twin make no difference to the statements behind them. -/
theorem Node.unmarkedAll_cons_congr
    {node marked : Node}
    {nodes markedNodes : List Node}
    (alike : node.unmarked = marked.unmarked)
    (rest : unmarkedAll true nodes = unmarkedAll true markedNodes) :
    unmarkedAll true (node :: nodes) = unmarkedAll true (marked :: markedNodes) := by
  rw [unmarkedAll, unmarkedAll, ← isMark_unmarked node, alike, isMark_unmarked, rest]

/-- A mark is no statement of a list without marks. -/
theorem Node.unmarkedAll_mark
    {mark : Node}
    (isMark : mark.isMark)
    (nodes : List Node) :
    unmarkedAll true (mark :: nodes) = unmarkedAll true nodes := by
  rw [unmarkedAll, isMark]
  rfl

namespace Listing

theorem plain_fits
    {ends : Cursor → Bool}
    {leave : Reader Unit}
    (sameEnd : ∀ {cursor marked : Cursor}, cursor.SameToken marked → ends cursor = ends marked)
    (goesOn : ∀ {cursor marked : Cursor}, cursor.MarkerAhead marked → ends marked = false)
    (leaves : ∀ {cursor marked : Cursor}, Reads .inside (.plain Unit) cursor marked leave leave) :
    (plain ends leave).Fits .statements
      (fun _ nodes marked => Node.unmarkedAll true nodes = Node.unmarkedAll true marked)
      (fun nodes => ∃ node ∈ nodes, node.strays .deep) where
  ends := sameEnd
  goesOn := goesOn
  leave := leaves
  skip _ isRelated isMark := isRelated.trans (Node.unmarkedAll_mark isMark _).symm
  push _ isRelated alike _ := Node.unmarkedAll_cons_congr alike isRelated
  out isRelated := by
    show Node.unmarkedAll true _ = Node.unmarkedAll true _
    rw [plain, Node.unmarkedAll_reverse, Node.unmarkedAll_reverse, isRelated]
  soils _ isAstray := ⟨_, List.mem_cons_self, isAstray⟩
  keeps := fun ⟨node, member, isAstray⟩ => ⟨node, List.mem_cons_of_mem _ member, isAstray⟩
  shows := fun ⟨node, member, isAstray⟩ => ⟨node, List.mem_reverse.mpr member, isAstray⟩

/-- One more statement behind directives, or one more directive. -/
def pushStatement
    (current : Cursor)
    (statement : Node)
    (reached : List String × List Node) :
    List String × List Node :=
  match reached.2, Grammar.directive? current statement with
  | [], some directive => (directive :: reached.1, [])
  | _, _ => (reached.1, statement :: reached.2)

/-- A list of statements behind directives. -/
def script
    (ends : Cursor → Bool) :
    Listing (List String × List Node) (List String × List Node) where
  ends := ends
  leave := pure ()
  push := pushStatement
  out reached := (reached.1.reverse, reached.2.reverse)

end Listing

namespace Grammar

/-- A statement that starts with no string is no directive. -/
theorem directive?_of_token
    {cursor : Cursor}
    (noString : ∀ value raw, cursor.token ≠ .string value raw)
    (statement : Node) :
    directive? cursor statement = none := by
  unfold directive?
  split
  · split
    · next isString => exact (noString _ _ isString).elim
    · rfl
  · rfl

/-- A directive is a string alone, in which nothing is astray. -/
theorem strays_of_directive?
    {cursor : Cursor}
    {statement : Node}
    {directive : String}
    (isDirective : directive? cursor statement = some directive)
    (grade : Grade) :
    statement.strays grade = false := by
  unfold directive? at isDirective
  split at isDirective
  · rfl
  · cases isDirective

theorem directive?_unmarked
    (cursor : Cursor)
    (statement : Node) :
    directive? cursor statement.unmarked = directive? cursor statement := by
  obtain ⟨form, role, span, children⟩ := statement
  cases form
  case expressionStatement =>
      rw [Node.unmarked_mk]
      rcases children with _ | ⟨⟨form, valueRole, valueSpan, below⟩, _ | ⟨other, rest⟩⟩
      · rfl
      · cases form <;> simp [Form.listsStatements, Node.unmarked_mk, directive?]
      · cases form <;> simp [Form.listsStatements, Node.unmarked_mk, directive?]
  all_goals
    rw [Node.unmarked_mk]
    rfl

/-- Statements that start with the same token and are the same without marks. -/
theorem directive?_eq
    {cursor marked : Cursor}
    {statement markedStatement : Node}
    (same : cursor.token = marked.token)
    (alike : statement.unmarked = markedStatement.unmarked) :
    directive? cursor statement = directive? marked markedStatement := by
  rw [← directive?_unmarked, alike, directive?_unmarked]
  unfold directive?
  rw [same]

end Grammar

/-- A list of statements behind directives, which are the same. -/
def View.script :
    View (List String × List Node) where
  soiled _ listed := ∃ node ∈ listed.2, node.strays .deep
  alike listed marked :=
    listed.1 = marked.1 ∧ Node.unmarkedAll true listed.2 = Node.unmarkedAll true marked.2
  refl _ := ⟨rfl, rfl⟩
  bare := id

/--
Directives and statements that have been read so far.

When the twin has left the directives behind because of a mark, the text has done so too or
will do so, because the token behind the mark is no string.
-/
structure Listing.SameScript
    (cursor : Cursor)
    (reached marked : List String × List Node) :
    Prop where
  directives : reached.1 = marked.1
  statements : Node.unmarkedAll true reached.2 = Node.unmarkedAll true marked.2
  empty : marked.2 = [] → reached.2 = []
  later : reached.2 = [] → marked.2 = [] ∨ ∀ value raw, cursor.token ≠ .string value raw

namespace Listing

variable
  {ends : Cursor → Bool}

/-- A statement that is no directive, or comes behind other ones, is listed. -/
theorem pushStatement_eq
    {cursor : Cursor}
    {statement : Node}
    {reached : List String × List Node}
    (noDirective : reached.2 ≠ [] ∨ Grammar.directive? cursor statement = none) :
    pushStatement cursor statement reached = (reached.1, statement :: reached.2) := by
  unfold pushStatement
  split
  · next isEmpty isDirective =>
      rcases noDirective with more | isNone
      · exact (more isEmpty).elim
      · rw [isNone] at isDirective
        cases isDirective
  · rfl

theorem pushStatement_directive
    {cursor : Cursor}
    {statement : Node}
    {reached : List String × List Node}
    {directive : String}
    (isEmpty : reached.2 = [])
    (isDirective : Grammar.directive? cursor statement = some directive) :
    pushStatement cursor statement reached = (directive :: reached.1, []) := by
  unfold pushStatement
  rw [isEmpty, isDirective]

/-- A mark is no directive, and the text does not wait at a string. -/
theorem SameScript.skip
    {cursor marked : Cursor}
    {reached markedReached : List String × List Node}
    {mark : Node}
    (same : SameScript cursor reached markedReached)
    (ahead : cursor.MarkerAhead marked)
    (isMark : mark.isMark) :
    SameScript cursor reached (pushStatement marked mark markedReached) := by
  have noDirective : Grammar.directive? marked mark = none := by
    refine Grammar.directive?_of_token (fun value raw isString => ?_) mark
    rw [ahead.token] at isString
    cases isString
  rw [pushStatement_eq (.inr noDirective)]
  refine ⟨same.directives, same.statements.trans (Node.unmarkedAll_mark isMark _).symm,
    fun isEmpty => (by cases isEmpty), fun _ => .inr (fun value raw isString => ?_)⟩
  have anew := ahead.anew
  rw [isString] at anew
  cases anew

theorem SameScript.push
    {cursor marked : Cursor}
    {reached markedReached : List String × List Node}
    {statement markedStatement : Node}
    (sameScript : SameScript cursor reached markedReached)
    (same : cursor.SameToken marked)
    (alike : statement.unmarked = markedStatement.unmarked)
    (stop : Cursor) :
    SameScript stop (pushStatement cursor statement reached)
      (pushStatement marked markedStatement markedReached) := by
  have sameDirective := Grammar.directive?_eq same.token alike
  have listed (noDirective : reached.2 ≠ [] ∨ Grammar.directive? cursor statement = none) :
      SameScript stop (pushStatement cursor statement reached)
        (pushStatement marked markedStatement markedReached) := by
    rw [pushStatement_eq noDirective,
      pushStatement_eq (noDirective.imp (fun more isEmpty => more (sameScript.empty isEmpty))
        (fun isNone => sameDirective ▸ isNone))]
    exact ⟨sameScript.directives, Node.unmarkedAll_cons_congr alike sameScript.statements,
      fun isEmpty => (by cases isEmpty), fun isEmpty => (by cases isEmpty)⟩
  by_cases isEmpty : reached.2 = []
  · cases isDirective : Grammar.directive? cursor statement with
    | none => exact listed (.inr isDirective)
    | some directive =>
        rcases sameScript.later isEmpty with markedEmpty | noString
        · rw [pushStatement_directive isEmpty isDirective,
            pushStatement_directive markedEmpty (sameDirective ▸ isDirective),
            sameScript.directives]
          exact ⟨rfl, rfl, id, fun _ => .inl rfl⟩
        · rw [Grammar.directive?_of_token noString] at isDirective
          cases isDirective
  · exact listed (.inl isEmpty)

theorem script_fits
    (sameEnd : ∀ {cursor marked : Cursor}, cursor.SameToken marked → ends cursor = ends marked)
    (goesOn : ∀ {cursor marked : Cursor}, cursor.MarkerAhead marked → ends marked = false) :
    (script ends).Fits .script SameScript
      (fun reached => ∃ node ∈ reached.2, node.strays .deep) where
  ends := sameEnd
  goesOn := goesOn
  leave := Carries.inside (.pure rfl (by grind))
  skip ahead same isMark := same.skip ahead isMark
  push same sameScript alike stop := sameScript.push same alike stop
  out same := by
    refine ⟨congrArg List.reverse same.directives, ?_⟩
    simp only [script, Node.unmarkedAll_reverse, same.statements]
  soils {cursor node} reached isAstray := by
    refine ⟨node, ?_, isAstray⟩
    have noDirective : Grammar.directive? cursor node = none := by
      cases isDirective : Grammar.directive? cursor node with
      | none => rfl
      | some directive =>
          rw [Grammar.strays_of_directive? isDirective] at isAstray
          cases isAstray
    simp only [script, pushStatement_eq (.inr noDirective)]
    exact List.mem_cons_self
  keeps {cursor node reached} := by
    rintro ⟨statement, member, isAstray⟩
    refine ⟨statement, ?_, isAstray⟩
    simp only [script, pushStatement_eq (.inl (List.ne_nil_of_mem member))]
    exact List.mem_cons_of_mem _ member
  shows := fun ⟨statement, member, isAstray⟩ => ⟨statement, List.mem_reverse.mpr member, isAstray⟩

end Listing

namespace Grammar

theorem readStatements_eq
    (bound : Nat)
    (ends : Cursor → Bool)
    (read : Reader Node) :
    readStatements bound ends read = repeated ((Listing.script ends).step read) bound ([], []) := by
  unfold readStatements
  congr 1
  funext ⟨directives, statements⟩
  refine bind_congr (fun current => ?_)
  by_cases isEnd : ends current = true
  · rw [if_pos isEnd, Listing.script, if_pos isEnd]
    rfl
  · rw [if_neg isEnd, Listing.script, if_neg isEnd]
    refine bind_congr (fun statement => ?_)
    cases statements with
    | nil =>
        simp only [Listing.pushStatement]
        cases directive? current statement <;> rfl
    | cons => rfl

end Grammar

/-- Statements up to a closing brace are a plain list. -/
theorem untilSymbol_eq
    (bound : Nat)
    (close : String)
    (read : Reader Node) :
    untilSymbol bound close read =
      repeated ((Listing.plain (Cursor.isAt · close) advance).step read) bound [] := by
  unfold untilSymbol
  congr 1
  funext nodes
  simp only [Listing.step, untilStep, accept, isAt, bind_assoc, pure_bind]
  refine bind_congr (fun current => ?_)
  by_cases isThere : current.isAt close = true
  · rw [if_pos isThere]
    exact (if_pos isThere).symm
  · rw [if_neg isThere]
    exact (if_neg isThere).symm

namespace Grammar.Mirrors

variable
  {grammar marked : Grammar}
  {cursor markedCursor : Cursor}

/-- Statements up to a closing brace. -/
theorem readListed
    (mirrors : grammar.Mirrors marked)
    (context : Context) :
    Reads .anywhere .statements cursor markedCursor
      (untilSymbol grammar.bound "\x7d" (grammar.statement context .listed))
      (untilSymbol marked.bound "\x7d" (marked.statement context .listed)) := by
  rw [untilSymbol_eq, untilSymbol_eq]
  refine (Listing.plain_fits (fun same => same.isAt_eq _)
    (fun ahead => ahead.marked_isAt _) ?_).reads
    (mirrors.statement context .listed) (mirrors.marks.statement context .listed) mirrors.bound
    (fun _ => rfl)
  intro cursor marked
  rw [← bind_pure advance]
  exact .advance (fun _ _ => .pure rfl (by grind))

/-- Directives and statements. -/
theorem readStatements
    (mirrors : grammar.Mirrors marked)
    (context : Context)
    {ends : Cursor → Bool}
    (sameEnd : ∀ {cursor marked : Cursor}, cursor.SameToken marked → ends cursor = ends marked)
    (goesOn : ∀ {cursor marked : Cursor}, cursor.MarkerAhead marked → ends marked = false)
    (beside : cursor.SameToken markedCursor ∨ cursor.MarkerAhead markedCursor) :
    Follows .script
      ((Grammar.readStatements grammar.bound ends (grammar.statement context .listed)).run cursor)
      ((Grammar.readStatements marked.bound ends (marked.statement context .listed)).run
        markedCursor) := by
  rw [readStatements_eq, readStatements_eq]
  exact (Listing.script_fits sameEnd goesOn).follows (mirrors.statement context .listed)
    (mirrors.marks.statement context .listed) mirrors.bound ⟨rfl, rfl, id, .inl⟩ beside

end Grammar.Mirrors

end Reactivity.Script
