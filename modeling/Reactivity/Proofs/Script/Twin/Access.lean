import Reactivity.Proofs.Script.Operand
import Reactivity.Proofs.Script.Twin.Class
import Reactivity.Script.Grammar.Access

namespace Reactivity.Script

open Refresh Reader

/-!
# Accesses of twins

Primary expressions, and the accesses behind them.
-/

/-- The token does not go on with an operand: it is no access and no operator. -/
def Token.endsOperand :
    Token →
    Bool
  | .finish | .number _ | .bigInteger _ => true
  | .symbol text => text == "\x7d" || text == ";"
  | .word text _ => text != "in" && text != "instanceof"
  | _ => false

/-- A token that ends an operand is no access. -/
theorem Token.isAccess_of_endsOperand
    {token : Token}
    (ends : token.endsOperand) :
    token.isAccess = false := by
  cases token with
  | symbol text =>
      simp only [endsOperand, Bool.or_eq_true, beq_iff_eq] at ends
      rcases ends with rfl | rfl <;> rfl
  | _ => rfl

theorem Cursor.MarkerAhead.endsOperand
    {cursor marked : Cursor}
    (ahead : cursor.MarkerAhead marked) :
    cursor.token.endsOperand := by
  have anew := ahead.anew
  unfold Token.startsAnew at anew
  split at anew
  all_goals simp_all [Token.endsOperand, continuingWords]

theorem Cursor.MarkerAhead.marked_endsOperand
    {cursor marked : Cursor}
    (ahead : cursor.MarkerAhead marked) :
    marked.token.endsOperand := by
  rw [ahead.token]
  rfl

namespace Grammar

namespace Mirrors

variable
  {grammar marked : Grammar}
  {cursor markedCursor : Cursor}

theorem readArguments
    (mirrors : grammar.Mirrors marked)
    (context : Context) :
    Reads .absorbing (.list .node) cursor markedCursor (grammar.readArguments context)
      (marked.readArguments context) :=
  .expect "(" (fun _ _ => .separated ")" mirrors.bound (fun _ _ => mirrors.readItem context))

/-- What stands in parentheses; a mark has no place there. -/
theorem readParenthesized
    (mirrors : grammar.Mirrors marked)
    (context : Context) :
    Reads .absorbing .node cursor markedCursor (grammar.readParenthesized context)
      (marked.readParenthesized context) := by
  refine .position (fun _ _ => .expect "(" (fun _ _ => .position (fun _ _ => ?_)))
  have starts : (View.loose.with' Bool).alike ([], true) ([], true) := ⟨.nil, rfl⟩
  refine Carries.bind ((Carries.loop (View.loose.with' Bool) (View.loose.with' Bool) ?_
    mirrors.bound starts).weaken (fun _ => False.elim)) ?_
  · rintro ⟨items, isHead⟩ ⟨markedItems, _⟩ ⟨alike, rfl⟩ _ _
    refine .look (fun current markedCurrent =>
      .iteAt ")" ?_ (.iteAt "..." ?_ ?_ (by simp)) (by simp))
    · exact .inside (.pure (.inr ⟨List.rel_reverse alike, rfl⟩) (by grind))
    · refine (readRest ")" (mirrors.pattern context)).inside.bind (fun rest _ restAlike _ _ => ?_)
      exact .pure (.inl ⟨.cons restAlike alike, rfl⟩) (by grind)
    · refine .stopping ((mirrors.assignment _ _ _).bind (fun item _ itemAlike _ _ => ?_)) ?_
      · refine .ifAccept "," (fun _ _ => .onAt ")" (fun _ _ _ => ?_) (by simp))
          (fun _ _ => .requireAt ")" (fun _ _ => ?_)) (by simp)
        · exact .pure (.inl ⟨.cons itemAlike alike, rfl⟩) (by grind)
        · exact .inside (.pure (.inl ⟨.cons itemAlike alike, rfl⟩) (by grind))
      · -- Behind a mark stands a semicolon, which does not go on with a list.
        intro atMarker
        have atMark := atMarker.toMarkerAhead.atMark
        cases ran : (marked.assignment context.enclosed).run markedCurrent with
        | none => simp [StateT.run_bind, ran]
        | some read =>
            have stops := mirrors.marks.assignment _ _ atMark read.1 read.2 ran
            simp [StateT.run_bind, ran, stops, Cursor.isAt, atMark.ends]
  · rintro ⟨items, isHead⟩ ⟨markedItems, _⟩ ⟨alike, rfl⟩ _ _
    refine .spanFrom _ _ (fun _ _ => .expect ")" (fun _ _ => ?_))
    have wrapped {inner markedInner : Node} {cursor markedCursor : Cursor} {start markedStart : Nat}
        {lost : Grade → Prop} (innerAlike : inner.unmarked = markedInner.unmarked)
        (keeps : ∀ grade, lost grade → markedInner.strays grade) :
        Carries .anywhere lost .node cursor markedCursor
          (finish start .expression .parenthesized [inner])
          (finish markedStart .expression .parenthesized [markedInner]) := by
      refine .finish ?_ (fun grade isLost => .inr ⟨rfl, _, List.mem_cons_self, keeps grade isLost⟩)
      simp [Form.listsStatements, innerAlike]
    have sequence {items markedItems : List Node}
        (alike : List.Forall₂ View.node.alike items markedItems)
        (span markedSpan : Span) :
        (Node.mk .sequence .expression span items).unmarked =
          (Node.mk .sequence .expression markedSpan markedItems).unmarked := by
      rw [Node.unmarked_noList rfl, Node.unmarked_noList rfl, View.map_unmarked alike]
    have sequenceLost {markedItems : List Node} {span : Span} (grade : Grade)
        (isLost : False ∨ ∃ item ∈ markedItems, item.strays grade) :
        (Node.mk .sequence .expression span markedItems).strays grade := by
      obtain ⟨item, member, isAstray⟩ := isLost.resolve_left id
      exact Node.strays_of_mem rfl member (Node.strays_bare isAstray)
    cases isHead with
    | true =>
        cases alike with
        | nil => exact .finishCompound .nil (by grind) rfl
        | cons firstAlike restAlike =>
            cases restAlike with
            | nil => exact .finishCompound (.cons firstAlike .nil) (by grind) rfl
            | cons secondAlike restAlike =>
                exact .finishCompound (.cons firstAlike (.cons secondAlike restAlike))
                  (by grind) rfl
    | false =>
        cases alike with
        | nil => exact wrapped (sequence .nil _ _) sequenceLost
        | cons firstAlike restAlike =>
            cases restAlike with
            | nil =>
                refine wrapped firstAlike (fun grade isLost => ?_)
                obtain ⟨item, member, isAstray⟩ := isLost.resolve_left id
                exact List.mem_singleton.mp member ▸ isAstray
            | cons secondAlike restAlike =>
                exact wrapped (sequence (.cons firstAlike (.cons secondAlike restAlike)) _ _)
                  sequenceLost

theorem readImportExpression
    (mirrors : grammar.Mirrors marked)
    (context : Context) :
    Reads .absorbing .node cursor markedCursor (grammar.readImportExpression context)
      (marked.readImportExpression context) := by
  refine .position (fun _ _ => .expectWord "import" (fun _ _ => ?_) (by decide))
  refine .ifAccept "." (fun _ _ => .expectWord "meta" (fun _ _ => .leaf) (by decide))
    (fun _ _ => .expect "(" (fun _ _ => ?_)) (by simp)
  refine (Carries.separated ")" mirrors.bound (mirrors.assignment _)).bind
    (fun values markedValues alike _ _ => ?_)
  refine .require (fun _ fits => ?_) (.finishCompound alike (by grind) rfl)
  rwa [alike.length_eq]

theorem readConstruct
    (mirrors : grammar.Mirrors marked)
    (context : Context) :
    Reads .absorbing .node cursor markedCursor (grammar.readConstruct context)
      (marked.readConstruct context) := by
  refine .position (fun _ _ => .expectWord "new" (fun _ _ => ?_) (by decide))
  refine .ifAccept "." (fun _ _ => .expectWord "target" (fun _ _ => .leaf) (by decide))
    (fun _ _ => ?_)
    (by simp)
  refine (mirrors.constructed _ _ _).bindInner (fun constructed _ alike _ _ => ?_)
  refine .ifAt "(" (fun _ _ => ?_) (fun _ _ => ?_) (by simp)
  · refine (mirrors.readArguments context).inside.bind (fun values _ valuesAlike _ _ => ?_)
    exact .finishCompound (.cons alike valuesAlike) (by grind) rfl
  · exact .finishCompound (.cons alike .nil) (by grind) rfl

/-- The word `function` in the same line is there in both twins. -/
theorem isFunctionInLine_eq
    (paired : cursor.Paired markedCursor) :
    (cursor.isAtWord "function" && !cursor.isOnNewLine) =
      (markedCursor.isAtWord "function" && !markedCursor.isOnNewLine) := by
  rcases paired with same | atMarker
  · rw [same.isAtWord_eq, Bool.and_comm, Bool.and_comm _ (!_), same.onLine_eq]
    intro atEnd
    simp [Cursor.isAtWord, atEnd]
  · rw [atMarker.newLine, atMarker.markedNewLine, Bool.not_true, Bool.and_false, Bool.and_false]

/-- A cursor at `async` and `function` in the same line stands there in both twins. -/
theorem isAtAsyncFunction_eq
    (same : cursor.SameToken markedCursor) :
    (cursor.isAtWord "async" && cursor.next.isAtWord "function" && !cursor.next.isOnNewLine) =
      (markedCursor.isAtWord "async" && markedCursor.next.isAtWord "function" &&
        !markedCursor.next.isOnNewLine) := by
  rw [same.isAtWord_eq, Bool.and_assoc, Bool.and_assoc, isFunctionInLine_eq same.next]

/-- An expression that starts with a word, which may be the name of the marker. -/
theorem readWordExpression
    (mirrors : grammar.Mirrors marked)
    (context : Context) :
    Reads .opening .node cursor markedCursor (grammar.readWordExpression context)
      (marked.readWordExpression context) := by
  have leaf {cursor markedCursor : Cursor} {form : Form} (start markedStart : Nat) :
      Reads .inside .node cursor markedCursor
        (advance >>= fun _ => finish start .expression form)
        (advance >>= fun _ => finish markedStart .expression form) :=
    .advance (fun _ _ => .leaf)
  have other (cursor markedCursor : Cursor) :
      Reads .opening .node cursor markedCursor
        (if cursor.isAtWord "async" && cursor.next.isAtWord "function" &&
            !cursor.next.isOnNewLine then
          grammar.readFunction context .expression false
        else
          name context >>= fun name => finish cursor.start .expression (.identifier name))
        (if markedCursor.isAtWord "async" && markedCursor.next.isAtWord "function" &&
            !markedCursor.next.isOnNewLine then
          marked.readFunction context .expression false
        else
          name context >>= fun name =>
            finish markedCursor.start .expression (.identifier name)) := by
    refine .ite isAtAsyncFunction_eq (fun atMarker => ?_)
      (fun _ _ => (mirrors.readFunction _ _ _).inside) ?_ (fun _ => False.elim)
    · rw [atMarker.marked_isAtWord (by decide)]
      exact ⟨rfl, fun impossible => by cases impossible⟩
    · refine (Carries.name context).bind ?_
      rintro name _ rfl _ _
      exact .finish rfl (by simp [View.name, Form.strays])
  refine .lookSame (fun cursor markedCursor same => ?_) (fun cursor markedCursor atMarker => ?_)
  · rw [same.token]
    split
    · exact leaf _ _
    · exact leaf _ _
    · exact leaf _ _
    · exact leaf _ _
    · refine (leaf _ _).bind (fun node _ alike _ _ => ?_)
      refine .look (fun stop markedStop =>
        .require (fun paired isThere => ?_) (.pure alike (by grind)))
      rcases paired with same | atMarker
      · rwa [same.isAtAny_eq]
      · rw [atMarker.marked_isAtAny] at isThere
        cases isThere
    · exact (mirrors.readFunction _ _ _).inside
    · exact (mirrors.readClass _ _ _).inside
    · exact (mirrors.readConstruct _).inside
    · exact (mirrors.readImportExpression _).inside
    · exact (other cursor markedCursor).inside
  · rw [atMarker.token]
    exact (other cursor markedCursor).mark atMarker

/-- A primary expression, which may be the name of the marker. -/
theorem readPrimary
    (mirrors : grammar.Mirrors marked)
    (context : Context) :
    Reads .opening .node cursor markedCursor (grammar.readPrimary context)
      (marked.readPrimary context) := by
  have leaf {cursor markedCursor : Cursor} {form : Form} (start markedStart : Nat) :
      Reads .inside .node cursor markedCursor
        (advance >>= fun _ => finish start .expression form)
        (advance >>= fun _ => finish markedStart .expression form) :=
    .advance (fun _ _ => .leaf)
  refine .lookSame (fun cursor markedCursor same => ?_) (fun cursor markedCursor atMarker => ?_)
  · have proper {token : Token} (isToken : markedCursor.token = token)
        (isProper : token ≠ .invalid) :
        cursor.token ≠ .invalid := by
      rwa [same.token, isToken]
    rw [same.token]
    split
    · exact leaf _ _
    · exact leaf _ _
    · exact leaf _ _
    · exact (mirrors.readWordExpression _).inside
    · exact (mirrors.readParenthesized _).inside
    · exact (mirrors.readArray _).inside
    · exact (mirrors.readObject _).inside
    · next isToken => exact mirrors.readTemplate _ _ _ (proper isToken (by simp))
    · next isToken => exact readRegex (proper isToken (by simp))
    · next isToken => exact readRegex (proper isToken (by simp))
    · exact .failure
  · rw [atMarker.token]
    exact (mirrors.readWordExpression context).mark atMarker

/-- The name of a member, which may be that of the marker. -/
theorem readMemberName
    (start markedStart : Nat)
    {object markedObject : Node}
    (alike : object.unmarked = markedObject.unmarked)
    (isOptional : Bool) :
    Carries .absorbing (markedObject.strays ·) .node cursor markedCursor
      (readMemberName start object isOptional)
      (readMemberName markedStart markedObject isOptional) := by
  refine .lookSame (fun cursor markedCursor same => ?_) (fun cursor markedCursor atMarker => ?_)
  · rw [same.token]
    split
    · exact .advance (fun _ _ => .finishCompound (.cons alike .nil) (by grind) rfl)
    · refine .require (fun _ fits => ?_)
        (.advance (fun _ _ => .finishCompound (.cons alike .nil) (by grind) rfl))
      rwa [← Node.form_unmarked, alike, Node.form_unmarked]
    · exact .failure
  · intro _ _ ran
    rw [atMarker.token] at ran
    cases ran
    exact Node.strays_mk.mpr (.inl rfl)

theorem readComputedMember
    (mirrors : grammar.Mirrors marked)
    (context : Context)
    (start markedStart : Nat)
    {object markedObject : Node}
    (alike : object.unmarked = markedObject.unmarked)
    (isOptional : Bool) :
    Carries .absorbing (markedObject.strays ·) .node cursor markedCursor
      (grammar.readComputedMember context start object isOptional)
      (marked.readComputedMember context markedStart markedObject isOptional) := by
  refine .expect "[" (fun _ _ => ?_)
  refine (Carries.before "]" (mirrors.expression _ _ _)).bindInner (fun key _ keyAlike _ _ => ?_)
  exact .finishCompound (.cons alike (.cons keyAlike .nil)) (by grind) rfl

/-- One access behind an expression; a mark is none. -/
theorem readAccessStep
    (mirrors : grammar.Mirrors marked)
    (context : Context)
    (start markedStart : Nat)
    (allowsCalls : Bool)
    {reached markedReached : Node × Bool}
    (alike : (View.node.with' Bool).alike reached markedReached) :
    Carries .anywhere ((View.node.with' Bool).soiled · markedReached)
      ((View.node.with' Bool).step (View.node.with' Bool)) cursor markedCursor
      (grammar.readAccessStep context start allowsCalls reached)
      (marked.readAccessStep context markedStart allowsCalls markedReached) := by
  obtain ⟨node, isChain⟩ := reached
  obtain ⟨markedNode, _⟩ := markedReached
  obtain ⟨alike, rfl⟩ := alike
  have goOn (isChain : Bool) (node markedNode : Node) (alike : node.unmarked = markedNode.unmarked)
      (cursor markedCursor : Cursor) :
      Carries .anywhere (markedNode.strays ·) ((View.node.with' Bool).step (View.node.with' Bool))
        cursor markedCursor (pure (.inl (node, isChain))) (pure (.inl (markedNode, isChain))) :=
    .pure (.inl ⟨alike, rfl⟩) (by grind)
  refine .lookSame (fun cursor markedCursor same => ?_) (fun cursor markedCursor atMarker => ?_)
  · have called (isOptional : Bool) {isChain : Bool} {cursor markedCursor : Cursor} :
        Carries .absorbing (markedNode.strays ·)
          ((View.node.with' Bool).step (View.node.with' Bool)) cursor markedCursor
          (grammar.readArguments context >>= fun values =>
            finish start .expression (.call isOptional) (node :: values) >>= fun call =>
              pure (.inl (call, isChain)))
          (marked.readArguments context >>= fun values =>
            finish markedStart .expression (.call isOptional) (markedNode :: values) >>= fun call =>
              pure (.inl (call, isChain))) := by
      refine (mirrors.readArguments context).bind (fun values _ valuesAlike _ _ => ?_)
      exact (Carries.finishCompound (.cons alike valuesAlike) (by grind) rfl).handOn (goOn isChain)
    rw [same.token]
    split
    · exact .advance (fun _ _ => .enter ((readMemberName _ _ alike _).handOn (goOn _)))
    · exact .inside ((mirrors.readComputedMember _ _ _ alike _).handOn (goOn _))
    · refine .require (fun _ => id) (.advance (fun _ _ => ?_))
      refine .ifAt "(" (fun _ _ => (called true).inside) (fun _ _ => ?_) (by simp)
      refine .ifAt "[" (fun _ _ => ?_) (fun _ _ => ?_) (by simp)
      · exact .inside ((mirrors.readComputedMember _ _ _ alike _).handOn (goOn _))
      · exact .enter ((readMemberName _ _ alike _).handOn (goOn _))
    · split
      · exact (called false).inside
      · exact .inside (.pure (.inr ⟨alike, rfl⟩) (by grind))
    · next isToken =>
        have proper : cursor.token ≠ .invalid := by
          rw [same.token, isToken]
          simp
        refine .require (fun _ => id) ?_
        refine (mirrors.readTemplate _ _ _ proper).bind (fun template _ templateAlike _ _ => ?_)
        exact (Carries.finishCompound (.cons alike (.cons templateAlike .nil))
          (by grind) rfl).handOn
          (goOn _)
    · exact .inside (.pure (.inr ⟨alike, rfl⟩) (by grind))
  · exact .stay
      (run_readAccessStep (Token.isAccess_of_endsOperand atMarker.endsOperand) context start
        allowsCalls (node, isChain))
      (run_readAccessStep (Token.isAccess_of_endsOperand atMarker.marked_endsOperand) context
        markedStart allowsCalls (markedNode, isChain))
      (.inr ⟨alike, rfl⟩) (.inr atMarker)

/-- The accesses behind an expression. -/
theorem readAccesses
    (mirrors : grammar.Mirrors marked)
    (context : Context)
    (start markedStart : Nat)
    (allowsCalls : Bool)
    {first markedFirst : Node}
    (alike : first.unmarked = markedFirst.unmarked) :
    Carries .anywhere (markedFirst.strays ·) (View.node.with' Bool) cursor markedCursor
      (grammar.readAccesses context start allowsCalls first)
      (marked.readAccesses context markedStart allowsCalls markedFirst) := by
  have starts : (View.node.with' Bool).alike (first, false) (markedFirst, false) := ⟨alike, rfl⟩
  exact .loop (View.node.with' Bool) (View.node.with' Bool)
    (fun _ _ alike _ _ => mirrors.readAccessStep _ _ _ _ alike) mirrors.bound starts

/-- A primary expression and the accesses behind it. -/
theorem readAccess
    (mirrors : grammar.Mirrors marked)
    (context : Context) :
    Reads .opening .node cursor markedCursor (grammar.readAccess context)
      (marked.readAccess context) := by
  refine .position (fun _ _ => ?_)
  refine (mirrors.readPrimary context).handOn (fun first _ alike _ _ => ?_)
  refine (mirrors.readAccesses _ _ _ _ alike).handOn ?_
  rintro ⟨node, isChain⟩ ⟨markedNode, _⟩ ⟨nodeAlike, rfl⟩ _ _
  cases isChain with
  | true =>
      refine .finishCompound (.cons ?_ .nil) (fun grade isLost => .inr ⟨_, List.mem_cons_self, ?_⟩)
        rfl
      · show Node.unmarked _ = Node.unmarked _
        rw [← Node.withRole_unmarked, nodeAlike, Node.withRole_unmarked]
      · rw [Node.strays_withRole]
        exact Node.strays_bare isLost
  | false => exact .pure nodeAlike (by grind)

/-- What is constructed by `new`. -/
theorem readConstructed
    (mirrors : grammar.Mirrors marked)
    (context : Context) :
    Reads .opening .node cursor markedCursor (grammar.readConstructed context)
      (marked.readConstructed context) := by
  refine .position (fun _ _ => ?_)
  refine (mirrors.readPrimary context).handOn (fun first _ alike _ _ => ?_)
  refine (mirrors.readAccesses _ _ _ _ alike).handOn ?_
  rintro ⟨node, isChain⟩ ⟨markedNode, _⟩ ⟨nodeAlike, rfl⟩ _ _
  refine .require (fun _ fits => ?_) (.pure nodeAlike (by grind))
  rwa [← Node.form_unmarked, ← Node.bare_unmarked, nodeAlike, Node.bare_unmarked,
    Node.form_unmarked]

end Mirrors

end Grammar

end Reactivity.Script
