import Reactivity.Proofs.Script.Twin.Value
import Reactivity.Script.Grammar.Class

namespace Reactivity.Script

open Refresh Reader

/-!
# Classes of twins

The body of a class is no list of statements: a marker in it would be the key of a member.
-/

namespace Grammar

theorem keyText?_eq
    {key marked : Node}
    (alike : key.unmarked = marked.unmarked)
    (isComputed : Bool) :
    keyText? key isComputed = keyText? marked isComputed := by
  have sameForm : key.form = marked.form := by
    rw [← Node.form_unmarked key, alike, Node.form_unmarked]
  cases isComputed with
  | true => rfl
  | false => rw [keyText?, keyText?, sameForm]

namespace Mirrors

variable
  {grammar marked : Grammar}
  {cursor markedCursor : Cursor}

/-- The key of a class member. -/
theorem readMemberKey
    (mirrors : grammar.Mirrors marked)
    (context : Context) :
    Reads .absorbing (View.node.inner.with' Bool) cursor markedCursor
      (grammar.readMemberKey context) (marked.readMemberKey context) := by
  refine .lookSame (fun cursor markedCursor same => ?_) (fun cursor markedCursor atMarker => ?_)
  · rw [same.token]
    split
    · refine .require (fun _ => id) (.advance (fun _ _ => ?_))
      exact Carries.leaf.bind (fun key _ alike _ _ => .pure ⟨alike, rfl⟩ (by grind))
    · exact (mirrors.readKey context).inside
  · rw [atMarker.token]
    exact (mirrors.readKey context).mark atMarker

/-- The key of a class member and what follows it. -/
theorem readMemberAfter
    (mirrors : grammar.Mirrors marked)
    (context : Context)
    (start markedStart : Nat)
    (modifiers : MemberModifiers) :
    Reads .absorbing .node cursor markedCursor
      (grammar.readMemberAfter context start modifiers)
      (marked.readMemberAfter context markedStart modifiers) := by
  refine (mirrors.readMemberKey context).bind ?_
  rintro ⟨key, isComputed⟩ ⟨markedKey, _⟩ ⟨alike, rfl⟩ _ _
  refine .onAt "(" (fun opens _ _ => ?_) (by simp)
  rw [keyText?_eq alike]
  split
  · refine .require (fun _ => id) ?_
    refine (mirrors.readMethod _ _ _).enter.bind (fun function _ functionAlike _ _ => ?_)
    exact .finishCompound (.cons alike (.cons functionAlike .nil)) (by grind) rfl
  · refine .require (fun _ => id) ?_
    refine (mirrors.readInitial _).bind (fun values _ valuesAlike _ _ => ?_)
    exact .semicolon (fun _ _ => .finishCompound (.cons alike valuesAlike) (by grind) rfl)

/-- A class member behind `static`, if that was there. -/
theorem readMemberFrom
    (mirrors : grammar.Mirrors marked)
    (context : Context)
    (start markedStart : Nat)
    (isStatic : Bool) :
    Reads .absorbing .node cursor markedCursor
      (grammar.readMemberFrom context start isStatic)
      (marked.readMemberFrom context markedStart isStatic) := by
  have keyed {read markedRead : Unit → Reader Node} {second markedSecond : Reader Node}
      {cursor markedCursor : Cursor} (word : String) (isOther : word ≠ markerName)
      (yes : ∀ stop markedStop,
        Reads .absorbing .node stop markedStop (read ()) (markedRead ()))
      (no : Reads .absorbing .node cursor markedCursor second markedSecond) :
      Reads .absorbing .node cursor markedCursor
        (if cursor.isAtWord word && cursor.next.isAtKey then advance >>= read else second)
        (if markedCursor.isAtWord word && markedCursor.next.isAtKey then advance >>= markedRead
          else markedSecond) := by
    refine .iteAdvance (fun same nextSame => ?_) (fun same nextMarker holds => ?_)
      (fun atMarker => ?_) yes no
    · rw [same.isAtWord_eq, nextSame.isAtKey_eq]
    · rw [same.isAtWord_eq, Bool.and_eq_true] at holds
      rw [holds.1, nextMarker.marked_isAtKey, Bool.and_true]
    · rw [atMarker.marked_isAtWord isOther]
      exact ⟨rfl, fun impossible => by cases impossible⟩
  refine .look (fun current markedCurrent => ?_)
  refine .iteAt "*" (.advance (fun _ _ => (mirrors.readMemberAfter _ _ _ _).enter)) ?_ (by simp)
  refine .iteAdvance (fun same nextSame => ?_) (fun same nextMarker holds => ?_)
    (fun atMarker => ?_) (fun _ _ => ?_) ?_
  · rw [same.isAtWord_eq, nextSame.isAtKey_eq, nextSame.isAt_eq, Bool.and_assoc, Bool.and_assoc,
      nextSame.onLine_eq]
    intro atEnd
    simp [Cursor.isAtKey, Cursor.isAt, atEnd]
  · simp [nextMarker.newLine] at holds
  · rw [atMarker.marked_isAtWord (by decide)]
    exact ⟨rfl, fun impossible => by cases impossible⟩
  · exact .onAccept "*" (fun _ _ => (mirrors.readMemberAfter _ _ _ _).enter)
      (fun _ _ => mirrors.readMemberAfter _ _ _ _) (by simp)
  · refine keyed "get" (by decide) (fun _ _ => mirrors.readMemberAfter _ _ _ _) ?_
    refine keyed "set" (by decide) (fun _ _ => mirrors.readMemberAfter _ _ _ _) ?_
    exact mirrors.readMemberAfter _ _ _ _

/-- A class member. -/
theorem readMember
    (mirrors : grammar.Mirrors marked)
    (context : Context) :
    Reads .absorbing .node cursor markedCursor (grammar.readMember context)
      (marked.readMember context) := by
  refine .look (fun current markedCurrent => ?_)
  refine .iteAdvance (fun same nextSame => ?_) (fun same nextMarker holds => ?_)
    (fun atMarker => ?_) (fun _ _ => .expect "\x7b" (fun _ _ => ?_)) ?_
  · rw [same.isAtWord_eq, nextSame.isAt_eq]
  · simp [nextMarker.isAt] at holds
  · rw [atMarker.marked_isAtWord (by decide)]
    exact ⟨rfl, fun impossible => by cases impossible⟩
  · refine (mirrors.readListed _).bind (fun statements _ alike _ _ => ?_)
    exact .finish alike (fun grade isLost => .inr ⟨rfl, isLost.resolve_left id⟩)
  · refine .iteAdvance (fun same nextSame => ?_) (fun same nextMarker holds => ?_)
      (fun atMarker => ?_) (fun _ _ => mirrors.readMemberFrom _ _ _ _)
      (mirrors.readMemberFrom _ _ _ _)
    · rw [same.isAtWord_eq, nextSame.isAtKey_eq, nextSame.isAt_eq]
    · rw [same.isAtWord_eq, Bool.and_eq_true] at holds
      rw [holds.1, nextMarker.marked_isAtKey]
      rfl
    · rw [atMarker.marked_isAtWord (by decide)]
      exact ⟨rfl, fun impossible => by cases impossible⟩

/-- The name of a class, if it has one. -/
theorem readClassName
    (context : Context) :
    Reads .opening (.option .name) cursor markedCursor (readClassName context)
      (readClassName context) :=
  .ifAtWord "implements" (fun _ _ => .inside (.pure .none (by grind))) (fun _ _ => .name? context)
    (by decide) (by decide)

/-- The superclass of a class, if it has one. -/
theorem readSuperclass
    (mirrors : grammar.Mirrors marked)
    (context : Context) :
    Reads .anywhere (.inner .node) cursor markedCursor (grammar.readSuperclass context)
      (marked.readSuperclass context) :=
  .ifAcceptWord "extends" (fun _ _ => (mirrors.access context _ _).inner.enter)
    (fun _ _ => .pure rfl (by grind)) (by decide) (by decide)

theorem readMembers
    (mirrors : grammar.Mirrors marked)
    (context : Context) :
    Reads .anywhere (.list .node) cursor markedCursor (grammar.readMembers context)
      (marked.readMembers context) := by
  refine (Carries.loop (.list .node) (.list .node) (fun members markedMembers alike _ _ => ?_)
    mirrors.bound .nil).weaken (fun _ => False.elim)
  refine .enter (.ifAccept "\x7d" (fun _ _ => .pure (.inr (List.rel_reverse alike)) (by grind))
    (fun _ _ => ?_) (by simp))
  refine .ifAccept ";" (fun _ _ => .pure (.inl alike) (by grind)) (fun _ _ => ?_) (by simp)
  refine (mirrors.readMember context).enter.bindInner (fun member _ memberAlike _ _ => ?_)
  exact .pure (.inl (.cons memberAlike alike)) (by grind)

theorem readClass
    (mirrors : grammar.Mirrors marked)
    (context : Context)
    (role : Role)
    (isDeclaration : Bool) :
    Reads .absorbing .node cursor markedCursor (grammar.readClass context role isDeclaration)
      (marked.readClass context role isDeclaration) := by
  refine .position (fun _ _ => .expectWord "class" (fun _ _ => ?_) (by decide))
  refine (readClassName context).bindInner (fun name markedName alike _ _ => ?_)
  obtain rfl : name = markedName := by
    cases alike with
    | none => rfl
    | some same => rw [same]
  refine (mirrors.readSuperclass context).bind (fun superclass _ superAlike _ _ => ?_)
  refine .expect "\x7b" (fun _ _ => ?_)
  refine (mirrors.readMembers context).bind (fun members _ membersAlike _ _ => ?_)
  refine .finishCompound (.cons superAlike membersAlike) (fun grade isLost => ?_) rfl
  rcases isLost with ((impossible | ⟨text, rfl, _, rfl⟩) | superAstray)
    | ⟨member, isMember, isAstray⟩
  · exact impossible.elim
  · exact .inl rfl
  · exact .inr ⟨_, List.mem_cons_self, superAstray⟩
  · exact .inr ⟨member, List.mem_cons_of_mem _ isMember, isAstray⟩

end Mirrors

end Grammar

end Reactivity.Script
