import Reactivity.Proofs.Script.Twin.Reader
import Reactivity.Script.Grammar.Pattern

namespace Reactivity.Script

open Refresh Reader

/-!
# Patterns of twins

The grammar of a text follows that of its twin when all its parts do. Then keys and binding
patterns are read alike.
-/

/-- A mark is read as the name of the marker, and with its end as a statement. -/
structure Grammar.ReadsMarks
    (grammar : Grammar) :
    Prop where
  assignment : ∀ context cursor, cursor.AtMark → ∀ value stop,
    (grammar.assignment context).run cursor = some (value, stop) → stop = cursor.next
  statement : ∀ context placement cursor, cursor.AtMark → ∀ value stop,
    (grammar.statement context placement).run cursor = some (value, stop) →
      value.isMark ∧ stop = cursor.next.next

/-- The parts of a grammar carry over from a twin to a text that is not shorter. -/
structure Grammar.Mirrors
    (grammar marked : Grammar) :
    Prop where
  bound : marked.bound ≤ grammar.bound
  marks : marked.ReadsMarks
  expression : ∀ context stop markedStop,
    Reads .opening .node stop markedStop (grammar.expression context) (marked.expression context)
  assignment : ∀ context stop markedStop,
    Reads .opening .node stop markedStop (grammar.assignment context) (marked.assignment context)
  operation : ∀ context level stop markedStop,
    Reads .opening .node stop markedStop (grammar.operation context level)
      (marked.operation context level)
  operand : ∀ context stop markedStop,
    Reads .opening .node stop markedStop (grammar.operand context) (marked.operand context)
  access : ∀ context stop markedStop,
    Reads .opening .node stop markedStop (grammar.access context) (marked.access context)
  constructed : ∀ context stop markedStop,
    Reads .opening .node stop markedStop (grammar.constructed context)
      (marked.constructed context)
  pattern : ∀ context stop markedStop,
    Reads .opening .node stop markedStop (grammar.pattern context) (marked.pattern context)
  statement : ∀ context placement stop markedStop,
    Reads .opening .node stop markedStop (grammar.statement context placement)
      (marked.statement context placement)

namespace Grammar.Mirrors

variable
  {grammar marked : Grammar}
  {cursor markedCursor : Cursor}

/-- A value behind `=` is taken into a node. -/
theorem readInitial
    (mirrors : grammar.Mirrors marked)
    (context : Context) :
    Reads .anywhere (.list .node) cursor markedCursor (grammar.readInitial context)
      (marked.readInitial context) := by
  refine .ifAccept "=" (fun stop markedStop => ?_) (fun _ _ => .pure .nil (by grind)) (by simp)
  refine (mirrors.assignment context stop markedStop).bindInner (fun value _ alike _ _ => ?_)
  exact .pure (.cons alike .nil) (by grind)

/-- A name as a pattern. -/
theorem readNamePattern
    (context : Context) :
    Reads .opening .node cursor markedCursor (readNamePattern context)
      (readNamePattern context) := by
  refine .position (fun _ _ => ?_)
  refine (Carries.name context).bind ?_
  rintro name _ rfl _ _
  exact .finish rfl (by simp [View.name, Form.strays])

/-- A pattern with a default value, if there is one. -/
theorem readElement
    (mirrors : grammar.Mirrors marked)
    (context : Context) :
    Reads .opening .node cursor markedCursor (grammar.readElement context)
      (marked.readElement context) := by
  refine .position (fun _ _ => ?_)
  refine (mirrors.pattern context cursor markedCursor).bind (fun pattern _ alike _ _ => ?_)
  refine (mirrors.readInitial context.enclosed).bind (fun values _ valuesAlike _ _ => ?_)
  cases valuesAlike with
  | nil => exact .pure alike (by grind)
  | cons valueAlike restAlike =>
      exact .finishCompound (.cons alike (.cons valueAlike restAlike)) (by grind) rfl

/-- A rest before a closing symbol. -/
theorem readRest
    {read markedRead : Reader Node}
    (close : String)
    (reads : ∀ stop markedStop, Reads .opening .node stop markedStop read markedRead) :
    Reads .absorbing .node cursor markedCursor (readRest close read)
      (readRest close markedRead) := by
  refine .position (fun _ _ => .expect "..." (fun stop markedStop => ?_))
  refine (reads stop markedStop).bindInner (fun pattern _ alike _ _ => ?_)
  exact .requireAt close (fun _ _ => .inside (.finishCompound (.cons alike .nil) (by grind) rfl))

/-- A comma that may be missing before a closing symbol. -/
theorem readSeparator
    (close : String) :
    Reads .absorbing (.plain Unit) cursor markedCursor (readSeparator close)
      (readSeparator close) :=
  .ifAt close (fun _ _ => .inside (.pure rfl (by grind))) (fun _ _ => .expectOnly ",") (by simp)

/-- The key of a property; a marker would be the name of a property. -/
theorem readKey
    (mirrors : grammar.Mirrors marked)
    (context : Context) :
    Reads .absorbing (View.node.inner.with' Bool) cursor markedCursor (grammar.readKey context)
      (marked.readKey context) := by
  have leaf {cursor markedCursor : Cursor} (start markedStart : Nat) (role : Role) (form : Form) :
      Reads .inside (View.node.inner.with' Bool) cursor markedCursor
        (advance >>= fun _ => finish start role form >>= fun key => pure (key, false))
        (advance >>= fun _ => finish markedStart role form >>= fun key => pure (key, false)) := by
    refine .advance (fun _ _ => ?_)
    exact Carries.leaf.bind (fun key _ alike _ _ => .pure ⟨alike, rfl⟩ (by grind))
  refine .lookSame (fun cursor markedCursor same => ?_) (fun cursor markedCursor atMarker => ?_)
  · rw [same.token]
    split
    iterate 4 exact leaf _ _ _ _
    · refine .advance (fun stop markedStop => ?_)
      refine (Carries.before "]" (mirrors.assignment context.enclosed stop markedStop)).bindInner
        (fun key _ alike _ _ => .pure ⟨alike, rfl⟩ (by grind))
    · exact .failure
  · intro _ _ ran
    rw [atMarker.token] at ran
    cases ran
    exact Node.strays_mk.mpr (.inl rfl)

/-- An item of a list of patterns, with the comma behind it. -/
theorem readSeparated
    {read markedRead : Reader Node}
    (close : String)
    (reads : Reads .opening .node cursor markedCursor read markedRead) :
    Reads .opening .node cursor markedCursor
      (read >>= fun item => Grammar.readSeparator close >>= fun _ => pure item)
      (markedRead >>= fun item => Grammar.readSeparator close >>= fun _ => pure item) := by
  refine reads.bind (fun item _ alike _ _ => ?_)
  exact .enter ((readSeparator close).bindPlain (fun _ _ _ => .pure alike (by grind)))

theorem readArrayPattern
    (mirrors : grammar.Mirrors marked)
    (context : Context) :
    Reads .absorbing .node cursor markedCursor (grammar.readArrayPattern context)
      (marked.readArrayPattern context) := by
  refine .position (fun _ _ => .expect "[" (fun _ _ => ?_))
  refine (Carries.untilSymbol "]" mirrors.bound (fun _ _ => ?_)).bind
    (fun items _ alike _ _ => .finishCompound alike (by grind) rfl)
  refine .ifAccept "," (fun _ _ => .pure rfl (by grind)) (fun _ _ => ?_) (by simp)
  refine .ifAt "..." (fun _ _ => .inside (readRest "]" (mirrors.pattern context))) (fun _ _ => ?_)
    (by simp)
  exact readSeparated "]" (mirrors.readElement context)

theorem readPatternProperty
    (mirrors : grammar.Mirrors marked)
    (context : Context) :
    Reads .absorbing .node cursor markedCursor (grammar.readPatternProperty context)
      (marked.readPatternProperty context) := by
  refine .remember (fun current markedCurrent same _ _ => ?_) (by decide)
  refine (mirrors.readKey context).bind ?_
  rintro ⟨key, isComputed⟩ ⟨markedKey, _⟩ ⟨alike, rfl⟩ _ _
  refine .ifAccept ":" (fun _ _ => ?_) (fun _ _ => ?_) (by simp)
  · refine (mirrors.readElement context).bindInner (fun pattern _ patternAlike _ _ => ?_)
    exact .finishCompound (.cons alike (.cons patternAlike .nil)) (by grind) rfl
  · rw [same.name?_eq]
    cases markedCurrent.name? context with
    | none => exact .failure
    | some name =>
        refine Carries.leaf.bind (fun pattern markedPattern patternAlike _ _ => ?_)
        refine (mirrors.readInitial context.enclosed).bind
          (fun values markedValues valuesAlike _ _ => ?_)
        cases valuesAlike with
        | nil => exact .finishCompound (.cons alike (.cons patternAlike .nil)) (by grind) rfl
        | cons valueAlike restAlike =>
            refine Carries.bindMade (fun _ => markedKey.strays .bare) _
              (.finishCompound (.cons patternAlike (.cons valueAlike restAlike)) (fun _ => id) rfl)
              (fun defaulted _ defaultedAlike _ _ => ?_) (by grind)
            exact .finishCompound (.cons alike (.cons defaultedAlike .nil)) (by grind) rfl

theorem readObjectPattern
    (mirrors : grammar.Mirrors marked)
    (context : Context) :
    Reads .absorbing .node cursor markedCursor (grammar.readObjectPattern context)
      (marked.readObjectPattern context) := by
  refine .position (fun _ _ => .expect "\x7b" (fun _ _ => ?_))
  refine (Carries.untilSymbol "\x7d" mirrors.bound (fun _ _ => ?_)).bind
    (fun items _ alike _ _ => .finishCompound alike (by grind) rfl)
  refine .ifAt "..." (fun _ _ => .inside (readRest "\x7d" (fun _ _ => readNamePattern context)))
    (fun _ _ => ?_) (by simp)
  exact readSeparated "\x7d" (mirrors.readPatternProperty context).enter

/-- A binding pattern; a marker would be a name. -/
theorem readPattern
    (mirrors : grammar.Mirrors marked)
    (context : Context) :
    Reads .opening .node cursor markedCursor (grammar.readPattern context)
      (marked.readPattern context) := by
  refine .look (fun _ _ => ?_)
  refine .iteAt "[" (mirrors.readArrayPattern context).enter ?_ (by simp)
  refine .iteAt "\x7b" (mirrors.readObjectPattern context).enter ?_ (by simp)
  exact readNamePattern context

/-- The parameters of a function. -/
theorem readParameters
    (mirrors : grammar.Mirrors marked)
    (context : Context) :
    Reads .absorbing (.opened .node) cursor markedCursor (grammar.readParameters context)
      (marked.readParameters context) := by
  refine .position (fun _ _ => .expect "(" (fun _ _ => ?_))
  refine (Carries.untilSymbol ")" mirrors.bound (fun _ _ => ?_)).bind
    (fun items _ alike _ _ => .finishOpened alike (fun _ _ => id) (by grind) rfl)
  refine .ifAt "..." (fun _ _ => .inside (readRest ")" (mirrors.pattern context))) (fun _ _ => ?_)
    (by simp)
  exact readSeparated ")" (mirrors.readElement context)

end Grammar.Mirrors

end Reactivity.Script
