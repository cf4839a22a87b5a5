import Reactivity.Proofs.Script.Twin.Function
import Reactivity.Script.Grammar.Literal

namespace Reactivity.Script

open Refresh Reader

/-!
# Literals of twins

Arrays, objects, templates and regular expressions are read alike. A line of a template is
no place for a comment: what looks like one is a part of the text, and the marker in it is
astray.
-/

namespace Grammar.Mirrors

variable
  {grammar marked : Grammar}
  {cursor markedCursor : Cursor}

/-- An item of an array or an argument. -/
theorem readItem
    (mirrors : grammar.Mirrors marked)
    (context : Context) :
    Reads .opening .node cursor markedCursor (grammar.readItem context)
      (marked.readItem context) := by
  refine .position (fun _ _ => .ifAccept "..." (fun _ _ => ?_) (mirrors.assignment _) (by simp))
  refine (mirrors.assignment _ _ _).bindInner (fun value _ alike _ _ => ?_)
  exact .onAt "," (fun _ _ _ => .finishCompound (.cons alike .nil) (by grind) rfl) (by simp)

theorem readArray
    (mirrors : grammar.Mirrors marked)
    (context : Context) :
    Reads .absorbing .node cursor markedCursor (grammar.readArray context)
      (marked.readArray context) := by
  refine .position (fun _ _ => .expect "[" (fun _ _ => ?_))
  refine (Carries.untilSymbol "]" mirrors.bound (fun _ _ => ?_)).bind
    (fun items _ alike _ _ => .finishCompound alike (by grind) rfl)
  exact .ifAccept "," (fun _ _ => .pure rfl (by grind))
    (fun _ _ => readSeparated "]" (mirrors.readItem context))
    (by simp)

/-- A method of an object behind its modifiers. -/
theorem readObjectMethod
    (mirrors : grammar.Mirrors marked)
    (context : Context)
    (start markedStart : Nat)
    (kind : PropertyKind)
    (isAsync isGenerator : Bool) :
    Reads .absorbing .node cursor markedCursor
      (grammar.readObjectMethod context start kind isAsync isGenerator)
      (marked.readObjectMethod context markedStart kind isAsync isGenerator) := by
  refine (mirrors.readKey context).bind ?_
  rintro ⟨key, isComputed⟩ ⟨markedKey, _⟩ ⟨alike, rfl⟩ _ _
  refine (mirrors.readMethod kind isAsync isGenerator).enter.bind
    (fun function _ functionAlike _ _ => ?_)
  exact .finishCompound (.cons alike (.cons functionAlike .nil)) (by grind) rfl

/-- A property without modifiers. -/
theorem readPlainProperty
    (mirrors : grammar.Mirrors marked)
    (context : Context) :
    Reads .absorbing .node cursor markedCursor (grammar.readPlainProperty context)
      (marked.readPlainProperty context) := by
  refine .remember (fun current markedCurrent same _ _ => ?_) (by decide)
  refine (mirrors.readKey context).bind ?_
  rintro ⟨key, isComputed⟩ ⟨markedKey, _⟩ ⟨alike, rfl⟩ _ _
  refine .look (fun _ _ =>
    .iteAt "(" ?_ (.iteAt ":" (.advance (fun _ _ => ?_)) ?_ (by simp)) (by simp))
  · refine (mirrors.readMethod _ _ _).inside.bind (fun function _ functionAlike _ _ => ?_)
    exact .finishCompound (.cons alike (.cons functionAlike .nil)) (by grind) rfl
  · refine (mirrors.assignment _ _ _).bindInner (fun value _ valueAlike _ _ => ?_)
    exact .finishCompound (.cons alike (.cons valueAlike .nil)) (by grind) rfl
  · rw [same.name?_eq]
    cases markedCurrent.name? context with
    | none => exact .failure
    | some name =>
        refine Carries.leaf.bind (fun value markedValue valueAlike _ _ => ?_)
        refine (mirrors.readInitial context.enclosed).bind
          (fun values markedValues valuesAlike _ _ => ?_)
        cases valuesAlike with
        | nil => exact .finishCompound (.cons alike (.cons valueAlike .nil)) (by grind) rfl
        | cons firstAlike restAlike =>
            exact .finishCompound (.cons alike (.cons valueAlike (.cons firstAlike restAlike)))
              (by grind) rfl

/-- A word before the name of a property, which a marker may be taken for. -/
theorem iteModifier
    {view : View Node}
    {read markedRead : Unit → Reader Node}
    {second markedSecond : Reader Node}
    (word : String)
    (yes : ∀ stop markedStop, Reads .absorbing view stop markedStop (read ()) (markedRead ()))
    (no : Reads .absorbing view cursor markedCursor second markedSecond)
    (isOther : word ≠ markerName) :
    Reads .absorbing view cursor markedCursor
      (if isPropertyModifier cursor word then advance >>= read else second)
      (if isPropertyModifier markedCursor word then advance >>= markedRead else markedSecond) := by
  refine .iteAdvance (fun same nextSame => ?_) (fun same nextMarker holds => ?_)
    (fun atMarker => ?_) yes no
  · rw [isPropertyModifier, isPropertyModifier, same.isAtWord_eq, nextSame.isAtAny_eq]
  · rw [isPropertyModifier, same.isAtWord_eq, Bool.and_eq_true] at holds
    rw [isPropertyModifier, holds.1, nextMarker.marked_isAtAny]
    rfl
  · refine ⟨?_, fun impossible => by cases impossible⟩
    rw [isPropertyModifier, atMarker.marked_isAtWord isOther, Bool.false_and]

/-- A property of an object, or a spread. -/
theorem readProperty
    (mirrors : grammar.Mirrors marked)
    (context : Context) :
    Reads .absorbing .node cursor markedCursor (grammar.readProperty context)
      (marked.readProperty context) := by
  refine .look (fun current markedCurrent => ?_)
  refine .iteAt "..." (mirrors.readItem context).inside ?_ (by simp)
  refine .iteAt "*" (.advance (fun _ _ => (mirrors.readObjectMethod _ _ _ _ _ _).enter)) ?_
    (by simp)
  refine iteModifier "async" (fun _ _ => .sameLine (fun atEnd isEnd => ?_) (fun _ _ => ?_)) ?_
    (by decide)
  · simp [StateT.run_bind, Cursor.isAt, isEnd, Grammar.readObjectMethod, Grammar.readKey]
  · exact .onAccept "*" (fun _ _ => (mirrors.readObjectMethod _ _ _ _ _ _).enter)
      (fun _ _ => (mirrors.readObjectMethod _ _ _ _ _ _).inside) (by simp)
  refine iteModifier "get" (fun _ _ => mirrors.readObjectMethod _ _ _ _ _ _) ?_ (by decide)
  refine iteModifier "set" (fun _ _ => mirrors.readObjectMethod _ _ _ _ _ _) ?_ (by decide)
  exact mirrors.readPlainProperty context

theorem readObject
    (mirrors : grammar.Mirrors marked)
    (context : Context) :
    Reads .absorbing .node cursor markedCursor (grammar.readObject context)
      (marked.readObject context) := by
  refine .position (fun _ _ => .expect "\x7b" (fun _ _ => ?_))
  exact (Carries.separated "\x7d" mirrors.bound
    (fun _ _ => (mirrors.readProperty context).enter)).bind
    (fun properties _ alike _ _ => .finishCompound alike (by grind) rfl)

end Grammar.Mirrors

namespace View

/-- Texts and substitutions of a template. -/
def template :
    View (List String × List Node) where
  soiled _ parts := parts.1.any holdsMarker ∨ ∃ value ∈ parts.2, value.strays .bare
  alike parts marked := parts.1 = marked.1 ∧ List.Forall₂ View.node.alike parts.2 marked.2
  refl _ := ⟨rfl, (list View.node).refl _⟩
  bare := id

/-- Texts and substitutions of a template so far, and the text behind them. -/
def templateFrom :
    View (List String × List Node × List Char) where
  soiled _ parts := parts.1.any holdsMarker ∨ ∃ value ∈ parts.2.1, value.strays .bare
  alike parts marked :=
    parts.1 = marked.1 ∧ List.Forall₂ View.node.alike parts.2.1 marked.2.1 ∧
      Twin false parts.2.2 marked.2.2
  refl _ := ⟨rfl, (list View.node).refl _, .refl _ _⟩
  bare := id

end View

/-- Read a text of a template, and the substitution behind it unless the template is closed. -/
def Grammar.readTemplatePart
    (grammar : Grammar)
    (context : Context)
    (isTagged : Bool)
    (parts : List String × List Node × List Char) :
    Reader ((List String × List Node × List Char) ⊕ (List String × List Node)) := do
  match readTemplateText? parts.2.2 with
  | none => failure
  | some (characters, isClosed, rest) =>
      let chunk := String.ofList characters
      require (isTagged || escapesAreValid chunk)
      continueAt rest
      if isClosed then
        return .inr ((chunk :: parts.1).reverse, parts.2.1.reverse)
      else
        let value ← grammar.expression context.enclosed
        let close ← cursor
        require (close.isAt "\x7d")
        return .inl (chunk :: parts.1, value :: parts.2.1, close.rest)

/-- A template is read part by part. -/
theorem Grammar.readTemplate_eq
    (grammar : Grammar)
    (context : Context)
    (role : Role)
    (isTagged : Bool) :
    grammar.readTemplate context role isTagged =
      cursor >>= fun current =>
        repeated (grammar.readTemplatePart context isTagged) grammar.bound
            ([], [], current.here.drop 1) >>= fun parts =>
          finish current.start role (.template parts.1) parts.2 :=
  rfl

namespace Grammar.Mirrors

variable
  {grammar marked : Grammar}
  {cursor markedCursor : Cursor}

/-- A text of a template, and the substitution behind it. -/
theorem readTemplatePart
    (mirrors : grammar.Mirrors marked)
    (context : Context)
    (isTagged : Bool)
    {parts markedParts : List String × List Node × List Char}
    (alike : View.templateFrom.alike parts markedParts) :
    Carries .anywhere (View.templateFrom.soiled · markedParts) (.step .templateFrom .template)
      cursor markedCursor (grammar.readTemplatePart context isTagged parts)
      (marked.readTemplatePart context isTagged markedParts) := by
  obtain ⟨texts, values, text⟩ := parts
  obtain ⟨_, markedValues, markedText⟩ := markedParts
  obtain ⟨rfl, valuesAlike, twin⟩ := alike
  unfold Grammar.readTemplatePart
  cases markedRan : readTemplateText? markedText with
  | none => exact .failure
  | some read =>
      obtain ⟨characters, isClosed, markedRest⟩ := read
      rcases twin.readTemplateText?_follows markedRan with held | ⟨rest, ran, twins⟩
      · have soiled : holdsMarker (String.ofList characters) := by
          simpa [holdsMarker] using held
        refine .soils (fun grade => .after (fun _ => .after (fun _ => ?_)))
        split
        · exact .pure (.inl (by simp [soiled]))
        · exact .after (fun _ =>
            .after (fun _ => .after (fun _ => .pure (.inl (by simp [soiled])))))
      · rw [ran]
        refine .require (fun _ => id) (.continueAt twins (fun _ _ => ?_))
        cases isClosed with
        | true =>
            refine .pure (.inr ⟨rfl, List.rel_reverse valuesAlike⟩) (fun grade isLost => ?_)
            rcases isLost with inText | ⟨value, member, isAstray⟩
            · exact .inl (by simpa using .inl (by simpa using inText))
            · exact .inr ⟨value, by simpa using member, isAstray⟩
        | false =>
            refine (mirrors.expression _ _ _).bindInner (fun value markedValue valueAlike _ _ => ?_)
            refine .lookSame (fun close markedClose same => ?_)
              (fun close markedClose atMarker => ?_)
            · refine .require (fun _ isThere => same.isAt_eq _ ▸ isThere) (.inside (.pure ?_ ?_))
              · exact .inl ⟨rfl, .cons valueAlike valuesAlike, same.rest⟩
              · rintro grade ((inText | ⟨earlier, member, isAstray⟩) | isAstray)
                · exact .inl (by simpa using .inr (by simpa using inText))
                · exact .inr ⟨earlier, List.mem_cons_of_mem _ member, isAstray⟩
                · exact .inr ⟨markedValue, List.mem_cons_self, isAstray⟩
            · intro _ _ ran
              rw [atMarker.marked_isAt] at ran
              cases ran

/-- A template behind its opening quote. -/
theorem readTemplate
    (mirrors : grammar.Mirrors marked)
    (context : Context)
    (role : Role)
    (isTagged : Bool)
    (isProper : cursor.token ≠ .invalid) :
    Reads .inside .node cursor markedCursor (grammar.readTemplate context role isTagged)
      (marked.readTemplate context role isTagged) := by
  rw [readTemplate_eq, readTemplate_eq]
  refine .lookHere (fun same => ?_)
  have starts : View.templateFrom.alike ([], [], cursor.here.drop 1)
      ([], [], markedCursor.here.drop 1) :=
    ⟨rfl, .nil, same.here isProper⟩
  refine Carries.bind ((Carries.loop .templateFrom .template
    (fun _ _ alike _ _ => mirrors.readTemplatePart context isTagged alike) mirrors.bound
    starts).weaken (fun _ => False.elim)).inside ?_
  rintro ⟨texts, values⟩ ⟨_, markedValues⟩ ⟨rfl, alike⟩ _ _
  exact .finishCompound alike (fun grade isLost => isLost.resolve_left id) rfl

/-- A regular expression, behind its first slash. -/
theorem readRegex
    (isProper : cursor.token ≠ .invalid) :
    Reads .inside .node cursor markedCursor Grammar.readRegex Grammar.readRegex := by
  refine .lookHere (fun same => ?_)
  rcases Twin.relCases (same.here isProper).readRegex?_rel with
    ⟨_, markedRan⟩ | ⟨⟨body, flags, rest⟩, ⟨_, _, markedRest⟩, ran, markedRan, rfl, rfl, twin⟩
  · rw [markedRan]
    exact .failure
  · rw [ran, markedRan]
    exact .inside (.continueAt twin (fun _ _ => .leaf))

end Grammar.Mirrors

end Reactivity.Script
