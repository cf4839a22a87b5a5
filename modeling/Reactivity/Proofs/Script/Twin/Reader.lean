import Mathlib.Data.List.Forall2
import Reactivity.Proofs.Script.Reader
import Reactivity.Proofs.Script.Run
import Reactivity.Proofs.Script.Twin.Cursor
import Reactivity.Proofs.Script.Twin.Tree

namespace Reactivity.Script

open Refresh Reader

/-!
# Readers of twins

A reader carries over from the twin to the text when whatever it reads in the twin is read
alike in the text, or has the name of the marker astray. The rules follow the combinators
that readers are written with.

The twin is read first here: it may go astray where it stands at a marker, and then the
text is of no concern.
-/

/-- How the values that a reader returns for twins compare. -/
structure View (value : Type) where
  /-- The name of the marker is astray in the value. -/
  soiled : Grade → value → Prop
  /-- The values are the same up to marks. -/
  alike : value → value → Prop
  refl : ∀ value, alike value value
  bare : ∀ {grade value}, soiled grade value → soiled .bare value

namespace View

/-- Values that hold no names are the same. -/
def plain
    (value : Type) :
    View value where
  soiled _ _ := False
  alike := Eq
  refl _ := rfl
  bare := False.elim

/-- Trees are the same without marks. -/
def node :
    View Node where
  soiled grade node := node.strays grade
  alike node marked := node.unmarked = marked.unmarked
  refl _ := rfl
  bare := Node.strays_bare

/-- Values that are taken into a node one after the other. -/
def list
    {value : Type}
    (view : View value) :
    View (List value) where
  soiled _ values := ∃ value ∈ values, view.soiled .bare value
  alike := List.Forall₂ view.alike
  refl _ := List.forall₂_same.mpr (fun value _ => view.refl value)
  bare := id

/-- A value that is taken into a node. -/
def inner
    {value : Type}
    (view : View value) :
    View value where
  soiled _ := view.soiled .bare
  alike := view.alike
  refl := view.refl
  bare := id

/-- Trees of which one may be all that there is. -/
def loose :
    View (List Node) where
  soiled grade nodes := ∃ node ∈ nodes, node.strays grade
  alike := List.Forall₂ node.alike
  refl _ := List.forall₂_same.mpr (fun value _ => node.refl value)
  bare := fun ⟨node, member, isAstray⟩ => ⟨node, member, Node.strays_bare isAstray⟩

/-- Trees that are a list of statements. -/
def statements :
    View (List Node) where
  soiled _ nodes := ∃ node ∈ nodes, node.strays .deep
  alike nodes marked := Node.unmarkedAll true nodes = Node.unmarkedAll true marked
  refl _ := rfl
  bare := id

/-- Names are the same. -/
def name :
    View String where
  soiled grade name := grade = .bare ∧ name = markerName
  alike := Eq
  refl _ := rfl
  bare soiled := ⟨rfl, soiled.2⟩

/-- A value with a flag or another value that holds no names. -/
def with'
    {value : Type}
    (view : View value)
    (other : Type) :
    View (value × other) where
  soiled grade pair := view.soiled grade pair.1
  alike pair marked := view.alike pair.1 marked.1 ∧ pair.2 = marked.2
  refl pair := ⟨view.refl pair.1, rfl⟩
  bare := view.bare

/-- A value that may be missing. -/
def option
    {value : Type}
    (view : View value) :
    View (Option value) where
  soiled grade held := ∃ value, held = some value ∧ view.soiled grade value
  alike := Option.Rel view.alike
  refl
    | none => .none
    | some value => .some (view.refl value)
  bare := fun ⟨value, isHeld, soiled⟩ => ⟨value, isHeld, view.bare soiled⟩

/-- Trees whose children are the same too, one by one. -/
def opened
    (view : View Node) :
    View Node where
  soiled grade node := node.strays grade ∧ ∃ child ∈ node.children, child.strays .bare
  alike node marked :=
    node.unmarked = marked.unmarked ∧ List.Forall₂ view.alike node.children marked.children
  refl _ := ⟨rfl, List.forall₂_same.mpr (fun child _ => view.refl child)⟩
  bare soiled := ⟨Node.strays_bare soiled.1, soiled.2⟩

/-- What a repeated step returns: the next state or the result. -/
def step
    {state result : Type}
    (states : View state)
    (results : View result) :
    View (state ⊕ result) where
  soiled grade := Sum.elim (states.soiled grade) (results.soiled grade)
  alike := Sum.LiftRel states.alike results.alike
  refl
    | .inl state => .inl (states.refl state)
    | .inr result => .inr (results.refl result)
  bare {grade reached} soiled := by
    cases reached with
    | inl state => exact states.bare soiled
    | inr result => exact results.bare soiled

@[grind =]
theorem node_soiled
    (grade : Grade)
    (returned : Node) :
    node.soiled grade returned = returned.strays grade :=
  rfl

@[grind =]
theorem list_soiled
    {value : Type}
    (view : View value)
    (grade : Grade)
    (values : List value) :
    (list view).soiled grade values = ∃ value ∈ values, view.soiled .bare value :=
  rfl

@[grind =]
theorem loose_soiled
    (grade : Grade)
    (nodes : List Node) :
    loose.soiled grade nodes = ∃ node ∈ nodes, node.strays grade :=
  rfl

@[grind =]
theorem inner_soiled
    {value : Type}
    (view : View value)
    (grade : Grade)
    (returned : value) :
    (inner view).soiled grade returned = view.soiled .bare returned :=
  rfl

@[grind =]
theorem with_soiled
    {value other : Type}
    (view : View value)
    (grade : Grade)
    (pair : value × other) :
    (view.with' other).soiled grade pair = view.soiled grade pair.1 :=
  rfl

@[grind =]
theorem opened_soiled
    (view : View Node)
    (grade : Grade)
    (returned : Node) :
    (opened view).soiled grade returned =
      (returned.strays grade ∧ ∃ child ∈ returned.children, child.strays .bare) :=
  rfl

@[grind =]
theorem step_soiled_inl
    {state result : Type}
    (states : View state)
    (results : View result)
    (grade : Grade)
    (reached : state) :
    (step states results).soiled grade (.inl reached) = states.soiled grade reached :=
  rfl

@[grind =]
theorem step_soiled_inr
    {state result : Type}
    (states : View state)
    (results : View result)
    (grade : Grade)
    (final : result) :
    (step states results).soiled grade (.inr final) = results.soiled grade final :=
  rfl

/-- Trees that are the same one by one. -/
theorem map_unmarked
    {nodes marked : List Node}
    (alike : List.Forall₂ node.alike nodes marked) :
    nodes.map Node.unmarked = marked.map Node.unmarked := by
  induction alike with
  | nil => rfl
  | cons same _ inductionHypothesis => rw [List.map_cons, List.map_cons, same, inductionHypothesis]

theorem alike_of_map
    {nodes marked : List Node}
    (same : nodes.map Node.unmarked = marked.map Node.unmarked) :
    List.Forall₂ node.alike nodes marked := by
  induction nodes generalizing marked with
  | nil =>
      rw [List.map_eq_nil_iff.mp same.symm]
      exact .nil
  | cons first rest inductionHypothesis =>
      cases marked with
      | nil => cases same
      | cons second others =>
          obtain ⟨sameFirst, sameRest⟩ := List.cons.inj same
          exact .cons sameFirst (inductionHypothesis sameRest)

end View

/-- What has been read in the twin is soiled, or read alike in the text. -/
def Follows
    {value : Type}
    (view : View value)
    (out marked : Option (value × Cursor)) :
    Prop :=
  ∀ ⦃markedValue markedStop⦄, marked = some (markedValue, markedStop) →
    view.soiled .deep markedValue ∨
      ∃ value stop, out = some (value, stop) ∧ view.alike value markedValue ∧
        stop.Paired markedStop

/-- Nothing has been read in either of the twins. -/
theorem Follows.stay
    {value : Type}
    {view : View value}
    {out marked : Option (value × Cursor)}
    {returned markedReturned : value}
    {stop markedStop : Cursor}
    (isRead : out = some (returned, stop))
    (markedRead : marked = some (markedReturned, markedStop))
    (alike : view.alike returned markedReturned)
    (paired : stop.Paired markedStop) :
    Follows view out marked := by
  intro _ _ ran
  rw [markedRead] at ran
  cases ran
  exact .inr ⟨returned, stop, isRead, alike, paired⟩

/-- What is asked of a reader that starts where the twin has a marker. -/
inductive Entry where
  /-- It does not start there. -/
  | inside
  /-- It is read alike in the text, as everywhere. -/
  | anywhere
  /-- It takes the marker for the start of what it reads. -/
  | opening
  /-- It takes the marker into what it reads, or fails. -/
  | absorbing
  deriving DecidableEq

/-- What is asked of the values at a marker. -/
def Entry.Demands
    {value : Type}
    (entry : Entry)
    (view : View value)
    (out marked : Option (value × Cursor)) :
    Prop :=
  match entry with
  | .inside => True
  | .anywhere => Follows view out marked
  | .opening => ∀ ⦃markedValue markedStop⦄, marked = some (markedValue, markedStop) →
      view.soiled .bare markedValue
  | .absorbing => ∀ ⦃markedValue markedStop⦄, marked = some (markedValue, markedStop) →
      view.soiled .deep markedValue

/--
The readers carry over from the twin to the text.

When something has been lost before, because the twin went astray, the twin only has to
keep it.
-/
structure Carries
    {value : Type}
    (entry : Entry)
    (lost : Grade → Prop)
    (view : View value)
    (cursor marked : Cursor)
    (read markedRead : Reader value) :
    Prop where
  keeps : ∀ ⦃grade⦄, lost grade → markedRead.Yields (view.soiled grade)
  same : cursor.SameToken marked → Follows view (read.run cursor) (markedRead.run marked)
  mark : cursor.AtMarker marked → entry.Demands view (read.run cursor) (markedRead.run marked)

/-- The readers carry over, and nothing has been lost before. -/
abbrev Reads
    {value : Type}
    (entry : Entry)
    (view : View value)
    (cursor marked : Cursor)
    (read markedRead : Reader value) :
    Prop :=
  Carries entry (fun _ => False) view cursor marked read markedRead

namespace Carries

variable
  {value other state : Type}
  {entry : Entry}
  {lost : Grade → Prop}
  {view : View value}
  {cursor marked : Cursor}
  {read markedRead : Reader value}

/-- Readers that take in a marker may start anywhere. -/
theorem enter
    (carries : Carries .absorbing lost view cursor marked read markedRead) :
    Carries entry lost view cursor marked read markedRead := by
  refine ⟨carries.keeps, carries.same, fun atMarker => ?_⟩
  cases entry with
  | inside => trivial
  | anywhere => exact fun _ _ ran => .inl (carries.mark atMarker ran)
  | opening => exact fun _ _ ran => view.bare (carries.mark atMarker ran)
  | absorbing => exact carries.mark atMarker

/-- Readers need not start at a marker. -/
theorem inside
    (carries : Carries entry lost view cursor marked read markedRead) :
    Carries .inside lost view cursor marked read markedRead :=
  ⟨carries.keeps, carries.same, fun _ => trivial⟩

theorem follows
    (carries : Carries .anywhere lost view cursor marked read markedRead)
    (paired : cursor.Paired marked) :
    Follows view (read.run cursor) (markedRead.run marked) := by
  rcases paired with same | atMarker
  · exact carries.same same
  · exact carries.mark atMarker

theorem weaken
    {less : Grade → Prop}
    (carries : Carries entry lost view cursor marked read markedRead)
    (implies : ∀ grade, less grade → lost grade) :
    Carries entry less view cursor marked read markedRead :=
  ⟨fun _ isLost => carries.keeps (implies _ isLost), carries.same, carries.mark⟩

/-- Values that compare in one way compare in a weaker one. -/
theorem through
    {weaker : View value}
    (carries : Carries entry lost view cursor marked read markedRead)
    (soils : ∀ grade returned, view.soiled grade returned → weaker.soiled grade returned)
    (alikes : ∀ first second, view.alike first second → weaker.alike first second) :
    Carries entry lost weaker cursor marked read markedRead := by
  have passes {out markedOut : Option (value × Cursor)} (follows : Follows view out markedOut) :
      Follows weaker out markedOut := by
    intro _ _ ran
    rcases follows ran with soiled | ⟨returned, stop, isRead, alike, paired⟩
    · exact .inl (soils _ _ soiled)
    · exact .inr ⟨returned, stop, isRead, alikes _ _ alike, paired⟩
  refine ⟨fun _ isLost => (carries.keeps isLost).weaken (soils _),
    fun same => passes (carries.same same), fun atMarker => ?_⟩
  have demanded := carries.mark atMarker
  cases entry with
  | inside => trivial
  | anywhere => exact passes demanded
  | opening => exact fun _ _ ran => soils _ _ (demanded ran)
  | absorbing => exact fun _ _ ran => soils _ _ (demanded ran)

/-- A reader of the twin may fail at a marker. -/
theorem stopping
    {from' : Entry}
    (carries : Carries from' lost view cursor marked read markedRead)
    (fails : cursor.AtMarker marked → markedRead.run marked = none) :
    Carries entry lost view cursor marked read markedRead := by
  refine ⟨carries.keeps, carries.same, fun atMarker => ?_⟩
  cases entry with
  | inside => trivial
  | anywhere | opening | absorbing =>
      intro _ _ ran
      rw [fails atMarker] at ran
      cases ran

/-- Nothing is asked where the twin fails. -/
theorem failure :
    Carries entry lost view cursor marked read Alternative.failure := by
  refine ⟨fun _ _ => .failure, fun _ _ _ ran => ?_, fun _ => ?_⟩
  · cases ran
  · cases entry with
    | inside => trivial
    | anywhere | opening | absorbing =>
        intro _ _ ran
        cases ran

/-- The text is of no concern where whatever is read in the twin is soiled. -/
theorem soils
    (yields : ∀ grade, markedRead.Yields (view.soiled grade)) :
    Carries entry lost view cursor marked read markedRead := by
  refine ⟨fun grade _ => yields grade, fun _ _ _ ran => .inl (yields .deep ran), fun _ => ?_⟩
  cases entry with
  | inside => trivial
  | anywhere => exact fun _ _ ran => .inl (yields .deep ran)
  | opening => exact fun _ _ ran => yields .bare ran
  | absorbing => exact fun _ _ ran => yields .deep ran

theorem pure
    {returned markedReturned : value}
    (alike : view.alike returned markedReturned)
    (keeps : ∀ grade, lost grade → view.soiled grade markedReturned) :
    Carries .anywhere lost view cursor marked (Pure.pure returned) (Pure.pure markedReturned) := by
  have follows (paired : cursor.Paired marked) :
      Follows view ((Pure.pure returned : Reader value).run cursor)
        ((Pure.pure markedReturned : Reader value).run marked) := by
    intro _ _ ran
    cases ran
    exact .inr ⟨returned, cursor, rfl, alike, paired⟩
  exact ⟨fun _ isLost => .pure (keeps _ isLost), fun same => follows (.inl same),
    fun atMarker => follows (.inr atMarker)⟩

/-- What a reader that goes on behind another one in the twin returns. -/
theorem follows_bind
    {next markedNext : value → Reader other}
    {otherView : View other}
    (first : Follows view (read.run cursor) (markedRead.run marked))
    (soils : ∀ markedValue, view.soiled .deep markedValue →
      (markedNext markedValue).Yields (otherView.soiled .deep))
    (second : ∀ value markedValue stop markedStop, view.alike value markedValue →
      stop.Paired markedStop →
        Follows otherView ((next value).run stop) ((markedNext markedValue).run markedStop)) :
    Follows otherView ((read >>= next).run cursor) ((markedRead >>= markedNext).run marked) := by
  intro result markedStop ran
  obtain ⟨markedValue, between, readRan, nextRan⟩ := run_bind_eq_some.mp ran
  rcases first readRan with soiled | ⟨value, stop, textRan, alike, paired⟩
  · exact .inl (soils markedValue soiled nextRan)
  · rcases second value markedValue stop between alike paired nextRan with
      soiled | ⟨last, lastStop, lastRan, lastAlike, lastPaired⟩
    · exact .inl soiled
    · exact .inr ⟨last, lastStop, run_bind_eq_some.mpr ⟨value, stop, textRan, lastRan⟩,
        lastAlike, lastPaired⟩

/-- A reader that goes on behind another one, and may return what that has returned. -/
theorem bind
    {next markedNext : value → Reader other}
    {otherView : View other}
    (first : Reads entry view cursor marked read markedRead)
    (second : ∀ value markedValue, view.alike value markedValue → ∀ stop markedStop,
      Carries .anywhere (fun grade => lost grade ∨ view.soiled grade markedValue) otherView
        stop markedStop (next value) (markedNext markedValue)) :
    Carries entry lost otherView cursor marked (read >>= next) (markedRead >>= markedNext) := by
  have soils (grade : Grade) (markedValue : value) (soiled : view.soiled grade markedValue) :
      (markedNext markedValue).Yields (otherView.soiled grade) :=
    (second markedValue markedValue (view.refl _) cursor marked).keeps (.inr soiled)
  have follows (firstFollows : Follows view (read.run cursor) (markedRead.run marked)) :=
    follows_bind firstFollows (soils .deep)
      (fun value markedValue stop markedStop alike =>
        (second value markedValue alike stop markedStop).follows)
  refine ⟨fun grade isLost => .after (fun markedValue => ?_), fun same => follows (first.same same),
    fun atMarker => ?_⟩
  · exact (second markedValue markedValue (view.refl _) cursor marked).keeps (.inl isLost)
  · have demanded := first.mark atMarker
    cases entry with
    | inside => trivial
    | anywhere => exact follows demanded
    | opening | absorbing =>
        intro _ _ ran
        obtain ⟨markedValue, between, readRan, nextRan⟩ := run_bind_eq_some.mp ran
        exact soils _ markedValue (demanded readRan) nextRan

/-- A reader that goes on behind another one, which keeps a part of what has been lost. -/
theorem bindMade
    {next markedNext : value → Reader other}
    {otherView : View other}
    (kept moved : Grade → Prop)
    (first : Carries entry moved view cursor marked read markedRead)
    (second : ∀ value markedValue, view.alike value markedValue → ∀ stop markedStop,
      Carries .anywhere (fun grade => kept grade ∨ view.soiled grade markedValue) otherView
        stop markedStop (next value) (markedNext markedValue))
    (splits : ∀ grade, lost grade → kept grade ∨ moved grade) :
    Carries entry lost otherView cursor marked (read >>= next) (markedRead >>= markedNext) := by
  have reads : Reads entry view cursor marked read markedRead :=
    first.weaken (fun _ => False.elim)
  have carries := reads.bind second
  refine ⟨fun grade isLost => ?_, carries.same, carries.mark⟩
  rcases splits grade isLost with isKept | isMoved
  · exact carries.keeps isKept
  · exact (first.keeps isMoved).bind (fun markedValue soiled =>
      (second markedValue markedValue (view.refl _) cursor marked).keeps (.inr soiled))

/-- A reader that goes on behind another one, which keeps all that has been lost. -/
theorem handOn
    {next markedNext : value → Reader other}
    {otherView : View other}
    (first : Carries entry lost view cursor marked read markedRead)
    (second : ∀ value markedValue, view.alike value markedValue → ∀ stop markedStop,
      Carries .anywhere (view.soiled · markedValue) otherView stop markedStop (next value)
        (markedNext markedValue)) :
    Carries entry lost otherView cursor marked (read >>= next) (markedRead >>= markedNext) :=
  bindMade (fun _ => False) lost first
    (fun value markedValue alike stop markedStop =>
      (second value markedValue alike stop markedStop).weaken
        (fun _ isLost => isLost.resolve_left id))
    (fun _ => .inr)

/-- What starts at a marker is soiled when it is taken into a node. -/
theorem inner
    (carries : Carries .opening lost view cursor marked read markedRead) :
    Carries .absorbing lost view.inner cursor marked read markedRead := by
  refine ⟨fun _ isLost => (carries.keeps isLost).weaken (fun _ => view.bare), fun same => ?_,
    carries.mark⟩
  intro _ _ ran
  exact (carries.same same ran).imp_left view.bare

/-- A reader that goes on behind another one, and takes what that has returned into a node. -/
theorem bindInner
    {next markedNext : value → Reader other}
    {otherView : View other}
    (first : Reads .opening view cursor marked read markedRead)
    (second : ∀ value markedValue, view.alike value markedValue → ∀ stop markedStop,
      Carries .anywhere (fun grade => lost grade ∨ view.soiled .bare markedValue) otherView
        stop markedStop (next value) (markedNext markedValue)) :
    Carries entry lost otherView cursor marked (read >>= next) (markedRead >>= markedNext) :=
  enter (first.inner.bind second)

/-- A reader that goes on behind a value that holds no names. -/
theorem bindPlain
    {next markedNext : value → Reader other}
    {otherView : View other}
    (first : Reads entry (.plain value) cursor marked read markedRead)
    (second : ∀ value stop markedStop,
      Carries .anywhere lost otherView stop markedStop (next value) (markedNext value)) :
    Carries entry lost otherView cursor marked (read >>= next) (markedRead >>= markedNext) := by
  refine first.bind ?_
  rintro value _ rfl stop markedStop
  exact (second value stop markedStop).weaken (fun _ isLost => isLost.resolve_right id)

/-- Positions are not compared. -/
theorem position
    {next markedNext : Nat → Reader value}
    (second : ∀ start markedStart,
      Carries entry lost view cursor marked (next start) (markedNext markedStart)) :
    Carries entry lost view cursor marked (Reader.position >>= next)
      (Reader.position >>= markedNext) :=
  ⟨fun _ isLost => .after (fun start => (second start start).keeps isLost),
    fun same => (second cursor.start marked.start).same same,
    fun atMarker => (second cursor.start marked.start).mark atMarker⟩

theorem spanFrom
    {next markedNext : Span → Reader value}
    (start markedStart : Nat)
    (second : ∀ span markedSpan,
      Carries entry lost view cursor marked (next span) (markedNext markedSpan)) :
    Carries entry lost view cursor marked (Reader.spanFrom start >>= next)
      (Reader.spanFrom markedStart >>= markedNext) :=
  ⟨fun _ isLost => .after (fun span => (second span span).keeps isLost),
    fun same => (second _ _).same same, fun atMarker => (second _ _).mark atMarker⟩

/-- A reader that looks at the cursor. -/
theorem look
    {next markedNext : Cursor → Reader value}
    (second : ∀ cursor marked,
      Carries entry lost view cursor marked (next cursor) (markedNext marked)) :
    Carries entry lost view cursor marked (Reader.cursor >>= next)
      (Reader.cursor >>= markedNext) :=
  ⟨fun _ isLost => .after (fun marked => (second marked marked).keeps isLost),
    fun same => (second cursor marked).same same,
    fun atMarker => (second cursor marked).mark atMarker⟩

/-- A reader that looks at the cursor and decides by its token. -/
theorem lookSame
    {next markedNext : Cursor → Reader value}
    (second : ∀ cursor marked, cursor.SameToken marked →
      Carries .inside lost view cursor marked (next cursor) (markedNext marked))
    (atMark : ∀ cursor marked, cursor.AtMarker marked →
      entry.Demands view ((next cursor).run cursor) ((markedNext marked).run marked)) :
    Carries entry lost view cursor marked (Reader.cursor >>= next)
      (Reader.cursor >>= markedNext) :=
  ⟨fun _ isLost => .after (fun marked => (second marked marked (.refl _)).keeps isLost),
    fun same => (second cursor marked same).same same, atMark cursor marked⟩

/-- A reader that looks at the cursor where it starts. -/
theorem lookHere
    {next markedNext : Cursor → Reader value}
    (second : cursor.SameToken marked →
      Reads .inside view cursor marked (next cursor) (markedNext marked)) :
    Reads .inside view cursor marked (Reader.cursor >>= next) (Reader.cursor >>= markedNext) :=
  ⟨fun _ => False.elim, fun same => (second same).same same, fun _ => trivial⟩

/--
A reader that looks at the cursor and remembers its token.

At a marker the text does not matter, so the same token can be taken for it.
-/
theorem remember
    {next markedNext : Cursor → Reader value}
    (second : ∀ current markedCurrent, current.SameToken markedCurrent → ∀ cursor marked,
      Carries entry lost view cursor marked (next current) (markedNext markedCurrent))
    (starts : entry ≠ .anywhere) :
    Carries entry lost view cursor marked (Reader.cursor >>= next)
      (Reader.cursor >>= markedNext) := by
  refine lookSame (fun cursor marked same => (second cursor marked same cursor marked).inside)
    (fun cursor marked atMarker => ?_)
  have demanded := (second marked marked (.refl _) cursor marked).mark atMarker
  cases entry with
  | inside => trivial
  | anywhere => exact (starts rfl).elim
  | opening | absorbing => exact demanded

/-- Reading on at the next token. -/
theorem advance
    {next markedNext : Unit → Reader value}
    (second : ∀ stop markedStop,
      Carries .anywhere lost view stop markedStop (next ()) (markedNext ())) :
    Carries .inside lost view cursor marked (Reader.advance >>= next)
      (Reader.advance >>= markedNext) :=
  ⟨fun _ isLost => .after (fun _ => (second cursor marked).keeps isLost),
    fun same => (second cursor.next marked.next).follows same.next, fun _ => trivial⟩

/-- Reading on at a later part of the text. -/
theorem continueAt
    {next markedNext : Unit → Reader value}
    {text markedText : List Char}
    (twin : Twin false text markedText)
    (second : ∀ stop markedStop,
      Carries .anywhere lost view stop markedStop (next ()) (markedNext ())) :
    Carries .anywhere lost view cursor marked (Reader.continueAt text >>= next)
      (Reader.continueAt markedText >>= markedNext) :=
  ⟨fun _ isLost => .after (fun _ => (second cursor marked).keeps isLost),
    fun _ => (second _ _).follows (Cursor.paired_ofText _ _ twin),
    fun _ => (second _ _).follows (Cursor.paired_ofText _ _ twin)⟩

/-- A condition that holds in the text if it holds in the twin. -/
theorem require
    {next markedNext : Unit → Reader value}
    {condition markedCondition : Bool}
    (implies : cursor.Paired marked → markedCondition = true → condition = true)
    (second : Carries entry lost view cursor marked (next ()) (markedNext ())) :
    Carries entry lost view cursor marked (Reader.require condition >>= next)
      (Reader.require markedCondition >>= markedNext) := by
  cases markedCondition with
  | false => exact failure
  | true =>
      refine ⟨second.keeps, fun same => ?_, fun atMarker => ?_⟩
      · rw [implies (.inl same) rfl]
        exact second.same same
      · rw [implies (.inr atMarker) rfl]
        exact second.mark atMarker

/-- A choice that both readers make alike, or that the twin does not make at a marker. -/
theorem ite
    {condition markedCondition : Bool}
    {read markedRead second markedSecond : Reader value}
    (same : cursor.SameToken marked → condition = markedCondition)
    (atMark : cursor.AtMarker marked →
      markedCondition = false ∧ (entry = .anywhere → condition = false))
    (yes : cursor.SameToken marked → markedCondition = true →
      Carries .inside lost view cursor marked read markedRead)
    (no : Carries entry lost view cursor marked second markedSecond)
    (keeps : ∀ grade, lost grade → markedRead.Yields (view.soiled grade)) :
    Carries entry lost view cursor marked (if condition then read else second)
      (if markedCondition then markedRead else markedSecond) := by
  refine ⟨fun grade isLost => ?_, fun isSame => ?_, fun atMarker => ?_⟩
  · cases markedCondition with
    | true => exact keeps grade isLost
    | false => exact no.keeps isLost
  · rw [same isSame]
    cases markedCondition with
    | true => exact (yes isSame rfl).same isSame
    | false => exact no.same isSame
  · obtain ⟨markedFails, fails⟩ := atMark atMarker
    rw [markedFails]
    cases entry with
    | inside => trivial
    | anywhere =>
        rw [fails rfl]
        exact no.mark atMarker
    | opening | absorbing => exact no.mark atMarker

end Carries

namespace Cursor

variable
  {cursor marked : Cursor}

theorem SameToken.isAt_eq
    (same : cursor.SameToken marked)
    (symbol : String) :
    cursor.isAt symbol = marked.isAt symbol := by
  rw [isAt, isAt, same.token]

theorem SameToken.isAtWord_eq
    (same : cursor.SameToken marked)
    (word : String) :
    cursor.isAtWord word = marked.isAtWord word := by
  rw [isAtWord, isAtWord, same.token]

theorem SameToken.isAtEnd_eq
    (same : cursor.SameToken marked) :
    cursor.isAtEnd = marked.isAtEnd := by
  rw [isAtEnd, isAtEnd, same.token]

theorem SameToken.name?_eq
    (same : cursor.SameToken marked)
    (context : Context) :
    cursor.name? context = marked.name? context := by
  rw [name?, name?, same.token]

theorem MarkerAhead.marked_isAt
    (ahead : cursor.MarkerAhead marked)
    (symbol : String) :
    marked.isAt symbol = false := by
  rw [isAt, ahead.token]
  rfl

theorem MarkerAhead.marked_isAtWord
    (ahead : cursor.MarkerAhead marked)
    {word : String}
    (isOther : word ≠ markerName) :
    marked.isAtWord word = false := by
  rw [isAtWord, ahead.token, beq_eq_false_iff_ne]
  intro same
  cases same
  exact isOther rfl

theorem MarkerAhead.isAt
    (ahead : cursor.MarkerAhead marked)
    {symbol : String}
    (isOther : symbol ≠ "\x7d") :
    cursor.isAt symbol = false := by
  have anew := ahead.anew
  rw [Cursor.isAt, beq_eq_false_iff_ne]
  intro isSymbol
  rw [isSymbol] at anew
  exact isOther (by simpa [Token.startsAnew] using anew)

theorem MarkerAhead.isAtWord
    (ahead : cursor.MarkerAhead marked)
    {word : String}
    (goesOn : word ∈ continuingWords) :
    cursor.isAtWord word = false := by
  have anew := ahead.anew
  rw [Cursor.isAtWord, beq_eq_false_iff_ne]
  intro isWord
  rw [isWord] at anew
  simp [Token.startsAnew, goesOn] at anew

theorem SameToken.isAtAny_eq
    (same : cursor.SameToken marked)
    (symbols : List String) :
    cursor.isAtAny symbols = marked.isAtAny symbols := by
  rw [isAtAny, isAtAny, funext same.isAt_eq]

theorem SameToken.isAtKey_eq
    (same : cursor.SameToken marked) :
    cursor.isAtKey = marked.isAtKey := by
  rw [isAtKey, isAtKey, same.token]

/-- Whether a token stands on a new line is the same in twins, unless it is the last one. -/
theorem SameToken.onLine_eq
    (same : cursor.SameToken marked)
    {condition : Bool}
    (needsToken : marked.token = .finish → condition = false) :
    (!cursor.isOnNewLine && condition) = (!marked.isOnNewLine && condition) := by
  rcases same.newLine with atEnd | newLine
  · rw [needsToken (same.token ▸ atEnd), Bool.and_false, Bool.and_false]
  · rw [newLine]

theorem MarkerAhead.marked_isAtKey
    (ahead : cursor.MarkerAhead marked) :
    marked.isAtKey = true := by
  rw [isAtKey, ahead.token]

theorem MarkerAhead.marked_isAtAny
    (ahead : cursor.MarkerAhead marked)
    (symbols : List String) :
    marked.isAtAny symbols = false := by
  simp [isAtAny, ahead.marked_isAt]

theorem MarkerAhead.isAtAny
    (ahead : cursor.MarkerAhead marked)
    {symbols : List String}
    (areOther : "\x7d" ∉ symbols) :
    cursor.isAtAny symbols = false := by
  rw [Cursor.isAtAny, List.any_eq_false]
  intro symbol member
  rw [ahead.isAt (fun isBrace => areOther (isBrace ▸ member))]
  decide

end Cursor

namespace Carries

variable
  {value other state : Type}
  {entry : Entry}
  {lost : Grade → Prop}
  {view : View value}
  {cursor marked : Cursor}

/-- A choice by the symbol at the cursor. -/
theorem iteAt
    {read markedRead second markedSecond : Reader value}
    (symbol : String)
    (yes : Carries .inside lost view cursor marked read markedRead)
    (no : Carries entry lost view cursor marked second markedSecond)
    (starts : entry = .anywhere → symbol ≠ "\x7d") :
    Carries entry lost view cursor marked (if cursor.isAt symbol then read else second)
      (if marked.isAt symbol then markedRead else markedSecond) :=
  ite (fun same => same.isAt_eq symbol)
    (fun atMarker =>
      ⟨atMarker.marked_isAt symbol, fun isAnywhere => atMarker.isAt (starts isAnywhere)⟩)
    (fun _ _ => yes) no (fun _ isLost => yes.keeps isLost)

/-- A choice by the word at the cursor. -/
theorem iteAtWord
    {read markedRead second markedSecond : Reader value}
    (word : String)
    (yes : Carries .inside lost view cursor marked read markedRead)
    (no : Carries entry lost view cursor marked second markedSecond)
    (isOther : word ≠ markerName)
    (goesOn : entry = .anywhere → word ∈ continuingWords) :
    Carries entry lost view cursor marked (if cursor.isAtWord word then read else second)
      (if marked.isAtWord word then markedRead else markedSecond) :=
  ite (fun same => same.isAtWord_eq word)
    (fun atMarker => ⟨atMarker.marked_isAtWord isOther,
      fun isAnywhere => atMarker.isAtWord (goesOn isAnywhere)⟩)
    (fun _ _ => yes) no (fun _ isLost => yes.keeps isLost)

/-- A choice by the symbol that is there. -/
theorem ifAt
    {read markedRead second markedSecond : Reader value}
    (symbol : String)
    (yes : ∀ stop markedStop, Carries .inside lost view stop markedStop read markedRead)
    (no : ∀ stop markedStop, Carries entry lost view stop markedStop second markedSecond)
    (starts : entry = .anywhere → symbol ≠ "\x7d") :
    Carries entry lost view cursor marked
      (Reader.isAt symbol >>= fun isThere => if isThere then read else second)
      (Reader.isAt symbol >>= fun isThere => if isThere then markedRead else markedSecond) :=
  look (fun cursor marked => iteAt symbol (yes cursor marked) (no cursor marked) starts)

/-- A choice by the word that is there. -/
theorem ifAtWord
    {read markedRead second markedSecond : Reader value}
    (word : String)
    (yes : ∀ stop markedStop, Carries .inside lost view stop markedStop read markedRead)
    (no : ∀ stop markedStop, Carries entry lost view stop markedStop second markedSecond)
    (isOther : word ≠ markerName)
    (goesOn : entry = .anywhere → word ∈ continuingWords) :
    Carries entry lost view cursor marked
      (Reader.isAtWord word >>= fun isThere => if isThere then read else second)
      (Reader.isAtWord word >>= fun isThere => if isThere then markedRead else markedSecond) :=
  look (fun cursor marked =>
    iteAtWord word (yes cursor marked) (no cursor marked) isOther goesOn)

/-- A reader that goes on with whether a symbol is there. -/
theorem onAt
    {next markedNext : Bool → Reader value}
    (symbol : String)
    (second : ∀ isThere stop markedStop,
      Carries entry lost view stop markedStop (next isThere) (markedNext isThere))
    (starts : entry = .anywhere → symbol ≠ "\x7d") :
    Carries entry lost view cursor marked (Reader.isAt symbol >>= next)
      (Reader.isAt symbol >>= markedNext) := by
  have unfolds (next : Bool → Reader value) :
      next = fun isThere => if isThere then next true else next false := by
    funext isThere
    cases isThere <;> rfl
  rw [unfolds next, unfolds markedNext]
  exact ifAt symbol (fun stop markedStop => (second true stop markedStop).inside)
    (second false) starts

/--
A choice by the next two tokens, the first of which is read then.

Where the second one is a marker, it may be taken for what the choice asks for, and then it
is taken in.
-/
theorem iteAdvance
    {condition markedCondition : Bool}
    {read markedRead : Unit → Reader value}
    {second markedSecond : Reader value}
    (same : cursor.SameToken marked → cursor.next.SameToken marked.next →
      condition = markedCondition)
    (ahead : cursor.SameToken marked → cursor.next.AtMarker marked.next →
      condition = true → markedCondition = true)
    (atMark : cursor.AtMarker marked →
      markedCondition = false ∧ (entry = .anywhere → condition = false))
    (yes : ∀ stop markedStop,
      Carries .absorbing lost view stop markedStop (read ()) (markedRead ()))
    (no : Carries entry lost view cursor marked second markedSecond) :
    Carries entry lost view cursor marked
      (if condition then Reader.advance >>= read else second)
      (if markedCondition then Reader.advance >>= markedRead else markedSecond) := by
  have advanced : Carries .inside lost view cursor marked (Reader.advance >>= read)
      (Reader.advance >>= markedRead) :=
    .advance (fun stop markedStop => (yes stop markedStop).enter)
  refine ⟨fun grade isLost => ?_, fun isSame => ?_, fun atMarker => ?_⟩
  · split
    · exact advanced.keeps isLost
    · exact no.keeps isLost
  · rcases isSame.next with nextSame | nextMarker
    · rw [same isSame nextSame]
      split
      · exact advanced.same isSame
      · exact no.same isSame
    · cases markedCondition with
      | true => exact fun _ _ ran => .inl ((yes _ _).mark nextMarker ran)
      | false =>
          rw [Bool.eq_false_iff.mpr (fun holds => Bool.noConfusion (ahead isSame nextMarker holds))]
          exact no.same isSame
  · obtain ⟨markedFails, fails⟩ := atMark atMarker
    rw [markedFails]
    cases entry with
    | inside => trivial
    | anywhere =>
        rw [fails rfl]
        exact no.mark atMarker
    | opening | absorbing => exact no.mark atMarker

/-- A choice by a symbol that is read if it is there. -/
theorem ifAccept
    {read markedRead second markedSecond : Reader value}
    (symbol : String)
    (yes : ∀ stop markedStop, Carries .anywhere lost view stop markedStop read markedRead)
    (no : ∀ stop markedStop, Carries entry lost view stop markedStop second markedSecond)
    (starts : entry = .anywhere → symbol ≠ "\x7d") :
    Carries entry lost view cursor marked
      (Reader.accept symbol >>= fun isThere => if isThere then read else second)
      (Reader.accept symbol >>= fun isThere => if isThere then markedRead else markedSecond) := by
  have unfolds (read second : Reader value) :
      (Reader.accept symbol >>= fun isThere => if isThere then read else second) =
        (Reader.isAt symbol >>= fun isThere =>
          if isThere then Reader.advance >>= fun _ => read else second) := by
    rw [Reader.accept, bind_assoc]
    congr
    funext isThere
    cases isThere <;> rfl
  rw [unfolds, unfolds]
  exact ifAt symbol (fun _ _ => .advance yes) no starts

/-- A choice by a word that is read if it is there. -/
theorem ifAcceptWord
    {read markedRead second markedSecond : Reader value}
    (word : String)
    (yes : ∀ stop markedStop, Carries .anywhere lost view stop markedStop read markedRead)
    (no : ∀ stop markedStop, Carries entry lost view stop markedStop second markedSecond)
    (isOther : word ≠ markerName)
    (goesOn : entry = .anywhere → word ∈ continuingWords) :
    Carries entry lost view cursor marked
      (Reader.acceptWord word >>= fun isThere => if isThere then read else second)
      (Reader.acceptWord word >>= fun isThere => if isThere then markedRead else markedSecond) := by
  have unfolds (read second : Reader value) :
      (Reader.acceptWord word >>= fun isThere => if isThere then read else second) =
        (Reader.isAtWord word >>= fun isThere =>
          if isThere then Reader.advance >>= fun _ => read else second) := by
    rw [Reader.acceptWord, bind_assoc]
    congr
    funext isThere
    cases isThere <;> rfl
  rw [unfolds, unfolds]
  exact ifAtWord word (fun _ _ => .advance yes) no isOther goesOn

/-- A reader that goes on with whether a symbol is read. -/
theorem onAccept
    {next markedNext : Bool → Reader value}
    (symbol : String)
    (yes : ∀ stop markedStop,
      Carries .anywhere lost view stop markedStop (next true) (markedNext true))
    (no : ∀ stop markedStop,
      Carries entry lost view stop markedStop (next false) (markedNext false))
    (starts : entry = .anywhere → symbol ≠ "\x7d") :
    Carries entry lost view cursor marked (Reader.accept symbol >>= next)
      (Reader.accept symbol >>= markedNext) := by
  have unfolds (next : Bool → Reader value) :
      next = fun isThere => if isThere then next true else next false := by
    funext isThere
    cases isThere <;> rfl
  rw [unfolds next, unfolds markedNext]
  exact ifAccept symbol yes no starts

/-- A reader that goes on with whether a word is read. -/
theorem onAcceptWord
    {next markedNext : Bool → Reader value}
    (word : String)
    (yes : ∀ stop markedStop,
      Carries .anywhere lost view stop markedStop (next true) (markedNext true))
    (no : ∀ stop markedStop,
      Carries entry lost view stop markedStop (next false) (markedNext false))
    (isOther : word ≠ markerName)
    (goesOn : entry = .anywhere → word ∈ continuingWords) :
    Carries entry lost view cursor marked (Reader.acceptWord word >>= next)
      (Reader.acceptWord word >>= markedNext) := by
  have unfolds (next : Bool → Reader value) :
      next = fun isThere => if isThere then next true else next false := by
    funext isThere
    cases isThere <;> rfl
  rw [unfolds next, unfolds markedNext]
  exact ifAcceptWord word yes no isOther goesOn

/-- A symbol that has to be there is no marker. -/
theorem expect
    {next markedNext : Unit → Reader value}
    (symbol : String)
    (second : ∀ stop markedStop,
      Carries .anywhere lost view stop markedStop (next ()) (markedNext ())) :
    Carries entry lost view cursor marked (Reader.expect symbol >>= next)
      (Reader.expect symbol >>= markedNext) := by
  have unfolds (next : Unit → Reader value) :
      (Reader.expect symbol >>= next) =
        (Reader.accept symbol >>= fun isThere =>
          if isThere then next () else Alternative.failure) := by
    rw [Reader.expect, bind_assoc]
    congr
    funext isThere
    cases isThere <;> rfl
  rw [unfolds, unfolds]
  exact enter (ifAccept symbol second (fun _ _ => .failure) (by simp))

theorem expectOnly
    (symbol : String) :
    Reads .absorbing (.plain Unit) cursor marked (Reader.expect symbol) (Reader.expect symbol) := by
  rw [← bind_pure (Reader.expect symbol)]
  exact .expect symbol (fun _ _ => .pure rfl (by grind))

/-- A word that has to be there is no marker. -/
theorem expectWord
    {next markedNext : Unit → Reader value}
    (word : String)
    (second : ∀ stop markedStop,
      Carries .anywhere lost view stop markedStop (next ()) (markedNext ()))
    (isOther : word ≠ markerName) :
    Carries entry lost view cursor marked (Reader.expectWord word >>= next)
      (Reader.expectWord word >>= markedNext) := by
  have unfolds (next : Unit → Reader value) :
      (Reader.expectWord word >>= next) =
        (Reader.acceptWord word >>= fun isThere =>
          if isThere then next () else Alternative.failure) := by
    rw [Reader.expectWord, bind_assoc]
    congr
    funext isThere
    cases isThere <;> rfl
  rw [unfolds, unfolds]
  exact enter (ifAcceptWord word second (fun _ _ => .failure) isOther (by simp))

/-- A symbol that has to be there, and is not read. -/
theorem requireAt
    {next markedNext : Unit → Reader value}
    (symbol : String)
    (second : ∀ stop markedStop,
      Carries .inside lost view stop markedStop (next ()) (markedNext ())) :
    Carries entry lost view cursor marked
      (Reader.isAt symbol >>= fun isThere => Reader.require isThere >>= next)
      (Reader.isAt symbol >>= fun isThere => Reader.require isThere >>= markedNext) := by
  have unfolds (next : Unit → Reader value) :
      (Reader.isAt symbol >>= fun isThere => Reader.require isThere >>= next) =
        (Reader.isAt symbol >>= fun isThere =>
          if isThere then next () else Alternative.failure) := by
    congr
    funext isThere
    cases isThere <;> rfl
  rw [unfolds, unfolds]
  exact enter (ifAt symbol second (fun _ _ => .failure) (by simp))

/--
Reading on only in the same line.

At the end of the texts the lines may differ, but nothing is read there.
-/
theorem sameLine
    {next markedNext : Unit → Reader value}
    (fails : ∀ marked : Cursor, marked.token = .finish → (markedNext ()).run marked = none)
    (second : ∀ stop markedStop,
      Carries .inside lost view stop markedStop (next ()) (markedNext ())) :
    Carries entry lost view cursor marked
      (Reader.cursor >>= fun current => Reader.require (!current.isOnNewLine) >>= next)
      (Reader.cursor >>= fun current => Reader.require (!current.isOnNewLine) >>= markedNext) := by
  have runs (start : Cursor) (next : Unit → Reader value) :
      (Reader.cursor >>= fun current => Reader.require (!current.isOnNewLine) >>= next).run start =
        if start.isOnNewLine then none else (next ()).run start := by
    simp only [StateT.run_bind, run_cursor, Option.bind_eq_bind, Option.bind_some, run_require]
    cases start.isOnNewLine <;> rfl
  refine ⟨fun _ isLost => .after (fun _ => .after (fun _ => (second cursor marked).keeps isLost)),
    fun same => ?_, fun atMarker => ?_⟩
  · rw [runs, runs]
    rcases same.newLine with atEnd | newLine
    · rw [fails marked (same.token ▸ atEnd), ite_self]
      intro _ _ ran
      cases ran
    · rw [newLine]
      split
      · intro _ _ ran
        cases ran
      · exact (second cursor marked).same same
  · rw [runs, runs, if_pos atMarker.markedNewLine]
    cases entry with
    | inside => trivial
    | anywhere | opening | absorbing =>
        intro _ _ ran
        cases ran

/-- The end of a statement may stand before a marker. -/
theorem semicolon
    {next markedNext : Unit → Reader value}
    (second : ∀ stop markedStop,
      Carries .anywhere lost view stop markedStop (next ()) (markedNext ())) :
    Carries .anywhere lost view cursor marked (Reader.semicolon >>= next)
      (Reader.semicolon >>= markedNext) := by
  have runs (start : Cursor) :
      Reader.semicolon.run start =
        if start.isAt ";" then
          some ((), start.next)
        else if start.isAt "\x7d" || start.isAtEnd || start.isOnNewLine then
          some ((), start)
        else
          none := by
    simp only [Reader.semicolon, StateT.run_bind, run_cursor, Option.bind_eq_bind, Option.bind_some]
    cases start.isAt ";" with
    | true => rfl
    | false => exact run_require _ _
  have alone : Reads .anywhere (.plain Unit) cursor marked Reader.semicolon Reader.semicolon := by
    refine ⟨fun _ => False.elim, fun same => ?_, fun atMarker => ?_⟩
    · rw [runs, runs, same.isAt_eq, same.isAt_eq, same.isAtEnd_eq]
      intro _ _ ran
      split at ran
      next isThere =>
        cases ran
        exact .inr ⟨(), _, if_pos isThere, rfl, same.next⟩
      next isMissing =>
        rw [if_neg isMissing]
        split at ran
        next ends =>
          cases ran
          refine .inr ⟨(), cursor, if_pos ?_, rfl, .inl same⟩
          rcases same.newLine with atEnd | newLine
          · simp [Cursor.isAtEnd, ← same.token, atEnd]
          · rw [newLine]
            exact ends
        next => cases ran
    · have text : Reader.semicolon.run cursor = some ((), cursor) := by
        rw [runs, atMarker.isAt (by decide), atMarker.newLine]
        simp
      have twin : Reader.semicolon.run marked = some ((), marked) := by
        rw [runs, atMarker.marked_isAt, atMarker.markedNewLine]
        simp
      intro _ _ ran
      rw [twin] at ran
      cases ran
      exact .inr ⟨(), cursor, text, rfl, .inr atMarker⟩
  exact alone.bindPlain (fun _ => second)

/-- The marker has a name wherever it stands. -/
theorem isName_markerName
    (context : Context) :
    isName context markerName := by
  have notYield : (markerName == "yield") = false := by decide
  have notReserved : reservedWords.contains markerName = false := by decide
  rw [Script.isName, notYield, notReserved, Bool.and_false]
  rfl

theorem name?_marked
    {context : Context}
    (ahead : cursor.MarkerAhead marked) :
    marked.name? context = some markerName := by
  rw [Cursor.name?, ahead.token]
  exact if_pos (isName_markerName context)

/-- A name at a marker is that of the marker. -/
theorem name
    (context : Context) :
    Reads .opening .name cursor marked (Reader.name context) (Reader.name context) := by
  have runs (start : Cursor) :
      (Reader.name context).run start =
        (start.name? context).map (fun name => (name, start.next)) := by
    simp only [Reader.name, StateT.run_bind, run_cursor, Option.bind_eq_bind, Option.bind_some]
    cases start.name? context <;> rfl
  refine ⟨fun _ => False.elim, fun same => ?_, fun atMarker => ?_⟩
  · rw [runs, runs, same.name?_eq]
    intro _ _ ran
    obtain ⟨found, isFound, made⟩ := Option.map_eq_some_iff.mp ran
    cases made
    exact .inr ⟨_, cursor.next, by rw [isFound]; rfl, rfl, same.next⟩
  · intro _ _ ran
    rw [runs, name?_marked atMarker.toMarkerAhead] at ran
    cases ran
    exact ⟨rfl, rfl⟩

/-- A name that may be missing is that of the marker at a marker. -/
theorem name?
    (context : Context) :
    Reads .opening (.option .name) cursor marked (Reader.name? context)
      (Reader.name? context) := by
  have runs (start : Cursor) :
      (Reader.name? context).run start =
        some (start.name? context, if (start.name? context).isSome then start.next else start) := by
    simp only [Reader.name?, StateT.run_bind, run_cursor, Option.bind_eq_bind, Option.bind_some]
    cases start.name? context <;> rfl
  refine ⟨fun _ => False.elim, fun same => ?_, fun atMarker => ?_⟩
  · rw [runs, runs, same.name?_eq]
    intro _ _ ran
    cases ran
    refine .inr ⟨_, _, rfl, (View.option .name).refl _, ?_⟩
    split
    · exact same.next
    · exact .inl same
  · intro _ _ ran
    rw [runs, name?_marked atMarker.toMarkerAhead] at ran
    cases ran
    exact ⟨markerName, rfl, rfl, rfl⟩

/-- The node that is made from what has been read. -/
theorem finish
    {form : Form}
    {children markedChildren : List Node}
    {start markedStart : Nat}
    {role : Role}
    (alike : Node.unmarkedAll form.listsStatements children =
      Node.unmarkedAll form.listsStatements markedChildren)
    (keeps : ∀ grade, lost grade →
      form.strays grade markedChildren ∨
        form.isLeaf = false ∧ ∃ child ∈ markedChildren, child.strays (form.gradeBelow grade)) :
    Carries .anywhere lost .node cursor marked (Reader.finish start role form children)
      (Reader.finish markedStart role form markedChildren) := by
  refine spanFrom start markedStart (fun span markedSpan => .pure ?_ (fun grade isLost => ?_))
  · simp only [View.node, Node.unmarked_mk, alike]
  · exact Node.strays_mk.mpr (keeps grade isLost)

/-- A reader that goes on with a node that is made. -/
theorem finished
    {form : Form}
    {children markedChildren : List Node}
    {start markedStart : Nat}
    {role : Role}
    {next markedNext : Node → Reader value}
    (second : ∀ span markedSpan,
      Carries entry lost view cursor marked (next (.mk form role span children))
        (markedNext (.mk form role markedSpan markedChildren))) :
    Carries entry lost view cursor marked (Reader.finish start role form children >>= next)
      (Reader.finish markedStart role form markedChildren >>= markedNext) := by
  simp only [Reader.finish, bind_assoc, pure_bind]
  exact spanFrom start markedStart second

/-- A node that is made without children. -/
theorem leaf
    {form : Form}
    {start markedStart : Nat}
    {role : Role} :
    Reads .anywhere .node cursor marked (Reader.finish start role form)
      (Reader.finish markedStart role form) :=
  finish rfl (fun _ => False.elim)

/-- A node takes in what has been read for its children. -/
theorem finishCompound
    {form : Form}
    {children markedChildren : List Node}
    {start markedStart : Nat}
    {role : Role}
    (alike : List.Forall₂ View.node.alike children markedChildren)
    (keeps : ∀ grade, lost grade →
      form.strays grade markedChildren ∨ ∃ child ∈ markedChildren, child.strays .bare)
    (isCompound : form.isCompound) :
    Carries .anywhere lost .node cursor marked (Reader.finish start role form children)
      (Reader.finish markedStart role form markedChildren) := by
  obtain ⟨noLeaf, takesBare, noList⟩ := form.isCompound_iff.mp isCompound
  refine finish ?_ (fun grade isLost => ?_)
  · rw [noList, Node.unmarkedAll_false, Node.unmarkedAll_false, View.map_unmarked alike]
  · rw [takesBare]
    exact (keeps grade isLost).imp_right (fun below => ⟨noLeaf, below⟩)

/-- A node takes in what has been read for its children, and shows it. -/
theorem finishOpened
    {inner : View Node}
    {form : Form}
    {children markedChildren : List Node}
    {start markedStart : Nat}
    {role : Role}
    (alike : List.Forall₂ inner.alike children markedChildren)
    (alikes : ∀ first second, inner.alike first second → first.unmarked = second.unmarked)
    (keeps : ∀ grade, lost grade → ∃ child ∈ markedChildren, child.strays .bare)
    (isCompound : form.isCompound) :
    Carries .anywhere lost (.opened inner) cursor marked (Reader.finish start role form children)
      (Reader.finish markedStart role form markedChildren) := by
  obtain ⟨noLeaf, takesBare, noList⟩ := form.isCompound_iff.mp isCompound
  refine spanFrom start markedStart
    (fun span markedSpan => .pure ⟨?_, alike⟩ (fun grade isLost => ?_))
  · rw [Node.unmarked_mk, Node.unmarked_mk, noList, Node.unmarkedAll_false, Node.unmarkedAll_false,
      View.map_unmarked (alike.imp alikes)]
  · refine ⟨Node.strays_mk.mpr (.inr ⟨noLeaf, ?_⟩), keeps grade isLost⟩
    rw [takesBare]
    exact keeps grade isLost

/-- A step that is repeated until it has a result. -/
theorem loop
    {result : Type}
    {step markedStep : state → Reader (state ⊕ result)}
    (states : View state)
    (results : View result)
    (steps : ∀ reached markedReached, states.alike reached markedReached → ∀ stop markedStop,
      Carries .anywhere (states.soiled · markedReached) (.step states results) stop markedStop
        (step reached) (markedStep markedReached))
    {bound markedBound : Nat}
    (enough : markedBound ≤ bound)
    {first markedFirst : state}
    (alike : states.alike first markedFirst) :
    Carries .anywhere (states.soiled · markedFirst) results cursor marked
      (Reader.repeated step bound first) (Reader.repeated markedStep markedBound markedFirst) := by
  -- What has been lost is kept by every step.
  have keeps {grade : Grade} (markedBound : Nat) {reached : state}
      (soiled : states.soiled grade reached) :
      (Reader.repeated markedStep markedBound reached).Yields (results.soiled grade) := by
    refine Yields.repeated (states.soiled grade) _ (fun reached soiled => ?_) markedBound soiled
    refine ((steps reached reached (states.refl _) cursor marked).keeps soiled).weaken ?_
    rintro (next | final) soiled <;> exact soiled
  have follows (paired : cursor.Paired marked) :
      Follows results ((Reader.repeated step bound first).run cursor)
        ((Reader.repeated markedStep markedBound markedFirst).run marked) := by
    induction markedBound generalizing bound first markedFirst cursor marked with
    | zero =>
        intro _ _ ran
        cases ran
    | succ markedBound inductionHypothesis =>
        obtain ⟨bound, rfl⟩ : ∃ fewer, bound = fewer + 1 := ⟨bound - 1, by omega⟩
        refine follows_bind ((steps first markedFirst alike cursor marked).follows paired) ?_ ?_
        · rintro (next | final) soiled
          · exact keeps markedBound soiled
          · exact .pure soiled
        · rintro reached markedReached stop markedStop reachedAlike reachedPaired
          cases reachedAlike with
          | inl nextAlike => exact inductionHypothesis (by omega) nextAlike reachedPaired
          | inr finalAlike =>
              intro _ _ ran
              cases ran
              exact .inr ⟨_, _, rfl, finalAlike, reachedPaired⟩
  exact ⟨fun _ => keeps markedBound, fun same => follows (.inl same),
    fun atMarker => follows (.inr atMarker)⟩

/-- Items up to a closing symbol are taken into what they are items of. -/
theorem untilSymbol
    {read markedRead : Reader value}
    {bound markedBound : Nat}
    (close : String)
    (enough : markedBound ≤ bound)
    (reads : ∀ stop markedStop, Reads .opening view stop markedStop read markedRead) :
    Reads .anywhere (.list view) cursor marked (Reader.untilSymbol bound close read)
      (Reader.untilSymbol markedBound close markedRead) := by
  refine (loop (.list view) (.list view) (fun items markedItems alike stop markedStop => ?_)
    enough .nil).weaken
    (fun _ => False.elim)
  refine enter (ifAccept close (fun _ _ => .pure (.inr (List.rel_reverse alike)) (by grind))
    (fun stop markedStop => ?_) (by simp))
  refine (reads stop markedStop).bindInner (fun item markedItem itemAlike _ _ => ?_)
  exact .pure (.inl (.cons itemAlike alike)) (by grind)

/-- Items with commas between them are taken into what they are items of. -/
theorem separated
    {read markedRead : Reader value}
    {bound markedBound : Nat}
    (close : String)
    (enough : markedBound ≤ bound)
    (reads : ∀ stop markedStop, Reads .opening view stop markedStop read markedRead) :
    Reads .anywhere (.list view) cursor marked (Reader.separated bound close read)
      (Reader.separated markedBound close markedRead) := by
  refine untilSymbol close enough (fun stop markedStop => ?_)
  refine (reads stop markedStop).bind (fun item markedItem alike stop markedStop => ?_)
  exact enter (ifAt close (fun _ _ => inside (.pure alike (by grind)))
    (fun _ _ => .expect "," (fun _ _ => .pure alike (by grind))) (by simp))

/-- What is read before a symbol is returned. -/
theorem before
    {view : View Node}
    {read markedRead : Reader Node}
    (symbol : String)
    (reads : Reads entry view cursor marked read markedRead) :
    Reads entry view cursor marked (Reader.before symbol read)
      (Reader.before symbol markedRead) := by
  exact reads.bind (fun node markedNode alike _ _ =>
    .expect symbol (fun _ _ => .pure alike (by grind)))

/-- What stands in parentheses belongs to a statement. -/
theorem inParentheses
    {read markedRead : Reader Node}
    (reads : ∀ stop markedStop, Reads .opening .node stop markedStop read markedRead) :
    Reads .absorbing (.inner .node) cursor marked (Reader.inParentheses read)
      (Reader.inParentheses markedRead) :=
  .expect "(" (fun stop markedStop => enter (before ")" (reads stop markedStop).inner))

end Carries

end Reactivity.Script
