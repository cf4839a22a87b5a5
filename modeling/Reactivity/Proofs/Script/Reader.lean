import Reactivity.Proofs.Script.WellFormed
import Reactivity.Script.Grammar.Basic

namespace Reactivity.Script.Reader

/-!
# What readers yield

A reader yields values with a property when every value that it returns has it.
Nothing is said about when a reader returns a value. The rules below follow the
combinators that readers are written with, so that a reader is taken apart in the
order in which it reads.
-/

/-- Every value that the reader returns has the property. -/
def Yields
    {value : Type}
    (read : Reader value)
    (post : value → Prop) :
    Prop :=
  ∀ ⦃start result stop⦄, read.run start = some (result, stop) → post result

namespace Yields

variable {value other state result : Type}

theorem pure
    {post : value → Prop}
    {returned : value}
    (holds : post returned) :
    Yields (Pure.pure returned) post := by
  intro start result stop ran
  simp only [StateT.run_pure, Option.pure_def, Option.some.injEq, Prod.mk.injEq] at ran
  rw [← ran.1]
  exact holds

theorem failure
    {post : value → Prop} :
    Yields Alternative.failure post := by
  intro start result stop ran
  have impossible : (none : Option (value × Cursor)) = some (result, stop) := ran
  cases impossible

/-- Of two readers in a row, the second may rely on what the first yields. -/
theorem bind
    {read : Reader value}
    {next : value → Reader other}
    {middle : value → Prop}
    {post : other → Prop}
    (first : read.Yields middle)
    (second : ∀ value, middle value → (next value).Yields post) :
    Yields (read >>= next) post := by
  intro start result stop ran
  rw [StateT.run_bind] at ran
  obtain ⟨⟨value, between⟩, readRan, nextRan⟩ := Option.bind_eq_some_iff.mp ran
  exact second value (first readRan) nextRan

/-- What a reader before returns may be of no interest. -/
theorem after
    {read : Reader value}
    {next : value → Reader other}
    {post : other → Prop}
    (second : ∀ value, (next value).Yields post) :
    Yields (read >>= next) post := by
  have anything : read.Yields (fun _ => True) := fun _ _ _ _ => trivial
  exact anything.bind (fun value _ => second value)

theorem weaken
    {read : Reader value}
    {post weaker : value → Prop}
    (yields : read.Yields post)
    (implies : ∀ value, post value → weaker value) :
    read.Yields weaker :=
  fun _ _ _ ran => implies _ (yields ran)

/-- The second of two readers is tried where the first one fails. -/
theorem orElse
    {first second : Reader value}
    {post : value → Prop}
    (firstYields : first.Yields post)
    (secondYields : second.Yields post) :
    Yields (first <|> second) post := by
  intro start result stop ran
  have tried : (first.run start <|> second.run start) = some (result, stop) := ran
  cases firstRan : first.run start with
  | none =>
      rw [firstRan] at tried
      exact secondYields tried
  | some returned =>
      rw [firstRan] at tried
      have same : returned = (result, stop) := Option.some.inj tried
      exact firstYields (same ▸ firstRan)

theorem map
    {read : Reader value}
    {change : value → other}
    {post : other → Prop}
    (yields : read.Yields (fun value => post (change value))) :
    Yields (change <$> read) post := by
  rw [map_eq_pure_bind]
  exact yields.bind (fun _ holds => pure holds)

/--
A repeated step.

The invariant holds of the state before each step, and the step that ends the
repetition makes the property from it.
-/
theorem repeated
    {step : state → Reader (state ⊕ result)}
    (invariant : state → Prop)
    (post : result → Prop)
    (stepYields : ∀ current, invariant current → (step current).Yields (Sum.elim invariant post))
    (bound : Nat)
    {first : state}
    (initially : invariant first) :
    (Reader.repeated step bound first).Yields post := by
  induction bound generalizing first with
  | zero =>
      exact failure
  | succ bound inductionHypothesis =>
      refine (stepYields first initially).bind (fun reached holds => ?_)
      cases reached with
      | inl next =>
          exact inductionHypothesis holds
      | inr result =>
          exact pure holds

/-- A list of items up to a closing symbol. -/
theorem untilSymbol
    {read : Reader value}
    (post : value → Prop)
    (yields : read.Yields post)
    (bound : Nat)
    (close : String) :
    (Reader.untilSymbol bound close read).Yields (fun items => ∀ item ∈ items, post item) := by
  refine repeated (fun items => ∀ item ∈ items, post item) _ (fun items holds => ?_) bound (by simp)
  refine after (fun isClosed => ?_)
  split
  · exact pure (by simpa using holds)
  · refine yields.bind (fun item itemHolds => pure ?_)
    simpa using ⟨itemHolds, holds⟩

/-- A list of items with commas between them. -/
theorem separated
    {read : Reader value}
    (post : value → Prop)
    (yields : read.Yields post)
    (bound : Nat)
    (close : String) :
    (Reader.separated bound close read).Yields (fun items => ∀ item ∈ items, post item) := by
  refine untilSymbol post ?_ bound close
  refine yields.bind (fun item holds => ?_)
  refine after (fun isClosed => ?_)
  split
  · exact pure holds
  · exact after (fun _ => pure holds)

/-- The node that is made from what has been read. -/
theorem made
    (start : Nat)
    (role : Role)
    (form : Form)
    (children : List Node) :
    (Reader.finish start role form children).Yields
      (fun node => ∃ span, node = .mk form role span children) :=
  after (fun span => pure ⟨span, rfl⟩)

/-- A node is well formed if its form fits and the nodes below it are well formed. -/
theorem finish
    {role : Role}
    {form : Form}
    {children : List Node}
    (start : Nat)
    (fits : form.fits role children)
    (below : ∀ child ∈ children, child.isWellFormed) :
    (Reader.finish start role form children).Yields (Node.Stands role) := by
  refine (made start role form children).weaken ?_
  rintro node ⟨span, rfl⟩
  exact ⟨Node.isWellFormed_mk.mpr ⟨fits, below⟩, rfl⟩

/-- A node that fits its children and is not bound to its role. -/
theorem finishLoose
    {role : Role}
    {form : Form}
    {children : List Node}
    (start : Nat)
    (fits : form.fits role children)
    (below : ∀ child ∈ children, child.isWellFormed)
    (takesAny : form.takesAnyRole) :
    (Reader.finish start role form children).Yields
      (fun node => node.Stands role ∧ node.form.takesAnyRole) := by
  refine (made start role form children).weaken ?_
  rintro node ⟨span, rfl⟩
  exact ⟨⟨Node.isWellFormed_mk.mpr ⟨fits, below⟩, rfl⟩, takesAny⟩

/-- A node without children only has to fit its role. -/
theorem leaf
    {role : Role}
    {form : Form}
    (start : Nat)
    (fits : form.fits role []) :
    (Reader.finish start role form).Yields (Node.Stands role) :=
  finish start fits (by simp)

/-- The node of an identifier. -/
theorem identifier
    {role : Role}
    {name : String}
    (start : Nat)
    (named : isIdentifier name) :
    (Reader.finish start role (.identifier name)).Yields (Node.Stands role) := by
  refine (made start role (.identifier name) []).weaken ?_
  rintro node ⟨span, rfl⟩
  exact ⟨Node.identifier_isWellFormed named role span, rfl⟩

theorem before
    {read : Reader Node}
    {post : Node → Prop}
    (yields : read.Yields post)
    (symbol : String) :
    (Reader.before symbol read).Yields post :=
  yields.bind (fun _ holds => after (fun _ => pure holds))

theorem inParentheses
    {read : Reader Node}
    {post : Node → Prop}
    (yields : read.Yields post) :
    (Reader.inParentheses read).Yields post :=
  after (fun _ => yields.before ")")

/-- The names that are read are identifiers. -/
theorem name
    (context : Context) :
    (Reader.name context).Yields (fun name => isIdentifier name) := by
  intro start result stop ran
  unfold Reader.name at ran
  rw [StateT.run_bind] at ran
  obtain ⟨⟨current, between⟩, atStart, ran⟩ := Option.bind_eq_some_iff.mp ran
  split at ran
  · next named =>
      cases ran
      exact Cursor.isIdentifier_of_name? named
  · cases ran

end Yields

end Reactivity.Script.Reader
