import Reactivity.Proofs.Script.Grammar.Expression
import Reactivity.Script.Grammar.Statement

namespace Reactivity.Script.Grammar.IsSound

open Reader

/-!
# Statements that are read are well formed

Declarations, imports, exports and all other statements.
-/

/-- The node is a well-formed declarator. -/
structure IsDeclarator
    (node : Node) :
    Prop where
  wellFormed : node.isWellFormed
  hasForm : node.form = .declarator

/-- The end of a statement changes only its range. -/
theorem readEnd
    {role : Role}
    {statement : Node}
    (fits : statement.Stands role) :
    (Grammar.readEnd statement).Yields (Node.Stands role) := by
  obtain ⟨form, statementRole, span, children⟩ := statement
  obtain ⟨wellFormed, rfl⟩ := fits
  obtain ⟨atRoot, below⟩ := Node.isWellFormed_mk.mp wellFormed
  exact .after (fun _ => .finish _ atRoot below)

/-- An import is a statement, whatever it binds. -/
theorem readImport
    (bound : Nat)
    (context : Context) :
    (Grammar.readImport bound context).Yields (Node.Stands .statement) := by
  refine .after (fun start => .after (fun _ => .after (fun current => ?_)))
  dsimp only
  split
  · refine .after (fun bindings => .after (fun source => .after (fun attributes => ?_)))
    exact .after (fun _ => .leaf _ rfl)
  · refine .after (fun read => .after (fun _ => .after (fun bindings => .after (fun source => ?_))))
    exact .after (fun attributes => .after (fun _ => .leaf _ rfl))

/-- A list of exports is a statement, with or without a module. -/
theorem readExportList
    (bound : Nat)
    (start : Nat) :
    (Grammar.readExportList bound start).Yields (Node.Stands .statement) := by
  refine .after (fun _ => .after (fun entries => .after (fun hasSource => ?_)))
  split
  · exact .after (fun source => .after (fun attributes => .after (fun _ => .leaf _ rfl)))
  · exact .after (fun _ => .after (fun _ => .leaf _ rfl))

/-- An export of a whole module is a statement. -/
theorem readExportAll
    (bound : Nat)
    (start : Nat) :
    (Grammar.readExportAll bound start).Yields (Node.Stands .statement) := by
  refine .after (fun _ => .after (fun isNamed => ?_))
  dsimp only
  split
  · refine .after (fun name => .after (fun outer => .after (fun _ => .after (fun source => ?_))))
    exact .after (fun attributes => .after (fun _ => .leaf _ rfl))
  · refine .after (fun outer => .after (fun _ => .after (fun source => ?_)))
    exact .after (fun attributes => .after (fun _ => .leaf _ rfl))

variable {grammar : Grammar} (sound : grammar.IsSound)

include sound

/-- A declarator has a pattern and perhaps a value. -/
theorem readDeclarator
    (context : Context) :
    (grammar.readDeclarator context).Yields IsDeclarator := by
  refine .after (fun start => (sound.pattern context).bind (fun pattern patternFits => ?_))
  refine (sound.readInitial context).bind (fun values valuesFit => ?_)
  refine (Yields.made _ _ _ _).weaken ?_
  rintro declarator ⟨span, rfl⟩
  exact ⟨Node.isWellFormed_mk.mpr ⟨rfl, by simpa using ⟨patternFits.wellFormed, valuesFit⟩⟩, rfl⟩

/-- Variables that are declared together stand in the given role. -/
theorem readVariables
    (context : Context)
    (role : Role) :
    (grammar.readVariables context role).Yields (Node.Stands role) := by
  refine .after (fun start => .after (fun keyword => ?_))
  refine (sound.readDeclarator context).bind (fun first firstFits => ?_)
  refine Yields.bind (.repeated (fun declarators => ∀ item ∈ declarators, IsDeclarator item)
    (fun declarators => ∀ item ∈ declarators, IsDeclarator item) (fun declarators fit => ?_) _
    (by simpa using firstFits)) (fun declarators fit => ?_)
  · refine .after (fun isMore => ?_)
    split
    · refine (sound.readDeclarator context).bind (fun declarator fits => .pure ?_)
      simpa using ⟨fits, fit⟩
    · exact .pure (by simpa using fit)
  · refine .finish _ ?_ (fun item member => (fit item member).wellFormed)
    simpa [Form.fits] using fun item member => (fit item member).hasForm

/-- A declaration of variables stands in the given role up to its end. -/
theorem readDeclaration
    (context : Context)
    (role : Role) :
    (grammar.readDeclaration context role).Yields (Node.Stands role) :=
  (sound.readVariables context role).bind (fun _ fits => .after (fun _ => readEnd fits))

/-- A function declaration as a statement; it can be exported, and then it is a part. -/
theorem readFunctionStatement
    (context : Context)
    (placement : Placement) :
    (grammar.readFunctionStatement context placement).Yields
      (fun function => function.Stands .statement ∧ function.form.takesAnyRole) := by
  refine (sound.readFunction _ _ _).bind (fun function fits => ?_)
  split
  · next head isFunction =>
      exact .after (fun _ => .after (fun _ => .pure ⟨fits, by rw [isFunction]; rfl⟩))
  · exact .failure

/-- A default export is a statement with a declaration or with an expression. -/
theorem readExportDefault
    (context : Context)
    (start : Nat) :
    (grammar.readExportDefault context start).Yields (Node.Stands .statement) := by
  refine .after (fun current => ?_)
  split
  · refine (sound.readFunction _ _ _).bind (fun function fits => ?_)
    exact .finish _ rfl (by simpa using fits.wellFormed)
  · split
    · refine (sound.readClass _ _ _).bind (fun definition fits => ?_)
      exact .finish _ rfl (by simpa using fits.wellFormed)
    · refine (sound.readAssignment _).bind (fun value fits => .after (fun _ => ?_))
      exact .finish _ rfl (by simpa using fits.wellFormed)

/-- What is exported by its declaration is well formed. -/
theorem readExported
    (context : Context) :
    (grammar.readExported context).Yields (fun declaration => declaration.isWellFormed) := by
  refine .after (fun current => ?_)
  split
  · refine (sound.readFunctionStatement _ _).bind (fun function fits => .pure ?_)
    exact Node.withRole_isWellFormed fits.1.wellFormed fits.2 .part
  · split
    · exact (sound.readClass _ _ _).weaken (fun _ stands => stands.wellFormed)
    · exact (sound.readDeclaration _ _).weaken (fun _ stands => stands.wellFormed)

/-- Each kind of export is a statement. -/
theorem readExport
    (context : Context) :
    (grammar.readExport context).Yields (Node.Stands .statement) := by
  refine .after (fun start => .after (fun _ => .after (fun isDefault => ?_)))
  split
  · exact sound.readExportDefault _ _
  · refine .after (fun isList => ?_)
    split
    · exact readExportList _ _
    · refine .after (fun isAll => ?_)
      split
      · exact readExportAll _ _
      · refine (sound.readExported context).bind (fun declaration fits => ?_)
        exact .finish _ rfl (by simpa using fits)

/-- The statements of a block are well formed. -/
theorem readBlock
    (context : Context)
    (role : Role) :
    (grammar.readBlock context role).Yields (Node.Stands role) := by
  refine .after (fun start => .after (fun _ => ?_))
  refine Yields.bind (.untilSymbol _ (sound.statement _ _) _ _) (fun statements fit => ?_)
  exact .finish _ rfl (fun statement member => (fit statement member).wellFormed)

omit sound in
/-- An expression becomes a statement by its end. -/
theorem readExpressionEnd
    {value : Node}
    (fits : value.Stands .expression)
    (start : Nat) :
    (Grammar.readExpressionEnd start value).Yields (Node.Stands .statement) :=
  .after (fun _ =>
    .finish _ (by simp [Form.fits, fits.hasRole]) (by simpa using fits.wellFormed))

theorem readCondition
    (context : Context) :
    (grammar.readCondition context).Yields (Node.Stands .expression) :=
  (sound.readExpression context).inParentheses

/-- A condition is a statement with one branch and with two. -/
theorem readIf
    (context : Context)
    (start : Nat) :
    (grammar.readIf context start).Yields (Node.Stands .statement) := by
  refine (sound.readCondition context).bind (fun condition conditionFits => ?_)
  refine (sound.statement _ _).bind (fun consequent consequentFits => .after (fun isMore => ?_))
  split
  · refine (sound.statement _ _).bind (fun alternative alternativeFits => .finish _ rfl ?_)
    simpa using ⟨conditionFits.wellFormed, consequentFits.wellFormed, alternativeFits.wellFormed⟩
  · exact .finish _ rfl (by simpa using ⟨conditionFits.wellFormed, consequentFits.wellFormed⟩)

theorem readOptional
    (context : Context)
    (close : String) :
    (grammar.readOptional context close).Yields (fun node => node.isWellFormed) := by
  refine .after (fun isMissing => ?_)
  split
  · exact .pure Node.absent_stands.wellFormed
  · exact (sound.readExpression context).weaken (fun _ stands => stands.wellFormed)

/-- A loop that counts is a statement, whichever of its three parts are left out. -/
theorem readForRest
    {first : Node}
    (firstFits : first.isWellFormed)
    (context : Context)
    (start : Nat) :
    (grammar.readForRest context start first).Yields (Node.Stands .statement) := by
  refine .after (fun _ => ?_)
  refine ((sound.readOptional _ _).before ";").bind (fun condition conditionFits => ?_)
  refine ((sound.readOptional _ _).before ")").bind (fun step stepFits => ?_)
  refine (sound.statement _ _).bind (fun body bodyFits => .finish _ rfl ?_)
  simpa using ⟨firstFits, conditionFits, stepFits, bodyFits.wellFormed⟩

/-- A loop over items is a statement, also where it awaits them. -/
theorem readForOfRest
    {first : Node}
    (firstFits : first.isWellFormed)
    (context : Context)
    (start : Nat)
    (isAwait : Bool) :
    (grammar.readForOfRest context start isAwait first).Yields (Node.Stands .statement) := by
  refine .after (fun _ => ((sound.readAssignment _).before ")").bind (fun value valueFits => ?_))
  refine (sound.statement _ _).bind (fun body bodyFits => .finish _ rfl ?_)
  simpa using ⟨firstFits, valueFits.wellFormed, bodyFits.wellFormed⟩

/-- A loop over keys is a statement. -/
theorem readForInRest
    {first : Node}
    (firstFits : first.isWellFormed)
    (context : Context)
    (start : Nat) :
    (grammar.readForInRest context start first).Yields (Node.Stands .statement) := by
  refine .after (fun _ => ((sound.readExpression _).before ")").bind (fun value valueFits => ?_))
  refine (sound.statement _ _).bind (fun body bodyFits => .finish _ rfl ?_)
  simpa using ⟨firstFits, valueFits.wellFormed, bodyFits.wellFormed⟩

/-- Whatever stands first in a loop, it is a statement in the end. -/
theorem readFor
    (context : Context)
    (start : Nat) :
    (grammar.readFor context start).Yields (Node.Stands .statement) := by
  refine .after (fun isAwait => .after (fun _ => .after (fun _ => .after (fun current => ?_))))
  dsimp only
  split
  · exact .after (fun _ => sound.readForRest Node.absent_stands.wellFormed _ _)
  · split
    · refine (sound.readVariables _ _).bind (fun declaration fits => .after (fun isOver => ?_))
      split
      · exact sound.readForOfRest fits.wellFormed _ _ _
      · refine .after (fun _ => .after (fun isIn => ?_))
        split
        · exact sound.readForInRest fits.wellFormed _ _
        · exact .after (fun _ => sound.readForRest fits.wellFormed _ _)
    · refine (sound.readExpression _).bind (fun first fits => .after (fun isOver => ?_))
      have targeted : (Grammar.found (first.target? false)).Yields (Node.Stands .part) :=
        found (fun _ turned => Node.target?_stands turned fits.wellFormed)
      split
      · refine .after (fun _ => targeted.bind (fun target targetFits => ?_))
        exact sound.readForOfRest targetFits.wellFormed _ _ _
      · refine .after (fun _ => .after (fun isIn => ?_))
        split
        · refine targeted.bind (fun target targetFits => ?_)
          exact sound.readForInRest targetFits.wellFormed _ _
        · exact sound.readForRest fits.wellFormed _ _

/-- A loop with its condition first is a statement. -/
theorem readWhile
    (context : Context)
    (start : Nat) :
    (grammar.readWhile context start).Yields (Node.Stands .statement) := by
  refine (sound.readCondition context).bind (fun condition conditionFits => ?_)
  refine (sound.statement _ _).bind (fun body bodyFits => .finish _ rfl ?_)
  simpa using ⟨conditionFits.wellFormed, bodyFits.wellFormed⟩

/-- A loop with its condition last is a statement. -/
theorem readDo
    (context : Context)
    (start : Nat) :
    (grammar.readDo context start).Yields (Node.Stands .statement) := by
  refine (sound.statement _ _).bind (fun body bodyFits => .after (fun _ => ?_))
  refine (sound.readCondition context).bind (fun condition conditionFits => .after (fun _ => ?_))
  exact .finish _ rfl (by simpa using ⟨bodyFits.wellFormed, conditionFits.wellFormed⟩)

theorem readCaseValue
    (context : Context) :
    (grammar.readCaseValue context).Yields (fun value => value.isWellFormed) := by
  refine .after (fun isDefault => ?_)
  split
  · exact .pure Node.absent_stands.wellFormed
  · exact .after (fun _ => (sound.readExpression _).weaken (fun _ stands => stands.wellFormed))

theorem readCaseStatements
    (context : Context) :
    (grammar.readCaseStatements context).Yields
      (fun statements => ∀ statement ∈ statements, statement.isWellFormed) := by
  refine .repeated (fun statements => ∀ statement ∈ statements, statement.isWellFormed) _
    (fun statements fit => .after (fun current => ?_)) _ (by simp)
  split
  · exact .pure (by simpa using fit)
  · refine (sound.statement _ _).bind (fun statement fits => .pure ?_)
    simpa using ⟨fits.wellFormed, fit⟩

/-- A case is a part of a switch, with its value and its statements. -/
theorem readCase
    (context : Context) :
    (grammar.readCase context).Yields (Node.Stands .part) := by
  refine .after (fun start => (sound.readCaseValue context).bind (fun value valueFits => ?_))
  refine .after (fun _ => (sound.readCaseStatements context).bind (fun statements fit => ?_))
  exact .finish _ rfl (by simpa using ⟨valueFits, fit⟩)

/-- A switch is a statement, as its cases are parts. -/
theorem readSwitch
    (context : Context)
    (start : Nat) :
    (grammar.readSwitch context start).Yields (Node.Stands .statement) := by
  refine (sound.readCondition context).bind (fun value valueFits => .after (fun _ => ?_))
  refine Yields.bind (.untilSymbol _ (sound.readCase context) _ _) (fun cases fit => ?_)
  have casesFit : ∀ item ∈ cases, item.isWellFormed :=
    fun item member => (fit item member).wellFormed
  exact .finish _ rfl (by simpa using ⟨valueFits.wellFormed, casesFit⟩)

/-- A handler is a part of a try, with or without a parameter. -/
theorem readCatch
    (context : Context) :
    (grammar.readCatch context).Yields (Node.Stands .part) := by
  refine .after (fun start => .after (fun isThere => ?_))
  split
  · refine .after (fun opens => ?_)
    dsimp only
    split
    · refine (sound.pattern context).inParentheses.bind (fun pattern patternFits => ?_)
      refine (sound.readBlock _ _).bind (fun block blockFits => .finish _ rfl ?_)
      simpa using ⟨patternFits.wellFormed, blockFits.wellFormed⟩
    · rw [pure_bind]
      refine (sound.readBlock _ _).bind (fun block blockFits => .finish _ rfl ?_)
      simpa using ⟨Node.absent_stands.wellFormed, blockFits.wellFormed⟩
  · exact .pure Node.absent_stands

/-- A try is a statement with a handler, a final block or both. -/
theorem readTry
    (context : Context)
    (start : Nat) :
    (grammar.readTry context start).Yields (Node.Stands .statement) := by
  refine (sound.readBlock _ _).bind (fun block blockFits => ?_)
  refine (sound.readCatch context).bind (fun clause clauseFits => .after (fun hasLast => ?_))
  dsimp only
  split
  · refine (sound.readBlock _ _).bind (fun last lastFits => .after (fun _ => .finish _ rfl ?_))
    simpa using ⟨blockFits.wellFormed, clauseFits.wellFormed, lastFits.wellFormed⟩
  · rw [pure_bind]
    refine .after (fun _ => .finish _ rfl ?_)
    simpa using ⟨blockFits.wellFormed, clauseFits.wellFormed, Node.absent_stands.wellFormed⟩

/-- A return is a statement with a value and without one. -/
theorem readReturn
    (context : Context)
    (start : Nat) :
    (grammar.readReturn context start).Yields (Node.Stands .statement) := by
  refine .after (fun _ => .after (fun current => ?_))
  dsimp only
  split
  · rw [pure_bind]
    exact .after (fun _ => .leaf _ rfl)
  · refine (sound.readExpression _).bind (fun value fits => ?_)
    rw [pure_bind]
    exact .after (fun _ => .finish _ rfl (by simpa using fits.wellFormed))

theorem readThrow
    (context : Context)
    (start : Nat) :
    (grammar.readThrow context start).Yields (Node.Stands .statement) := by
  refine .after (fun current => .after (fun _ => ?_))
  refine (sound.readExpression _).bind (fun value fits => .after (fun _ => ?_))
  exact .finish _ rfl (by simpa using fits.wellFormed)

omit sound in
/-- A jump is a statement if its form needs nothing below it. -/
theorem readJump
    {form : Option String → Form}
    (fits : ∀ label, (form label).fits .statement [])
    (context : Context)
    (start : Nat) :
    (Grammar.readJump context start form).Yields (Node.Stands .statement) := by
  refine .after (fun current => ?_)
  dsimp only
  split
  · exact .after (fun label => .after (fun _ => .leaf _ (fits label)))
  · exact .after (fun label => .after (fun _ => .leaf _ (fits label)))

/-- What starts with this word is a declaration or an expression. -/
theorem readLetStatement
    (context : Context)
    (placement : Placement) :
    (grammar.readLetStatement context placement).Yields (Node.Stands .statement) := by
  refine .after (fun current => ?_)
  dsimp only
  split
  · exact (sound.readAssignment _).bind (fun _ fits => readExpressionEnd fits _)
  · split
    · refine (sound.readExpression _).bind (fun value fits => ?_)
      exact .finish _ (by simp [Form.fits, fits.hasRole]) (by simpa using fits.wellFormed)
    · split
      · refine (Yields.name context).bind (fun name named => ?_)
        refine (Yields.identifier _ named).bind (fun value fits => ?_)
        exact readExpressionEnd fits _
      · exact .after (fun _ => sound.readDeclaration _ _)

/-- A name before a colon labels a statement, and any other expression is one. -/
theorem readLabeledOrExpression
    (context : Context) :
    (grammar.readLabeledOrExpression context).Yields (Node.Stands .statement) := by
  refine .after (fun start => (sound.readExpression _).bind (fun value fits => ?_))
  split
  · refine .after (fun isLabel => ?_)
    split
    · refine (sound.statement _ _).bind (fun body bodyFits => ?_)
      exact .finish _ rfl (by simpa using bodyFits.wellFormed)
    · exact readExpressionEnd fits _
  · exact readExpressionEnd fits _

/-- What a word starts is a statement. -/
theorem readWordStatement
    (context : Context)
    (placement : Placement)
    (word : String) :
    (grammar.readWordStatement context placement word).Yields (Node.Stands .statement) := by
  refine .after (fun current => ?_)
  dsimp only
  split
  · exact sound.readDeclaration _ _
  · exact .after (fun _ => sound.readDeclaration _ _)
  · exact sound.readLetStatement _ _
  · exact .after (fun _ => sound.readIf _ _)
  · exact .after (fun _ => sound.readFor _ _)
  · exact .after (fun _ => sound.readWhile _ _)
  · exact .after (fun _ => sound.readDo _ _)
  · exact .after (fun _ => sound.readSwitch _ _)
  · exact .after (fun _ => sound.readTry _ _)
  · exact .after (fun _ => sound.readThrow _ _)
  · exact .after (fun _ => sound.readReturn _ _)
  · exact .after (fun _ => readJump (fun _ => rfl) _ _)
  · exact .after (fun _ => readJump (fun _ => rfl) _ _)
  · exact .after (fun _ => .after (fun _ => .leaf _ rfl))
  · exact (sound.readFunctionStatement _ _).weaken (fun _ fits => fits.1)
  · exact .after (fun _ => sound.readClass _ _ _)
  · exact sound.readExport _
  · split
    · exact sound.readLabeledOrExpression _
    · exact readImport _ _
  · split
    · exact (sound.readFunctionStatement _ _).weaken (fun _ fits => fits.1)
    · exact sound.readLabeledOrExpression _

/-- A statement that is read is well formed and stands as a statement. -/
theorem readStatement
    (context : Context)
    (placement : Placement) :
    (grammar.readStatement context placement).Yields (Node.Stands .statement) := by
  refine .after (fun current => ?_)
  split
  · exact sound.readBlock _ _
  · exact .after (fun _ => .leaf _ rfl)
  · exact sound.readWordStatement _ _ _
  · exact sound.readLabeledOrExpression _

end Reactivity.Script.Grammar.IsSound
