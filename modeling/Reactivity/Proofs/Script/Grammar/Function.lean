import Reactivity.Proofs.Script.Grammar.Pattern
import Reactivity.Script.Grammar.Class

namespace Reactivity.Script.Grammar.IsSound

open Reader

/-!
# Functions, literals and classes that are read are well formed

The shapes that walks rely on are made here: the body of a function holds
statements, and the body of an arrow function without braces holds its value.
-/

variable {grammar : Grammar} (sound : grammar.IsSound)

/-- Statements up to an end; directives are no statements. -/
theorem readStatements
    {read : Reader Node}
    (yields : read.Yields (Node.Stands .statement))
    (bound : Nat)
    (isEnd : Cursor → Bool) :
    (Grammar.readStatements bound isEnd read).Yields
      (fun listed => ∀ statement ∈ listed.2, statement.Stands .statement) := by
  refine .repeated (fun listed => ∀ statement ∈ listed.2, statement.Stands .statement) _
    (fun listed fit => ?_) bound (by simp)
  refine .after (fun current => ?_)
  split
  · exact .pure (by simpa using fit)
  · refine yields.bind (fun statement fits => ?_)
    split
    · exact .pure (by simp)
    · exact .pure (by simpa using ⟨fits, fit⟩)

include sound

/-- The body of a function is a body. -/
theorem readBody
    (context : Context) :
    (grammar.readBody context).Yields
      (fun body => body.isWellFormed ∧ Rule.isBody body.form) := by
  refine .after (fun start => .after (fun _ => ?_))
  refine (readStatements (sound.statement context .listed) _ _).bind (fun listed fit => ?_)
  refine .after (fun _ => (Yields.made _ _ _ _).weaken ?_)
  rintro body ⟨span, rfl⟩
  refine ⟨Node.isWellFormed_mk.mpr ⟨?_, fun statement member => (fit statement member).wellFormed⟩,
    rfl⟩
  simpa [Form.fits] using fun statement member => (fit statement member).hasRole

/-- Parameters and a body make a function in the given role. -/
theorem readParametersAndBody
    (start : Nat)
    (role : Role)
    (head : FunctionHead) :
    (grammar.readParametersAndBody start role head).Yields (Node.Stands role) := by
  refine (sound.readParameters _).bind (fun parameters parametersFit => ?_)
  refine (sound.readBody _).bind (fun body bodyFits => ?_)
  exact .finish _ bodyFits.2 (by simpa using ⟨parametersFit.wellFormed, bodyFits.1⟩)

/-- A function is well formed with a name and without one. -/
theorem readFunction
    (context : Context)
    (role : Role)
    (isDeclaration : Bool) :
    (grammar.readFunction context role isDeclaration).Yields (Node.Stands role) := by
  refine .after (fun start => .after (fun isAsync => .after (fun _ => ?_)))
  refine .after (fun isGenerator => .after (fun name => ?_))
  exact sound.readParametersAndBody _ _ _

/-- The function of a method is an expression. -/
theorem readMethod
    (kind : PropertyKind)
    (isAsync isGenerator : Bool) :
    (grammar.readMethod kind isAsync isGenerator).Yields (Node.Stands .expression) := by
  refine .after (fun start => ?_)
  refine (sound.readParametersAndBody _ _ _).bind (fun function fits => ?_)
  split
  · exact .after (fun _ => .pure fits)
  · exact .failure

/-- An arrow function, with braces or with a value. -/
theorem readArrow
    (context : Context)
    (start : Nat)
    (isAsync : Bool)
    {items : List Node}
    (itemsFit : ∀ item ∈ items, item.isWellFormed) :
    (grammar.readArrow context start isAsync items).Yields (Node.Stands .expression) := by
  refine (Yields.finish _ rfl itemsFit).bind (fun parameters parametersFit => ?_)
  refine .after (fun current => .after (fun _ => .after (fun _ => .after (fun hasBraces => ?_))))
  split
  · refine (sound.readBody _).bind (fun body bodyFits => ?_)
    exact .finish _ (by simp [Form.fits, Node.areFunction, bodyFits.2])
      (by simpa using ⟨parametersFit.wellFormed, bodyFits.1⟩)
  · refine .after (fun bodyStart => (sound.assignment _).bind (fun value valueFits => ?_))
    refine (Yields.made _ _ _ _).bind ?_
    rintro statement ⟨statementSpan, rfl⟩
    refine (Yields.made _ _ _ _).bind ?_
    rintro body ⟨bodySpan, rfl⟩
    refine .finish _ rfl ?_
    simp [parametersFit.wellFormed, Node.isWellFormed_mk, Form.fits, valueFits.wellFormed,
      valueFits.hasRole]

/-- An item of an array or an argument. -/
theorem readItem
    (context : Context) :
    (grammar.readItem context).Yields (fun item => item.isWellFormed ∧ item.isCalled) := by
  refine .after (fun start => .after (fun isSpread => ?_))
  split
  · refine (sound.assignment _).bind (fun value fits => .after (fun isFollowed => ?_))
    refine (Yields.made _ _ _ _).weaken ?_
    rintro item ⟨span, rfl⟩
    refine ⟨Node.isWellFormed_mk.mpr ⟨?_, by simpa using fits.wellFormed⟩, rfl⟩
    simp [Form.fits, fits.hasRole]
  · refine (sound.assignment _).weaken (fun _ stands => ⟨stands.wellFormed, ?_⟩)
    exact Node.isCalled_iff.mpr (.inl stands.hasRole)

/-- The items of an array are well formed, and so are its holes. -/
theorem readArrayItem
    (context : Context) :
    (grammar.readArrayItem context).Yields (fun item => item.isWellFormed) := by
  refine .after (fun isHole => ?_)
  split
  · exact .pure Node.absent_stands.wellFormed
  · exact (sound.readItem context).bind (fun _ fits => .after (fun _ => .pure fits.1))

/-- An array is an expression. -/
theorem readArray
    (context : Context) :
    (grammar.readArray context).Yields (Node.Stands .expression) := by
  refine .after (fun start => .after (fun _ => ?_))
  exact Yields.bind
    (.untilSymbol (fun item => item.isWellFormed) (sound.readArrayItem context) grammar.bound "]")
    (fun items fit => .finish _ rfl fit)

/-- A method is a part of an object, with its key. -/
theorem readObjectMethod
    (context : Context)
    (start : Nat)
    (kind : PropertyKind)
    (isAsync isGenerator : Bool) :
    (grammar.readObjectMethod context start kind isAsync isGenerator).Yields
      (Node.Stands .part) := by
  refine (sound.readKey context).bind (fun key keyFits => ?_)
  refine (sound.readMethod _ _ _).bind (fun function fits => ?_)
  exact .finish _ rfl (by simpa using ⟨keyFits, fits.wellFormed⟩)

/-- A property without a method is a part of an object, also in its short form. -/
theorem readPlainProperty
    (context : Context) :
    (grammar.readPlainProperty context).Yields (Node.Stands .part) := by
  refine .after (fun current => ?_)
  refine (sound.readKey context).bind (fun key keyFits => .after (fun separator => ?_))
  split
  · refine (sound.readMethod _ _ _).bind (fun function fits => ?_)
    exact .finish _ rfl (by simpa using ⟨keyFits, fits.wellFormed⟩)
  · split
    · refine .after (fun _ => (sound.assignment _).bind (fun value fits => ?_))
      exact .finish _ rfl (by simpa using ⟨keyFits, fits.wellFormed⟩)
    · split
      · exact .failure
      · next named =>
          refine (Yields.made _ _ _ _).bind ?_
          rintro value ⟨span, rfl⟩
          have fits :=
            Node.identifier_isWellFormed (Cursor.isIdentifier_of_name? named) .expression span
          refine (sound.readInitial _).bind (fun values valuesFit => ?_)
          split
          · exact .finish _ rfl (by simpa using ⟨keyFits, fits⟩)
          · exact .finish _ rfl (by simpa using ⟨keyFits, fits, valuesFit⟩)

/-- Every property of an object is well formed. -/
theorem readProperty
    (context : Context) :
    (grammar.readProperty context).Yields (fun property => property.isWellFormed) := by
  have method (start kind isAsync isGenerator) :
      (grammar.readObjectMethod context start kind isAsync isGenerator).Yields
        (fun property => property.isWellFormed) :=
    (sound.readObjectMethod _ _ _ _ _).weaken (fun _ stands => stands.wellFormed)
  refine .after (fun current => ?_)
  split
  · exact (sound.readItem context).weaken (fun _ fits => fits.1)
  · split
    · exact .after (fun _ => method _ _ _ _)
    · split
      · refine .after (fun _ => .after (fun following => .after (fun _ => ?_)))
        exact .after (fun isGenerator => method _ _ _ _)
      · split
        · exact .after (fun _ => method _ _ _ _)
        · split
          · exact .after (fun _ => method _ _ _ _)
          · exact (sound.readPlainProperty context).weaken (fun _ stands => stands.wellFormed)

/-- An object is an expression, as its properties are parts. -/
theorem readObject
    (context : Context) :
    (grammar.readObject context).Yields (Node.Stands .expression) := by
  refine .after (fun start => .after (fun _ => ?_))
  refine Yields.bind (.separated _ (sound.readProperty context) grammar.bound "\x7d")
    (fun properties fit => ?_)
  exact .finish _ rfl fit

/-- A template stands in the given role, with its expressions between its texts. -/
theorem readTemplate
    (context : Context)
    (role : Role)
    (isTagged : Bool) :
    (grammar.readTemplate context role isTagged).Yields (Node.Stands role) := by
  refine .after (fun current => ?_)
  refine Yields.bind (.repeated (fun reached => ∀ value ∈ reached.2.1, value.isWellFormed)
    (fun result => ∀ value ∈ result.2, value.isWellFormed) ?_ _ (by simp))
    (fun result fit => .finish _ rfl fit)
  rintro ⟨texts, values, text⟩ fit
  dsimp only
  split
  · exact .failure
  · refine .after (fun _ => .after (fun _ => ?_))
    split
    · exact .pure (by simpa using fit)
    · refine (sound.expression _).bind (fun value fits => ?_)
      refine .after (fun close => .after (fun _ => ?_))
      exact .pure (by simpa using ⟨fits.wellFormed, fit⟩)

omit sound in
theorem readRegex :
    Grammar.readRegex.Yields (Node.Stands .expression) := by
  refine .after (fun current => ?_)
  split
  · exact .failure
  · exact .after (fun _ => .leaf _ rfl)

theorem readMemberKey
    (context : Context) :
    (grammar.readMemberKey context).Yields (fun key => key.1.isWellFormed) := by
  refine .after (fun current => ?_)
  split
  · refine .after (fun _ => .after (fun _ => (Yields.leaf _ rfl).bind (fun key fits => ?_)))
    exact .pure fits.wellFormed
  · exact sound.readKey context

/-- What follows the words before a member makes a method or a field of it. -/
theorem readMemberAfter
    (context : Context)
    (start : Nat)
    (modifiers : Grammar.MemberModifiers) :
    (grammar.readMemberAfter context start modifiers).Yields (Node.Stands .part) := by
  refine (sound.readMemberKey context).bind (fun key keyFits => .after (fun opens => ?_))
  split
  · refine .after (fun _ => (sound.readMethod _ _ _).bind (fun function fits => ?_))
    exact .finish _ rfl (by simpa using ⟨keyFits, fits.wellFormed⟩)
  · refine .after (fun _ => (sound.readInitial _).bind (fun values fit => .after (fun _ => ?_)))
    exact .finish _ rfl (by simpa using ⟨keyFits, fit⟩)

theorem readMemberFrom
    (context : Context)
    (start : Nat)
    (isStatic : Bool) :
    (grammar.readMemberFrom context start isStatic).Yields (Node.Stands .part) := by
  refine .after (fun current => ?_)
  dsimp only
  split
  · exact .after (fun _ => sound.readMemberAfter _ _ _)
  · split
    · exact .after (fun _ => .after (fun isGenerator => sound.readMemberAfter _ _ _))
    · split
      · exact .after (fun _ => sound.readMemberAfter _ _ _)
      · split
        · exact .after (fun _ => sound.readMemberAfter _ _ _)
        · exact sound.readMemberAfter _ _ _

/-- Every member is a part of its class. -/
theorem readMember
    (context : Context) :
    (grammar.readMember context).Yields (Node.Stands .part) := by
  refine .after (fun current => ?_)
  dsimp only
  split
  · refine .after (fun _ => .after (fun _ => ?_))
    refine Yields.bind (.untilSymbol _ (sound.statement _ _) grammar.bound "\x7d")
      (fun statements fit => ?_)
    exact .finish _ rfl (fun statement member => (fit statement member).wellFormed)
  · split
    · exact .after (fun _ => sound.readMemberFrom _ _ _)
    · exact sound.readMemberFrom _ _ _

theorem readSuperclass
    (context : Context) :
    (grammar.readSuperclass context).Yields (fun superclass => superclass.isWellFormed) := by
  refine .after (fun isThere => ?_)
  split
  · exact (sound.access context).weaken (fun _ stands => stands.wellFormed)
  · exact .pure Node.absent_stands.wellFormed

theorem readMembers
    (context : Context) :
    (grammar.readMembers context).Yields
      (fun members => ∀ member ∈ members, member.isWellFormed) := by
  refine .repeated (fun members => ∀ member ∈ members, member.isWellFormed) _
    (fun members fit => ?_) _ (by simp)
  refine .after (fun isClosed => ?_)
  split
  · exact .pure (by simpa using fit)
  · refine .after (fun isSkipped => ?_)
    split
    · exact .pure fit
    · refine (sound.readMember context).bind (fun member fits => ?_)
      exact .pure (by simpa using ⟨fits.wellFormed, fit⟩)

/-- A class is well formed with a name and without one. -/
theorem readClass
    (context : Context)
    (role : Role)
    (isDeclaration : Bool) :
    (grammar.readClass context role isDeclaration).Yields (Node.Stands role) := by
  refine .after (fun start => .after (fun _ => .after (fun name => ?_)))
  refine (sound.readSuperclass context).bind (fun superclass superclassFits => ?_)
  refine .after (fun _ => (sound.readMembers context).bind (fun members fit => ?_))
  exact .finish _ rfl (by simpa using ⟨superclassFits, fit⟩)

end Reactivity.Script.Grammar.IsSound
