import Reactivity.Expression.Kind
import Reactivity.Proofs.Script.Leaf

namespace Reactivity.Expression

open Script Text

/-!
# Kinds of expressions and reading

A simple name is taken for an identifier without reading it. Reading gives the same answer
unless the name starts with a digit, is reserved or is `let`. Everything else is classified
by reading, which looks at the statements of a script but not at the directives before them.
-/

/-- The kind of an expression as reading alone finds it. -/
def classifyByReading
    (code : String) :
    Outcome Kind := do
  let program ← readProgram code
  return .ofStatements program.statements

/-- Words that name nothing in an expression of their own. -/
def namelessWords : List String :=
  "let" :: reservedWords

/-- Nameless words that are read nevertheless, as a value or as a statement. -/
def standaloneWords : List String :=
  ["this", "null", "true", "false", "debugger", "break", "continue"]

/-- What reading finds in a simple name. -/
def kindOfSimpleName
    (name : String) :
    Outcome Kind :=
  if name.toList.head?.any Char.isDigit then
    if (readNumber name.toList).1.numeral?.isSome then .ok .unclassified else .fail .malformed
  else if namelessWords.contains name then
    if standaloneWords.contains name then .ok .unclassified else .fail .malformed
  else
    .ok .identifier

/-- The simple name is read as a variable. -/
def isVariable
    (name : String) :
    Bool :=
  !name.toList.head?.any Char.isDigit && !namelessWords.contains name

theorem kindOfSimpleName_eq_identifier_iff
    {name : String} :
    kindOfSimpleName name = .ok .identifier ↔ isVariable name := by
  rw [kindOfSimpleName, isVariable]
  cases name.toList.head?.any Char.isDigit <;> cases namelessWords.contains name <;>
    cases standaloneWords.contains name <;>
    cases (readNumber name.toList).1.numeral?.isSome <;> simp [Outcome.fail]

/-- Reading fails for no other reason than a malformed script. -/
theorem classifyByReading_eq
    (code : String) :
    classifyByReading code = (classifyByReading code).toOption.elim (.fail .malformed) .ok := by
  rw [classifyByReading]
  rcases readProgram_eq code with ⟨program, read⟩ | malformed
  · rw [read]
    rfl
  · rw [malformed]
    rfl

/-- What reading finds in the nameless words. -/
theorem classifyByReading_of_nameless
    {word : String}
    (isNameless : namelessWords.contains word) :
    classifyByReading word =
      if standaloneWords.contains word then .ok .unclassified else .fail .malformed := by
  have checked :
      namelessWords.all (fun word =>
        (classifyByReading word).toOption ==
          if standaloneWords.contains word then some .unclassified else none) = true := by
    decide +kernel
  have found := List.all_eq_true.mp checked word (List.contains_iff_mem.mp isNameless)
  rw [classifyByReading_eq, beq_iff_eq.mp found]
  split <;> rfl

variable {code : String}

/-- A script that is one expression has the kind of that. -/
theorem classifyByReading_of_readsAs
    {form : Form}
    (reads : ReadsAs code form) :
    ∃ span, classifyByReading code = .ok (.ofNode (.mk form .expression span [])) := by
  obtain ⟨span, inner, read⟩ := reads
  refine ⟨inner, ?_⟩
  rw [classifyByReading, read]
  rfl

/-- A number is of no kind. -/
theorem ofNode_numeral
    {token : Token}
    {form : Form}
    (isNumeral : token.numeral? = some form)
    (span : Span) :
    Kind.ofNode (.mk form .expression span []) = .unclassified := by
  cases token <;> cases isNumeral <;> rfl

/-- A simple name that does not start with a digit and is not nameless is read as a variable. -/
theorem readsAs_of_isVariable
    (simple : isSimpleName code)
    (isNamed : isVariable code) :
    ReadsAs code (.identifier code) := by
  obtain ⟨occupied, simple⟩ := Bool.and_eq_true_iff.mp simple
  obtain ⟨noDigit, hasName⟩ := Bool.and_eq_true_iff.mp isNamed
  rw [Bool.not_eq_true', namelessWords, List.contains_cons, Bool.or_eq_false_iff] at hasName
  refine readsAs_identifier simple ?_ ?_ (beq_eq_false_iff_ne.mp hasName.1)
  · cases characters : code.toList with
    | nil =>
        rw [characters] at occupied
        cases occupied
    | cons first others =>
        rw [characters] at noDigit
        simpa using noDigit
  · rw [isName, hasName.2]
    rfl

/-- Reading finds in every simple name what its first character and its spelling tell. -/
theorem classifyByReading_of_simple
    (simple : isSimpleName code) :
    classifyByReading code = kindOfSimpleName code := by
  have characters := (Bool.and_eq_true_iff.mp simple).2
  unfold kindOfSimpleName
  split
  · next leads =>
      cases spells : (readNumber code.toList).1.numeral? with
      | none =>
          rw [classifyByReading, readProgram_noNumeral characters leads spells]
          rfl
      | some form =>
          obtain ⟨span, read⟩ :=
            classifyByReading_of_readsAs (readsAs_numeral characters leads spells)
          rw [read, ofNode_numeral spells]
          rfl
  · next noDigit =>
      split
      · next isNameless => exact classifyByReading_of_nameless isNameless
      · next hasName =>
          have isNamed : isVariable code := by
            rw [isVariable, Bool.eq_false_iff.mpr noDigit, Bool.eq_false_iff.mpr hasName]
            rfl
          obtain ⟨span, read⟩ :=
            classifyByReading_of_readsAs (readsAs_of_isVariable simple isNamed)
          rw [read]
          rfl

/-- A name, or a path that ends in one. -/
inductive EndsInName :
    Node →
    Prop where
  | name (name : String) (role : Role) (span : Span) (children : List Node) :
      EndsInName (.mk (.identifier name) role span children)
  | member (name : String) (isOptional : Bool) (role : Role) (span : Span)
      (children : List Node) :
      EndsInName (.mk (.member name isOptional) role span children)
  | key (name : String) (isOptional : Bool) (role keyRole : Role) (span keySpan : Span)
      (object : Node) (children : List Node) :
      EndsInName
        (.mk (.computedMember isOptional) role span
          [object, .mk (.identifier name) keyRole keySpan children])

theorem ofNode_eq_identifier_iff
    {value : Node} :
    Kind.ofNode value = .identifier ↔ EndsInName value := by
  constructor
  · intro isIdentifier
    unfold Kind.ofNode at isIdentifier
    split at isIdentifier
    · exact .name _ _ _ _
    · exact .member _ _ _ _ _
    · exact .key _ _ _ _ _ _ _ _
    · cases isIdentifier
    · cases isIdentifier
  · rintro (_ | _ | _) <;> rfl

/-- Besides these directives, the script is a name or a path that ends in one. -/
def IsPath
    (code : String)
    (directives : List String) :
    Prop :=
  ∃ program role span value,
    readProgram code = .ok program ∧ program.directives = directives ∧
      program.statements = [.mk .expressionStatement role span [value]] ∧ EndsInName value

theorem ofStatements_eq_identifier_iff
    {statements : List Node} :
    Kind.ofStatements statements = .identifier ↔
      ∃ role span value,
        statements = [.mk .expressionStatement role span [value]] ∧ EndsInName value := by
  constructor
  · intro isIdentifier
    unfold Kind.ofStatements at isIdentifier
    split at isIdentifier
    · exact ⟨_, _, _, rfl, ofNode_eq_identifier_iff.mp isIdentifier⟩
    · cases isIdentifier
  · rintro ⟨role, span, value, rfl, ends⟩
    exact ofNode_eq_identifier_iff.mpr ends

/-- Reading finds an identifier in a path, whatever directives stand before it. -/
theorem classifyByReading_eq_identifier_iff :
    classifyByReading code = .ok .identifier ↔ ∃ directives, IsPath code directives := by
  constructor
  · intro isIdentifier
    obtain ⟨program, read, isIdentifier⟩ := Outcome.bind_eq_ok.mp isIdentifier
    obtain ⟨role, span, value, single, ends⟩ :=
      ofStatements_eq_identifier_iff.mp (Except.ok.inj isIdentifier)
    exact ⟨program.directives, program, role, span, value, read, rfl, single, ends⟩
  · rintro ⟨_, program, role, span, value, read, rfl, single, ends⟩
    rw [classifyByReading, read]
    exact congrArg Except.ok (ofStatements_eq_identifier_iff.mpr ⟨role, span, value, single, ends⟩)

/--
The kind of a simple name is an identifier; reading finds the same exactly if the name does
not start with a digit, is not reserved and is not `let`. Of all other scripts, the kind is
what reading finds. So an identifier is found in a script that is a name or a path that ends
in one, and besides these only in a path behind directives, and in a simple name that is not
read as a variable.
-/
theorem classify_and_reading
    (code : String) :
    (isSimpleName code →
      classify code = .ok .identifier ∧ classifyByReading code = kindOfSimpleName code ∧
        (classify code = classifyByReading code ↔ isVariable code)) ∧
      (isSimpleName code = false → classify code = classifyByReading code) ∧
      (classify code = .ok .identifier ↔
        IsPath code [] ∨ (∃ first others, IsPath code (first :: others)) ∨
          isSimpleName code ∧ isVariable code = false) := by
  have byPath : (∃ directives, IsPath code directives) ↔
      IsPath code [] ∨ ∃ first others, IsPath code (first :: others) := by
    constructor
    · rintro ⟨directives, isPath⟩
      cases directives with
      | nil => exact .inl isPath
      | cons first others => exact .inr ⟨first, others, isPath⟩
    · rintro (isPath | ⟨first, others, isPath⟩)
      · exact ⟨[], isPath⟩
      · exact ⟨first :: others, isPath⟩
  rw [← or_assoc, ← byPath, ← classifyByReading_eq_identifier_iff]
  cases simple : isSimpleName code with
  | false =>
      have isRead : classify code = classifyByReading code := by
        rw [classify, simple]
        rfl
      simp [isRead]
  | true =>
      have isIdentifier : classify code = .ok .identifier := by
        rw [classify, simple]
        rfl
      have read := classifyByReading_of_simple simple
      have agrees : .ok .identifier = kindOfSimpleName code ↔ isVariable code :=
        eq_comm.trans kindOfSimpleName_eq_identifier_iff
      rw [isIdentifier, read, agrees, kindOfSimpleName_eq_identifier_iff]
      cases isVariable code <;> simp

/-- These scripts are no variables, but they are taken for identifiers. -/
theorem classify_nameless_and_directive :
    classify "class" = .ok .identifier ∧ classifyByReading "class" = .fail .malformed ∧
      classify "123" = .ok .identifier ∧ classifyByReading "123" = .ok .unclassified ∧
      classify "'a'; b" = .ok .identifier ∧ ¬ IsPath "'a'; b" [] := by
  have checked :
      (readProgram "'a'; b").toOption.any (fun program =>
        program.directives == ["a"] && Kind.ofStatements program.statements == .identifier) := by
    decide +kernel
  obtain ⟨program, read, found⟩ := Outcome.exists_of_any checked
  simp only [Bool.and_eq_true, beq_iff_eq] at found
  refine ⟨rfl, classifyByReading_of_nameless (by decide), rfl, ?_, ?_, ?_⟩
  · rw [classifyByReading_of_simple (by decide)]
    rfl
  · rw [classify, if_neg (by decide), read]
    exact congrArg Except.ok found.2
  · rintro ⟨other, _, _, _, readAgain, none, _⟩
    obtain rfl := Except.ok.inj (read.symm.trans readAgain)
    rw [found.1] at none
    cases none

end Reactivity.Expression
