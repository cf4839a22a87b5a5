import Mathlib.Data.List.Sort
import Reactivity.Proofs.Scope.Scan
import Reactivity.Proofs.Script.Reading

namespace Reactivity

open Script

/-!
# Names of the top level

A pattern binds the names at its leaves: through properties, items, rests and defaults, but
never a key or a default value. The scan of a script gives the names that the patterns of its
variable declarations bind, and the names of its function declarations, where a declaration
stands at the top level itself or in an export. As it is a set, the order of the statements
does not matter, and the scan of two scripts in a row is the union of their scans.
-/

namespace Text.NameSet

/-- A set is determined by its members. -/
theorem eq_of_mem_iff
    {first second : NameSet}
    (same : ∀ name, name ∈ first.names ↔ name ∈ second.names) :
    first = second := by
  obtain ⟨names, increasing⟩ := first
  obtain ⟨otherNames, otherIncreasing⟩ := second
  have sameNames : names = otherNames := by
    refine List.Perm.eq_of_pairwise ?_ increasing otherIncreasing ?_
    · intro name other _ _ less greater
      exact (String.lt_irrefl name (String.lt_trans less greater)).elim
    · have noRepeat {members : List String} (ordered : members.Pairwise (· < ·)) :
          members.Nodup := by
        refine List.Pairwise.imp ?_ ordered
        rintro name other less rfl
        exact String.lt_irrefl name less
      exact (List.perm_ext_iff_of_nodup (noRepeat increasing) (noRepeat otherIncreasing)).mpr same
  subst sameNames
  rfl

/-- The members of two sets. -/
def union
    (first second : NameSet) :
    NameSet :=
  first.insertAll second.names

theorem mem_union
    {name : String}
    {first second : NameSet} :
    name ∈ (first.union second).names ↔ name ∈ first.names ∨ name ∈ second.names :=
  mem_insertAll

end Text.NameSet

namespace Script.Node

/-- The pattern binds a name. -/
inductive Binds :
    Node →
    String →
    Prop where
  | identifier
      {name : String}
      {role : Role}
      {span : Span}
      {children : List Node} :
      Binds (.mk (.identifier name) role span children) name
  /-- The key of a property binds nothing. -/
  | property
      {isComputed isShorthand : Bool}
      {role : Role}
      {span : Span}
      {key pattern : Node}
      {name : String}
      (binds : Binds pattern name) :
      Binds (.mk (.patternProperty isComputed isShorthand) role span [key, pattern]) name
  /-- A default value binds nothing. -/
  | defaulted
      {role : Role}
      {span : Span}
      {pattern value : Node}
      {name : String}
      (binds : Binds pattern name) :
      Binds (.mk .defaulted role span [pattern, value]) name
  | rest
      {role : Role}
      {span : Span}
      {pattern : Node}
      {name : String}
      (binds : Binds pattern name) :
      Binds (.mk .rest role span [pattern]) name
  | object
      {isBinding : Bool}
      {role : Role}
      {span : Span}
      {parts : List Node}
      {part : Node}
      {name : String}
      (member : part ∈ parts)
      (binds : Binds part name) :
      Binds (.mk (.objectPattern isBinding) role span parts) name
  | array
      {isBinding : Bool}
      {role : Role}
      {span : Span}
      {parts : List Node}
      {part : Node}
      {name : String}
      (member : part ∈ parts)
      (binds : Binds part name) :
      Binds (.mk (.arrayPattern isBinding) role span parts) name

theorem mem_boundNamesOfAll_iff
    {patterns : List Node}
    {name : String} :
    name ∈ boundNamesOfAll patterns ↔ ∃ pattern ∈ patterns, name ∈ pattern.boundNames := by
  induction patterns with
  | nil =>
      simp [boundNamesOfAll]
  | cons pattern rest inductionHypothesis =>
      simp [boundNamesOfAll, inductionHypothesis]

/-- Every name that is collected from a pattern is bound by it. -/
theorem binds_of_mem_boundNames
    {pattern : Node}
    {name : String}
    (member : name ∈ pattern.boundNames) :
    pattern.Binds name := by
  induction pattern using inductionOnChildren with
  | step form role span children inductionHypothesis =>
      unfold boundNames at member
      split at member
      · next same =>
          cases same
          obtain rfl := List.mem_singleton.mp member
          exact .identifier
      · next same =>
          cases same
          exact .property (inductionHypothesis _ (by simp) member)
      · next same =>
          cases same
          exact .defaulted (inductionHypothesis _ (by simp) member)
      · next same =>
          cases same
          exact .rest (inductionHypothesis _ (by simp) member)
      · next same =>
          cases same
          obtain ⟨part, isPart, inPart⟩ := mem_boundNamesOfAll_iff.mp member
          exact .object isPart (inductionHypothesis part isPart inPart)
      · next same =>
          cases same
          obtain ⟨part, isPart, inPart⟩ := mem_boundNamesOfAll_iff.mp member
          exact .array isPart (inductionHypothesis part isPart inPart)
      · cases member

/-- Every name that a pattern binds is collected from it. -/
theorem Binds.mem_boundNames
    {pattern : Node}
    {name : String}
    (binds : pattern.Binds name) :
    name ∈ pattern.boundNames := by
  induction binds with
  | identifier =>
      exact List.mem_singleton_self _
  | property _ inductionHypothesis | defaulted _ inductionHypothesis | rest _ inductionHypothesis =>
      exact inductionHypothesis
  | object member _ inductionHypothesis | array member _ inductionHypothesis =>
      exact mem_boundNamesOfAll_iff.mpr ⟨_, member, inductionHypothesis⟩

end Script.Node

namespace Scope

/-- A statement of the top level is a declaration, or exports it. -/
inductive Declares :
    Node →
    Node →
    Prop where
  | plain (declaration : Node) :
      Declares declaration declaration
  | exported
      (role : Role)
      (span : Span)
      (declaration : Node) :
      Declares (.mk .exportDeclaration role span [declaration]) declaration

/-- A statement declares variables, and the pattern of one of its declarators binds a name. -/
def BindsVariable
    (statement : Node)
    (name : String) :
    Prop :=
  ∃ keyword role span declarators declarator pattern others,
    Declares statement (.mk (.declaration keyword) role span declarators) ∧
      declarator ∈ declarators ∧ declarator.children = pattern :: others ∧ pattern.Binds name

/-- A statement declares a function with a name. -/
def NamesFunction
    (statement : Node)
    (name : String) :
    Prop :=
  ∃ head role span children,
    Declares statement (.mk (.function head) role span children) ∧ head.name = some name

/-- The names of a declaration of variables are those that its declarators bind. -/
theorem mem_declaredNames_iff
    {keyword : VariableKeyword}
    {role : Role}
    {span : Span}
    {declarators : List Node}
    {name : String} :
    name ∈ (Node.mk (.declaration keyword) role span declarators).declaredNames ↔
      ∃ declarator ∈ declarators, ∃ pattern others,
        declarator.children = pattern :: others ∧ pattern.Binds name := by
  have ofDeclarator (declarator : Node) :
      name ∈ Node.boundNamesOfAll (declarator.children.take 1) ↔
        ∃ pattern others, declarator.children = pattern :: others ∧ pattern.Binds name := by
    cases declarator.children with
    | nil =>
        simp [Node.boundNamesOfAll]
    | cons pattern others =>
        rw [Node.mem_boundNamesOfAll_iff]
        constructor
        · rintro ⟨other, member, inPattern⟩
          obtain rfl : other = pattern := by
            simpa using member
          exact ⟨other, others, rfl, Node.binds_of_mem_boundNames inPattern⟩
        · rintro ⟨other, rest, same, binds⟩
          cases same
          exact ⟨pattern, by simp, binds.mem_boundNames⟩
  unfold Node.declaredNames
  dsimp only [Node.form_mk, Node.children_mk]
  rw [List.mem_flatMap]
  exact exists_congr (fun declarator => and_congr_right (fun _ => ofDeclarator declarator))

/-- The declaration of a statement, if it is one of variables or functions. -/
theorem declaration?_eq_some_iff
    {statement declaration : Node}
    (isDeclaration :
      (∃ keyword, declaration.form = .declaration keyword) ∨
        ∃ head, declaration.form = .function head) :
    declaration? statement = some declaration ↔ Declares statement declaration := by
  constructor
  · intro found
    unfold declaration? at found
    split at found
    · cases found
      exact .exported _ _ _
    · cases found
      exact .plain _
    · cases found
      exact .plain _
    · cases found
  · intro declares
    cases declares with
    | plain =>
        obtain ⟨form, role, span, children⟩ := statement
        rcases isDeclaration with ⟨keyword, isForm⟩ | ⟨head, isForm⟩ <;>
          · cases isForm
            rfl
    | exported =>
        rfl

/-- The variables of a statement are the names that its patterns bind. -/
theorem mem_variableNames_iff
    {statement : Node}
    {name : String} :
    name ∈ variableNames statement ↔ BindsVariable statement name := by
  constructor
  · intro member
    unfold variableNames at member
    split at member
    · cases member
    · next declaration found =>
        split at member
        · next keyword isForm =>
            have declares := (declaration?_eq_some_iff (.inl ⟨keyword, isForm⟩)).mp found
            obtain ⟨form, role, span, declarators⟩ := declaration
            cases isForm
            obtain ⟨declarator, inList, pattern, others, shape, binds⟩ :=
              mem_declaredNames_iff.mp member
            exact ⟨keyword, role, span, declarators, declarator, pattern, others, declares, inList,
              shape, binds⟩
        · cases member
  · rintro ⟨keyword, role, span, declarators, declarator, pattern, others, declares, inList, shape,
      binds⟩
    have found := (declaration?_eq_some_iff (.inl ⟨keyword, rfl⟩)).mpr declares
    unfold variableNames
    rw [found]
    exact mem_declaredNames_iff.mpr ⟨declarator, inList, pattern, others, shape, binds⟩

/-- The functions of a statement are the names of the functions that it declares. -/
theorem mem_functionNames_iff
    {statement : Node}
    {name : String} :
    name ∈ functionNames statement ↔ NamesFunction statement name := by
  constructor
  · intro member
    unfold functionNames at member
    split at member
    · cases member
    · next declaration found =>
        split at member
        · next head isForm =>
            have declares := (declaration?_eq_some_iff (.inr ⟨head, isForm⟩)).mp found
            obtain ⟨form, role, span, children⟩ := declaration
            cases isForm
            exact ⟨head, role, span, children, declares, Option.mem_toList.mp member⟩
        · cases member
  · rintro ⟨head, role, span, children, declares, isNamed⟩
    have found := (declaration?_eq_some_iff (.inr ⟨head, rfl⟩)).mpr declares
    unfold functionNames
    rw [found]
    exact Option.mem_toList.mpr isNamed

namespace Root

/-- The names of two scopes. -/
def union
    (first second : Root) :
    Root where
  variableSet := first.variableSet.union second.variableSet
  functionSet := first.functionSet.union second.functionSet

/-- A scope is determined by its names. -/
theorem eq_of_mem_iff
    {first second : Root}
    (sameVariables : ∀ name, name ∈ first.variableSet.names ↔ name ∈ second.variableSet.names)
    (sameFunctions : ∀ name, name ∈ first.functionSet.names ↔ name ∈ second.functionSet.names) :
    first = second := by
  obtain ⟨variableSet, functionSet⟩ := first
  obtain ⟨otherVariables, otherFunctions⟩ := second
  obtain rfl : variableSet = otherVariables := Text.NameSet.eq_of_mem_iff sameVariables
  obtain rfl : functionSet = otherFunctions := Text.NameSet.eq_of_mem_iff sameFunctions
  rfl

theorem mem_variableSet_scan
    {statements : List Node}
    {name : String} :
    name ∈ (scan statements).variableSet.names ↔
      ∃ statement ∈ statements, BindsVariable statement name := by
  rw [scan, Text.NameSet.mem_ofList, List.mem_flatMap]
  exact exists_congr (fun statement => and_congr_right (fun _ => mem_variableNames_iff))

theorem mem_functionSet_scan
    {statements : List Node}
    {name : String} :
    name ∈ (scan statements).functionSet.names ↔
      ∃ statement ∈ statements, NamesFunction statement name := by
  rw [scan, Text.NameSet.mem_ofList, List.mem_flatMap]
  exact exists_congr (fun statement => and_congr_right (fun _ => mem_functionNames_iff))

/--
The scan of a script gives the names that its variable declarations bind and those of its function
declarations, at the top level or exported from there, and no other. So the scan of two lists of
statements in a row is the union of their scans, and their order does not matter.
-/
theorem scan_topLevel
    (statements : List Node) :
    (∀ name,
        name ∈ (scan statements).variableSet.names ↔
          ∃ statement ∈ statements, BindsVariable statement name) ∧
      (∀ name,
        name ∈ (scan statements).functionSet.names ↔
          ∃ statement ∈ statements, NamesFunction statement name) ∧
      (∀ later, scan (statements ++ later) = (scan statements).union (scan later)) ∧
      ∀ others, statements.Perm others → scan others = scan statements := by
  refine ⟨fun name => mem_variableSet_scan, fun name => mem_functionSet_scan, ?_, ?_⟩
  · intro later
    apply eq_of_mem_iff
    · intro name
      rw [union, Text.NameSet.mem_union, mem_variableSet_scan, mem_variableSet_scan,
        mem_variableSet_scan]
      simp only [List.mem_append, or_and_right, exists_or]
    · intro name
      rw [union, Text.NameSet.mem_union, mem_functionSet_scan, mem_functionSet_scan,
        mem_functionSet_scan]
      simp only [List.mem_append, or_and_right, exists_or]
  · intro others perm
    apply eq_of_mem_iff
    · intro name
      simp only [mem_variableSet_scan, perm.mem_iff]
    · intro name
      simp only [mem_functionSet_scan, perm.mem_iff]

/-- Names from patterns with keys, defaults and a rest, in a script that is turned around. -/
theorem scan_topLevel_patterns :
    ∃ program,
      readProgram "export let \x7ba,b:[c=d,...e]\x7d=f;function g()\x7bvar h\x7d" = .ok program ∧
        (scan program.statements).variableSet.names = ["a", "c", "e"] ∧
          (scan program.statements).functionSet.names = ["g"] ∧
            program.statements.Perm program.statements.reverse ∧
              scan program.statements.reverse = scan program.statements := by
  have checked :
      (readProgram
          "export let \x7ba,b:[c=d,...e]\x7d=f;function g()\x7bvar h\x7d").toOption.any
        (fun program =>
          (scan program.statements).variableSet.names == ["a", "c", "e"] &&
            (scan program.statements).functionSet.names == ["g"]) := by
    decide +kernel
  obtain ⟨program, read, checked⟩ := Outcome.exists_of_any checked
  simp only [Bool.and_eq_true, beq_iff_eq] at checked
  have turned : program.statements.Perm program.statements.reverse :=
    (List.reverse_perm _).symm
  exact ⟨program, read, checked.1, checked.2, turned,
    (scan_topLevel program.statements).2.2.2 _ turned⟩

end Root

end Scope

end Reactivity
