import Reactivity.Proofs.Component.Contents
import Reactivity.Proofs.Scope.Scan

namespace Reactivity.Component

open Script Refresh

/-!
# Default bindings

A factory function gets an emitter and a destroy hook by default, unless the script declares
a variable or function of the name. Nothing else counts as a declaration of the script: not
a class, not an import, and not the target of a reactive statement. So what the body of a
factory function declares can be counted: what the author declares, a variable for each
reactive target that no variable of the script is, and the default. Only the statements of
the body themselves count, not what is declared inside of them.
-/

/-- A binding that a factory function has by default. -/
structure DefaultBinding where
  name : String
  declaration : Node

/-- The bindings that a factory function has by default. -/
def defaultBindings : List DefaultBinding :=
  [{ name := "$emit", declaration := emitterDeclaration },
    { name := destroyHookName, declaration := destroyHookDeclaration }]

/-- The name of a class that a statement declares. -/
def classNames
    (statement : Node) :
    List String :=
  match statement.form with
  | .classBody name _ => name.toList
  | _ => []

/-- The name that an import binds. -/
def boundByImport :
    ImportBinding →
    String
  | .default name | .everything name | .named _ name => name

/-- The names that a statement imports. -/
def importedNames
    (statement : Node) :
    List String :=
  match Kind.ofNode statement with
  | .imported bindings => (bindings.getD []).map boundByImport
  | _ => []

/-- The variable that the body of a reactive statement assigns. -/
def assignedName? :
    Node →
    Option String
  | .mk .expressionStatement _ _
      [.mk (.assignment _) _ _ [.mk (.identifier name) _ _ _, _]] => some name
  | _ => none

/-- The names that the body of a factory function declares, in order. -/
def bodyNames
    (body : List Node) :
    List String :=
  body.flatMap Node.declaredNames

variable
  {source : List Char}
  {scope : Scope.Root}
  {statement : Node}

theorem bodyNames_append
    (first second : List Node) :
    bodyNames (first ++ second) = bodyNames first ++ bodyNames second :=
  List.flatMap_append

theorem declaredNames_withRole
    (role : Role)
    (node : Node) :
    (node.withRole role).declaredNames = node.declaredNames := by
  obtain ⟨form, oldRole, span, children⟩ := node
  rfl

/-- The injection does not change which names an authored statement declares. -/
theorem declaredNames_authored_image
    (skipsDestroy : Bool)
    (stands : statement.Stands .statement) :
    bodyNames (authored? (image skipsDestroy [] statement)).toList =
      bodyNames (authored? statement).toList := by
  rcases authored?_image skipsDestroy stands with
    ⟨isNone, imageIsNone⟩ | ⟨chain, part, placed, isSome, imageIsSome⟩
  · rw [isNone, imageIsNone]
  · rw [isSome, imageIsSome]
    simp only [bodyNames, Option.toList_some, List.flatMap_singleton, declaredNames_withRole]
    exact (declaredNames_of_outline (outline_image placed).symm placed.wellFormed).symm

/-- An accepted statement declares variables, functions or a class in the factory function. -/
theorem bodyNames_authored
    (stands : statement.Stands .statement)
    (accepted : refusal? source scope statement = none) :
    bodyNames (authored? statement).toList =
      Scope.variableNames statement ++ Scope.functionNames statement ++ classNames statement := by
  obtain ⟨form, role, span, children⟩ := statement
  cases form with
  | exportDeclaration =>
      have fits := (Node.isWellFormed_mk.mp stands.wellFormed).1
      obtain ⟨⟨inner, innerRole, innerSpan, declarators⟩, rfl⟩ :=
        List.length_eq_one_iff.mp (beq_iff_eq.mp fits)
      cases inner with
      | declaration keyword =>
          simp [bodyNames, authored?, Kind.ofNode, Scope.variableNames, Scope.functionNames,
            Scope.declaration?, classNames, declaredNames_withRole]
      | _ =>
          cases accepted
  | labeled label =>
      -- Whether it is reactive or not, a labeled statement declares nothing itself.
      have passes :
          authored? (.mk (.labeled label) role span children) = none ∨
            authored? (.mk (.labeled label) role span children) =
              some (.mk (.labeled label) role span children) := by
        rcases children with _ | ⟨body, _ | ⟨second, others⟩⟩
        · exact .inr rfl
        · by_cases isReactive : (label == reactiveLabel) = true
          · left
            rw [authored?, Kind.ofNode, if_pos isReactive]
          · right
            rw [authored?, Kind.ofNode, if_neg isReactive]
        · exact .inr rfl
      rcases passes with isNone | isSome
      · rw [isNone]
        rfl
      · rw [isSome]
        rfl
  | _ =>
      simp [bodyNames, authored?, Kind.ofNode, Scope.variableNames, Scope.functionNames,
        Scope.declaration?, classNames, Node.declaredNames]

/-- What a statement contributes besides itself declares the variable that it assigns. -/
theorem bodyNames_extras :
    bodyNames (extras scope statement) = watchedNames scope statement := by
  have registersNone : bodyNames ((propNames statement).map registration) = [] := by
    rw [bodyNames, List.flatMap_map]
    exact List.flatMap_eq_nil_iff.mpr (fun _ _ => rfl)
  have declaresOne : bodyNames ((watchedNames scope statement).map watchedVariable) =
      watchedNames scope statement := by
    rw [bodyNames, List.flatMap_map]
    exact List.flatMap_singleton' _
  rw [bodyNames] at registersNone declaresOne ⊢
  rw [extras, List.flatMap_append, registersNone, declaresOne, List.nil_append]

/-- The names that a statement makes the factory function declare. -/
def contributedNames
    (scope : Scope.Root)
    (statement : Node) :
    List String :=
  Scope.variableNames statement ++ Scope.functionNames statement ++ classNames statement ++
    watchedNames scope statement

/-- What an accepted statement contributes declares its names, also after the injection. -/
theorem bodyNames_share_image
    (skipsDestroy : Bool)
    (stands : statement.Stands .statement)
    (accepted : refusal? source scope statement = none) :
    bodyNames (share .plain scope (image skipsDestroy [] statement)) =
      contributedNames scope statement := by
  have own := declaredNames_authored_image skipsDestroy stands
  rw [bodyNames_authored stands accepted] at own
  obtain ⟨sameProps, sameWatched⟩ := names_image skipsDestroy stands accepted
  rw [share_eq, extras, sameProps, sameWatched, ← extras, bodyNames, List.flatMap_append]
  exact congrArg₂ (· ++ ·) own bodyNames_extras

/-- The frame of a factory function declares none of the names that have default bindings. -/
theorem frame_declaresNone
    {binding : DefaultBinding}
    (member : binding ∈ defaultBindings) :
    ∀ statement ∈ frame, statement.declaredNames.filter (· == binding.name) = [] := by
  have nothing :
      frame.flatMap (fun statement => statement.declaredNames.filter (· == binding.name)) = [] := by
    simp only [defaultBindings, List.mem_cons, List.not_mem_nil, or_false] at member
    rcases member with rfl | rfl
    · rfl
    · rfl
  exact List.flatMap_eq_nil_iff.mp nothing

/-- The header declares a name with a default binding once, or not at all if the script does. -/
theorem filter_header
    {binding : DefaultBinding}
    (member : binding ∈ defaultBindings)
    (scope : Scope.Root)
    (hasProps : Bool) :
    (bodyNames (header scope hasProps)).filter (· == binding.name) =
      if scope.declares binding.name then [] else [binding.name] := by
  rw [bodyNames, List.filter_flatMap, flatMap_header (frame_declaresNone member)]
  simp only [defaultBindings, List.mem_cons, List.not_mem_nil, or_false] at member
  rcases member with rfl | rfl
  · have emitter : emitterDeclaration.declaredNames.filter (· == "$emit") = ["$emit"] := rfl
    have other : destroyHookDeclaration.declaredNames.filter (· == "$emit") = [] := rfl
    rw [emitter, other, ite_self, List.append_nil, Scope.Root.needsEmitter]
    cases scope.declares "$emit" <;> rfl
  · have destroyHook :
        destroyHookDeclaration.declaredNames.filter (· == destroyHookName) = [destroyHookName] :=
      rfl
    have other : emitterDeclaration.declaredNames.filter (· == destroyHookName) = [] := rfl
    rw [destroyHook, other, ite_self, List.nil_append, Scope.Root.needsDestroyHook]
    cases scope.declares destroyHookName <;> rfl

/-- A default binding is in the header exactly if the script does not declare its name. -/
theorem mem_header_iff
    {binding : DefaultBinding}
    (member : binding ∈ defaultBindings)
    (scope : Scope.Root)
    (hasProps : Bool) :
    binding.declaration ∈ header scope hasProps ↔ scope.declares binding.name = false := by
  have names := filter_header member scope hasProps
  constructor
  · intro inHeader
    have isDeclared : binding.name ∈ binding.declaration.declaredNames := by
      simp only [defaultBindings, List.mem_cons, List.not_mem_nil, or_false] at member
      rcases member with rfl | rfl
      · exact List.mem_singleton_self _
      · exact List.mem_singleton_self _
    by_contra declared
    rw [Bool.not_eq_false] at declared
    rw [declared, if_pos rfl, List.filter_eq_nil_iff] at names
    exact names _ (List.mem_flatMap.mpr ⟨_, inHeader, isDeclared⟩) (beq_self_eq_true _)
  · intro undeclared
    simp only [defaultBindings, List.mem_cons, List.not_mem_nil, or_false] at member
    rcases member with rfl | rfl
    · simp [header, Scope.Root.needsEmitter, undeclared]
    · simp [header, Scope.Root.needsDestroyHook, undeclared]

/-- What lies between header and footer declares what the statements contribute. -/
theorem Arranged.bodyNames_eq
    {statements middle : List Node}
    (skipsDestroy : Bool)
    (arranged : Arranged .plain scope (statements.map (image skipsDestroy [])) middle)
    (stand : ∀ statement ∈ statements, statement.Stands .statement)
    (accepted : ∀ statement ∈ statements, refusal? source scope statement = none)
    {give : String → Bool}
    (leftoverFree : leftoverAttributes.declaredNames.filter give = []) :
    (bodyNames middle).filter give =
      (statements.flatMap (contributedNames scope)).filter give := by
  rw [bodyNames, List.filter_flatMap, arranged.flatMap_eq leftoverFree, ← List.filter_flatMap,
    List.flatMap_assoc, List.flatMap_map]
  congr 1
  apply List.flatMap_congr
  intro statement member
  exact bodyNames_share_image skipsDestroy (stand statement member) (accepted statement member)

/-- Of the variables that reactive statements assign, those are new that the script lacks. -/
theorem assignedVariable?_eq
    (body : Node) :
    assignedVariable? scope body =
      (assignedName? body).filter (fun name => !scope.variableSet.contains name) := by
  unfold assignedName?
  split
  · next name _ _ _ _ =>
      rw [assignedVariable?]
      cases isVariable : scope.variableSet.contains name <;> simp [Option.filter, isVariable]
  · next noTarget =>
      unfold assignedVariable?
      split
      · exact (noTarget _ _ _ _ _ _ _ _ _ _ rfl).elim
      · rfl

/-- A name that the script does not declare is a new variable wherever it is assigned. -/
theorem mem_watchedNames_iff
    {name : String}
    (undeclared : scope.declares name = false)
    (statement : Node) :
    name ∈ watchedNames scope statement ↔
      (reactiveBody? statement).bind assignedName? = some name := by
  have noVariable : scope.variableSet.contains name = false :=
    (Bool.or_eq_false_iff.mp undeclared).1
  rw [watchedNames, Option.mem_toList]
  cases reactiveBody? statement with
  | none => exact Iff.rfl
  | some body =>
      rw [Option.bind_some, Option.bind_some, assignedVariable?_eq, Option.filter_eq_some_iff]
      simp [noVariable]

/-- A script does not declare a name when none of its statements does. -/
theorem undeclared_iff
    {name : String}
    {statements : List Node} :
    (Scope.Root.scan statements).declares name = false ↔
      ∀ statement ∈ statements,
        name ∉ Scope.variableNames statement ∧ name ∉ Scope.functionNames statement := by
  rw [← Bool.not_eq_true, Scope.declares_scan]
  simp only [not_exists, not_and, not_or]

theorem count_eq_length_filter
    (name : String)
    (names : List String) :
    names.count name = (names.filter (· == name)).length :=
  List.countP_eq_length_filter

variable
  {input : Input}
  {program : Program}
  {compiled : Compiled}

/-- The header declares a name with a default binding once, or not at all if the script does. -/
theorem count_header
    {binding : DefaultBinding}
    (member : binding ∈ defaultBindings)
    (scope : Scope.Root)
    (hasProps : Bool) :
    (bodyNames (header scope hasProps)).count binding.name =
      if scope.declares binding.name then 0 else 1 := by
  rw [count_eq_length_filter, filter_header member]
  cases scope.declares binding.name <;> rfl

/-- Statements that import nothing are no loss when imports are sought. -/
theorem importedNames_filter
    (statements : List Node) :
    (statements.filter isImport).flatMap importedNames = statements.flatMap importedNames := by
  induction statements with
  | nil =>
      rfl
  | cons statement rest inductionHypothesis =>
      rw [List.flatMap_cons, List.filter_cons]
      cases kind : Kind.ofNode statement with
      | imported bindings =>
          rw [if_pos (by simp [isImport, kind]), List.flatMap_cons, inductionHypothesis]
      | exported | reactive | other =>
          have nothing : importedNames statement = [] := by
            simp [importedNames, kind]
          rw [if_neg (by simp [isImport, kind]), inductionHypothesis, nothing]
          rfl

/-- What the body of a factory function declares besides what its header does. -/
theorem Built.count_body
    {parts : Parts}
    {factory : Node}
    (built : Built input program compiled parts factory)
    (read : readProgram (markCheckStops input.code) = .ok program)
    (done : compile input = .ok compiled) :
    ∃ middle,
      parts.body =
          header (Scope.Root.scan program.statements) (!parts.props.isEmpty) ++ middle ++
            [footer] ∧
        ∀ binding ∈ defaultBindings,
          (bodyNames parts.body).count binding.name =
            (bodyNames
                (header (Scope.Root.scan program.statements) (!parts.props.isEmpty))).count
                binding.name +
              (program.statements.flatMap
                (contributedNames (Scope.Root.scan program.statements))).count binding.name := by
  have layout := built.layout
  rw [inject_eq read] at layout
  obtain ⟨middle, arranged, body⟩ := layout.body_eq
  refine ⟨middle, body, ?_⟩
  intro binding member
  have frameFree := frame_declaresNone member
  have contributed :=
    arranged.bodyNames_eq _ (readProgram_stands read) (accepted_of_compile read done)
      (frameFree leftoverAttributes (by simp [frame]))
  have footerFree : (bodyNames [footer]).filter (· == binding.name) = [] := by
    rw [bodyNames, List.flatMap_singleton]
    exact frameFree footer (by simp [frame])
  rw [body]
  simp only [count_eq_length_filter, bodyNames_append, List.filter_append, List.length_append,
    contributed, footerFree, List.length_nil, Nat.add_zero]

/--
When default bindings are made, and what else declares their names.

The emitter and the destroy hook stand in the header of a factory function exactly if no
variable declaration and no function declaration of the top level declares their names.
Besides, the factory function declares what the author declares by variables, functions and
classes, and a variable for each reactive target that is no variable of the script. So a
name that has got a default binding is declared just once, with no import outside of the
factory function that the default hides, exactly if no class and no import has that name
and no reactive statement assigns it.
-/
theorem compile_default_bindings
    (read : readProgram (markCheckStops input.code) = .ok program)
    (done : compile input = .ok compiled) :
    ∃ opening middle factory,
      IsFactory input.options (opening ++ middle ++ [footer]) factory ∧
        compiled.code =
          { program with
            statements := program.statements.filter isImport ++ [factory] : Program }.print ∧
        ∀ binding ∈ defaultBindings,
          (binding.declaration ∈ opening ↔
            ∀ statement ∈ program.statements,
              binding.name ∉ Scope.variableNames statement ∧
                binding.name ∉ Scope.functionNames statement) ∧
          (bodyNames (opening ++ middle ++ [footer])).count binding.name =
            (if (Scope.Root.scan program.statements).declares binding.name then 0 else 1) +
              (program.statements.flatMap
                (contributedNames (Scope.Root.scan program.statements))).count binding.name ∧
          (binding.declaration ∈ opening →
            ((bodyNames (opening ++ middle ++ [footer])).count binding.name = 1 ∧
                binding.name ∉ (program.statements.filter isImport).flatMap importedNames ↔
              ∀ statement ∈ program.statements,
                binding.name ∉ classNames statement ∧
                  binding.name ∉ importedNames statement ∧
                    (reactiveBody? statement).bind assignedName? ≠ some binding.name)) := by
  obtain ⟨parts, factory, built⟩ := exists_built read done
  obtain ⟨middle, body, counted⟩ := built.count_body read done
  refine ⟨_, middle, factory, body ▸ built.isFactory, built.code, ?_⟩
  intro binding member
  have inHeader :=
    mem_header_iff member (Scope.Root.scan program.statements) (!parts.props.isEmpty)
  have counted := counted binding member
  rw [count_header member] at counted
  rw [← body]
  refine ⟨inHeader.trans undeclared_iff, counted, ?_⟩
  intro isMade
  have undeclared := inHeader.mp isMade
  rw [undeclared, if_neg Bool.false_ne_true] at counted
  rw [counted, Nat.add_eq_left, List.count_eq_zero, importedNames_filter]
  constructor
  · rintro ⟨nowhere, noImport⟩ statement isStatement
    refine ⟨?_, ?_, ?_⟩
    · intro isClass
      apply nowhere
      exact List.mem_flatMap.mpr ⟨statement, isStatement, by simp [contributedNames, isClass]⟩
    · intro isImported
      exact noImport (List.mem_flatMap.mpr ⟨statement, isStatement, isImported⟩)
    · intro assigned
      have isReactive := (mem_watchedNames_iff undeclared statement).mpr assigned
      apply nowhere
      exact List.mem_flatMap.mpr ⟨statement, isStatement, by simp [contributedNames, isReactive]⟩
  · intro nowhere
    constructor
    · intro contributes
      obtain ⟨statement, isStatement, contributes⟩ := List.mem_flatMap.mp contributes
      obtain ⟨noVariable, noFunction⟩ := undeclared_iff.mp undeclared statement isStatement
      obtain ⟨noClass, _, notAssigned⟩ := nowhere statement isStatement
      simp only [contributedNames, List.mem_append] at contributes
      rcases contributes with ((isVariable | isFunction) | isClass) | isReactive
      · exact noVariable isVariable
      · exact noFunction isFunction
      · exact noClass isClass
      · exact notAssigned ((mem_watchedNames_iff undeclared statement).mp isReactive)
    · intro isImported
      obtain ⟨statement, isStatement, isImported⟩ := List.mem_flatMap.mp isImported
      exact (nowhere statement isStatement).2.1 isImported

/-- This script declares an emitter of its own, and the destroy hook is made. -/
theorem compile_default_bindings_emitter :
    ∃ program compiled opening middle factory,
      readProgram "let $emit" = .ok program ∧
        compile { code := "let $emit" } = .ok compiled ∧
          IsFactory {} (opening ++ middle ++ [footer]) factory ∧
            emitterDeclaration ∉ opening ∧
              (bodyNames (opening ++ middle ++ [footer])).count "$emit" = 1 ∧
                destroyHookDeclaration ∈ opening ∧
                  (bodyNames (opening ++ middle ++ [footer])).count "$onDestroy" = 1 := by
  have unmarked : markCheckStops "let $emit" = "let $emit" := by
    decide +kernel
  have checked :
      (readProgram (markCheckStops "let $emit")).toOption.any (fun program =>
        program.statements.map (fun statement =>
            (Scope.variableNames statement, Scope.functionNames statement,
              contributedNames (Scope.Root.scan program.statements) statement)) ==
          [(["$emit"], [], ["$emit"])]) := by
    decide +kernel
  have compiles : (compile { code := "let $emit" }).toOption.any (fun _ => true) := by
    decide +kernel
  obtain ⟨program, read, checked⟩ := Outcome.exists_of_any checked
  obtain ⟨compiled, done, _⟩ := Outcome.exists_of_any compiles
  obtain ⟨statement, _, split, atStatement, others⟩ :=
    List.map_eq_cons_iff.mp (beq_iff_eq.mp checked)
  obtain rfl := List.map_eq_nil_iff.mp others
  simp only [Prod.mk.injEq] at atStatement
  obtain ⟨variableNames, functionNames, contributed⟩ := atStatement
  obtain ⟨opening, middle, factory, isFactory, _, bindings⟩ :=
    @compile_default_bindings { code := "let $emit" } program compiled read done
  obtain ⟨emitterMade, emitterCount, _⟩ :=
    bindings { name := "$emit", declaration := emitterDeclaration } (by simp [defaultBindings])
  obtain ⟨hookMade, hookCount, _⟩ :=
    bindings { name := destroyHookName, declaration := destroyHookDeclaration }
      (by simp [defaultBindings])
  have declares :
      (Scope.Root.scan program.statements).declares "$emit" = true ∧
        (Scope.Root.scan program.statements).declares destroyHookName = false := by
    rw [Scope.declares_scan, undeclared_iff, split]
    simp [variableNames, functionNames, destroyHookName]
  have names :
      program.statements.flatMap (contributedNames (Scope.Root.scan program.statements)) =
        ["$emit"] := by
    rw [split, List.flatMap_singleton, ← split, contributed]
  rw [declares.1, names] at emitterCount
  rw [declares.2, names] at hookCount
  refine ⟨program, compiled, opening, middle, factory, unmarked ▸ read, done, isFactory, ?_,
    emitterCount, ?_, hookCount⟩
  · rw [emitterMade, ← undeclared_iff, declares.1]
    exact Bool.noConfusion
  · exact hookMade.mpr (undeclared_iff.mp declares.2)

/-- The class of this script and the default emitter clash. -/
theorem compile_emitter_class :
    ∃ program compiled opening middle factory,
      readProgram "class $emit \x7b\x7d" = .ok program ∧
        compile { code := "class $emit \x7b\x7d" } = .ok compiled ∧
          IsFactory {} (opening ++ middle ++ [footer]) factory ∧
            compiled.code = { program with statements := [factory] : Program }.print ∧
              emitterDeclaration ∈ opening ∧
                (bodyNames (opening ++ middle ++ [footer])).count "$emit" = 2 := by
  have unmarked : markCheckStops "class $emit \x7b\x7d" = "class $emit \x7b\x7d" := by
    decide +kernel
  have checked :
      (readProgram (markCheckStops "class $emit \x7b\x7d")).toOption.any (fun program =>
        (program.statements.filter isImport).isEmpty &&
          !(Scope.Root.scan program.statements).declares "$emit" &&
            program.statements.flatMap
                (contributedNames (Scope.Root.scan program.statements)) ==
              ["$emit"]) := by
    decide +kernel
  have compiles : (compile { code := "class $emit \x7b\x7d" }).toOption.any (fun _ => true) := by
    decide +kernel
  obtain ⟨program, read, checked⟩ := Outcome.exists_of_any checked
  obtain ⟨compiled, done, _⟩ := Outcome.exists_of_any compiles
  simp only [Bool.and_eq_true, List.isEmpty_iff, Bool.not_eq_true', beq_iff_eq] at checked
  obtain ⟨⟨noImport, undeclared⟩, names⟩ := checked
  obtain ⟨parts, factory, built⟩ :=
    @exists_built { code := "class $emit \x7b\x7d" } program compiled read done
  obtain ⟨middle, body, counted⟩ := built.count_body read done
  have member : { name := "$emit", declaration := emitterDeclaration } ∈ defaultBindings := by
    simp [defaultBindings]
  have counted := counted _ member
  rw [count_header member, undeclared, names] at counted
  have code := built.code
  rw [noImport, List.nil_append] at code
  exact ⟨program, compiled, _, middle, factory, unmarked ▸ read, done, body ▸ built.isFactory, code,
    (mem_header_iff member _ (!parts.props.isEmpty)).mpr undeclared, body ▸ counted⟩

end Reactivity.Component
