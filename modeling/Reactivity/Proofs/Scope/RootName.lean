import Mathlib.Data.List.TakeWhile
import Reactivity.Proofs.Scope.Scan
import Reactivity.Proofs.Script.Assembly

namespace Reactivity

open Script Text

/-!
# Root names of paths

The root name of a path is taken up to the first character that cannot stand in a simple
name, but an identifier of a script may have letters beyond ASCII. So the check of a path
answers for the simple name at the start of its identifier. That is the identifier itself
if it is simple, and only then the answer is right for every script.
-/

namespace Script

/-- Every name can be declared by a script that declares nothing else. -/
theorem exists_script_declaring
    {name : String}
    (isWord : IsWord name.toList)
    (isNamed : isName .top name) :
    ∃ program,
      readProgram ("var " ++ name) = .ok program ∧
        ∀ other, (Scope.Root.scan program.statements).declares other ↔ other = name := by
  have text : ("var " ++ name).toList = "var".toList ++ ' ' :: name.toList := by
    rw [String.toList_append]
    rfl
  have behind :
      textAfter? [.word "var" false, .word name false] ("var " ++ name).toList = some [] := by
    rw [text, @textAfter?_simple "var" _ (by decide) (by decide) rfl, textAfter?_space,
      ← List.append_nil name.toList, textAfter?_word isWord rfl]
    rfl
  have passes := Cursor.passes_of_textAfter? behind ("var " ++ name).toList.length
  obtain ⟨span, declaratorSpan, nameSpan, ran⟩ :=
    @Grammar.run_readStatement_variable (Grammar.ofSize ("var " ++ name).toList.length)
      (("var " ++ name).toList.length + 1) _ _ _ name _ rfl rfl isNamed passes rfl rfl rfl
  refine ⟨_, readProgram_of_single (by rw [text]; rfl) ?_ ?_ ran rfl rfl List.nodup_nil, ?_⟩
  · rw [Cursor.isAtEnd, passes.1.token_eq]
    rfl
  · rw [passes.1.token_eq]
    simp
  · intro other
    simp [Scope.declares_scan, Scope.variableNames, Scope.functionNames, Scope.declaration?,
      Node.form, Node.declaredNames, Node.children, Node.boundNames, Node.boundNamesOfAll]

end Script

namespace Scope

/-- The simple name that an identifier starts with; it is empty if there is none. -/
def simpleHead
    (name : String) :
    String :=
  String.ofList (name.toList.takeWhile isSimpleNameCharacter)

theorem simpleHead_eq_self_iff
    {name : String} :
    simpleHead name = name ↔ name.toList.all isSimpleNameCharacter := by
  have sameText : simpleHead name = name ↔
      name.toList.takeWhile isSimpleNameCharacter = name.toList := by
    rw [simpleHead, ← String.toList_inj, String.toList_ofList]
  rw [sameText, List.takeWhile_eq_self_iff, List.all_eq_true]

namespace Root

variable
  (scope : Root)
  (given : List NameWarning)

/--
The check of a path answers for a name: if it is declared nothing is reported, and
otherwise one warning is added to those that have been given before.
-/
def AnswersFor
    (name path : String) :
    Prop :=
  if scope.declares name then
    scope.checkAll given [path] = [(true, given)]
  else
    ∃ warning, scope.checkAll given [path] = [(false, given ++ [warning])]

/-- The answer depends on whether there is something to report. -/
theorem answersFor_iff
    {name path : String} :
    scope.AnswersFor given name path ↔
      ((scope.check path).isNone = true ↔ scope.declares name = true) := by
  unfold AnswersFor
  cases reported : scope.check path with
  | none => cases scope.declares name <;> simp [checkAll, reported]
  | some warning => cases scope.declares name <;> simp [checkAll, reported]

end Root

variable {name suffix : String}

/-- The simple name at the start of a path is that of its identifier. -/
theorem takeWhile_path
    (ends : suffix.toList.head?.all (fun character => !isIdentifierPart character)) :
    (name ++ suffix).toList.takeWhile isSimpleNameCharacter =
      name.toList.takeWhile isSimpleNameCharacter := by
  have noMore : suffix.toList.takeWhile isSimpleNameCharacter = [] := by
    cases characters : suffix.toList with
    | nil => rfl
    | cons first others =>
        rw [characters] at ends
        have noPart : isIdentifierPart first = false := by simpa using ends
        refine List.takeWhile_cons_of_neg (fun simple => ?_)
        rw [(isPlain_of_isSimpleNameCharacter simple).part] at noPart
        cases noPart
  have isHead : name.toList.takeWhile isSimpleNameCharacter <+: name.toList :=
    List.takeWhile_prefix _
  rw [String.toList_append, List.takeWhile_append, noMore, List.append_nil]
  split
  · next isWhole => exact (isHead.eq_of_length isWhole).symm
  · rfl

/-- A path is checked by the simple name that its identifier starts with. -/
theorem Root.check_path
    (scope : Root)
    (ends : suffix.toList.head?.all (fun character => !isIdentifierPart character)) :
    scope.check (name ++ suffix) =
      if simpleHead name = "" then
        some (.noName (name ++ suffix))
      else if scope.declares (simpleHead name) then
        none
      else
        some (.undeclared (name ++ suffix)) := by
  rw [check, leadingSimpleName?, takeWhile_path ends, simpleHead]
  cases name.toList.takeWhile isSimpleNameCharacter with
  | nil => rfl
  | cons first others =>
      have occupied : String.ofList (first :: others) ≠ "" := by simp
      rw [if_neg occupied]

/-- The check of a path answers for a name as far as that and the simple head agree. -/
theorem Root.answersFor_path_iff
    (scope : Root)
    (given : List NameWarning)
    (ends : suffix.toList.head?.all (fun character => !isIdentifierPart character))
    {other : String} :
    scope.AnswersFor given other (name ++ suffix) ↔
      (simpleHead name ≠ "" ∧ scope.declares (simpleHead name) ↔ scope.declares other) := by
  rw [answersFor_iff, check_path scope ends]
  by_cases isEmpty : simpleHead name = ""
  · simp [isEmpty]
  · cases scope.declares (simpleHead name) <;> simp [isEmpty]

/-- A word that is reserved is simple. -/
theorem isName_of_not_simple
    (noSimple : ¬ name.toList.all isSimpleNameCharacter) :
    isName .top name := by
  have checked : reservedWords.all (fun word => word.toList.all isSimpleNameCharacter) = true := by
    decide
  have unreserved : name ∉ reservedWords :=
    fun member => noSimple (List.all_eq_true.mp checked name member)
  simp [isName, unreserved, Context.top]

/--
The check of a path whose identifier starts with no simple name gives a warning in every
scope. Any other is answered for the simple name that the identifier starts with. So the
answer for the identifier is right where both are declared or neither is, and it is right
for every script exactly if the identifier is simple.
-/
theorem check_agrees_iff_simple
    (isIdentifier : IsWord name.toList)
    (ends : suffix.toList.head?.all (fun character => !isIdentifierPart character)) :
    (∀ (scope : Root) (given : List NameWarning),
      (simpleHead name = "" →
          scope.checkAll given [name ++ suffix] =
            [(false, given ++ [.noName (name ++ suffix)])]) ∧
        (simpleHead name ≠ "" →
          scope.AnswersFor given (simpleHead name) (name ++ suffix)) ∧
        (scope.AnswersFor given name (name ++ suffix) ↔
          (simpleHead name ≠ "" ∧ scope.declares (simpleHead name) ↔ scope.declares name))) ∧
      ((∀ code program, readProgram code = .ok program →
          ∀ given,
            (Root.scan program.statements).AnswersFor given name (name ++ suffix)) ↔
        isSimpleName name) := by
  have occupied : name ≠ "" := by
    rintro rfl
    cases isIdentifier.starts
  have simple : isSimpleName name ↔ simpleHead name = name := by
    rw [simpleHead_eq_self_iff, isSimpleName]
    simp [occupied]
  refine ⟨fun scope given => ⟨fun isEmpty => ?_, fun isOccupied => ?_, ?_⟩, ?_⟩
  · rw [Root.checkAll, scope.check_path ends, if_pos isEmpty]
    rfl
  · simp [scope.answersFor_path_iff given ends, isOccupied]
  · exact scope.answersFor_path_iff given ends
  · rw [simple]
    constructor
    · intro agrees
      by_contra different
      have noSimple := mt simpleHead_eq_self_iff.mpr different
      obtain ⟨program, read, declared⟩ :=
        exists_script_declaring isIdentifier (isName_of_not_simple noSimple)
      have answers := (Root.answersFor_path_iff _ [] ends).mp (agrees _ program read [])
      rw [declared, declared] at answers
      exact different (answers.mpr rfl).2
    · intro same code program _ given
      rw [Root.answersFor_path_iff _ given ends, same]
      simp [occupied]

/-- The check of this path answers for the name before the accent, in every scope. -/
theorem check_agrees_iff_simple_accent :
    IsWord "wé".toList ∧
      ".x".toList.head?.all (fun character => !isIdentifierPart character) ∧
      ∀ (scope : Root) (given : List NameWarning), scope.AnswersFor given "w" "wé.x" := by
  have isIdentifier : IsWord "wé".toList := ⟨by decide +kernel, by decide +kernel, by decide⟩
  have ends : ".x".toList.head?.all (fun character => !isIdentifierPart character) := by
    decide +kernel
  have isHead : simpleHead "wé" = "w" := by
    decide +kernel
  refine ⟨isIdentifier, ends, fun scope given => ?_⟩
  have answers := ((check_agrees_iff_simple isIdentifier ends).1 scope given).2.1
  rw [isHead] at answers
  exact answers (by decide)

/-- A declared name is reported, and one that is not declared passes. -/
theorem check_letters_beyond_ascii :
    (∃ program, readProgram "let значение" = .ok program ∧
        (Root.scan program.statements).declares "значение" ∧
        (Root.scan program.statements).checkAll [] ["значение.x"] =
          [(false, [.noName "значение.x"])]) ∧
      ∃ program, readProgram "let w" = .ok program ∧
        (Root.scan program.statements).declares "wé" = false ∧
        (Root.scan program.statements).checkAll [] ["wé.x"] = [(true, [])] := by
  have reported :
      (readProgram "let значение").toOption.any (fun program =>
        (Root.scan program.statements).declares "значение" &&
          decide ((Root.scan program.statements).checkAll [] ["значение.x"] =
            [(false, [.noName "значение.x"])])) := by
    decide +kernel
  have passed :
      (readProgram "let w").toOption.any (fun program =>
        !(Root.scan program.statements).declares "wé" &&
          decide ((Root.scan program.statements).checkAll [] ["wé.x"] = [(true, [])])) := by
    decide +kernel
  constructor
  · simpa using Outcome.exists_of_any reported
  · simpa using Outcome.exists_of_any passed

end Scope

end Reactivity
