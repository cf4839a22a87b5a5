import Reactivity.Component.Scaffold
import Reactivity.Proofs.Script.Sentence
import Reactivity.Refresh.Injection

namespace Reactivity

/-!
# Trees of the scaffold

The statements that the snippets of a scaffold are read as. A snippet without a name is read
once and for all. A registration and the declaration of a watched variable are read as what
they look like for every name that an identifier can have.
-/

namespace Component

open Script Script.Build

/-- The options of the factory function. -/
def optionValue : Node :=
  name "$option"

/-- The component that the factory function makes. -/
def componentValue : Node :=
  name "$component"

/-- The properties that the factory function is given. -/
def propsValue : Node :=
  name "$props"

/-- The function that asks for a refresh. -/
def refreshValue : Node :=
  name Refresh.refreshName

/-- The statements at the start of every factory function. -/
def commonHeader : List Node :=
  [whenEmpty optionValue (assign (target "$option") emptyObject),
    whenEmpty (member optionValue "events")
      (assign ((member optionValue "events").withRole .part) emptyObject),
    declare .const "$props" [orEmptyObject (member optionValue "props")],
    declare .const "$component" [call (name "$$makeComponent") [name "$element", optionValue]],
    declare .const Refresh.refreshName [call (name "$$makeApply") [member componentValue "$cd"]]]

/-- The statements that take the place of properties when there are none. -/
def proplessHeader : List Node :=
  [assign ((member componentValue "push").withRole .part) refreshValue,
    declare .const "$attributes" [propsValue]]

/-- The declaration of the emitter. -/
def emitterDeclaration : Node :=
  declare .const "$emit" [call (name "$makeEmitter") [optionValue]]

/-- The declaration of the destroy hook. -/
def destroyHookDeclaration : Node :=
  declareFunction destroyHookName ["fn"]
    [statement (call (member (member componentValue "$cd") "d") [name "fn"])]

/-- The statement that registers a property. -/
def registration
    (property : String) :
    Node :=
  let incoming := "_" ++ property
  statement (call (name "$$makeProp")
    [componentValue, propsValue, orEmptyObject (member optionValue "boundProps"),
      text property, arrowValue [] (name property),
      arrowBlock [incoming] [assign (target property) (name incoming), Refresh.refreshStatement]])

/-- The declaration of the attributes that are no properties. -/
def leftoverAttributes : Node :=
  declare .let "$attributes"
    [call (name "$$componentCompleteProps") [componentValue, refreshValue, propsValue]]

/-- The declaration of a variable that only a watcher assigns. -/
def watchedVariable
    (declared : String) :
    Node :=
  declare .var declared []

/-- The last statement of every factory function. -/
def footer : Node :=
  statement (call (name "$$runtime") [])

/-- The statements before those of the script. -/
def header
    (scope : Scope.Root)
    (hasProps : Bool) :
    List Node :=
  commonHeader ++ (if hasProps then [] else proplessHeader) ++
    (if scope.needsEmitter then [emitterDeclaration] else []) ++
    (if scope.needsDestroyHook then [destroyHookDeclaration] else [])

theorem readSnippet_footer :
    readSnippet footerText = .ok footer :=
  Outcome.eq_ok_of_any (by decide +kernel)

theorem readSnippet_leftoverAttributes :
    readSnippet leftoverAttributesText = .ok leftoverAttributes :=
  Outcome.eq_ok_of_any (by decide +kernel)

/-- The header is read from its snippets. -/
theorem mapM_readSnippet_header
    (scope : Scope.Root)
    (hasProps : Bool) :
    (headerTexts scope hasProps).mapM readSnippet = .ok (header scope hasProps) := by
  have common : commonHeaderTexts.mapM readSnippet = .ok commonHeader :=
    Outcome.eq_ok_of_any (by decide +kernel)
  have propless : proplessHeaderTexts.mapM readSnippet = .ok proplessHeader :=
    Outcome.eq_ok_of_any (by decide +kernel)
  have emitter : [emitterText].mapM readSnippet = .ok [emitterDeclaration] :=
    Outcome.eq_ok_of_any (by decide +kernel)
  have destroyHook : [destroyHookText].mapM readSnippet = .ok [destroyHookDeclaration] :=
    Outcome.eq_ok_of_any (by decide +kernel)
  have optional
      {texts : List String}
      {trees : List Node}
      (read : texts.mapM readSnippet = .ok trees)
      (isThere : Bool) :
      (if isThere then texts else []).mapM readSnippet = .ok (if isThere then trees else []) := by
    cases isThere
    · rfl
    · exact read
  have proplessRead : (if hasProps then [] else proplessHeaderTexts).mapM readSnippet =
      .ok (if hasProps then [] else proplessHeader) := by
    cases hasProps
    · exact propless
    · rfl
  rw [headerTexts, header, List.mapM_append, List.mapM_append, List.mapM_append, common,
    proplessRead, optional emitter, optional destroyHook]
  rfl

end Component

namespace Script

open Reader

/-- An underscore before a word makes another one. -/
theorem isWord_underscore
    {word : String}
    (isWord : IsWord word.toList) :
    IsWord ("_" ++ word).toList := by
  have characters : ("_" ++ word).toList = '_' :: word.toList := by
    rw [String.toList_append]
    rfl
  have isPart : Text.isIdentifierPart '_' := by decide +kernel
  have continues : ('_' :: word.toList).all Text.isIdentifierPart := by
    rw [List.all_cons, isPart, Bool.true_and]
    exact isWord.continues
  rw [characters]
  have starts : Text.isIdentifierStart '_' := by decide +kernel
  exact ⟨starts, continues, plain_of_parts continues⟩

/-- No reserved word starts with an underscore. -/
theorem unreserved_underscore
    (word : String) :
    reservedWords.contains ("_" ++ word) = false := by
  have noUnderscore : ∀ reserved ∈ reservedWords, reserved.toList.head? ≠ some '_' := by
    decide +kernel
  rw [← Bool.not_eq_true, List.contains_iff_mem]
  intro isReserved
  refine noUnderscore _ isReserved ?_
  rw [String.toList_append]
  rfl

theorem isIdentifier_underscore
    {word : String}
    (isNamed : isIdentifier word) :
    isIdentifier ("_" ++ word) :=
  isIdentifier_iff.mpr
    ⟨isWord_underscore (isWord_of_isIdentifier isNamed), unreserved_underscore word⟩

/-- The declaration of a variable is read from its tokens. -/
theorem Grammar.gives_variable
    {bound rounds : Nat}
    {start stop : Cursor}
    {property : String}
    (isNamed : isIdentifier property)
    (passes : start.Passes [.word "var" false, .word property false, .symbol ";"] stop) :
    ((closed (bound + 1) (rounds + 1)).readStatement .top .listed).Gives start
      (Component.watchedVariable property) stop := by
  obtain ⟨atVar, atName, ⟨isEnd, _⟩, rfl⟩ := passes
  have noSymbol {symbol : String} (isOther : symbol ≠ ";") :
      start.next.next.isAt symbol = false := by
    rw [Cursor.isAt, isEnd, beq_eq_false_iff_ne]
    rintro ⟨rfl⟩
    exact isOther rfl
  obtain ⟨span, declaratorSpan, nameSpan, ran⟩ :=
    @run_readStatement_variable (closed (bound + 1) (rounds + 1)) bound _ _ _ property
      (closed (bound + 1) rounds) rfl rfl (isName_of_isIdentifier rfl isNamed)
      ⟨atVar, atName, rfl⟩ (noSymbol (by decide)) (noSymbol (by decide))
      (run_semicolon_of_symbol isEnd)
  exact ⟨_, ran, rfl⟩

end Script

namespace Component

open Script Script.Build

variable {property : String}

/-- The text of a registration is read as the registration, for every identifier. -/
theorem readSnippet_registration
    (isNamed : isIdentifier property) :
    readSnippet (registrationText property) = .ok (registration property) := by
  have isIncoming := isIdentifier_underscore isNamed
  have makeProp : Chain "$$makeProp".toList (name "$$makeProp") :=
    .name (by decide +kernel) (by decide) (by decide)
  have component : Phrase "$component".toList componentValue := .name (by decide +kernel)
  have props : Phrase "$props".toList propsValue := .name (by decide +kernel)
  have option : Chain "$option".toList optionValue :=
    .name (by decide +kernel) (by decide) (by decide)
  have boundProps : Phrase _ (orEmptyObject (member optionValue "boundProps")) :=
    .orEmptyObject (option.member (isWord_of_isIdentifier (by decide +kernel)))
  have key : Phrase _ (text property) := .text (isWord_of_isIdentifier isNamed)
  have getter : Phrase _ (arrowValue [] (name property)) := .arrowName .none isNamed
  have assigned : Sentence _ (assign (target property) (name ("_" ++ property))) :=
    .assign (.name isNamed) (.name isIncoming)
  have refresh : Chain "$$apply".toList refreshValue :=
    .name (by decide +kernel) (by decide) (by decide)
  have setter := Phrase.block (.name isIncoming) 0 0 (.cons assigned 1 (.last (.run refresh)))
  have arguments :=
    Listed.cons component 0 1 (.cons props 0 1 (.cons boundProps 0 1 (.cons key 0 1
      (.cons getter 0 1 (.last setter)))))
  have written : registrationText property =
      "$$makeProp($component, $props, $option.boundProps || \x7b\x7d, '" ++ property ++
        "', () => " ++ property ++ ", _" ++ property ++ " => \x7b" ++ property ++ " = _" ++
        property ++ "; $$apply();\x7d)" :=
    rfl
  refine readSnippet_of_call makeProp arguments ?_
  simp [written, spaces, arrowMark]

/-- The text of a declaration is read as the declaration, for every identifier. -/
theorem readSnippet_watchedVariable
    (isNamed : isIdentifier property) :
    readSnippet (watchedVariableText property) = .ok (watchedVariable property) := by
  have isWord := isWord_of_isIdentifier isNamed
  have characters : (watchedVariableText property).toList =
      'v' :: 'a' :: 'r' :: ' ' :: (property.toList ++ [';']) := by
    rw [watchedVariableText, String.toList_append, String.toList_append]
    rfl
  have behind :
      textAfter? [.word "var" false, .word property false, .symbol ";"]
          (watchedVariableText property).toList =
        some [] := by
    rw [characters]
    refine (@textAfter?_simple "var" (' ' :: _) (by decide) (by decide) rfl _).trans ?_
    exact (textAfter?_space _ _ _).trans (textAfter?_word isWord rfl _)
  have settles : (watchedVariable property).settle? = some (watchedVariable property) := rfl
  refine readSnippet_of_tokens rfl behind (fun start stop passes _ => ?_)
    settles (fun node same => by rw [Node.exportedNames, same]; rfl)
  rw [characters]
  exact Grammar.gives_variable isNamed passes

end Component

end Reactivity
