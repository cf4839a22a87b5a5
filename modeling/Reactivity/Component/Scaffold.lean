import Reactivity.Scope.Root

namespace Reactivity.Component

/-!
# Scaffold of a component

The statements that a factory function has besides those of the script. They are given as
snippets, to be read by the reader of scripts. A registration and the declaration of a
watched variable are made with a name of the script.
-/

/-- The snippets at the start of every factory function. -/
def commonHeaderTexts : List String :=
  ["if(!$option) $option = \x7b\x7d",
    "if(!$option.events) $option.events = \x7b\x7d",
    "const $props = $option.props || \x7b\x7d",
    "const $component = $$makeComponent($element, $option);",
    "const $$apply = $$makeApply($component.$cd)"]

/-- The snippets that take the place of properties when there are none. -/
def proplessHeaderTexts : List String :=
  ["$component.push = $$apply", "const $attributes = $props"]

/-- The declaration of the emitter. -/
def emitterText : String :=
  "const $emit = $makeEmitter($option);"

/-- The declaration of the destroy hook. -/
def destroyHookText : String :=
  "function $onDestroy(fn) \x7b$component.$cd.d(fn);\x7d"

/-- The snippets before the statements of the script. -/
def headerTexts
    (scope : Scope.Root)
    (hasProps : Bool) :
    List String :=
  commonHeaderTexts ++ (if hasProps then [] else proplessHeaderTexts) ++
    (if scope.needsEmitter then [emitterText] else []) ++
    (if scope.needsDestroyHook then [destroyHookText] else [])

/-- The statement that registers a property. -/
def registrationText
    (property : String) :
    String :=
  "$$makeProp($component, $props, $option.boundProps || \x7b\x7d, '" ++ property ++ "', () => " ++
    property ++ ", _" ++ property ++ " => \x7b" ++ property ++ " = _" ++ property ++
    "; $$apply();\x7d)"

/-- The declaration of the attributes that are no properties. -/
def leftoverAttributesText : String :=
  "let $attributes = $$componentCompleteProps($component, $$apply, $props)"

/-- The declaration of a variable that only a watcher assigns. -/
def watchedVariableText
    (declared : String) :
    String :=
  "var " ++ declared ++ ";"

/-- The last statement of every factory function. -/
def footerText : String :=
  "$$runtime()"

end Reactivity.Component
