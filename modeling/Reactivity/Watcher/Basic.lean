import Reactivity.Data.Value

namespace Reactivity

open Data

/-!
# Watchers

A reactive statement becomes a watcher: texts of the script that are put together
again in a call of the runtime.
-/

/-- A watcher. -/
inductive Watcher where
  /-- Assigns a value to a target before every refresh. -/
  | assigned (target expression : String)
  /--
  Calls a function when values change.

  The source of the dependencies is the text from the first one to the last one.
  -/
  | tracked (dependencies : List String) (dependencySource callback : String)
  deriving Repr, DecidableEq

namespace Watcher

/-- The statement that sets up a watcher; several values are compared as an array. -/
def render :
    Watcher →
    String
  | .assigned target expression =>
      "$cd.prefix.push(() => \x7b" ++ target ++ " = " ++ expression ++ ";\x7d);"
  | .tracked [_] dependencySource callback =>
      "$watch($cd, () => (" ++ dependencySource ++ "), " ++ callback ++ ");"
  | .tracked _ dependencySource callback =>
      "$watch($cd, () => [" ++ dependencySource ++ "], ($args) => \x7b (" ++ callback ++
        ").apply(null, $args); \x7d, \x7bcmp: $$compareArray\x7d);"

/-- The watcher as a structured value. -/
def encode :
    Watcher →
    Value
  | .assigned target expression =>
      .record [("kind", .text "prefix"), ("target", .text target),
        ("expression", .text expression)]
  | .tracked dependencies dependencySource callback =>
      .record [("kind", .text "tracked"), ("dependencies", .ofTexts dependencies),
        ("dependencySource", .text dependencySource), ("callback", .text callback)]

/-- Read a watcher. -/
def read?
    (value : Value) :
    Option Watcher := do
  match ← (value.tag? "kind").bind Value.asText? with
  | "prefix" =>
      let fields ← value.fieldsAs? ["kind", "target", "expression"]
      return .assigned (← Value.required? fields "target" Value.asText?)
        (← Value.required? fields "expression" Value.asText?)
  | "tracked" =>
      let fields ← value.fieldsAs? ["kind", "dependencies", "dependencySource", "callback"]
      return .tracked (← Value.required? fields "dependencies" Value.asTexts?)
        (← Value.required? fields "dependencySource" Value.asText?)
        (← Value.required? fields "callback" Value.asText?)
  | _ => none

/-- Read a watcher from a document. -/
def decode?
    (value : Value) :
    Option Watcher :=
  if value.isShallow then read? value else none

end Watcher

end Reactivity
