import Reactivity.Data.Value

namespace Reactivity.Component

open Data

/-!
# Options of a component
-/

/-- The wishes of the caller. -/
structure Options where
  /-- The name of the factory function. -/
  name : String := "widget"
  /-- The factory function is the default export of the module. -/
  exportDefault : Bool := false
  deriving Repr, DecidableEq

namespace Options

/-- The options as a structured value. -/
def encode
    (options : Options) :
    Value :=
  .record [("name", .text options.name), ("exportDefault", .boolean options.exportDefault)]

/-- Read options; a missing field has its default. -/
def decode?
    (value : Value) :
    Option Options := do
  let fields ← value.fieldsAs? ["name", "exportDefault"]
  let defaults : Options := {}
  let name ← Value.optional? fields "name" defaults.name Value.asText?
  let exportDefault ←
    Value.optional? fields "exportDefault" defaults.exportDefault Value.asBoolean?
  return { name, exportDefault }

end Options

/-- A script and the options it is compiled with. -/
structure Input where
  code : String
  options : Options := {}
  deriving Repr, DecidableEq

namespace Input

/-- Read an input; without options it has the default ones. -/
def decode?
    (value : Value) :
    Option Input := do
  let fields ← value.fieldsAs? ["code", "options"]
  let code ← Value.required? fields "code" Value.asText?
  let options ← Value.optional? fields "options" {} Options.decode?
  return { code, options }

/-- Read a list of inputs. -/
def decodeAll?
    (value : Value) :
    Option (List Input) :=
  value.asList?.bind (fun items => items.mapM decode?)

end Input

end Reactivity.Component
