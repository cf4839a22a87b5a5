import Reactivity.Script.Layout.Setting

namespace Reactivity.Script.Layout

/-!
# Layout of imports and exports
-/

/-- Write names between braces. -/
def nameList
    (names : List String) :
    String :=
  if names.isEmpty then "\x7b\x7d" else "\x7b " ++ joined ", " names ++ " \x7d"

/-- Write two names, or only one if they are equal. -/
def renamed
    (inner outer : ModuleName) :
    String :=
  if inner == outer then
    moduleNameText inner
  else
    moduleNameText inner ++ " as " ++ moduleNameText outer

/-- Write the attributes of an import or export. -/
def attributesText :
    Option ModuleAttributes →
    String
  | none => ""
  | some attributes =>
      (if attributes.isAssertion then " assert " else " with ") ++
        nameList (attributes.entries.map (fun (key, value) =>
          moduleNameText key ++ ": " ++ stringText value))

/-- Write the names that an import binds. -/
def importNames
    (bindings : List ImportBinding) :
    String :=
  let direct := bindings.filterMap (fun binding =>
    match binding with
    | .default name => some name
    | .everything name => some ("* as " ++ name)
    | .named _ _ => none)
  let named := bindings.filterMap (fun binding =>
    match binding with
    | .named imported name => some (renamed imported (.plain name))
    | _ => none)
  joined ", " (direct ++ (if named.isEmpty then [] else [nameList named]))

/-- Write an import. -/
def importText
    (bindings : Option (List ImportBinding))
    (source : String)
    (attributes : Option ModuleAttributes) :
    String :=
  let origin := stringText source ++ attributesText attributes ++ ";\n"
  match bindings with
  | none => "import " ++ origin
  | some [] => "import \x7b\x7d from " ++ origin
  | some names => "import " ++ importNames names ++ " from " ++ origin

/-- Write an export list. -/
def exportListText
    (entries : List ExportEntry)
    (source : Option String)
    (attributes : Option ModuleAttributes) :
    String :=
  "export " ++ nameList (entries.map (fun entry => renamed entry.inner entry.outer)) ++
    joined "" (source.toList.map (" from " ++ stringText ·)) ++ attributesText attributes ++ ";\n"

/-- Write an export of all names of another module. -/
def exportAllText
    (outer : Option ModuleName)
    (source : String)
    (attributes : Option ModuleAttributes) :
    String :=
  "export *" ++ joined "" (outer.toList.map (" as " ++ moduleNameText ·)) ++ " from " ++
    stringText source ++ attributesText attributes ++ ";\n"

/-- Write the export of a declaration. -/
def exportDeclaration
    (declaration : Piece)
    (setting : Setting) :
    String :=
  let isVariables :=
    match declaration.form with
    | .declaration _ => true
    | _ => false
  setting.indent ++ "export " ++ declaration.write setting.within ++
    (if isVariables then ";\n" else "\n")

/-- Write a default export. -/
def exportDefault
    (value : Piece)
    (setting : Setting) :
    String :=
  let isDeclaration :=
    match value.form with
    | .function head => head.isDeclaration
    | .classBody _ isDeclaration => isDeclaration
    | _ => false
  setting.indent ++ "export default " ++
    if isDeclaration then
      value.write setting.within ++ "\n"
    else
      value.write { setting.free .comma with lead := .exportDefault } ++ ";\n"

end Reactivity.Script.Layout
