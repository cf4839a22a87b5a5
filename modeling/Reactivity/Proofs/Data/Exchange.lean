import Reactivity.Component.Options
import Reactivity.Proofs.Scope.TopLevel
import Reactivity.Proofs.Template.Exchange
import Reactivity.Watcher.Basic

namespace Reactivity

open Data Text

/-!
# Exchange of structured values

Templates, watchers, scopes and options are written as structured values and read from
them. Their exchange is faithful. A template is read as a whole or not at all. Watchers,
scopes and options are written with a nesting that can always be read, templates only if
they are not nested too deep themselves.
-/

namespace Watcher

/-- A watcher has its kind and its texts in its normal form, and nothing else. -/
inductive NormalWatcher
    (value : Value) :
    Value →
    Prop where
  | assigned
      {fields : List (String × Value)}
      {target expression : String}
      (tagged : value.tag? "kind" = some (.text "prefix"))
      (laidOut : value.fieldsAs? ["kind", "target", "expression"] = some fields)
      (targeted : Value.lookup? "target" fields = some (.text target))
      (expressed : Value.lookup? "expression" fields = some (.text expression)) :
      NormalWatcher value
        (.record [("kind", .text "prefix"), ("target", .text target),
          ("expression", .text expression)])
  | tracked
      {fields : List (String × Value)}
      {dependencies : List String}
      {dependencySource callback : String}
      (tagged : value.tag? "kind" = some (.text "tracked"))
      (laidOut : value.fieldsAs? ["kind", "dependencies", "dependencySource", "callback"] =
        some fields)
      (dependent : Value.lookup? "dependencies" fields = some (.ofTexts dependencies))
      (sourced : Value.lookup? "dependencySource" fields = some (.text dependencySource))
      (called : Value.lookup? "callback" fields = some (.text callback)) :
      NormalWatcher value
        (.record [("kind", .text "tracked"), ("dependencies", .ofTexts dependencies),
          ("dependencySource", .text dependencySource), ("callback", .text callback)])

/-- A watcher is written as a record, with at most a list of texts in it. -/
theorem depth_encode_le
    (watcher : Watcher) :
    watcher.encode.depth ≤ 2 := by
  cases watcher with
  | assigned target expression => simp [encode, Value.depth, Value.fieldsDepth]
  | tracked dependencies dependencySource callback =>
      simp [encode, Value.depth, Value.fieldsDepth, Value.depth_ofTexts]

/-- Reading a watcher undoes writing it. -/
theorem read?_encode
    (watcher : Watcher) :
    read? watcher.encode = some watcher := by
  cases watcher <;>
  simp [encode, read?, Value.tag?, Value.fieldsAs?, Value.isSingle, Value.required?,
    Value.lookup?, Value.asText?]

/-- The values with a normal form are those that are read; it is what is written for them. -/
theorem normalWatcher_iff
    {value written : Value} :
    NormalWatcher value written ↔
      ∃ watcher, read? value = some watcher ∧ encode watcher = written := by
  constructor
  · intro normal
    cases normal with
    | @assigned fields target expression tagged laidOut targeted expressed =>
        refine ⟨.assigned target expression, ?_, rfl⟩
        simp [read?, tagged, laidOut, targeted, expressed, Value.required?, Value.asText?]
    | @tracked fields dependencies dependencySource callback tagged laidOut dependent sourced
        called =>
        refine ⟨.tracked dependencies dependencySource callback, ?_, rfl⟩
        simp [read?, tagged, laidOut, dependent, sourced, called, Value.required?, Value.asText?]
  · rintro ⟨watcher, read, rfl⟩
    simp only [read?, Option.bind_eq_bind, Option.bind_eq_some_iff, Option.pure_def,
      Value.asText?_eq_some_iff] at read
    obtain ⟨kind, ⟨tag, tagged, rfl⟩, read⟩ := read
    split at read
    · simp only [Option.bind_eq_some_iff, Value.required?_eq_some_iff,
        Value.asText?_eq_some_iff] at read
      obtain ⟨fields, laidOut, target, ⟨_, targeted, rfl⟩, expression, ⟨_, expressed, rfl⟩,
        read⟩ := read
      cases read
      exact .assigned tagged laidOut targeted expressed
    · simp only [Option.bind_eq_some_iff, Value.required?_eq_some_iff,
        Value.asText?_eq_some_iff, Value.asTexts?_eq_some_iff] at read
      obtain ⟨fields, laidOut, dependencies, ⟨_, dependent, rfl⟩, dependencySource,
        ⟨_, sourced, rfl⟩, callback, ⟨_, called, rfl⟩, read⟩ := read
      cases read
      exact .tracked tagged laidOut dependent sourced called
    · simp at read

/-- The exchange of watchers is faithful. -/
theorem faithful_watcher :
    Faithful encode decode? (NormalDocument NormalWatcher) := by
  refine .of_document read?_encode (fun _ _ => normalWatcher_iff) ?_
  intro value written normal
  have nested : 0 < value.depth := by
    cases normal with
    | assigned _ laidOut | tracked _ laidOut => exact Value.depth_pos_of_fieldsAs? laidOut
  obtain ⟨watcher, _, rfl⟩ := normalWatcher_iff.mp normal
  have bound := watcher.depth_encode_le
  omega

end Watcher

namespace Text.NameSet

/-- A set is read back from the list of its members. -/
theorem ofList_names
    (set : NameSet) :
    ofList set.names = set :=
  eq_of_mem_iff (fun _ => mem_ofList)

end Text.NameSet

namespace Scope.Root

/-- A scope has the names of both kinds in increasing order in its normal form. -/
inductive NormalScope
    (value : Value) :
    Value →
    Prop where
  | mk
      {fields : List (String × Value)}
      {variableList functionList variableNames functionNames : List String}
      (laidOut : value.fieldsAs? ["variables", "functions"] = some fields)
      (variablesFound : Value.lookup? "variables" fields = some (.ofTexts variableList))
      (functionsFound : Value.lookup? "functions" fields = some (.ofTexts functionList))
      (variablesIncreasing : variableNames.Pairwise (· < ·))
      (functionsIncreasing : functionNames.Pairwise (· < ·))
      (sameVariables : ∀ name, name ∈ variableNames ↔ name ∈ variableList)
      (sameFunctions : ∀ name, name ∈ functionNames ↔ name ∈ functionList) :
      NormalScope value
        (.record [("variables", .ofTexts variableNames), ("functions", .ofTexts functionNames)])

/-- A scope is written as a record with two lists of texts. -/
theorem depth_encode
    (scope : Root) :
    scope.encode.depth = 2 := by
  simp [encode, Value.depth, Value.fieldsDepth, Value.depth_ofTexts]

/-- The exchange of scopes is faithful. -/
theorem faithful_scope :
    Faithful encode decode? NormalScope := by
  refine .of_reads_back ?_ ?_ ?_
  · intro scope
    rw [Value.isShallow, depth_encode]
    simp [encode, decode?, Value.fieldsAs?, Value.isSingle, Value.required?, Value.lookup?,
      NameSet.ofList_names, Value.nestingLimit]
  · intro value written
    constructor
    · rintro @⟨fields, variableList, functionList, variableNames, functionNames, laidOut,
        variablesFound, functionsFound, variablesIncreasing, functionsIncreasing, sameVariables,
        sameFunctions⟩
      refine ⟨⟨⟨variableNames, variablesIncreasing⟩, ⟨functionNames, functionsIncreasing⟩⟩, ?_,
        rfl⟩
      have variablesRead : NameSet.ofList variableList = ⟨variableNames, variablesIncreasing⟩ :=
        NameSet.eq_of_mem_iff fun name => NameSet.mem_ofList.trans (sameVariables name).symm
      have functionsRead : NameSet.ofList functionList = ⟨functionNames, functionsIncreasing⟩ :=
        NameSet.eq_of_mem_iff fun name => NameSet.mem_ofList.trans (sameFunctions name).symm
      simp [decode?, laidOut, variablesFound, functionsFound, Value.required?, variablesRead,
        functionsRead]
    · rintro ⟨scope, read, rfl⟩
      simp only [decode?, Option.bind_eq_bind, Option.bind_eq_some_iff, Option.pure_def,
        Value.required?_eq_some_iff, Value.asTexts?_eq_some_iff, Option.some.injEq] at read
      obtain ⟨fields, laidOut, variableList, ⟨_, variablesFound, rfl⟩, functionList,
        ⟨_, functionsFound, rfl⟩, rfl⟩ := read
      exact .mk laidOut variablesFound functionsFound (NameSet.increasing _) (NameSet.increasing _)
        (fun _ => NameSet.mem_ofList) (fun _ => NameSet.mem_ofList)
  · rintro value _ ⟨laidOut, _, _, _, _, _, _⟩
    have nested := Value.depth_pos_of_fieldsAs? laidOut
    simp only [Value.depth, Value.fieldsDepth, Value.depth_ofTexts]
    omega

end Scope.Root

namespace Component.Options

/-- Options have both fields in their normal form; a missing one has its default. -/
inductive NormalOptions
    (value : Value) :
    Value →
    Prop where
  | mk
      {fields : List (String × Value)}
      {name : String}
      {exportDefault : Bool}
      (laidOut : value.fieldsAs? ["name", "exportDefault"] = some fields)
      (named : (Value.lookup? "name" fields).getD (.text "widget") = .text name)
      (exported :
        (Value.lookup? "exportDefault" fields).getD (.boolean false) = .boolean exportDefault) :
      NormalOptions value
        (.record [("name", .text name), ("exportDefault", .boolean exportDefault)])

/-- Options are written as a record with nothing nested in it. -/
theorem depth_encode
    (options : Options) :
    options.encode.depth = 1 := by
  simp [encode, Value.depth, Value.fieldsDepth]

/-- The exchange of options is faithful. -/
theorem faithful_options :
    Faithful encode decode? NormalOptions := by
  refine .of_reads_back ?_ ?_ ?_
  · intro options
    rw [Value.isShallow, depth_encode]
    simp [encode, decode?, Value.fieldsAs?, Value.isSingle, Value.optional?, Value.lookup?,
      Value.asText?, Value.asBoolean?, Value.nestingLimit]
  · intro value written
    simp only [decode?, Option.bind_eq_bind, Option.bind_eq_some_iff, Option.pure_def,
      Value.optional?_eq_some_iff_getD Value.asText?_eq_some_iff,
      Value.optional?_eq_some_iff_getD Value.asBoolean?_eq_some_iff, Option.some.injEq]
    constructor
    · rintro ⟨laidOut, named, exported⟩
      exact ⟨_, ⟨_, laidOut, _, named, _, exported, rfl⟩, rfl⟩
    · rintro ⟨options, ⟨fields, laidOut, name, named, exportDefault, exported, rfl⟩, rfl⟩
      exact .mk laidOut named exported
  · rintro value _ ⟨_, _, _⟩
    simp [Value.depth, Value.fieldsDepth]

end Component.Options

namespace Template

/--
Templates, watchers, scopes and options are exchanged faithfully. What is written for a
template can be read if at most 63 nodes are nested in it, and what is written for a watcher,
a scope or options always can. A template is not read exactly when it is nested too deep or
some node that it reaches is faulty.
-/
theorem exchange_faithful :
    Faithful Node.encode decodeNode? (NormalDocument (NormalNode false)) ∧
    Faithful (fun nodes => .list (encodeNodes nodes)) decodeNodes?
      (NormalDocument NormalNodes) ∧
    Faithful Watcher.encode Watcher.decode? (NormalDocument Watcher.NormalWatcher) ∧
    Faithful Scope.Root.encode Scope.Root.decode? Scope.Root.NormalScope ∧
    Faithful Component.Options.encode Component.Options.decode?
      Component.Options.NormalOptions ∧
    (∀ nodes, (Value.list (encodeNodes nodes)).isShallow ↔ heightAll nodes ≤ 63) ∧
    (∀ watcher : Watcher, watcher.encode.isShallow) ∧
    (∀ scope : Scope.Root, scope.encode.isShallow) ∧
    (∀ options : Component.Options, options.encode.isShallow) ∧
    ∀ items, decodeNodes? (.list items) = none ↔
      (Value.list items).isShallow = false ∨
        ∃ isNested value, Reaches false items isNested value ∧ Faulty isNested value := by
  have shallow {value : Value} (bound : value.depth ≤ 2) : value.isShallow :=
    decide_eq_true (Nat.lt_of_le_of_lt bound (by decide))
  refine ⟨faithful_node, faithful_nodes, Watcher.faithful_watcher, Scope.Root.faithful_scope,
    Component.Options.faithful_options, isShallow_encodeNodes, ?_, ?_, ?_,
    fun _ => decodeNodes?_eq_none_iff⟩
  · exact fun watcher => shallow watcher.depth_encode_le
  · exact fun scope => shallow (Nat.le_of_eq scope.depth_encode)
  · exact fun options => shallow (options.depth_encode ▸ Nat.le_succ 1)

/-- A loop over a condition whose second branch holds a text without a value is not read. -/
theorem exchange_faithful_textless :
    decodeNodes? (.list [.record [("type", .text "each"), ("children", .list [
      .record [("type", .text "if"), ("elseChildren", .list [
        .record [("type", .text "text")]])]])]]) = none := by
  have reads := exchange_faithful.2.2.2.2.2.2.2.2.2
  refine (reads _).mpr (.inr ⟨true, .record [("type", .text "text")], ?_, ?_⟩)
  · refine .within (List.mem_singleton_self _) ⟨.each, _, "children", rfl, rfl, ?_, rfl⟩
      (.within (List.mem_singleton_self _) ⟨.branch, _, "elseChildren", rfl, rfl, ?_, rfl⟩
        (.item (List.mem_singleton_self _))) <;>
    decide
  · have typed : kind? true (.record [("type", .text "text")]) = some .text := rfl
    exact .textless typed rfl (List.mem_singleton_self "value") rfl

/-- In a children list a number is read as a type; everywhere a list is read as a node. -/
theorem decodeNodes?_otherForms :
    decodeNodes? (.list [.record [("type", .text "each"), ("children", .list [
      .record [("type", .number 0 0), ("value", .text "a")]])]]) =
        some [.block .each [.text "a"]] ∧
    decodeNodes? (.list [.list [.text "text", .text "a"]]) = some [.text "a"] :=
  ⟨rfl, rfl⟩

end Template

end Reactivity
