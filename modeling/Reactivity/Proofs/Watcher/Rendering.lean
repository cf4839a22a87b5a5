import Reactivity.Proofs.Script.Sentence
import Reactivity.Proofs.Watcher.Reactive

namespace Reactivity

open Script Script.Build

/-!
# Watchers that are read as they are written

The texts that a watcher is rendered from stand in a new place, between other tokens. If each
of them is a phrase, the statement that sets up the watcher is read as a call with the author's
expressions in it. A text that was cut out of parentheses need not be a phrase, and neither
need the text between the first and the last of several dependencies be a list of phrases.
-/

namespace Watcher

/-- The statement that assigns a value before every refresh. -/
def assignedSetup
    (left right : Node) :
    Node :=
  statement (call (member (member (name "$cd") "prefix") "push")
    [arrowBlock [] [assign left right]])

/-- The statement that calls a function when one value changes. -/
def trackedSetup
    (dependency callback : Node) :
    Node :=
  statement (call (name "$watch") [name "$cd", arrowValue [] dependency.wrapped, callback])

/-- The statement that calls a function when one of several values changes. -/
def comparedSetup
    (dependencies : List Node)
    (callback : Node) :
    Node :=
  statement (call (name "$watch")
    [name "$cd", arrowValue [] (array dependencies),
      arrowBlock ["$args"]
        [statement (call (member callback.wrapped "apply") [null, name "$args"])],
      object "cmp" (name "$$compareArray")])

variable {left right dependency function : Node}

/-- A target and a phrase are assigned as they are. -/
theorem readSnippet_assigned
    {text expression : String}
    (isTarget : Target text.toList left)
    (value : Phrase expression.toList right) :
    readSnippet (render (.assigned text expression)) = .ok (assignedSetup left right) := by
  have detector : Chain "$cd".toList (name "$cd") :=
    .name (by decide +kernel) (by decide) (by decide)
  have prefixes : Chain _ (member (name "$cd") "prefix") :=
    detector.member (isWord_of_isIdentifier (by decide +kernel))
  have callee : Chain _ (member (member (name "$cd") "prefix") "push") :=
    prefixes.member (isWord_of_isIdentifier (by decide +kernel))
  have body := Phrase.block .none 0 0 (.last (.assign isTarget value))
  refine readSnippet_of_sentence (.call callee (.last body)) ?_
  have written : render (.assigned text expression) =
      "$cd.prefix.push(() => \x7b" ++ text ++ " = " ++ expression ++ ";\x7d);" :=
    rfl
  simp [written, spaces, arrowMark]

/-- The function that watches is called by its name. -/
theorem chain_watch :
    Chain "$watch".toList (name "$watch") :=
  .name (by decide +kernel) (by decide) (by decide)

/-- The first argument of a watcher is the change detector. -/
theorem phrase_detector :
    Phrase "$cd".toList (name "$cd") :=
  .name (by decide +kernel)

/-- A phrase is watched as it is, but for the parentheses around it. -/
theorem readSnippet_tracked
    {text source callback : String}
    (value : Phrase source.toList dependency)
    (handler : Phrase callback.toList function) :
    readSnippet (render (.tracked [text] source callback)) =
      .ok (trackedSetup dependency function) := by
  have getter := Phrase.arrow .none (.enclosed value)
  have arguments := Listed.cons phrase_detector 0 1 (.cons getter 0 1 (.last handler))
  refine readSnippet_of_sentence (.call chain_watch arguments) ?_
  have written : render (.tracked [text] source callback) =
      "$watch($cd, () => (" ++ source ++ "), " ++ callback ++ ");" :=
    rfl
  simp [written, spaces, arrowMark]

/-- Several phrases are watched as the items of an array, in their order. -/
theorem readSnippet_compared
    {first second source callback : String}
    {others : List String}
    {dependencies : List Node}
    (values : Listed source.toList dependencies)
    (handler : Phrase callback.toList function) :
    readSnippet (render (.tracked (first :: second :: others) source callback)) =
      .ok (comparedSetup dependencies function) := by
  have getter := Phrase.arrow .none (.array values)
  have apply : Chain _ (member function.wrapped "apply") :=
    (Chain.enclosed handler).member (isWord_of_isIdentifier (by decide +kernel))
  have received : Phrase "$args".toList (name "$args") := .name (by decide +kernel)
  have passed := Sentence.call apply (.cons .null 0 1 (.last received))
  have setter : Phrase _ (arrowBlock ["$args"] _) :=
    .block (.enclosed (by decide +kernel)) 1 1 (.last passed)
  have comparison : Phrase "$$compareArray".toList (name "$$compareArray") :=
    .name (by decide +kernel)
  have options : Phrase _ (object "cmp" _) :=
    .object (isWord_of_isIdentifier (by decide +kernel)) comparison
  have arguments :=
    Listed.cons phrase_detector 0 1 (.cons getter 0 1 (.cons setter 0 1 (.last options)))
  refine readSnippet_of_sentence (.call chain_watch arguments) ?_
  have written : render (.tracked (first :: second :: others) source callback) =
      "$watch($cd, () => [" ++ source ++ "], ($args) => \x7b (" ++ callback ++
        ").apply(null, $args); \x7d, \x7bcmp: $$compareArray\x7d);" :=
    rfl
  simp [written, spaces, arrowMark]

/-- Several variables and a call with all of them are watched and called as they are written. -/
theorem readSnippet_variables
    {first second called : String}
    {others names : List String}
    (several : names = first :: second :: others)
    (areNamed : ∀ word ∈ names, isIdentifier word)
    (isCalled : isIdentifier called)
    (noAsync : called ≠ "async")
    (noLet : called ≠ "let") :
    readSnippet
        (render
          (.tracked names (", ".intercalate names)
            ("() => " ++ called ++ "(" ++ ", ".intercalate names ++ ")"))) =
      .ok
        (comparedSetup (names.map name)
          (arrowValue [] (call (name called) (names.map name)))) := by
  subst several
  have values := Listed.names (List.cons_ne_nil _ _) areNamed
  have handler := Phrase.arrow .none ((Chain.name isCalled noAsync noLet).call values)
  refine readSnippet_compared values ?_
  simpa [arrowMark] using handler

end Watcher

namespace Reactive

/--
The texts that a reactive statement is cut into are phrases.

The second tree is the statement that sets up the watcher of the first one.
-/
inductive Phrased
    (source : List Char) :
    Node →
    Node →
    Prop where
  | toVariable
      {role valueRole nameRole : Role}
      {span valueSpan nameSpan : Span}
      {assigned : String}
      {inner : List Node}
      {right : Node}
      (isNamed : isIdentifier assigned)
      (value : Phrase (sourceText source right).toList right.unplaced) :
      Phrased source
        (.mk .expressionStatement role span
          [.mk (.assignment .plain) valueRole valueSpan
            [.mk (.identifier assigned) nameRole nameSpan inner, right]])
        (Watcher.assignedSetup (Build.target assigned) right.unplaced)
  | toMember
      {role valueRole : Role}
      {span valueSpan : Span}
      {left right : Node}
      (isMember : isMember left.form)
      (isTarget : Target (sourceText source left).toList left.unplaced)
      (value : Phrase (sourceText source right).toList right.unplaced) :
      Phrased source
        (.mk .expressionStatement role span
          [.mk (.assignment .plain) valueRole valueSpan [left, right]])
        (Watcher.assignedSetup left.unplaced right.unplaced)
  | tracked
      {role valueRole : Role}
      {span valueSpan : Span}
      {dependency callback : Node}
      (value : Phrase (sourceText source dependency).toList dependency.unplaced)
      (handler : Phrase (sourceText source callback).toList callback.unplaced) :
      Phrased source
        (.mk .expressionStatement role span
          [.mk .sequence valueRole valueSpan ([dependency] ++ [callback])])
        (Watcher.trackedSetup dependency.unplaced callback.unplaced)
  | compared
      {role valueRole : Role}
      {span valueSpan : Span}
      {first second last callback : Node}
      {others : List Node}
      (isLast : (first :: second :: others).getLast? = some last)
      (values :
        Listed (Span.text ⟨first.span.start, last.span.stop⟩ source).toList
          ((first :: second :: others).map Node.unplaced))
      (handler : Phrase (sourceText source callback).toList callback.unplaced) :
      Phrased source
        (.mk .expressionStatement role span
          [.mk .sequence valueRole valueSpan (first :: second :: others ++ [callback])])
        (Watcher.comparedSetup ((first :: second :: others).map Node.unplaced) callback.unplaced)

/-- The watcher of an accepted statement of phrases is set up with the values of the statement. -/
theorem readSnippet_watcher
    {source : List Char}
    {scope : Scope.Root}
    {body setup : Node}
    {reactive : Reactive}
    (built : ofBody source scope body = .ok reactive)
    (phrased : Phrased source body setup) :
    readSnippet reactive.watcher.render = .ok setup := by
  have accepted := accepted_of_ofBody built
  cases phrased with
  | toVariable isNamed value =>
      cases accepted with
      | toVariable => exact Watcher.readSnippet_assigned (.name isNamed) value
      | toMember _ _ _ _ _ isMember => cases isMember
  | toMember isMember isTarget value =>
      cases accepted with
      | toVariable => cases isMember
      | toMember => exact Watcher.readSnippet_assigned isTarget value
  | tracked value handler =>
      obtain ⟨dependencies, callback, first, last, same, isFirst, isLast, rfl⟩ :=
        accepted.exists_tracked
      obtain ⟨rfl, ⟨rfl⟩⟩ := List.append_inj' same rfl
      cases isFirst
      cases isLast
      exact Watcher.readSnippet_tracked value handler
  | compared isLast values handler =>
      obtain ⟨dependencies, callback, first, last, same, isFirst, isEnd, rfl⟩ :=
        accepted.exists_tracked
      obtain ⟨rfl, ⟨rfl⟩⟩ := List.append_inj' same rfl
      cases isFirst
      cases isLast.symm.trans isEnd
      exact Watcher.readSnippet_compared values handler

end Reactive

end Reactivity
