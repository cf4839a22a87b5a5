import Reactivity.Proofs.Component.Checks
import Reactivity.Proofs.Watcher.Cuts

namespace Reactivity

open Script

/-!
# How the source of a watcher is put together

A reader of scripts that counts in bytes promises that the range of every node is within
the text, and that a sequence has at least two items whose ranges stand one behind the
other. This is enough for every text of a watcher to be cut. The text of the dependencies
then consists of the text of each of them and of what stands between two neighbours.
-/

/-- All ranges of a tree are within a text, and the items of a sequence stand in order. -/
inductive Script.Node.IsSpanned
    (text : String) :
    Node →
    Prop where
  | mk
      {form : Form}
      {role : Role}
      {span : Span}
      {children : List Node}
      (within : span.IsWithin text)
      (several : form = .sequence → 2 ≤ children.length)
      (ordered :
        form = .sequence →
          children.Pairwise (fun earlier later => earlier.span.stop ≤ later.span.start))
      (inside : ∀ child ∈ children, IsSpanned text child) :
      IsSpanned text (.mk form role span children)

namespace Script.Node.IsSpanned

variable
  {text : String}
  {node tree : Node}

theorem isWithin
    (spanned : node.IsSpanned text) :
    node.span.IsWithin text := by
  cases spanned with
  | mk within => exact within

/-- A node that is not a sequence promises nothing about its children in a row. -/
theorem plain
    {form : Form}
    {role : Role}
    {span : Span}
    {children : List Node}
    (isOther : form ≠ .sequence)
    (within : span.IsWithin text)
    (inside : ∀ child ∈ children, child.IsSpanned text) :
    IsSpanned text (.mk form role span children) :=
  .mk within (fun same => absurd same isOther) (fun same => absurd same isOther) inside

/-- Whatever occurs in the tree keeps the same promises. -/
theorem of_holds
    (spanned : tree.IsSpanned text)
    (holds : tree.Holds node) :
    node.IsSpanned text := by
  induction holds with
  | whole => exact spanned
  | inside member _ inductionHypothesis =>
      cases spanned with
      | mk _ _ _ inside => exact inductionHypothesis (inside _ member)

end Script.Node.IsSpanned

namespace Reactive

/-- The text of a node is cut by its range. -/
theorem sourceText_inCharacters
    {text own : String}
    {node : Node}
    (isOwn : node.span.cut? text = some own) :
    sourceText text.toList (node.inCharacters text) = own := by
  rw [sourceText, Node.inCharacters, Node.span_mapPositions]
  exact Span.text_of_cut? isOwn

/--
The texts of nodes that stand one behind the other, and the text from the first to the last
of them: in it, the text between two neighbours follows the text of the first.
-/
inductive Spells
    (text : String) :
    List Node →
    List String →
    String →
    Prop where
  | single
      {node : Node}
      {own : String}
      (isOwn : node.span.cut? text = some own) :
      Spells text [node] [own] own
  | more
      {node next : Node}
      {rest : List Node}
      {own gap joined : String}
      {texts : List String}
      (isOwn : node.span.cut? text = some own)
      (isGap : Span.cut? text ⟨node.span.stop, next.span.start⟩ = some gap)
      (spells : Spells text (next :: rest) texts joined) :
      Spells text (node :: next :: rest) (own :: texts) (own ++ gap ++ joined)

namespace Spells

variable
  {text : String}
  {nodes : List Node}
  {texts : List String}
  {joined : String}

/-- Nodes whose ranges are within the text and in order can be spelled. -/
theorem exists_of_ordered
    {first : Node}
    {rest : List Node}
    (within : ∀ node ∈ first :: rest, node.span.IsWithin text)
    (ordered :
      (first :: rest).Pairwise (fun earlier later => earlier.span.stop ≤ later.span.start)) :
    ∃ texts joined, Spells text (first :: rest) texts joined := by
  have firstWithin := within first List.mem_cons_self
  obtain ⟨own, isOwn⟩ := firstWithin.exists_cut
  induction rest generalizing first own with
  | nil => exact ⟨[own], own, .single isOwn⟩
  | cons next rest inductionHypothesis =>
      obtain ⟨behind, restOrdered⟩ := List.pairwise_cons.mp ordered
      have restWithin (node : Node) (member : node ∈ next :: rest) : node.span.IsWithin text :=
        within node (List.mem_cons_of_mem first member)
      have nextWithin := restWithin next List.mem_cons_self
      obtain ⟨nextOwn, isNext⟩ := nextWithin.exists_cut
      obtain ⟨texts, joined, spells⟩ :=
        inductionHypothesis restWithin restOrdered nextWithin nextOwn isNext
      have gapWithin : Span.IsWithin ⟨first.span.stop, next.span.start⟩ text :=
        ⟨firstWithin.2.1, nextWithin.1, behind next List.mem_cons_self⟩
      obtain ⟨gap, isGap⟩ := gapWithin.exists_cut
      exact ⟨own :: texts, own ++ gap ++ joined, .more isOwn isGap spells⟩

/-- What is spelled is the text from the first to the last node. -/
theorem cut?_eq
    (spells : Spells text nodes texts joined)
    {first last : Node}
    (isFirst : nodes.head? = some first)
    (isLast : nodes.getLast? = some last) :
    Span.cut? text ⟨first.span.start, last.span.stop⟩ = some joined := by
  induction spells generalizing first with
  | single isOwn =>
      cases isFirst
      cases isLast
      exact isOwn
  | more isOwn isGap _ inductionHypothesis =>
      cases isFirst
      rw [List.getLast?_cons_cons] at isLast
      exact Span.cut?_concat (Span.cut?_concat isOwn isGap) (inductionHypothesis rfl isLast)

/-- Each node is spelled as its characters. -/
theorem texts_eq
    (spells : Spells text nodes texts joined) :
    (nodes.map (Node.inCharacters text)).map (sourceText text.toList) = texts := by
  induction spells with
  | single isOwn => rw [List.map_singleton, List.map_singleton, sourceText_inCharacters isOwn]
  | more isOwn _ _ inductionHypothesis =>
      rw [List.map_cons, List.map_cons, sourceText_inCharacters isOwn, inductionHypothesis]

end Spells

section

variable
  {text : String}
  {body : Node}
  {items : List Node}

/-- The dependencies of a sequence can be spelled. -/
theorem exists_spells_dropLast
    (several : 2 ≤ items.length)
    (ordered : items.Pairwise (fun earlier later => earlier.span.stop ≤ later.span.start))
    (inside : ∀ item ∈ items, item.IsSpanned text) :
    ∃ texts joined, Spells text items.dropLast texts joined := by
  have part := List.dropLast_sublist items
  obtain ⟨first, rest, isCons⟩ : ∃ first rest, items.dropLast = first :: rest := by
    refine List.exists_cons_of_length_pos ?_
    rw [List.length_dropLast]
    omega
  rw [isCons] at part ⊢
  exact Spells.exists_of_ordered (fun node member => (inside node (part.subset member)).isWithin)
    (ordered.sublist part)

/-- A range that can be cut is cut to the characters of the corresponding range. -/
theorem cutsAs_of_cut?
    {span : Span}
    {middle : String}
    (isCut : span.cut? text = some middle) :
    Cutting.CutsAs (Span.cut? text) text.toList (characterIndex text.toList) span := by
  rw [Cutting.CutsAs, isCut, Span.text_of_cut? isCut]

/-- All texts that the watcher of a statement can need can be cut. -/
theorem cutsAllAs_of_isSpanned
    (spanned : body.IsSpanned text) :
    Cutting.CutsAllAs (Span.cut? text) text.toList (characterIndex text.toList) body where
  nodes node holds := by
    obtain ⟨middle, isCut⟩ := (spanned.of_holds holds).isWithin.exists_cut
    exact cutsAs_of_cut? isCut
  sources node first last holds isSequence isFirst isLast := by
    cases spanned.of_holds holds with
    | mk _ several ordered inside =>
        obtain ⟨texts, joined, spells⟩ :=
          exists_spells_dropLast (several isSequence) (ordered isSequence) inside
        exact cutsAs_of_cut? (spells.cut?_eq isFirst isLast)

/-- Every check that there are dependencies is passed. -/
def PassDependencies
    (checks : List Check) :
    Prop :=
  ∀ check ∈ checks, check.code = LanguageRule.watcherDependencies.code → check.passes

namespace PassDependencies

variable
  {check : Check}
  {checks : List Check}

theorem nil :
    PassDependencies [] :=
  List.forall_mem_nil _

theorem passed
    (passes : check.passes)
    (others : PassDependencies checks) :
    PassDependencies (check :: checks) :=
  List.forall_mem_cons.mpr ⟨fun _ => passes, others⟩

/-- A check of another rule does not count. -/
theorem other
    (rule : LanguageRule)
    (isRule : check.code = rule.code)
    (differs : rule.code ≠ LanguageRule.watcherDependencies.code)
    (others : PassDependencies checks) :
    PassDependencies (check :: checks) :=
  List.forall_mem_cons.mpr ⟨fun same => absurd (isRule.symm.trans same) differs, others⟩

end PassDependencies

theorem sequenceChecks_passDependencies
    {source : List Char}
    (several : 2 ≤ items.length) :
    PassDependencies (sequenceChecks source items) := by
  have isOccupied : items.isEmpty = false := by
    rw [← Bool.not_eq_true, List.isEmpty_iff_length_eq_zero]
    omega
  have hasOthers : items.dropLast.isEmpty = false := by
    rw [← Bool.not_eq_true, List.isEmpty_iff_length_eq_zero, List.length_dropLast]
    omega
  have watchable (values : List Node) :
      PassDependencies (values.map (watchableCheck source)) := by
    induction values with
    | nil => exact .nil
    | cons value rest inductionHypothesis =>
        exact .other .watchedValue rfl (by decide) inductionHypothesis
  refine .passed ?_ (.other .watcherCallback rfl (by decide) (.passed ?_ (watchable _)))
  · rw [isOccupied, Bool.not_false]
  · rw [hasOthers, Bool.not_false]

/-- The statement passes the checks that there are dependencies. -/
theorem bodyChecks_passDependencies
    (spanned : body.IsSpanned text)
    (source : List Char)
    (position : Nat → Nat) :
    PassDependencies (bodyChecks source (body.mapPositions position)) := by
  have refused {check : Check} (isRefused : check.code = LanguageRule.reactiveStatement.code) :
      PassDependencies [check] :=
    .other .reactiveStatement isRefused (by decide) .nil
  obtain @⟨form, role, span, children, _, _, _, inside⟩ := spanned
  rw [Node.mapPositions_mk]
  cases form with
  | expressionStatement =>
      rcases children with _ | ⟨value, _ | ⟨second, others⟩⟩
      case cons.nil =>
        obtain @⟨form, role, span, children, _, several, _, _⟩ := inside value (by simp)
        rw [List.map_singleton, Node.mapPositions_mk]
        cases form with
        | assignment operator =>
            rcases children with _ | ⟨left, _ | ⟨right, _ | ⟨third, others⟩⟩⟩
            case cons.cons.nil =>
              exact .other .reactiveOperator rfl (by decide)
                (.other .reactiveTarget rfl (by decide)
                  (.other .watchedValue rfl (by decide) .nil))
            all_goals exact refused rfl
        | sequence =>
            refine sequenceChecks_passDependencies ?_
            rw [List.length_map]
            exact several rfl
        | _ => exact refused rfl
      all_goals exact refused rfl
  | _ => exact refused rfl

/-- No statement is refused because a sequence has no dependencies. -/
theorem report?_ofBody_dependencies
    (spanned : body.IsSpanned text)
    {source : List Char}
    {scope : Scope.Root}
    {position : Nat → Nat}
    {report : Report}
    (reported : (ofBody source scope (body.mapPositions position)).report? = some report) :
    report.code ≠ LanguageRule.watcherDependencies.code := by
  rw [ofBody_obeys, Option.map_eq_some_iff] at reported
  obtain ⟨check, isFirst, rfl⟩ := reported
  have broken := List.find?_some isFirst
  intro isDependencies
  have passes : check.passes = true :=
    bodyChecks_passDependencies spanned source position check
      (List.mem_of_find?_eq_some isFirst) isDependencies
  rw [passes] at broken
  cases broken

/--
How the watcher of a sequence stands in a text. All items but the last are dependencies and
there is at least one; their texts, with what stands between them, are the text from the
first to the last. The callback is the text of the last item, which stands behind.
-/
def IsDecomposed
    (text : String)
    (items : List Node)
    (reactive : Reactive) :
    Prop :=
  ∃ dependencies callback first last texts dependencySource callbackText,
    items = dependencies ++ [callback] ∧
      dependencies.head? = some first ∧ dependencies.getLast? = some last ∧
        reactive = { watcher := .tracked texts dependencySource callbackText, declares := none } ∧
          texts.length = items.length - 1 ∧ 1 ≤ texts.length ∧
            Spells text dependencies texts dependencySource ∧
              Span.cut? text ⟨first.span.start, last.span.stop⟩ = some dependencySource ∧
                callback.span.cut? text = some callbackText ∧
                  last.span.stop ≤ callback.span.start

/-- An accepted sequence is taken apart. -/
theorem isDecomposed_of_accepted
    {reactive : Reactive}
    (several : 2 ≤ items.length)
    (ordered : items.Pairwise (fun earlier later => earlier.span.stop ≤ later.span.start))
    (inside : ∀ item ∈ items, item.IsSpanned text)
    {scope : Scope.Root}
    {role valueRole : Role}
    {span valueSpan : Span}
    (accepted :
      Accepted text.toList scope
        (.mk .expressionStatement role span
          [.mk .sequence valueRole valueSpan (items.map (Node.inCharacters text))])
        reactive) :
    IsDecomposed text items reactive := by
  obtain ⟨texts, dependencySource, spells⟩ := exists_spells_dropLast several ordered inside
  obtain ⟨dependencies', callback', first', last', inParts, isFirst', isLast', rfl⟩ :=
    accepted.exists_tracked
  obtain ⟨dependencies, callbacks, rfl, rfl, isCallback⟩ := List.map_eq_append_iff.mp inParts
  obtain ⟨callback, rfl, rfl⟩ := List.map_eq_singleton_iff.mp isCallback
  rw [List.dropLast_concat] at spells
  rw [List.head?_map, Option.map_eq_some_iff] at isFirst'
  rw [List.getLast?_map, Option.map_eq_some_iff] at isLast'
  obtain ⟨first, isFirst, rfl⟩ := isFirst'
  obtain ⟨last, isLast, rfl⟩ := isLast'
  have isSource := spells.cut?_eq isFirst isLast
  have callbackMember : callback ∈ dependencies ++ [callback] := by simp
  obtain ⟨callbackText, isCallback⟩ := (inside callback callbackMember).isWithin.exists_cut
  have behind : last.span.stop ≤ callback.span.start :=
    (List.pairwise_append.mp ordered).2.2 last (List.mem_of_getLast? isLast) callback (by simp)
  have counted : texts.length = dependencies.length := by
    rw [← spells.texts_eq, List.length_map, List.length_map]
  rw [List.length_append, List.length_singleton] at several
  refine ⟨dependencies, callback, first, last, texts, dependencySource, callbackText, rfl, isFirst,
    isLast, ?_, ?_, ?_, spells, isSource, isCallback, behind⟩
  · rw [trackedBy, spells.texts_eq, sourceText_inCharacters isCallback, ← Span.text_of_cut? isSource,
      Node.inCharacters, Node.inCharacters, Node.span_mapPositions, Node.span_mapPositions]
    rfl
  · rw [counted, List.length_append, List.length_singleton, Nat.add_sub_cancel]
  · omega

end

/--
A reactive statement whose ranges are within the text and in order is never cut out of range
or inside of a character, and is never refused for the lack of dependencies. A sequence that
is accepted is taken apart into dependencies and a callback.
-/
theorem ofBody_decomposes
    {text : String}
    {body : Node}
    (spanned : body.IsSpanned text)
    (scope : Scope.Root) :
    (Cutting.ofBody (Span.cut? text) scope body).run =
        some (ofBody text.toList scope (body.inCharacters text)) ∧
      (∀ report,
        (ofBody text.toList scope (body.inCharacters text)).report? = some report →
          report.code ≠ "R-ERR-WATCH-006") ∧
      ∀ role span valueRole valueSpan items reactive,
        body = .mk .expressionStatement role span [.mk .sequence valueRole valueSpan items] →
          ofBody text.toList scope (body.inCharacters text) = .ok reactive →
            IsDecomposed text items reactive := by
  refine ⟨Cutting.ofBody_yields (cutsAllAs_of_isSpanned spanned),
    fun report reported => report?_ofBody_dependencies spanned reported, ?_⟩
  rintro role span valueRole valueSpan items reactive rfl built
  cases spanned with
  | mk _ _ _ inside =>
      cases inside _ (List.mem_singleton_self _) with
      | mk _ several ordered inside =>
          rw [Node.inCharacters, Node.mapPositions_mk, List.map_singleton, Node.mapPositions_mk]
            at built
          exact isDecomposed_of_accepted (several rfl) (ordered rfl) inside
            (accepted_of_ofBody built)

/-- A statement with characters of two bytes, and its tree with ranges of bytes. -/
theorem ofBody_decomposes_accents :
    let text := "$: é, ü, () => \x7b\x7d"
    let scope : Scope.Root := { variableSet := .empty, functionSet := .empty }
    let items : List Node :=
      [.mk (.identifier "é") .expression ⟨3, 5⟩ [],
        .mk (.identifier "ü") .expression ⟨7, 9⟩ [],
        .mk (.arrow {}) .expression ⟨11, 19⟩
          [.mk .parameters .part ⟨11, 13⟩ [], .mk (.body []) .part ⟨17, 19⟩ []]]
    let body : Node :=
      .mk .expressionStatement .statement ⟨3, 19⟩ [.mk .sequence .expression ⟨3, 19⟩ items]
    let reactive : Reactive :=
      { watcher := .tracked ["é", "ü"] "é, ü" "() => \x7b\x7d", declares := none }
    (readProgram text).toOption.any (fun program =>
        program.statements.any (fun statement =>
          statement.children.any (fun read =>
            (ofBody text.toList scope read).toOption == some reactive))) ∧
      (Cutting.ofBody (Span.cut? text) scope body).run = some (.ok reactive) ∧
      IsDecomposed text items reactive := by
  intro text scope items body reactive
  have leaf (form : Form) (role : Role) (span : Span) (isOther : form ≠ .sequence)
      (within : span.IsWithin text) :
      Node.IsSpanned text (.mk form role span []) :=
    .plain isOther within (List.forall_mem_nil _)
  have itemsSpanned : ∀ item ∈ items, item.IsSpanned text := by
    refine List.forall_mem_cons.mpr ⟨leaf _ _ _ (by decide) (by decide +kernel), ?_⟩
    refine List.forall_mem_cons.mpr ⟨leaf _ _ _ (by decide) (by decide +kernel), ?_⟩
    refine List.forall_mem_singleton.mpr (.plain (by decide) (by decide +kernel) ?_)
    refine List.forall_mem_cons.mpr ⟨leaf _ _ _ (by decide) (by decide +kernel), ?_⟩
    exact List.forall_mem_singleton.mpr (leaf _ _ _ (by decide) (by decide +kernel))
  have spanned : body.IsSpanned text := by
    refine .plain (by decide) (by decide +kernel) (List.forall_mem_singleton.mpr ?_)
    exact .mk (by decide +kernel) (fun _ => by decide) (fun _ => by decide) itemsSpanned
  have accepted :
      (ofBody text.toList scope (body.inCharacters text)).toOption.any (fun read =>
        read == reactive) := by
    decide +kernel
  obtain ⟨read, built, same⟩ := Outcome.exists_of_any accepted
  rw [eq_of_beq same] at built
  obtain ⟨runs, _, decomposes⟩ := ofBody_decomposes spanned scope
  exact ⟨by decide +kernel, built ▸ runs, decomposes _ _ _ _ _ _ rfl built⟩

/-- The text that sets up the watcher of the first statement of a script. -/
def setUpFrom?
    (source : String) :
    Option String := do
  let program ← (readProgram source).toOption
  let statement ← program.statements.head?
  let body ← statement.children.head?
  let reactive ← (ofBody source.toList (.scan program.statements) body).toOption
  return reactive.watcher.render

/-- The form of the only expression in a function, where a text only hands that to a call. -/
def handedForm?
    (text : String) :
    Option Form := do
  let program ← (readProgram text).toOption
  match program.statements with
  | [.mk .expressionStatement _ _
      [.mk (.call _) _ _
        [_, .mk (.arrow _) _ _ [_, .mk (.body _) _ _ [.mk .expressionStatement _ _ [value]]]]]] =>
      return value.form
  | _ => none

/-- A sequence that is assigned loses its parentheses, and only its first item is assigned. -/
theorem watcher_of_assigned_sequence :
    setUpFrom? "$: x = (a, b)" = some "$cd.prefix.push(() => \x7bx = a, b;\x7d);" ∧
      handedForm? "$cd.prefix.push(() => \x7bx = a, b;\x7d);" = some .sequence ∧
      handedForm? "$cd.prefix.push(() => \x7bx = (a, b);\x7d);" = some (.assignment .plain) := by
  decide +kernel

/-- Between two dependencies in parentheses only the inner ones are left, and nothing is read. -/
theorem watcher_of_parenthesized_dependencies :
    setUpFrom? "$: (a), (b), f => 1" =
        some ("$watch($cd, () => [a), (b], ($args) => \x7b (f => 1).apply(null, $args); \x7d, " ++
          "\x7bcmp: $$compareArray\x7d);") ∧
      (readProgram ("$watch($cd, () => [a), (b], ($args) => \x7b (f => 1).apply(null, $args); " ++
        "\x7d, \x7bcmp: $$compareArray\x7d);")).toOption.isNone := by
  decide +kernel

end Reactive

end Reactivity
