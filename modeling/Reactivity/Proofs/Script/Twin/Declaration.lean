import Reactivity.Proofs.Script.Twin.Expression
import Reactivity.Script.Grammar.Module

namespace Reactivity.Script

open Refresh Reader

/-!
# Declarations, imports and exports of twins

The names that a module imports and exports are part of the form of a statement. They are
the same in twins, and one of them may be that of the marker.
-/

namespace View

/-- Values that hold names are the same, and one of the names may be that of the marker. -/
def naming
    {value : Type}
    (isMarker : value → Bool) :
    View value where
  soiled _ returned := isMarker returned
  alike := Eq
  refl _ := rfl
  bare := id

@[grind =]
theorem naming_soiled
    {value : Type}
    (isMarker : value → Bool)
    (grade : Grade)
    (returned : value) :
    (naming isMarker).soiled grade returned = (isMarker returned = true) :=
  rfl

/-- The same names one after the other. -/
theorem eq_of_list_naming
    {value : Type}
    {isMarker : value → Bool}
    {values marked : List value}
    (alike : (list (naming isMarker)).alike values marked) :
    values = marked := by
  have same : List.Forall₂ Eq values marked := alike
  rwa [List.forall₂_eq_eq_eq] at same

end View

namespace Grammar

section Declarators

variable
  {keyword : VariableKeyword}

/-- Declarators that are alike both have the value that they need, or both lack it. -/
theorem declaratorFits_eq
    {declarator marked : Node}
    (alike : (View.opened .node).alike declarator marked) :
    declaratorFits keyword declarator = declaratorFits keyword marked := by
  obtain ⟨_, childrenAlike⟩ := alike
  unfold declaratorFits
  generalize declarator.children = children at childrenAlike
  generalize marked.children = markedChildren at childrenAlike
  cases childrenAlike with
  | nil => rfl
  | cons first rest =>
      cases rest with
      | nil => simp only [form_eq first]
      | cons => rfl

theorem all_declaratorFits_eq
    {declarators marked : List Node}
    (alike : List.Forall₂ (View.opened .node).alike declarators marked) :
    declarators.all (declaratorFits keyword) = marked.all (declaratorFits keyword) := by
  induction alike with
  | nil => rfl
  | cons first _ inductionHypothesis =>
      rw [List.all_cons, List.all_cons, declaratorFits_eq first, inductionHypothesis]

/-- Declarations that are alike have values where they need them, or both have not. -/
theorem declaratorsFit_eq
    {declaration marked : Node}
    (alike : (View.opened (.opened .node)).alike declaration marked) :
    declaratorsFit declaration = declaratorsFit marked := by
  simp only [declaratorsFit, form_eq alike.1, all_declaratorFits_eq alike.2]

end Declarators

/-- Read the declarators of a variable declaration behind its keyword. -/
def readDeclarators
    (grammar : Grammar)
    (context : Context)
    (role : Role)
    (start : Nat)
    (keyword : VariableKeyword) :
    Reader Node := do
  let first ← grammar.readDeclarator context
  let declarators ← repeated (fun declarators => do
    if ← accept "," then
      return .inl ((← grammar.readDeclarator context) :: declarators)
    else
      return .inr declarators.reverse) grammar.bound [first]
  finish start role (.declaration keyword) declarators

/-- The declarators are read behind the keyword. -/
theorem readVariables_eq
    (grammar : Grammar)
    (context : Context)
    (role : Role) :
    grammar.readVariables context role = (do
      let start ← position
      let keyword ← readVariableKeyword
      grammar.readDeclarators context role start keyword) :=
  rfl

namespace Mirrors

variable
  {grammar marked : Grammar}
  {cursor markedCursor : Cursor}

/-- A pattern and its value are read alike. -/
theorem readDeclarator
    (mirrors : grammar.Mirrors marked)
    (context : Context) :
    Reads .absorbing (.opened .node) cursor markedCursor (grammar.readDeclarator context)
      (marked.readDeclarator context) := by
  refine .position (fun _ _ => ?_)
  refine (mirrors.pattern context _ _).bindInner (fun pattern _ patternAlike _ _ => ?_)
  refine (mirrors.readInitial context).bind (fun values _ valuesAlike _ _ => ?_)
  exact .finishOpened (.cons patternAlike valuesAlike) (fun _ _ => id) (by grind) rfl

theorem readVariableKeyword :
    Reads .absorbing (.plain VariableKeyword) cursor markedCursor readVariableKeyword
      readVariableKeyword := by
  refine .ifAcceptWord "var" (fun _ _ => .pure rfl (by grind)) (fun _ _ => ?_)
    (by decide) (by decide)
  refine .ifAcceptWord "let" (fun _ _ => .pure rfl (by grind)) (fun _ _ => ?_)
    (by decide) (by decide)
  exact .expectWord "const" (fun _ _ => .pure rfl (by grind)) (by decide)

/-- The declarators of a variable declaration; a marker would be the first name. -/
theorem readDeclarators
    (mirrors : grammar.Mirrors marked)
    (context : Context)
    (role : Role)
    (start markedStart : Nat)
    (keyword : VariableKeyword) :
    Reads .absorbing (.opened (.opened .node)) cursor markedCursor
      (grammar.readDeclarators context role start keyword)
      (marked.readDeclarators context role markedStart keyword) := by
  refine (mirrors.readDeclarator context).bind (fun first markedFirst firstAlike _ _ => ?_)
  have firstLost (grade : Grade)
      (isLost : False ∨ (View.opened .node).soiled grade markedFirst) :
      (View.list (.opened .node)).soiled grade [markedFirst] :=
    ⟨markedFirst, List.mem_cons_self, (View.opened .node).bare (isLost.resolve_left id)⟩
  refine Carries.handOn (Carries.weaken (.loop (.list (.opened .node)) (.list (.opened .node))
    (fun declarators _ alike _ _ => ?_) mirrors.bound (.cons firstAlike .nil)) firstLost)
    (fun declarators _ alike _ _ => .finishOpened alike (fun _ _ => And.left) (by grind) rfl)
  refine .ifAccept "," (fun _ _ => ?_) (fun _ _ => .pure (.inr (List.rel_reverse alike)) (by grind))
    (by simp)
  exact (mirrors.readDeclarator context).enter.bindInner
    (fun declarator _ declaratorAlike _ _ => .pure (.inl (.cons declaratorAlike alike)) (by grind))

/-- Variables that are declared together are read alike. -/
theorem readVariables
    (mirrors : grammar.Mirrors marked)
    (context : Context)
    (role : Role) :
    Reads .absorbing (.opened (.opened .node)) cursor markedCursor
      (grammar.readVariables context role) (marked.readVariables context role) := by
  rw [readVariables_eq, readVariables_eq]
  refine .position (fun _ _ => ?_)
  exact readVariableKeyword.bindPlain
    (fun keyword _ _ => (mirrors.readDeclarators _ _ _ _ keyword).enter)

/-- The end of a statement changes only where it ends. -/
theorem readEnd
    {statement markedStatement : Node}
    (alike : statement.unmarked = markedStatement.unmarked) :
    Carries .anywhere (markedStatement.strays ·) .node cursor markedCursor (readEnd statement)
      (readEnd markedStatement) := by
  obtain ⟨form, role, span, children⟩ := statement
  obtain ⟨markedForm, markedRole, markedSpan, markedChildren⟩ := markedStatement
  rw [Node.unmarked_mk, Node.unmarked_mk] at alike
  injection alike with sameForm sameRole _ sameChildren
  subst sameForm
  subst sameRole
  exact .semicolon (fun _ _ => .finish sameChildren (fun _ => Node.strays_mk.mp))

/-- A declaration is read alike up to its end. -/
theorem readDeclaration
    (mirrors : grammar.Mirrors marked)
    (context : Context)
    (role : Role) :
    Reads .absorbing .node cursor markedCursor (grammar.readDeclaration context role)
      (marked.readDeclaration context role) := by
  refine (mirrors.readVariables context role).handOn (fun declaration _ alike _ _ => ?_)
  refine .require (fun _ fits => ?_) ((readEnd alike.1).weaken (fun _ => And.left))
  rwa [declaratorsFit_eq alike]

/-- A function as a statement has a name. -/
theorem readFunctionStatement
    (mirrors : grammar.Mirrors marked)
    (context : Context)
    (placement : Placement) :
    Reads .absorbing .node cursor markedCursor (grammar.readFunctionStatement context placement)
      (marked.readFunctionStatement context placement) := by
  refine (mirrors.readFunction context .statement true).handOn (fun function _ alike _ _ => ?_)
  rw [form_eq alike]
  split
  · exact .require (fun _ => id) (.require (fun _ => id) (.pure alike (by grind)))
  · exact .failure

/-- A name in an import or export list may be that of the marker. -/
theorem readModuleName :
    Reads .absorbing (.naming ModuleName.isMarker) cursor markedCursor readModuleName
      readModuleName := by
  refine .lookSame (fun cursor markedCursor same => ?_) (fun cursor markedCursor atMarker => ?_)
  · rw [same.token]
    split
    · exact .advance (fun _ _ => .pure rfl (by grind))
    · exact .advance (fun _ _ => .pure rfl (by grind))
    · exact .failure
  · rw [atMarker.token]
    intro _ _ ran
    cases ran
    exact beq_self_eq_true markerName

theorem readSource :
    Reads .absorbing (.plain String) cursor markedCursor readSource readSource := by
  refine .lookSame (fun cursor markedCursor same => ?_) (fun cursor markedCursor atMarker => ?_)
  · rw [same.token]
    split
    · exact .advance (fun _ _ => .pure rfl (by grind))
    · exact .failure
  · rw [atMarker.token]
    intro _ _ ran
    cases ran

/-- The attributes of a module are read alike, unless a marker is among their names. -/
theorem readAttributeEntries
    {bound markedBound : Nat}
    (enough : markedBound ≤ bound) :
    Reads .absorbing (.list (.naming (fun entry => entry.1.isMarker))) cursor markedCursor
      (readAttributeEntries bound) (readAttributeEntries markedBound) := by
  refine .expect "\x7b" (fun _ _ => ?_)
  refine Carries.handOn (show Carries _ _ (.list (.naming (fun entry => entry.1.isMarker))) _ _ _ _
    from .separated "\x7d" enough (fun _ _ => ?_)) ?_
  · refine Carries.enter (readModuleName.bind ?_)
    rintro key _ rfl _ _
    refine .expect ":"
      (fun _ _ => readSource.enter.bindPlain (fun value _ _ => .pure rfl (by grind)))
  · intro entries markedEntries alike _ _
    obtain rfl := View.eq_of_list_naming alike
    exact .require (fun _ => id) (.pure alike (by grind))

theorem readAttributes
    {bound markedBound : Nat}
    (enough : markedBound ≤ bound) :
    Reads .anywhere (.naming (fun attributes => attributes.any ModuleAttributes.isMarker)) cursor
      markedCursor (readAttributes bound) (readAttributes markedBound) := by
  have entries {cursor markedCursor : Cursor} (isAssertion : Bool) :
      Reads .anywhere (.naming (fun attributes => attributes.any ModuleAttributes.isMarker)) cursor
        markedCursor
        (Grammar.readAttributeEntries bound >>= fun entries =>
          pure (some { isAssertion, entries }))
        (Grammar.readAttributeEntries markedBound >>= fun entries =>
          pure (some { isAssertion, entries })) := by
    refine (readAttributeEntries enough).enter.handOn (fun entries _ alike _ _ => ?_)
    obtain rfl := View.eq_of_list_naming alike
    refine .pure rfl (fun _ isLost => ?_)
    exact List.any_eq_true.mpr isLost
  refine .look (fun cursor markedCursor =>
    .iteAtWord "with" (.advance (fun _ _ => entries false)) ?_ (by decide) (by decide))
  refine .ite (fun same => ?_) (fun atMarker => ?_) (fun _ _ => .advance (fun _ _ => entries true))
    (.pure rfl (by grind)) (fun _ => False.elim)
  · rw [same.isAtWord_eq, Bool.and_comm, same.onLine_eq, Bool.and_comm]
    intro atEnd
    simp [Cursor.isAtWord, atEnd]
  · rw [atMarker.marked_isAtWord (by decide), atMarker.newLine]
    exact ⟨rfl, fun _ => Bool.and_false _⟩

/-- An entry of an import list has the name that is imported, or another one. -/
theorem readImportEntry
    (context : Context) :
    Reads .absorbing (.naming ImportBinding.isMarker) cursor markedCursor (readImportEntry context)
      (readImportEntry context) := by
  refine .remember (fun current _ same _ _ => ?_) (by decide)
  refine readModuleName.bind ?_
  rintro imported _ rfl _ _
  refine .ifAcceptWord "as" (fun _ _ => ?_) (fun _ _ => ?_) (by decide) (by decide)
  · refine (Carries.name context).bindInner ?_
    rintro name _ rfl _ _
    refine .pure rfl (fun _ isLost => ?_)
    rcases isLost with (impossible | isMarker) | ⟨_, rfl⟩
    · exact impossible.elim
    · exact Bool.or_eq_true_iff.mpr (.inl isMarker)
    · exact Bool.or_eq_true_iff.mpr (.inr rfl)
  · rw [same.name?_eq]
    split
    · refine .pure rfl (fun _ isLost => ?_)
      exact Bool.or_eq_true_iff.mpr (.inl (isLost.resolve_left id))
    · exact .failure

/-- The names in an import are read alike, unless a marker is among them. -/
theorem readImportList
    {bound markedBound : Nat}
    (enough : markedBound ≤ bound)
    (context : Context) :
    Reads .absorbing (.list (.naming ImportBinding.isMarker)) cursor markedCursor
      (readImportList bound context) (readImportList markedBound context) := by
  refine .ifAccept "*" (fun _ _ => .expectWord "as" (fun _ _ => ?_) (by decide))
    (fun _ _ => .expect "\x7b" (fun _ _ => .separated "\x7d" enough
      (fun _ _ => (readImportEntry context).enter))) (by simp)
  refine (Carries.name context).bindInner ?_
  rintro name _ rfl _ _
  refine .pure (.cons rfl .nil) (fun _ isLost => ?_)
  obtain ⟨_, rfl⟩ := isLost.resolve_left id
  exact ⟨_, List.mem_cons_self, rfl⟩

/-- What is imported under a name, perhaps with more. -/
theorem readImportBindings
    {bound markedBound : Nat}
    (enough : markedBound ≤ bound)
    (context : Context) :
    Reads .absorbing (.list (.naming ImportBinding.isMarker)) cursor markedCursor
      (readImportBindings bound context) (readImportBindings markedBound context) := by
  refine (Carries.name? context).bindInner (fun name markedName alike _ _ => ?_)
  cases alike with
  | none =>
      refine (readImportList enough context).enter.weaken ?_
      rintro _ (impossible | ⟨_, isNone, _⟩)
      · exact impossible
      · cases isNone
  | @some name _ same =>
      cases same
      have named (grade : Grade)
          (isLost : False ∨ (View.option .name).soiled .bare (some name)) :
          ImportBinding.isMarker (.default name) = true := by
        obtain ⟨_, isName, _, rfl⟩ := isLost.resolve_left id
        cases isName
        rfl
      refine .ifAccept "," (fun _ _ => ?_) (fun _ _ => ?_) (by simp)
      · refine (readImportList enough context).enter.bind (fun others _ othersAlike _ _ => ?_)
        refine .pure (.cons rfl othersAlike) (fun grade isLost => ?_)
        rcases isLost with isLost | ⟨binding, member, isMarker⟩
        · exact ⟨_, List.mem_cons_self, named grade isLost⟩
        · exact ⟨binding, List.mem_cons_of_mem _ member, isMarker⟩
      · exact .pure (.cons rfl .nil) (fun grade isLost =>
          ⟨_, List.mem_cons_self, named grade isLost⟩)

/-- Where a module is imported from, up to the end of the statement. -/
theorem readModuleEnd
    {bound markedBound : Nat}
    (enough : markedBound ≤ bound)
    {lost : Grade → Prop}
    {form : String → Option ModuleAttributes → Form}
    (start markedStart : Nat)
    (keeps : ∀ grade source attributes,
      lost grade ∨ attributes.any ModuleAttributes.isMarker →
        (form source attributes).strays grade []) :
    Carries .absorbing lost .node cursor markedCursor
      (Grammar.readSource >>= fun source => Grammar.readAttributes bound >>= fun attributes =>
        semicolon >>= fun _ => finish start .statement (form source attributes))
      (Grammar.readSource >>= fun source => Grammar.readAttributes markedBound >>= fun attributes =>
        semicolon >>= fun _ => finish markedStart .statement (form source attributes)) := by
  refine readSource.bindPlain (fun source _ _ => ?_)
  refine (readAttributes enough).bind ?_
  rintro attributes _ rfl _ _
  exact .semicolon (fun _ _ => .finish rfl (fun grade isLost => .inl (keeps _ _ _ isLost)))

/-- An import is read alike. -/
theorem readImport
    {bound markedBound : Nat}
    (enough : markedBound ≤ bound)
    (context : Context) :
    Reads .absorbing .node cursor markedCursor (readImport bound context)
      (readImport markedBound context) := by
  refine .position (fun start markedStart => .expectWord "import" (fun _ _ => ?_) (by decide))
  have named {cursor markedCursor : Cursor} :
      Reads .absorbing .node cursor markedCursor
        (Grammar.readImportBindings bound context >>= fun bindings => expectWord "from" >>= fun _ =>
          Grammar.readSource >>= fun source => Grammar.readAttributes bound >>= fun attributes =>
            semicolon >>= fun _ =>
              finish start .statement (.importing (some bindings) source attributes))
        (Grammar.readImportBindings markedBound context >>= fun bindings =>
          expectWord "from" >>= fun _ => Grammar.readSource >>= fun source =>
            Grammar.readAttributes markedBound >>= fun attributes => semicolon >>= fun _ =>
              finish markedStart .statement (.importing (some bindings) source attributes)) := by
    refine (readImportBindings enough context).bind (fun bindings _ alike _ _ => ?_)
    obtain rfl := View.eq_of_list_naming alike
    refine .expectWord "from" (fun _ _ => (readModuleEnd enough start markedStart ?_).enter)
      (by decide)
    intro grade source attributes isLost
    refine Bool.or_eq_true_iff.mpr (isLost.imp_left (fun isLost => ?_))
    exact List.any_eq_true.mpr (isLost.resolve_left id)
  refine .lookSame (fun cursor markedCursor same => ?_) (fun cursor markedCursor atMarker => ?_)
  · rw [same.token]
    split
    · refine (readModuleEnd enough start markedStart ?_).inside
      exact fun _ _ _ isLost => isLost.resolve_left id
    · exact named.inside
  · rw [atMarker.token]
    exact fun _ _ ran => .inl (named.mark atMarker ran)

/-- A name in an export is read alike, unless it is a marker. -/
theorem readExportEntry :
    Reads .absorbing (.naming ExportEntry.isMarker) cursor markedCursor readExportEntry
      readExportEntry := by
  refine readModuleName.bind ?_
  rintro inner _ rfl _ _
  refine .ifAcceptWord "as" (fun _ _ => ?_) (fun _ _ => ?_) (by decide) (by decide)
  · refine readModuleName.enter.bind ?_
    rintro outer _ rfl _ _
    refine .pure rfl (fun _ isLost => Bool.or_eq_true_iff.mpr ?_)
    exact isLost.imp_left (fun isLost => isLost.resolve_left id)
  · exact .pure rfl (fun _ isLost => Bool.or_eq_true_iff.mpr (.inl (isLost.resolve_left id)))

/-- A list of exports is read alike. -/
theorem readExportList
    {bound markedBound : Nat}
    (enough : markedBound ≤ bound)
    (start markedStart : Nat) :
    Reads .absorbing .node cursor markedCursor (readExportList bound start)
      (readExportList markedBound markedStart) := by
  refine .expect "\x7b" (fun _ _ => ?_)
  refine Carries.bind (show Reads _ (.list (.naming ExportEntry.isMarker)) _ _ _ _
    from .separated "\x7d" enough (fun _ _ => readExportEntry.enter))
    (fun entries _ alike _ _ => ?_)
  obtain rfl := View.eq_of_list_naming alike
  refine .ifAcceptWord "from" (fun _ _ => ?_) (fun _ _ => .require (fun _ => id) ?_)
    (by decide) (by decide)
  · refine (readModuleEnd enough start markedStart (fun grade source attributes isLost => ?_)).enter
    refine Bool.or_eq_true_iff.mpr (isLost.imp_left (fun isLost => ?_))
    exact List.any_eq_true.mpr (isLost.resolve_left id)
  · refine .semicolon (fun _ _ => .finish rfl (fun grade isLost => .inl ?_))
    exact Bool.or_eq_true_iff.mpr (.inl (List.any_eq_true.mpr (isLost.resolve_left id)))

theorem readExportAll
    {bound markedBound : Nat}
    (enough : markedBound ≤ bound)
    (start markedStart : Nat) :
    Reads .absorbing .node cursor markedCursor (readExportAll bound start)
      (readExportAll markedBound markedStart) := by
  refine .expect "*" (fun _ _ => ?_)
  have rest {lost : Grade → Prop} {cursor markedCursor : Cursor} (outer : Option ModuleName)
      (isMarker : ∀ grade, lost grade → outer.any ModuleName.isMarker) :
      Carries .anywhere lost .node cursor markedCursor
        (expectWord "from" >>= fun _ =>
          Grammar.readSource >>= fun source => Grammar.readAttributes bound >>= fun attributes =>
            semicolon >>= fun _ => finish start .statement (.exportAll outer source attributes))
        (expectWord "from" >>= fun _ =>
          Grammar.readSource >>= fun source =>
            Grammar.readAttributes markedBound >>= fun attributes => semicolon >>= fun _ =>
              finish markedStart .statement (.exportAll outer source attributes)) := by
    refine .expectWord "from" (fun _ _ => (readModuleEnd enough start markedStart ?_).enter)
      (by decide)
    exact fun grade _ _ isLost => Bool.or_eq_true_iff.mpr (isLost.imp_left (isMarker grade))
  refine .ifAcceptWord "as" (fun _ _ => ?_) (fun _ _ => rest none (fun _ => False.elim))
    (by decide) (by decide)
  refine readModuleName.enter.bind ?_
  rintro outer _ rfl _ _
  exact rest (some outer) (fun _ isLost => isLost.resolve_left id)

/-- A cursor at a function stands there in both twins. -/
theorem isAtFunction_eq
    (same : cursor.SameToken markedCursor) :
    isAtFunction cursor = isAtFunction markedCursor := by
  rw [isAtFunction, isAtFunction, isAtAsyncFunction_eq same, same.isAtWord_eq]

/-- A marker starts no function. -/
theorem isAtFunction_marked
    (atMarker : cursor.AtMarker markedCursor) :
    isAtFunction markedCursor = false := by
  rw [isAtFunction, atMarker.marked_isAtWord (by decide), atMarker.marked_isAtWord (by decide)]
  rfl

/-- What is exported by default; a marker would be its value. -/
theorem readExportDefault
    (mirrors : grammar.Mirrors marked)
    (context : Context)
    (start markedStart : Nat) :
    Reads .absorbing .node cursor markedCursor (grammar.readExportDefault context start)
      (marked.readExportDefault context markedStart) := by
  refine .look (fun cursor markedCursor => ?_)
  refine .ite isAtFunction_eq (fun atMarker => ⟨isAtFunction_marked atMarker, by simp⟩)
    (fun _ _ => ?_) (.iteAtWord "class" ?_ ?_ (by decide) (by decide)) (fun _ => False.elim)
  · exact (mirrors.readFunction _ _ _).inside.bind
      (fun function _ alike _ _ => .finishCompound (.cons alike .nil) (by grind) rfl)
  · exact (mirrors.readClass _ _ _).inside.bind
      (fun definition _ alike _ _ => .finishCompound (.cons alike .nil) (by grind) rfl)
  · exact (mirrors.readAssignment _).bindInner
      (fun value _ alike _ _ =>
        .semicolon (fun _ _ => .finishCompound (.cons alike .nil) (by grind) rfl))

/-- What is exported by its declaration is read alike. -/
theorem readExported
    (mirrors : grammar.Mirrors marked)
    (context : Context) :
    Reads .absorbing .node cursor markedCursor (grammar.readExported context)
      (marked.readExported context) := by
  refine .look (fun cursor markedCursor => ?_)
  refine .ite isAtFunction_eq (fun atMarker => ⟨isAtFunction_marked atMarker, by simp⟩)
    (fun _ _ => ?_) (.iteAtWord "class" (mirrors.readClass _ _ _).inside
      (mirrors.readDeclaration _ _) (by decide) (by decide)) (fun _ => False.elim)
  refine (mirrors.readFunctionStatement _ _).inside.bind (fun function _ alike _ _ => ?_)
  refine .pure ?_ (fun grade isLost => ?_)
  · show Node.unmarked _ = Node.unmarked _
    rw [← Node.withRole_unmarked, alike, Node.withRole_unmarked]
  · show Node.strays grade _
    rw [Node.strays_withRole]
    exact isLost.resolve_left id

/-- Each kind of export is read alike. -/
theorem readExport
    (mirrors : grammar.Mirrors marked)
    (context : Context) :
    Reads .absorbing .node cursor markedCursor (grammar.readExport context)
      (marked.readExport context) := by
  refine .position (fun _ _ => .expectWord "export" (fun _ _ => Carries.enter ?_) (by decide))
  refine .ifAcceptWord "default" (fun _ _ => (mirrors.readExportDefault _ _ _).enter)
    (fun _ _ => ?_) (by decide) (by decide)
  refine .ifAt "\x7b" (fun _ _ => (readExportList mirrors.bound _ _).inside) (fun _ _ => ?_)
    (by simp)
  refine .ifAt "*" (fun _ _ => (readExportAll mirrors.bound _ _).inside) (fun _ _ => ?_) (by simp)
  exact (mirrors.readExported _).bind
    (fun declaration _ alike _ _ => .finishCompound (.cons alike .nil) (by grind) rfl)

end Mirrors

end Grammar

end Reactivity.Script
