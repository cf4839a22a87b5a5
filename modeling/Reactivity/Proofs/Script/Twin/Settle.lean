import Reactivity.Proofs.Refresh.Outline
import Reactivity.Proofs.Script.Assembly
import Reactivity.Proofs.Script.Reading
import Reactivity.Proofs.Script.Twin.Tree

namespace Reactivity.Script

open Refresh

/-!
# Marks in settled trees

Parentheses are removed from a tree in the same way whether its marks are taken away before
or not. The name of the marker is still astray when they are removed. Marks export nothing.
-/

namespace Node

/-- Only functions are not the same when parentheses around them are removed. -/
theorem wrapped_cases
    (node : Node) :
    node.wrapped = node ∨
      (∃ head, node.form = .function head) ∨ ∃ head, node.form = .arrow head := by
  obtain ⟨form, role, span, children⟩ := node
  cases form
  case function head => exact .inr (.inl ⟨head, rfl⟩)
  case arrow head => exact .inr (.inr ⟨head, rfl⟩)
  all_goals exact .inl rfl

theorem wrapped_unmarked
    (node : Node) :
    node.wrapped.unmarked = node.unmarked.wrapped := by
  obtain ⟨form, role, span, children⟩ := node
  have sameList : form.wrapped.listsStatements = form.listsStatements := by
    cases form <;> rfl
  simp only [wrapped, withForm, form_mk, unmarked_mk, sameList]

theorem name?_wrapped
    (node : Node) :
    node.wrapped.name? = node.name? := by
  rcases node.wrapped_cases with same | ⟨head, isFunction⟩ | ⟨head, isArrow⟩
  · rw [same]
  · obtain ⟨form, role, span, children⟩ := node
    subst isFunction
    rfl
  · obtain ⟨form, role, span, children⟩ := node
    subst isArrow
    rfl

/-- A name settles, with any parentheses around it. -/
theorem exists_settle?_of_name?
    {node : Node}
    {name : String}
    (fits : node.isWellFormed)
    (isName : node.name? = some name) :
    ∃ result, node.settle? = some result ∧ result.name? = some name := by
  induction node using inductionOnChildren with
  | step form role span children inductionHypothesis =>
      obtain ⟨atRoot, below⟩ := isWellFormed_mk.mp fits
      by_cases isWrapped : form = .parenthesized ∧ children.length = 1
      · obtain ⟨rfl, isSingle⟩ := isWrapped
        obtain ⟨inner, rfl⟩ := List.length_eq_one_iff.mp isSingle
        have innerName : inner.name? = some name := by
          rwa [name?, bare] at isName
        obtain ⟨result, turned, resultName⟩ :=
          inductionHypothesis inner (by simp) (below inner (by simp)) innerName
        refine ⟨result.wrapped, ?_, by rw [name?_wrapped, resultName]⟩
        rw [settle?_parenthesized, turned, Option.map_some]
      · rw [not_and] at isWrapped
        have stays : (Node.mk form role span children).bare = .mk form role span children := by
          refine bare.eq_2 _ ?_
          rintro _ _ inner shape
          cases shape
          exact isWrapped rfl rfl
        rw [name?, stays, form_mk] at isName
        split at isName
        · cases isName
          obtain rfl : children = [] := List.isEmpty_iff.mp (Bool.and_eq_true_iff.mp atRoot).2
          exact ⟨.mk (.identifier name) role span [], rfl, rfl⟩
        · cases isName

/-- A mark settles and stays a mark. -/
theorem exists_settle?_of_isMark
    {node : Node}
    (fits : node.isWellFormed)
    (isMark : node.isMark) :
    ∃ result, node.settle? = some result ∧ result.isMark := by
  unfold Node.isMark at isMark
  split at isMark
  · next role span value =>
      obtain ⟨_, below⟩ := isWellFormed_mk.mp fits
      obtain ⟨result, turned, isName⟩ :=
        exists_settle?_of_name? (below value (by simp)) (beq_iff_eq.mp isMark)
      refine ⟨.mk .expressionStatement role span [result], ?_, ?_⟩
      · rw [settle?_other (by simp), settleAll?_cons, turned]
        rfl
      · rw [Node.isMark, isName, beq_self_eq_true]
  · cases isMark

/-- Lists settle alike with and without marks, if their items do. -/
theorem settleAll?_unmarkedAll
    (lists : Bool)
    {nodes : List Node}
    (fit : ∀ node ∈ nodes, node.isWellFormed)
    (each : ∀ node ∈ nodes, node.unmarked.settle?.map unmarked = node.settle?.map unmarked) :
    (settleAll? (unmarkedAll lists nodes)).map (unmarkedAll lists) =
      (settleAll? nodes).map (unmarkedAll lists) := by
  induction nodes with
  | nil => rfl
  | cons node rest inductionHypothesis =>
      have restAlike := inductionHypothesis (fun node member => fit node (by simp [member]))
        (fun node member => each node (by simp [member]))
      rw [unmarkedAll, settleAll?_cons]
      split
      · next isMark =>
          obtain ⟨isList, isMark⟩ := Bool.and_eq_true_iff.mp isMark
          obtain ⟨result, turned, resultMark⟩ :=
            exists_settle?_of_isMark (fit node (by simp)) isMark
          rw [restAlike, turned, Option.bind_some, Option.map_map]
          refine congrArg (Option.map · _) (funext fun settled => ?_)
          simp [unmarkedAll, isList, resultMark]
      · have nodeAlike := each node (by simp)
        rw [settleAll?_cons]
        cases turned : node.settle? with
        | none =>
            rw [turned, Option.map_none, Option.map_eq_none_iff] at nodeAlike
            rw [nodeAlike]
            rfl
        | some result =>
            rw [turned, Option.map_some] at nodeAlike
            obtain ⟨other, otherTurned, same⟩ := Option.map_eq_some_iff.mp nodeAlike
            have sameMark : other.isMark = result.isMark := by
              rw [← isMark_unmarked, same, isMark_unmarked]
            -- The first node is left out on both sides or on none.
            have pushed (first : Node) (firstMark : first.isMark = result.isMark)
                (firstSame : first.unmarked = result.unmarked) :
                unmarkedAll lists ∘ (first :: ·) =
                  (fun others => if lists && result.isMark then others
                    else result.unmarked :: others) ∘ unmarkedAll lists := by
              funext settled
              simp only [Function.comp_apply, unmarkedAll, firstMark, firstSame]
            rw [otherTurned, Option.bind_some, Option.bind_some, Option.map_map, Option.map_map,
              pushed other sameMark same, pushed result rfl rfl, ← Option.map_map,
              ← Option.map_map, restAlike]

/-- A tree settles alike with and without marks. -/
theorem settle?_unmarked
    {node : Node}
    (fits : node.isWellFormed) :
    node.unmarked.settle?.map unmarked = node.settle?.map unmarked := by
  induction node using inductionOnChildren with
  | step form role span children inductionHypothesis =>
      obtain ⟨_, below⟩ := isWellFormed_mk.mp fits
      by_cases isWrapped : form = .parenthesized ∧ children.length = 1
      · obtain ⟨rfl, isSingle⟩ := isWrapped
        obtain ⟨inner, rfl⟩ := List.length_eq_one_iff.mp isSingle
        have innerAlike := inductionHypothesis inner (by simp) (below inner (by simp))
        have commutes : unmarked ∘ wrapped = wrapped ∘ unmarked := funext wrapped_unmarked
        rw [unmarked_noList rfl, List.map_singleton, settle?_parenthesized, settle?_parenthesized,
          Option.map_map, Option.map_map, commutes, ← Option.map_map, ← Option.map_map, innerAlike]
      · rw [not_and] at isWrapped
        have listAlike := settleAll?_unmarkedAll form.listsStatements below
          (fun child member => inductionHypothesis child member (below child member))
        have made (span : Span) : unmarked ∘ (fun settled => Node.mk form role span settled) =
            (fun settled => .mk form role .none settled) ∘ unmarkedAll form.listsStatements :=
          funext fun settled => unmarked_mk form role span settled
        rw [unmarked_mk, settle?_other isWrapped, settle?_other]
        · split
          · rfl
          · rw [Option.map_map, Option.map_map, made, made, ← Option.map_map, ← Option.map_map,
              listAlike]
        · rintro rfl
          simpa [Form.listsStatements] using isWrapped rfl

/-- A tree settles by losing the parentheses around it, or by settling its children. -/
theorem settle?_cases
    {form : Form}
    {role : Role}
    {span : Span}
    {children : List Node}
    {result : Node}
    (turned : (Node.mk form role span children).settle? = some result) :
    (∃ inner settled,
      form = .parenthesized ∧ children = [inner] ∧ inner.settle? = some settled ∧
        result = settled.wrapped) ∨
      (form = .parenthesized → children.length ≠ 1) ∧
        ∃ settled,
          List.Forall₂ (fun node result => node.settle? = some result) children settled ∧
            result = .mk form role span settled := by
  by_cases isWrapped : form = .parenthesized ∧ children.length = 1
  · obtain ⟨rfl, isSingle⟩ := isWrapped
    obtain ⟨inner, rfl⟩ := List.length_eq_one_iff.mp isSingle
    rw [settle?_parenthesized] at turned
    obtain ⟨settled, innerTurned, rfl⟩ := Option.map_eq_some_iff.mp turned
    exact .inl ⟨inner, settled, rfl, rfl, innerTurned, rfl⟩
  · rw [not_and] at isWrapped
    rw [settle?_other isWrapped] at turned
    split at turned
    · cases turned
    · obtain ⟨settled, allTurned, rfl⟩ := Option.map_eq_some_iff.mp turned
      exact .inr ⟨isWrapped, settled, settleAll?_eq_some allTurned, rfl⟩

theorem exists_settled_of_mem
    {children settled : List Node}
    {child : Node}
    (turned : List.Forall₂ (fun node result => node.settle? = some result) children settled)
    (member : child ∈ children) :
    ∃ result ∈ settled, child.settle? = some result := by
  induction turned with
  | nil => cases member
  | cons firstTurned _ inductionHypothesis =>
      rcases List.mem_cons.mp member with rfl | inRest
      · exact ⟨_, List.mem_cons_self, firstTurned⟩
      · obtain ⟨result, resultMember, childTurned⟩ := inductionHypothesis inRest
        exact ⟨result, List.mem_cons_of_mem _ resultMember, childTurned⟩

theorem name?_settled
    {node result : Node}
    (turned : node.settle? = some result) :
    result.name? = node.name? := by
  induction node using inductionOnChildren generalizing result with
  | step form role span children inductionHypothesis =>
      rcases settle?_cases turned with
        ⟨inner, settled, rfl, rfl, innerTurned, rfl⟩ | ⟨isOther, settled, turnedAll, rfl⟩
      · rw [name?_wrapped, inductionHypothesis inner (by simp) innerTurned]
        rfl
      · have stays {nodes : List Node} (same : nodes.length = children.length) :
            (Node.mk form role span nodes).bare = .mk form role span nodes := by
          refine bare.eq_2 _ ?_
          rintro _ _ inner shape
          cases shape
          exact isOther rfl same.symm
        rw [name?, name?, stays rfl, stays turnedAll.length_eq.symm]
        rfl

theorem isJustMarker_settled
    {node result : Node}
    (turned : node.settle? = some result)
    (isJust : node.isJustMarker) :
    result.isJustMarker := by
  induction node using inductionOnChildren generalizing result with
  | step form role span children inductionHypothesis =>
      rcases settle?_cases turned with
        ⟨inner, settled, rfl, rfl, innerTurned, rfl⟩ | ⟨isOther, settled, turnedAll, rfl⟩
      · have innerJust : inner.isJustMarker := by
          simpa [isJustMarker, anyIsJustMarker] using isJust
        have settledJust := inductionHypothesis inner (by simp) innerTurned innerJust
        rcases settled.wrapped_cases with same | ⟨head, isFunction⟩ | ⟨head, isArrow⟩
        · rwa [same]
        · obtain ⟨form, role, span, children⟩ := settled
          subst isFunction
          cases settledJust
        · obtain ⟨form, role, span, children⟩ := settled
          subst isArrow
          cases settledJust
      · have anyJust (any : anyIsJustMarker children) : anyIsJustMarker settled := by
          obtain ⟨child, member, childJust⟩ := anyIsJustMarker_iff.mp any
          obtain ⟨childResult, resultMember, childTurned⟩ := exists_settled_of_mem turnedAll member
          exact anyIsJustMarker_iff.mpr
            ⟨childResult, resultMember, inductionHypothesis child member childTurned childJust⟩
        cases form
        case identifier => exact isJust
        case parenthesized => exact anyJust isJust
        case expressionStatement => exact anyJust isJust
        all_goals cases isJust

theorem strays_wrapped
    (grade : Grade)
    (node : Node) :
    node.wrapped.strays grade = node.strays grade := by
  obtain ⟨form, role, span, children⟩ := node
  rw [wrapped, withForm, form_mk, strays, strays]
  cases form <;> rfl

/-- The form of a node has the name of the marker astray also when its children are settled. -/
theorem form_strays_settled
    {grade : Grade}
    {form : Form}
    {role : Role}
    {children settled : List Node}
    (fits : form.fits role children)
    (turned : List.Forall₂ (fun node result => node.settle? = some result) children settled)
    (isAstray : form.strays grade children) :
    form.strays grade settled := by
  cases form
  case arrow head =>
      rw [Form.fits, Bool.and_eq_true] at fits
      obtain ⟨parameters, directives, role, span, statements, rfl⟩ := areFunction_iff.mp fits.1
      rw [Form.strays, Bool.and_eq_true] at isAstray
      obtain ⟨isConcise, isAstray⟩ := isAstray
      cases turned with
      | cons _ turned =>
          cases turned with
          | cons bodyTurned turned =>
              cases turned
              rcases settle?_cases bodyTurned with
                ⟨_, _, isOther, _⟩ | ⟨_, settledStatements, turnedAll, rfl⟩
              · cases isOther
              · have someJust : ∃ statement ∈ statements, statement.isJustMarker := by
                  simpa using isAstray
                obtain ⟨statement, member, isJust⟩ := someJust
                obtain ⟨result, resultMember, statementTurned⟩ :=
                  exists_settled_of_mem turnedAll member
                rw [Form.strays, isConcise]
                simpa using ⟨result, resultMember, isJustMarker_settled statementTurned isJust⟩
  case case =>
      cases turned with
      | nil => exact isAstray
      | cons firstTurned _ => exact isJustMarker_settled firstTurned isAstray
  case call isOptional =>
      cases turned with
      | nil => exact isAstray
      | cons firstTurned _ =>
          rw [Form.strays, List.head?_cons, Option.any_some] at isAstray ⊢
          rwa [name?_settled firstTurned]
  all_goals exact isAstray

/-- The name of the marker is still astray when a tree has settled. -/
theorem strays_settled
    {grade : Grade}
    {node result : Node}
    (fits : node.isWellFormed)
    (turned : node.settle? = some result)
    (isAstray : node.strays grade) :
    result.strays grade := by
  induction node using inductionOnChildren generalizing grade result with
  | step form role span children inductionHypothesis =>
      obtain ⟨atRoot, below⟩ := isWellFormed_mk.mp fits
      rcases settle?_cases turned with
        ⟨inner, settled, rfl, rfl, innerTurned, rfl⟩ | ⟨isOther, settled, turnedAll, rfl⟩
      · rw [strays_wrapped]
        exact inductionHypothesis inner (by simp) (below inner (by simp)) innerTurned
          (strays_parenthesized.mp isAstray)
      · rcases strays_mk.mp isAstray with here | ⟨noLeaf, child, member, childAstray⟩
        · exact strays_mk.mpr (.inl (form_strays_settled atRoot turnedAll here))
        · obtain ⟨childResult, resultMember, childTurned⟩ := exists_settled_of_mem turnedAll member
          exact strays_mk.mpr (.inr ⟨noLeaf, childResult, resultMember,
            inductionHypothesis child member (below child member) childTurned childAstray⟩)

/-- A pattern binds the same names without marks. -/
theorem boundNames_unmarked
    (pattern : Node) :
    pattern.unmarked.boundNames = pattern.boundNames := by
  induction pattern using inductionOnChildren with
  | step form role span children inductionHypothesis =>
      have childrenSame : boundNamesOfAll (children.map unmarked) = boundNamesOfAll children := by
        rw [boundNamesOfAll_eq, boundNamesOfAll_eq, List.flatMap_map]
        exact List.flatMap_congr inductionHypothesis
      cases form with
      | objectPattern | arrayPattern =>
          rw [unmarked_noList rfl]
          exact childrenSame
      | patternProperty | defaulted =>
          rw [unmarked_noList rfl]
          rcases children with _ | ⟨first, _ | ⟨second, _ | ⟨third, rest⟩⟩⟩
          case cons.cons.nil => exact inductionHypothesis _ (by simp)
          all_goals rfl
      | rest =>
          rw [unmarked_noList rfl]
          rcases children with _ | ⟨first, _ | ⟨second, rest⟩⟩
          case cons.nil => exact inductionHypothesis _ (by simp)
          all_goals rfl
      | _ =>
          rw [unmarked_mk]
          rfl

/-- A declaration declares the same names without marks. -/
theorem declaredNames_unmarked
    {declaration : Node}
    (fits : declaration.isWellFormed) :
    declaration.unmarked.declaredNames = declaration.declaredNames := by
  obtain ⟨form, role, span, children⟩ := declaration
  cases form with
  | declaration keyword =>
      have areDeclarators : ∀ child ∈ children, child.form = .declarator := by
        simpa [Form.fits] using (isWellFormed_mk.mp fits).1
      rw [unmarked_noList rfl]
      simp only [declaredNames, form_mk, children_mk, List.flatMap_map]
      refine List.flatMap_congr (fun declarator member => ?_)
      rw [children_unmarked (by rw [areDeclarators declarator member]; rfl), ← List.map_take,
        boundNamesOfAll_eq, boundNamesOfAll_eq, List.flatMap_map]
      exact List.flatMap_congr (fun pattern _ => boundNames_unmarked pattern)
  | _ =>
      rw [unmarked_mk]
      rfl

/-- A statement exports the same names without marks. -/
theorem exportedNames_unmarked
    {statement : Node}
    (fits : statement.isWellFormed) :
    statement.unmarked.exportedNames = statement.exportedNames := by
  obtain ⟨form, role, span, children⟩ := statement
  cases form with
  | exportDeclaration =>
      rw [unmarked_noList rfl]
      simp only [exportedNames, form_mk, children_mk, List.flatMap_map]
      exact List.flatMap_congr (fun declaration member =>
        declaredNames_unmarked ((isWellFormed_mk.mp fits).2 declaration member))
  | _ =>
      rw [unmarked_mk]
      rfl

/-- Statements export the same names without the marks among them. -/
theorem exportedNames_unmarkedAll
    {statements : List Node}
    (fit : ∀ statement ∈ statements, statement.isWellFormed) :
    (unmarkedAll true statements).flatMap exportedNames = statements.flatMap exportedNames := by
  induction statements with
  | nil => rfl
  | cons statement rest inductionHypothesis =>
      have restSame := inductionHypothesis (fun other member => fit other (by simp [member]))
      rw [unmarkedAll, List.flatMap_cons]
      split
      · next isMark =>
          have noExport : statement.exportedNames = [] := by
            unfold Node.isMark at isMark
            split at isMark
            · rfl
            · cases isMark
          rw [restSame, noExport, List.nil_append]
      · rw [List.flatMap_cons, restSame, exportedNames_unmarked (fit statement (by simp))]

end Node

end Reactivity.Script
