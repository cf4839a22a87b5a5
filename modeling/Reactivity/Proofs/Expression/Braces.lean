import Mathlib.Data.List.Basic
import Reactivity.Expression.Kind

namespace Reactivity.Expression

/-!
# Braces around an expression

Wrapping puts a pair of braces around a text, whatever the text is. Unwrapping takes the
outer pair away again, if there is no line feed between the braces, and refuses every other
text. So it undoes wrapping for the texts of one line and for no others.
-/

/-- A text in a pair of braces. -/
def wrapped
    (inner : String) :
    String :=
  "\x7b" ++ inner ++ "\x7d"

theorem toList_wrapped
    (inner : String) :
    (wrapped inner).toList = '\x7b' :: (inner.toList ++ ['\x7d']) := by
  simp [wrapped]

/-- The inner text of a wrapped text is found if it is on one line. -/
theorem inBraces?_of_wrapped
    (inner : List Char) :
    inBraces? ('\x7b' :: (inner ++ ['\x7d'])) = if '\n' ∈ inner then none else some inner := by
  simp [inBraces?]

/-- Only wrapped texts have an inner text. -/
theorem exists_of_inBraces?
    {text inner : List Char}
    (found : inBraces? text = some inner) :
    ∃ between, text = '\x7b' :: (between ++ ['\x7d']) := by
  cases text with
  | nil =>
      cases found
  | cons first rest =>
      by_cases isOpened : first = '\x7b'
      · subst isOpened
        rcases List.eq_nil_or_concat rest with rfl | ⟨between, last, rfl⟩
        · cases found
        · by_cases isClosed : last = '\x7d'
          · exact ⟨between, by rw [isClosed, List.concat_eq_append]⟩
          · simp [inBraces?, isClosed] at found
      · simp [inBraces?, isOpened] at found

theorem inBraces?_eq_some_iff
    {text inner : List Char} :
    inBraces? text = some inner ↔ text = '\x7b' :: (inner ++ ['\x7d']) ∧ '\n' ∉ inner := by
  constructor
  · intro found
    obtain ⟨between, rfl⟩ := exists_of_inBraces? found
    rw [inBraces?_of_wrapped] at found
    split at found
    case isTrue => cases found
    case isFalse isOneLine =>
      obtain rfl := Option.some.inj found
      exact ⟨rfl, isOneLine⟩
  · rintro ⟨rfl, isOneLine⟩
    rw [inBraces?_of_wrapped, if_neg isOneLine]

theorem unwrap_of_some
    {code : String}
    {inner : List Char}
    (found : inBraces? code.toList = some inner) :
    unwrap code = .ok (String.ofList inner) := by
  have isFilled : code.isEmpty = false := by
    rw [Bool.eq_false_iff, ne_eq, String.isEmpty_iff]
    rintro rfl
    cases found
  rw [unwrap, if_neg (by simp [isFilled]), found]

/-- A text without an inner text is refused. -/
theorem unwrap_of_none
    {code : String}
    (missing : inBraces? code.toList = none) :
    unwrap code =
      .fail (if code.isEmpty then .emptyExpression else .unwrappedExpression code) := by
  rw [unwrap, missing]
  split <;> rfl

/-- Unwrapping gives the inner text of a text that is wrapped on one line. -/
theorem unwrap_eq_ok_iff
    {code inner : String} :
    unwrap code = .ok inner ↔ code = wrapped inner ∧ '\n' ∉ inner.toList := by
  have isWrapped :
      code = wrapped inner ↔ code.toList = '\x7b' :: (inner.toList ++ ['\x7d']) := by
    rw [← toList_wrapped, String.toList_inj]
  rw [isWrapped, ← inBraces?_eq_some_iff]
  cases found : inBraces? code.toList with
  | none =>
      rw [unwrap_of_none found]
      simp [Outcome.fail]
  | some between =>
      rw [unwrap_of_some found, Except.ok.injEq, Option.some.injEq, ← String.toList_inj,
        String.toList_ofList]

/-- What a refused text is answered. -/
def refusal
    (code : String) :
    Report where
  code := "R-ERR-EXPR-001"
  message := if code.isEmpty then "Empty expression" else "Wrong expression: " ++ code

/-- A text is either unwrapped or refused. -/
theorem unwrap_refuses_iff
    {code : String} :
    (∃ failure, unwrap code = .error failure ∧ failure.report = refusal code) ↔
      ∀ inner, unwrap code ≠ .ok inner := by
  cases found : inBraces? code.toList with
  | none =>
      have isError := unwrap_of_none found
      refine iff_of_true ⟨_, isError, ?_⟩ (fun inner => ?_)
      · cases isEmpty : code.isEmpty <;> simp only [refusal, isEmpty] <;> rfl
      · rw [isError]
        simp [Outcome.fail]
  | some inner =>
      have isOk := unwrap_of_some found
      refine iff_of_false ?_ (fun refused => refused _ isOk)
      rintro ⟨failure, isError, _⟩
      rw [isOk] at isError
      cases isError

/--
Unwrapping takes away the braces of a wrapped text exactly if the text between them is on one
line. Everything else is refused: texts that are not wrapped, and wrapped texts with a line feed.
-/
theorem unwrap_undoes_wrapped
    (code : String) :
    (∀ inner, unwrap code = .ok inner ↔ code = wrapped inner ∧ '\n' ∉ inner.toList) ∧
      ((∃ failure, unwrap code = .error failure ∧ failure.report = refusal code) ↔
        ¬ ∃ inner, code = wrapped inner ∧ '\n' ∉ inner.toList) := by
  refine ⟨fun inner => unwrap_eq_ok_iff, ?_⟩
  rw [unwrap_refuses_iff, not_exists]
  exact forall_congr' (fun inner => not_congr unwrap_eq_ok_iff)

/-- A wrapped text with a line feed is refused. -/
theorem unwrap_refuses_lineFeed :
    ¬ ∀ inner, unwrap (wrapped inner) = .ok inner := by
  intro undoes
  have isOneLine := (unwrap_eq_ok_iff.mp (undoes "a\nb")).2
  exact isOneLine (by decide)

end Reactivity.Expression
