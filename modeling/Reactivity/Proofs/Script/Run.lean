import Reactivity.Script.Grammar.Function

namespace Reactivity.Script.Reader

/-!
# Running readers

What each of the small readers returns at a cursor, and where it leaves off.
-/

variable {value other : Type}

@[simp]
theorem run_failure
    (start : Cursor) :
    (failure : Reader value).run start = none :=
  rfl

/-- To ask for the cursor does not move it. -/
@[simp]
theorem run_cursor
    (start : Cursor) :
    cursor.run start = some (start, start) :=
  rfl

@[simp]
theorem run_advance
    (start : Cursor) :
    advance.run start = some ((), start.next) :=
  rfl

/-- A reader can be sent on to any other text. -/
@[simp]
theorem run_continueAt
    (text : List Char)
    (start : Cursor) :
    (continueAt text).run start = some ((), .ofText start.size text) :=
  rfl

/-- What is required holds at the cursor, or nothing is read. -/
@[simp]
theorem run_require
    (condition : Bool)
    (start : Cursor) :
    (require condition).run start = if condition then some ((), start) else none := by
  cases condition <;> rfl

/-- To look for a symbol does not pass it. -/
@[simp]
theorem run_isAt
    (symbol : String)
    (start : Cursor) :
    (isAt symbol).run start = some (start.isAt symbol, start) :=
  rfl

@[simp]
theorem run_isAtWord
    (word : String)
    (start : Cursor) :
    (isAtWord word).run start = some (start.isAtWord word, start) :=
  rfl

/-- A symbol is passed if it stands at the cursor. -/
@[simp]
theorem run_accept
    (symbol : String)
    (start : Cursor) :
    (accept symbol).run start =
      some (start.isAt symbol, if start.isAt symbol then start.next else start) := by
  simp only [accept, StateT.run_bind, run_isAt]
  cases start.isAt symbol <;> rfl

/-- A word is passed if it stands at the cursor. -/
@[simp]
theorem run_acceptWord
    (word : String)
    (start : Cursor) :
    (acceptWord word).run start =
      some (start.isAtWord word, if start.isAtWord word then start.next else start) := by
  simp only [acceptWord, StateT.run_bind, run_isAtWord]
  cases start.isAtWord word <;> rfl

/-- Nothing is read where the expected symbol does not stand. -/
@[simp]
theorem run_expect
    (symbol : String)
    (start : Cursor) :
    (expect symbol).run start =
      if start.isAt symbol then some ((), start.next) else none := by
  simp only [expect, StateT.run_bind, run_accept, Option.bind_eq_bind, Option.bind_some,
    run_require]
  cases start.isAt symbol <;> rfl

/-- Nothing is read where the expected word does not stand. -/
@[simp]
theorem run_expectWord
    (word : String)
    (start : Cursor) :
    (expectWord word).run start =
      if start.isAtWord word then some ((), start.next) else none := by
  simp only [expectWord, StateT.run_bind, run_acceptWord, Option.bind_eq_bind, Option.bind_some,
    run_require]
  cases start.isAtWord word <;> rfl

/-- A position is that of the token at the cursor, behind the gap before it. -/
@[simp]
theorem run_position
    (start : Cursor) :
    position.run start = some (start.start, start) :=
  rfl

/-- A range ends with the last token that was passed. -/
@[simp]
theorem run_spanFrom
    (first : Nat)
    (start : Cursor) :
    (spanFrom first).run start = some (⟨first, start.previousStop⟩, start) :=
  rfl

/-- A node ends with the last token that was passed. -/
@[simp]
theorem run_finish
    (first : Nat)
    (role : Role)
    (form : Form)
    (children : List Node)
    (start : Cursor) :
    (finish first role form children).run start =
      some (.mk form role ⟨first, start.previousStop⟩ children, start) :=
  rfl

/-- What a reader that goes on after another one returns. -/
theorem run_bind_eq_some
    {read : Reader value}
    {next : value → Reader other}
    {start stop : Cursor}
    {result : other} :
    (read >>= next).run start = some (result, stop) ↔
      ∃ middle between,
        read.run start = some (middle, between) ∧
          (next middle).run between = some (result, stop) := by
  rw [StateT.run_bind, Option.bind_eq_bind, Option.bind_eq_some_iff]
  exact Prod.exists

end Reactivity.Script.Reader
