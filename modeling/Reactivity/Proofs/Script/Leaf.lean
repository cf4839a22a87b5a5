import Reactivity.Proofs.Script.Assembly

namespace Reactivity.Script

open Reader

/-!
# Scripts of one token

A script that is a single word or number is read as one expression statement, unless the
word is reserved or the digits spell no number.
-/

/-- The reading of a number comes to the end of the text, or fails. -/
inductive IsNumeral :
    Token × List Char →
    Prop where
  | number (value : Number.Magnitude) : IsNumeral (.number value, [])
  | bigInteger (value : Nat) : IsNumeral (.bigInteger value, [])
  | invalid : IsNumeral (.invalid, [])

section

variable {text rest : List Char}

/-- What goes on like a simple name does not end a number. -/
theorem eq_nil_of_endsNumber
    (simple : rest.all Text.isSimpleNameCharacter)
    (ends : endsNumber rest) :
    rest = [] := by
  cases rest with
  | nil => rfl
  | cons first others =>
      have plain := isPlain_of_isSimpleNameCharacter (Bool.and_eq_true_iff.mp simple).1
      have continues : first.isDigit = true ∨ Text.isIdentifierStart first = true := by
        cases isDigit : first.isDigit with
        | true => exact .inl rfl
        | false => exact .inr (plain.starts isDigit)
      have noEscape := plain.noEscape
      rcases continues with isDigit | starts <;> simp_all [endsNumber]

theorem all_of_suffix
    {property : Char → Bool}
    (suffix : rest <:+ text)
    (holds : text.all property) :
    rest.all property :=
  List.all_eq_true.mpr (fun character member =>
    List.all_eq_true.mp holds character (suffix.subset member))

theorem suffix_of_readRun?
    {isDigit : Char → Bool}
    {digits : List Char}
    (ran : readRun? isDigit text = some (digits, rest)) :
    rest <:+ text := by
  unfold readRun? at ran
  dsimp only at ran
  split at ran
  · cases ran
    exact List.dropWhile_suffix _
  · cases ran

theorem suffix_of_readExponent?
    {exponent : Int}
    (ran : readExponent? text = some (exponent, rest)) :
    rest <:+ text := by
  unfold readExponent? at ran
  split at ran
  · next marker behind =>
      split at ran
      · split at ran
        next sign digits isSigned =>
          have isSuffix : digits <:+ behind := by
            split at isSigned <;> cases isSigned
            · exact List.suffix_cons _ _
            · exact List.suffix_cons _ _
            · exact List.suffix_rfl
          split at ran
          · next digitsRan =>
              cases ran
              exact (suffix_of_readRun? digitsRan).trans
                (isSuffix.trans (List.suffix_cons _ _))
          · cases ran
      · cases ran
        exact List.suffix_rfl
  · cases ran
    exact List.suffix_rfl

theorem finishInteger_isNumeral
    (value : Nat)
    (simple : rest.all Text.isSimpleNameCharacter) :
    IsNumeral (finishInteger value rest) := by
  unfold finishInteger
  split
  · next behind =>
      split
      · next ends =>
          rw [eq_nil_of_endsNumber (Bool.and_eq_true_iff.mp simple).2 ends]
          exact .bigInteger value
      · exact .invalid
  · split
    · next ends =>
        rw [eq_nil_of_endsNumber simple ends]
        exact .number _
    · exact .invalid

theorem readBased_isNumeral
    (base : Nat)
    (isDigit : Char → Bool)
    (simple : text.all Text.isSimpleNameCharacter) :
    IsNumeral (readBased base isDigit text) := by
  unfold readBased
  split
  · next ran => exact finishInteger_isNumeral _ (all_of_suffix (suffix_of_readRun? ran) simple)
  · exact .invalid

theorem readFraction_isNumeral
    (whole : List Char)
    (simple : text.all Text.isSimpleNameCharacter) :
    IsNumeral (readFraction whole text) := by
  unfold readFraction
  split
  · exact .invalid
  · next fractionRan =>
      split
      · exact .invalid
      · next exponentRan =>
          have isSuffix :=
            (suffix_of_readExponent? exponentRan).trans (suffix_of_readRun? fractionRan)
          split
          · next ends =>
              rw [eq_nil_of_endsNumber (all_of_suffix isSuffix simple) ends]
              exact .number _
          · exact .invalid

theorem readDecimal_isNumeral
    (simple : text.all Text.isSimpleNameCharacter) :
    IsNumeral (readDecimal text) := by
  unfold readDecimal
  split
  · exact .invalid
  · next wholeRan =>
      have simple := all_of_suffix (suffix_of_readRun? wholeRan) simple
      split
      · exact .invalid
      · split
        · exact readFraction_isNumeral _ (Bool.and_eq_true_iff.mp simple).2
        · split
          · exact .invalid
          · next exponentRan =>
              split
              · next ends =>
                  rw [eq_nil_of_endsNumber
                    (all_of_suffix (suffix_of_readExponent? exponentRan) simple) ends]
                  exact .number _
              · exact .invalid
        · split
          · exact .invalid
          · next exponentRan =>
              split
              · next ends =>
                  rw [eq_nil_of_endsNumber
                    (all_of_suffix (suffix_of_readExponent? exponentRan) simple) ends]
                  exact .number _
              · exact .invalid
        · exact finishInteger_isNumeral _ simple

/-- A simple name is read as a number as a whole, or not at all. -/
theorem readNumber_isNumeral
    (simple : text.all Text.isSimpleNameCharacter) :
    IsNumeral (readNumber text) := by
  unfold readNumber
  split
  · next marker behind =>
      have behindSimple := (Bool.and_eq_true_iff.mp (Bool.and_eq_true_iff.mp simple).2).2
      repeat' split
      · exact readBased_isNumeral _ _ behindSimple
      · exact readBased_isNumeral _ _ behindSimple
      · exact readBased_isNumeral _ _ behindSimple
      · exact readDecimal_isNumeral simple
  · exact readFraction_isNumeral _ (Bool.and_eq_true_iff.mp simple).2
  · exact readDecimal_isNumeral simple

end

namespace Grammar

variable
  {grammar : Grammar}
  {context : Context}
  {start : Cursor}
  {bound : Nat}
  {node : Node}

/-- The last token of a script is an operand, if it can be one. -/
theorem IsOperand.ofLast
    (opens : start.token.opensOperand)
    (last : start.next.token = .finish) :
    IsOperand .top start :=
  ⟨opens, rfl, .inr (by rw [last]; rfl)⟩

/-- The last operand is an expression statement. -/
theorem run_readLabeledOrExpression_last
    (operand : IsOperand context start)
    (last : start.next.token = .finish)
    (isBound : grammar.bound = bound + 1)
    (ran : (grammar.readPrimary context).run start = some (node, start.next)) :
    (grammar.readLabeledOrExpression context).run start =
      some (.mk .expressionStatement .statement ⟨start.start, start.next.previousStop⟩ [node],
        start.next) := by
  have closes : start.next.token.closes := by
    rw [last]
    rfl
  have noAccess := Cursor.isAccess_of_endsOperation (Token.endsOperation_of_closes closes)
  have assigned :=
    operand.run_readAssignment_access isBound (run_readAccess isBound ran noAccess) closes
  have expression : (grammar.readExpression context).run start = some (node, start.next) := by
    simp [readExpression, assigned, Cursor.isAt_of_finish last]
  simp only [readLabeledOrExpression, StateT.run_bind, run_position, expression,
    Option.bind_eq_bind, Option.bind_some]
  cases node.name? <;>
    simp [Cursor.isAt_of_finish last, readExpressionEnd, run_semicolon_of_finish last]

end Grammar

/-- The source is read as one statement that is just this expression. -/
def ReadsAs
    (source : String)
    (form : Form) :
    Prop :=
  ∃ span inner,
    readProgram source =
      .ok
        { statements := [.mk .expressionStatement .statement span [.mk form .expression inner []]] }

variable {source : String}

/-- The text of a simple name is no first line of another language. -/
theorem splitHashbang_simple
    (simple : source.toList.all Text.isSimpleNameCharacter) :
    splitHashbang source.toList = (none, source.toList) := by
  unfold splitHashbang
  split
  · next isHashbang =>
      rw [isHashbang, List.all_cons, Bool.and_eq_true] at simple
      exact absurd simple.1 (by decide)
  · rfl

/-- An expression statement is settled, if its expression is. -/
theorem settle?_expressionStatement
    {value : Node}
    (settled : value.settle? = some value)
    (span : Span) :
    Node.settle? (.mk .expressionStatement .statement span [value]) =
      some (.mk .expressionStatement .statement span [value]) := by
  simp [Node.settle?, Node.settleAll?, Form.isUnsettled, settled]

/-- A script of one token is that expression, if it is a primary one. -/
theorem readsAs_of_token
    {token : Token}
    {form : Form}
    (simple : source.toList.all Text.isSimpleNameCharacter)
    (first : firstToken? source.toList = some (token, []))
    (notFinish : token ≠ .finish)
    (noString : ∀ value raw, token ≠ .string value raw)
    (settled : ∀ role span, Node.settle? (.mk form role span []) = some (.mk form role span []))
    (reads :
      ∀ {grammar : Grammar} {bound : Nat} {start : Cursor},
        start.token = token → start.next.token = .finish → grammar.bound = bound + 1 →
          (grammar.readStatement .top .listed).run start =
            some
              (.mk .expressionStatement .statement ⟨start.start, start.next.previousStop⟩
                [.mk form .expression ⟨start.start, start.next.previousStop⟩ []],
                start.next)) :
    ReadsAs source form := by
  obtain ⟨⟨stands, _⟩, moves⟩ := Cursor.ofText_of_firstToken first source.toList.length
  have last : (Cursor.ofText source.toList.length source.toList).next.token = .finish := by
    rw [moves]
    rfl
  have ran :=
    @reads (Grammar.ofSize source.toList.length) (source.toList.length + 1) _ stands last rfl
  refine ⟨_, _, readProgram_of_single (splitHashbang_simple simple) ?_ ?_ ran ?_
    (settle?_expressionStatement (settled _ _) _) ?_⟩
  · rw [Cursor.isAtEnd, stands]
    exact beq_eq_false_iff_ne.mpr notFinish
  · rw [stands]
    exact noString
  · rw [Cursor.isAtEnd, last]
    rfl
  · exact List.nodup_nil

/-- A simple name that is not reserved is read as a variable, if it is not `let`. -/
theorem readsAs_identifier
    (simple : source.toList.all Text.isSimpleNameCharacter)
    (leads : source.toList.head?.any (fun character => !character.isDigit))
    (isNamed : isName .top source)
    (noLet : source ≠ "let") :
    ReadsAs source (.identifier source) := by
  have first := @firstToken?_of_simple _ [] simple leads rfl
  rw [List.append_nil, String.ofList_toList] at first
  refine readsAs_of_token simple first (by simp) (by simp)
    (fun _ _ => rfl) ?_
  intro grammar bound start stands last isBound
  have opens : start.token.opensOperand := by
    rw [stands]
    exact Token.opensOperand_of_unreserved (unreserved_of_isName isNamed) _
  have noFunction := Cursor.isAtWord_of_finish last "function"
  rw [Grammar.run_readStatement _ _ _ stands,
    Grammar.readWordStatement_name isNamed noLet (.inr noFunction)]
  exact Grammar.run_readLabeledOrExpression_last (.ofLast opens last) last isBound
    (Grammar.run_readPrimary_of_name stands isNamed noFunction)

/-- A statement that starts with neither word nor symbol is an expression statement. -/
theorem Grammar.readStatement_of_token
    {grammar : Grammar}
    {start : Cursor}
    (noWordOrSymbol : start.token.isWordOrSymbol = false) :
    (grammar.readStatement .top .listed).run start =
      (grammar.readLabeledOrExpression .top).run start := by
  rw [readStatement, StateT.run_bind, run_cursor]
  dsimp only [Option.bind_eq_bind, Option.bind_some]
  split
  · next isSymbol =>
      rw [isSymbol] at noWordOrSymbol
      cases noWordOrSymbol
  · next isSymbol =>
      rw [isSymbol] at noWordOrSymbol
      cases noWordOrSymbol
  · next isWord =>
      rw [isWord] at noWordOrSymbol
      cases noWordOrSymbol
  · rfl

/-- What a number in a script is read as. -/
def Token.numeral? :
    Token →
    Option Form
  | .number value => some (.number value)
  | .bigInteger value => some (.bigInteger value)
  | _ => none

/-- A number as the last token is a primary expression. -/
theorem Grammar.readPrimary_numeral
    {grammar : Grammar}
    {start : Cursor}
    {form : Form}
    (isNumeral : start.token.numeral? = some form) :
    (grammar.readPrimary .top).run start =
      some (.mk form .expression ⟨start.start, start.next.previousStop⟩ [], start.next) := by
  cases token : start.token with
  | number value | bigInteger value =>
      rw [token] at isNumeral
      cases isNumeral
      simp [readPrimary, token]
  | _ =>
      rw [token] at isNumeral
      cases isNumeral

/-- A simple name that starts with a digit is one token. -/
theorem firstToken?_numeral
    (simple : source.toList.all Text.isSimpleNameCharacter)
    (leads : source.toList.head?.any Char.isDigit) :
    firstToken? source.toList = some ((readNumber source.toList).1, []) := by
  have isNumeral := readNumber_isNumeral simple
  cases characters : source.toList with
  | nil =>
      rw [characters] at leads
      cases leads
  | cons first others =>
      rw [characters] at simple leads isNumeral
      rw [firstToken?_digit leads (Bool.and_eq_true_iff.mp simple).1]
      generalize readNumber (first :: others) = read at isNumeral ⊢
      cases isNumeral <;> rfl

/-- A simple name that starts with a digit is the number that it spells, if there is one. -/
theorem readsAs_numeral
    {form : Form}
    (simple : source.toList.all Text.isSimpleNameCharacter)
    (leads : source.toList.head?.any Char.isDigit)
    (spells : (readNumber source.toList).1.numeral? = some form) :
    ReadsAs source form := by
  have first := firstToken?_numeral simple leads
  have isNumeral := readNumber_isNumeral simple
  have noWordOrSymbol := readNumber_isWordOrSymbol source.toList
  generalize readNumber source.toList = read at first isNumeral noWordOrSymbol spells
  refine readsAs_of_token simple first ?_ ?_ ?_ ?_
  · cases isNumeral <;> simp
  · cases isNumeral <;> simp
  · cases isNumeral <;> cases spells <;> exact fun _ _ => rfl
  · intro grammar bound start stands last isBound
    have opens : start.token.opensOperand := by
      rw [stands]
      cases isNumeral <;> rfl
    rw [← stands] at spells noWordOrSymbol
    rw [Grammar.readStatement_of_token noWordOrSymbol]
    exact Grammar.run_readLabeledOrExpression_last (.ofLast opens last) last isBound
      (Grammar.readPrimary_numeral spells)

/-- A simple name that starts with a digit and spells no number is malformed. -/
theorem readProgram_noNumeral
    (simple : source.toList.all Text.isSimpleNameCharacter)
    (leads : source.toList.head?.any Char.isDigit)
    (spellsNone : (readNumber source.toList).1.numeral? = none) :
    readProgram source = .fail .malformed := by
  have first := firstToken?_numeral simple leads
  have isInvalid : (readNumber source.toList).1 = .invalid := by
    have isNumeral := readNumber_isNumeral simple
    generalize readNumber source.toList = read at isNumeral spellsNone
    cases isNumeral <;> first | rfl | cases spellsNone
  rw [isInvalid] at first
  obtain ⟨⟨stands, _⟩, moves⟩ := Cursor.ofText_of_firstToken first source.toList.length
  have last : (Cursor.ofText source.toList.length source.toList).next.token = .finish := by
    rw [moves]
    rfl
  rcases readProgram_eq source with ⟨program, read⟩ | malformed
  · obtain ⟨statement, between, ran⟩ :=
      exists_run_of_readProgram read (splitHashbang_simple simple)
        (by rw [Cursor.isAtEnd, stands]; rfl)
    have operand : Grammar.IsOperand .top (Cursor.ofText source.toList.length source.toList) :=
      .ofLast (by rw [stands]; rfl) last
    have failed (grammar : Grammar) :
        (grammar.readPrimary .top).run (Cursor.ofText source.toList.length source.toList) =
          none := by
      simp [Grammar.readPrimary, stands]
    rw [Grammar.readStatement_of_token (by rw [stands]; rfl)] at ran
    simp [Grammar.readLabeledOrExpression, Grammar.readExpression,
      operand.run_readAssignment_none (failed _)] at ran
  · exact malformed

end Reactivity.Script
