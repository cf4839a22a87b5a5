import Reactivity.Proofs.Script.Phrase

namespace Reactivity.Script

open Reader Grammar

/-!
# Sentences

A sentence is a text that is read as a statement wherever it stands: a call, or the assignment
of a phrase. Sentences in braces are the body of an arrow function, which is a phrase again.
A snippet that is a sentence, or a call without a semicolon, is read as its tree.
-/

/-- How a sentence is read. -/
structure Sentence.Reading
    (text : List Char)
    (first : Token)
    (tokens : List Token)
    (raw : Node) :
    Prop where
  opens : first.isWordOrSymbol
  notClosed : first ≠ .symbol "\x7d"
  filled : 0 < text.length
  isCut : IsCut anyText text (first :: tokens)
  gives :
    ∀ ⦃bound rounds : Nat⦄ ⦃context : Context⦄ ⦃start stop : Cursor⦄,
      HasRoom text bound rounds context → start.Passes (first :: tokens) stop →
        ((closed bound rounds).readStatement context .listed).Gives start raw stop

/-- A text is read as a statement wherever it stands. -/
def Sentence
    (text : List Char)
    (tree : Node) :
    Prop :=
  ∃ first tokens raw, Sentence.Reading text first tokens raw ∧ raw.settle? = some tree

namespace Token.OpensChain

/-- A statement that starts with a chain is an expression. -/
theorem run_readStatement
    {grammar : Grammar}
    {context : Context}
    {start : Cursor}
    (opens : start.token.OpensChain)
    (noYield : context.allowsYield = false)
    (placement : Placement) :
    (grammar.readStatement context placement).run start =
      (grammar.readLabeledOrExpression context).run start := by
  generalize stands : start.token = token at opens
  cases opens with
  | word isNamed noAsync noLet =>
      rw [Grammar.run_readStatement _ _ _ stands]
      exact readWordStatement_name (isName_of_isIdentifier noYield isNamed) noLet (.inl noAsync) _
  | bracket isBracket =>
      simp only [List.mem_cons, List.not_mem_nil, or_false] at isBracket
      rcases isBracket with rfl | rfl <;> simp [Grammar.readStatement, stands]

variable
  {grammar : Grammar}
  {context : Context}
  {placement : Placement}
  {bound : Nat}
  {start last stop : Cursor}

/-- A call is a statement up to its end. -/
theorem gives_statement_call
    {tree : Node}
    (opens : start.token.OpensChain)
    (noYield : context.allowsYield = false)
    (gives : (grammar.readAssignment context).Gives start tree last)
    (isCall : tree.form = .call false)
    (noComma : last.isAt "," = false)
    (ended : semicolon.run last = some ((), stop)) :
    (grammar.readStatement context placement).Gives start (Build.statement tree) stop := by
  obtain ⟨node, ran, rfl⟩ := gives
  rw [Node.form_unplaced] at isCall
  refine ⟨.mk .expressionStatement .statement ⟨start.start, stop.previousStop⟩ [node], ?_, rfl⟩
  rw [opens.run_readStatement noYield]
  exact run_readLabeledOrExpression ran (Node.name?_of_call isCall) noComma ended

/-- A member is assigned a value. -/
theorem gives_statement_assign
    {object value : Node}
    {key : String}
    (opens : start.token.OpensChain)
    (noYield : context.allowsYield = false)
    (isBound : grammar.bound = bound + 1)
    (access : (grammar.readAccess context).Gives start (Build.member object key) last)
    (isAssigned : last.token = .symbol "=")
    (gives : (grammar.assignment context).Gives last.next value stop)
    (isEnd : stop.token = .symbol ";") :
    (grammar.readStatement context placement).Gives start
      (Build.assign ((Build.member object key).withRole .part) value) stop.next := by
  obtain ⟨⟨form, role, span, children⟩, leftRan, same⟩ := access
  obtain ⟨value, valueRan, rfl⟩ := gives
  rw [Node.unplaced_mk] at same
  obtain ⟨rfl, rfl, _, unplaced⟩ := Node.mk.inj same
  have ran := run_readAssignment_assign (opens.isOperand noYield) isBound leftRan rfl isAssigned
    valueRan
  have noComma : stop.isAt "," = false := by
    rw [Cursor.isAt, isEnd]
    rfl
  refine ⟨.mk .expressionStatement .statement ⟨start.start, stop.next.previousStop⟩
    [.mk (.assignment .plain) .expression ⟨start.start, stop.previousStop⟩
      [.mk (.member key false) .part span children, value]], ?_, ?_⟩
  · rw [opens.run_readStatement noYield]
    exact run_readLabeledOrExpression ran rfl noComma (run_semicolon_of_symbol isEnd)
  · simp only [Node.unplaced_mk, Node.unplacedAll, unplaced]
    rfl

end Token.OpensChain

/-- The target of an assignment: a name, or a member of a chain. -/
inductive Target :
    List Char →
    Node →
    Prop where
  | name
      {word : String}
      (isNamed : isIdentifier word) :
      Target word.toList (Build.target word)
  | member
      {text : List Char}
      {tree : Node}
      {key : String}
      (chain : Chain text tree)
      (isWord : IsWord key.toList) :
      Target (text ++ '.' :: key.toList) ((Build.member tree key).withRole .part)

/-- How the target of an assignment is read. -/
structure Target.Reading
    (text : List Char)
    (first : Token)
    (tokens : List Token)
    (raw : Node) :
    Prop where
  opens : first.isWordOrSymbol
  notClosed : first ≠ .symbol "\x7d"
  isCut : IsCut endsWord text (first :: tokens)
  gives :
    ∀ ⦃bound rounds : Nat⦄ ⦃context : Context⦄ ⦃start between last : Cursor⦄ ⦃value : Node⦄,
      HasRoom text bound rounds context → start.Passes (first :: tokens) between →
        between.token = .symbol "=" →
          ((closed bound rounds).assignment context).Gives between.next value last →
            last.token = .symbol ";" →
              ((closed bound rounds).readStatement context .listed).Gives start
                (Build.assign raw value) last.next

/-- A target is read before the symbol of its assignment. -/
theorem Target.exists_reading
    {text : List Char}
    {tree : Node}
    (target : Target text tree) :
    ∃ first tokens raw, Target.Reading text first tokens raw ∧ raw.settle? = some tree := by
  cases target with
  | @name word isNamed =>
      have isWord := isWord_of_isIdentifier isNamed
      refine ⟨.word word false, [], Build.target word, ⟨rfl, by simp, .word isWord, ?_⟩, rfl⟩
      intro bound rounds context start between last value room passes isAssigned gives isEnd
      obtain ⟨⟨stands, _⟩, rfl⟩ := passes
      obtain ⟨bound, rfl⟩ : ∃ fewer, bound = fewer + 1 := room.exists_bound isWord.length_pos
      exact gives_statement_assign room.noYield rfl stands
        (isName_of_isIdentifier room.noYield isNamed) isAssigned gives isEnd
  | @member text tree key chain isWord =>
      obtain ⟨first, tokens, raw, count, reading, settles⟩ := chain
      have reading := reading.member isWord
      refine ⟨_, _, (Build.member raw key).withRole .part,
        ⟨reading.opens.isWordOrSymbol, reading.opens.noBrace (by decide), reading.isCut, ?_⟩,
        Node.settle?_of_children (by simp) rfl (Node.settleAll?_of_cons settles rfl) _ _⟩
      intro bound rounds context start between last value room passes isAssigned gives isEnd
      obtain ⟨bound, rfl⟩ : ∃ fewer, bound = fewer + 1 := room.exists_bound (by grind)
      have opens := reading.opensAt passes
      have access := reading.access room passes (by rw [isAssigned]; rfl)
      exact opens.gives_statement_assign room.noYield rfl access isAssigned gives isEnd

namespace Sentence

variable
  {text inside : List Char}
  {tree : Node}
  {trees : List Node}

/-- A chain that is a call is a sentence, with a semicolon behind it. -/
theorem ofReading
    {first : Token}
    {tokens : List Token}
    {raw : Node}
    {count : Nat}
    (reading : Chain.Reading text first tokens raw count)
    (isCall : raw.form = .call false)
    (settles : raw.settle? = some tree) :
    Sentence (text ++ [';']) (Build.statement tree) := by
  refine ⟨first, tokens ++ [.symbol ";"], Build.statement raw,
    ⟨reading.opens.isWordOrSymbol, reading.opens.noBrace (by decide), by simp,
      reading.isCut.append (.mark (by decide)) (fun _ _ => rfl), ?_⟩,
    Node.settle?_of_children (by simp) rfl (Node.settleAll?_of_cons settles rfl) _ _⟩
  intro bound rounds context start stop room passes
  obtain ⟨last, passesText, ⟨isEnd, _⟩, rfl⟩ := passes.split_cons
  have opens := reading.opensAt passesText
  have value := reading.phrase.gives (room.within (by simp)) passesText (by rw [isEnd]; rfl)
  have noComma : last.isAt "," = false := by
    rw [Cursor.isAt, isEnd]
    rfl
  exact opens.gives_statement_call room.noYield value isCall noComma
    (run_semicolon_of_symbol isEnd)

/-- A call is a sentence. -/
theorem call
    (chain : Chain text tree)
    (arguments : Listed inside trees) :
    Sentence (text ++ '(' :: (inside ++ [')']) ++ [';'])
      (Build.statement (Build.call tree trees)) := by
  obtain ⟨_, _, _, _, reading, settles⟩ := chain
  obtain ⟨_, _, _, argumentsReading, argumentsSettle⟩ := arguments.exists_reading
  exact ofReading (reading.call argumentsReading) rfl
    (Node.settle?_of_children (by simp) rfl (Node.settleAll?_of_cons settles argumentsSettle) _ _)

/-- A call without arguments is a sentence. -/
theorem run
    (chain : Chain text tree) :
    Sentence (text ++ ['(', ')'] ++ [';']) (Build.statement (Build.call tree [])) := by
  obtain ⟨_, _, _, _, reading, settles⟩ := chain
  exact ofReading (reading.call .nil) rfl
    (Node.settle?_of_children (by simp) rfl (Node.settleAll?_of_cons settles rfl) _ _)

/-- The assignment of a phrase to a target is a sentence. -/
theorem assign
    {left right : Node}
    {valueText : List Char}
    (target : Target text left)
    (phrase : Phrase valueText right) :
    Sentence (text ++ ' ' :: '=' :: ' ' :: (valueText ++ [';'])) (Build.assign left right) := by
  obtain ⟨first, tokens, rawLeft, reading, leftSettles⟩ := target.exists_reading
  obtain ⟨second, more, rawRight, value, rightSettles⟩ := phrase
  have ended : IsCut anyText (valueText ++ [';']) (second :: (more ++ [.symbol ";"])) :=
    value.isCut.append (.mark (by decide)) (fun _ _ => rfl)
  have assigned : IsCut (fun rest => rest.head? == some ' ') [' ', '='] [.symbol "="] := by
    intro others rest blank
    cases rest with
    | nil => cases blank
    | cons character rest =>
        obtain rfl : character = ' ' := by simpa using blank
        rfl
  have isCut : IsCut anyText (' ' :: '=' :: ' ' :: (valueText ++ [';']))
      (.symbol "=" :: second :: (more ++ [.symbol ";"])) :=
    assigned.append (ended.indent 1) (fun _ _ => rfl)
  refine ⟨first, tokens ++ .symbol "=" :: second :: (more ++ [.symbol ";"]),
    Build.assign rawLeft rawRight,
    ⟨reading.opens, reading.notClosed, by grind, reading.isCut.append isCut (fun _ _ => rfl), ?_⟩,
    ?_⟩
  · intro bound rounds context start stop room passes
    obtain ⟨between, passesText, ⟨isAssigned, _⟩, passesRest⟩ := passes.split_cons
    obtain ⟨last, passesValue, ⟨isEnd, _⟩, rfl⟩ := passesRest.split_cons
    obtain ⟨rounds, rfl, inner⟩ := room.inside valueText (by grind)
    have given := value.gives inner passesValue (by rw [isEnd]; rfl)
    exact reading.gives (room.within (by simp)) passesText isAssigned given isEnd
  · have assignment : Node.settle? (.expression (.assignment .plain) [rawLeft, rawRight]) =
        some (.expression (.assignment .plain) [left, right]) :=
      Node.settle?_of_children (by simp) rfl
        (Node.settleAll?_of_cons leftSettles (Node.settleAll?_of_cons rightSettles rfl)) _ _
    exact Node.settle?_of_children (by simp) rfl (Node.settleAll?_of_cons assignment rfl) _ _

end Sentence

/-- Sentences with spaces between them. -/
inductive Paragraph :
    List Char →
    List Node →
    Prop where
  | last
      {text : List Char}
      {tree : Node}
      (sentence : Sentence text tree) :
      Paragraph text [tree]
  | cons
      {text rest : List Char}
      {tree : Node}
      {trees : List Node}
      (sentence : Sentence text tree)
      (between : Nat)
      (others : Paragraph rest trees) :
      Paragraph (text ++ (spaces between ++ rest)) (tree :: trees)

/-- How sentences are read, up to a closing brace. -/
structure Paragraph.Reading
    (text : List Char)
    (first : Token)
    (tokens : List Token)
    (raws : List Node) :
    Prop where
  opens : first.isWordOrSymbol
  isCut : IsCut anyText text (first :: tokens)
  few : raws.length ≤ text.length
  gives :
    ∀ ⦃bound rounds : Nat⦄ ⦃context : Context⦄ ⦃start stop : Cursor⦄,
      HasRoom text bound rounds context → start.Passes (first :: tokens) stop →
        stop.isAt "\x7d" →
          ((closed bound rounds).readStatement context .listed).GivesAll "\x7d" start raws stop

/-- Sentences are read one after the other. -/
theorem Paragraph.exists_reading
    {text : List Char}
    {trees : List Node}
    (paragraph : Paragraph text trees) :
    ∃ first tokens raws,
      Paragraph.Reading text first tokens raws ∧ Node.settleAll? raws = some trees := by
  have notClosed {first : Token} {tokens : List Token} {start stop : Cursor}
      (isOther : first ≠ .symbol "\x7d") (passes : start.Passes (first :: tokens) stop) :
      start.isAt "\x7d" = false := by
    rw [Cursor.isAt, passes.1.token_eq, beq_eq_false_iff_ne]
    exact isOther
  induction paragraph with
  | last sentence =>
      obtain ⟨first, tokens, raw, reading, settles⟩ := sentence
      refine ⟨first, tokens, [raw], ⟨reading.opens, reading.isCut, reading.filled, ?_⟩,
        Node.settleAll?_of_cons settles rfl⟩
      intro bound rounds context start stop room passes isClosed
      exact .cons (notClosed reading.notClosed passes) (reading.gives room passes) (.nil isClosed)
  | @cons text rest tree trees sentence between others inductionHypothesis =>
      obtain ⟨first, tokens, raw, reading, settles⟩ := sentence
      obtain ⟨second, more, raws, others, othersSettle⟩ := inductionHypothesis
      refine ⟨first, tokens ++ second :: more, raw :: raws,
        ⟨reading.opens, reading.isCut.append (others.isCut.indent between) (fun _ _ => rfl), ?_,
          ?_⟩,
        Node.settleAll?_of_cons settles othersSettle⟩
      · have filled := reading.filled
        have few := others.few
        simp only [List.length_append, List.length_cons]
        omega
      · intro bound rounds context start stop room passes isClosed
        obtain ⟨last, passesText, passesRest⟩ := passes.split_cons
        exact .cons (notClosed reading.notClosed passesText)
          (reading.gives (room.within (by simp)) passesText)
          (others.gives (room.within (by grind)) passesRest isClosed)

/-- An arrow function with sentences as its body is a phrase. -/
theorem Phrase.block
    {headText content : List Char}
    {names : List String}
    {trees : List Node}
    (head : Head headText names)
    (before after : Nat)
    (paragraph : Paragraph content trees) :
    Phrase
      (headText ++
        (arrowMark ++ ' ' :: '\x7b' :: (spaces before ++ (content ++ (spaces after ++ ['\x7d'])))))
      (Build.arrowBlock names trees) := by
  obtain ⟨headFirst, headTokens, headReading⟩ := head.exists_reading
  obtain ⟨first, tokens, raws, reading, settles⟩ := paragraph.exists_reading
  have closing : IsCut anyText (spaces after ++ ['\x7d']) [.symbol "\x7d"] :=
    IsCut.indent (.mark (by decide)) after
  have inside : IsCut anyText (spaces before ++ (content ++ (spaces after ++ ['\x7d'])))
      (first :: (tokens ++ [.symbol "\x7d"])) :=
    IsCut.indent (reading.isCut.append closing (fun _ _ => rfl)) before
  have opening : IsCut anyText [' ', '\x7b'] [.symbol "\x7b"] :=
    IsCut.indent (.mark (by decide)) 1
  have isCut := isCut_arrowMark.append (opening.append inside (fun _ _ => rfl)) (fun _ _ => rfl)
  refine ⟨headFirst,
    headTokens ++ .symbol "=>" :: .symbol "\x7b" :: first :: (tokens ++ [.symbol "\x7d"]),
    Build.arrowBlock names raws,
    ⟨headReading.opens, headReading.isCut.append (isCut.weaken (fun _ _ => rfl)) (fun _ _ => rfl),
      ?_⟩,
    Node.settle?_arrow names settles _⟩
  intro bound rounds context start stop room passes closes
  obtain ⟨between, passesHead, isArrow, ⟨isOpen, _⟩, passesRest⟩ := passes.split_cons
  obtain ⟨last, passesText, ⟨isClosed, _⟩, rfl⟩ := passesRest.split_cons
  obtain ⟨rounds, rfl, inner⟩ := room.inside (headText ++ content) (by grind [arrowMark])
  obtain ⟨bound, rfl⟩ : ∃ fewer, bound = fewer + 2 := room.exists_bound (by grind [arrowMark])
  have isHead := headReading.isHead (inner.within (by simp)) passesHead isArrow
  have statements := reading.gives (inner.inArrow.within (by simp)) passesText
    (by rw [Cursor.isAt, isClosed]; rfl)
  have enough : raws.length < bound + 2 := by
    have few := reading.few
    have inBound := room.bound
    simp only [List.length_append, List.length_cons] at inBound
    omega
  have noString (value source : String) : between.next.next.token ≠ .string value source := by
    rw [passesText.1.token_eq]
    rintro rfl
    cases reading.opens
  have body : ((closed (bound + 2) (rounds + 1)).readBody (inArrow context)).Gives between.next
      (Build.body raws) last.next :=
    gives_body isOpen statements enough noString
  exact gives_assignment_block isHead rfl body isOpen

/-- No expression statement exports a name. -/
theorem exportedNames_of_statement
    {value : Node}
    (node : Node)
    (same : node.form = (Build.statement value).form) :
    node.exportedNames = [] := by
  rw [Node.exportedNames, same]
  rfl

/-- A snippet that is a sentence is read as its tree. -/
theorem readSnippet_of_sentence
    {source : String}
    {text : List Char}
    {value : Node}
    (sentence : Sentence text (Build.statement value))
    (characters : source.toList = text) :
    readSnippet source = .ok (Build.statement value) := by
  subst characters
  obtain ⟨first, tokens, raw, reading, settles⟩ := sentence
  have behind : textAfter? (first :: tokens ++ []) (source.toList ++ []) = some [] :=
    reading.isCut [] rfl
  rw [List.append_nil, List.append_nil] at behind
  refine readSnippet_of_tokens reading.opens behind (fun start stop passes _ => ?_) settles
    exportedNames_of_statement
  exact reading.gives (.top _) passes

/-- A snippet that is a call needs no semicolon. -/
theorem readSnippet_of_call
    {source : String}
    {text inside : List Char}
    {tree : Node}
    {trees : List Node}
    (chain : Chain text tree)
    (arguments : Listed inside trees)
    (characters : source.toList = text ++ '(' :: (inside ++ [')'])) :
    readSnippet source = .ok (Build.statement (Build.call tree trees)) := by
  obtain ⟨first, _, raw, _, callee, settles⟩ := chain
  obtain ⟨_, _, raws, argumentsReading, argumentsSettle⟩ := arguments.exists_reading
  have reading := callee.call argumentsReading
  rw [← characters] at reading
  have called : (Build.call raw raws).settle? = some (Build.call tree trees) :=
    Node.settle?_of_children (by simp) rfl (Node.settleAll?_of_cons settles argumentsSettle) _ _
  have statement : (Build.statement (Build.call raw raws)).settle? = some (Build.statement _) :=
    Node.settle?_of_children (by simp) rfl (Node.settleAll?_of_cons called rfl) _ _
  have behind := reading.isCut [] (by rfl : endsWord [])
  rw [List.append_nil, List.append_nil] at behind
  refine readSnippet_of_tokens reading.opens.isWordOrSymbol behind
    (fun start stop passes atEnd => ?_) statement exportedNames_of_statement
  have opens := reading.opensAt passes
  have value := reading.phrase.gives (.top _) passes (by rw [atEnd]; rfl)
  exact opens.gives_statement_call rfl value rfl (Cursor.isAt_of_finish atEnd _)
    (run_semicolon_of_finish atEnd)

end Reactivity.Script
