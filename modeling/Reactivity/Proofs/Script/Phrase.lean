import Reactivity.Proofs.Script.Assembly
import Reactivity.Proofs.Script.Cut

namespace Reactivity.Script

open Reader Grammar

/-!
# Phrases

A phrase is a text that is read as the same value wherever it stands, with any closing symbol
behind it. A chain is a phrase that members and calls may follow. Each of them is made of
smaller ones and is read as what it is made of. All tokens of a phrase stand on one line.
-/

/-- There is room for a text in a grammar, and nothing is yielded where it stands. -/
structure HasRoom
    (text : List Char)
    (bound rounds : Nat)
    (context : Context) :
    Prop where
  bound : text.length ≤ bound
  rounds : text.length ≤ rounds
  noYield : context.allowsYield = false

namespace HasRoom

variable
  {text inner : List Char}
  {bound rounds : Nat}
  {context : Context}

/-- There is room for a smaller text, also where one round less is left. -/
theorem inside
    (room : HasRoom text bound rounds context)
    (inner : List Char)
    (smaller : inner.length < text.length) :
    ∃ fewer, rounds = fewer + 1 ∧ HasRoom inner bound fewer context := by
  obtain ⟨inBound, inRounds, noYield⟩ := room
  exact ⟨rounds - 1, by omega, by omega, by omega, noYield⟩

theorem within
    (room : HasRoom text bound rounds context)
    (smaller : inner.length ≤ text.length) :
    HasRoom inner bound rounds context :=
  ⟨Nat.le_trans smaller room.bound, Nat.le_trans smaller room.rounds, room.noYield⟩

theorem exists_bound
    (room : HasRoom text bound rounds context)
    {size : Nat}
    (smaller : size ≤ text.length) :
    ∃ fewer, bound = fewer + size :=
  Nat.exists_eq_add_of_le' (Nat.le_trans smaller room.bound)

/-- There is room for a script in the grammar of its size. -/
theorem top
    (text : List Char) :
    HasRoom text (text.length + 2) (text.length + 1) .top :=
  ⟨Nat.le_add_right _ 2, Nat.le_add_right _ 1, rfl⟩

theorem enclosed
    (room : HasRoom text bound rounds context) :
    HasRoom text bound rounds context.enclosed :=
  ⟨room.bound, room.rounds, room.noYield⟩

theorem inArrow
    (room : HasRoom text bound rounds context) :
    HasRoom text bound rounds (inArrow context) :=
  ⟨room.bound, room.rounds, rfl⟩

end HasRoom

/-- How a phrase is read: its tokens, and the tree that they make before parentheses are removed. -/
structure Phrase.Reading
    (text : List Char)
    (first : Token)
    (tokens : List Token)
    (raw : Node) :
    Prop where
  opens : first.opensItem
  isCut : IsCut endsPhrase text (first :: tokens)
  gives :
    ∀ ⦃bound rounds : Nat⦄ ⦃context : Context⦄ ⦃start stop : Cursor⦄,
      HasRoom text bound rounds context → start.Passes (first :: tokens) stop →
        stop.token.closes →
          ((closed bound rounds).readAssignment context).Gives start raw stop

/-- A phrase can be an item of a list where its tokens start. -/
theorem Phrase.Reading.opensAt
    {text : List Char}
    {first : Token}
    {tokens : List Token}
    {raw : Node}
    {start stop : Cursor}
    (reading : Phrase.Reading text first tokens raw)
    (passes : start.Passes (first :: tokens) stop) :
    start.token.opensItem := by
  rw [passes.1.token_eq]
  exact reading.opens

/-- A text is read as a value wherever it stands, with any closing symbol behind it. -/
def Phrase
    (text : List Char)
    (tree : Node) :
    Prop :=
  ∃ first tokens raw, Phrase.Reading text first tokens raw ∧ raw.settle? = some tree

/-- The token starts an expression that is a statement, or that members and calls follow. -/
inductive Token.OpensChain :
    Token →
    Prop where
  | word
      {text : String}
      (isNamed : isIdentifier text)
      (noAsync : text ≠ "async")
      (noLet : text ≠ "let") :
      OpensChain (.word text false)
  | bracket
      {text : String}
      (isBracket : text ∈ ["(", "["]) :
      OpensChain (.symbol text)

/-- How a chain is read: members and calls behind it go on with what it is read as. -/
structure Chain.Reading
    (text : List Char)
    (first : Token)
    (tokens : List Token)
    (raw : Node)
    (count : Nat) :
    Prop where
  opens : first.OpensChain
  isCut : IsCut endsWord text (first :: tokens)
  few : count < text.length
  gives :
    ∀ ⦃bound rounds others : Nat⦄ ⦃context : Context⦄ ⦃start last stop : Cursor⦄ ⦃tree : Node⦄,
      HasRoom text bound rounds context → start.Passes (first :: tokens) last →
        Accesses (closed bound rounds) context last raw others tree stop →
          stop.token.isWord = false → count + others < bound →
            ((closed bound rounds).readAccess context).Gives start tree stop

/-- A text is read as a value, also where members and calls follow. -/
def Chain
    (text : List Char)
    (tree : Node) :
    Prop :=
  ∃ first tokens raw count, Chain.Reading text first tokens raw count ∧ raw.settle? = some tree

/-- Phrases with commas between them. -/
inductive Listed :
    List Char →
    List Node →
    Prop where
  | last
      {text : List Char}
      {tree : Node}
      (phrase : Phrase text tree) :
      Listed text [tree]
  | cons
      {text rest : List Char}
      {tree : Node}
      {trees : List Node}
      (phrase : Phrase text tree)
      (before after : Nat)
      (others : Listed rest trees) :
      Listed (text ++ (spaces before ++ ',' :: (spaces after ++ rest))) (tree :: trees)

/-- How a list of phrases is read, up to any symbol that closes it. -/
structure Listed.Reading
    (text : List Char)
    (tokens : List Token)
    (raws : List Node) :
    Prop where
  isCut : IsCut endsPhrase text tokens
  few : raws.length ≤ text.length + 1
  gives :
    ∀ ⦃bound rounds : Nat⦄ ⦃context : Context⦄ ⦃close : String⦄ ⦃read : Reader Node⦄
      ⦃start stop : Cursor⦄,
      HasRoom text bound rounds context →
        TakesItems (closed bound (rounds + 1)) context close read →
          start.Passes tokens stop → stop.token = .symbol close →
            read.GivesAll close start raws stop

namespace Token.OpensChain

variable {token : Token}

/-- A chain can be an item of a list. -/
theorem opensItem
    (opens : token.OpensChain) :
    token.opensItem := by
  cases opens with
  | word => rfl
  | bracket isBracket =>
      simp only [List.mem_cons, List.not_mem_nil, or_false] at isBracket
      rcases isBracket with rfl | rfl <;> rfl

/-- No operator stands before a chain. -/
theorem opensOperand
    (opens : token.OpensChain) :
    token.opensOperand := by
  cases opens with
  | word isNamed => exact Token.opensOperand_of_unreserved (isIdentifier_iff.mp isNamed).2 _
  | bracket isBracket =>
      simp only [List.mem_cons, List.not_mem_nil, or_false] at isBracket
      rcases isBracket with rfl | rfl <;> rfl

theorem isWordOrSymbol
    (opens : token.OpensChain) :
    token.isWordOrSymbol := by
  cases opens <;> rfl

/-- A chain starts with no brace. -/
theorem noBrace
    (opens : token.OpensChain)
    {brace : String}
    (isBrace : brace ∈ ["\x7b", "\x7d"]) :
    token ≠ .symbol brace := by
  rintro rfl
  cases opens with
  | bracket isBracket =>
      have apart : ∀ other ∈ ["\x7b", "\x7d"], other ∉ ["(", "["] := by decide
      exact apart brace isBrace isBracket

/-- A chain is an operand. -/
theorem isOperand
    {context : Context}
    {start : Cursor}
    (opens : start.token.OpensChain)
    (noYield : context.allowsYield = false) :
    IsOperand context start := by
  refine ⟨opens.opensOperand, noYield, .inl ?_⟩
  rw [Cursor.isAtWord, beq_eq_false_iff_ne]
  intro isAsync
  rw [isAsync] at opens
  cases opens with
  | word _ noAsync => exact noAsync rfl

end Token.OpensChain

namespace Listed

variable
  {text : List Char}
  {trees : List Node}

/-- There are fewer phrases than a grammar with room for the text in brackets reads. -/
theorem Reading.length_lt
    {tokens : List Token}
    {raws : List Node}
    {bound : Nat}
    (reading : Reading text tokens raws)
    (inBrackets : text.length + 2 ≤ bound) :
    raws.length < bound := by
  have few := reading.few
  omega

/-- There may be no phrases at all. -/
theorem Reading.nil :
    Reading [] [] [] where
  isCut _ _ _ := rfl
  few := Nat.zero_le _
  gives _ _ _ _ _ _ _ _ _ passes isClosed := by
    obtain rfl := passes
    exact .nil (by rw [Cursor.isAt, isClosed, beq_self_eq_true])

/-- Phrases are read one after the other. -/
theorem exists_reading
    (listed : Listed text trees) :
    ∃ first tokens raws,
      Reading text (first :: tokens) raws ∧ Node.settleAll? raws = some trees := by
  induction listed with
  | last phrase =>
      obtain ⟨first, tokens, raw, reading, settles⟩ := phrase
      refine ⟨first, tokens, [raw], ⟨reading.isCut, by simp, ?_⟩,
        Node.settleAll?_of_cons settles rfl⟩
      intro bound rounds context close read start stop room items passes isClosed
      have value := reading.gives room.enclosed passes (items.closes isClosed)
      exact givesAll_lastItem items (reading.opensAt passes) value isClosed
  | @cons text rest tree trees phrase before after others inductionHypothesis =>
      obtain ⟨first, tokens, raw, reading, settles⟩ := phrase
      obtain ⟨second, more, raws, others, othersSettle⟩ := inductionHypothesis
      have comma : IsCut endsPhrase (',' :: (spaces after ++ rest))
          (.symbol "," :: second :: more) :=
        (IsCut.mark (by decide)).append (others.isCut.indent after) (fun _ _ => rfl)
      have meets (rest : List Char) (before : Nat) :
          endsPhrase (spaces before ++ ',' :: rest) := by
        cases before <;> rfl
      refine ⟨first, tokens ++ .symbol "," :: second :: more, raw :: raws,
        ⟨reading.isCut.append (comma.indent before) (fun _ _ => ?_), ?_, ?_⟩,
        Node.settleAll?_of_cons settles othersSettle⟩
      · rw [List.append_assoc]
        exact meets _ _
      · have few := others.few
        simp only [List.length_append, List.length_cons]
        omega
      · intro bound rounds context close read start stop room items passes isClosed
        obtain ⟨between, passesText, ⟨isComma, _⟩, passesRest⟩ := passes.split_cons
        have value := reading.gives (room.enclosed.within (by simp)) passesText
          (by rw [isComma]; rfl)
        have given := others.gives (room.within (by grind)) items passesRest isClosed
        exact givesAll_item items (reading.opensAt passesText) value isComma given

end Listed

/-- No word stands between an expression and its accesses. -/
theorem Grammar.Accesses.isAtWord_start
    {grammar : Grammar}
    {context : Context}
    {start stop : Cursor}
    {object tree : Node}
    {count : Nat}
    (accesses : Accesses grammar context start object count tree stop)
    (noWord : stop.token.isWord = false)
    (word : String) :
    start.isAtWord word = false := by
  cases accesses with
  | none =>
      rw [Cursor.isAtWord, beq_eq_false_iff_ne]
      intro isWord
      rw [isWord] at noWord
      cases noWord
  | member passes =>
      rw [Cursor.isAtWord, passes.1.token_eq]
      rfl
  | call isOpen =>
      rw [Cursor.isAtWord, isOpen]
      rfl

namespace Chain

variable
  {text inside : List Char}
  {first : Token}
  {tokens insideTokens : List Token}
  {tree raw : Node}
  {trees raws : List Node}
  {word key : String}
  {count : Nat}

namespace Reading

/-- A chain starts where its tokens do. -/
theorem opensAt
    {start stop : Cursor}
    (reading : Reading text first tokens raw count)
    (passes : start.Passes (first :: tokens) stop) :
    start.token.OpensChain := by
  rw [passes.1.token_eq]
  exact reading.opens

/-- A chain is read up to the end of an operation. -/
theorem access
    {bound rounds : Nat}
    {context : Context}
    {start stop : Cursor}
    (reading : Reading text first tokens raw count)
    (room : HasRoom text bound rounds context)
    (passes : start.Passes (first :: tokens) stop)
    (ends : stop.token.endsOperation) :
    ((closed bound rounds).readAccess context).Gives start raw stop :=
  reading.gives room passes (.none (Cursor.isAccess_of_endsOperation ends))
    (Token.isWord_of_endsOperation ends) (Nat.lt_of_lt_of_le reading.few room.bound)

/-- A member of a chain is a chain. -/
theorem member
    (reading : Reading text first tokens raw count)
    (isWord : IsWord key.toList) :
    Reading (text ++ '.' :: key.toList) first (tokens ++ [.symbol ".", .word key false])
      (Build.member raw key) (count + 1) where
  opens := reading.opens
  isCut := reading.isCut.append (.point isWord) (fun _ _ => rfl)
  few := by
    have few := reading.few
    simp only [List.length_append, List.length_cons]
    omega
  gives bound rounds others context start last stop tree room passes accesses noWord enough := by
    obtain ⟨between, passesText, passesMember⟩ := passes.split_cons
    exact reading.gives (room.within (by simp)) passesText (.member passesMember accesses) noWord
      (by omega)

/-- A call of a chain is a chain. -/
theorem call
    (reading : Reading text first tokens raw count)
    (arguments : Listed.Reading inside insideTokens raws) :
    Reading (text ++ '(' :: (inside ++ [')'])) first
      (tokens ++ .symbol "(" :: (insideTokens ++ [.symbol ")"])) (Build.call raw raws)
      (count + 1) where
  opens := reading.opens
  isCut :=
    reading.isCut.append
      ((IsCut.between (by decide) arguments.isCut (by decide) (fun _ => rfl)).weaken
        (fun _ _ => rfl))
      (fun _ _ => rfl)
  few := by
    have few := reading.few
    simp only [List.length_append, List.length_cons]
    omega
  gives bound rounds others context start last stop tree room passes accesses noWord enough := by
    obtain ⟨between, passesText, ⟨isOpen, _⟩, passesRest⟩ := passes.split_cons
    obtain ⟨between, passesInside, ⟨isClosed, _⟩, rfl⟩ := passesRest.split
    obtain ⟨rounds, rfl, inner⟩ := room.inside inside (by grind)
    have given := arguments.gives inner .arguments passesInside isClosed
    have enoughRaws := arguments.length_lt (Nat.le_trans (by grind) room.bound)
    exact reading.gives (room.within (by simp)) passesText
      (.call isOpen given enoughRaws accesses) noWord (by omega)

end Reading

/-- A name is a chain. -/
theorem name
    (isNamed : isIdentifier word)
    (noAsync : word ≠ "async")
    (noLet : word ≠ "let") :
    Chain word.toList (Build.name word) := by
  have isWord := isWord_of_isIdentifier isNamed
  refine ⟨.word word false, [], Build.name word, 0,
    ⟨.word isNamed noAsync noLet, .word isWord, isWord.length_pos, ?_⟩, rfl⟩
  intro bound rounds others context start last stop tree room passes accesses noWord enough
  obtain ⟨⟨stands, _⟩, rfl⟩ := passes
  have primary : ((closed bound rounds).readPrimary context).Gives start _ start.next :=
    gives_primary_name stands (isName_of_isIdentifier room.noYield isNamed)
      (accesses.isAtWord_start noWord "function")
  exact gives_access primary accesses (by rwa [Nat.zero_add] at enough)

theorem member
    (chain : Chain text tree)
    (isWord : IsWord key.toList) :
    Chain (text ++ '.' :: key.toList) (Build.member tree key) := by
  obtain ⟨first, tokens, raw, count, reading, settles⟩ := chain
  exact ⟨_, _, _, _, reading.member isWord,
    Node.settle?_of_children (by simp) rfl (Node.settleAll?_of_cons settles rfl) _ _⟩

/-- A phrase in parentheses is a chain. -/
theorem enclosed
    (phrase : Phrase text tree) :
    Chain ('(' :: (text ++ [')'])) tree.wrapped := by
  obtain ⟨first, tokens, raw, reading, settles⟩ := phrase
  have isCut : IsCut anyText ('(' :: (text ++ [')']))
      (.symbol "(" :: (first :: tokens ++ [.symbol ")"])) :=
    .between (by decide) reading.isCut (by decide) (fun _ => rfl)
  refine ⟨.symbol "(", first :: tokens ++ [.symbol ")"], Build.enclosed raw, 0,
    ⟨.bracket (by decide), isCut.weaken (fun _ _ => rfl), by simp, ?_⟩, ?_⟩
  · intro bound rounds others context start last stop tree room passes accesses noWord enough
    obtain ⟨⟨isOpen, _⟩, passes⟩ := passes
    obtain ⟨between, passesText, ⟨isClosed, _⟩, rfl⟩ := passes.split_cons
    obtain ⟨rounds, rfl, inner⟩ := room.inside text (by grind)
    obtain ⟨bound, rfl⟩ : ∃ fewer, bound = fewer + 2 := room.exists_bound (by simp)
    have value := reading.gives inner.enclosed passesText (by rw [isClosed]; rfl)
    have primary :
        ((closed (bound + 2) (rounds + 1)).readPrimary context).Gives start _ between.next :=
      gives_primary_enclosed rfl isOpen (reading.opensAt passesText) value isClosed
    exact gives_access primary accesses (by rwa [Nat.zero_add] at enough)
  · rw [Build.enclosed, Node.expression, Node.settle?_parenthesized, settles]
    rfl

/-- A list of phrases in brackets is a chain. -/
theorem array
    (listed : Listed inside trees) :
    Chain ('[' :: (inside ++ [']'])) (Build.array trees) := by
  obtain ⟨first, tokens, raws, reading, settles⟩ := listed.exists_reading
  have isCut : IsCut anyText ('[' :: (inside ++ [']']))
      (.symbol "[" :: (first :: tokens ++ [.symbol "]"])) :=
    .between (by decide) reading.isCut (by decide) (fun _ => rfl)
  refine ⟨.symbol "[", first :: tokens ++ [.symbol "]"], Build.array raws, 0,
    ⟨.bracket (by decide), isCut.weaken (fun _ _ => rfl), by simp, ?_⟩,
    Node.settle?_of_children (by simp) rfl settles _ _⟩
  intro bound rounds others context start last stop tree room passes accesses noWord enough
  obtain ⟨⟨isOpen, _⟩, passes⟩ := passes
  obtain ⟨between, passesText, ⟨isClosed, _⟩, rfl⟩ := passes.split_cons
  obtain ⟨rounds, rfl, inner⟩ := room.inside inside (by grind)
  have given := reading.gives inner .array passesText isClosed
  have enoughRaws := reading.length_lt (Nat.le_trans (by grind) room.bound)
  exact gives_access (gives_primary_array isOpen given enoughRaws) accesses
    (by rwa [Nat.zero_add] at enough)

/-- A call of a chain is a chain. -/
theorem call
    (chain : Chain text tree)
    (arguments : Listed inside trees) :
    Chain (text ++ '(' :: (inside ++ [')'])) (Build.call tree trees) := by
  obtain ⟨first, tokens, raw, count, reading, settles⟩ := chain
  obtain ⟨_, _, raws, argumentsReading, argumentsSettle⟩ := arguments.exists_reading
  exact ⟨_, _, _, _, reading.call argumentsReading,
    Node.settle?_of_children (by simp) rfl (Node.settleAll?_of_cons settles argumentsSettle) _ _⟩

end Chain

/-- The parameters of an arrow function: none, a name, or a name in parentheses. -/
inductive Head :
    List Char →
    List String →
    Prop where
  | none :
      Head ['(', ')'] []
  | name
      {word : String}
      (isNamed : isIdentifier word) :
      Head word.toList [word]
  | enclosed
      {word : String}
      (isNamed : isIdentifier word) :
      Head ('(' :: (word.toList ++ [')'])) [word]

/-- How the parameters of an arrow function are read. -/
structure Head.Reading
    (text : List Char)
    (first : Token)
    (tokens : List Token)
    (names : List String) :
    Prop where
  opens : first.opensItem
  isCut : IsCut endsWord text (first :: tokens)
  isHead :
    ∀ ⦃bound rounds : Nat⦄ ⦃context : Context⦄ ⦃start arrow : Cursor⦄,
      HasRoom text bound rounds context → start.Passes (first :: tokens) arrow →
        arrow.StandsAt (.symbol "=>") →
          IsArrowHead (closed bound (rounds + 1)) context start names arrow

/-- The parameters of an arrow function are read before its arrow. -/
theorem Head.exists_reading
    {text : List Char}
    {names : List String}
    (head : Head text names) :
    ∃ first tokens, Head.Reading text first tokens names := by
  cases head with
  | none =>
      have isCut : IsCut anyText ['(', ')'] [.symbol "(", .symbol ")"] := fun _ _ _ => rfl
      refine ⟨.symbol "(", [.symbol ")"], rfl, isCut.weaken (fun _ _ => rfl), ?_⟩
      intro bound rounds context start arrow room passes stands
      obtain ⟨bound, rfl⟩ : ∃ fewer, bound = fewer + 1 := room.exists_bound (by simp)
      exact .noParameters room.noYield rfl passes stands
  | @name word isNamed =>
      refine ⟨.word word false, [], rfl, .word (isWord_of_isIdentifier isNamed), ?_⟩
      intro bound rounds context start arrow room passes stands
      obtain ⟨⟨isWord, _⟩, rfl⟩ := passes
      exact .ofName room.noYield (isName_of_isIdentifier room.noYield isNamed) isWord stands
  | @enclosed word isNamed =>
      have isCut : IsCut anyText ('(' :: (word.toList ++ [')']))
          [.symbol "(", .word word false, .symbol ")"] :=
        .between (by decide) (.word (isWord_of_isIdentifier isNamed)) (by decide) (fun _ => rfl)
      refine ⟨.symbol "(", [.word word false, .symbol ")"], rfl, isCut.weaken (fun _ _ => rfl), ?_⟩
      intro bound rounds context start arrow room passes stands
      obtain ⟨bound, rfl⟩ : ∃ fewer, bound = fewer + 2 := room.exists_bound (by simp)
      obtain ⟨⟨isOpen, _⟩, ⟨isWord, _⟩, ⟨isClosed, _⟩, rfl⟩ := passes
      have value : ((closed (bound + 2) rounds).readAssignment context.enclosed).Gives start.next
          (Build.name word) start.next.next :=
        gives_assignment_name room.noYield rfl isWord
          (isName_of_isIdentifier room.noYield isNamed) (by rw [isClosed]; rfl)
      exact .enclosedName room.noYield rfl isOpen isWord value isClosed stands

/-- The arrow of a function, with the space before it. -/
def arrowMark : List Char :=
  [' ', '=', '>']

theorem isCut_arrowMark :
    IsCut anyText arrowMark [.symbol "=>"] :=
  fun _ _ _ => rfl

/-- Names that are bound are settled. -/
theorem Node.settleAll?_targets
    (names : List String) :
    settleAll? (names.map Build.target) = some (names.map Build.target) := by
  induction names with
  | nil => rfl
  | cons name names inductionHypothesis => exact settleAll?_of_cons rfl inductionHypothesis

/-- An arrow function settles with its statements. -/
theorem Node.settle?_arrow
    {statements settled : List Node}
    (names : List String)
    (settles : settleAll? statements = some settled)
    (head : ArrowHead) :
    (Node.expression (.arrow head) [Build.parameters names, Build.body statements]).settle? =
      some (.expression (.arrow head) [Build.parameters names, Build.body settled]) := by
  have parameters : (Build.parameters names).settle? = some (Build.parameters names) :=
    settle?_of_children (by simp) rfl (settleAll?_targets names) _ _
  have body : (Build.body statements).settle? = some (Build.body settled) :=
    settle?_of_children (by simp) rfl settles _ _
  exact settle?_of_children (by simp) rfl
    (settleAll?_of_cons parameters (settleAll?_of_cons body rfl)) _ _

/-- A chain is a phrase. -/
theorem Chain.Reading.phrase
    {text : List Char}
    {first : Token}
    {tokens : List Token}
    {raw : Node}
    {count : Nat}
    (reading : Chain.Reading text first tokens raw count) :
    Phrase.Reading text first tokens raw := by
  refine ⟨reading.opens.opensItem, reading.isCut.weaken (fun _ => endsWord_of_endsPhrase), ?_⟩
  intro bound rounds context start stop room passes closes
  obtain ⟨bound, rfl⟩ : ∃ fewer, bound = fewer + 1 :=
    room.exists_bound (Nat.lt_of_le_of_lt (Nat.zero_le _) reading.few)
  exact gives_assignment_access ((reading.opensAt passes).isOperand room.noYield) rfl
    (reading.access room passes (Token.endsOperation_of_closes closes)) closes

namespace Phrase

variable
  {content headText : List Char}
  {tree : Node}
  {names : List String}
  {word key : String}

/-- Every name is a phrase, also one that starts no chain. -/
theorem Reading.name
    (isNamed : isIdentifier word) :
    Reading word.toList (.word word false) [] (Build.name word) := by
  have isWord := isWord_of_isIdentifier isNamed
  refine ⟨rfl, (IsCut.word isWord).weaken (fun _ => endsWord_of_endsPhrase), ?_⟩
  intro bound rounds context start stop room passes closes
  obtain ⟨⟨stands, _⟩, rfl⟩ := passes
  obtain ⟨bound, rfl⟩ : ∃ fewer, bound = fewer + 1 := room.exists_bound isWord.length_pos
  exact gives_assignment_name room.noYield rfl stands
    (isName_of_isIdentifier room.noYield isNamed) closes

theorem name
    (isNamed : isIdentifier word) :
    Phrase word.toList (Build.name word) :=
  ⟨_, _, _, .name isNamed, rfl⟩

/-- The value that there is none is a phrase. -/
theorem null :
    Phrase "null".toList Build.null := by
  have isWord : IsWord "null".toList := ⟨by decide +kernel, by decide +kernel, by decide +kernel⟩
  refine ⟨.word "null" false, [], Build.null,
    ⟨rfl, (IsCut.word isWord).weaken (fun _ => endsWord_of_endsPhrase), ?_⟩, rfl⟩
  intro bound rounds context start stop room passes closes
  obtain ⟨⟨stands, _⟩, rfl⟩ := passes
  obtain ⟨bound, rfl⟩ : ∃ fewer, bound = fewer + 1 := room.exists_bound isWord.length_pos
  have ends := Token.endsOperation_of_closes closes
  have operand : IsOperand context start :=
    ⟨by rw [stands]; rfl, room.noYield, .inr ends⟩
  have noAccess := Cursor.isAccess_of_endsOperation ends
  exact gives_assignment_access operand rfl
    (gives_access (gives_primary_null stands) (.none noAccess) (Nat.succ_pos _)) closes

/-- An object with a phrase as its property is a phrase. -/
theorem object
    (isWord : IsWord key.toList)
    (phrase : Phrase content tree) :
    Phrase ('\x7b' :: (key.toList ++ ':' :: ' ' :: (content ++ ['\x7d'])))
      (Build.object key tree) := by
  obtain ⟨first, tokens, raw, reading, settles⟩ := phrase
  have value : IsCut anyText (content ++ ['\x7d']) (first :: (tokens ++ [.symbol "\x7d"])) :=
    reading.isCut.append (.mark (by decide)) (fun _ _ => rfl)
  have property : IsCut anyText (':' :: ' ' :: (content ++ ['\x7d']))
      (.symbol ":" :: first :: (tokens ++ [.symbol "\x7d"])) :=
    (IsCut.mark (by decide)).append (value.indent 1) (fun _ _ => rfl)
  have isCut : IsCut anyText ('\x7b' :: (key.toList ++ ':' :: ' ' :: (content ++ ['\x7d'])))
      (.symbol "\x7b" :: .word key false :: .symbol ":" :: first ::
        (tokens ++ [.symbol "\x7d"])) :=
    (IsCut.mark (by decide)).append ((IsCut.word isWord).append property (fun _ _ => rfl))
      (fun _ _ => rfl)
  refine ⟨_, _, Build.object key raw, ⟨rfl, isCut.weaken (fun _ _ => rfl), ?_⟩, ?_⟩
  · intro bound rounds context start stop room passes closes
    obtain ⟨isOpen, isKey, isColon, passesRest⟩ := passes
    obtain ⟨between, passesText, ⟨isClosed, _⟩, rfl⟩ := passesRest.split_cons
    obtain ⟨rounds, rfl, inner⟩ := room.inside content (by grind)
    obtain ⟨bound, rfl⟩ : ∃ fewer, bound = fewer + 2 := room.exists_bound (by grind)
    have ends := Token.endsOperation_of_closes closes
    have value := reading.gives inner.enclosed passesText (by rw [isClosed]; rfl)
    have operand : IsOperand context start :=
      .ofOther room.noYield (by rw [isOpen.token_eq]; rfl) (by rw [isOpen.token_eq]; rfl)
    have primary : ((closed (bound + 2) (rounds + 1)).readPrimary context).Gives start _ _ :=
      gives_primary_object rfl ⟨isOpen, isKey, isColon, rfl⟩ value isClosed
    exact gives_assignment_access operand rfl
      (gives_access primary (.none (Cursor.isAccess_of_endsOperation ends)) (Nat.succ_pos _)) closes
  · have property : Node.settle? (.part (.property .value false false)
        [.part (.propertyName key), raw]) = some _ :=
      Node.settle?_of_children (by simp) rfl
        (Node.settleAll?_of_cons rfl (Node.settleAll?_of_cons settles rfl)) _ _
    exact Node.settle?_of_children (by simp) rfl (Node.settleAll?_of_cons property rfl) _ _

/-- A word in quotes is a phrase. -/
theorem text
    (isWord : IsWord word.toList) :
    Phrase ('\'' :: (word.toList ++ ['\''])) (Build.text word) := by
  have isCut : IsCut anyText ('\'' :: (word.toList ++ ['\''])) [.string word word] := by
    intro others rest _
    rw [List.cons_append, List.cons_append, List.append_assoc]
    exact textAfter?_text isWord others rest
  refine ⟨.string word word, [], Build.text word, ⟨rfl, isCut.weaken (fun _ _ => rfl), ?_⟩, rfl⟩
  intro bound rounds context start stop room passes closes
  obtain ⟨⟨stands, _⟩, rfl⟩ := passes
  obtain ⟨bound, rfl⟩ : ∃ fewer, bound = fewer + 1 := room.exists_bound (by grind)
  have operand : IsOperand context start :=
    .ofOther room.noYield (by rw [stands]; rfl) (by rw [stands]; rfl)
  have noAccess := Cursor.isAccess_of_endsOperation (Token.endsOperation_of_closes closes)
  exact gives_assignment_access operand rfl
    (gives_access (gives_primary_text stands) (.none noAccess) (Nat.succ_pos _)) closes

/-- A chain with an empty object in its place is a phrase. -/
theorem orEmptyObject
    (chain : Chain content tree) :
    Phrase (content ++ [' ', '|', '|', ' ', '\x7b', '\x7d']) (Build.orEmptyObject tree) := by
  obtain ⟨first, tokens, raw, count, reading, settles⟩ := chain
  have isCut : IsCut anyText [' ', '|', '|', ' ', '\x7b', '\x7d']
      [.symbol "||", .symbol "\x7b", .symbol "\x7d"] :=
    fun _ _ _ => rfl
  refine ⟨first, tokens ++ [.symbol "||", .symbol "\x7b", .symbol "\x7d"],
    Build.orEmptyObject raw,
    ⟨reading.opens.opensItem,
      (reading.isCut.append isCut (fun _ _ => rfl)).weaken (fun _ _ => rfl), ?_⟩,
    Node.settle?_of_children (by simp) rfl (Node.settleAll?_of_cons settles rfl) _ _⟩
  intro bound rounds context start stop room passes closes
  obtain ⟨last, passesText, ⟨isOr, _⟩, passesObject⟩ := passes.split_cons
  obtain ⟨rounds, rfl, inner⟩ := room.inside content (by grind)
  obtain ⟨bound, rfl⟩ : ∃ fewer, bound = fewer + 2 := room.exists_bound (by grind)
  have few : count + 0 < bound + 2 := Nat.lt_of_lt_of_le reading.few inner.bound
  have left := reading.gives (room.within (by simp)) passesText (.none (by rw [isOr]; rfl))
    (by rw [isOr]; rfl) few
  have operand : IsOperand context start := (reading.opensAt passesText).isOperand room.noYield
  have isOpen : last.next.token = .symbol "\x7b" := passesObject.1.token_eq
  have rightOperand : IsOperand context last.next :=
    .ofOther room.noYield (by rw [isOpen]; rfl) (by rw [isOpen]; rfl)
  have ends := Token.endsOperation_of_closes closes
  obtain ⟨right, rightRan, same⟩ :
      ((closed (bound + 2) rounds).readAccess context).Gives last.next Build.emptyObject stop :=
    gives_access (gives_primary_emptyObject rfl passesObject)
      (.none (Cursor.isAccess_of_endsOperation ends)) (Nat.succ_pos _)
  have right : ((closed (bound + 2) rounds).readOperation context LogicalOperator.or.level).Gives
      last.next Build.emptyObject stop :=
    ⟨right, rightOperand.run_readOperation rfl rightRan ends _, same⟩
  exact gives_assignment operand (gives_conditional_or operand rfl left isOr right ends) closes

/-- An arrow function has a phrase as its value that does not look like a body. -/
theorem Reading.arrow
    {first : Token}
    {tokens : List Token}
    {raw : Node}
    (head : Head headText names)
    (reading : Reading content first tokens raw)
    (noBrace : first ≠ .symbol "\x7b")
    (settles : raw.settle? = some tree) :
    Phrase (headText ++ (arrowMark ++ ' ' :: content)) (Build.arrowValue names tree) := by
  obtain ⟨headFirst, headTokens, headReading⟩ := head.exists_reading
  have value : IsCut endsPhrase (arrowMark ++ ' ' :: content) (.symbol "=>" :: first :: tokens) :=
    isCut_arrowMark.append (reading.isCut.indent 1) (fun _ _ => rfl)
  refine ⟨headFirst, headTokens ++ .symbol "=>" :: first :: tokens, Build.arrowValue names raw,
    ⟨headReading.opens, headReading.isCut.append value (fun _ _ => rfl), ?_⟩, ?_⟩
  · intro bound rounds context start stop room passes closes
    obtain ⟨between, passesHead, isArrow, passesText⟩ := passes.split_cons
    obtain ⟨rounds, rfl, inner⟩ := room.inside (headText ++ content) (by grind [arrowMark])
    obtain ⟨bound, rfl⟩ : ∃ fewer, bound = fewer + 1 := room.exists_bound (by grind [arrowMark])
    have isHead := headReading.isHead (inner.within (by simp)) passesHead isArrow
    have value := reading.gives (inner.inArrow.within (by simp)) passesText closes
    have noBody : between.next.isAt "\x7b" = false := by
      rw [Cursor.isAt, passesText.1.token_eq, beq_eq_false_iff_ne]
      exact noBrace
    exact gives_assignment_arrow isHead rfl value noBody
  · have statement : (Build.statement raw).settle? = some (Build.statement tree) :=
      Node.settle?_of_children (by simp) rfl (Node.settleAll?_of_cons settles rfl) _ _
    exact Node.settle?_arrow names (Node.settleAll?_of_cons statement rfl) _

/-- An arrow function with a chain as its value is a phrase. -/
theorem arrow
    (head : Head headText names)
    (chain : Chain content tree) :
    Phrase (headText ++ (arrowMark ++ ' ' :: content)) (Build.arrowValue names tree) := by
  obtain ⟨_, _, _, _, reading, settles⟩ := chain
  exact reading.phrase.arrow head (reading.opens.noBrace (by decide)) settles

/-- An arrow function may have any name as its value. -/
theorem arrowName
    (head : Head headText names)
    (isNamed : isIdentifier word) :
    Phrase (headText ++ (arrowMark ++ ' ' :: word.toList))
      (Build.arrowValue names (Build.name word)) :=
  (Reading.name isNamed).arrow head (by simp) rfl

end Phrase

/-- Names are listed with commas between them. -/
theorem Listed.names
    {names : List String}
    (isFilled : names ≠ [])
    (areNamed : ∀ word ∈ names, isIdentifier word) :
    Listed (", ".intercalate names).toList (names.map Build.name) := by
  rw [String.toList_intercalate]
  induction names with
  | nil => exact (isFilled rfl).elim
  | cons first others inductionHypothesis =>
      have phrase := Phrase.name (areNamed first List.mem_cons_self)
      cases others with
      | nil =>
          rw [List.map_singleton, List.intercalate_singleton]
          exact .last phrase
      | cons second others =>
          have rest := inductionHypothesis (List.cons_ne_nil _ _)
            (fun word isOther => areNamed word (List.mem_cons_of_mem _ isOther))
          rw [List.map_cons, List.map_cons, List.intercalate_cons_cons, List.append_assoc]
          exact .cons phrase 0 1 rest

end Reactivity.Script
