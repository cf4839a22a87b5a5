import Mathlib.Data.List.Forall2
import Reactivity.Proofs.Data.Fields
import Reactivity.Template.Exchange

namespace Reactivity.Template

open Reactivity.Data

/-!
# Reading and writing template nodes

A node is determined by its kind, its texts and its children lists, each under the
name of its field. Both readers and the writer are described by these three parts, so
the seven kinds are told apart only where the parts are defined. What a nested list of
a template holds is then followed by induction on the size of the values.
-/

namespace Node

/-- The kind of a node. -/
def exchangeKind :
    Node →
    NodeKind
  | .text _ => .text
  | .element _ _ => .element
  | .block .each _ => .each
  | .block .slot _ => .slot
  | .block .fragment _ => .fragment
  | .branch _ _ => .branch
  | .awaiting _ _ _ => .awaiting

/-- The text in a field; no kind has more than one such field. -/
def textAt
    (_ : String) :
    Node →
    String
  | .text value => value
  | .element name _ => name
  | _ => ""

/-- The nodes in a field. -/
def nodesAt
    (field : String) :
    Node →
    List Node
  | .text _ => []
  | .element _ children => children
  | .block _ children => children
  | .branch children otherwise => if field = "elseChildren" then otherwise else children
  | .awaiting main resolved rejected =>
      if field = "main" then main else if field = "then" then resolved else rejected

/-- A node is written with its type, its texts and its children lists. -/
theorem encode_eq
    (node : Node) :
    node.encode =
      .record (("type", .text node.exchangeKind.name) ::
        (node.exchangeKind.textNames.map (fun name => (name, .text (node.textAt name))) ++
          node.exchangeKind.listNames.map
            (fun name => (name, .list (encodeNodes (node.nodesAt name)))))) := by
  rcases node with value | ⟨name, children⟩ | ⟨_ | _ | _, children⟩ | ⟨children, otherwise⟩ |
    ⟨main, resolved, rejected⟩ <;>
  simp [encode, exchangeKind, NodeKind.name, NodeKind.textNames, NodeKind.listNames, textAt,
    nodesAt]

end Node

namespace NodeKind

/-- The node of a kind with given texts and children lists. -/
def build
    (texts : String → String)
    (lists : String → List Node) :
    NodeKind →
    Node
  | .text => .text (texts "value")
  | .element => .element (texts "name") (lists "children")
  | .each => .block .each (lists "children")
  | .slot => .block .slot (lists "children")
  | .fragment => .block .fragment (lists "children")
  | .branch => .branch (lists "children") (lists "elseChildren")
  | .awaiting => .awaiting (lists "main") (lists "then") (lists "catch")

variable {texts : String → String} {lists : String → List Node} {kind : NodeKind}

@[simp]
theorem exchangeKind_build :
    (kind.build texts lists).exchangeKind = kind := by
  cases kind <;> rfl

theorem textAt_build :
    ∀ name ∈ kind.textNames, (kind.build texts lists).textAt name = texts name := by
  cases kind <;> simp [textNames, build, Node.textAt]

theorem nodesAt_build :
    ∀ name ∈ kind.listNames, (kind.build texts lists).nodesAt name = lists name := by
  cases kind <;> simp [listNames, build, Node.nodesAt]

/-- A kind is read from its name. -/
@[simp]
theorem ofTag?_name
    {isNested : Bool} :
    ofTag? isNested (.text kind.name) = some kind := by
  cases kind <;> rfl

end NodeKind

/-- The kind that a value gives for a node. -/
def kind?
    (isNested : Bool)
    (value : Value) :
    Option NodeKind :=
  (value.tag? "type").bind (NodeKind.ofTag? isNested)

/-- A reader gives a node exactly when it gives each of its parts. -/
theorem FieldReader.node?_eq_some_iff
    {reader : FieldReader}
    {kind : NodeKind}
    {node : Node} :
    reader.node? kind = some node ↔
      node.exchangeKind = kind ∧
      (∀ name ∈ kind.textNames,
        Value.required? reader.fields name Value.asText? = some (node.textAt name)) ∧
      ∀ name ∈ kind.listNames, reader.children? name = some (node.nodesAt name) := by
  cases kind <;>
  rcases node with value | ⟨name, children⟩ | ⟨_ | _ | _, children⟩ | ⟨children, otherwise⟩ |
    ⟨main, resolved, rejected⟩ <;>
  simp [node?, Node.exchangeKind, NodeKind.textNames, NodeKind.listNames, Node.textAt,
    Node.nodesAt, Option.bind_eq_some_iff]

/-- A reader gives no node exactly when it does not give one of the parts. -/
theorem FieldReader.node?_eq_none_iff
    {reader : FieldReader}
    {kind : NodeKind} :
    reader.node? kind = none ↔
      (∃ name ∈ kind.textNames, Value.required? reader.fields name Value.asText? = none) ∨
      ∃ name ∈ kind.listNames, reader.children? name = none := by
  constructor
  · intro failed
    by_contra readable
    simp only [not_or, not_exists, not_and, ← ne_eq, Option.ne_none_iff_exists'] at readable
    obtain ⟨textual, listed⟩ := readable
    choose! texts textsRead using textual
    choose! lists listsRead using listed
    have built : reader.node? kind = some (kind.build texts lists) := by
      refine node?_eq_some_iff.mpr ⟨NodeKind.exchangeKind_build, ?_, ?_⟩
      · intro name declared
        rw [textsRead name declared, NodeKind.textAt_build name declared]
      · intro name declared
        rw [listsRead name declared, NodeKind.nodesAt_build name declared]
    simp [failed] at built
  · intro unreadable
    by_contra found
    obtain ⟨node, read⟩ := Option.ne_none_iff_exists'.mp found
    obtain ⟨_, textual, listed⟩ := node?_eq_some_iff.mp read
    rcases unreadable with ⟨name, declared, failed⟩ | ⟨name, declared, failed⟩
    · simp [textual name declared] at failed
    · simp [listed name declared] at failed

/-- The fields that a list stands for are read item by item. -/
theorem readFields_zip
    (names : List String)
    (items : List Value) :
    readFields (names.zip items) = names.zip (readItems items) := by
  induction names generalizing items with
  | nil => simp [readFields]
  | cons name names inductionHypothesis =>
      cases items with
      | nil => simp [readFields, readItems]
      | cons item items => simp [readFields, readItems, inductionHypothesis]

/-- The nodes of a field are read from what it holds. -/
theorem children?_readFields
    (fields : List (String × Value))
    (name : String) :
    FieldReader.children? { fields, lists := readFields fields } name =
      Value.optional? fields name [] (readNodes? true) := by
  simp only [FieldReader.children?, Value.optional?]
  induction fields with
  | nil => simp [readFields, Value.lookup?]
  | cons first rest inductionHypothesis =>
      obtain ⟨field, value⟩ := first
      by_cases same : field = name
      · simp [readFields, Value.lookup?, same]
      · simpa [readFields, Value.lookup?, same] using inductionHypothesis

/-- A record and a list that stands for one are read alike. -/
theorem readNode?_eq
    (isNested : Bool)
    (value : Value) :
    readNode? isNested value =
      (kind? isNested value).bind (fun kind =>
        (value.fieldsAs? kind.fieldNames).bind (fun fields =>
          FieldReader.node? { fields, lists := readFields fields } kind)) := by
  cases value with
  | record fields =>
      simp only [readNode?, kind?, Value.tag?, Value.fieldsAs?, Option.bind_eq_bind]
      congr 1
      funext kind
      by_cases single : kind.fieldNames.all (Value.isSingle fields) = true
      · rw [if_pos single, if_pos single, Option.bind_some]
      · rw [if_neg single, if_neg single, Option.bind_none]
  | list items =>
      simp only [readNode?, kind?, Value.tag?, Value.fieldsAs?, Option.bind_eq_bind]
      congr 1
      funext kind
      by_cases fits : items.length ≤ kind.fieldNames.length
      · simp [fits, readFields_zip]
      · simp [fits]
  | _ => simp [readNode?, kind?, Value.tag?]

/-- A node is read from its kind, its texts and its children lists. -/
theorem readNode?_eq_some_iff
    {isNested : Bool}
    {value : Value}
    {node : Node} :
    readNode? isNested value = some node ↔
      kind? isNested value = some node.exchangeKind ∧
      ∃ fields, value.fieldsAs? node.exchangeKind.fieldNames = some fields ∧
        (∀ name ∈ node.exchangeKind.textNames,
          Value.required? fields name Value.asText? = some (node.textAt name)) ∧
        ∀ name ∈ node.exchangeKind.listNames,
          Value.optional? fields name [] (readNodes? true) = some (node.nodesAt name) := by
  simp only [readNode?_eq, Option.bind_eq_some_iff, FieldReader.node?_eq_some_iff,
    children?_readFields]
  constructor
  · rintro ⟨kind, typed, fields, laidOut, rfl, textual, listed⟩
    exact ⟨typed, fields, laidOut, textual, listed⟩
  · rintro ⟨typed, fields, laidOut, textual, listed⟩
    exact ⟨_, typed, fields, laidOut, rfl, textual, listed⟩

/-!
## Reading back
-/

/-- A node is written with each of its fields once. -/
theorem fieldsAs?_encode
    (node : Node) :
    node.encode.fieldsAs? node.exchangeKind.fieldNames =
      some (("type", .text node.exchangeKind.name) ::
        (node.exchangeKind.textNames.map (fun name => (name, .text (node.textAt name))) ++
          node.exchangeKind.listNames.map
            (fun name => (name, .list (encodeNodes (node.nodesAt name)))))) := by
  rw [Node.encode_eq]
  refine Value.fieldsAs?_of_nodup _ ?_
  cases node.exchangeKind <;> simp [NodeKind.textNames, NodeKind.listNames]

/-- A node is read back when its children lists are. -/
theorem readNode?_encode_of_lists
    {isNested : Bool}
    {node : Node}
    (lists : ∀ name ∈ node.exchangeKind.listNames,
      readAll? true (encodeNodes (node.nodesAt name)) = some (node.nodesAt name)) :
    readNode? isNested node.encode = some node := by
  refine readNode?_eq_some_iff.mpr ⟨?_, _, fieldsAs?_encode node, ?_, ?_⟩
  · simp [Node.encode_eq, kind?, Value.tag?, Value.lookup?]
  · cases node.exchangeKind <;>
    simp [NodeKind.textNames, Value.required?, Value.lookup?, Value.asText?]
  · revert lists
    cases node.exchangeKind <;>
    simp +contextual [NodeKind.textNames, NodeKind.listNames, Value.optional?, Value.lookup?,
      readNodes?]

mutual

/-- Reading a node undoes writing it, inside of another node and outside. -/
theorem readNode?_encode
    (isNested : Bool) :
    ∀ node : Node, readNode? isNested node.encode = some node
  | .text value => readNode?_encode_of_lists (by simp [Node.exchangeKind, NodeKind.listNames])
  | .element name children =>
      readNode?_encode_of_lists (fun _ _ => readAll?_encodeNodes true children)
  | .block kind children =>
      readNode?_encode_of_lists (fun _ _ => readAll?_encodeNodes true children)
  | .branch children otherwise =>
      readNode?_encode_of_lists (by
        simp [Node.exchangeKind, NodeKind.listNames, Node.nodesAt,
          readAll?_encodeNodes true children, readAll?_encodeNodes true otherwise])
  | .awaiting main resolved rejected =>
      readNode?_encode_of_lists (by
        simp [Node.exchangeKind, NodeKind.listNames, Node.nodesAt, readAll?_encodeNodes true main,
          readAll?_encodeNodes true resolved, readAll?_encodeNodes true rejected])

/-- Reading a list of nodes undoes writing it. -/
theorem readAll?_encodeNodes
    (isNested : Bool) :
    ∀ nodes : List Node, readAll? isNested (encodeNodes nodes) = some nodes
  | [] => by simp [encodeNodes, readAll?]
  | node :: rest => by
      simp [encodeNodes, readAll?, readNode?_encode isNested node,
        readAll?_encodeNodes isNested rest]

end

/-!
## Faults
-/

/-- What is wrong with a value that stands for a node, not looking into its children lists. -/
inductive Faulty
    (isNested : Bool)
    (value : Value) :
    Prop where
  /-- It is no record and no list, or its type is missing or unknown. -/
  | untyped
      (unknown : kind? isNested value = none)
  /-- It is a list with more items than the node has fields, or a record that repeats one. -/
  | unfit
      {kind : NodeKind}
      (typed : kind? isNested value = some kind)
      (unfit : value.fieldsAs? kind.fieldNames = none)
  /-- A text is missing or is no text. -/
  | textless
      {kind : NodeKind}
      {fields : List (String × Value)}
      {name : String}
      (typed : kind? isNested value = some kind)
      (laidOut : value.fieldsAs? kind.fieldNames = some fields)
      (declared : name ∈ kind.textNames)
      (unread : Value.required? fields name Value.asText? = none)
  /-- A children list is present and is no list. -/
  | listless
      {kind : NodeKind}
      {fields : List (String × Value)}
      {name : String}
      {content : Value}
      (typed : kind? isNested value = some kind)
      (laidOut : value.fieldsAs? kind.fieldNames = some fields)
      (declared : name ∈ kind.listNames)
      (present : Value.lookup? name fields = some content)
      (unread : content.asList? = none)

/-- The value holds these items in one of the children lists that its kind has. -/
def HoldsItems
    (isNested : Bool)
    (value : Value)
    (items : List Value) :
    Prop :=
  ∃ kind fields name,
    kind? isNested value = some kind ∧
    value.fieldsAs? kind.fieldNames = some fields ∧
    name ∈ kind.listNames ∧
    Value.lookup? name fields = some (.list items)

/--
A list reaches a value that stands for a node of it at some depth.

The first flag is for the items of the list and the second one for the value.
-/
inductive Reaches :
    Bool →
    List Value →
    Bool →
    Value →
    Prop where
  | item
      {isNested : Bool}
      {items : List Value}
      {value : Value}
      (member : value ∈ items) :
      Reaches isNested items isNested value
  | within
      {isNested isDeep : Bool}
      {items inner : List Value}
      {owner value : Value}
      (member : owner ∈ items)
      (holds : HoldsItems isNested owner inner)
      (reached : Reaches true inner isDeep value) :
      Reaches isNested items isDeep value

/-- The items of a children list are smaller than the value that holds them. -/
theorem HoldsItems.sizeOf_lt
    {isNested : Bool}
    {value : Value}
    {items : List Value}
    (holds : HoldsItems isNested value items) :
    sizeOf items < sizeOf value := by
  obtain ⟨kind, fields, name, _, laidOut, _, found⟩ := holds
  have smaller := Value.sizeOf_lt_of_lookup? laidOut found
  simp only [Value.list.sizeOf_spec] at smaller
  omega

/-- A list of nodes cannot be read where the value is no list or its items cannot be read. -/
theorem readNodes?_eq_none_iff
    {isNested : Bool}
    {value : Value} :
    readNodes? isNested value = none ↔
      value.asList? = none ∨ ∃ items, value = .list items ∧ readAll? isNested items = none := by
  cases value <;> simp [readNodes?, Value.asList?]

/-- A node cannot be read when it is faulty itself or one of its children lists cannot be read. -/
theorem readNode?_eq_none_iff
    {isNested : Bool}
    {value : Value} :
    readNode? isNested value = none ↔
      Faulty isNested value ∨
        ∃ items, HoldsItems isNested value items ∧ readAll? true items = none := by
  rw [readNode?_eq]
  constructor
  · intro failed
    cases typed : kind? isNested value with
    | none => exact .inl (.untyped typed)
    | some kind =>
        cases laidOut : value.fieldsAs? kind.fieldNames with
        | none => exact .inl (.unfit typed laidOut)
        | some fields =>
            simp only [typed, laidOut, Option.bind_some, FieldReader.node?_eq_none_iff,
              children?_readFields, Value.optional?_eq_none_iff,
              readNodes?_eq_none_iff] at failed
            rcases failed with ⟨name, declared, unread⟩ |
              ⟨name, declared, content, present, unread | ⟨items, rfl, unread⟩⟩
            · exact .inl (.textless typed laidOut declared unread)
            · exact .inl (.listless typed laidOut declared present unread)
            · exact .inr ⟨items, ⟨kind, fields, name, typed, laidOut, declared, present⟩, unread⟩
  · rintro (faulty | ⟨items, ⟨kind, fields, name, typed, laidOut, declared, present⟩, unread⟩)
    · cases faulty with
      | untyped unknown => simp [unknown]
      | unfit typed unfit => simp [typed, unfit]
      | textless typed laidOut declared unread =>
          simp only [typed, laidOut, Option.bind_some, FieldReader.node?_eq_none_iff]
          exact .inl ⟨_, declared, unread⟩
      | listless typed laidOut declared present unread =>
          simp only [typed, laidOut, Option.bind_some, FieldReader.node?_eq_none_iff,
            children?_readFields, Value.optional?_eq_none_iff, readNodes?_eq_none_iff]
          exact .inr ⟨_, declared, _, present, .inl unread⟩
    · simp only [typed, laidOut, Option.bind_some, FieldReader.node?_eq_none_iff,
        children?_readFields, Value.optional?_eq_none_iff, readNodes?_eq_none_iff]
      exact .inr ⟨_, declared, _, present, .inr ⟨items, rfl, unread⟩⟩

/-- A list is read item by item. -/
theorem readAll?_eq_some_iff
    {isNested : Bool}
    {items : List Value}
    {nodes : List Node} :
    readAll? isNested items = some nodes ↔
      List.Forall₂ (fun item node => readNode? isNested item = some node) items nodes := by
  induction items generalizing nodes with
  | nil => simp [readAll?, eq_comm]
  | cons item rest inductionHypothesis =>
      simp only [readAll?, Option.bind_eq_bind, Option.bind_eq_some_iff, Option.pure_def,
        Option.some.injEq, inductionHypothesis, List.forall₂_cons_left_iff]
      constructor
      · rintro ⟨node, read, nodes, readRest, rfl⟩
        exact ⟨node, nodes, read, readRest, rfl⟩
      · rintro ⟨node, nodes, read, readRest, rfl⟩
        exact ⟨node, read, nodes, readRest, rfl⟩

/-- One unreadable item makes a list unreadable. -/
theorem readAll?_eq_none_iff_exists
    {isNested : Bool}
    {items : List Value} :
    readAll? isNested items = none ↔ ∃ item ∈ items, readNode? isNested item = none := by
  induction items with
  | nil => simp [readAll?]
  | cons item rest inductionHypothesis =>
      simp only [List.mem_cons, exists_eq_or_imp, ← inductionHypothesis, readAll?]
      cases readNode? isNested item <;> cases readAll? isNested rest <;> simp

/-- A list that reaches a faulty node is not read. -/
theorem Reaches.readAll?_eq_none
    {isNested isDeep : Bool}
    {items : List Value}
    {value : Value}
    (reached : Reaches isNested items isDeep value)
    (faulty : Faulty isDeep value) :
    readAll? isNested items = none := by
  induction reached with
  | item member =>
      exact readAll?_eq_none_iff_exists.mpr
        ⟨_, member, readNode?_eq_none_iff.mpr (.inl faulty)⟩
  | within member holds _ inductionHypothesis =>
      exact readAll?_eq_none_iff_exists.mpr
        ⟨_, member, readNode?_eq_none_iff.mpr (.inr ⟨_, holds, inductionHypothesis faulty⟩)⟩

/-- A list that is not read reaches a faulty node. -/
theorem exists_faulty_of_readAll?_eq_none
    {isNested : Bool}
    {items : List Value}
    (unread : readAll? isNested items = none) :
    ∃ isDeep value, Reaches isNested items isDeep value ∧ Faulty isDeep value := by
  obtain ⟨owner, member, failed⟩ := readAll?_eq_none_iff_exists.mp unread
  rcases readNode?_eq_none_iff.mp failed with faulty | ⟨inner, holds, innerUnread⟩
  · exact ⟨isNested, owner, .item member, faulty⟩
  · have smaller := holds.sizeOf_lt
    have ownerSmaller := List.sizeOf_lt_of_mem member
    obtain ⟨isDeep, value, reached, faulty⟩ := exists_faulty_of_readAll?_eq_none innerUnread
    exact ⟨isDeep, value, .within member holds reached, faulty⟩
termination_by sizeOf items

/-- Lists of nodes are read as a whole: exactly those without a faulty node at any depth. -/
theorem readAll?_eq_none_iff
    {isNested : Bool}
    {items : List Value} :
    readAll? isNested items = none ↔
      ∃ isDeep value, Reaches isNested items isDeep value ∧ Faulty isDeep value :=
  ⟨exists_faulty_of_readAll?_eq_none,
    fun ⟨_, _, reached, faulty⟩ => reached.readAll?_eq_none faulty⟩

/-!
## Normal forms
-/

/--
A node has a normal form.

It starts with the name of the kind and goes on with the fields of the kind in their
order, and with no others. Texts stay as they are, a children list that is absent is
empty, and the nodes in a children list have their normal forms.
-/
inductive NormalNode :
    Bool →
    Value →
    Value →
    Prop where
  | mk
      {isNested : Bool}
      {value : Value}
      {kind : NodeKind}
      {fields : List (String × Value)}
      {texts : String → String}
      {lists : String → List Value}
      (typed : kind? isNested value = some kind)
      (laidOut : value.fieldsAs? kind.fieldNames = some fields)
      (textual : ∀ name ∈ kind.textNames, Value.lookup? name fields = some (.text (texts name)))
      (absent : ∀ name ∈ kind.listNames, Value.lookup? name fields = none → lists name = [])
      (listed : ∀ name ∈ kind.listNames, ∀ content, Value.lookup? name fields = some content →
        ∃ items, content = .list items)
      (present : ∀ name ∈ kind.listNames, ∀ items,
        Value.lookup? name fields = some (.list items) →
          List.Forall₂ (NormalNode true) items (lists name)) :
      NormalNode isNested value
        (.record (("type", .text kind.name) ::
          (kind.textNames.map (fun name => (name, .text (texts name))) ++
            kind.listNames.map (fun name => (name, .list (lists name))))))

theorem encodeNodes_eq_map
    (nodes : List Node) :
    encodeNodes nodes = nodes.map Node.encode := by
  induction nodes with
  | nil => simp [encodeNodes]
  | cons node rest inductionHypothesis => simp [encodeNodes, inductionHypothesis]

/-- Related lists stay related when their members are related in another way. -/
theorem forall₂_imp_of_mem
    {α β : Type}
    {R S : α → β → Prop}
    {left : List α}
    {right : List β}
    (related : List.Forall₂ R left right)
    (implied : ∀ first second, first ∈ left → R first second → S first second) :
    List.Forall₂ S left right := by
  rw [List.forall₂_iff_zip] at related ⊢
  refine ⟨related.1, fun member => ?_⟩
  exact implied _ _ (List.of_mem_zip member).1 (related.2 member)

/-- A list is read when each item is, and what is written for the items is written for it. -/
theorem exists_readAll?_of_forall₂
    {isNested : Bool}
    {items written : List Value}
    (readEach : List.Forall₂ (fun item writtenItem =>
      ∃ node, readNode? isNested item = some node ∧ node.encode = writtenItem) items written) :
    ∃ nodes, readAll? isNested items = some nodes ∧ encodeNodes nodes = written := by
  induction readEach with
  | nil => exact ⟨[], by simp [readAll?], by simp [encodeNodes]⟩
  | cons itemRead _ inductionHypothesis =>
      obtain ⟨node, read, rfl⟩ := itemRead
      obtain ⟨nodes, readRest, rfl⟩ := inductionHypothesis
      exact ⟨node :: nodes, by simp [readAll?, read, readRest], by simp [encodeNodes]⟩

/-- What is written for a node that was read is a normal form of the value. -/
theorem normalNode_encode
    {isNested : Bool}
    {value : Value}
    {node : Node}
    (read : readNode? isNested value = some node) :
    NormalNode isNested value node.encode := by
  obtain ⟨typed, fields, laidOut, textual, listed⟩ := readNode?_eq_some_iff.mp read
  rw [Node.encode_eq]
  refine .mk typed laidOut ?_ ?_ ?_ ?_
  · intro name declared
    obtain ⟨content, found, isText⟩ := Value.required?_eq_some_iff.mp (textual name declared)
    rw [found, Value.asText?_eq_some_iff.mp isText]
  · intro name declared missing
    have empty := listed name declared
    simp only [Value.optional?, missing, Option.some.injEq] at empty
    simp [← empty, encodeNodes]
  · intro name declared content found
    have readable := listed name declared
    simp only [Value.optional?, found] at readable
    cases content <;> simp [readNodes?] at readable ⊢
  · intro name declared items found
    have smaller := HoldsItems.sizeOf_lt ⟨_, fields, name, typed, laidOut, declared, found⟩
    have itemsRead := listed name declared
    simp only [Value.optional?, found, readNodes?] at itemsRead
    rw [encodeNodes_eq_map, List.forall₂_map_right_iff]
    refine forall₂_imp_of_mem (readAll?_eq_some_iff.mp itemsRead) ?_
    intro item node member itemRead
    have itemSmaller := List.sizeOf_lt_of_mem member
    exact normalNode_encode itemRead
termination_by sizeOf value

/-- A value with a normal form is read, and the normal form is written for it. -/
theorem NormalNode.exists_read
    {isNested : Bool}
    {value written : Value}
    (normal : NormalNode isNested value written) :
    ∃ node, readNode? isNested value = some node ∧ node.encode = written := by
  obtain @⟨_, _, kind, fields, texts, lists, typed, laidOut, textual, absent, listed, present⟩ :=
    normal
  have nodesRead : ∀ name ∈ kind.listNames, ∃ nodes,
      Value.optional? fields name [] (readNodes? true) = some nodes ∧
        encodeNodes nodes = lists name := by
    intro name declared
    cases found : Value.lookup? name fields with
    | none =>
        exact ⟨[], by simp [Value.optional?, found],
          by simp [encodeNodes, absent name declared found]⟩
    | some content =>
        obtain ⟨items, rfl⟩ := listed name declared content found
        have smaller := HoldsItems.sizeOf_lt ⟨kind, fields, name, typed, laidOut, declared, found⟩
        simp only [Value.optional?, found, readNodes?]
        refine exists_readAll?_of_forall₂ ?_
        refine forall₂_imp_of_mem (present name declared items found) ?_
        intro item writtenItem member itemNormal
        have itemSmaller := List.sizeOf_lt_of_mem member
        exact exists_read itemNormal
  choose! nodes nodesRead nodesWritten using nodesRead
  refine ⟨kind.build texts nodes, ?_, ?_⟩
  · refine readNode?_eq_some_iff.mpr ?_
    rw [NodeKind.exchangeKind_build]
    refine ⟨typed, fields, laidOut, ?_, ?_⟩
    · intro name declared
      rw [NodeKind.textAt_build name declared]
      simp [Value.required?, textual name declared, Value.asText?]
    · intro name declared
      rw [NodeKind.nodesAt_build name declared, nodesRead name declared]
  · rw [Node.encode_eq, NodeKind.exchangeKind_build]
    congr 3
    · refine List.map_congr_left fun name declared => ?_
      rw [NodeKind.textAt_build name declared]
    · refine List.map_congr_left fun name declared => ?_
      rw [NodeKind.nodesAt_build name declared, nodesWritten name declared]
termination_by sizeOf value

/-- The values with a normal form are those that are read; it is what is written for them. -/
theorem normalNode_iff
    {isNested : Bool}
    {value written : Value} :
    NormalNode isNested value written ↔
      ∃ node, readNode? isNested value = some node ∧ node.encode = written := by
  refine ⟨NormalNode.exists_read, ?_⟩
  rintro ⟨node, read, rfl⟩
  exact normalNode_encode read

/-- Values that are written one by one for others get one level deeper at most. -/
theorem itemsDepth_le_of_forall₂
    {items written : List Value}
    (deeper : List.Forall₂ (fun item writtenItem => writtenItem.depth ≤ item.depth + 1)
      items written) :
    Value.itemsDepth written ≤ Value.itemsDepth items + 1 := by
  induction deeper with
  | nil => simp [Value.itemsDepth]
  | cons itemDeeper _ inductionHypothesis =>
      simp only [Value.itemsDepth]
      omega

/-- The normal form of a node is one level deeper at most. -/
theorem NormalNode.depth_le
    {isNested : Bool}
    {value written : Value}
    (normal : NormalNode isNested value written) :
    written.depth ≤ value.depth + 1 := by
  obtain @⟨_, _, kind, fields, texts, lists, typed, laidOut, textual, absent, listed, present⟩ :=
    normal
  have nested := Value.depth_pos_of_fieldsAs? laidOut
  have listDepth : ∀ name ∈ kind.listNames, (Value.list (lists name)).depth ≤ value.depth := by
    intro name declared
    rw [Value.depth]
    cases found : Value.lookup? name fields with
    | none =>
        rw [absent name declared found, Value.itemsDepth]
        omega
    | some content =>
        obtain ⟨items, rfl⟩ := listed name declared content found
        have smaller := HoldsItems.sizeOf_lt ⟨kind, fields, name, typed, laidOut, declared, found⟩
        have shallower := Value.depth_lt_of_lookup? laidOut found
        have deeper := itemsDepth_le_of_forall₂ (forall₂_imp_of_mem
          (present name declared items found) (fun item writtenItem member itemNormal =>
            have itemSmaller := List.sizeOf_lt_of_mem member
            depth_le itemNormal))
        rw [Value.depth] at shallower
        omega
  rw [Value.depth, Nat.add_le_add_iff_right, Value.fieldsDepth_le_iff]
  simp only [List.forall_mem_cons, List.forall_mem_append, List.forall_mem_map]
  exact ⟨Nat.zero_le _, fun _ _ => Nat.zero_le _, listDepth⟩
termination_by sizeOf value

/-!
## Documents
-/

/-- A list of nodes has the list of their normal forms as its normal form. -/
inductive NormalNodes :
    Value →
    Value →
    Prop where
  | mk
      {items written : List Value}
      (normal : List.Forall₂ (NormalNode false) items written) :
      NormalNodes (.list items) (.list written)

/-- The exchange of nodes is faithful. -/
theorem faithful_node :
    Faithful Node.encode decodeNode? (NormalDocument (NormalNode false)) :=
  .of_document (readNode?_encode false) (fun _ _ => normalNode_iff)
    (fun _ _ => NormalNode.depth_le)

/-- The exchange of lists of nodes is faithful. -/
theorem faithful_nodes :
    Faithful (fun nodes => .list (encodeNodes nodes)) decodeNodes?
      (NormalDocument NormalNodes) := by
  refine .of_document (readAll?_encodeNodes false) ?_ ?_
  · intro value written
    constructor
    · rintro ⟨normal⟩
      obtain ⟨nodes, read, rfl⟩ :=
        exists_readAll?_of_forall₂ (normal.imp fun _ _ => NormalNode.exists_read)
      exact ⟨nodes, read, rfl⟩
    · rintro ⟨nodes, read, rfl⟩
      cases value with
      | list items =>
          refine .mk ?_
          rw [encodeNodes_eq_map, List.forall₂_map_right_iff]
          exact (readAll?_eq_some_iff.mp read).imp fun _ _ => normalNode_encode
      | _ => simp [readNodes?] at read
  · rintro _ _ ⟨normal⟩
    have deeper := itemsDepth_le_of_forall₂ (normal.imp fun _ _ => NormalNode.depth_le)
    simp only [Value.depth]
    omega

mutual

/-- How many nodes are nested in a node, itself included. -/
def Node.height :
    Node →
    Nat
  | .text _ => 1
  | .element _ children => heightAll children + 1
  | .block _ children => heightAll children + 1
  | .branch children otherwise => max (heightAll children) (heightAll otherwise) + 1
  | .awaiting main resolved rejected =>
      max (heightAll main) (max (heightAll resolved) (heightAll rejected)) + 1

/-- How many nodes are nested in some nodes. -/
def heightAll :
    List Node →
    Nat
  | [] => 0
  | node :: rest => max node.height (heightAll rest)

end

mutual

/-- A node is written with a record for each node around another, and a list between the two. -/
theorem Node.depth_encode :
    ∀ node : Node,
      node.encode.depth ≤ 2 * node.height ∧ 2 * node.height ≤ node.encode.depth + 1
  | .text value => by
      simp [Node.encode, Node.height, Value.depth, Value.fieldsDepth]
  | .element name children => by
      have bounds := itemsDepth_encodeNodes children
      simp only [Node.encode, Node.height, Value.depth, Value.fieldsDepth]
      omega
  | .block kind children => by
      have bounds := itemsDepth_encodeNodes children
      cases kind <;>
      · simp only [Node.encode, Node.height, Value.depth, Value.fieldsDepth]
        omega
  | .branch children otherwise => by
      have bounds := itemsDepth_encodeNodes children
      have otherBounds := itemsDepth_encodeNodes otherwise
      simp only [Node.encode, Node.height, Value.depth, Value.fieldsDepth]
      omega
  | .awaiting main resolved rejected => by
      have bounds := itemsDepth_encodeNodes main
      have resolvedBounds := itemsDepth_encodeNodes resolved
      have rejectedBounds := itemsDepth_encodeNodes rejected
      simp only [Node.encode, Node.height, Value.depth, Value.fieldsDepth]
      omega

theorem itemsDepth_encodeNodes :
    ∀ nodes : List Node,
      Value.itemsDepth (encodeNodes nodes) ≤ 2 * heightAll nodes ∧
        2 * heightAll nodes ≤ Value.itemsDepth (encodeNodes nodes) + 1
  | [] => by
      simp [encodeNodes, heightAll, Value.itemsDepth]
  | node :: rest => by
      have bounds := node.depth_encode
      have restBounds := itemsDepth_encodeNodes rest
      simp only [encodeNodes, heightAll, Value.itemsDepth]
      omega

end

/-- A list of nodes can be read back exactly if few enough nodes are nested in it. -/
theorem isShallow_encodeNodes
    (nodes : List Node) :
    (Value.list (encodeNodes nodes)).isShallow ↔ heightAll nodes ≤ 63 := by
  have bounds := itemsDepth_encodeNodes nodes
  rw [Value.isShallow, decide_eq_true_iff, Value.nestingLimit, Value.depth]
  omega

/-- A document of a list is not read if it is nested too deep or reaches a faulty node. -/
theorem decodeNodes?_eq_none_iff
    {items : List Value} :
    decodeNodes? (.list items) = none ↔
      (Value.list items).isShallow = false ∨
        ∃ isNested value, Reaches false items isNested value ∧ Faulty isNested value := by
  rw [← readAll?_eq_none_iff, decodeNodes?, readNodes?]
  cases (Value.list items).isShallow <;> simp

end Reactivity.Template
