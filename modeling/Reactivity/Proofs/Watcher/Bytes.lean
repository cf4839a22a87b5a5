import Reactivity.Proofs.Script.WellFormed

namespace Reactivity.Script

/-!
# Ranges of bytes

A text is kept in UTF-8, and a range can be counted in bytes instead of characters. Such a
range can lie outside of the text, have its ends in the wrong order or end inside of a
character, and then nothing can be cut out of the text. Every other range cuts the text in
three, and corresponds to a range of characters.
-/

/-- The ends of a range of bytes are boundaries of characters of a text, in order. -/
def Span.IsWithin
    (span : Span)
    (text : String) :
    Prop :=
  String.Pos.Raw.IsValid text ⟨span.start⟩ ∧ String.Pos.Raw.IsValid text ⟨span.stop⟩ ∧
    span.start ≤ span.stop

instance
    (span : Span)
    (text : String) :
    Decidable (span.IsWithin text) :=
  inferInstanceAs (Decidable (_ ∧ _ ∧ _))

/-- Cut a range of bytes out of a text. -/
def Span.cut?
    (text : String)
    (span : Span) :
    Option String :=
  if within : span.IsWithin text then
    some (String.extract ⟨⟨span.start⟩, within.1⟩ ⟨⟨span.stop⟩, within.2.1⟩)
  else
    Option.none

/-- The number of characters of a text before a byte. -/
def characterIndex :
    List Char →
    Nat →
    Nat
  | [], _ => 0
  | character :: rest, offset =>
      if offset = 0 then 0 else characterIndex rest (offset - character.utf8Size) + 1

/-- The same range with other positions. -/
def Span.map
    (position : Nat → Nat)
    (span : Span) :
    Span where
  start := position span.start
  stop := position span.stop

namespace Node

mutual

/-- The same tree with other positions. -/
def mapPositions
    (position : Nat → Nat) :
    Node →
    Node
  | .mk form role span children =>
      .mk form role (span.map position) (mapAllPositions position children)

/-- The same trees with other positions. -/
def mapAllPositions
    (position : Nat → Nat) :
    List Node →
    List Node
  | [] => []
  | node :: nodes => mapPositions position node :: mapAllPositions position nodes

end

/-- A tree whose positions are counted in bytes of a text, with positions counted in characters. -/
def inCharacters
    (text : String)
    (node : Node) :
    Node :=
  node.mapPositions (characterIndex text.toList)

theorem mapAllPositions_eq_map
    (position : Nat → Nat)
    (nodes : List Node) :
    mapAllPositions position nodes = nodes.map (mapPositions position) := by
  induction nodes with
  | nil => rfl
  | cons node nodes inductionHypothesis =>
      rw [mapAllPositions, inductionHypothesis, List.map_cons]

theorem mapPositions_mk
    (position : Nat → Nat)
    (form : Form)
    (role : Role)
    (span : Span)
    (children : List Node) :
    (Node.mk form role span children).mapPositions position =
      .mk form role (span.map position) (children.map (mapPositions position)) := by
  rw [mapPositions, mapAllPositions_eq_map]

@[simp]
theorem form_mapPositions
    (position : Nat → Nat)
    (node : Node) :
    (node.mapPositions position).form = node.form := by
  cases node
  rfl

@[simp]
theorem span_mapPositions
    (position : Nat → Nat)
    (node : Node) :
    (node.mapPositions position).span = node.span.map position := by
  cases node
  rfl

end Node

/-- Two ways to split a text at the same byte are the same. -/
theorem split_unique
    {first second firstRest secondRest : String}
    (same : first ++ firstRest = second ++ secondRest)
    (size : first.utf8ByteSize = second.utf8ByteSize) :
    first = second ∧ firstRest = secondRest := by
  have bytes := congrArg String.toByteArray same
  rw [String.toByteArray_append, String.toByteArray_append] at bytes
  have sameFirst : first = second :=
    String.toByteArray_inj.mp (ByteArray.append_inj_left bytes size)
  subst sameFirst
  exact ⟨rfl, (String.append_right_inj first).mp same⟩

namespace Span

/-- The part between two others is cut out by its range. -/
theorem cut?_append
    (before middle after : String) :
    cut? (before ++ middle ++ after)
        ⟨before.utf8ByteSize, before.utf8ByteSize + middle.utf8ByteSize⟩ =
      some middle := by
  have startValid :
      String.Pos.Raw.IsValid (before ++ middle ++ after) ⟨before.utf8ByteSize⟩ :=
    String.Pos.Raw.isValid_iff_exists_append.mpr
      ⟨before, middle ++ after, String.append_assoc .., rfl⟩
  have stopValid :
      String.Pos.Raw.IsValid (before ++ middle ++ after)
        ⟨before.utf8ByteSize + middle.utf8ByteSize⟩ :=
    String.Pos.Raw.isValid_iff_exists_append.mpr
      ⟨before ++ middle, after, rfl, by simp [String.Pos.Raw.ext_iff]⟩
  have noMore :
      before.toByteArray.extract before.toByteArray.size
          (before.toByteArray.size + middle.toByteArray.size) =
        .empty :=
    ByteArray.extract_eq_empty_iff.mpr (Nat.min_le_right _ _)
  rw [cut?, dif_pos ⟨startValid, stopValid, Nat.le_add_right ..⟩, Option.some_inj,
    ← String.toByteArray_inj, String.toByteArray_extract]
  simp [ByteArray.extract_append, ← String.size_toByteArray, noMore]

/-- A range within a text cuts it in three. -/
theorem IsWithin.exists_parts
    {text : String}
    {span : Span}
    (within : span.IsWithin text) :
    ∃ before middle after,
      text = before ++ middle ++ after ∧
        span = ⟨before.utf8ByteSize, before.utf8ByteSize + middle.utf8ByteSize⟩ := by
  obtain ⟨start, stop⟩ := span
  obtain ⟨startValid, stopValid, ordered⟩ := within
  obtain ⟨before, behind, rfl, isStart⟩ :=
    String.Pos.Raw.isValid_iff_exists_append.mp startValid
  obtain rfl : start = before.utf8ByteSize := congrArg String.Pos.Raw.byteIdx isStart
  rcases String.Pos.Raw.isValid_append.mp stopValid with inside | ⟨_, inside⟩
  · have noLater : stop ≤ before.utf8ByteSize := inside.le_utf8ByteSize
    refine ⟨before, "", behind, by simp, ?_⟩
    have isStop : stop = before.utf8ByteSize := Nat.le_antisymm noLater ordered
    simp [isStop]
  · obtain ⟨middle, after, rfl, isStop⟩ := String.Pos.Raw.isValid_iff_exists_append.mp inside
    have size : stop - before.utf8ByteSize = middle.utf8ByteSize :=
      congrArg String.Pos.Raw.byteIdx isStop
    refine ⟨before, middle, after, (String.append_assoc ..).symm, ?_⟩
    have isStop : stop = before.utf8ByteSize + middle.utf8ByteSize := by
      dsimp only at ordered
      omega
    rw [isStop]

/-- What is cut out of a text stands between two other parts of it. -/
theorem cut?_eq_some_iff
    {text middle : String}
    {span : Span} :
    span.cut? text = some middle ↔
      ∃ before after,
        text = before ++ middle ++ after ∧
          span = ⟨before.utf8ByteSize, before.utf8ByteSize + middle.utf8ByteSize⟩ := by
  constructor
  · intro isCut
    by_cases within : span.IsWithin text
    · obtain ⟨before, found, after, rfl, rfl⟩ := within.exists_parts
      obtain rfl : found = middle := Option.some.inj ((cut?_append ..).symm.trans isCut)
      exact ⟨before, after, rfl, rfl⟩
    · rw [cut?, dif_neg within] at isCut
      cases isCut
  · rintro ⟨before, after, rfl, rfl⟩
    exact cut?_append before middle after

theorem IsWithin.exists_cut
    {text : String}
    {span : Span}
    (within : span.IsWithin text) :
    ∃ middle, span.cut? text = some middle := by
  obtain ⟨before, middle, after, parts⟩ := within.exists_parts
  exact ⟨middle, cut?_eq_some_iff.mpr ⟨before, after, parts⟩⟩

/-- Of two ranges one behind the other, the texts are put together. -/
theorem cut?_concat
    {text first second : String}
    {start middle stop : Nat}
    (firstCut : cut? text ⟨start, middle⟩ = some first)
    (secondCut : cut? text ⟨middle, stop⟩ = some second) :
    cut? text ⟨start, stop⟩ = some (first ++ second) := by
  obtain ⟨before, behind, rfl, isFirst⟩ := cut?_eq_some_iff.mp firstCut
  obtain ⟨before', after, parts, isSecond⟩ := cut?_eq_some_iff.mp secondCut
  cases isFirst
  obtain ⟨isMiddle, rfl⟩ := Span.mk.inj isSecond
  obtain ⟨rfl, rfl⟩ :=
    split_unique (parts.trans String.append_assoc) (by simpa using isMiddle)
  refine cut?_eq_some_iff.mpr ⟨before, after, by simp [String.append_assoc], ?_⟩
  simp [Nat.add_assoc]

end Span

/-- The characters before a boundary are counted. -/
theorem characterIndex_append
    (before after : List Char) :
    characterIndex (before ++ after) (String.ofList before).utf8ByteSize = before.length := by
  induction before with
  | nil =>
      cases after <;> simp [characterIndex]
  | cons character rest inductionHypothesis =>
      have size : (String.ofList (character :: rest)).utf8ByteSize =
          character.utf8Size + (String.ofList rest).utf8ByteSize := by
        rw [← List.singleton_append, String.ofList_append, String.utf8ByteSize_append]
        simp
      have positive := character.utf8Size_pos
      rw [List.cons_append, characterIndex, size, if_neg (by omega), Nat.add_sub_cancel_left,
        inductionHypothesis, List.length_cons]

/-- What a range of bytes cuts out of a text are the characters of the corresponding range. -/
theorem Span.text_of_cut?
    {text middle : String}
    {span : Span}
    (isCut : span.cut? text = some middle) :
    (span.map (characterIndex text.toList)).text text.toList = middle := by
  obtain ⟨before, after, rfl, rfl⟩ := cut?_eq_some_iff.mp isCut
  have isStart :
      characterIndex (before ++ middle ++ after).toList before.utf8ByteSize =
        before.toList.length := by
    have counted := characterIndex_append before.toList (middle ++ after).toList
    rw [String.ofList_toList] at counted
    rw [String.append_assoc, String.toList_append, counted]
  have isStop :
      characterIndex (before ++ middle ++ after).toList
          (before.utf8ByteSize + middle.utf8ByteSize) =
        before.toList.length + middle.toList.length := by
    have counted := characterIndex_append (before ++ middle).toList after.toList
    rw [String.ofList_toList, String.utf8ByteSize_append] at counted
    rw [String.toList_append, counted, String.toList_append, List.length_append]
  rw [Span.map, isStart, isStop, Span.text, Span.slice]
  simp

end Reactivity.Script
