import Mathlib.Data.List.Basic
import Reactivity.Data.Value

namespace Reactivity.Data

/-!
# Reading fields

What is found in a field of a value is smaller than the value, so a value can be
followed into its fields by induction on its size. The exchange of a type of subjects
is faithful when reading undoes writing and writing what was read gives a normal form, as
far as the documents are not nested too deep to be read.
-/

namespace Value

/-- A field that is found is one of the fields. -/
theorem mem_of_lookup?
    {name : String}
    {fields : List (String × Value)}
    {content : Value}
    (found : lookup? name fields = some content) :
    (name, content) ∈ fields := by
  induction fields with
  | nil => simp [lookup?] at found
  | cons first rest inductionHypothesis =>
      obtain ⟨field, value⟩ := first
      by_cases same : field = name
      · simp only [lookup?, same, if_true, Option.some.injEq] at found
        simp [same, found]
      · simp only [lookup?, same, if_false] at found
        exact List.mem_cons_of_mem _ (inductionHypothesis found)

/-- The fields of a value are those of a record, or the items of a list are their values. -/
theorem fieldsAs?_eq_some
    {names : List String}
    {value : Value}
    {fields : List (String × Value)}
    (laidOut : value.fieldsAs? names = some fields) :
    value = .record fields ∨ ∃ items, value = .list items ∧ fields = names.zip items := by
  cases value with
  | record known =>
      simp only [fieldsAs?, Option.ite_none_right_eq_some, Option.some.injEq] at laidOut
      exact .inl (congrArg record laidOut.2)
  | list items =>
      simp only [fieldsAs?, Option.ite_none_right_eq_some, Option.some.injEq] at laidOut
      exact .inr ⟨items, rfl, laidOut.2.symm⟩
  | _ => simp [fieldsAs?] at laidOut

/-- A record in which all names are different can be read with any known fields. -/
theorem fieldsAs?_of_nodup
    (names : List String)
    {fields : List (String × Value)}
    (nodup : (fields.map Prod.fst).Nodup) :
    (record fields).fieldsAs? names = some fields := by
  refine if_pos (List.all_eq_true.mpr fun name _ => ?_)
  have counted := List.nodup_iff_count.mp nodup name
  rw [List.count, List.countP_map] at counted
  exact decide_eq_true counted

/-- What a field of a value holds is smaller than the value. -/
theorem sizeOf_lt_of_lookup?
    {names : List String}
    {value content : Value}
    {name : String}
    {fields : List (String × Value)}
    (laidOut : value.fieldsAs? names = some fields)
    (found : lookup? name fields = some content) :
    sizeOf content < sizeOf value := by
  have member := mem_of_lookup? found
  rcases fieldsAs?_eq_some laidOut with rfl | ⟨items, rfl, rfl⟩
  · have smaller := List.sizeOf_lt_of_mem member
    simp only [Prod.mk.sizeOf_spec, record.sizeOf_spec] at smaller ⊢
    omega
  · have smaller := List.sizeOf_lt_of_mem (List.of_mem_zip member).2
    simp only [list.sizeOf_spec]
    omega

/-- Values are nested as deep as the deepest of them. -/
theorem itemsDepth_le_iff
    {items : List Value}
    {bound : Nat} :
    itemsDepth items ≤ bound ↔ ∀ item ∈ items, item.depth ≤ bound := by
  induction items with
  | nil => simp [itemsDepth]
  | cons item rest inductionHypothesis =>
      rw [itemsDepth, Nat.max_le, inductionHypothesis, List.forall_mem_cons]

/-- Fields are nested as deep as the deepest of their values. -/
theorem fieldsDepth_le_iff
    {fields : List (String × Value)}
    {bound : Nat} :
    fieldsDepth fields ≤ bound ↔ ∀ field ∈ fields, field.2.depth ≤ bound := by
  induction fields with
  | nil => simp [fieldsDepth]
  | cons field rest inductionHypothesis =>
      rw [fieldsDepth, Nat.max_le, inductionHypothesis, List.forall_mem_cons]

/-- In a list of texts nothing else is nested. -/
theorem depth_ofTexts
    (texts : List String) :
    (ofTexts texts).depth = 1 := by
  have flat : itemsDepth (texts.map .text) ≤ 0 := by
    rw [itemsDepth_le_iff, List.forall_mem_map]
    exact fun _ _ => Nat.le_refl 0
  rw [ofTexts, depth, Nat.le_zero.mp flat]

/-- What a field of a value holds is nested less deep than the value. -/
theorem depth_lt_of_lookup?
    {names : List String}
    {value content : Value}
    {name : String}
    {fields : List (String × Value)}
    (laidOut : value.fieldsAs? names = some fields)
    (found : lookup? name fields = some content) :
    content.depth < value.depth := by
  have member := mem_of_lookup? found
  rcases fieldsAs?_eq_some laidOut with rfl | ⟨items, rfl, rfl⟩
  · rw [depth]
    exact Nat.lt_succ_of_le (fieldsDepth_le_iff.mp (Nat.le_refl _) _ member)
  · rw [depth]
    exact Nat.lt_succ_of_le (itemsDepth_le_iff.mp (Nat.le_refl _) _ (List.of_mem_zip member).2)

/-- A value with fields is nested. -/
theorem depth_pos_of_fieldsAs?
    {names : List String}
    {value : Value}
    {fields : List (String × Value)}
    (laidOut : value.fieldsAs? names = some fields) :
    0 < value.depth := by
  rcases fieldsAs?_eq_some laidOut with rfl | ⟨items, rfl, rfl⟩
  · exact Nat.succ_pos _
  · exact Nat.succ_pos _

/-- A text is read from a text. -/
theorem asText?_eq_some_iff
    {value : Value}
    {text : String} :
    value.asText? = some text ↔ value = .text text := by
  cases value <;> simp [asText?]

/-- A truth value is read from a boolean. -/
theorem asBoolean?_eq_some_iff
    {value : Value}
    {truth : Bool} :
    value.asBoolean? = some truth ↔ value = .boolean truth := by
  cases value <;> simp [asBoolean?]

/-- Texts are read from the list of these texts. -/
theorem asTexts?_eq_some_iff
    {value : Value}
    {texts : List String} :
    value.asTexts? = some texts ↔ value = .ofTexts texts := by
  have items_iff : ∀ items : List Value,
      items.mapM asText? = some texts ↔ items = texts.map .text := by
    induction texts with
    | nil =>
        intro items
        cases items with
        | nil => simp
        | cons first rest =>
            simp only [List.mapM_cons, Option.bind_eq_bind, Option.pure_def, List.map_nil]
            cases first.asText? <;> cases List.mapM asText? rest <;> simp
    | cons text texts inductionHypothesis =>
        intro items
        cases items with
        | nil => simp
        | cons first rest =>
            simp [List.mapM_cons, Option.bind_eq_some_iff, inductionHypothesis,
              asText?_eq_some_iff]
  cases value <;> simp [asTexts?, asList?, ofTexts, items_iff]

@[simp]
theorem asTexts?_ofTexts
    {texts : List String} :
    (ofTexts texts).asTexts? = some texts :=
  asTexts?_eq_some_iff.mpr rfl

/-- A field that has to be present is read from what it holds. -/
theorem required?_eq_some_iff
    {α : Type}
    {fields : List (String × Value)}
    {name : String}
    {decode : Value → Option α}
    {subject : α} :
    required? fields name decode = some subject ↔
      ∃ content, lookup? name fields = some content ∧ decode content = some subject := by
  simp [required?, Option.bind_eq_some_iff]

/-- A field with a default is read as if the default stood in it. -/
theorem optional?_eq_some_iff_getD
    {α : Type}
    {fields : List (String × Value)}
    {name : String}
    {absent subject : α}
    {encode : α → Value}
    {decode : Value → Option α}
    (decode_iff : ∀ {value subject}, decode value = some subject ↔ value = encode subject) :
    optional? fields name absent decode = some subject ↔
      (lookup? name fields).getD (encode absent) = encode subject := by
  rw [← decode_iff]
  unfold optional?
  cases lookup? name fields with
  | none => simp [decode_iff.mpr rfl]
  | some content => simp

/-- A field with a default cannot be read when what it holds cannot. -/
theorem optional?_eq_none_iff
    {α : Type}
    {fields : List (String × Value)}
    {name : String}
    {absent : α}
    {decode : Value → Option α} :
    optional? fields name absent decode = none ↔
      ∃ content, lookup? name fields = some content ∧ decode content = none := by
  unfold optional?
  cases lookup? name fields <;> simp

end Value

/--
The exchange of a type of subjects is faithful.

`Normal` relates a document to its normal form. A document that is nested too deep cannot
be read, and this is all that may be in the way of a subject or of a normal form.
-/
structure Faithful
    {α : Type}
    (encode : α → Value)
    (decode? : Value → Option α)
    (Normal : Value → Value → Prop) :
    Prop where
  /-- Reading undoes writing, unless what is written is nested too deep to be read. -/
  reads_back : ∀ subject,
    decode? (encode subject) = if (encode subject).isShallow then some subject else none
  /-- The values with a normal form are those that can be read; it is what is written then. -/
  normal_iff : ∀ value written,
    Normal value written ↔ ∃ subject, decode? value = some subject ∧ encode subject = written
  /-- A normal form is nested at most one level deeper than the value. -/
  depth_le : ∀ value written, Normal value written → written.depth ≤ value.depth + 1
  /-- If it can be read, it is read like the value and is its own only normal form. -/
  stable : ∀ value written, Normal value written → written.isShallow →
    decode? written = decode? value ∧ ∀ again, Normal written again ↔ again = written

variable
  {α : Type}
  {encode : α → Value}
  {decode? : Value → Option α}
  {Normal : Value → Value → Prop}

/-- A normal form is stable where reading undoes writing. -/
theorem Faithful.of_reads_back
    (reads_back : ∀ subject,
      decode? (encode subject) = if (encode subject).isShallow then some subject else none)
    (normal_iff : ∀ value written,
      Normal value written ↔ ∃ subject, decode? value = some subject ∧ encode subject = written)
    (depth_le : ∀ value written, Normal value written → written.depth ≤ value.depth + 1) :
    Faithful encode decode? Normal where
  reads_back := reads_back
  normal_iff := normal_iff
  depth_le := depth_le
  stable := by
    intro value written normal isShallow
    obtain ⟨subject, decoded, rfl⟩ := (normal_iff value written).mp normal
    have readBack : decode? (encode subject) = some subject := by
      rw [reads_back, if_pos isShallow]
    refine ⟨by rw [readBack, decoded], fun again => ?_⟩
    rw [normal_iff, readBack]
    simp [eq_comm]

/-- A document has a normal form only if it is not nested too deep. -/
structure NormalDocument
    (Normal : Value → Value → Prop)
    (value written : Value) :
    Prop where
  isShallow : value.isShallow
  normal : Normal value written

/-- Documents are exchanged like the values in them, with the limit on their nesting. -/
theorem Faithful.of_document
    {read? : Value → Option α}
    (reads_back : ∀ subject, read? (encode subject) = some subject)
    (normal_iff : ∀ value written,
      Normal value written ↔ ∃ subject, read? value = some subject ∧ encode subject = written)
    (depth_le : ∀ value written, Normal value written → written.depth ≤ value.depth + 1) :
    Faithful encode (fun value => if value.isShallow then read? value else none)
      (NormalDocument Normal) := by
  refine .of_reads_back ?_ ?_ ?_
  · intro subject
    rw [reads_back]
  · intro value written
    simp only [Option.ite_none_right_eq_some]
    constructor
    · rintro ⟨isShallow, normal⟩
      obtain ⟨subject, read, isWritten⟩ := (normal_iff value written).mp normal
      exact ⟨subject, ⟨isShallow, read⟩, isWritten⟩
    · rintro ⟨subject, ⟨isShallow, read⟩, isWritten⟩
      exact ⟨isShallow, (normal_iff value written).mpr ⟨subject, read, isWritten⟩⟩
  · intro value written document
    exact depth_le value written document.normal

end Reactivity.Data
