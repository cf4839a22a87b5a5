namespace Reactivity.Data

/-!
# Structured values

The values in which templates, watchers, scopes and options are exchanged: null,
booleans, numbers, texts, lists and records. A value is what a document says, so a
record lists its fields as they are written there, and a name can occur twice. Where a
record with known fields is read, a list can stand for it that holds the values of
these fields in their order.

Decoding is strict. It converts nothing, it treats an absent field and a field that
holds null differently, and it refuses a known field that is written twice. Where all
of a document has to be looked at before it is known what it stands for, a document is
refused in which too many lists and records are nested.
-/

/-- A structured value. A number is `mantissa` times ten to the `-exponent`. -/
inductive Value where
  | null
  | boolean (value : Bool)
  | number (mantissa : Int) (exponent : Nat)
  | text (value : String)
  | list (items : List Value)
  | record (fields : List (String × Value))

namespace Value

mutual

/-- How many lists and records are nested in a value, itself included. -/
def depth :
    Value →
    Nat
  | .list items => itemsDepth items + 1
  | .record fields => fieldsDepth fields + 1
  | _ => 0

/-- How many lists and records are nested in some values. -/
def itemsDepth :
    List Value →
    Nat
  | [] => 0
  | value :: rest => max value.depth (itemsDepth rest)

/-- How many lists and records are nested in the values of some fields. -/
def fieldsDepth :
    List (String × Value) →
    Nat
  | [] => 0
  | (_, value) :: rest => max value.depth (fieldsDepth rest)

end

/-- So many lists and records must not be nested. -/
def nestingLimit : Nat :=
  128

/-- Few enough lists and records are nested in a document. -/
def isShallow
    (value : Value) :
    Bool :=
  value.depth < nestingLimit

/-- The value of a field in a list of fields. -/
def lookup?
    (name : String) :
    List (String × Value) →
    Option Value
  | [] => none
  | (field, value) :: rest => if field = name then some value else lookup? name rest

/-- The fields of a record. -/
def asRecord? :
    Value →
    Option (List (String × Value))
  | .record fields => some fields
  | _ => none

/-- A name occurs among some fields at most once. -/
def isSingle
    (fields : List (String × Value))
    (name : String) :
    Bool :=
  fields.countP (fun field => field.1 == name) ≤ 1

/--
The fields of a record with known fields, none of which must be written twice.

A list has the values of the first of these fields. It must not be longer.
-/
def fieldsAs?
    (names : List String) :
    Value →
    Option (List (String × Value))
  | .record fields => if names.all (isSingle fields) then some fields else none
  | .list items => if items.length ≤ names.length then some (names.zip items) else none
  | _ => none

/-- What says of which kind a value is: a field of a record, or the first item of a list. -/
def tag?
    (name : String) :
    Value →
    Option Value
  | .record fields => lookup? name fields
  | .list items => items.head?
  | _ => none

/-- The items of a list. -/
def asList? :
    Value →
    Option (List Value)
  | .list items => some items
  | _ => none

/-- The text of a text value. -/
def asText? :
    Value →
    Option String
  | .text value => some value
  | _ => none

/-- The truth value of a boolean. -/
def asBoolean? :
    Value →
    Option Bool
  | .boolean value => some value
  | _ => none

/-- The texts of a list of texts. -/
def asTexts?
    (value : Value) :
    Option (List String) :=
  value.asList?.bind (fun items => items.mapM asText?)

/-- A list of texts. -/
def ofTexts
    (texts : List String) :
    Value :=
  .list (texts.map .text)

/-- Decode a field that has to be present. -/
def required?
    {α : Type}
    (fields : List (String × Value))
    (name : String)
    (decode : Value → Option α) :
    Option α :=
  (lookup? name fields).bind decode

/-- Decode a field, or take a default when it is absent. -/
def optional?
    {α : Type}
    (fields : List (String × Value))
    (name : String)
    (absent : α)
    (decode : Value → Option α) :
    Option α :=
  match lookup? name fields with
  | none => some absent
  | some value => decode value

end Value

end Reactivity.Data
