import ClusterView.Json.Basic
import ClusterView.StringMap

/-!
# Reading and writing typed values as JSON

A type with `JsonDecode` is read from a JSON value of exactly its own shape. Records are read field
by field, and fields that no one asks for are ignored. In the records of a cluster, which are read
with `optional?` and `orDefault?`, a field that is missing or `null` is not set, or has the default
of its type; in other records, read with `required?` and `ifMissing?`, `null` is no value, and the
values may be listed without their names (`fieldsNamed?`). Records are written with `Json.record`,
which leaves out what is not set.
-/

namespace ClusterView

/-- Reading a value of a type from JSON; `none` when the JSON value has another shape. -/
class JsonDecode (α : Type) where
  /-- The value that the JSON value stands for. -/
  decode? : Json → Option α

/-- Writing a value of a type as JSON. -/
class JsonEncode (α : Type) where
  /-- The JSON value that stands for the value. -/
  encode : α → Json

export JsonDecode (decode?)
export JsonEncode (encode)

/-! ## Basic types -/

instance : JsonDecode String := ⟨Json.text?⟩
instance : JsonEncode String := ⟨.string⟩

instance : JsonDecode Bool where
  decode?
    | .bool b => some b
    | _ => none
instance : JsonEncode Bool := ⟨.bool⟩

/-- Counts are integers of 32 bits with a sign. -/
instance : JsonDecode Int where
  decode?
    | .number (.integer n) => if -2147483648 ≤ n ∧ n < 2147483648 then some n else none
    | _ => none
instance : JsonEncode Int := ⟨.ofInt⟩

instance {α : Type} [JsonDecode α] : JsonDecode (List α) where
  decode?
    | .array items => items.mapM decode?
    | _ => none
instance {α : Type} [JsonEncode α] : JsonEncode (List α) := ⟨fun items => .array (items.map encode)⟩

instance {α : Type} [JsonDecode α] : JsonDecode (StringMap α) where
  decode?
    | .object fields =>
      let entry (field : String × Json) : Option (String × α) :=
        (decode? field.2).map (field.1, ·)
      (fields.mapM entry).map .ofList
    | _ => none
instance {α : Type} [JsonEncode α] : JsonEncode (StringMap α) :=
  ⟨fun m => .object (m.entries.map fun e => (e.1, encode e.2))⟩

/-! ## Records -/

namespace Json

/-- The fields of a record that is written as an object, or as the list of its first values in the
order of its field names. -/
def fieldsNamed? (names : List String) : Json → Option (List (String × Json))
  | .object fields => some fields
  | .array values => if values.length ≤ names.length then some (names.zip values) else none
  | _ => none

/-- A field that may be left out: `some none` when it is missing or `null`. -/
def optional? {α : Type} [JsonDecode α] (fields : List (String × Json)) (name : String) :
    Option (Option α) :=
  match lookup fields name with
  | none | some .null => some none
  | some value => (decode? value).map some

/-- A field that has the default of its type when it is missing or `null`. -/
def orDefault? {α : Type} [JsonDecode α] [Inhabited α] (fields : List (String × Json))
    (name : String) : Option α :=
  (optional? fields name).map (·.getD default)

/-- A field that has to be there. -/
def required? {α : Type} [JsonDecode α] (fields : List (String × Json)) (name : String) :
    Option α :=
  (lookup fields name).bind decode?

/-- A field that has a given value when it is missing; `null` is no value. -/
def ifMissing? {α : Type} [JsonDecode α] (value : α) (fields : List (String × Json))
    (name : String) : Option α :=
  match lookup fields name with
  | none => some value
  | some j => decode? j

/-- A field of a record that is written when it is set. -/
def optionalField {α : Type} [JsonEncode α] (name : String) (value : Option α) :
    List (String × Json) :=
  match value with
  | none => []
  | some v => [(name, encode v)]

/-- A field of a record that is always written. -/
def requiredField {α : Type} [JsonEncode α] (name : String) (value : α) : List (String × Json) :=
  [(name, encode value)]

/-- The record with the given fields. -/
def record (fields : List (List (String × Json))) : Json := .object fields.flatten

end Json

end ClusterView
