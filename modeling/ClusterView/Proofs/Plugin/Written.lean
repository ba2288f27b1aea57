import ClusterView.Plugin.Capabilities
import ClusterView.Proofs.Json.Text
import ClusterView.Proofs.View.Decoding

/-!
# Capabilities by their texts

A type is lawful JSON if each of its values is read back from what it is written as, and no
fractions are written (`LawfulJson`). The text of such a value is that of one JSON value only, from
which it is read (`readsAs_compact`). Types of objects and capabilities are lawful.
-/

namespace ClusterView

open Json

/-! ## Values by their texts -/

/-- A text is read as a value: it is the text of one JSON value without fractions only, and this is
read as the value. -/
def Json.ReadsAs {α : Type} [JsonDecode α] (text : String) (a : α) : Prop :=
  ∃ j : Json, (∀ i : Json, i.IsWhole ∧ i.compact = text ↔ i = j) ∧ decode? j = some a

/-- Values that are written without fractions and read back. -/
class LawfulJson (α : Type) [JsonDecode α] [JsonEncode α] : Prop where
  decode?_encode : ∀ a : α, decode? (encode a) = some a
  isWhole_encode : ∀ a : α, (encode a).IsWhole

export LawfulJson (decode?_encode isWhole_encode)

/-- A value without fractions is the only one with its text. -/
theorem Json.readsAs_of_isWhole {α : Type} [JsonDecode α] {j : Json} {a : α} (hj : j.IsWhole)
    (h : decode? j = some a) : ReadsAs j.compact a := by
  refine ⟨j, fun i => ⟨?_, ?_⟩, h⟩
  · rintro ⟨hi, htext⟩
    exact compact_inj hi hj htext
  · rintro rfl
    exact ⟨hj, rfl⟩

theorem Json.readsAs_compact {α : Type} [JsonDecode α] [JsonEncode α] [LawfulJson α] (a : α) :
    ReadsAs (encode a).compact a :=
  readsAs_of_isWhole (isWhole_encode a) (decode?_encode a)

/-! ## Lawful types -/

instance : LawfulJson String := ⟨fun _ => rfl, .string⟩

instance : LawfulJson Bool := ⟨fun _ => rfl, .bool⟩

instance {α : Type} [JsonDecode α] [JsonEncode α] [LawfulJson α] : LawfulJson (List α) where
  decode?_encode items := mapM_map_eq_some encode decode?_encode items
  isWhole_encode _ := .array (List.forall_mem_map.2 fun a _ => isWhole_encode a)

theorem lookup_requiredField {α : Type} [JsonEncode α] {name other : String} {a : α}
    {rest : List (String × Json)} : lookup (requiredField name a ++ rest) other =
      if name = other then some (encode a) else lookup rest other :=
  rfl

/-- A field that is written is read under its name. -/
theorem ifMissing?_requiredField {α : Type} [JsonDecode α] [JsonEncode α] [LawfulJson α]
    {name : String} {a value : α} {rest : List (String × Json)} :
    ifMissing? value (requiredField name a ++ rest) name = some a := by
  rw [ifMissing?, lookup_requiredField, if_pos rfl]
  exact decode?_encode a

/-- A field that is written is passed over where another one is read. -/
theorem ifMissing?_requiredField_of_ne {α β : Type} [JsonDecode α] [JsonEncode β]
    {name other : String} (h : name ≠ other) {b : β} {value : α} {rest : List (String × Json)} :
    ifMissing? value (requiredField name b ++ rest) other = ifMissing? value rest other := by
  rw [ifMissing?, ifMissing?, lookup_requiredField, if_neg h]

instance : LawfulJson GroupVersionKind where
  decode?_encode _ := rfl
  isWhole_encode _ := by simp [encode, record, requiredField]

instance : LawfulJson Capabilities where
  decode?_encode c := by
    unfold instJsonDecodeCapabilities instJsonEncodeCapabilities
    simp [record, fieldsNamed?, ifMissing?_requiredField, ifMissing?_requiredField_of_ne,
      -List.append_nil]
  isWhole_encode _ := by
    unfold instJsonEncodeCapabilities
    simp [record, requiredField, isWhole_encode]

end ClusterView
