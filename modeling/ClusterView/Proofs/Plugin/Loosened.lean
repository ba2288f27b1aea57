import ClusterView.Proofs.Plugin.Written

/-!
# Capabilities that are written in other ways

What a plugin reports about itself need not be written in full. A field that is empty or off may be
left out (`Json.MayOmit`), fields that are not known are passed over, and the order of fields does
not matter. A value that differs from another one in these ways only, at any depth, is a loosened
form of it (`Json.Loosened`). Capabilities and metadata are read back from every loosened form of
what they are written as (`reads_loosened`).
-/

namespace ClusterView

open Json

namespace Json

/-! ## Loosened forms -/

/-- Whether a field may be left out, since a missing one is read as the same value. -/
def MayOmit (name : String) (value : Json) : Prop :=
  value = .array [] ∨ value = .bool false ∨ name = "description" ∧ value = .string "" ∨
    name = "capabilities" ∧ value = encode ({} : Capabilities)

/-- Whether there is exactly one field under a name, with a value that will do, or none where the
field may be left out. -/
def FieldLoosened (name : String) (value : Json) (willDo : Json → Prop)
    (fields : List (String × Json)) : Prop :=
  (∃ other, fields.filter (fun f => f.1 = name) = [(name, other)] ∧ willDo other) ∨
    MayOmit name value ∧ ∀ f ∈ fields, f.1 ≠ name

mutual

/-- Whether another value says the same: in its objects, fields may be left out that are empty or
off, fields may be added under any other name, and the order is free. -/
def Loosened : Json → Json → Prop
  | .array items, j => ∃ others, j = .array others ∧ ItemsLoosened items others
  | .object fields, j => ∃ others, j = .object others ∧ FieldsLoosened fields others
  | i, j => j = i

/-- Whether the items of another array say the same, each in its place. -/
def ItemsLoosened : List Json → List Json → Prop
  | [], others => others = []
  | item :: rest, others =>
    ∃ other more, others = other :: more ∧ Loosened item other ∧ ItemsLoosened rest more

/-- Whether the fields of another object say the same. -/
def FieldsLoosened : List (String × Json) → List (String × Json) → Prop
  | [], _ => True
  | (name, value) :: rest, others =>
    FieldLoosened name value (Loosened value) others ∧ FieldsLoosened rest others

end

/-! ## Reading fields -/

theorem lookup_eq_head? (fields : List (String × Json)) (name : String) :
    lookup fields name = ((fields.filter fun f => f.1 = name).head?.map (·.2)) := by
  induction fields with
  | nil => rfl
  | cons f rest ih =>
    obtain ⟨k, value⟩ := f
    rw [lookup]
    by_cases hk : k = name
    · rw [if_pos hk, List.filter_cons_of_pos (by simpa using hk)]
      rfl
    · rw [if_neg hk, List.filter_cons_of_neg (by simpa using hk), ih]

/-- What is found under a name is what will do, or nothing where the field may be left out. -/
theorem FieldLoosened.lookup {name : String} {value : Json} {willDo : Json → Prop}
    {fields : List (String × Json)} (h : FieldLoosened name value willDo fields) :
    (∃ other, Json.lookup fields name = some other ∧ willDo other) ∨
      MayOmit name value ∧ Json.lookup fields name = none := by
  rw [lookup_eq_head?]
  rcases h with ⟨other, hother, hdo⟩ | ⟨homit, hnone⟩
  · exact .inl ⟨other, by rw [hother]; rfl, hdo⟩
  · have hfilter : fields.filter (fun f => f.1 = name) = [] :=
      List.filter_eq_nil_iff.2 fun f hf => by simpa using hnone f hf
    exact .inr ⟨homit, by rw [hfilter]; rfl⟩

end Json

/-! ## Types that are read from loosened forms -/

/-- Values that are read back from every loosened form of what they are written as. -/
class TolerantJson (α : Type) [JsonDecode α] [JsonEncode α] : Prop where
  decode?_of_loosened : ∀ {a : α} {j : Json}, Loosened (encode a) j → decode? j = some a

export TolerantJson (decode?_of_loosened)

section

variable {α : Type} [JsonDecode α] [JsonEncode α] [TolerantJson α] {name : String} {a value : α}
  {fields : List (String × Json)}

theorem required?_of_loosened (hkept : ¬ MayOmit name (encode a))
    (h : FieldLoosened name (encode a) (Loosened (encode a)) fields) :
    required? fields name = some a := by
  rcases h.lookup with ⟨other, hother, hdo⟩ | ⟨homit, -⟩
  · rw [required?, hother]
    exact decode?_of_loosened hdo
  · exact absurd homit hkept

/-- A field that is missing is read as what it would say. -/
theorem ifMissing?_of_loosened (homitted : MayOmit name (encode a) → a = value)
    (h : FieldLoosened name (encode a) (Loosened (encode a)) fields) :
    ifMissing? value fields name = some a := by
  unfold ifMissing?
  rcases h.lookup with ⟨other, hother, hdo⟩ | ⟨homit, hnone⟩
  · rw [hother]
    exact decode?_of_loosened hdo
  · rw [hnone, homitted homit]

end

instance : TolerantJson String where
  decode?_of_loosened {s j} h := by
    obtain rfl : j = .string s := h
    rfl

instance : TolerantJson Bool where
  decode?_of_loosened {b j} h := by
    obtain rfl : j = .bool b := h
    rfl

instance {α : Type} [JsonDecode α] [JsonEncode α] [TolerantJson α] : TolerantJson (List α) where
  decode?_of_loosened {items j} h := by
    obtain ⟨others, rfl, hothers⟩ := h
    show others.mapM decode? = some items
    induction items generalizing others with
    | nil =>
      obtain rfl := hothers
      rfl
    | cons item rest ih =>
      obtain ⟨other, more, rfl, hother, hmore⟩ := hothers
      rw [List.mapM_cons, decode?_of_loosened hother, ih more hmore]
      rfl

/-! ## What plugins report -/

section

variable {name : String}

theorem mayOmit_text_iff {s : String} :
    MayOmit name (encode s) ↔ name = "description" ∧ s = "" := by
  simp [MayOmit, encode, record]

theorem eq_nil_of_mayOmit {α : Type} [JsonEncode α] {items : List α}
    (h : MayOmit name (encode items)) : items = [] := by
  simpa [MayOmit, encode, record] using h

theorem eq_false_of_mayOmit {b : Bool} (h : MayOmit name (encode b)) : b = false := by
  simpa [MayOmit, encode, record] using h

/-- Only one value is written as the default is. -/
theorem eq_default_of_mayOmit {c : Capabilities} (h : MayOmit name (encode c)) : c = {} := by
  rcases h with h | h | ⟨-, h⟩ | ⟨-, h⟩
  · cases h
  · cases h
  · cases h
  · have hread := congrArg (decode? (α := Capabilities)) h
    rwa [decode?_encode, decode?_encode, Option.some.injEq] at hread

end

instance : TolerantJson GroupVersionKind where
  decode?_of_loosened {g j} h := by
    obtain ⟨others, rfl, hgroup, hversion, hkind, -⟩ := h
    have hkept : ∀ {name s : String}, name ≠ "description" → ¬ MayOmit name (encode s) :=
      fun hne homit => hne (mayOmit_text_iff.1 homit).1
    have hgroup' := required?_of_loosened (hkept (by decide)) hgroup
    have hversion' := required?_of_loosened (hkept (by decide)) hversion
    have hkind' := required?_of_loosened (hkept (by decide)) hkind
    simp only [decode?, fieldsNamed?, Option.bind_eq_bind, Option.bind_some, hgroup', hversion',
      hkind']

instance : TolerantJson Capabilities where
  decode?_of_loosened {c j} h := by
    obtain ⟨others, rfl, hconfig, hstatus, hitems, hobject, htab, hmodule, hactions, -⟩ := h
    have hconfig' := ifMissing?_of_loosened eq_nil_of_mayOmit hconfig
    have hstatus' := ifMissing?_of_loosened eq_nil_of_mayOmit hstatus
    have hitems' := ifMissing?_of_loosened eq_nil_of_mayOmit hitems
    have hobject' := ifMissing?_of_loosened eq_nil_of_mayOmit hobject
    have htab' := ifMissing?_of_loosened eq_nil_of_mayOmit htab
    have hmodule' := ifMissing?_of_loosened eq_false_of_mayOmit hmodule
    have hactions' := ifMissing?_of_loosened eq_nil_of_mayOmit hactions
    simp only [decode?, fieldsNamed?, Option.bind_eq_bind, Option.bind_some, hconfig', hstatus',
      hitems', hobject', htab', hmodule', hactions']

instance : LawfulJson PluginMetadata where
  decode?_encode m := by
    unfold instJsonDecodePluginMetadata instJsonEncodePluginMetadata
    simp [record, fieldsNamed?, required?, lookup_requiredField, ifMissing?_requiredField,
      ifMissing?_requiredField_of_ne, decode?_encode, -List.append_nil]
  isWhole_encode _ := by
    unfold instJsonEncodePluginMetadata
    simp [record, requiredField, isWhole_encode]

instance : TolerantJson PluginMetadata where
  decode?_of_loosened {m j} h := by
    obtain ⟨others, rfl, hname, hdescription, hcapabilities, -⟩ := h
    have hkept : ¬ MayOmit "name" (encode m.name) := fun homit =>
      absurd (mayOmit_text_iff.1 homit).1 (by decide)
    have hname' := required?_of_loosened hkept hname
    have hdescription' :=
      ifMissing?_of_loosened (fun homit => (mayOmit_text_iff.1 homit).2) hdescription
    have hcapabilities' := ifMissing?_of_loosened eq_default_of_mayOmit hcapabilities
    simp only [decode?, fieldsNamed?, Option.bind_eq_bind, Option.bind_some, hname', hdescription',
      hcapabilities']

/-! ## Reading what is written -/

/-- Whether a value is read back from the text that it is written as and from every loosened form
of what it is written as, and from the text of that form unless there are fractions in it. -/
structure IsReadBack {α : Type} [JsonDecode α] [JsonEncode α] (a : α) : Prop where
  text : ReadsAs (encode a).compact a
  loosened : ∀ j, Loosened (encode a) j → decode? j = some a
  loosenedText : ∀ j, Loosened (encode a) j → j.IsWhole → ReadsAs j.compact a

theorem isReadBack {α : Type} [JsonDecode α] [JsonEncode α] [LawfulJson α] [TolerantJson α]
    (a : α) : IsReadBack a where
  text := readsAs_compact a
  loosened _ hj := decode?_of_loosened hj
  loosenedText _ hj hwhole := readsAs_of_isWhole hwhole (decode?_of_loosened hj)

/-- **What a plugin reports is read back**, from the text that it is written as and from every
loosened form of it. -/
theorem reads_loosened :
    (∀ c : Capabilities, IsReadBack c) ∧ ∀ m : PluginMetadata, IsReadBack m :=
  ⟨isReadBack, isReadBack⟩

example : decode? (.object [("views", .null), ("supportsTab", .array [.object
      [("kind", .string "Pod"), ("version", .string "v1"), ("group", .string ""),
        ("note", .bool true)]])]) =
    some ({ tab := [⟨"", "v1", "Pod"⟩] } : Capabilities) := rfl

end ClusterView
