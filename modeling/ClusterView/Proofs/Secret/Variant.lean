import ClusterView.Proofs.Print.Answers
import ClusterView.Proofs.Store.Order
import Mathlib.Data.List.Sort

/-!
# Secrets with other values

`Object.SecretVariant x y` says that `y` is the secret `x` with other values under the keys of its
data and with other texts. Conversion keeps the metadata, the type and the keys
(`SecretVariant.alike`), which is all that `Secret.Alike` compares. A store of variants is sorted as
the store of the originals was.
-/

namespace ClusterView

open Json

/-! ## Keys of maps -/

namespace StringMap

variable {α : Type}

/-- Maps with the same keys list them in the same order. -/
theorem keys_eq_of_mem_iff {β : Type} {m : StringMap α} {n : StringMap β}
    (h : ∀ k, k ∈ m.keys ↔ k ∈ n.keys) : m.keys = n.keys := by
  have hm : m.keys.Pairwise (· < ·) := List.pairwise_map.2 m.ascending
  have hn : n.keys.Pairwise (· < ·) := List.pairwise_map.2 n.ascending
  exact hm.eq_of_mem_iff hn h

/-- A map that is read has the keys that are written. -/
theorem mem_keys_of_decode? [JsonDecode α] {fields : List (String × Json)} {m : StringMap α}
    (h : decode? (.object fields) = some m) {k : String} :
    k ∈ m.keys ↔ k ∈ fields.map (·.1) := by
  obtain ⟨entries, hentries, rfl⟩ := Option.map_eq_some_iff.1 h
  have hkeys : entries.map (·.1) = fields.map (·.1) := by
    clear h
    induction fields generalizing entries with
    | nil =>
      obtain rfl : [] = entries := by simpa using hentries
      rfl
    | cons f rest ih =>
      simp only [List.mapM_cons, Option.bind_eq_bind, Option.bind_eq_some_iff,
        Option.map_eq_some_iff, Option.pure_def, Option.some.injEq] at hentries
      obtain ⟨_, ⟨v, -, rfl⟩, entries', hentries', rfl⟩ := hentries
      simp [ih entries' hentries']
  rw [mem_keys_ofList, hkeys]

@[simp] theorem keys_empty : (∅ : StringMap α).keys = [] := rfl

end StringMap

/-- The keys that are written under a name, none unless there is an object. -/
def writtenKeys (fields : List (String × Json)) (name : String) : List String :=
  match lookup fields name with
  | some (.object entries) => entries.map (·.1)
  | _ => []

/-- A map that may be left out has the keys that are written. -/
theorem mem_keys_of_optional? {α : Type} [JsonDecode α] {fields : List (String × Json)}
    {name : String} {m : Option (StringMap α)} (h : optional? fields name = some m) {k : String} :
    k ∈ (m.getD ∅).keys ↔ k ∈ writtenKeys fields name := by
  unfold writtenKeys
  cases hlookup : lookup fields name with
  | none =>
    simp only [optional?, hlookup, Option.some.injEq] at h
    simp [← h]
  | some value =>
    cases value with
    | null =>
      simp only [optional?, hlookup, Option.some.injEq] at h
      simp [← h]
    | object entries =>
      simp only [optional?, hlookup, Option.map_eq_some_iff] at h
      obtain ⟨n, hn, rfl⟩ := h
      exact StringMap.mem_keys_of_decode? hn
    | _ => simp [optional?, hlookup, decode?] at h

/-! ## Secrets alike -/

/-- Secrets that differ at most in values. -/
structure Secret.Alike (s s' : Secret) : Prop where
  metadata : s'.metadata = s.metadata
  type : s'.type = s.type
  keys : s'.keys = s.keys

/-- The type of secrets. -/
def secretType : TypeMeta := ⟨"v1", "Secret"⟩

namespace Object

/-- A secret with other values under the keys of its data and with other texts. -/
structure SecretVariant (x y : Object) : Prop where
  types : y.types = x.types
  metadata : y.metadata = x.metadata
  /-- All fields but the data and the texts are kept, and the type of the secret with them. -/
  fields : ∀ name, name ≠ "data" → name ≠ "stringData" →
    lookup y.fields name = lookup x.fields name
  keys : ∀ k, k ∈ writtenKeys y.fields "data" ↔ k ∈ writtenKeys x.fields "data"
  converts : (x.as? Secret).isSome
  converts' : (y.as? Secret).isSome

/-- The same object, or a secret with other values. An object without a type is one of type `t`. -/
def Alike (t : TypeMeta) (x y : Object) : Prop :=
  x = y ∨ (x.types.getD t = secretType ∧ x.SecretVariant y)

/-! ## Conversion -/

/-- What an object that is read as a secret has in it. -/
theorem of_as?_secret {x : Object} {s : Secret} (h : x.as? Secret = some s) :
    s.metadata = x.metadata ∧ optional? x.fields "type" = some s.type ∧
      ∀ k, k ∈ s.keys ↔ k ∈ writtenKeys x.fields "data" := by
  have hfields := ofFields?_of_as? h
  simp only [Resource.ofFields?, Option.bind_eq_bind, Option.bind_eq_some_iff] at hfields
  obtain ⟨type, htype, data, hdata, texts, -, hs⟩ := hfields
  cases hs
  exact ⟨rfl, htype, fun k => mem_keys_of_optional? hdata⟩

/-- Conversion keeps of a secret what other values leave as it is. -/
theorem SecretVariant.alike {x y : Object} (h : x.SecretVariant y) :
    ∃ s s', x.convert Secret = .ok s ∧ y.convert Secret = .ok s' ∧ s.Alike s' := by
  obtain ⟨s, hs⟩ := Option.isSome_iff_exists.1 h.converts
  obtain ⟨s', hs'⟩ := Option.isSome_iff_exists.1 h.converts'
  obtain ⟨hmeta, htype, hkeys⟩ := of_as?_secret hs
  obtain ⟨hmeta', htype', hkeys'⟩ := of_as?_secret hs'
  refine ⟨s, s', by simp [convert, hs], by simp [convert, hs'], ?_, ?_, ?_⟩
  · rw [hmeta, hmeta', h.metadata]
  · have hfield : optional? (α := String) y.fields "type" = optional? x.fields "type" := by
      rw [optional?, optional?, h.fields "type" (by decide) (by decide)]
    rw [hfield, htype] at htype'
    exact (Option.some.inj htype').symm
  · refine StringMap.keys_eq_of_mem_iff fun k => ?_
    exact (hkeys' k).trans ((h.keys k).trans (hkeys k).symm)

namespace Alike

variable {t : TypeMeta} {x y : Object}

protected theorem types (h : Alike t x y) : y.types = x.types := by
  obtain rfl | ⟨-, h⟩ := h
  · rfl
  · exact h.types

protected theorem metadata (h : Alike t x y) : y.metadata = x.metadata := by
  obtain rfl | ⟨-, h⟩ := h
  · rfl
  · exact h.metadata

theorem selects_eq (h : Alike t x y) (q : Query) : q.selects y = q.selects x := by
  unfold Query.selects
  rw [h.types, h.metadata]

/-- Read as secrets, objects alike fail both or are secrets alike. -/
theorem convert_secret (h : Alike t x y) :
    Outcome.Rel Secret.Alike (x.convert Secret) (y.convert Secret) := by
  obtain rfl | ⟨-, h⟩ := h
  · cases hx : x.convert Secret with
    | error e => exact .error e
    | ok s => exact .ok ⟨rfl, rfl, rfl⟩
  · obtain ⟨s, s', hs, hs', halike⟩ := h.alike
    rw [hs, hs']
    exact .ok halike

/-- Read as anything else, objects alike are the same or fail both. -/
theorem convert_eq {α : Type} [Resource α]
    (hα : (⟨Resource.apiVersion α, Resource.kind α⟩ : TypeMeta) ≠ secretType)
    (h : Alike ⟨Resource.apiVersion α, Resource.kind α⟩ x y) : x.convert α = y.convert α := by
  obtain rfl | ⟨ht, h⟩ := h
  · rfl
  have hfails : ∀ z : Object, z.types = some secretType → z.as? α = none := by
    intro z hz
    have hguard : ¬(secretType.apiVersion = Resource.apiVersion α ∧
        secretType.kind = Resource.kind α) := fun ⟨hversion, hkind⟩ => by
      rw [← hversion, ← hkind] at hα
      exact hα rfl
    simp [as?, hz, guard, hguard]
  have hx : x.types = some secretType := by
    cases htypes : x.types with
    | none => exact absurd (by simpa [htypes] using ht) hα
    | some u => simpa [htypes] using ht
  rw [convert, convert, hfails x hx, hfails y (h.types.trans hx)]

/-- Objects alike that are no secrets are the same. -/
theorem eq_of_selects {q : Query} (hq : (⟨q.apiVersion, q.kind⟩ : TypeMeta) ≠ secretType)
    (h : Alike secretType x y) (hx : q.selects x = true) : x = y := by
  have htypes := (Query.selects_iff.1 hx).1
  refine h.resolve_right fun ⟨ht, _⟩ => hq ?_
  simpa [htypes] using ht

end Alike

end Object

/-! ## Stores -/

namespace MemoryStore

/-- Objects alike take the same places in a store. -/
theorem forall₂_ofObjects {t : TypeMeta} {xs ys : List Object}
    (h : List.Forall₂ (Object.Alike t) xs ys) :
    List.Forall₂ (Object.Alike t) (ofObjects xs).objects (ofObjects ys).objects := by
  refine StableSort.forall₂_mergeSort (fun x x' y y' hxy hxy' => ?_) h
  unfold Object.le Object.displayName
  rw [hxy.metadata, hxy'.metadata]

variable {s s' : MemoryStore} (h : List.Forall₂ (Object.Alike secretType) s.objects s'.objects)
include h

/-- The answers of stores alike are alike. -/
theorem forall₂_list (q : Query) :
    List.Forall₂ (Object.Alike secretType) (s.list q) (s'.list q) := by
  refine List.rel_filter (fun x y hxy => ?_) h
  change q.selects x = true ↔ q.selects y = true
  rw [hxy.selects_eq]

/-- Stores alike agree on all but secrets. -/
theorem agreeOn_of_alike :
    ObjectStore.AgreeOn (fun q => (⟨q.apiVersion, q.kind⟩ : TypeMeta) ≠ secretType)
      s.toObjectStore s'.toObjectStore := by
  have hlist : ∀ q : Query, (⟨q.apiVersion, q.kind⟩ : TypeMeta) ≠ secretType →
      s.list q = s'.list q := by
    intro q hq
    have hselected : ∀ x ∈ s.list q, q.selects x = true := fun x hx => (List.mem_filter.1 hx).2
    have hboth := (List.forall₂_and_left (s.list q) (s'.list q)).2 ⟨hselected, forall₂_list h q⟩
    exact List.forall₂_eq_eq_eq ▸ hboth.imp fun x y hxy => hxy.2.eq_of_selects hq hxy.1
  refine ⟨fun q hq => congrArg Except.ok (hlist q hq), fun q hq => congrArg Except.ok ?_⟩
  rw [get?_eq_head?, get?_eq_head?, hlist q hq]

end MemoryStore

end ClusterView
