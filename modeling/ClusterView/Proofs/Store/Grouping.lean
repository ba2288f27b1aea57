import ClusterView.Proofs.Outcome
import ClusterView.Store.Manifest
import Mathlib.Data.Option.Basic
import Mathlib.Data.Set.List

/-!
# The grouping of manifests

Objects are written as documents of their own or as the items of lists, with empty documents between
them, in one text or in many. All of these hold the same objects (`Manifest.Holds`), and what is
loaded is what the objects are read as, one after the other (`loads_iff`): the first one that is
refused decides.
-/

namespace ClusterView

open Outcome

namespace Manifest

/-! ## Objects -/

/-- What an object of a manifest is read as. It has a type and a name, and a given namespace takes
the place of one that is missing, unless the object lives in none. -/
inductive Reads (ns : String) (j : Json) : Object → Prop
  | kept {x : Object} {t : TypeMeta} (hread : Object.ofJson? j = some x) (htypes : x.types = some t)
      (hname : x.metadata.name ≠ none)
      (hns : x.metadata.inNamespace ≠ none ∨ isClusterScoped t.apiVersion t.kind = true) :
      Reads ns j x
  | completed {x : Object} {t : TypeMeta} (hread : Object.ofJson? j = some x)
      (htypes : x.types = some t) (hname : x.metadata.name ≠ none)
      (hns : x.metadata.inNamespace = none)
      (hscope : isClusterScoped t.apiVersion t.kind = false) :
      Reads ns j { x with metadata := { x.metadata with inNamespace := some ns } }

/-- Why an object of a manifest is refused. -/
inductive Refuses (j : Json) : StoreError → Prop
  | misshapen (hread : Object.ofJson? j = none) : Refuses j .conversion
  | untyped {x : Object} (hread : Object.ofJson? j = some x) (htypes : x.types = none) :
      Refuses j (.invalid ("object '" ++ x.displayName ++ "' has no apiVersion or kind"))
  | unnamed {x : Object} {t : TypeMeta} (hread : Object.ofJson? j = some x)
      (htypes : x.types = some t) (hname : x.metadata.name = none) :
      Refuses j (.invalid (t.kind ++ " without a name"))

theorem Reads.object_eq {ns : String} {j : Json} {x : Object} (h : Reads ns j x) :
    object ns j = .ok x := by
  cases h with
  | kept hread htypes hname hns =>
    have hkeep : ¬ (x.metadata.inNamespace = none ∧ isClusterScoped _ _ = false) := fun h =>
      hns.elim (fun hsome => hsome h.1) fun hscope => absurd (hscope.symm.trans h.2) (by decide)
    simp [object, hread, htypes, hname, withNamespace, hkeep]
  | completed hread htypes hname hns hscope =>
    simp [object, hread, htypes, hname, withNamespace, hns, hscope]

theorem Refuses.object_eq {ns : String} {j : Json} {e : StoreError} (h : Refuses j e) :
    object ns j = .error e := by
  cases h with
  | misshapen hread => simp only [object, hread]
  | untyped hread htypes => simp only [object, hread, htypes]
  | unnamed hread htypes hname => simp [object, hread, htypes, hname]

/-- An object of a manifest is read or refused. -/
theorem reads_or_refuses (ns : String) (j : Json) :
    (∃ x, Reads ns j x) ∨ ∃ e, Refuses j e := by
  cases hread : Object.ofJson? j with
  | none => exact .inr ⟨_, .misshapen hread⟩
  | some x =>
    cases htypes : x.types with
    | none => exact .inr ⟨_, .untyped hread htypes⟩
    | some t =>
      by_cases hname : x.metadata.name = none
      · exact .inr ⟨_, .unnamed hread htypes hname⟩
      · by_cases hns : x.metadata.inNamespace = none
        · cases hscope : isClusterScoped t.apiVersion t.kind with
          | true => exact .inl ⟨_, .kept hread htypes hname (.inr hscope)⟩
          | false => exact .inl ⟨_, .completed hread htypes hname hns hscope⟩
        · exact .inl ⟨_, .kept hread htypes hname (.inl hns)⟩

theorem object_eq_ok_iff {ns : String} {j : Json} {x : Object} :
    object ns j = .ok x ↔ Reads ns j x := by
  refine ⟨fun h => ?_, Reads.object_eq⟩
  rcases reads_or_refuses ns j with ⟨y, hy⟩ | ⟨e, he⟩
  · obtain rfl : y = x := Except.ok.inj (hy.object_eq.symm.trans h)
    exact hy
  · cases he.object_eq.symm.trans h

theorem object_eq_error_iff {ns : String} {j : Json} {e : StoreError} :
    object ns j = .error e ↔ Refuses j e := by
  refine ⟨fun h => ?_, Refuses.object_eq⟩
  rcases reads_or_refuses ns j with ⟨x, hx⟩ | ⟨err, herr⟩
  · cases hx.object_eq.symm.trans h
  · obtain rfl : err = e := Except.error.inj (herr.object_eq.symm.trans h)
    exact herr

/-! ## Documents -/

/-- A document lists some objects: its kind ends with `List`, and they are its items. -/
structure Lists (d : Json) (items : List Json) : Prop where
  kind : ∃ start, d.field? "kind" = some (.string (start ++ "List"))
  items : d.field? "items" = some (.array items)

theorem listed?_eq_some_iff {d : Json} {items : List Json} :
    listed? d = some items ↔ Lists d items := by
  simp only [listed?, Option.bind_eq_bind, Option.bind_eq_some_iff, Option.guard_eq_some']
  constructor
  · rintro ⟨kind, hkind, name, hname, -, hends, listed, hlisted, hitems⟩
    obtain ⟨start, rfl⟩ := Text.endsWith_iff.1 hends
    cases kind <;> cases hname
    cases listed <;> cases hitems
    exact ⟨⟨start, hkind⟩, hlisted⟩
  · rintro ⟨⟨start, hkind⟩, hitems⟩
    exact ⟨_, hkind, _, rfl, (), Text.endsWith_iff.2 ⟨start, rfl⟩, _, hitems, rfl⟩

theorem Lists.itemsOf_eq {d : Json} {items : List Json} (h : Lists d items) :
    itemsOf d = items := by
  unfold itemsOf
  split
  · cases h.items
  · rw [listed?_eq_some_iff.2 h]
    rfl

theorem itemsOf_eq_singleton {d : Json} (hnull : d ≠ .null) (hsingle : ∀ items, ¬ Lists d items) :
    itemsOf d = [d] := by
  have hlisted : listed? d = none :=
    Option.eq_none_iff_forall_not_mem.2 fun items hitems =>
      hsingle items (listed?_eq_some_iff.1 hitems)
  unfold itemsOf
  split
  · exact absurd rfl hnull
  · rw [hlisted]
    rfl

/-- Documents hold some objects, in their order. -/
inductive Holds : List Json → List Json → Prop
  | nil : Holds [] []
  /-- A document is empty. -/
  | empty {ds js : List Json} (h : Holds ds js) : Holds (.null :: ds) js
  /-- A document is an object. -/
  | single {j : Json} {ds js : List Json} (hnull : j ≠ .null) (hsingle : ∀ items, ¬ Lists j items)
      (h : Holds ds js) : Holds (j :: ds) (j :: js)
  /-- A document lists objects. -/
  | list {d : Json} {items ds js : List Json} (hlist : Lists d items) (h : Holds ds js) :
      Holds (d :: ds) (items ++ js)

theorem Holds.flatMap_itemsOf {ds js : List Json} (h : Holds ds js) :
    ds.flatMap itemsOf = js := by
  induction h with
  | nil => rfl
  | empty _ ih => exact ih
  | single hnull hsingle _ ih =>
    rw [List.flatMap_cons, itemsOf_eq_singleton hnull hsingle, ih]
    rfl
  | list hlist _ ih => rw [List.flatMap_cons, hlist.itemsOf_eq, ih]

/-- All documents hold some objects. -/
theorem holds_flatMap_itemsOf (ds : List Json) : Holds ds (ds.flatMap itemsOf) := by
  induction ds with
  | nil => exact .nil
  | cons d ds ih =>
    rw [List.flatMap_cons]
    by_cases hnull : d = .null
    · subst hnull
      exact .empty ih
    · by_cases hlist : ∃ items, Lists d items
      · obtain ⟨items, hlist⟩ := hlist
        rw [hlist.itemsOf_eq]
        exact .list hlist ih
      · have hsingle : ∀ items, ¬ Lists d items := not_exists.1 hlist
        rw [itemsOf_eq_singleton hnull hsingle]
        exact .single hnull hsingle ih

/-- Texts hold some objects, in their order: their documents do, one text after the other. -/
def TextsHold (texts : List String) (js : List Json) : Prop :=
  ∃ ds, texts.flatMap documents = ds.map .ok ∧ Holds ds js

/-- Texts hold the objects of one list only. -/
theorem TextsHold.eq {texts : List String} {js js' : List Json} (h : TextsHold texts js)
    (h' : TextsHold texts js') : js = js' := by
  obtain ⟨ds, hds, hholds⟩ := h
  obtain ⟨ds', hds', hholds'⟩ := h'
  have hinj : Function.Injective (.ok : Json → Except StoreError Json) := fun _ _ => Except.ok.inj
  obtain rfl : ds = ds' := List.map_injective_iff.2 hinj (hds.symm.trans hds')
  exact hholds.flatMap_itemsOf.symm.trans hholds'.flatMap_itemsOf

/-! ## Loading -/

theorem objects_eq_map (ns : String) (ds : List (Except StoreError Json)) :
    objects ns ds =
      (ds.mapM fun d => d >>= fun j => (itemsOf j).mapM (object ns)).map List.flatten :=
  rfl

theorem objects_append (ns : String) (ds es : List (Except StoreError Json)) :
    objects ns (ds ++ es) = do
      let xs ← objects ns ds
      let ys ← objects ns es
      return xs ++ ys := by
  simp only [objects, List.mapM_append, bind_assoc, pure_bind, List.flatten_append]

/-- What is read from texts is read from their documents, one text after the other. -/
theorem mapM_read (ns : String) (texts : List String) :
    (texts.mapM (read ns)).map List.flatten = objects ns (texts.flatMap documents) := by
  induction texts with
  | nil => rfl
  | cons text texts ih =>
    rw [List.flatMap_cons, objects_append, ← ih, List.mapM_cons, read]
    cases objects ns (documents text) with
    | error e => rfl
    | ok xs => cases texts.mapM (read ns) <;> rfl

/-- What is read from documents is read from the objects that they hold. -/
theorem Holds.objects_eq {ds js : List Json} (h : Holds ds js) (ns : String) :
    objects ns (ds.map .ok) = js.mapM (object ns) := by
  have hok : ((ds.map .ok).mapM fun d : Except StoreError Json =>
      d >>= fun j => (itemsOf j).mapM (object ns)) =
        ds.mapM fun j => (itemsOf j).mapM (object ns) :=
    mapM_congr (List.forall₂_map_left_iff.2 (List.forall₂_same.2 fun j _ => rfl))
  rw [objects_eq_map, hok, mapM_flatMap, h.flatMap_itemsOf]

end Manifest

namespace MemoryStore

open Manifest

/-- What loading some objects ends in. -/
inductive Loads (ns : String) (js : List Json) : Except StoreError MemoryStore → Prop
  /-- The store has what the objects are read as, each once. -/
  | store {xs : List Object} (h : List.Forall₂ (Reads ns) js xs) : Loads ns js (.ok (ofObjects xs))
  /-- The first object that is not read decides. -/
  | refused {earlier later : List Json} {j : Json} {e : StoreError}
      (hjs : js = earlier ++ j :: later) (hearlier : ∀ i ∈ earlier, ∃ x, Reads ns i x)
      (hj : Refuses j e) : Loads ns js (.error e)

/-- Loading ends as the objects, read one after the other, say. -/
theorem loads_iff {ns : String} {js : List Json} {r : Except StoreError MemoryStore} :
    Loads ns js r ↔ (js.mapM (object ns)).map ofObjects = r := by
  constructor
  · rintro (h | @⟨earlier, later, j, e, hjs, hearlier, hj⟩)
    · have hxs := mapM_eq_ok_iff.2 (h.imp fun _ _ => object_eq_ok_iff.2)
      rw [hxs]
      rfl
    · have hread : ∀ i ∈ earlier, ∃ x, object ns i = .ok x := fun i hi =>
        (hearlier i hi).imp fun _ hx => hx.object_eq
      have hfails : js.mapM (object ns) = .error e :=
        mapM_eq_error_iff_append.2 ⟨earlier, j, later, hjs, hread, hj.object_eq⟩
      rw [hfails]
      rfl
  · rintro rfl
    cases hxs : js.mapM (object ns) with
    | ok xs => exact .store ((mapM_eq_ok_iff.1 hxs).imp fun _ _ => object_eq_ok_iff.1)
    | error e =>
      obtain ⟨earlier, j, later, hjs, hread, hj⟩ := mapM_eq_error_iff_append.1 hxs
      have hearlier : ∀ i ∈ earlier, ∃ x, Reads ns i x := fun i hi =>
        (hread i hi).imp fun _ hx => object_eq_ok_iff.1 hx
      exact .refused hjs hearlier (object_eq_error_iff.1 hj)

theorem Loads.eq {ns : String} {js : List Json} {r r' : Except StoreError MemoryStore}
    (h : Loads ns js r) (h' : Loads ns js r') : r = r' :=
  (loads_iff.1 h).symm.trans (loads_iff.1 h')

/-- What a store holds that is loaded is what the objects are read as; none is lost or doubled. -/
theorem Loads.exists_perm {ns : String} {js : List Json} {store : MemoryStore}
    (h : Loads ns js (.ok store)) :
    ∃ xs, List.Forall₂ (Reads ns) js xs ∧ store.objects.Perm xs := by
  cases h with
  | store hxs => exact ⟨_, hxs, List.mergeSort_perm _ _⟩

theorem ofFiles_eq (ns : String) (texts : List String) :
    ofFiles ns (texts.map some) =
      (Manifest.objects ns (texts.flatMap documents)).map ofObjects := by
  have hread : ofFiles ns (texts.map some) =
      texts.mapM (Manifest.read ns) >>= fun xss => pure (ofObjects xss.flatten) := by
    unfold ofFiles
    congr 1
    exact mapM_congr (List.forall₂_map_left_iff.2 (List.forall₂_same.2 fun _ _ => rfl))
  rw [hread, ← mapM_read]
  cases texts.mapM (Manifest.read ns) <;> rfl

theorem ofManifest_eq (ns text : String) : ofManifest ns text = ofFiles ns [some text] := by
  rw [ofManifest, Manifest.read]
  refine Eq.trans ?_ (ofFiles_eq ns [text]).symm
  rw [List.flatMap_singleton]

/-- Loading texts ends as the objects that they hold say. -/
theorem loads_of_textsHold {texts : List String} {js : List Json} (h : TextsHold texts js)
    (ns : String) : Loads ns js (ofFiles ns (texts.map some)) := by
  obtain ⟨ds, hds, hholds⟩ := h
  rw [loads_iff, ofFiles_eq, hds, hholds.objects_eq]

/-- Texts that are loaded hold some objects. -/
theorem exists_textsHold {ns : String} {texts : List String} {store : MemoryStore}
    (h : ofFiles ns (texts.map some) = .ok store) : ∃ js, TextsHold texts js := by
  rw [ofFiles_eq, objects_eq_map] at h
  have hread := exists_map_eq_ok_iff.1 (exists_map_eq_ok_iff.1 ⟨store, h⟩)
  -- A document that is no JSON would have decided, so each of them is some value.
  have hok : ∀ d ∈ texts.flatMap documents, d ∈ Set.range Except.ok := by
    intro d hd
    obtain ⟨xs, hxs⟩ := exists_mapM_eq_ok_iff.1 hread d hd
    obtain ⟨j, rfl, -⟩ := bind_eq_ok_iff.1 hxs
    exact ⟨j, rfl⟩
  obtain ⟨ds, hds⟩ : texts.flatMap documents ∈ Set.range (List.map Except.ok) := by
    rw [Set.range_list_map]
    exact hok
  exact ⟨_, ds, hds.symm, holds_flatMap_itemsOf ds⟩

/-- **The grouping of manifests does not matter.** Texts that hold the same objects are loaded
alike, as these objects are read, and a store has what each of them is read as. -/
theorem loading_regrouped (ns : String) {js : List Json} {texts others : List String}
    (h : TextsHold texts js) (hothers : TextsHold others js) :
    ofFiles ns (texts.map some) = ofFiles ns (others.map some) ∧
      (∀ r, Loads ns js r ↔ ofFiles ns (texts.map some) = r) ∧
      (∀ store, ofFiles ns (texts.map some) = .ok store →
        ∃ xs, List.Forall₂ (Reads ns) js xs ∧ store.objects.Perm xs) ∧
      ∀ text, ofManifest ns text = ofFiles ns [some text] := by
  have hloads : Loads ns js (ofFiles ns (texts.map some)) := loads_of_textsHold h ns
  have heq : ofFiles ns (texts.map some) = ofFiles ns (others.map some) :=
    hloads.eq (loads_of_textsHold hothers ns)
  refine ⟨heq, fun r => ⟨fun hr => hloads.eq hr, fun hr => hr ▸ hloads⟩, ?_, ofManifest_eq ns⟩
  intro store hstore
  rw [hstore] at hloads
  exact hloads.exists_perm

/-- A pod without a namespace. -/
def podJson : Json :=
  .object [("apiVersion", .string "v1"), ("kind", .string "Pod"),
    ("metadata", .object [("name", .string "a")])]

/-- The pod as the text of a manifest. -/
def podText : String :=
  "\x7b\"apiVersion\":\"v1\",\"kind\":\"Pod\",\"metadata\":\x7b\"name\":\"a\"\x7d\x7d"

/-- A list with the pod as the text of a manifest. -/
def podListText : String := "\x7b\"kind\":\"List\",\"items\":[" ++ podText ++ "]\x7d"

theorem documents_podText : documents podText = [.ok podJson] := by decide +kernel

theorem documents_empty : documents "" = [.ok .null] := by decide +kernel

theorem documents_podListText :
    documents podListText =
      [.ok (.object [("items", .array [podJson]), ("kind", .string "List")])] := by
  decide +kernel

theorem podText_holds : TextsHold [podText] [podJson] := by
  have hsingle : ∀ items, ¬ Lists podJson items := fun _ h => nomatch h.items
  refine ⟨[podJson], ?_, .single (fun h => nomatch h) hsingle .nil⟩
  rw [List.flatMap_singleton, documents_podText]
  rfl

theorem podJson_reads (ns : String) : ∃ x, Reads ns podJson x ∧ x.types = some ⟨"v1", "Pod"⟩ ∧
    x.metadata.name = some "a" ∧ x.metadata.inNamespace = some ns :=
  ⟨_, .completed rfl rfl (by simp) rfl (by decide), rfl, rfl, rfl⟩

/-- A pod is loaded alike from a text of its own and from a list that follows an empty text. -/
theorem loading_regrouped_podText :
    TextsHold [podText] [podJson] ∧ TextsHold ["", podListText] [podJson] ∧
      ∃ x, x.metadata.inNamespace = some "default" ∧
        ofFiles "default" [some podText] = .ok (ofObjects [x]) ∧
        ofFiles "default" [some "", some podListText] = .ok (ofObjects [x]) := by
  have hlist : TextsHold ["", podListText] [podJson] := by
    have hitems : Lists (.object [("items", .array [podJson]), ("kind", .string "List")])
        [podJson] := ⟨⟨"", rfl⟩, rfl⟩
    refine ⟨[.null, _], ?_, .empty (.list hitems .nil)⟩
    rw [List.flatMap_cons, List.flatMap_singleton, documents_empty, documents_podListText]
    rfl
  obtain ⟨heq, hloads, -⟩ := loading_regrouped "default" podText_holds hlist
  obtain ⟨x, hreads, -, -, hns⟩ := podJson_reads "default"
  have hok := (hloads _).1 (.store (.cons hreads .nil))
  exact ⟨podText_holds, hlist, x, hns, hok, heq.symm.trans hok⟩

end MemoryStore

end ClusterView
