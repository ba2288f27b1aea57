import ClusterView.Proofs.Link.Path
import ClusterView.Proofs.Store.Grouping

/-!
# Links to loaded objects

An object that is loaded has a name and, unless it lives in none, a namespace, as a link needs them.
To a link an empty text is as good as none, though, while loading takes it as it is written. So the
objects that cannot be linked are those that a manifest writes with an empty name or namespace
(`Manifest.Blank`).
-/

namespace ClusterView

open Outcome

namespace Manifest

/-- An object of a manifest is written with an empty name, or with an empty namespace although it
lives in one. -/
inductive Blank (j : Json) : Prop
  | name {x : Object} (hread : Object.ofJson? j = some x) (hname : x.metadata.name = some "") :
      Blank j
  | inNamespace {x : Object} {t : TypeMeta} (hread : Object.ofJson? j = some x)
      (htypes : x.types = some t) (hscope : isClusterScoped t.apiVersion t.kind = false)
      (hns : x.metadata.inNamespace = some "") : Blank j

theorem blank_iff {j : Json} {x : Object} {t : TypeMeta} (hread : Object.ofJson? j = some x)
    (htypes : x.types = some t) :
    Blank j ↔ x.metadata.name = some "" ∨
      isClusterScoped t.apiVersion t.kind = false ∧ x.metadata.inNamespace = some "" := by
  constructor
  · rintro (⟨hread', hname⟩ | ⟨hread', htypes', hscope, hns⟩)
    · obtain rfl := Option.some.inj (hread'.symm.trans hread)
      exact .inl hname
    · obtain rfl := Option.some.inj (hread'.symm.trans hread)
      obtain rfl := Option.some.inj (htypes'.symm.trans htypes)
      exact .inr ⟨hscope, hns⟩
  · rintro (hname | ⟨hscope, hns⟩)
    · exact .name hread hname
    · exact .inNamespace hread htypes hscope hns

/-- An object that is read has a name, and a namespace unless it lives in none. They are empty only
if they are written so. -/
theorem Reads.blank_iff {ns : String} {j : Json} {x : Object} (h : Reads ns j x) (hns : ns ≠ "") :
    ∃ t name, x.types = some t ∧ x.metadata.name = some name ∧
      (x.metadata.inNamespace ≠ none ∨ isClusterScoped t.apiVersion t.kind = true) ∧
      (Blank j ↔ name = "" ∨
        isClusterScoped t.apiVersion t.kind = false ∧ x.metadata.inNamespace = some "") := by
  cases h with
  | @kept x t hread htypes hname hkept =>
    obtain ⟨name, hname⟩ := Option.ne_none_iff_exists'.1 hname
    refine ⟨t, name, htypes, hname, hkept, ?_⟩
    rw [Manifest.blank_iff hread htypes, hname, Option.some_inj]
  | @completed x t hread htypes hname hmissing hscope =>
    obtain ⟨name, hname⟩ := Option.ne_none_iff_exists'.1 hname
    refine ⟨t, name, htypes, hname, .inl (Option.some_ne_none ns), ?_⟩
    -- The namespace that is put in is not empty, so only the name can be.
    rw [Manifest.blank_iff hread htypes, hname, Option.some_inj, hmissing, Option.some_inj]
    simp [hns]

end Manifest

/-- Whether a view shows objects of the object's type. -/
def Object.IsShown (x : Object) : Prop :=
  ∃ t viewSection, x.types = some t ∧ viewSection? t.apiVersion t.kind = some viewSection

namespace MemoryStore

open Manifest

/-- A loaded object whose type is shown has a path unless it is written with an empty name or
namespace. -/
theorem hasPath_iff_not_blank {ns text : String} {j : Json} {x : Object} {t : TypeMeta}
    (hns : ns ≠ "") (hreads : Reads ns j x) (htypes : x.types = some t)
    (hview : ∃ viewSection, viewSection? t.apiVersion t.kind = some viewSection) :
    ((Reference.ofType t x).target text).HasPath ↔ ¬Blank j := by
  obtain ⟨t', name, htypes', hname, hplace, hblank⟩ := hreads.blank_iff hns
  obtain rfl := Option.some.inj (htypes'.symm.trans htypes)
  have hdisplay : x.displayName = name := by
    simp [Object.displayName, ObjectMeta.displayName, hname]
  rw [hblank, not_or, ← hdisplay]
  constructor
  · rintro ⟨hne, -, hcluster | ⟨n, hn, hnonempty⟩⟩
    · refine ⟨hne, ?_⟩
      rintro ⟨hscope, -⟩
      exact Bool.false_ne_true (hscope.symm.trans hcluster)
    · refine ⟨hne, ?_⟩
      rintro ⟨-, hempty⟩
      exact hnonempty (Option.some.inj (hn.symm.trans hempty))
  · rintro ⟨hne, hnot⟩
    refine ⟨hne, hview, ?_⟩
    cases hscope : isClusterScoped t'.apiVersion t'.kind with
    | true => exact .inl hscope
    | false =>
      -- A namespace is there, since loading puts one in, and by `hnot` it is not empty.
      have hsome : x.metadata.inNamespace ≠ none := hplace.resolve_right (by simp [hscope])
      obtain ⟨n, hn⟩ := Option.ne_none_iff_exists'.1 hsome
      exact .inr ⟨n, hn, fun hempty => hnot ⟨hscope, hempty ▸ hn⟩⟩

/-- **Loaded objects can be linked unless they are written with an empty name or namespace.** Each
object of a store comes from one that the manifest holds, and if objects of its type are shown it
is linked exactly if that one is not blank. Otherwise the error says what is missing. -/
theorem linked_iff_not_blank {ns text : String} {store : MemoryStore} (hns : ns ≠ "")
    (hstore : ofManifest ns text = .ok store) :
    ∃ js, TextsHold [text] js ∧ ∀ x ∈ store.objects, ∃ j ∈ js, Reads ns j x ∧
      (x.IsShown → ∀ base label,
        ((∃ link, (pathLinks base).forObject (.ofObject x) label = .ok link) ↔ ¬Blank j) ∧
        (Blank j → (pathLinks base).forObject (.ofObject x) label =
          .error (Reference.ofObject x).addressError)) := by
  have hfiles : ofFiles ns ([text].map some) = .ok store :=
    (ofManifest_eq ns text).symm.trans hstore
  obtain ⟨js, hjs⟩ := exists_textsHold hfiles
  have hloads : Loads ns js (.ok store) := hfiles ▸ loads_of_textsHold hjs ns
  obtain ⟨xs, hxs, hperm⟩ := hloads.exists_perm
  refine ⟨js, hjs, fun x hx => ?_⟩
  -- The store has its own order, so what `x` is read from is found through the permutation.
  obtain ⟨j, hj, hreads⟩ := exists_left_of_mem hxs (hperm.mem_iff.1 hx)
  refine ⟨j, hj, hreads, ?_⟩
  rintro ⟨t, viewSection, htypes, hview⟩ base label
  have hpath : ((Reference.ofType t x).target label).HasPath ↔ ¬Blank j :=
    hasPath_iff_not_blank hns hreads htypes ⟨viewSection, hview⟩
  rw [Reference.ofObject_eq_ofType htypes]
  refine ⟨LinkGenerator.exists_forObject_iff.trans hpath, fun hblank => ?_⟩
  exact LinkGenerator.forObject_eq_addressError ⟨viewSection, hview⟩ fun h => hpath.1 h hblank

/-- A pod that is written with a name and without a namespace is linked. -/
theorem linked_iff_not_blank_podText :
    ∃ x, ofManifest "default" podText = .ok (ofObjects [x]) ∧
      ∃ link, (pathLinks "/overview").forObject (.ofObject x) "a" = .ok link := by
  obtain ⟨x, hreads, htypes, hname, -⟩ := podJson_reads "default"
  have hstore : ofManifest "default" podText = .ok (ofObjects [x]) := by
    rw [ofManifest_eq]
    exact (loads_of_textsHold podText_holds "default").eq (.store (.cons hreads .nil))
  obtain ⟨js, hjs, hall⟩ := linked_iff_not_blank (by decide) hstore
  obtain rfl : js = [podJson] := hjs.eq podText_holds
  obtain ⟨j, hj, -, hlink⟩ := hall x (List.mem_mergeSort.2 List.mem_cons_self)
  obtain rfl := List.mem_singleton.1 hj
  have hblank : ¬Blank podJson := by
    rintro (⟨hread, hempty⟩ | ⟨hread, -, -, hempty⟩)
    · cases hread
      simp at hempty
    · cases hread
      simp at hempty
  have hshown : x.IsShown := ⟨_, "workloads/pods", htypes, by decide⟩
  exact ⟨x, hstore, (hlink hshown "/overview" "a").1.2 hblank⟩

/-- A config map whose namespace is written and empty. -/
def settingsText : String :=
  "\x7b\"apiVersion\":\"v1\",\"kind\":\"ConfigMap\",\"metadata\":" ++
    "\x7b\"name\":\"settings\",\"namespace\":\"\"\x7d\x7d"

theorem documents_settingsText : documents settingsText =
    [.ok (.object [("apiVersion", .string "v1"), ("kind", .string "ConfigMap"),
      ("metadata", .object [("name", .string "settings"), ("namespace", .string "")])])] := by
  decide +kernel

/-- The config map is loaded as it is written, and cannot be linked. -/
theorem settingsText_not_linked :
    ∃ store x, ofManifest "default" settingsText = .ok store ∧ x ∈ store.objects ∧ x.IsShown ∧
      ∀ base label, (pathLinks base).forObject (.ofObject x) label =
        .error (.missingNamespace "ConfigMap" "settings") := by
  have hread : ∃ x, Manifest.read "default" settingsText = .ok [x] ∧
      x.types = some ⟨"v1", "ConfigMap"⟩ ∧ x.metadata.name = some "settings" ∧
      x.metadata.inNamespace = some "" := by
    rw [Manifest.read, documents_settingsText]
    exact ⟨_, rfl, rfl, rfl, rfl⟩
  obtain ⟨x, hread, htypes, hname, hns⟩ := hread
  have hview : viewSection? "v1" "ConfigMap" = some "config-and-storage/config-maps" := by decide
  have hscope : isClusterScoped "v1" "ConfigMap" = false := by decide
  have hstore : ofManifest "default" settingsText = .ok (ofObjects [x]) := by
    rw [ofManifest, hread]
    rfl
  refine ⟨_, x, hstore, List.mem_mergeSort.2 List.mem_cons_self, ⟨_, _, htypes, hview⟩, ?_⟩
  intro base label
  rw [Reference.ofObject_eq_ofType htypes]
  have haddress : (Reference.ofType ⟨"v1", "ConfigMap"⟩ x).hasAddress = false := by
    simp [Reference.hasAddress, Reference.ofType, hns]
  rw [LinkGenerator.forObject_eq_error (r := .ofType ⟨"v1", "ConfigMap"⟩ x) hview hscope haddress]
  simp [Reference.addressError, Reference.ofType, Object.displayName, ObjectMeta.displayName, hname]

end MemoryStore

end ClusterView
