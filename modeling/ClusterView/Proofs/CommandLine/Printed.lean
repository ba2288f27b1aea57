import ClusterView.CommandLine.Program
import ClusterView.Proofs.CommandLine.Selected
import ClusterView.Proofs.Plugin.Declared
import ClusterView.Proofs.Print.Lists

/-!
# What the program lists

The objects of manifest files are those of one text after the other (`Manifest.Loaded`). Of what
is asked for, the first object in the order of the store decides on the type, and what is printed is
the table of all objects of this type that are asked for (`PrintsList`). Nothing is printed if
nothing is asked for, and a name that is asked for does not matter (`printObjects_lists`).
-/

namespace ClusterView

open Outcome

/-! ## Loaded files -/

/-- Files are loaded as some objects: each is the text of a manifest, and the objects are those of
one text after the other. -/
def Manifest.Loaded (ns : String) (files : List (Option String)) (given : List Object) : Prop :=
  ∃ objects : List (List Object), objects.flatten = given ∧
    List.Forall₂ (fun file xs => ∃ text, file = some text ∧ read ns text = .ok xs) files objects

/-- Files are loaded as the objects of one list only. -/
theorem Manifest.Loaded.eq {ns : String} {files : List (Option String)} {given other : List Object}
    (h : Loaded ns files given) (hother : Loaded ns files other) : given = other := by
  obtain ⟨objects, rfl, hobjects⟩ := h
  obtain ⟨objects', rfl, hobjects'⟩ := hother
  refine congrArg List.flatten (List.right_unique_forall₂' ?_ hobjects hobjects')
  rintro _ xs ys ⟨text, rfl, hxs⟩ ⟨_, ⟨⟩, hys⟩
  exact Except.ok.inj (hxs.symm.trans hys)

/-- A store of files that are loaded has their objects. -/
theorem MemoryStore.ofFiles_eq_ok_iff {ns : String} {files : List (Option String)}
    {store : MemoryStore} : ofFiles ns files = .ok store ↔
      ∃ given, Manifest.Loaded ns files given ∧ ofObjects given = store := by
  constructor
  · intro h
    obtain ⟨objects, hobjects, hstore⟩ := bind_eq_ok_iff.1 h
    refine ⟨_, ⟨objects, rfl, (mapM_eq_ok_iff.1 hobjects).imp fun file xs hxs => ?_⟩,
      pure_eq_ok_iff.1 hstore⟩
    cases file with
    | none => cases hxs
    | some text => exact ⟨text, rfl, hxs⟩
  · rintro ⟨_, ⟨objects, rfl, hobjects⟩, rfl⟩
    refine bind_eq_ok_iff.2 ⟨objects, mapM_eq_ok_iff.2 (hobjects.imp ?_), rfl⟩
    rintro _ xs ⟨text, rfl, hxs⟩
    exact hxs

/-! ## Options and kinds -/

/-- The options that a configuration sets, with the plugins that it declares. -/
def Config.options (c : Config) (store : MemoryStore) : PrintOptions where
  store := store.toObjectStore
  link := pathLinks c.linkPrefix
  plugins := (PluginRegistry.ofCalls (c.plugins.map PluginDeclaration.call)).toManager
  showLabels := c.showLabels
  showEvents := c.events

namespace Program

/-- There are options exactly if all plugins of the configuration have names. -/
theorem printOptions_eq_ok_iff {c : Config} {store : MemoryStore} {o : PrintOptions} :
    printOptions c store = .ok o ↔ (∀ d ∈ c.plugins, d.name ≠ "") ∧ c.options store = o := by
  simp only [printOptions, bind_eq_ok_iff, mapError_eq_ok_iff, pure_eq_ok_iff,
    PluginDeclaration.registry_eq_ok_iff]
  constructor
  · rintro ⟨_, ⟨hnames, rfl⟩, ho⟩
    exact ⟨hnames, ho⟩
  · rintro ⟨hnames, ho⟩
    exact ⟨_, ⟨hnames, rfl⟩, ho⟩

end Program

/-- Objects are listed by the printer of their kind. -/
theorem printList_eq_ok_iff {o : PrintOptions} {t : TypeMeta} {objects : List Object}
    {component : Component} : printList o t.apiVersion t.kind objects = .ok component ↔
      ∃ k : PrintableKind, t = k.types ∧ k.printList o objects = .ok component := by
  have hkind : ∀ k, printableKind t.apiVersion t.kind = .ok k ↔ t = k.types := by
    intro k
    obtain ⟨apiVersion, kind⟩ := t
    rw [← PrintableKind.ofType?_eq_some_iff, printableKind]
    cases PrintableKind.ofType? apiVersion kind <;> simp
  simp only [printList, bind_eq_ok_iff, hkind]

/-! ## Lists -/

namespace Program

variable {c : Config} {a : PrintArguments} {store : MemoryStore} {t : TypeMeta}
  {listed : List Object} {files : List (Option String)}

/-- A list is not narrowed by a name. -/
theorem printObjects_withName (hlist : a.list = true) (name : Option String) :
    printObjects c { a with name } files = printObjects c a files := by
  simp only [printObjects, hlist, if_true]
  rfl

/-- What is printed as the list of a type: a table of some objects, if all is there that it
needs. -/
structure PrintsList (c : Config) (a : PrintArguments) (t : TypeMeta) (listed : List Object)
    (result : Except Failure String) : Prop where
  /-- All plugins need names, and all objects have to be of a kind that can be printed, to convert
  and to have addresses. -/
  exists_ok_iff : (∃ output, result = .ok output) ↔
    (∀ d ∈ c.plugins, d.name ≠ "") ∧ ∃ k : PrintableKind, t = k.types ∧
      ∀ x ∈ listed, k.Converts x ∧ (Reference.ofType t x).hasAddress = true
  /-- The text is the JSON of a table with a row for each of the objects, with one item a line or
  without any blank. -/
  text_of_ok : ∀ output, result = .ok output → ∃ table : Table Component,
    table.Lists (Object.pathLink c.linkPrefix t) c.showLabels listed ∧
      output = if a.pretty then (Component.table table).toJson.pretty
        else (Component.table table).toJson.compact

/-- What is printed of the objects that are given: the list of the first type that is asked for. -/
structure ListsFirstType (c : Config) (a : PrintArguments) (given : List Object)
    (result : Except Failure String) : Prop where
  /-- Where no object is asked for, nothing is printed, and this is reported unless the plugins are
  wrong. -/
  error_of_none : (∀ x ∈ given, ¬ a.AsksFor x) → ∃ e, result = .error e ∧
    ((∀ d ∈ c.plugins, d.name ≠ "") → e = .noObjects)
  /-- The first object that is asked for decides on the type, and all that are of this type are
  listed. -/
  prints_first : (∃ x ∈ given, a.AsksFor x) → ∃ first t listed, a.IsFirst given first ∧
    first.types = some t ∧ (a.query t).IsAnswer given listed ∧ PrintsList c a t listed result

section

variable (hload : MemoryStore.ofFiles c.inNamespace files = .ok store) (hlist : a.list = true)
include hload hlist

theorem printObjects_of_selectList_eq_none (h : selectList store.objects a = none) :
    ∃ e, printObjects c a files = .error e ∧
      ((∀ d ∈ c.plugins, d.name ≠ "") → e = .noObjects) := by
  rw [printObjects, hload]
  simp only [Except.mapError, ok_bind, hlist, if_true, h]
  cases hoptions : printOptions c store with
  | error e =>
    refine ⟨e, rfl, fun hnames => ?_⟩
    cases hoptions.symm.trans (printOptions_eq_ok_iff.2 ⟨hnames, rfl⟩)
  | ok o => exact ⟨.noObjects, rfl, fun _ => rfl⟩

variable (hselect : selectList store.objects a = some (t, listed))
include hselect

/-- What is selected is printed by the printer of its kind, if all plugins have names. -/
theorem printObjects_eq_ok_iff {output : String} : printObjects c a files = .ok output ↔
    (∀ d ∈ c.plugins, d.name ≠ "") ∧ ∃ k : PrintableKind, t = k.types ∧ ∃ component,
      k.printList (c.options store) listed = .ok component ∧
        output = if a.pretty then component.toJson.pretty else component.toJson.compact := by
  rw [printObjects, hload]
  simp only [Except.mapError, ok_bind, hlist, if_true, hselect]
  simp only [bind_eq_ok_iff, pure_eq_ok_iff, printOptions_eq_ok_iff]
  constructor
  · rintro ⟨_, ⟨hnames, rfl⟩, component, hprint, rfl⟩
    obtain ⟨k, ht, hcomponent⟩ := printList_eq_ok_iff.1 (mapError_eq_ok_iff.1 hprint)
    exact ⟨hnames, k, ht, component, hcomponent, rfl⟩
  · rintro ⟨hnames, k, ht, component, hcomponent, rfl⟩
    exact ⟨_, ⟨hnames, rfl⟩, component,
      mapError_eq_ok_iff.2 (printList_eq_ok_iff.2 ⟨k, ht, hcomponent⟩), rfl⟩

theorem printsList_of_selectList : PrintsList c a t listed (printObjects c a files) where
  exists_ok_iff := by
    have hanswers (k : PrintableKind) := k.printList_listAnswers (o := c.options store) rfl listed
    simp only [printObjects_eq_ok_iff hload hlist hselect]
    constructor
    · rintro ⟨_, hnames, k, rfl, component, hcomponent, -⟩
      exact ⟨hnames, k, rfl, (hanswers k).exists_ok_iff.1 ⟨_, hcomponent⟩⟩
    · rintro ⟨hnames, k, rfl, hall⟩
      obtain ⟨component, hcomponent⟩ := (hanswers k).exists_ok_iff.2 hall
      exact ⟨_, hnames, k, rfl, component, hcomponent, rfl⟩
  text_of_ok output houtput := by
    obtain ⟨-, k, rfl, component, hcomponent, htext⟩ :=
      (printObjects_eq_ok_iff hload hlist hselect).1 houtput
    have hanswers := k.printList_listAnswers (o := c.options store) rfl listed
    obtain ⟨table, rfl, htable⟩ := hanswers.table_of_ok _ hcomponent
    exact ⟨table, htable, htext⟩

end

/-- **A list has all objects of the first type that is asked for.** Where files are loaded as some
objects, nothing is printed if none of them is asked for; otherwise the list of the type of the
first one is printed, if all is there that it needs. A name that is asked for does not matter. -/
theorem printObjects_lists (hload : MemoryStore.ofFiles c.inNamespace files = .ok store)
    (hlist : a.list = true) :
    (∃ given, Manifest.Loaded c.inNamespace files given ∧
      ListsFirstType c a given (printObjects c a files)) ∧
    ∀ name, printObjects c { a with name } files = printObjects c a files := by
  obtain ⟨given, hgiven, rfl⟩ := MemoryStore.ofFiles_eq_ok_iff.1 hload
  refine ⟨⟨given, hgiven, fun hnone => ?_, fun hsome => ?_⟩, printObjects_withName hlist⟩
  · exact printObjects_of_selectList_eq_none hload hlist (selectList_of_none hnone)
  · obtain ⟨first, t, hfirst, htypes, hselect⟩ := selectList_of_asksFor hsome
    exact ⟨first, t, _, hfirst, htypes, MemoryStore.isAnswer_list given (a.query t),
      printsList_of_selectList hload hlist hselect⟩

/-- A manifest of a secret and a config map. -/
def secretAndMapText : String :=
  "\x7b\"apiVersion\":\"v1\",\"kind\":\"Secret\",\"metadata\":\x7b\"name\":\"token\"\x7d\x7d" ++
    "\n---\n" ++
    "\x7b\"apiVersion\":\"v1\",\"kind\":\"ConfigMap\",\"metadata\":\x7b\"name\":\"web\"\x7d\x7d"

/-- A manifest of another config map. -/
def mapText : String :=
  "\x7b\"apiVersion\":\"v1\",\"kind\":\"ConfigMap\",\"metadata\":\x7b\"name\":\"cache\"\x7d\x7d"

/-- An object without fields in the default namespace. -/
def plainObject (kind name : String) : Object :=
  ⟨some ⟨"v1", kind⟩, { name := some name, inNamespace := some "default" }, []⟩

/-- The objects of the manifests. -/
def plainObjects : List Object :=
  [plainObject "Secret" "token", plainObject "ConfigMap" "web", plainObject "ConfigMap" "cache"]

/-- The row of a config map in the default namespace, without labels and data. -/
def plainRow (name : String) : Table.Row Component :=
  .ofCells [
    ("Name", .link ⟨name, "/overview/namespace/default/config-and-storage/config-maps/" ++ name⟩),
    ("Labels", .labels ∅), ("Data", .text "0"), ("Age", .timestamp 0)]

/-- The table of the config maps. -/
def plainTable : Table Component where
  title := "ConfigMaps"
  columns := Table.columnsNamed ["Name", "Labels", "Data", "Age"]
  rows := [plainRow "cache", plainRow "web"]
  emptyContent := "We couldn't find any config maps!"

/-- The arguments that ask for a list of everything. -/
def listArguments : PrintArguments := { list := true }

/-- The arguments that ask for a list of jobs. -/
def jobArguments : PrintArguments := { list := true, kind := some "Job" }

theorem mem_plainObjects_iff {x : Object} : x ∈ plainObjects ↔ x = plainObject "Secret" "token" ∨
    x = plainObject "ConfigMap" "web" ∨ x = plainObject "ConfigMap" "cache" := by
  simp [plainObjects]

theorem eq_of_le_cache {x : Object} (hx : x ∈ plainObjects)
    (hle : x.place ≤ (plainObject "ConfigMap" "cache").place) :
    x = plainObject "ConfigMap" "cache" := by
  rw [Object.place_le_iff] at hle
  rcases mem_plainObjects_iff.1 hx with rfl | rfl | rfl
  · exact absurd hle (by decide)
  · exact absurd hle (by decide)
  · rfl

theorem documents_secretAndMapText : Manifest.documents secretAndMapText =
    [.ok (.object [("apiVersion", .string "v1"), ("kind", .string "Secret"),
      ("metadata", .object [("name", .string "token")])]),
     .ok (.object [("apiVersion", .string "v1"), ("kind", .string "ConfigMap"),
      ("metadata", .object [("name", .string "web")])])] := by
  decide +kernel

theorem documents_mapText : Manifest.documents mapText =
    [.ok (.object [("apiVersion", .string "v1"), ("kind", .string "ConfigMap"),
      ("metadata", .object [("name", .string "cache")])])] := by
  decide +kernel

theorem loaded_plainObjects :
    Manifest.Loaded "default" [some secretAndMapText, some mapText] plainObjects := by
  refine ⟨[[_, _], [_]], rfl, .cons ⟨_, rfl, ?_⟩ (.cons ⟨_, rfl, ?_⟩ .nil)⟩
  · rw [Manifest.read, documents_secretAndMapText]
    rfl
  · rw [Manifest.read, documents_mapText]
    rfl

/-- In the order of the store, the config map that is given last comes first. -/
theorem selectList_plainObjects : selectList (MemoryStore.ofObjects plainObjects).objects
    listArguments = some (⟨"v1", "ConfigMap"⟩,
      [plainObject "ConfigMap" "cache", plainObject "ConfigMap" "web"]) := by
  have hperm : plainObjects.Perm [plainObject "ConfigMap" "cache", plainObject "Secret" "token",
      plainObject "ConfigMap" "web"] := List.perm_append_singleton _ [_, _]
  have hantisymm : ∀ x ∈ plainObjects, ∀ y ∈ plainObjects,
      Object.le x y = true → Object.le y x = true → x = y := by
    simp only [mem_plainObjects_iff]
    rintro x (rfl | rfl | rfl) y (rfl | rfl | rfl) hxy hyx
    all_goals first | rfl | exact absurd hxy (by decide) | exact absurd hyx (by decide)
  have hsorted : (MemoryStore.ofObjects plainObjects).objects =
      [plainObject "ConfigMap" "cache", plainObject "Secret" "token",
        plainObject "ConfigMap" "web"] :=
    (StableSort.mergeSort_eq_of_perm Object.le_trans Object.le_total hperm hantisymm).trans
      (List.mergeSort_of_pairwise (by decide))
  rw [hsorted]
  rfl

theorem printList_plainTable (store : MemoryStore) :
    PrintableKind.configMap.printList (({} : Config).options store)
      [plainObject "ConfigMap" "cache", plainObject "ConfigMap" "web"] =
        .ok (.table plainTable) := by
  rfl

/-- Both config maps are listed, and the secret is not. Nothing is printed where jobs are asked
for. -/
theorem printObjects_lists_plainObjects :
    let files := [some secretAndMapText, some mapText]
    MemoryStore.ofFiles "default" files = .ok (.ofObjects plainObjects) ∧
      (∃ listed, (listArguments.query ⟨"v1", "ConfigMap"⟩).IsAnswer plainObjects listed ∧
        PrintsList {} listArguments ⟨"v1", "ConfigMap"⟩ listed
          (printObjects {} listArguments files)) ∧
      printObjects {} listArguments files = .ok (Component.table plainTable).toJson.compact ∧
      printObjects {} jobArguments files = .error .noObjects := by
  intro files
  have hload : MemoryStore.ofFiles "default" files = .ok (.ofObjects plainObjects) :=
    MemoryStore.ofFiles_eq_ok_iff.2 ⟨_, loaded_plainObjects, rfl⟩
  refine ⟨hload, ?_, ?_, ?_⟩
  · obtain ⟨given, hgiven, hlists⟩ :=
      (printObjects_lists (c := {}) (a := listArguments) hload rfl).1
    obtain rfl := hgiven.eq loaded_plainObjects
    have hcache : plainObject "ConfigMap" "cache" ∈ plainObjects := by simp [plainObjects]
    have hasked : listArguments.AsksFor (plainObject "ConfigMap" "cache") :=
      ⟨⟨_, rfl, fun _ h => (nomatch h)⟩, fun _ h => (nomatch h)⟩
    obtain ⟨first, t, listed, hfirst, htypes, hanswer, hprints⟩ :=
      hlists.prints_first ⟨_, hcache, hasked⟩
    obtain rfl := eq_of_le_cache hfirst.mem (hfirst.place_le hcache hasked)
    obtain rfl : ⟨"v1", "ConfigMap"⟩ = t := Option.some.inj htypes
    exact ⟨listed, hanswer, hprints⟩
  · have hcompact : listArguments.pretty = false := rfl
    rw [printObjects_eq_ok_iff (c := {}) hload rfl selectList_plainObjects, hcompact]
    exact ⟨by simp, .configMap, rfl, _, printList_plainTable _, (if_neg Bool.false_ne_true).symm⟩
  · obtain ⟨given, hgiven, hlists⟩ :=
      (printObjects_lists (c := {}) (a := jobArguments) hload rfl).1
    obtain rfl := hgiven.eq loaded_plainObjects
    have hnone : ∀ x ∈ plainObjects, ¬ jobArguments.AsksFor x := by
      intro x hx hasks
      obtain ⟨t, ht, hkind⟩ := hasks.types
      rcases mem_plainObjects_iff.1 hx with rfl | rfl | rfl <;> cases ht <;>
        exact absurd (hkind _ rfl) (by decide)
    obtain ⟨e, herror, hreport⟩ := hlists.error_of_none hnone
    rw [herror, hreport (by simp)]

end Program

end ClusterView
