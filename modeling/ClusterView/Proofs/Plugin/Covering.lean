import ClusterView.Proofs.CommandLine.Selected
import ClusterView.Proofs.Plugin.Named
import Mathlib.Data.List.Find

/-!
# Plugins that cover what is asked for

A plugin is declared for the texts of types, and objects are asked for by such a text. Coverage
takes an API version apart into group and version, selection compares it as it stands. Two API
versions have the same parts only if they are equal or differ in a slash in front
(`splitApiVersion_eq_splitApiVersion_iff`), so where no slash is in front both agree: the objects
that a plugin covers that is declared for one text are those that are selected by the same text, and
all of them are of the one type with this text (`PluginDeclaration.covers_iff_selected`).
-/

namespace ClusterView

/-! ## API versions with the same parts -/

/-- A slash in front of a version changes nothing. -/
theorem splitApiVersion_slash {version : String} (h : '/' ∉ version.toList) :
    splitApiVersion ("/" ++ version) = splitApiVersion version := by
  have hslash : splitApiVersion ("/" ++ version) = ("", version) :=
    splitApiVersion_eq_iff.2 (.inl ⟨by simp, by simp⟩)
  rw [hslash, splitApiVersion_eq_iff.2 (.inr ⟨rfl, rfl, h⟩)]

/-- API versions have the same group and the same version if they are equal, or if one of them is a
version alone and the other has a slash in front of it. -/
theorem splitApiVersion_eq_splitApiVersion_iff {a b : String} :
    splitApiVersion a = splitApiVersion b ↔
      a = b ∨ (a = "/" ++ b ∧ '/' ∉ b.toList) ∨ b = "/" ++ a ∧ '/' ∉ a.toList := by
  constructor
  · intro h
    rcases splitApiVersion_eq_iff.1 h with ⟨ha, -⟩ | ⟨hcore, ha, hslash⟩ <;>
      rcases splitApiVersion_eq_iff.1 (rfl : splitApiVersion b = _) with
        ⟨hb, -⟩ | ⟨hcore', hb, hslash'⟩
    · exact .inl (ha.trans hb.symm)
    · rw [hcore', ← hb] at ha
      exact .inr (.inl ⟨by simpa using ha, hb ▸ hslash'⟩)
    · rw [hcore, ← ha] at hb
      exact .inr (.inr ⟨by simpa using hb, ha ▸ hslash⟩)
    · exact .inl (ha.trans hb.symm)
  · rintro (rfl | ⟨rfl, hslash⟩ | ⟨rfl, hslash⟩)
    · rfl
    · exact splitApiVersion_slash hslash
    · exact (splitApiVersion_slash hslash).symm

theorem splitApiVersion_inj {a b : String} (ha : Text.startsWith a "/" = false)
    (hb : Text.startsWith b "/" = false) : splitApiVersion a = splitApiVersion b ↔ a = b := by
  rw [splitApiVersion_eq_splitApiVersion_iff, or_iff_left]
  rintro (⟨hslash, -⟩ | ⟨hslash, -⟩)
  · exact Text.startsWith_eq_false_iff.1 ha _ hslash
  · exact Text.startsWith_eq_false_iff.1 hb _ hslash

/-- Where no slash is in front, a text is read as a type exactly if it has its API version and its
kind. -/
theorem GroupVersionKind.ofText?_eq_some_ofApiVersion_iff {s apiVersion kind : String}
    (hs : Text.startsWith s "/" = false) (hversion : Text.startsWith apiVersion "/" = false) :
    ofText? s = some (ofApiVersion apiVersion kind) ↔
      s = apiVersion ++ "/" ++ kind ∧ apiVersion ≠ "" ∧ IsPart kind := by
  rw [ofText?_eq_some_iff]
  constructor
  · rintro ⟨a, rfl, ha, hkind, hsplit⟩
    have hfront : Text.startsWith a "/" = false := by
      refine Text.startsWith_eq_false_iff.2 fun rest hrest => ?_
      have hslash := Text.startsWith_eq_false_iff.1 hs (rest ++ "/" ++ kind)
      simp [hrest, ofApiVersion, String.append_assoc] at hslash
    obtain rfl := (splitApiVersion_inj hfront hversion).1 hsplit
    exact ⟨rfl, ha, hkind⟩
  · rintro ⟨rfl, ha, hkind⟩
    exact ⟨apiVersion, rfl, ha, hkind, rfl⟩

/-! ## Texts of objects -/

/-- Whether a text is the API version and the kind of an object with a slash between them, and the
kind has no slash itself. -/
def Object.IsWrittenAs (x : Object) (s : String) : Prop :=
  ∃ t, x.types = some t ∧ s = t.apiVersion ++ "/" ++ t.kind ∧ '/' ∉ t.kind.toList

/-- The objects that are written as one text are all of one type. -/
theorem Object.IsWrittenAs.types_eq {x y : Object} {s : String} (hx : x.IsWrittenAs s)
    (hy : y.IsWrittenAs s) : x.types = y.types := by
  obtain ⟨⟨apiVersion, kind⟩, htypes, rfl, hslash⟩ := hx
  obtain ⟨⟨apiVersion', kind'⟩, htypes', hs, hslash'⟩ := hy
  obtain ⟨rfl, rfl⟩ := (Text.append_slash_inj_last hslash hslash').1 hs
  rw [htypes, htypes']

/-! ## Coverage and selection -/

/-- Whether a declared plugin adds to the page of an object. -/
def PluginDeclaration.covers (d : PluginDeclaration) (x : Object) : Bool :=
  let r := Reference.ofObject x
  d.metadata.capabilities.covers r.apiVersion r.kind

/-- Whether no slash is in front of the API version of an object. -/
def Object.HasPlainVersion (x : Object) : Prop :=
  Text.startsWith (Reference.ofObject x).apiVersion "/" = false

theorem PluginDeclaration.covers_iff {d : PluginDeclaration} {x : Object} :
    d.covers x = true ↔ ∃ s ∈ d.printer, GroupVersionKind.ofText? s =
      some (.ofApiVersion (Reference.ofObject x).apiVersion (Reference.ofObject x).kind) := by
  simp only [covers, Capabilities.covers, metadata, GroupVersionKind.isType, List.any_append,
    Bool.or_self, List.any_eq_true, List.mem_filterMap, beq_iff_eq]
  constructor
  · rintro ⟨_, ⟨s, hs, htext⟩, rfl⟩
    exact ⟨s, hs, htext⟩
  · rintro ⟨s, hs, htext⟩
    exact ⟨_, ⟨s, hs, htext⟩, rfl⟩

section

variable {s : String} {x : Object} (hread : ∃ g, GroupVersionKind.ofText? s = some g)
include hread

/-- A plugin that is declared for a text covers the objects that are written as it. -/
theorem PluginDeclaration.covers_iff_isWrittenAs {d : PluginDeclaration} (hd : d.printer = [s])
    (hs : Text.startsWith s "/" = false) (hx : x.HasPlainVersion) :
    d.covers x = true ↔ x.IsWrittenAs s := by
  rw [covers_iff, hd]
  simp only [List.mem_singleton, exists_eq_left]
  rw [GroupVersionKind.ofText?_eq_some_ofApiVersion_iff hs hx]
  constructor
  · rintro ⟨htext, hversion, hkind⟩
    cases htypes : x.types with
    | none => simp [Reference.ofObject, htypes] at hversion
    | some t =>
      simp only [Reference.ofObject, htypes] at htext hkind
      exact ⟨t, htypes, htext, hkind.2⟩
  · rintro ⟨t, htypes, rfl, hslash⟩
    obtain ⟨g, hg⟩ := hread
    obtain ⟨apiVersion, htext, hversion, hkind, -⟩ := GroupVersionKind.ofText?_eq_some_iff.1 hg
    obtain ⟨rfl, hg⟩ := (Text.append_slash_inj_last hslash hkind.2).1 htext
    simp only [Reference.ofObject, htypes]
    exact ⟨trivial, hversion, hg ▸ hkind⟩

/-- The objects for which the text of a type is asked are those that are written as it. -/
theorem PrintArguments.admits_iff_isWrittenAs {a : PrintArguments} (hkind : a.kind = some s)
    (hns : a.inNamespace = none) : a.admits x = true ↔ x.IsWrittenAs s := by
  have hslash : '/' ∈ s.toList := by
    obtain ⟨g, hg⟩ := hread
    obtain ⟨apiVersion, rfl, -⟩ := GroupVersionKind.ofText?_eq_some_iff.1 hg
    simp
  rw [admits_iff_asksFor]
  constructor
  · rintro ⟨⟨t, htypes, htype⟩, -⟩
    obtain ⟨hnone, rfl | htext⟩ := htype s hkind
    · exact absurd hslash hnone
    · exact ⟨t, htypes, htext, hnone⟩
  · rintro ⟨t, htypes, htext, hnone⟩
    refine ⟨⟨t, htypes, fun s' hs' => ?_⟩, fun ns h => nomatch hns.symm.trans h⟩
    obtain rfl := Option.some.inj (hkind.symm.trans hs')
    exact ⟨hnone, .inr htext⟩

end

/-- Where all objects that are asked for have one type, they are the list. -/
theorem selectList_of_sameType {a : PrintArguments} {objects : List Object}
    (h : ∀ x ∈ objects, ∀ y ∈ objects, a.admits x = true → a.admits y = true → x.types = y.types) :
    selectList objects a = (objects.find? a.admits).bind fun x =>
      x.types.map fun t => (t, objects.filter a.admits) := by
  unfold selectList
  cases hfirst : objects.find? a.admits with
  | none => rfl
  | some x =>
    rw [Option.bind_eq_bind, Option.bind_some, Option.bind_some]
    cases htypes : x.types with
    | none => rfl
    | some t =>
      have hfilter : objects.filter (fun y => y.types == some t && a.admits y) =
          objects.filter a.admits := by
        refine List.filter_congr fun y hy => ?_
        cases hadmits : a.admits y with
        | false => exact Bool.and_false _
        | true =>
          have hsame := h y hy x (List.mem_of_find?_eq_some hfirst) hadmits (List.find?_some hfirst)
          rw [hsame, htypes, beq_self_eq_true, Bool.and_true]
      rw [Option.bind_eq_bind, Option.bind_some, Option.map_some, hfilter]

/-- Whether a declared plugin covers what is selected by the text of a type. -/
structure PluginDeclaration.AgreesWith (d : PluginDeclaration) (a : PrintArguments) (s : String) :
    Prop where
  covers_iff : ∀ x : Object, x.HasPlainVersion → (d.covers x = true ↔ x.IsWrittenAs s)
  names_iff : ∀ x : Object, a.names x = true ↔ x.IsWrittenAs s
  /-- The first object that the plugin covers is selected. -/
  selectObject : ∀ objects : List Object, (∀ x ∈ objects, x.HasPlainVersion) →
    selectObject objects a = objects.find? d.covers
  /-- All objects that the plugin covers are selected for a list. -/
  selectList : ∀ objects : List Object, (∀ x ∈ objects, x.HasPlainVersion) →
    selectList objects a = (objects.find? d.covers).bind fun x =>
      x.types.map fun t => (t, objects.filter d.covers)
  /-- Objects of different types are never both covered. -/
  types : ∀ x y : Object, x.HasPlainVersion → y.HasPlainVersion → d.covers x = true →
    d.covers y = true → x.types = y.types

/-- **A plugin covers what is selected by the same text.** Where no slash is in front of the text of
a type nor of the API versions of objects, a plugin that is declared for this text covers an object
exactly if asking for the text alone selects it, and this is so exactly if the text is the API
version, a slash and the kind of the object. -/
theorem PluginDeclaration.covers_iff_selected {s : String} {d : PluginDeclaration}
    {a : PrintArguments} (hread : ∃ g, GroupVersionKind.ofText? s = some g)
    (hs : Text.startsWith s "/" = false) (hd : d.printer = [s])
    (ha : a.kind = some s ∧ a.name = none ∧ a.inNamespace = none) : d.AgreesWith a s := by
  obtain ⟨hkind, hname, hns⟩ := ha
  have hcovers (x : Object) (hx : x.HasPlainVersion) : d.covers x = true ↔ x.IsWrittenAs s :=
    covers_iff_isWrittenAs hread hd hs hx
  have hadmits (x : Object) : a.admits x = true ↔ x.IsWrittenAs s :=
    PrintArguments.admits_iff_isWrittenAs hread hkind hns
  have hnames (x : Object) : a.names x = a.admits x := by
    rw [PrintArguments.names, hname, Option.all_none, Bool.and_true]
  have hsame (x : Object) (hx : x.HasPlainVersion) : a.admits x = d.covers x := by
    rw [Bool.eq_iff_iff, hadmits, hcovers x hx]
  refine ⟨hcovers, fun x => hnames x ▸ hadmits x, fun objects hplain => ?_,
    fun objects hplain => ?_, fun x y hx hy hcx hcy => ?_⟩
  · exact List.find?_congr fun x hx => (hnames x).trans (hsame x (hplain x hx))
  · rw [selectList_of_sameType fun x _ y _ hx hy => ((hadmits x).1 hx).types_eq ((hadmits y).1 hy),
      List.find?_congr fun x hx => hsame x (hplain x hx),
      List.filter_congr fun x hx => hsame x (hplain x hx)]
  · exact ((hcovers x hx).1 hcx).types_eq ((hcovers y hy).1 hcy)

/-- A plugin for deployments. -/
def scaler : PluginDeclaration := { name := "scaler", printer := ["apps/v1/Deployment"] }

/-- What asks for deployments. -/
def deploymentArguments : PrintArguments :=
  { files := ["web.yaml"], kind := some "apps/v1/Deployment" }

/-- An object of which only the type is known. -/
def objectOf (apiVersion kind : String) : Object := ⟨some ⟨apiVersion, kind⟩, {}, []⟩

/-- Deployments are covered and selected, but not those of another group, and no jobs. -/
theorem covers_iff_selected_scaler :
    let objects := [objectOf "extensions/v1" "Deployment", objectOf "batch/v1" "Job",
      objectOf "apps/v1" "Deployment"]
    (∃ g, GroupVersionKind.ofText? "apps/v1/Deployment" = some g) ∧
      Text.startsWith "apps/v1/Deployment" "/" = false ∧
      scaler.AgreesWith deploymentArguments "apps/v1/Deployment" ∧
      (∀ x ∈ objects, x.HasPlainVersion) ∧ objects.map scaler.covers = [false, false, true] ∧
      selectList objects deploymentArguments =
        some (⟨"apps/v1", "Deployment"⟩, [objectOf "apps/v1" "Deployment"]) := by
  intro objects
  have hread : ∃ g, GroupVersionKind.ofText? "apps/v1/Deployment" = some g := ⟨_, rfl⟩
  have hagrees : scaler.AgreesWith deploymentArguments "apps/v1/Deployment" :=
    PluginDeclaration.covers_iff_selected hread rfl rfl ⟨rfl, rfl, rfl⟩
  have hplain : ∀ x ∈ objects, x.HasPlainVersion := by
    simp only [objects, List.forall_mem_cons]
    exact ⟨rfl, rfl, rfl, List.forall_mem_nil _⟩
  exact ⟨hread, rfl, hagrees, hplain, rfl, (hagrees.selectList objects hplain).trans rfl⟩

/-- With a slash in front of the text, pods are covered but not selected. -/
example : let pods : PluginDeclaration := { name := "pods", printer := ["/v1/Pod"] }
    pods.covers (objectOf "v1" "Pod") = true ∧
      selectObject [objectOf "v1" "Pod"] { kind := some "/v1/Pod" } = none :=
  ⟨rfl, rfl⟩

end ClusterView
