import ClusterView.Link.Path
import ClusterView.Proofs.Cluster.Conversion

/-!
# Links by path

A link needs a name, a type that is shown and, unless objects of the type live in none, a namespace
(`exists_link_iff`); for a type that is shown an error says which of the others is missing
(`link_eq_error`). So an object that lives in a namespace is linked by its name and its namespace,
and neither may be empty (`Reference.hasAddress`). If its type is shown at all, nothing else can
keep it from being linked (`forObject_eq_ok`), and what is missing is reported, the name before the
namespace (`forObject_eq_error`).
-/

namespace ClusterView

/-! ## What a link needs -/

/-- Whether a target has a path: its name is not empty, objects of its type are shown, and they live
in no namespace or there is one. -/
structure LinkTarget.HasPath (t : LinkTarget) : Prop where
  name : t.name ≠ ""
  viewSection : ∃ viewSection, viewSection? t.apiVersion t.kind = some viewSection
  inNamespace : isClusterScoped t.apiVersion t.kind = true ∨
    ∃ ns, t.inNamespace = some ns ∧ ns ≠ ""

namespace LinkGenerator

variable {base : String} {t : LinkTarget}

theorem exists_link_iff : (∃ link, (pathLinks base).link t = .ok link) ↔ t.HasPath := by
  constructor
  · rintro ⟨link, h⟩
    simp only [pathLinks] at h
    split at h
    · cases h
    · rename_i hname
      split at h
      · cases h
      · rename_i viewSection hview
        refine ⟨hname, ⟨viewSection, hview⟩, ?_⟩
        split at h
        · rename_i hscope
          exact .inl hscope
        · split at h
          · cases h
          · cases h
          · rename_i ns hne hns
            exact .inr ⟨ns, hns, hne⟩
  · rintro ⟨hname, ⟨viewSection, hview⟩, hns⟩
    simp only [pathLinks, if_neg hname, hview]
    split
    · exact ⟨_, rfl⟩
    · rename_i hscope
      obtain ⟨ns, hns, hne⟩ := hns.resolve_left hscope
      simp [hns]

/-- A target of a type that is shown lacks a name or a namespace, unless it has a path. -/
theorem link_eq_error (hview : ∃ viewSection, viewSection? t.apiVersion t.kind = some viewSection)
    (h : ¬t.HasPath) : (pathLinks base).link t = .error
      (if t.name = "" then .missingName t.kind else .missingNamespace t.kind t.name) := by
  by_cases hname : t.name = ""
  · simp only [pathLinks, if_pos hname]
  · have hscope : ¬isClusterScoped t.apiVersion t.kind = true := fun hscope =>
      h ⟨hname, hview, .inl hscope⟩
    have hns : ∀ ns, t.inNamespace = some ns → ns = "" := fun ns hns =>
      Decidable.not_not.1 fun hne => h ⟨hname, hview, .inr ⟨ns, hns, hne⟩⟩
    obtain ⟨viewSection, hview⟩ := hview
    simp only [pathLinks, if_neg hname, hview, if_neg hscope]
    cases ht : t.inNamespace with
    | none => rfl
    | some ns =>
      obtain rfl := hns ns ht
      rfl

end LinkGenerator

/-! ## Objects that live in namespaces -/

namespace Reference

/-- Whether the name and the namespace are there and not empty. -/
def hasAddress (r : Reference) : Bool := r.name ≠ "" && r.inNamespace.any (· ≠ "")

/-- What a reference lacks that has no address. -/
def addressError (r : Reference) : LinkError :=
  if r.name = "" then .missingName r.kind else .missingNamespace r.kind r.name

/-- What the link to the object is made for. -/
def target (r : Reference) (text : String) : LinkTarget :=
  ⟨r.inNamespace, r.apiVersion, r.kind, r.name, text⟩

theorem hasAddress_iff {r : Reference} :
    r.hasAddress = true ↔ r.name ≠ "" ∧ ∃ ns, r.inNamespace = some ns ∧ ns ≠ "" := by
  simp [hasAddress, Option.any_eq_true]

end Reference

namespace LinkGenerator

/-- A link shows the text that it is made for. -/
theorem text_of_forObject {base text : String} {r : Reference} {link : Link}
    (h : (pathLinks base).forObject r text = .ok link) : link.text = text := by
  simp only [forObject, pathLinks] at h
  split at h
  · cases h
  · split at h
    · cases h
    · split at h
      · cases h
        rfl
      · split at h <;> cases h
        rfl

theorem exists_forObject_iff {base text : String} {r : Reference} :
    (∃ link, (pathLinks base).forObject r text = .ok link) ↔ (r.target text).HasPath :=
  exists_link_iff

theorem forObject_eq_addressError {base text : String} {r : Reference}
    (hview : ∃ viewSection, viewSection? r.apiVersion r.kind = some viewSection)
    (h : ¬(r.target text).HasPath) : (pathLinks base).forObject r text = .error r.addressError :=
  link_eq_error hview h

variable {base viewSection text : String} {r : Reference}
  (hview : viewSection? r.apiVersion r.kind = some viewSection)
  (hscope : isClusterScoped r.apiVersion r.kind = false)
include hview hscope

theorem forObject_eq_ok {ns : String} (hname : r.name ≠ "") (hns : r.inNamespace = some ns)
    (hne : ns ≠ "") : (pathLinks base).forObject r text =
      .ok ⟨text, namespacedPath (Text.trimEnd '/' base) ns viewSection r.name⟩ := by
  simp [forObject, pathLinks, hname, hview, hscope, hns]

theorem forObject_eq_error (h : r.hasAddress = false) :
    (pathLinks base).forObject r text = .error r.addressError := by
  refine forObject_eq_addressError ⟨viewSection, hview⟩ fun hpath => ?_
  have hcluster : ¬isClusterScoped r.apiVersion r.kind = true := by simp [hscope]
  obtain ⟨ns, hns, hne⟩ := hpath.inNamespace.resolve_left hcluster
  have haddress := Reference.hasAddress_iff.2 ⟨hpath.name, ns, hns, hne⟩
  rw [h] at haddress
  cases haddress

end LinkGenerator

/-! ## Objects of a type -/

/-- The objects of a type are shown and live in namespaces. -/
structure TypeMeta.IsShownInNamespaces (t : TypeMeta) : Prop where
  viewSection : ∃ viewSection, viewSection? t.apiVersion t.kind = some viewSection
  inNamespace : isClusterScoped t.apiVersion t.kind = false

namespace Object

/-- The link by path to an object of a type, which shows the name of the object. -/
def pathLink (base : String) (t : TypeMeta) (x : Object) : Except LinkError Link :=
  (pathLinks base).forObject (.ofType t x) x.displayName

variable {base : String} {t : TypeMeta} (ht : t.IsShownInNamespaces) {x : Object}
include ht

theorem exists_pathLink_eq_ok (hx : (Reference.ofType t x).hasAddress = true) :
    ∃ link, x.pathLink base t = .ok link := by
  obtain ⟨viewSection, hview⟩ := ht.viewSection
  obtain ⟨hname, ns, hns, hne⟩ := Reference.hasAddress_iff.1 hx
  exact ⟨_, LinkGenerator.forObject_eq_ok (r := .ofType t x) hview ht.inNamespace hname hns hne⟩

theorem pathLink_eq_error (hx : (Reference.ofType t x).hasAddress = false) :
    x.pathLink base t = .error (Reference.ofType t x).addressError := by
  obtain ⟨viewSection, hview⟩ := ht.viewSection
  exact LinkGenerator.forObject_eq_error (r := .ofType t x) hview ht.inNamespace hx

end Object

end ClusterView
