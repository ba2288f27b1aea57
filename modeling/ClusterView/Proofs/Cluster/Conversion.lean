import ClusterView.Cluster.Kind.Storage
import ClusterView.Cluster.Kind.Workload
import ClusterView.Store.Basic

/-!
# Reading objects as resources

A resource is read from the fields of an object and takes the metadata of the object over as it is
(`Object.metadata_of_as?`). So it has the name and the namespace of the object that it was read
from, and is referred to as that object (`Reference.ofResource_eq_ofType`).
-/

namespace ClusterView

section

variable {α β : Type} [Resource α] {m : ObjectMeta}

/-- A resource has the given metadata, if there is one. -/
def ReadWith (m : ObjectMeta) (x : Option α) : Prop := ∀ r ∈ x, Resource.metadata r = m

theorem ReadWith.some {r : α} (h : Resource.metadata r = m) : ReadWith m (some r) := by
  rintro _ ⟨⟩
  exact h

/-- The fields that are read before a resource is made do not matter to its metadata. -/
theorem ReadWith.bind {x : Option β} {f : β → Option α} (h : ∀ b, ReadWith m (f b)) :
    ReadWith m (x >>= f) := by
  intro r hr
  obtain ⟨b, -, hb⟩ := Option.bind_eq_some_iff.1 hr
  exact h b r hb

end

/-- A kind of resources that are read with the metadata of their objects. -/
class LawfulResource (α : Type) [Resource α] : Prop where
  readWith (m : ObjectMeta) (fields : List (String × Json)) :
    ReadWith m (Resource.ofFields? m fields : Option α)

/-! ## Conversion -/

namespace Object

variable {α : Type} [Resource α] {x : Object} {r : α}

theorem ofFields?_of_as? (h : x.as? α = some r) :
    Resource.ofFields? x.metadata x.fields = some r := by
  unfold as? at h
  split at h
  · exact (Option.bind_eq_some_iff.1 h).choose_spec.2
  · exact (Option.bind_eq_some_iff.1 h).choose_spec.2
  · exact h

/-- A resource has the metadata of the object that it is read from. -/
theorem metadata_of_as? [LawfulResource α] (h : x.as? α = some r) :
    Resource.metadata r = x.metadata :=
  LawfulResource.readWith x.metadata x.fields r (ofFields?_of_as? h)

theorem metadata_of_convert [LawfulResource α] (h : x.convert α = .ok r) :
    Resource.metadata r = x.metadata :=
  metadata_of_as? (convert_eq_ok_iff.1 h)

/-- Whether an object has the shape of a kind of resources. -/
def Converts (α : Type) [Resource α] (x : Object) : Prop := ∃ r : α, x.convert α = .ok r

theorem convert_eq_error {e : StoreError} (h : x.convert α = .error e) : e = .conversion := by
  unfold convert at h
  split at h
  · cases h
  · exact (Except.error.inj h).symm

end Object

/-! ## References -/

/-- The type of a kind of resources. -/
def Resource.types (α : Type) [Resource α] : TypeMeta :=
  ⟨Resource.apiVersion α, Resource.kind α⟩

namespace Reference

/-- The reference to an object as one of a type. -/
def ofType (t : TypeMeta) (x : Object) : Reference :=
  ⟨t.apiVersion, t.kind, x.metadata.inNamespace, x.displayName, x.metadata.uid⟩

/-- An object is referred to as one of its type. -/
theorem ofObject_eq_ofType {t : TypeMeta} {x : Object} (h : x.types = some t) :
    ofObject x = ofType t x := by
  simp only [ofObject, h]
  rfl

/-- A resource is referred to as the object that it is read from. -/
theorem ofResource_eq_ofType {α : Type} [Resource α] [LawfulResource α] {x : Object} {r : α}
    (h : x.convert α = .ok r) : ofResource r = ofType (Resource.types α) x := by
  have hmeta := Object.metadata_of_convert h
  simp only [ofResource, ofType, Resource.types, hmeta, Object.displayName]

theorem ofResource_eq_ofObject {α : Type} [Resource α] [LawfulResource α] {x : Object} {r : α}
    (htypes : x.types = some (Resource.types α)) (h : x.convert α = .ok r) :
    ofResource r = ofObject x :=
  (ofResource_eq_ofType h).trans (ofObject_eq_ofType htypes).symm

end Reference

/-! ## The kinds that are printed -/

instance : LawfulResource Deployment := ⟨fun _ _ => .bind fun _ => .bind fun _ => .some rfl⟩

instance : LawfulResource Job := ⟨fun _ _ => .bind fun _ => .bind fun _ => .some rfl⟩

instance : LawfulResource ReplicationController :=
  ⟨fun _ _ => .bind fun _ => .bind fun _ => .some rfl⟩

instance : LawfulResource ConfigMap := ⟨fun _ _ => .bind fun _ => .bind fun _ => .some rfl⟩

instance : LawfulResource Secret :=
  ⟨fun _ _ => .bind fun _ => .bind fun _ => .bind fun _ => .some rfl⟩

instance : LawfulResource ServiceAccount := ⟨fun _ _ => .bind fun _ => .bind fun _ => .some rfl⟩

end ClusterView
