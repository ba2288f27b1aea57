import ClusterView.Cluster.Metadata

/-!
# Cluster objects

An `Object` is a cluster object as a manifest writes it: its type, if the manifest names one, its
metadata, and the rest untouched. The version of a type is read before its kind, so a version that
is no text leaves the kind among the rest. A `Resource` is a kind of objects whose fields have
types; `Object.as?` reads an object as a resource and `Resource.toObject` writes it back.
-/

namespace ClusterView

open Json

/-- The type of an object. -/
structure TypeMeta where
  apiVersion : String
  kind : String
deriving DecidableEq

/-- A cluster object with fields of any kind. -/
structure Object where
  /-- The type, missing unless both of its parts are texts. -/
  types : Option TypeMeta
  metadata : ObjectMeta
  /-- The fields beside the type and the metadata. -/
  fields : List (String × Json)

namespace Object

/-- The type that fields name, if both of its parts are texts. -/
def types? (fields : List (String × Json)) : Option TypeMeta := do
  let apiVersion ← (← lookup fields "apiVersion").text?
  let kind ← (← lookup fields "kind").text?
  some ⟨apiVersion, kind⟩

/-- Whether fields have a version that is no text. -/
def hasOddVersion (fields : List (String × Json)) : Bool :=
  (lookup fields "apiVersion").any fun j => j.text?.isNone

/-- The fields beside the type and the metadata. -/
def otherFields (fields : List (String × Json)) : List (String × Json) :=
  fields.filter fun f =>
    f.1 ≠ "apiVersion" && f.1 ≠ "metadata" && (f.1 ≠ "kind" || hasOddVersion fields)

/-- Reads an object. Metadata may be missing but not `null`. -/
def ofJson? : Json → Option Object
  | .object fields => do
    let metadata ←
      match lookup fields "metadata" with
      | none => some {}
      | some j => decode? j
    some ⟨types? fields, metadata, otherFields fields⟩
  | _ => none

/-- Writes an object. -/
def toJson (o : Object) : Json :=
  let types :=
    match o.types with
    | some t => [("apiVersion", .string t.apiVersion), ("kind", .string t.kind)]
    | none => []
  .object (types ++ [("metadata", encode o.metadata)] ++ o.fields)

/-- The name that is shown for the object. -/
def displayName (o : Object) : String := o.metadata.displayName

end Object

/-! ## Resources -/

/-- A kind of objects whose fields have types. -/
class Resource (α : Type) where
  apiVersion : String
  kind : String
  metadata : α → ObjectMeta
  /-- Reads the fields beside the type and the metadata. -/
  ofFields? : ObjectMeta → List (String × Json) → Option α
  /-- Writes the fields beside the type and the metadata. -/
  toFields : α → List (String × Json)

/-- Reads an object as a resource: an object with a type, or with a kind alone, has to be of the
resource's. -/
def Object.as? (α : Type) [Resource α] (o : Object) : Option α := do
  match o.types, lookup o.fields "kind" with
  | some t, _ => guard (t.apiVersion = Resource.apiVersion α ∧ t.kind = Resource.kind α)
  | none, some kind => guard (kind.text? = some (Resource.kind α))
  | none, none => some ()
  Resource.ofFields? o.metadata o.fields

namespace Resource

variable {α : Type} [Resource α]

/-- Writes a resource as an object. -/
def toObject (r : α) : Object :=
  ⟨some ⟨apiVersion α, kind α⟩, metadata r, toFields r⟩

/-- The name that is shown for the resource. -/
def displayName (r : α) : String := (metadata r).displayName

end Resource

end ClusterView
