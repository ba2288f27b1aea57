import ClusterView.Store.Memory
import ClusterView.Yaml.Value

/-!
# Stores of manifests

A manifest is a YAML text whose documents are objects or lists of objects. The objects of a store
have a type and a name, and the namespace of those that live in one is never missing; the first
document that does not give such objects decides.
-/

namespace ClusterView

namespace Manifest

/-! ## Documents -/

/-- A document of a manifest as JSON. -/
def documentJson (d : Option Yaml.Document) : Except StoreError Json :=
  match d.bind Yaml.Value.ofDocument? with
  | none => .error .malformedManifest
  | some value =>
    match value.toJson? with
    | none => .error .conversion
    | some j => .ok j

/-- The documents of a manifest as JSON. -/
def documents (text : String) : List (Except StoreError Json) :=
  (Yaml.Document.ofText text).map documentJson

/-! ## Objects -/

/-- The object with a namespace, which it keeps if it has one or lives in none. -/
def withNamespace (ns : String) (types : TypeMeta) (o : Object) : Object :=
  if o.metadata.inNamespace.isNone && !isClusterScoped types.apiVersion types.kind then
    { o with metadata := { o.metadata with inNamespace := some ns } }
  else o

/-- Reads an object of a manifest. It has to have a type and a name; a namespace that is missing is
the given one. -/
def object (ns : String) (j : Json) : Except StoreError Object :=
  match Object.ofJson? j with
  | none => .error .conversion
  | some o =>
    match o.types with
    | none => .error (.invalid ("object '" ++ o.displayName ++ "' has no apiVersion or kind"))
    | some types =>
      if o.metadata.name.isNone then .error (.invalid (types.kind ++ " without a name"))
      else .ok (withNamespace ns types o)

/-- The items of a document that lists objects: its kind ends with `List`, and it has items. -/
def listed? (j : Json) : Option (List Json) := do
  let kind ← (← j.field? "kind").text?
  guard (Text.endsWith kind "List")
  (← j.field? "items").items?

/-- What a document lists; nothing for `null`, and else itself if it is no list. -/
def itemsOf (j : Json) : List Json :=
  match j with
  | .null => []
  | j => (listed? j).getD [j]

/-- The objects of some documents, in order. -/
def objects (ns : String) (documents : List (Except StoreError Json)) :
    Except StoreError (List Object) := do
  let objects ← documents.mapM fun d => do (itemsOf (← d)).mapM (object ns)
  return objects.flatten

/-- The objects of a manifest, in order. -/
def read (ns text : String) : Except StoreError (List Object) := objects ns (documents text)

end Manifest

namespace MemoryStore

/-- The store of the objects of a manifest. -/
def ofManifest (ns text : String) : Except StoreError MemoryStore :=
  (Manifest.read ns text).map ofObjects

/-- The store of the objects of some files, each given by its text unless it cannot be read. The
first file that does not give objects decides. -/
def ofFiles (ns : String) (files : List (Option String)) : Except StoreError MemoryStore := do
  let objects ← files.mapM fun file =>
    match file with
    | none => .error .unreadableFile
    | some text => Manifest.read ns text
  return ofObjects objects.flatten

end MemoryStore

end ClusterView
