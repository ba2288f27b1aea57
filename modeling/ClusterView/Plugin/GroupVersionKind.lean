import ClusterView.Cluster.Reference

/-!
# Groups, versions and kinds

A `GroupVersionKind` names a type of objects. Its text is `version/Kind` for the core group and
`group/version/Kind` otherwise.
-/

namespace ClusterView

open Json

/-- The group, version and kind of a type of objects. -/
structure GroupVersionKind where
  group : String
  version : String
  kind : String
deriving DecidableEq, Inhabited

namespace GroupVersionKind

/-- The type with an API version and a kind. -/
def ofApiVersion (apiVersion kind : String) : GroupVersionKind :=
  let (group, version) := splitApiVersion apiVersion
  ⟨group, version, kind⟩

/-- The type that a text names: the kind stands after the last slash, the API version before it. -/
def ofText? (s : String) : Option GroupVersionKind := do
  let (apiVersion, kind) ← Text.splitLast? '/' s
  guard (apiVersion ≠ "" ∧ kind ≠ "")
  some (ofApiVersion apiVersion kind)

/-- Whether it is the type with an API version and a kind. -/
def isType (g : GroupVersionKind) (apiVersion kind : String) : Bool :=
  g == ofApiVersion apiVersion kind

end GroupVersionKind

instance : JsonDecode GroupVersionKind where
  decode? j := do
    let f ← fieldsNamed? ["group", "version", "kind"] j
    let group ← required? f "group"
    let version ← required? f "version"
    let kind ← required? f "kind"
    some { group, version, kind }

instance : JsonEncode GroupVersionKind where
  encode g := record [requiredField "group" g.group, requiredField "version" g.version,
    requiredField "kind" g.kind]

end ClusterView
