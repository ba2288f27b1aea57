import ClusterView.Cluster.Reference
import ClusterView.View.Component

/-!
# Links to objects

A link generator makes the link for an object from its namespace, type and name. The owner of an
object is linked in the namespace of the object.
-/

namespace ClusterView

/-- Why there is no link for an object. -/
inductive LinkError where
  /-- No view shows objects of the type. -/
  | unsupportedKind (apiVersion kind : String)
  /-- The object has no name. -/
  | missingName (kind : String)
  /-- The object lives in a namespace and has none. -/
  | missingNamespace (kind name : String)
deriving DecidableEq

/-- The text of the error. -/
def LinkError.message : LinkError → String
  | .unsupportedKind apiVersion kind => "cannot create link for " ++ apiVersion ++ " " ++ kind
  | .missingName kind => "cannot create link for " ++ kind ++ " without a name"
  | .missingNamespace kind name =>
    "cannot create link for " ++ kind ++ " '" ++ name ++ "' without a namespace"

/-- What a link is made for. -/
structure LinkTarget where
  inNamespace : Option String
  apiVersion : String
  kind : String
  name : String
  /-- The text that the link shows. -/
  text : String
deriving DecidableEq

/-- Makes links to the views of objects. -/
structure LinkGenerator where
  link : LinkTarget → Except LinkError Link

namespace LinkGenerator

/-- The link for an object. -/
def forObject (g : LinkGenerator) (object : Reference) (text : String) : Except LinkError Link :=
  g.link ⟨object.inNamespace, object.apiVersion, object.kind, object.name, text⟩

/-- The link for an owner of an object, shown with the owner's name. -/
def forOwner (g : LinkGenerator) (object : Reference) (owner : OwnerReference) :
    Except LinkError Link :=
  g.link ⟨object.inNamespace, owner.apiVersion, owner.kind, owner.name, owner.name⟩

end LinkGenerator

end ClusterView
