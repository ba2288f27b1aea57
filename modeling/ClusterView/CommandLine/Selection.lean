import ClusterView.Cluster.Object
import ClusterView.CommandLine.Arguments

/-!
# Selecting objects

`selectObject` finds the object to print, `selectList` the objects of the first type that is asked
for. A list is not narrowed by name.
-/

namespace ClusterView

namespace PrintArguments

/-- Whether an object has the kind and the namespace that are asked for. -/
def admits (a : PrintArguments) (o : Object) : Bool :=
  match o.types with
  | none => false
  | some t =>
    a.splitKind.1.all (· == t.apiVersion) && a.splitKind.2.all (· == t.kind) &&
      a.inNamespace.all fun ns => o.metadata.inNamespace == some ns

/-- Whether an object has the name that is asked for as well. -/
def names (a : PrintArguments) (o : Object) : Bool :=
  a.admits o && a.name.all fun name => o.displayName == name

end PrintArguments

/-- The first object that is asked for. -/
def selectObject (objects : List Object) (a : PrintArguments) : Option Object :=
  objects.find? a.names

/-- The type of the first object that is asked for, with all objects of that type that are. -/
def selectList (objects : List Object) (a : PrintArguments) : Option (TypeMeta × List Object) := do
  let first ← objects.find? a.admits
  let types ← first.types
  some (types, objects.filter fun o => o.types == some types && a.admits o)

end ClusterView
