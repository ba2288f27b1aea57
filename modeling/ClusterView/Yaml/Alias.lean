import ClusterView.Yaml.Node

/-!
# Following aliases

What a document stands for is read from its root on, and an alias is followed to its node when
reading comes to it. A `Resolver` bounds how often that happens: aliases of aliases could make a
short document stand for something huge, and an alias inside of its own node would never end.
-/

namespace ClusterView.Yaml

/-- Reads something from nodes, given the nodes that aliases refer to. The state is the number of
aliases that may still be followed. -/
abbrev Resolver := ReaderT (Array Node) (StateT Nat Option)

/-- The node that an alias refers to; any other node is itself. -/
def Node.followed : Node → Resolver Node
  | .alias number => do
    let left ← get
    if left = 0 then failure
    set (left - 1)
    match (← read)[number]? with
    | some target => return target
    | none => failure
  | n => return n

/-- How often aliases may be followed for each part of a document. -/
def aliasesPerPart : Nat := 100

/-- What is read from the root of a document. -/
def Document.resolve? {α : Type} (d : Document) (fromRoot : Node → Resolver α) : Option α :=
  ((fromRoot d.root).run d.targets).run' (aliasesPerPart * d.root.size)

end ClusterView.Yaml
