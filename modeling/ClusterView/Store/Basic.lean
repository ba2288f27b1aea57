import ClusterView.Cluster.Kind.LabelSelector
import ClusterView.Cluster.Reference

/-!
# Object stores

An `ObjectStore` answers queries for cluster objects, with `list` for all that satisfy a query and
with `get` for the first. Both may fail; what fails is an error and never an empty answer.
-/

namespace ClusterView

/-! ## Queries -/

/-- What is asked of a store: the objects of a type, narrowed by the parts that are set. -/
structure Query where
  apiVersion : String
  kind : String
  inNamespace : Option String := none
  name : Option String := none
  /-- Pairs that the labels have to contain. -/
  selector : Option (StringMap String) := none
deriving DecidableEq

namespace Query

/-- The query for one object. -/
def ofReference (r : Reference) : Query :=
  { apiVersion := r.apiVersion, kind := r.kind, inNamespace := r.inNamespace, name := some r.name }

/-- The text of the query in messages. -/
def text (q : Query) : String :=
  let part (words : String) (value : Option String) : String :=
    match value with
    | some v => words ++ v
    | none => ""
  let pairs := q.selector.map fun s => Text.join "," (s.entries.map fun e => e.1 ++ "=" ++ e.2)
  q.apiVersion ++ "/" ++ q.kind ++ part " in " q.inNamespace ++ part " named " q.name ++
    part " selected by " pairs

/-- Whether an object satisfies the query. An object without a type satisfies none. -/
def selects (q : Query) (o : Object) : Bool :=
  match o.types with
  | none => false
  | some t =>
    t.apiVersion == q.apiVersion && t.kind == q.kind &&
      q.inNamespace.all (fun ns => o.metadata.inNamespace == some ns) &&
      q.name.all (fun name => o.metadata.name == some name) &&
      q.selector.all (fun s => labelsMatch s o.metadata.labelMap)

/-- A query selects the objects of its type that satisfy each of its parts. -/
theorem selects_iff {q : Query} {o : Object} : q.selects o = true ↔
    o.types = some ⟨q.apiVersion, q.kind⟩ ∧
      (∀ ns ∈ q.inNamespace, o.metadata.inNamespace = some ns) ∧
      (∀ name ∈ q.name, o.metadata.name = some name) ∧
      ∀ s ∈ q.selector, labelsMatch s o.metadata.labelMap = true := by
  unfold selects
  cases htypes : o.types with
  | none => simp
  | some t =>
    obtain ⟨apiVersion, kind⟩ := t
    simp [Option.all_eq_true, and_assoc]

end Query

/-! ## Stores -/

/-- Why a store has no answer, or why there is no store. What a file or a parser says about the
cause is not kept. -/
inductive StoreError where
  /-- A manifest file cannot be read. -/
  | unreadableFile
  /-- A manifest is not a sequence of documents. -/
  | malformedManifest
  /-- An object does not have the shape of its type. -/
  | conversion
  /-- An object lacks what every object of a store has. -/
  | invalid (reason : String)
  /-- A query has no answer. -/
  | unanswered (query message : String)
deriving DecidableEq

/-- The text of the error. -/
def StoreError.message : StoreError → String
  | .unreadableFile => "cannot read manifest file"
  | .malformedManifest => "cannot parse YAML manifest"
  | .conversion => "cannot convert object"
  | .invalid reason => "invalid object: " ++ reason
  | .unanswered query message => "query " ++ query ++ " failed: " ++ message

/-- A source of cluster objects. -/
structure ObjectStore where
  /-- All objects that satisfy a query. -/
  list : Query → Except StoreError (List Object)
  /-- The first object that satisfies a query, if there is one. -/
  get : Query → Except StoreError (Option Object)

/-- Reads an object as a resource, with an error when it has another shape. -/
def Object.convert (α : Type) [Resource α] (o : Object) : Except StoreError α :=
  match o.as? α with
  | some r => .ok r
  | none => .error .conversion

theorem Object.convert_eq_ok_iff {α : Type} [Resource α] {o : Object} {r : α} :
    o.convert α = .ok r ↔ o.as? α = some r := by
  unfold convert
  cases o.as? α with
  | none => simp
  | some r' => simp

/-- The objects of a query as resources; a single one that does not convert is an error. -/
def ObjectStore.listAs (α : Type) [Resource α] (store : ObjectStore) (q : Query) :
    Except StoreError (List α) := do
  (← store.list q).mapM (Object.convert α)

end ClusterView
