import ClusterView.Json.Basic
import ClusterView.StringMap
import ClusterView.Yaml.Alias
import ClusterView.Yaml.Scalar

/-!
# Values of documents

A node stands for a value once its plain scalars have their meaning and its aliases are followed.
No two keys of a mapping may be equal. `Value.toJson?` turns a value into JSON, in which keys are
texts.
-/

namespace ClusterView.Yaml

/-! ## Values -/

/-- A value. -/
inductive Value where
  | null
  | bool (value : Bool)
  | number (value : Number)
  | extreme (value : Extreme)
  | text (value : String)
  | sequence (items : List Value)
  | mapping (entries : List (Value × Value))
deriving Inhabited

namespace Value

mutual

/-- Whether two values are equal; the order of the entries of a mapping does not count. -/
def same : Value → Value → Bool
  | .null, .null => true
  | .bool a, .bool b => a == b
  | .number a, .number b => a.same b
  | .extreme a, .extreme b => a == b
  | .text a, .text b => a == b
  | .sequence a, .sequence b => sameItems a b
  | .mapping a, .mapping b => a.length == b.length && sameEntries a b
  | _, _ => false

/-- Whether two lists have equal values in the same order. -/
def sameItems : List Value → List Value → Bool
  | [], [] => true
  | a :: as, b :: bs => same a b && sameItems as bs
  | _, _ => false

/-- Whether all entries of the first list are in the second one. -/
def sameEntries : List (Value × Value) → List (Value × Value) → Bool
  | [], _ => true
  | (k, v) :: rest, entries =>
    entries.any (fun e => same k e.1 && same v e.2) && sameEntries rest entries

end

/-- Whether two keys are equal. -/
def hasRepeatedKey : List (Value × Value) → Bool
  | [] => false
  | (k, _) :: rest => rest.any (fun e => same e.1 k) || hasRepeatedKey rest

/-! ## Values of nodes -/

/-- The value of a plain scalar; long integers have none. -/
def ofPlain? (s : String) : Option Value :=
  match Meaning.ofPlain s with
  | .null => some .null
  | .bool b => some (.bool b)
  | .number n => some (.number n)
  | .extreme x => some (.extreme x)
  | .longInteger => none
  | .text => some (.text s)

/-- The value of a scalar. -/
def ofScalar? (s : String) (isPlain : Bool) : Option Value :=
  if isPlain then ofPlain? s else some (.text s)

/-- The value of a node whose collections are nested at most `depth` deep. -/
def ofNode : (depth : Nat) → Node → Resolver Value
  | 0, n => do
    match ← n.followed with
    | .scalar s isPlain => liftM (ofScalar? s isPlain)
    | _ => failure
  | depth + 1, n => do
    match ← n.followed with
    | .scalar s isPlain => liftM (ofScalar? s isPlain)
    | .sequence items => return .sequence (← items.mapM (ofNode depth))
    | .mapping entries => do
      let entries ← entries.mapM fun e => do return (← ofNode depth e.1, ← ofNode depth e.2)
      if hasRepeatedKey entries then failure
      return .mapping entries
    | _ => failure

/-- How deep collections may be nested. -/
def maxDepth : Nat := 128

/-- The value of a document. -/
def ofDocument? (d : Document) : Option Value := d.resolve? (ofNode maxDepth)

/-! ## Values as JSON -/

/-- The text of a key: that of a truth value, a number or a text. -/
def keyText? : Value → Option String
  | .bool b => some (if b then "true" else "false")
  | .number n => some n.text
  | .text s => some s
  | _ => none

mutual

/-- The value as JSON, unless a key has no text. Numbers that are not finite become null, and of
keys with the same text the last one counts. -/
def toJson? : Value → Option Json
  | .null => some .null
  | .bool b => some (.bool b)
  | .number n => some (.number n)
  | .extreme _ => some .null
  | .text s => some (.string s)
  | .sequence items => (itemsToJson? items).map .array
  | .mapping entries => (entriesToJson? entries).map fun e => .object (StringMap.ofList e).entries

/-- Some values as JSON. -/
def itemsToJson? : List Value → Option (List Json)
  | [] => some []
  | v :: rest => do
    let j ← toJson? v
    return j :: (← itemsToJson? rest)

/-- Some entries as fields of an object. -/
def entriesToJson? : List (Value × Value) → Option (List (String × Json))
  | [] => some []
  | (k, v) :: rest => do
    let name ← keyText? k
    let j ← toJson? v
    return (name, j) :: (← entriesToJson? rest)

end

end Value

end ClusterView.Yaml
