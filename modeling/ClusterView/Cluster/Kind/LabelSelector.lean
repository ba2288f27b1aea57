import ClusterView.Cluster.Metadata
import ClusterView.View.Selector

/-!
# Label selectors

A selector asks for labels with given values and for expressions on labels. `LabelSelector.accepts`
decides whether labels satisfy it; an expression whose operator is not known is satisfied by none.
-/

namespace ClusterView

open Json

/-- An expression on a label, with its operator as it is written. -/
structure LabelRequirement where
  key : String
  operator : String
  values : Option (List String)
deriving DecidableEq

/-- Conditions on labels that hold together. -/
structure LabelSelector where
  matchLabels : Option (StringMap String) := none
  matchExpressions : Option (List LabelRequirement) := none
deriving DecidableEq, Inhabited

/-- Whether labels contain every pair of a map. -/
def labelsMatch (wanted labels : StringMap String) : Bool :=
  wanted.entries.all fun e => labels.get? e.1 == some e.2

/-- Whether a label is as an operator says, given its value, if it is there. -/
def Operator.holds (o : Operator) (values : List String) (value : Option String) : Bool :=
  match o with
  | .isIn => value.any values.contains
  | .notIn => !value.any values.contains
  | .present => value.isSome
  | .absent => value.isNone

/-- Whether labels satisfy an expression. -/
def LabelRequirement.accepts (r : LabelRequirement) (labels : StringMap String) : Bool :=
  match Operator.ofName? r.operator with
  | some o => o.holds (r.values.getD []) (labels.get? r.key)
  | none => false

/-- Whether labels satisfy a selector. -/
def LabelSelector.accepts (s : LabelSelector) (labels : StringMap String) : Bool :=
  labelsMatch (s.matchLabels.getD ∅) labels &&
    (s.matchExpressions.getD []).all fun r => r.accepts labels

/-! ## Reading and writing -/

instance : JsonDecode LabelRequirement where
  decode? j := do
    let f ← j.fields?
    let key ← orDefault? f "key"
    let operator ← orDefault? f "operator"
    let values ← optional? f "values"
    some { key, operator, values }

instance : JsonEncode LabelRequirement where
  encode r := record [requiredField "key" r.key, requiredField "operator" r.operator,
    optionalField "values" r.values]

instance : JsonDecode LabelSelector where
  decode? j := do
    let f ← j.fields?
    let matchLabels ← optional? f "matchLabels"
    let matchExpressions ← optional? f "matchExpressions"
    some { matchLabels, matchExpressions }

instance : JsonEncode LabelSelector where
  encode s := record [optionalField "matchExpressions" s.matchExpressions,
    optionalField "matchLabels" s.matchLabels]

end ClusterView
