/-!
# Selectors as they are shown
-/

namespace ClusterView

/-- How an expression selects by the value of a label. -/
inductive Operator where
  /-- The label has one of the values. -/
  | isIn
  /-- The label has none of the values. -/
  | notIn
  /-- The label is there. -/
  | present
  /-- The label is not there. -/
  | absent
deriving DecidableEq

namespace Operator

/-- The name of the operator in manifests. -/
def name : Operator → String
  | isIn => "In"
  | notIn => "NotIn"
  | present => "Exists"
  | absent => "DoesNotExist"

/-- The operator of a name. -/
def ofName? (s : String) : Option Operator :=
  if s = "In" then some isIn
  else if s = "NotIn" then some notIn
  else if s = "Exists" then some present
  else if s = "DoesNotExist" then some absent
  else none

theorem ofName?_name (o : Operator) : ofName? o.name = some o := by cases o <;> decide

theorem ofName?_eq_some_iff {s : String} {o : Operator} : ofName? s = some o ↔ s = o.name := by
  constructor
  · intro h
    simp only [ofName?] at h
    repeat' split at h
    all_goals simp_all [name]
    all_goals subst h; rfl
  · rintro rfl; exact ofName?_name o

end Operator

/-- One condition on labels. -/
inductive Selector where
  /-- The label has the value. -/
  | label (key value : String)
  /-- The label is as the operator says. -/
  | expression (key : String) (operator : Operator) (values : List String)
deriving DecidableEq

end ClusterView
