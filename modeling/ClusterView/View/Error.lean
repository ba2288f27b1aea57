import ClusterView.Text.Split

/-!
# Errors of assembling views
-/

namespace ClusterView

/-- Why a part does not go into a view. -/
inductive ViewError where
  /-- A table row has a cell for a column that the table does not have. -/
  | unknownColumn (table column : String)
  /-- An item of a width does not go into a section with that much in use. -/
  | sectionFull (width used : Nat)
deriving DecidableEq

/-- The text of the error. -/
def ViewError.message : ViewError → String
  | .unknownColumn table column => "table '" ++ table ++ "' has no column named '" ++ column ++ "'"
  | .sectionFull width used =>
    "item of width " ++ width.repr ++ " does not fit into section with " ++ used.repr ++
      " of 24 used"

end ClusterView
