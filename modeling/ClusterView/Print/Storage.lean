import ClusterView.Cluster.Kind.Storage
import ClusterView.Print.ListView
import ClusterView.Print.Page

/-!
# Printing config maps and secrets

Texts of a config map are shown, its bytes are not; of a secret only the keys are shown.
-/

namespace ClusterView

/-! ## Config maps -/

namespace ConfigMap

/-- The texts of a config map under their keys. -/
def texts (c : ConfigMap) : List (String × String) := (c.data.getD ∅).entries

/-- The keys under which a config map has bytes. -/
def binaryKeys (c : ConfigMap) : List String := (c.binaryData.getD ∅).keys

/-- How config maps are shown in a table. -/
def listView : ListView ConfigMap where
  input := "config map list"
  title := "ConfigMaps"
  emptyContent := "We couldn't find any config maps!"
  columns := ["Name", "Labels", "Data", "Age"]
  cells := [("Data", fun c => .ofNat (c.texts.length + c.binaryKeys.length)), ("Age", ageOf)]
  columns_eq := rfl
  nodup_columns := by decide

/-- The summary of the configuration. -/
def configuration (c : ConfigMap) : Summary Component :=
  .ofSections "Configuration" [⟨"Age", ageOf c⟩]

/-- The table of the data: texts as they are, and then a mark for each value of bytes. -/
def dataTable (c : ConfigMap) : Except PrintError (Table Component) :=
  let row (key value : String) : Table.Row Component :=
    .ofCells [("Key", .text key), ("Value", .text value)]
  liftM (Table.ofRows "Data" "This config map has no data!" (Table.columnsNamed ["Key", "Value"])
    (c.texts.map (fun e => row e.1 e.2) ++ c.binaryKeys.map fun key => row key "<binary data>"))

/-- The page of a config map. -/
def page (c : ConfigMap) : Page :=
  { Page.ofResource c with
    config := some c.configuration
    items := [⟨.full, c.dataTable.map .table⟩] }

/-- Prints a config map, which may be missing. -/
def print (o : PrintOptions) (input : Option ConfigMap) : Except PrintError Component := do
  (← orMissing "config map" input).page.print o

end ConfigMap

/-! ## Secrets -/

namespace Secret

/-- The keys under which a secret has data. -/
def keys (s : Secret) : List String := (s.data.getD ∅).keys

/-- How secrets are shown in a table. -/
def listView : ListView Secret where
  input := "secret list"
  title := "Secrets"
  emptyContent := "We couldn't find any secrets!"
  columns := ["Name", "Labels", "Type", "Data", "Age"]
  cells :=
    [("Type", fun s => .text (s.type.getD "")), ("Data", fun s => .ofNat s.keys.length),
     ("Age", ageOf)]
  columns_eq := rfl
  nodup_columns := by decide

/-- The summary of the configuration. -/
def configuration (s : Secret) : Summary Component :=
  .ofSections "Configuration" [.ofText "Type" (s.type.getD "")]

/-- The table of the keys of the data. -/
def dataTable (s : Secret) : Except PrintError (Table Component) :=
  liftM (Table.ofRows "Data" "This secret has no data!" (Table.columnsNamed ["Key"])
    (s.keys.map fun key => .ofCells [("Key", .text key)]))

/-- The page of a secret. -/
def page (s : Secret) : Page :=
  { Page.ofResource s with
    config := some s.configuration
    items := [⟨.full, s.dataTable.map .table⟩] }

/-- Prints a secret, which may be missing. -/
def print (o : PrintOptions) (input : Option Secret) : Except PrintError Component := do
  (← orMissing "secret" input).page.print o

end Secret

end ClusterView
