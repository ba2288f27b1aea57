import ClusterView.View.Layout
import ClusterView.View.Selector
import ClusterView.View.Summary
import ClusterView.View.Table

/-!
# View components

`Component` is the tree of what a page shows. A component has a kind, and the containers of other
components have a title.
-/

namespace ClusterView

/-- A text that points to another view. -/
structure Link where
  /-- The text shown. -/
  text : String
  /-- The path of the view. -/
  path : String
deriving DecidableEq

/-- The name and the image of a container. -/
structure ContainerImage where
  name : String
  image : String
deriving DecidableEq

/-! ## Quadrants -/

/-- A label with its value. -/
structure Quadrant.Value where
  label : String := ""
  value : String := ""
deriving DecidableEq

/-- Four labelled values in a square. -/
structure Quadrant where
  title : String
  northWest : Quadrant.Value := {}
  northEast : Quadrant.Value := {}
  southWest : Quadrant.Value := {}
  southEast : Quadrant.Value := {}
deriving DecidableEq

/-- A place in a quadrant. -/
inductive Quadrant.Position where
  | northWest
  | northEast
  | southWest
  | southEast
deriving DecidableEq

/-- Sets the value at a place. -/
def Quadrant.set (q : Quadrant) (position : Position) (value : Value) : Quadrant :=
  match position with
  | .northWest => { q with northWest := value }
  | .northEast => { q with northEast := value }
  | .southWest => { q with southWest := value }
  | .southEast => { q with southEast := value }

/-! ## Listings -/

/-- A list of components, with or without a title. -/
structure Listing (α : Type) where
  title : Option String
  items : List α

/-- A list with a title; an empty title is none. -/
def Listing.titled {α : Type} (title : String) (items : List α) : Listing α :=
  ⟨if title = "" then none else some title, items⟩

/-- Adds a component at the end. -/
def Listing.add {α : Type} (l : Listing α) (item : α) : Listing α :=
  { l with items := l.items ++ [item] }

/-! ## Components -/

/-- What a page shows. -/
inductive Component where
  | text (value : String)
  | link (link : Link)
  /-- A point in time, in seconds since the beginning of 1970. -/
  | timestamp (seconds : Int)
  | labels (labels : StringMap String)
  | selectors (selectors : List Selector)
  | containers (containers : List ContainerImage)
  | list (list : Listing Component)
  | table (table : Table Component)
  | summary (summary : Summary Component)
  | quadrant (quadrant : Quadrant)
  | layout (layout : Layout Component)

namespace Component

instance : Inhabited Component := ⟨.text ""⟩

/-- The name of the component's kind in its written form. -/
def kind : Component → String
  | text _ => "text"
  | link _ => "link"
  | timestamp _ => "timestamp"
  | labels _ => "labels"
  | selectors _ => "selectors"
  | containers _ => "containers"
  | list _ => "list"
  | table _ => "table"
  | summary _ => "summary"
  | quadrant _ => "quadrant"
  | layout _ => "flexlayout"

/-- The title, of a component that has one. -/
def title : Component → Option String
  | list l => l.title
  | table t => some t.title
  | summary s => some s.title
  | quadrant q => some q.title
  | layout l => some l.title
  | _ => none

/-- The number of a count as a text. -/
def ofNat (n : Nat) : Component := .text n.repr

/-- The digits of an integer as a text. -/
def ofInt (n : Int) : Component := .text (Text.ofInt n)

end Component

/-- A section of a summary with a text as its content. -/
def Summary.Section.ofText (header text : String) : Summary.Section Component :=
  ⟨header, .text text⟩

end ClusterView
