import ClusterView.Link.Generator
import ClusterView.Plugin.Registry
import ClusterView.Store.Basic

/-!
# What printing works with

Printing makes components from cluster objects with the help of a store, a link generator and
plugins. Their errors become errors of printing; the lifts below wrap them unchanged.
-/

namespace ClusterView

/-! ## Errors -/

/-- Why an object cannot be printed. -/
inductive PrintError where
  /-- What is to be printed is not there. -/
  | missingInput (what : String)
  /-- Nothing prints objects of the type. -/
  | unsupportedKind (apiVersion kind : String)
  | store (error : StoreError)
  | link (error : LinkError)
  | plugin (error : PluginError)
  | view (error : ViewError)
deriving DecidableEq

/-- The text of the error, without that of its cause. -/
def PrintError.message : PrintError → String
  | .missingInput what => what ++ " is missing"
  | .unsupportedKind apiVersion kind => "cannot print " ++ apiVersion ++ " " ++ kind
  | .store _ => "object store error"
  | .link _ => "link error"
  | .plugin _ => "plugin error"
  | .view _ => "view error"

instance : MonadLift (Except StoreError) (Except PrintError) := ⟨Except.mapError .store⟩
instance : MonadLift (Except LinkError) (Except PrintError) := ⟨Except.mapError .link⟩
instance : MonadLift (Except PluginError) (Except PrintError) := ⟨Except.mapError .plugin⟩
instance : MonadLift (Except ViewError) (Except PrintError) := ⟨Except.mapError .view⟩

/-- The input, or the error that it is not there. -/
def orMissing {α : Type} (what : String) : Option α → Except PrintError α
  | some a => .ok a
  | none => .error (.missingInput what)

/-! ## Options -/

/-- What all printers share. -/
structure PrintOptions where
  store : ObjectStore
  link : LinkGenerator
  plugins : PluginManager
  /-- Whether lists have a column of labels. -/
  showLabels : Bool := true
  /-- Whether pages show events. -/
  showEvents : Bool := true

/-- The options with the column of labels off. -/
def PrintOptions.withoutLabels (o : PrintOptions) : PrintOptions := { o with showLabels := false }

/-! ## Texts -/

/-- The text of a value that is not set. -/
def notSetText : String := "<not set>"

/-- The text of an empty collection. -/
def noneText : String := "<none>"

/-- The text, or the text of a value that is not set. -/
def orNotSet (text : Option String) : String := text.getD notSetText

/-- Two counts with a slash between them; a count that is not set is zero. -/
def ratioText (current total : Option Int) : String :=
  Text.ofInt (current.getD 0) ++ "/" ++ Text.ofInt (total.getD 0)

/-- The texts joined, or the text of an empty collection. -/
def joinOrNone (separator : String) (items : List String) : String :=
  if items.isEmpty then noneText else Text.join separator items

/-- A count; one that is not set is zero. -/
def countText (count : Option Int) : String := Text.ofInt (count.getD 0)

/-- A point in time; one that is not set is the beginning of 1970. -/
def timestampOf (time : Option Instant) : Component :=
  .timestamp (match time with
    | some t => t.seconds
    | none => 0)

end ClusterView
