/-!
# Summaries and their actions

A summary is a titled list of sections, each a header with its content. Actions are forms that a
reader of the summary can submit.
-/

namespace ClusterView

/-! ## Actions -/

/-- What a form field is. -/
inductive FormField.Kind where
  | number
  | hidden
deriving DecidableEq

/-- An input of a form. -/
structure FormField where
  kind : FormField.Kind
  /-- The text beside the input; an empty one is not shown. -/
  label : String
  name : String
  value : String
deriving DecidableEq

/-- A field for a number. -/
def FormField.number (label name value : String) : FormField := ⟨.number, label, name, value⟩

/-- A field that is sent and not shown. -/
def FormField.hidden (name value : String) : FormField := ⟨.hidden, "", name, value⟩

/-- A form that a reader can submit. -/
structure Action where
  name : String
  title : String
  fields : List FormField
deriving DecidableEq

/-! ## Summaries -/

/-- A header with its content. -/
structure Summary.Section (α : Type) where
  header : String
  content : α

/-- A titled list of sections with actions. -/
structure Summary (α : Type) where
  title : String
  sections : List (Summary.Section α)
  actions : List Action

namespace Summary

variable {α : Type}

/-- A summary without actions. -/
def ofSections (title : String) (sections : List (Section α)) : Summary α := ⟨title, sections, []⟩

/-- Appends sections. -/
def add (s : Summary α) (sections : List (Section α)) : Summary α :=
  { s with sections := s.sections ++ sections }

/-- Appends an action. -/
def addAction (s : Summary α) (action : Action) : Summary α :=
  { s with actions := s.actions ++ [action] }

end Summary

end ClusterView
