import ClusterView.Cluster.Kind.LabelSelector
import ClusterView.View.Component

/-!
# Selectors in views

A selector is shown as its expressions, in their order, and then its labels, in key order. An
expression whose operator is not known is not shown.
-/

namespace ClusterView

/-- How pairs of labels are shown. -/
def shownLabels (labels : Option (StringMap String)) : List Selector :=
  (labels.getD ∅).entries.map fun e => .label e.1 e.2

/-- How an expression is shown, if its operator is known. -/
def LabelRequirement.shown (r : LabelRequirement) : Option Selector :=
  (Operator.ofName? r.operator).map fun o => .expression r.key o (r.values.getD [])

/-- How a selector is shown. -/
def LabelSelector.shown (s : LabelSelector) : List Selector :=
  (s.matchExpressions.getD []).filterMap LabelRequirement.shown ++ shownLabels s.matchLabels

end ClusterView
