import ClusterView.Print.Selectors
import ClusterView.Proofs.Store.Listing
import Mathlib.Data.List.Forall2

/-!
# What shown selectors say

A selector is shown as a list of conditions, and labels are compared with the selector itself. Both
agree: where every operator is known, labels satisfy the selector exactly if all conditions that are
shown hold of them, and an operator that is not known keeps the selector from being satisfied at all
(`LabelSelector.shown_says`).
-/

namespace ClusterView

/-! ## Conditions -/

/-- Whether a condition is true of labels. -/
def Selector.Holds (labels : StringMap String) : Selector → Prop
  | .label key value => labels.get? key = some value
  | .expression key .isIn values => ∃ value ∈ values, labels.get? key = some value
  | .expression key .notIn values => ∀ value ∈ values, labels.get? key ≠ some value
  | .expression key .present _ => ∃ value, labels.get? key = some value
  | .expression key .absent _ => labels.get? key = none

namespace LabelRequirement

/-- Whether an expression has an operator that there is. -/
def IsKnown (r : LabelRequirement) : Prop :=
  r.operator ∈ ["In", "NotIn", "Exists", "DoesNotExist"]

instance (r : LabelRequirement) : Decidable r.IsKnown := inferInstanceAs (Decidable (_ ∈ _))

/-- A condition with the key, the operator and the values of an expression. -/
def IsShownAs (r : LabelRequirement) (x : Selector) : Prop :=
  ∃ o : Operator, r.operator = o.name ∧ x = .expression r.key o (r.values.getD [])

variable {r : LabelRequirement}

theorem isKnown_iff : r.IsKnown ↔ ∃ o : Operator, r.operator = o.name := by
  constructor
  · intro h
    simp only [IsKnown, List.mem_cons, List.not_mem_nil, or_false] at h
    rcases h with h | h | h | h
    · exact ⟨.isIn, h⟩
    · exact ⟨.notIn, h⟩
    · exact ⟨.present, h⟩
    · exact ⟨.absent, h⟩
  · rintro ⟨o, ho⟩
    rw [IsKnown, ho]
    cases o <;> simp [Operator.name]

theorem shown_eq_some_iff {x : Selector} : r.shown = some x ↔ r.IsShownAs x := by
  simp only [shown, Option.map_eq_some_iff, Operator.ofName?_eq_some_iff, IsShownAs,
    @eq_comm _ x]

theorem isSome_shown_iff : r.shown.isSome = true ↔ r.IsKnown := by
  rw [shown, Option.isSome_map, Option.isSome_iff_exists, isKnown_iff]
  simp only [Operator.ofName?_eq_some_iff]

/-- An operator says of a value what the condition says of the label. -/
theorem holds_iff {o : Operator} {key : String} {values : List String} {labels : StringMap String} :
    o.holds values (labels.get? key) = true ↔ (Selector.expression key o values).Holds labels := by
  cases o with
  | notIn =>
    cases hvalue : labels.get? key with
    | none => simp [Operator.holds, Selector.Holds, hvalue]
    | some v => simpa [Operator.holds, Selector.Holds, hvalue] using List.forall_mem_ne.symm
  | _ => cases hvalue : labels.get? key <;> simp [Operator.holds, Selector.Holds, hvalue]

/-- **Labels satisfy an expression exactly if it is shown and the condition holds.** -/
theorem accepts_iff {labels : StringMap String} :
    r.accepts labels = true ↔ ∃ x, r.IsShownAs x ∧ x.Holds labels := by
  simp only [← shown_eq_some_iff, accepts, shown]
  cases Operator.ofName? r.operator with
  | none => simp
  | some o => simp [holds_iff]

end LabelRequirement

/-! ## Selectors -/

namespace LabelSelector

/-- The expressions, none when they are not set. -/
def requirements (s : LabelSelector) : List LabelRequirement := s.matchExpressions.getD []

/-- The labels that are wanted, none when they are not set. -/
def wanted (s : LabelSelector) : StringMap String := s.matchLabels.getD ∅

/-- The conditions that show a selector: those of its expressions, in their order and without the
ones that are not known, and then one for each of its labels, in the order of the keys. -/
def IsShownAs (s : LabelSelector) (shown : List Selector) : Prop :=
  ∃ (expressions : List Selector) (entries : List (String × String)),
    shown = expressions ++ entries.map (fun e => .label e.1 e.2) ∧
    List.Forall₂ LabelRequirement.IsShownAs (s.requirements.filter (·.IsKnown)) expressions ∧
    (entries.Pairwise fun d e => d.1 < e.1) ∧
    ∀ key value, (key, value) ∈ entries ↔ s.wanted.get? key = some value

theorem filterMap_shown_eq_iff {rs : List LabelRequirement} {xs : List Selector} :
    rs.filterMap LabelRequirement.shown = xs ↔
      List.Forall₂ LabelRequirement.IsShownAs (rs.filter (·.IsKnown)) xs := by
  induction rs generalizing xs with
  | nil => simp [eq_comm]
  | cons r rs ih =>
    cases hr : r.shown with
    | none =>
      have hunknown : ¬ r.IsKnown := by simp [← LabelRequirement.isSome_shown_iff, hr]
      rw [List.filterMap_cons_none hr, List.filter_cons_of_neg (by simpa using hunknown), ih]
    | some x =>
      have hknown : r.IsKnown := by simp [← LabelRequirement.isSome_shown_iff, hr]
      rw [List.filterMap_cons_some hr, List.filter_cons_of_pos (by simpa using hknown),
        List.forall₂_cons_left_iff]
      simp only [← LabelRequirement.shown_eq_some_iff, hr, Option.some.injEq, ← ih]
      constructor
      · rintro rfl
        exact ⟨x, _, rfl, rfl, rfl⟩
      · rintro ⟨_, _, rfl, rfl, rfl⟩
        rfl

/-- **A selector is shown in one way.** -/
theorem isShownAs_iff {s : LabelSelector} {shown : List Selector} :
    s.IsShownAs shown ↔ shown = s.shown := by
  constructor
  · rintro ⟨expressions, entries, rfl, hexpressions, hascending, hentries⟩
    have hlabels : entries = s.wanted.entries := by
      refine StringMap.eq_of_mem_iff hascending s.wanted.ascending ?_
      rintro ⟨key, value⟩
      rw [hentries, StringMap.mem_entries_iff]
    rw [← filterMap_shown_eq_iff.2 hexpressions, hlabels]
    rfl
  · rintro rfl
    exact ⟨_, s.wanted.entries, rfl, filterMap_shown_eq_iff.1 rfl, s.wanted.ascending,
      fun _ _ => StringMap.mem_entries_iff⟩

theorem accepts_eq_true_iff {s : LabelSelector} {labels : StringMap String} :
    s.accepts labels = true ↔
      (∀ key value, s.wanted.get? key = some value → labels.get? key = some value) ∧
        ∀ r ∈ s.requirements, ∃ x, r.IsShownAs x ∧ x.Holds labels := by
  rw [accepts, Bool.and_eq_true, labelsMatch_iff, List.all_eq_true]
  simp only [LabelRequirement.accepts_iff]
  rfl

theorem forall_mem_shown_iff {s : LabelSelector} {labels : StringMap String} :
    (∀ x ∈ s.shown, x.Holds labels) ↔
      (∀ r ∈ s.requirements, ∀ x, r.IsShownAs x → x.Holds labels) ∧
        ∀ key value, s.wanted.get? key = some value → labels.get? key = some value := by
  rw [LabelSelector.shown, List.forall_mem_append]
  refine and_congr ?_ ?_
  · simp only [List.mem_filterMap, LabelRequirement.shown_eq_some_iff]
    exact ⟨fun h r hr x hx => h x ⟨r, hr, hx⟩, fun h x ⟨r, hr, hx⟩ => h r hr x hx⟩
  · simp only [shownLabels, List.forall_mem_map, Prod.forall, StringMap.mem_entries_iff]
    rfl

/-- **What is shown of a selector is what it asks for.** -/
theorem shown_says (s : LabelSelector) :
    (∀ shown, s.IsShownAs shown ↔ shown = s.shown) ∧
      ((∀ r ∈ s.requirements, r.IsKnown) → ∀ labels : StringMap String,
        (∀ x ∈ s.shown, x.Holds labels) ↔ s.accepts labels = true) ∧
      ((∃ r ∈ s.requirements, ¬ r.IsKnown) → ∀ labels, s.accepts labels = false) ∧
      (s.requirements = [] → ∀ labels, s.accepts labels = labelsMatch s.wanted labels) := by
  refine ⟨fun _ => isShownAs_iff, fun hknown labels => ?_, ?_, fun hnone labels => ?_⟩
  · rw [forall_mem_shown_iff, accepts_eq_true_iff, and_comm]
    refine and_congr_right fun _ => forall₂_congr fun r hr => ?_
    -- A known operator has one condition, so that all of them hold says as much as that one does.
    obtain ⟨o, ho⟩ := LabelRequirement.isKnown_iff.1 (hknown r hr)
    have hshown : ∀ x, r.IsShownAs x ↔ x = .expression r.key o (r.values.getD []) := by
      intro x
      rw [← LabelRequirement.shown_eq_some_iff, LabelRequirement.shown, ho, Operator.ofName?_name,
        Option.map_some, Option.some.injEq, eq_comm]
    simp only [hshown, forall_eq, exists_eq_left]
  · rintro ⟨r, hr, hunknown⟩ labels
    rw [Bool.eq_false_iff, Ne, accepts_eq_true_iff]
    rintro ⟨-, hall⟩
    obtain ⟨x, ⟨o, ho, -⟩, -⟩ := hall r hr
    exact hunknown (LabelRequirement.isKnown_iff.2 ⟨o, ho⟩)
  · change (_ && s.requirements.all _) = _
    rw [hnone]
    exact Bool.and_true _

end LabelSelector

end ClusterView
