import ClusterView.Print.Basic
import Mathlib.Data.List.Forall2

/-!
# Outcomes of steps that may fail

A chain of steps succeeds when each step does (`bind_eq_ok_iff`), and a step for each member of a
list succeeds when it does for all of them (`mapM_eq_ok_iff`) and fails as the first of them that
fails (`mapM_eq_error_iff`). Lifting an error changes no success. What all values of the last step
are, the value of the chain is (`Yields`).
Two runs side by side have outcomes that are related (`Rel`) as long as each step relates them, and
a run whose steps may fail in addition fails as one of them or ends as it would have (`OrFails`).
-/

namespace ClusterView

namespace Outcome

variable {ε ε' α β γ γ' : Type}

/-! ## Chains -/

theorem bind_eq_ok_iff {x : Except ε α} {f : α → Except ε β} {b : β} :
    (x >>= f) = .ok b ↔ ∃ a, x = .ok a ∧ f a = .ok b := by
  cases x with
  | error e => simp [bind, Except.bind]
  | ok a => simp [bind, Except.bind]

theorem pure_eq_ok_iff {a b : α} : (pure a : Except ε α) = .ok b ↔ a = b := by
  simp [pure, Except.pure]

@[simp] theorem ok_bind (a : α) (f : α → Except ε β) : (Except.ok a >>= f) = f a := rfl

@[simp] theorem error_bind (e : ε) (f : α → Except ε β) : (Except.error e >>= f) = .error e := rfl

theorem map_eq_ok_iff {x : Except ε α} {f : α → β} {b : β} :
    x.map f = .ok b ↔ ∃ a, x = .ok a ∧ f a = b := by
  cases x with
  | error e => simp [Except.map]
  | ok a => simp [Except.map]

/-- Making something of the outcome of a chain is making it of that of the last step. -/
theorem map_bind (x : Except ε α) (f : α → Except ε β) (g : β → γ) :
    (x >>= f).map g = x >>= fun a => (f a).map g := by
  cases x <;> rfl

theorem exists_bind_eq_ok_iff {x : Except ε α} {f : α → Except ε β} :
    (∃ b, (x >>= f) = .ok b) ↔ ∃ a, x = .ok a ∧ ∃ b, f a = .ok b := by
  simp only [bind_eq_ok_iff]
  exact exists_comm.trans (exists_congr fun _ => exists_and_left)

/-- Making something of an outcome cannot fail. -/
theorem exists_map_eq_ok_iff {x : Except ε α} {f : α → β} :
    (∃ b, x.map f = .ok b) ↔ ∃ a, x = .ok a := by
  cases x with
  | error e => simp [Except.map]
  | ok a => simp [Except.map]

/-! ## Lifted errors -/

theorem mapError_eq_ok_iff {x : Except ε α} {f : ε → ε'} {a : α} :
    x.mapError f = .ok a ↔ x = .ok a := by
  cases x with
  | error e => simp [Except.mapError]
  | ok b => simp [Except.mapError]

@[simp] theorem liftM_store_ok (a : α) :
    (liftM (Except.ok a : Except StoreError α) : Except PrintError α) = .ok a := rfl

theorem liftM_store_eq_ok_iff {x : Except StoreError α} {a : α} :
    (liftM x : Except PrintError α) = .ok a ↔ x = .ok a :=
  mapError_eq_ok_iff

theorem liftM_plugin_eq_ok_iff {x : Except PluginError α} {a : α} :
    (liftM x : Except PrintError α) = .ok a ↔ x = .ok a :=
  mapError_eq_ok_iff

theorem liftM_view_eq_ok_iff {x : Except ViewError α} {a : α} :
    (liftM x : Except PrintError α) = .ok a ↔ x = .ok a :=
  mapError_eq_ok_iff

/-! ## A step for each member -/

/-- A step succeeds for all members of a list exactly when it does for each of them. -/
theorem mapM_eq_ok_iff {f : α → Except ε β} {xs : List α} {ys : List β} :
    xs.mapM f = .ok ys ↔ List.Forall₂ (fun x y => f x = .ok y) xs ys := by
  induction xs generalizing ys with
  | nil => rw [List.mapM_nil, pure_eq_ok_iff, List.forall₂_nil_left_iff, eq_comm]
  | cons x xs ih =>
    simp only [List.mapM_cons, bind_eq_ok_iff, pure_eq_ok_iff, List.forall₂_cons_left_iff]
    constructor
    · rintro ⟨y, hy, zs, hzs, rfl⟩
      exact ⟨y, zs, hy, ih.1 hzs, rfl⟩
    · rintro ⟨y, zs, hy, hzs, rfl⟩
      exact ⟨y, hy, zs, ih.2 hzs, rfl⟩

/-- A step for all members of a list fails as the first member does whose step fails. -/
theorem mapM_eq_error_iff {f : α → Except ε β} {xs : List α} {e : ε} :
    xs.mapM f = .error e ↔ ∃ x, xs.find? (fun x => !(f x).isOk) = some x ∧ f x = .error e := by
  induction xs with
  | nil => simp [pure, Except.pure]
  | cons x xs ih =>
    rw [List.mapM_cons, List.find?_cons]
    cases hx : f x with
    | error e' => simp [Except.isOk, Except.toBool, hx]
    | ok y =>
      have hrest : (xs.mapM f >>= fun ys => pure (y :: ys)) = .error e ↔ xs.mapM f = .error e := by
        cases xs.mapM f with
        | error e' => simp
        | ok ys => simp [pure, Except.pure]
      simpa [Except.isOk, Except.toBool] using hrest.trans ih

/-- All members before the first one whose step fails are done. -/
theorem mapM_eq_error_iff_append {f : α → Except ε β} {xs : List α} {e : ε} :
    xs.mapM f = .error e ↔ ∃ earlier x later, xs = earlier ++ x :: later ∧
      (∀ y ∈ earlier, ∃ b, f y = .ok b) ∧ f x = .error e := by
  have hok : ∀ y, (!!(f y).isOk) = true ↔ ∃ b, f y = .ok b := by
    intro y
    cases f y <;> simp [Except.isOk, Except.toBool]
  simp only [mapM_eq_error_iff, List.find?_eq_some_iff_append, hok]
  constructor
  · rintro ⟨x, ⟨-, earlier, later, hxs, hearlier⟩, hx⟩
    exact ⟨earlier, x, later, hxs, hearlier, hx⟩
  · rintro ⟨earlier, x, later, hxs, hearlier, hx⟩
    exact ⟨x, ⟨by simp [hx, Except.isOk, Except.toBool], earlier, later, hxs, hearlier⟩, hx⟩

/-- Making something of each outcome is making something of all of them. -/
theorem mapM_bind_pure (f : α → Except ε β) (g : β → γ) (xs : List α) :
    (xs.mapM fun x => f x >>= fun b => pure (g b)) = (xs.mapM f).map (List.map g) := by
  induction xs with
  | nil => rfl
  | cons x xs ih =>
    rw [List.mapM_cons, List.mapM_cons, ih]
    cases f x with
    | error e => rfl
    | ok b => cases xs.mapM f <;> rfl

/-- A step for the members of each part, one part after the other, is a step for all members. -/
theorem mapM_flatMap (f : α → Except ε β) (parts : γ → List α) (xs : List γ) :
    (xs.mapM fun x => (parts x).mapM f).map List.flatten = (xs.flatMap parts).mapM f := by
  induction xs with
  | nil => rfl
  | cons x xs ih =>
    rw [List.flatMap_cons, List.mapM_append, ← ih, List.mapM_cons]
    cases (parts x).mapM f with
    | error e => rfl
    | ok ys => cases xs.mapM fun x => (parts x).mapM f <;> rfl

/-- Steps with the same outcomes, member by member, have the same outcome for the whole list. -/
theorem mapM_congr {f : α → Except ε γ} {g : β → Except ε γ} {xs : List α} {ys : List β}
    (h : List.Forall₂ (fun x y => f x = g y) xs ys) : xs.mapM f = ys.mapM g := by
  induction h with
  | nil => rfl
  | cons hxy _ ih => rw [List.mapM_cons, List.mapM_cons, hxy, ih]

/-! ## Related lists -/

theorem exists_right_of_mem {R : α → β → Prop} {xs : List α} {ys : List β}
    (h : List.Forall₂ R xs ys) {x : α} (hx : x ∈ xs) : ∃ y ∈ ys, R x y := by
  obtain ⟨i, hi, rfl⟩ := List.getElem_of_mem hx
  have hi' : i < ys.length := h.length_eq ▸ hi
  exact ⟨ys[i], List.getElem_mem hi', h.get hi hi'⟩

theorem exists_left_of_mem {R : α → β → Prop} {xs : List α} {ys : List β}
    (h : List.Forall₂ R xs ys) {y : β} (hy : y ∈ ys) : ∃ x ∈ xs, R x y :=
  exists_right_of_mem h.flip hy

/-- A step succeeds for all members of a list exactly if it does for each. -/
theorem exists_mapM_eq_ok_iff {f : α → Except ε β} {xs : List α} :
    (∃ ys, xs.mapM f = .ok ys) ↔ ∀ x ∈ xs, ∃ y, f x = .ok y := by
  constructor
  · rintro ⟨ys, hys⟩ x hx
    obtain ⟨y, -, hy⟩ := exists_right_of_mem (mapM_eq_ok_iff.1 hys) hx
    exact ⟨y, hy⟩
  · intro h
    cases hxs : xs.mapM f with
    | ok ys => exact ⟨ys, rfl⟩
    | error e =>
      obtain ⟨x, hx, hfails⟩ := mapM_eq_error_iff.1 hxs
      obtain ⟨y, hy⟩ := h x (List.mem_of_find?_eq_some hx)
      simp [hy] at hfails

/-! ## Values -/

/-- Whether an outcome has a property if it is a value. -/
def Yields (Q : α → Prop) (x : Except ε α) : Prop := ∀ a, x = .ok a → Q a

namespace Yields

variable {Q : α → Prop} {S : β → Prop} {x : Except ε α}

theorem ok {a : α} (h : Q a) : Yields Q (.ok a : Except ε α) := by
  rintro _ ⟨⟩
  exact h

/-- The last step of a chain makes its value. -/
theorem bind {f : α → Except ε β} (h : ∀ a, x = .ok a → Yields S (f a)) : Yields S (x >>= f) := by
  intro b hb
  obtain ⟨a, ha, hf⟩ := bind_eq_ok_iff.1 hb
  exact h a ha b hf

theorem map (h : Yields Q x) {f : α → β} (hf : ∀ a, Q a → S (f a)) : Yields S (x.map f) := by
  intro b hb
  obtain ⟨a, ha, rfl⟩ := map_eq_ok_iff.1 hb
  exact hf a (h a ha)

/-- A step for each member of a list makes each of the values. -/
theorem mapM {f : α → Except ε β} {xs : List α} (h : ∀ a ∈ xs, Yields S (f a)) :
    Yields (fun bs => ∀ b ∈ bs, S b) (xs.mapM f) := by
  intro bs hbs b hb
  obtain ⟨a, ha, hf⟩ := exists_left_of_mem (mapM_eq_ok_iff.1 hbs) hb
  exact h a ha b hf

end Yields

/-! ## Steps side by side -/

/-- Outcomes of two runs: the same error, or related values. -/
inductive Rel (R : α → β → Prop) : Except ε α → Except ε β → Prop
  | error (e : ε) : Rel R (.error e) (.error e)
  | ok {a : α} {b : β} (h : R a b) : Rel R (.ok a) (.ok b)

variable {R : α → β → Prop}

theorem Rel.mono {S : α → β → Prop} {x : Except ε α} {y : Except ε β} (h : Rel R x y)
    (hRS : ∀ a b, R a b → S a b) : Rel S x y := by
  cases h with
  | error e => exact .error e
  | ok hab => exact .ok (hRS _ _ hab)

/-- Runs that go on alike with related values stay related. -/
theorem Rel.bind {S : γ → γ' → Prop} {x : Except ε α} {y : Except ε β} (h : Rel R x y)
    {f : α → Except ε γ} {g : β → Except ε γ'} (hfg : ∀ a b, R a b → Rel S (f a) (g b)) :
    Rel S (x >>= f) (y >>= g) := by
  cases h with
  | error e => exact .error e
  | ok hab => exact hfg _ _ hab

/-- Runs that begin with the same step are related if they are from then on. -/
theorem Rel.bind_same {S : γ → γ' → Prop} {x : Except ε α} {f : α → Except ε γ}
    {g : α → Except ε γ'} (h : ∀ a, x = .ok a → Rel S (f a) (g a)) :
    Rel S (x >>= f) (x >>= g) := by
  cases x with
  | error e => exact .error e
  | ok a => exact h a rfl

theorem Rel.map {S : γ → γ' → Prop} {x : Except ε α} {y : Except ε β} (h : Rel R x y) {f : α → γ}
    {g : β → γ'} (hfg : ∀ a b, R a b → S (f a) (g b)) : Rel S (x.map f) (y.map g) := by
  cases h with
  | error e => exact .error e
  | ok hab => exact .ok (hfg _ _ hab)

/-- Runs that do the same with related values have the same outcome. -/
theorem Rel.bind_eq {x : Except ε α} {y : Except ε β} (h : Rel R x y) {f : α → Except ε γ}
    {g : β → Except ε γ} (hfg : ∀ a b, R a b → f a = g b) : (x >>= f) = (y >>= g) := by
  cases h with
  | error e => rfl
  | ok hab => exact hfg _ _ hab

/-- Lifting the errors of both runs keeps their outcomes related. -/
theorem Rel.mapError {x : Except ε α} {y : Except ε β} (h : Rel R x y) (f : ε → ε') :
    Rel R (x.mapError f) (y.mapError f) := by
  cases h with
  | error e => exact .error _
  | ok hab => exact .ok hab

/-- Runs that are related member by member are related for the whole list. -/
theorem Rel.mapM {S : γ → γ' → Prop} {f : γ → Except ε α} {g : γ' → Except ε β}
    (hfg : ∀ c d, S c d → Rel R (f c) (g d)) {xs : List γ} {ys : List γ'}
    (h : List.Forall₂ S xs ys) : Rel (List.Forall₂ R) (xs.mapM f) (ys.mapM g) := by
  induction h with
  | nil => exact .ok .nil
  | @cons c d cs ds hcd _ ih =>
    rw [List.mapM_cons, List.mapM_cons]
    have hhead := hfg c d hcd
    generalize f c = x, g d = y at hhead
    generalize cs.mapM f = xs, ds.mapM g = ys at ih
    cases hhead with
    | error e => exact .error e
    | ok hab =>
      cases ih with
      | error e => exact .error e
      | ok has => exact .ok (.cons hab has)

/-! ## Steps that may fail in addition -/

/-- An outcome that is another one or an error of some sort. -/
def OrFails (fault : ε → Prop) (x y : Except ε α) : Prop := x = y ∨ ∃ e, fault e ∧ x = .error e

namespace OrFails

variable {fault : ε → Prop} {x y : Except ε α}

theorem refl (x : Except ε α) : OrFails fault x x := .inl rfl

theorem of_eq (h : x = y) : OrFails fault x y := .inl h

/-- Where no error is possible in addition, both outcomes are the same. -/
theorem eq_of_never (h : OrFails (fun _ => False) x y) : x = y :=
  h.resolve_right fun ⟨_, hfalse, _⟩ => hfalse

/-- A chain of steps fails in addition only where one of its steps does. -/
theorem bind (h : OrFails fault x y) {f g : α → Except ε β}
    (hfg : ∀ a, y = .ok a → OrFails fault (f a) (g a)) : OrFails fault (x >>= f) (y >>= g) := by
  rcases h with rfl | ⟨e, he, rfl⟩
  · cases x with
    | error e => exact .refl _
    | ok a => exact hfg a rfl
  · exact .inr ⟨e, he, rfl⟩

theorem map (h : OrFails fault x y) (f : α → β) : OrFails fault (x.map f) (y.map f) := by
  rcases h with rfl | ⟨e, he, rfl⟩
  · exact .refl _
  · exact .inr ⟨e, he, rfl⟩

theorem mapError {f : ε → ε'} {fault : ε' → Prop} (h : OrFails (fun e => fault (f e)) x y) :
    OrFails fault (x.mapError f) (y.mapError f) := by
  rcases h with rfl | ⟨e, he, rfl⟩
  · exact .refl _
  · exact .inr ⟨f e, he, rfl⟩

/-- A step for each member fails in addition only where the step of a member does. -/
theorem mapM {f : γ → Except ε α} {g : γ' → Except ε α} {xs : List γ} {ys : List γ'}
    (h : List.Forall₂ (fun c d => OrFails fault (f c) (g d)) xs ys) :
    OrFails fault (xs.mapM f) (ys.mapM g) := by
  induction h with
  | nil => exact .refl _
  | cons hhead _ ih =>
    rw [List.mapM_cons, List.mapM_cons]
    exact hhead.bind fun a _ => ih.bind fun as _ => .refl _

end OrFails

end Outcome

end ClusterView
