import ClusterView.Store.Memory
import Mathlib.Data.List.Forall2

/-!
# The order of a store

A store sorts its objects and leaves those alike in their given order. Objects that are left out
therefore move none of the others (`filter_mergeSort`), and objects that take the place of others
alike stand where these stood (`forall₂_mergeSort`).
-/

namespace ClusterView

namespace StableSort

variable {α β : Type} {le : α → α → Bool}

/-! ## Members alike -/

/-- Whether the order does not tell two members apart. -/
def alike (le : α → α → Bool) (a b : α) : Bool := le a b && le b a

theorem alike_self (total : ∀ a b, le a b || le b a) (a : α) : alike le a a = true := by
  simpa [alike] using total a a

/-- Sorting leaves members alike in their order. -/
theorem filter_alike_mergeSort (trans : ∀ a b c, le a b → le b c → le a c)
    (total : ∀ a b, le a b || le b a) (l : List α) (a : α) :
    (l.mergeSort le).filter (alike le a) = l.filter (alike le a) := by
  have hpair : (l.filter (alike le a)).Pairwise fun b c => le b c := by
    refine List.pairwise_of_forall_mem_list fun b hb c hc => ?_
    simp only [List.mem_filter, alike, Bool.and_eq_true] at hb hc
    exact trans b a c hb.2.2 hc.2.1
  have hsub := (List.sublist_mergeSort trans total hpair List.filter_sublist).filter (alike le a)
  simp only [List.filter_filter, Bool.and_self] at hsub
  exact (hsub.eq_of_length ((List.mergeSort_perm l le).filter _).length_eq.symm).symm

theorem head_le_of_mem (total : ∀ a b, le a b || le b a) {a b : α} {t : List α}
    (ht : (b :: t).Pairwise fun a b => le a b) (ha : a ∈ b :: t) : le b a = true := by
  rcases List.mem_cons.1 ha with rfl | ha
  · simpa using total a a
  · exact List.rel_of_pairwise_cons ht ha

/-- Sorted lists are equal if members alike stand in the same order in both. -/
theorem eq_of_filter_alike_eq (total : ∀ a b, le a b || le b a) {l l' : List α}
    (hl : l.Pairwise fun a b => le a b) (hl' : l'.Pairwise fun a b => le a b)
    (h : ∀ a, l.filter (alike le a) = l'.filter (alike le a)) : l = l' := by
  induction l generalizing l' with
  | nil =>
    cases l' with
    | nil => rfl
    | cons b t' => simpa [alike_self total] using h b
  | cons a t ih =>
    cases l' with
    | nil => simpa [alike_self total] using h a
    | cons b t' =>
      have ha : a ∈ b :: t' := by
        have hmem : a ∈ (a :: t).filter (alike le a) := by simp [alike_self total]
        exact List.mem_of_mem_filter (h a ▸ hmem)
      have hb : b ∈ a :: t := by
        have hmem : b ∈ (b :: t').filter (alike le b) := by simp [alike_self total]
        exact List.mem_of_mem_filter ((h b).symm ▸ hmem)
      have halike : alike le a b = true := by
        simp [alike, head_le_of_mem total hl hb, head_le_of_mem total hl' ha]
      have hhead := h a
      rw [List.filter_cons_of_pos (alike_self total a), List.filter_cons_of_pos halike] at hhead
      obtain ⟨rfl, -⟩ := List.cons.inj hhead
      refine congrArg (a :: ·) (ih hl.of_cons hl'.of_cons fun c => ?_)
      have hc := h c
      by_cases hac : alike le c a = true
      · rw [List.filter_cons_of_pos hac, List.filter_cons_of_pos hac] at hc
        exact (List.cons.inj hc).2
      · rwa [List.filter_cons_of_neg hac, List.filter_cons_of_neg hac] at hc

/-- **Leaving members out before sorting or after it is the same.** -/
theorem filter_mergeSort (trans : ∀ a b c, le a b → le b c → le a c)
    (total : ∀ a b, le a b || le b a) (p : α → Bool) (l : List α) :
    (l.mergeSort le).filter p = (l.filter p).mergeSort le := by
  refine eq_of_filter_alike_eq total ((List.pairwise_mergeSort trans total l).filter p)
    (List.pairwise_mergeSort trans total _) fun a => ?_
  rw [filter_alike_mergeSort trans total, List.filter_comm, filter_alike_mergeSort trans total,
    List.filter_comm]

/-- Members that the order tells apart are sorted alike however they are given. -/
theorem mergeSort_eq_of_perm (trans : ∀ a b c, le a b → le b c → le a c)
    (total : ∀ a b, le a b || le b a) {l l' : List α} (h : l.Perm l')
    (hantisymm : ∀ a ∈ l, ∀ b ∈ l, le a b = true → le b a = true → a = b) :
    l.mergeSort le = l'.mergeSort le := by
  have hperm : (l.mergeSort le).Perm (l'.mergeSort le) :=
    (List.mergeSort_perm l le).trans (h.trans (List.mergeSort_perm l' le).symm)
  refine hperm.eq_of_pairwise (fun a b ha hb => ?_) (List.pairwise_mergeSort trans total l)
    (List.pairwise_mergeSort trans total l')
  exact hantisymm a (List.mem_mergeSort.1 ha) b (h.mem_iff.2 (List.mem_mergeSort.1 hb))

/-- A member that may stand before all others and is given first is sorted first. -/
theorem head?_mergeSort_cons (trans : ∀ a b c, le a b → le b c → le a c)
    (total : ∀ a b, le a b || le b a) {a : α} {l : List α} (h : ∀ b ∈ l, le a b = true) :
    ((a :: l).mergeSort le).head? = some a := by
  obtain ⟨l₁, l₂, hcons, hsorted, hl₁⟩ := List.mergeSort_cons trans total a l
  rw [hcons]
  cases l₁ with
  | nil => rfl
  | cons b t =>
    have hb : b ∈ l.mergeSort le := by
      rw [hsorted]
      exact List.mem_cons_self
    simpa [h b (List.mem_mergeSort.1 hb)] using hl₁ b List.mem_cons_self

/-- The first sorted member with a property comes before all of them that are given before it, and
may stand before those given after it. -/
theorem find?_mergeSort (trans : ∀ a b c, le a b → le b c → le a c)
    (total : ∀ a b, le a b || le b a) {p : α → Bool} {l : List α} {a : α}
    (h : (l.mergeSort le).find? p = some a) :
    ∃ earlier later, l = earlier ++ a :: later ∧
      (∀ b ∈ earlier, p b = true → le b a = false) ∧ ∀ b ∈ later, p b = true → le a b = true := by
  obtain ⟨t, ht⟩ : ∃ t, (l.filter p).mergeSort le = a :: t := by
    rw [← List.head?_eq_some_iff, ← filter_mergeSort trans total, List.head?_filter, h]
  have hfirst : ∀ b ∈ l, p b = true → le a b = true := by
    intro b hb hpb
    refine head_le_of_mem total (ht ▸ List.pairwise_mergeSort trans total _) ?_
    rw [← ht, List.mem_mergeSort]
    exact List.mem_filter.2 ⟨hb, hpb⟩
  -- Of the members alike, sorting leaves the first one first.
  have halike : (l.filter p).filter (alike le a) = a :: t.filter (alike le a) := by
    rw [← filter_alike_mergeSort trans total, ht, List.filter_cons_of_pos (alike_self total a)]
  rw [List.filter_filter, List.filter_eq_cons_iff] at halike
  obtain ⟨earlier, later, rfl, hearlier, -, -⟩ := halike
  refine ⟨earlier, later, rfl, fun b hb hpb => ?_, fun b hb hpb => hfirst b (by simp [hb]) hpb⟩
  simpa [alike, hfirst b (by simp [hb]) hpb, hpb] using hearlier b hb

/-! ## Related members -/

/-- Lists stay related, member by member, if the order does not tell related members apart. -/
theorem forall₂_mergeSort {R : α → β → Prop} {le' : β → β → Bool}
    (hle : ∀ a a' b b', R a b → R a' b' → le a a' = le' b b') {xs : List α} {ys : List β}
    (h : List.Forall₂ R xs ys) : List.Forall₂ R (xs.mergeSort le) (ys.mergeSort le') := by
  obtain ⟨hlen, hR⟩ := List.forall₂_iff_zip.1 h
  let sorted := (xs.zip ys).mergeSort fun a b => le a.1 b.1
  have hxs : sorted.map Prod.fst = xs.mergeSort le := by
    rw [List.map_mergeSort (f := Prod.fst) (s := le) fun a _ b _ => rfl,
      List.map_fst_zip (Nat.le_of_eq hlen)]
  have hys : sorted.map Prod.snd = ys.mergeSort le' := by
    rw [List.map_mergeSort (f := Prod.snd) (s := le') fun a ha b hb => hle _ _ _ _ (hR ha) (hR hb),
      List.map_snd_zip (Nat.le_of_eq hlen.symm)]
  rw [← hxs, ← hys, List.forall₂_map_left_iff, List.forall₂_map_right_iff, List.forall₂_same]
  intro z hz
  exact hR (List.mem_mergeSort.1 hz)

end StableSort

/-! ## Objects -/

theorem namespaceLE_trans {a b c : Option String} (hab : namespaceLE a b = true)
    (hbc : namespaceLE b c = true) : namespaceLE a c = true := by
  match a, b, c with
  | none, _, _ => rfl
  | some a, some b, some c =>
    simp only [namespaceLE, decide_eq_true_eq] at hab hbc ⊢
    exact String.le_trans hab hbc

theorem namespaceLE_total (a b : Option String) :
    (namespaceLE a b || namespaceLE b a) = true := by
  match a, b with
  | none, _ => rfl
  | some a, none => rfl
  | some a, some b => simpa [namespaceLE] using String.le_total a b

theorem namespaceLE_antisymm {a b : Option String} (hab : namespaceLE a b = true)
    (hba : namespaceLE b a = true) : a = b := by
  match a, b with
  | none, none => rfl
  | some a, some b =>
    simp only [namespaceLE, decide_eq_true_eq] at hab hba
    rw [String.le_antisymm hab hba]

theorem Object.le_iff {a b : Object} : a.le b = true ↔
    (a.metadata.inNamespace = b.metadata.inNamespace ∧ a.displayName ≤ b.displayName) ∨
      (a.metadata.inNamespace ≠ b.metadata.inNamespace ∧
        namespaceLE a.metadata.inNamespace b.metadata.inNamespace = true) := by
  by_cases h : a.metadata.inNamespace = b.metadata.inNamespace <;> simp [Object.le, h]

theorem Object.keys_eq_of_le_of_le {a b : Object} (hab : a.le b = true) (hba : b.le a = true) :
    a.metadata.inNamespace = b.metadata.inNamespace ∧ a.displayName = b.displayName := by
  obtain ⟨hns, hab⟩ | ⟨hns, hab⟩ := Object.le_iff.1 hab
  · obtain ⟨-, hba⟩ | ⟨hns', -⟩ := Object.le_iff.1 hba
    · exact ⟨hns, String.le_antisymm hab hba⟩
    · exact absurd hns.symm hns'
  · obtain ⟨hns', -⟩ | ⟨-, hba⟩ := Object.le_iff.1 hba
    · exact absurd hns'.symm hns
    · exact absurd (namespaceLE_antisymm hab hba) hns

theorem Object.le_trans (a b c : Object) (hab : a.le b = true) (hbc : b.le c = true) :
    a.le c = true := by
  rw [Object.le_iff] at hab hbc ⊢
  rcases hab with ⟨hns, hab⟩ | ⟨hns, hab⟩
  · rw [hns]
    exact hbc.imp (fun h => ⟨h.1, String.le_trans hab h.2⟩) id
  · rcases hbc with ⟨hns', -⟩ | ⟨-, hbc⟩
    · rw [← hns']
      exact .inr ⟨hns, hab⟩
    · refine .inr ⟨fun h => hns ?_, namespaceLE_trans hab hbc⟩
      exact namespaceLE_antisymm hab (h ▸ hbc)

theorem Object.le_total (a b : Object) : (a.le b || b.le a) = true := by
  rw [Bool.or_eq_true, Object.le_iff, Object.le_iff]
  by_cases hns : a.metadata.inNamespace = b.metadata.inNamespace
  · exact (String.le_total a.displayName b.displayName).imp (fun h => .inl ⟨hns, h⟩)
      fun h => .inl ⟨hns.symm, h⟩
  · have htotal := namespaceLE_total a.metadata.inNamespace b.metadata.inNamespace
    rw [Bool.or_eq_true] at htotal
    exact htotal.imp (fun h => .inr ⟨hns, h⟩) fun h => .inr ⟨Ne.symm hns, h⟩

/-- The objects of a store that are kept are those of the store of the objects kept. -/
theorem MemoryStore.filter_ofObjects (p : Object → Bool) (objects : List Object) :
    (MemoryStore.ofObjects objects).objects.filter p =
      (MemoryStore.ofObjects (objects.filter p)).objects :=
  StableSort.filter_mergeSort Object.le_trans Object.le_total p objects

/-- Stores with the same objects of some kind have the same answers to what asks for these only. -/
theorem MemoryStore.list_eq_of_filter_eq {a b : MemoryStore} {p : Object → Bool}
    (h : a.objects.filter p = b.objects.filter p) {q : Query}
    (hq : ∀ x, q.selects x = true → p x = true) : a.list q = b.list q := by
  have hlist : ∀ s : MemoryStore, s.list q = (s.objects.filter p).filter q.selects := by
    intro s
    rw [list, List.filter_filter]
    refine List.filter_congr fun x _ => ?_
    cases hx : q.selects x with
    | false => rfl
    | true => simp [hq x hx]
  rw [hlist, hlist, h]

end ClusterView
