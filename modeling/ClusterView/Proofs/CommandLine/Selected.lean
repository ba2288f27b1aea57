import ClusterView.CommandLine.Selection
import ClusterView.Proofs.Store.Listing

/-!
# What is selected for a list

A kind is asked for alone, or behind an API version and a slash (`AsksForType`). Of the objects that
are asked for the first one is that of the lowest place, and of these the one that was given first
(`IsFirst`). Its type is the type of the list, which has all objects of this type in the namespace
that is asked for (`selectList_of_asksFor`).
-/

namespace ClusterView

namespace PrintArguments

/-! ## What is asked for -/

/-- Whether a type is asked for, by its kind alone or with its API version. No kind with a slash can
be asked for. -/
def AsksForType (a : PrintArguments) (t : TypeMeta) : Prop :=
  ∀ s, a.kind = some s → '/' ∉ t.kind.toList ∧ (s = t.kind ∨ s = t.apiVersion ++ "/" ++ t.kind)

/-- Whether an object is asked for, by its type and its namespace. -/
structure AsksFor (a : PrintArguments) (x : Object) : Prop where
  types : ∃ t, x.types = some t ∧ a.AsksForType t
  inNamespace : ∀ ns, a.inNamespace = some ns → x.metadata.inNamespace = some ns

variable {a : PrintArguments} {t : TypeMeta} {x : Object}

/-- The parts of the kind that is asked for name the types that are. -/
theorem splitKind_all_iff : (a.splitKind.1.all (· == t.apiVersion) = true ∧
    a.splitKind.2.all (· == t.kind) = true) ↔ a.AsksForType t := by
  unfold splitKind AsksForType
  cases a.kind with
  | none => simp
  | some s =>
    simp only [Option.some.injEq, forall_eq']
    cases hsplit : Text.splitLast? '/' s with
    | none =>
      have hslash : '/' ∉ s.toList := Text.splitLast?_eq_none_iff.1 hsplit
      have hversion : s ≠ t.apiVersion ++ "/" ++ t.kind := by
        rintro rfl
        simp at hslash
      simp only [Option.all_none, Option.all_some, beq_iff_eq, true_and, hversion, or_false]
      exact ⟨fun h => ⟨h ▸ hslash, h⟩, And.right⟩
    | some parts =>
      obtain ⟨apiVersion, kind⟩ := parts
      simp only [Option.all_some, beq_iff_eq]
      constructor
      · rintro ⟨rfl, rfl⟩
        obtain ⟨hs, hslash⟩ := Text.splitLast?_slash_iff.1 hsplit
        exact ⟨hslash, .inr hs⟩
      · rintro ⟨hslash, rfl | rfl⟩
        · rw [Text.splitLast?_eq_none_iff.2 hslash] at hsplit
          cases hsplit
        · rw [Text.splitLast?_slash hslash] at hsplit
          cases hsplit
          exact ⟨rfl, rfl⟩

theorem admits_iff_asksFor : a.admits x = true ↔ a.AsksFor x := by
  have hns : (a.inNamespace.all fun ns => x.metadata.inNamespace == some ns) = true ↔
      ∀ ns, a.inNamespace = some ns → x.metadata.inNamespace = some ns := by
    simp [Option.all_eq_true]
  unfold admits
  cases htypes : x.types with
  | none =>
    refine ⟨fun h => (nomatch h), fun h => ?_⟩
    obtain ⟨t, ht, -⟩ := h.types
    cases htypes.symm.trans ht
  | some t =>
    rw [Bool.and_eq_true, Bool.and_eq_true, splitKind_all_iff, hns]
    constructor
    · rintro ⟨hkind, hns⟩
      exact ⟨⟨t, htypes, hkind⟩, hns⟩
    · rintro ⟨⟨t', ht', hkind⟩, hns⟩
      obtain rfl := Option.some.inj (htypes.symm.trans ht')
      exact ⟨hkind, hns⟩

/-! ## The list of a type -/

/-- The query for the objects of a type in the namespace that is asked for. -/
def query (a : PrintArguments) (t : TypeMeta) : Query :=
  { apiVersion := t.apiVersion, kind := t.kind, inNamespace := a.inNamespace }

/-- Of the objects of a type that is asked for, the query selects those that are. -/
theorem selects_query_iff (h : a.AsksForType t) :
    (a.query t).selects x = true ↔ x.types = some t ∧ a.AsksFor x := by
  rw [Query.selects_iff_asks]
  constructor
  · rintro ⟨htypes, hns, -, -⟩
    exact ⟨htypes, ⟨t, htypes, h⟩, hns⟩
  · rintro ⟨htypes, -, hns⟩
    exact ⟨htypes, hns, fun _ hname => (nomatch hname), fun _ hlabels => (nomatch hlabels)⟩

/-- Whether an object is the first one that is asked for: it comes before all of them that are given
before it, and no later than those given after it. -/
structure IsFirst (a : PrintArguments) (given : List Object) (x : Object) : Prop where
  asksFor : a.AsksFor x
  least : ∃ earlier later, given = earlier ++ x :: later ∧
    (∀ y ∈ earlier, a.AsksFor y → x.place < y.place) ∧
    ∀ y ∈ later, a.AsksFor y → x.place ≤ y.place

variable {given : List Object}

theorem IsFirst.mem (h : a.IsFirst given x) : x ∈ given := by
  obtain ⟨earlier, later, rfl, -⟩ := h.least
  simp

theorem IsFirst.place_le (h : a.IsFirst given x) {y : Object} (hy : y ∈ given)
    (hasks : a.AsksFor y) : x.place ≤ y.place := by
  obtain ⟨earlier, later, rfl, hearlier, hlater⟩ := h.least
  rcases List.mem_append.1 hy with hy | hy
  · exact (hearlier y hy hasks).le
  · rcases List.mem_cons.1 hy with rfl | hy
    · exact le_rfl
    · exact hlater y hy hasks

theorem isFirst_of_find? (h : (MemoryStore.ofObjects given).objects.find? a.admits = some x) :
    a.IsFirst given x := by
  obtain ⟨earlier, later, hgiven, hearlier, hlater⟩ :=
    StableSort.find?_mergeSort Object.le_trans Object.le_total h
  refine ⟨admits_iff_asksFor.1 (List.find?_some h), earlier, later, hgiven, fun y hy hasks => ?_,
    fun y hy hasks => ?_⟩
  · exact Object.place_lt_iff.2 (hearlier y hy (admits_iff_asksFor.2 hasks))
  · exact Object.place_le_iff.2 (hlater y hy (admits_iff_asksFor.2 hasks))

end PrintArguments

open PrintArguments

variable {a : PrintArguments} {given : List Object}

theorem selectList_of_none (h : ∀ x ∈ given, ¬ a.AsksFor x) :
    selectList (MemoryStore.ofObjects given).objects a = none := by
  have hfind : (MemoryStore.ofObjects given).objects.find? a.admits = none := by
    rw [List.find?_eq_none]
    intro x hx hadmits
    exact h x (List.mem_mergeSort.1 hx) (admits_iff_asksFor.1 hadmits)
  rw [selectList, hfind]
  rfl

/-- **What a list is of.** It has the type of the first object that is asked for, and the objects of
this type that are. -/
theorem selectList_of_asksFor (h : ∃ x ∈ given, a.AsksFor x) :
    ∃ first t, a.IsFirst given first ∧ first.types = some t ∧
      selectList (MemoryStore.ofObjects given).objects a =
        some (t, (MemoryStore.ofObjects given).list (a.query t)) := by
  obtain ⟨x, hx, hasks⟩ := h
  have hsome : ((MemoryStore.ofObjects given).objects.find? a.admits).isSome = true :=
    List.find?_isSome.2 ⟨x, List.mem_mergeSort.2 hx, admits_iff_asksFor.2 hasks⟩
  obtain ⟨first, hfind⟩ := Option.isSome_iff_exists.1 hsome
  have hfirst := isFirst_of_find? hfind
  obtain ⟨t, htypes, ht⟩ := hfirst.asksFor.types
  refine ⟨first, t, hfirst, htypes, ?_⟩
  have hlist : (MemoryStore.ofObjects given).objects.filter
      (fun y => y.types == some t && a.admits y) =
        (MemoryStore.ofObjects given).list (a.query t) := by
    refine List.filter_congr fun y _ => ?_
    rw [Bool.eq_iff_iff, Bool.and_eq_true, beq_iff_eq, admits_iff_asksFor, selects_query_iff ht]
  rw [← hlist, selectList, hfind]
  simp [htypes]

end ClusterView
