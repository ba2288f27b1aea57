import ClusterView.Plugin.Registry
import ClusterView.Proofs.Outcome
import ClusterView.Proofs.StringMap
import Mathlib.Data.List.Induction

/-!
# Merging what plugins add

Plugins are stored one after the other, under names that may be empty or taken. Of a history of such
calls only the last plugin under each name counts (`get?_ofCalls_eq_some_iff`). Those that cover the
type of an object (`Asked`) are asked in the order of their names, and what they add is put
together; nothing else that was stored matters (`mergeLaw`).
-/

namespace ClusterView

open Outcome

/-! ## Histories of calls -/

/-- The last plugin that calls store under a name. -/
def IsLast (calls : List (String × Plugin)) (name : String) (p : Plugin) : Prop :=
  ∃ earlier later, calls = earlier ++ (name, p) :: later ∧ name ∉ later.map (·.1)

theorem isLast_append_singleton {calls : List (String × Plugin)} {call : String × Plugin}
    {name : String} {p : Plugin} :
    IsLast (calls ++ [call]) name p ↔ call = (name, p) ∨ call.1 ≠ name ∧ IsLast calls name p := by
  constructor
  · rintro ⟨earlier, later, heq, hlater⟩
    rcases List.eq_nil_or_concat' later with rfl | ⟨later, last, rfl⟩
    · exact .inl (List.append_inj_right' heq rfl |> List.cons.inj).1
    · rw [← List.cons_append, ← List.append_assoc] at heq
      obtain ⟨rfl, hlast⟩ := List.append_inj' heq rfl
      obtain rfl := (List.cons.inj hlast).1
      simp only [List.map_append, List.mem_append, not_or, List.map_cons, List.mem_cons] at hlater
      exact .inr ⟨fun h => hlater.2.1 h.symm, earlier, later, rfl, hlater.1⟩
  · rintro (rfl | ⟨hne, earlier, later, rfl, hlater⟩)
    · exact ⟨calls, [], rfl, by simp⟩
    · exact ⟨earlier, later ++ [call], by simp, by simpa using ⟨by simpa using hlater, Ne.symm hne⟩⟩

namespace PluginRegistry

/-- The registry after a call that stores a plugin. A call that fails leaves it as it is. -/
def afterCall (r : PluginRegistry) (call : String × Plugin) : PluginRegistry :=
  match r.store call.1 call.2 with
  | .ok stored => stored
  | .error _ => r

/-- The registry after some calls, from the first on. -/
def ofCalls (calls : List (String × Plugin)) : PluginRegistry := calls.foldl afterCall .empty

theorem store_unnamed (r : PluginRegistry) (p : Plugin) : r.store "" p = .error .emptyName := rfl

theorem afterCall_unnamed (r : PluginRegistry) (p : Plugin) : r.afterCall ("", p) = r := rfl

theorem afterCall_named (r : PluginRegistry) {name : String} (h : name ≠ "") (p : Plugin) :
    r.afterCall (name, p) = ⟨r.plugins.insert name p⟩ := by
  simp only [afterCall, store, if_neg h]

/-- **Of the plugins that were stored under a name the last one counts.** -/
theorem get?_ofCalls_eq_some_iff {calls : List (String × Plugin)} {name : String} {p : Plugin} :
    (ofCalls calls).get? name = some p ↔ name ≠ "" ∧ IsLast calls name p := by
  induction calls using List.reverseRecOn with
  | nil =>
    refine ⟨fun h => (nomatch h), ?_⟩
    rintro ⟨-, earlier, later, h, -⟩
    simp at h
  | append_singleton calls call ih =>
    obtain ⟨stored, q⟩ := call
    have hstep : ofCalls (calls ++ [(stored, q)]) = (ofCalls calls).afterCall (stored, q) := by
      rw [ofCalls, List.foldl_append]
      rfl
    rw [hstep, isLast_append_singleton]
    by_cases hstored : stored = ""
    · subst hstored
      rw [afterCall_unnamed, ih]
      constructor
      · rintro ⟨hname, hlast⟩
        exact ⟨hname, .inr ⟨Ne.symm hname, hlast⟩⟩
      · rintro ⟨hname, h | ⟨-, hlast⟩⟩
        · exact absurd (Prod.ext_iff.1 h).1.symm hname
        · exact ⟨hname, hlast⟩
    · rw [afterCall_named _ hstored, get?, StringMap.get?_insert, ← get?]
      split
      next h => simp [h ▸ hstored, h]
      next h => simp [ih, h]

end PluginRegistry

/-! ## Plugins that are asked -/

/-- Whether a plugin adds to the configuration, to the status or to the items of objects with the
group, version and kind of an object. -/
def Plugin.Covers (p : Plugin) (x : Object) : Prop :=
  let r := Reference.ofObject x
  let type : GroupVersionKind := ⟨r.group, r.version, r.kind⟩
  let c := p.metadata.capabilities
  type ∈ c.printerConfig ∨ type ∈ c.printerStatus ∨ type ∈ c.printerItems

theorem Plugin.covers_iff {p : Plugin} {x : Object} :
    p.metadata.capabilities.covers (Reference.ofObject x).apiVersion (Reference.ofObject x).kind =
      true ↔ p.Covers x := by
  have htype : ∀ g : GroupVersionKind,
      g.isType (Reference.ofObject x).apiVersion (Reference.ofObject x).kind = true ↔
        g = ⟨(Reference.ofObject x).group, (Reference.ofObject x).version,
          (Reference.ofObject x).kind⟩ := fun g => beq_iff_eq
  simp only [Capabilities.covers, List.any_eq_true, htype, exists_eq_right, List.mem_append,
    or_assoc, Covers]

/-- The plugins that are asked about an object after some calls, in the order of their names: the
last one under each name that is not empty, if it covers the object. -/
structure Asked (calls : List (String × Plugin)) (x : Object) (asked : List (String × Plugin)) :
    Prop where
  mem_iff : ∀ name p, (name, p) ∈ asked ↔ name ≠ "" ∧ IsLast calls name p ∧ p.Covers x
  ascending : Ascending asked

theorem Asked.eq {calls calls' : List (String × Plugin)} {x : Object}
    {asked asked' : List (String × Plugin)} (h : Asked calls x asked) (h' : Asked calls' x asked')
    (hsame : ∀ name p, name ≠ "" → p.Covers x → (IsLast calls name p ↔ IsLast calls' name p)) :
    asked = asked' := by
  refine StringMap.eq_of_mem_iff h.ascending h'.ascending fun ⟨name, p⟩ => ?_
  rw [h.mem_iff, h'.mem_iff]
  exact and_congr_right fun hname => and_congr_left fun hcovers => hsame name p hname hcovers

namespace PluginRegistry

/-- The entries of a registry that cover an object. -/
def coveringEntries (r : PluginRegistry) (x : Object) : List (String × Plugin) :=
  r.plugins.entries.filter fun e => e.2.metadata.capabilities.covers
    (Reference.ofObject x).apiVersion (Reference.ofObject x).kind

theorem asked_coveringEntries (calls : List (String × Plugin)) (x : Object) :
    Asked calls x ((ofCalls calls).coveringEntries x) where
  mem_iff name p := by
    rw [coveringEntries, List.mem_filter, Plugin.covers_iff, StringMap.mem_entries_iff, ← and_assoc]
    exact and_congr_left' get?_ofCalls_eq_some_iff
  ascending := (ofCalls calls).plugins.ascending.filter _

end PluginRegistry

/-! ## Contents put together -/

namespace PluginContent

/-- Contents one after the other. -/
def concat (contents : List PluginContent) : PluginContent :=
  ⟨contents.flatMap (·.config), contents.flatMap (·.status), contents.flatMap (·.items)⟩

theorem append_concat_cons (c first : PluginContent) (rest : List PluginContent) :
    c ++ first ++ concat rest = c ++ concat (first :: rest) := by
  show append (append c first) (concat rest) = append c (concat (first :: rest))
  simp only [append, concat, List.flatMap_cons, List.append_assoc]

theorem append_concat_nil (c : PluginContent) : c ++ concat [] = c := by
  show append c (concat []) = c
  simp only [append, concat, List.flatMap_nil, List.append_nil]

/-- Contents are made one after the other and put together. -/
theorem foldlM_append {α : Type} (f : α → Except PluginError PluginContent) (c : PluginContent)
    (xs : List α) : xs.foldlM (fun c a => (f a).map (c ++ ·)) c =
      (xs.mapM f).map fun contents => c ++ concat contents := by
  induction xs generalizing c with
  | nil => exact congrArg Except.ok (append_concat_nil c).symm
  | cons a rest ih =>
    rw [List.foldlM_cons, List.mapM_cons]
    cases f a with
    | error e => rfl
    | ok first =>
      refine (ih (c ++ first)).trans ?_
      rw [ok_bind]
      cases rest.mapM f with
      | error e => rfl
      | ok contents => exact congrArg Except.ok (append_concat_cons c first contents)

end PluginContent

namespace PluginRegistry

theorem content_eq (r : PluginRegistry) (x : Object) :
    r.content x = ((r.coveringEntries x).mapM fun e : String × Plugin => e.2.service.content x).map
      PluginContent.concat := by
  have hcovering : r.covering (.ofObject x) = (r.coveringEntries x).map (·.2) := by
    rw [covering, StringMap.values, List.filter_map]
    rfl
  rw [content, PluginContent.foldlM_append, hcovering, List.mapM_map]
  rfl

/-- Plugins answer for an object exactly if each that covers it does. -/
theorem exists_content_iff {r : PluginRegistry} {x : Object} :
    (∃ c, r.content x = .ok c) ↔
      ∀ name p, r.get? name = some p → p.Covers x → ∃ c, p.service.content x = .ok c := by
  simp only [content_eq, exists_map_eq_ok_iff, exists_mapM_eq_ok_iff, coveringEntries,
    List.mem_filter, Plugin.covers_iff, Prod.forall, StringMap.mem_entries_iff, and_imp]
  rfl

/-- What plugins add after some calls is what those that are asked add, in their order. -/
theorem content_ofCalls {calls : List (String × Plugin)} {x : Object}
    {asked : List (String × Plugin)} (h : Asked calls x asked) :
    (ofCalls calls).content x =
      (asked.mapM fun e : String × Plugin => e.2.service.content x).map PluginContent.concat := by
  rw [content_eq, (asked_coveringEntries calls x).eq h fun _ _ _ _ => Iff.rfl]

theorem content_congr {calls calls' : List (String × Plugin)} {x : Object}
    (h : ∀ name p, name ≠ "" → p.Covers x → (IsLast calls name p ↔ IsLast calls' name p)) :
    (ofCalls calls).content x = (ofCalls calls').content x := by
  rw [content_eq, content_eq,
    (asked_coveringEntries calls x).eq (asked_coveringEntries calls' x) h]

end PluginRegistry

/-! ## Calls in another order -/

/-- Without repeated names every plugin is the last one under its name. -/
theorem isLast_iff_mem {calls : List (String × Plugin)} (h : (calls.map (·.1)).Nodup)
    {name : String} {p : Plugin} : IsLast calls name p ↔ (name, p) ∈ calls := by
  constructor
  · rintro ⟨earlier, later, rfl, -⟩
    simp
  · intro hmem
    obtain ⟨earlier, later, rfl⟩ := List.append_of_mem hmem
    refine ⟨earlier, later, rfl, ?_⟩
    rw [List.map_append, List.map_cons] at h
    exact (List.nodup_cons.1 h.of_append_right).1

/-- How a history of calls that store plugins determines what is added to the page of an object. -/
structure MergeLaw (calls : List (String × Plugin)) (x : Object) : Prop where
  /-- Some plugins are asked; by `Asked.eq` they are no others. -/
  exists_asked : ∃ asked, Asked calls x asked
  /-- If all of them succeed, what they add is put together in the order of their names. -/
  ok_iff : ∀ asked, Asked calls x asked → ∀ c,
    (PluginRegistry.ofCalls calls).toManager.content x = .ok c ↔ ∃ contents,
      List.Forall₂ (fun e content => e.2.service.content x = .ok content) asked contents ∧
      c = ⟨contents.flatMap (·.config), contents.flatMap (·.status), contents.flatMap (·.items)⟩
  /-- Otherwise the first of them that fails decides. -/
  error_iff : ∀ asked, Asked calls x asked → ∀ failure,
    (PluginRegistry.ofCalls calls).toManager.content x = .error failure ↔ ∃ e,
      asked.find? (fun e => !(e.2.service.content x).isOk) = some e ∧
      e.2.service.content x = .error failure
  /-- Calls that store other plugins have no influence unless they are asked or replace one. -/
  congr : ∀ calls',
    (∀ name p, name ≠ "" → p.Covers x → (IsLast calls name p ↔ IsLast calls' name p)) →
    (PluginRegistry.ofCalls calls).toManager.content x =
      (PluginRegistry.ofCalls calls').toManager.content x
  /-- A plugin without a name is refused and changes nothing. -/
  unnamed : ∀ (r : PluginRegistry) (p : Plugin),
    r.store "" p = .error .emptyName ∧ r.afterCall ("", p) = r
  /-- The order of calls does not matter if no name is repeated. -/
  order : (calls.map (·.1)).Nodup → ∀ calls', calls.Perm calls' →
    (PluginRegistry.ofCalls calls).toManager.content x =
      (PluginRegistry.ofCalls calls').toManager.content x

/-- **What plugins add is merged in the order of their names.** -/
theorem mergeLaw (calls : List (String × Plugin)) (x : Object) : MergeLaw calls x where
  exists_asked := ⟨_, PluginRegistry.asked_coveringEntries calls x⟩
  ok_iff asked hasked c := by
    show (PluginRegistry.ofCalls calls).content x = .ok c ↔ _
    rw [PluginRegistry.content_ofCalls hasked, map_eq_ok_iff]
    simp only [mapM_eq_ok_iff]
    exact exists_congr fun contents => and_congr_right fun _ => eq_comm
  error_iff asked hasked failure := by
    show (PluginRegistry.ofCalls calls).content x = .error failure ↔ _
    rw [PluginRegistry.content_ofCalls hasked, ← mapM_eq_error_iff]
    cases asked.mapM fun e => e.2.service.content x with
    | error e => simp only [Except.map, Except.error.injEq]
    | ok contents => simp only [Except.map, reduceCtorEq]
  congr calls' h := PluginRegistry.content_congr h
  unnamed r p := ⟨r.store_unnamed p, r.afterCall_unnamed p⟩
  order hnodup calls' hperm := by
    have hnodup' : (calls'.map (·.1)).Nodup := (hperm.map _).nodup_iff.1 hnodup
    refine PluginRegistry.content_congr fun name p _ _ => ?_
    rw [isLast_iff_mem hnodup, isLast_iff_mem hnodup', hperm.mem_iff]

end ClusterView
