import ClusterView.Proofs.Print.Answers
import ClusterView.Proofs.Secret.Variant
import ClusterView.Proofs.Store.Listing
import ClusterView.Proofs.StringMap

/-!
# The secrets on the page of a service account

A service account names the secrets for pulling images and those that can be mounted. A token is
found the other way round, by what a secret says of the account that it is for: the name, and
perhaps the identity, which then has to be that of the account (`Object.HoldsTokenOf`). So the token
of an account that is gone is not taken for one of its successor under the same name. The summary
has a section for each of the three lists that is not empty, and
`ServiceAccount.configuration_eq_ok_iff` says which links are in them.
-/

namespace ClusterView

open Outcome

/-! ## Tokens -/

/-- Whether an object holds a token of a service account. -/
structure Object.HoldsTokenOf (x : Object) (a : ServiceAccount) : Prop where
  type : (Json.lookup x.fields "type").bind Json.text? =
    some "kubernetes.io/service-account-token"
  name : ∃ given ∈ x.metadata.annotations,
    given.get? "kubernetes.io/service-account.name" = some a.metadata.displayName
  /-- An identity that the object gives is that of the account. -/
  identity : ∀ given ∈ x.metadata.annotations, ∀ uid,
    given.get? "kubernetes.io/service-account.uid" = some uid → a.metadata.uid = some uid

/-- An identity is given to accounts that have one only. -/
theorem Object.HoldsTokenOf.uid_eq_none {x : Object} {a : ServiceAccount} (h : x.HoldsTokenOf a)
    (ha : a.metadata.uid = none) : ∀ given ∈ x.metadata.annotations,
      given.get? "kubernetes.io/service-account.uid" = none := by
  intro given hgiven
  apply Option.eq_none_iff_forall_not_mem.2
  intro uid huid
  cases ha.symm.trans (h.identity given hgiven uid huid)

/-- A text that may be left out is what its field holds, where that is a text. -/
theorem Json.eq_some_iff_of_optional? {fields : List (String × Json)} {name : String}
    {read : Option String} (h : Json.optional? fields name = some read) {text : String} :
    read = some text ↔ (Json.lookup fields name).bind Json.text? = some text := by
  unfold Json.optional? at h
  split at h
  next hmissing =>
    rw [hmissing]
    simp [← Option.some.inj h]
  next hnull =>
    rw [hnull]
    simp [← Option.some.inj h, Json.text?]
  next value _ hvalue =>
    obtain ⟨held, hheld, rfl⟩ := Option.map_eq_some_iff.1 h
    have htext : value.text? = some held := hheld
    rw [hvalue, Option.bind_some, htext]

/-- The type of a secret is the text in its field. -/
theorem Secret.type_eq_some_iff {x : Object} {s : Secret} (h : x.convert Secret = .ok s)
    {type : String} :
    s.type = some type ↔ (Json.lookup x.fields "type").bind Json.text? = some type := by
  obtain ⟨-, htype, -⟩ := Object.of_as?_secret (Object.convert_eq_ok_iff.1 h)
  exact Json.eq_some_iff_of_optional? htype

theorem Secret.isTokenOf_iff {x : Object} {s : Secret} (h : x.convert Secret = .ok s)
    {a : ServiceAccount} : s.isTokenOf a = true ↔ x.HoldsTokenOf a := by
  have hmeta : s.metadata = x.metadata := Object.metadata_of_convert h
  simp only [isTokenOf, ObjectMeta.annotationMap, Bool.and_eq_true, beq_iff_eq,
    type_eq_some_iff h, hmeta, Option.all_eq_true, StringMap.get?_getD_eq_some_iff]
  constructor
  · rintro ⟨⟨htype, hname⟩, hidentity⟩
    exact ⟨htype, hname, fun given hgiven uid huid => hidentity uid ⟨given, hgiven, huid⟩⟩
  · rintro ⟨htype, hname, hidentity⟩
    exact ⟨⟨htype, hname⟩, fun uid ⟨given, hgiven, huid⟩ => hidentity given hgiven uid huid⟩

instance (a : ServiceAccount) : DecidablePred fun x : Object => x.HoldsTokenOf a := fun x =>
  decidable_of_iff ((Json.lookup x.fields "type").bind Json.text? =
        some "kubernetes.io/service-account-token" ∧
      (∃ given ∈ x.metadata.annotations,
        given.get? "kubernetes.io/service-account.name" = some a.metadata.displayName) ∧
      ∀ given ∈ x.metadata.annotations,
        (given.get? "kubernetes.io/service-account.uid").all (a.metadata.uid = some ·) = true)
    (by
      simp only [Option.all_eq_true, decide_eq_true_eq]
      exact ⟨fun ⟨htype, hname, hidentity⟩ => ⟨htype, hname, hidentity⟩,
        fun ⟨htype, hname, hidentity⟩ => ⟨htype, hname, hidentity⟩⟩)

/-! ## Links to secrets -/

/-- Whether a component is the link to the secret of a name in a namespace, under that name. -/
def PrintOptions.LinksSecret (o : PrintOptions) (ns : Option String) (name : String)
    (c : Component) : Prop :=
  ∃ link, o.link.link ⟨ns, "v1", "Secret", name, name⟩ = .ok link ∧ c = .link link

theorem secretLink_eq_ok_iff {o : PrintOptions} {ns : Option String} {name : String}
    {c : Component} : secretLink o ns name = .ok c ↔ o.LinksSecret ns name c := by
  unfold secretLink
  rw [bind_eq_ok_iff]
  refine exists_congr fun link => and_congr mapError_eq_ok_iff ?_
  rw [pure_eq_ok_iff, eq_comm]

namespace ServiceAccount

/-- The query for the secrets of which some may be tokens of an account. -/
def tokenQuery (a : ServiceAccount) : Query :=
  { apiVersion := "v1", kind := "Secret", inNamespace := a.metadata.inNamespace }

/-- The links that are made for an object: one if it is a token. -/
def linksOf (a : ServiceAccount) (o : PrintOptions) (x : Object) :
    Except PrintError (List Component) := do
  let secret ← x.convert Secret
  if secret.isTokenOf a then do
    let link ← secretLink o secret.metadata.inNamespace (Resource.displayName secret)
    return [link]
  else return []

theorem tokenLinks_eq_bind (a : ServiceAccount) (o : PrintOptions) : a.tokenLinks o =
    (liftM (o.store.list a.tokenQuery) : Except PrintError _) >>= fun objects =>
      (objects.mapM (a.linksOf o)).map List.flatten := by
  unfold tokenLinks
  refine bind_congr fun objects => ?_
  show (objects.mapM (a.linksOf o) >>= fun links => pure links.flatten) = _
  cases objects.mapM (a.linksOf o) <;> rfl

/-- An object that can be read has the link to it if it is a token, and no link otherwise. -/
theorem linksOf_eq (a : ServiceAccount) (o : PrintOptions) {x : Object} (h : x.Converts Secret) :
    a.linksOf o x = ([x].filter fun x => x.HoldsTokenOf a).mapM fun x =>
      secretLink o x.metadata.inNamespace x.displayName := by
  obtain ⟨s, hs⟩ := h
  have hmeta : s.metadata = x.metadata := Object.metadata_of_convert hs
  have hname : Resource.displayName s = x.displayName := congrArg ObjectMeta.displayName hmeta
  rw [linksOf, hs, liftM_store_ok, ok_bind, hmeta, hname]
  by_cases htoken : x.HoldsTokenOf a
  · rw [if_pos ((Secret.isTokenOf_iff hs).2 htoken),
      List.filter_cons_of_pos (by simpa using htoken), List.filter_nil, List.mapM_cons,
      List.mapM_nil]
    rfl
  · rw [if_neg fun h => htoken ((Secret.isTokenOf_iff hs).1 h),
      List.filter_cons_of_neg (by simpa using htoken), List.filter_nil, List.mapM_nil]

/-- Each object is read, and the tokens among them are linked. -/
theorem mapM_linksOf_eq_ok_iff {a : ServiceAccount} {o : PrintOptions} {objects : List Object}
    {links : List Component} : (objects.mapM (a.linksOf o)).map List.flatten = .ok links ↔
      (∀ x ∈ objects, x.Converts Secret) ∧
      List.Forall₂ (fun x c => o.LinksSecret x.metadata.inNamespace x.displayName c)
        (objects.filter fun x => x.HoldsTokenOf a) links := by
  have hlinked (hconverts : ∀ x ∈ objects, x.Converts Secret) :
      (objects.mapM (a.linksOf o)).map List.flatten =
        (objects.filter fun x => x.HoldsTokenOf a).mapM fun x =>
          secretLink o x.metadata.inNamespace x.displayName := by
    have hparts : (objects.flatMap fun x => [x].filter fun x => x.HoldsTokenOf a) =
        objects.filter fun x => x.HoldsTokenOf a := by
      rw [← List.filter_flatMap, List.flatMap_singleton']
    rw [← hparts, ← mapM_flatMap]
    exact congrArg _ (mapM_congr (List.forall₂_same.2 fun x hx => a.linksOf_eq o (hconverts x hx)))
  constructor
  · intro h
    obtain ⟨lists, hlists, -⟩ := map_eq_ok_iff.1 h
    have hconverts : ∀ x ∈ objects, x.Converts Secret := by
      intro x hx
      obtain ⟨list, hlist⟩ := exists_mapM_eq_ok_iff.1 ⟨lists, hlists⟩ x hx
      obtain ⟨s, hs, -⟩ := bind_eq_ok_iff.1 hlist
      exact ⟨s, liftM_store_eq_ok_iff.1 hs⟩
    rw [hlinked hconverts, mapM_eq_ok_iff] at h
    exact ⟨hconverts, h.imp fun x c => secretLink_eq_ok_iff.1⟩
  · rintro ⟨hconverts, hlinks⟩
    rw [hlinked hconverts, mapM_eq_ok_iff]
    exact hlinks.imp fun x c => secretLink_eq_ok_iff.2

/-- The secrets in the namespace of an account are read, and the tokens among them are linked in
the order of the store. -/
theorem tokenLinks_eq_ok_iff {a : ServiceAccount} {o : PrintOptions} {given : List Object}
    {links : List Component} :
    a.tokenLinks (o.withStore (MemoryStore.ofObjects given).toObjectStore) = .ok links ↔
      ∃ answer, a.tokenQuery.IsAnswer given answer ∧ (∀ x ∈ answer, x.Converts Secret) ∧
        List.Forall₂ (fun x c => o.LinksSecret x.metadata.inNamespace x.displayName c)
          (answer.filter fun x => x.HoldsTokenOf a) links := by
  have hlist : a.tokenLinks (o.withStore (MemoryStore.ofObjects given).toObjectStore) =
      (((MemoryStore.ofObjects given).list a.tokenQuery).mapM (a.linksOf o)).map List.flatten :=
    tokenLinks_eq_bind a _
  rw [hlist, mapM_linksOf_eq_ok_iff, MemoryStore.exists_isAnswer_iff]

/-! ## The summary -/

/-- Whether links are those to the secrets of an account, over a store with some objects. -/
structure LinksSecrets (a : ServiceAccount) (o : PrintOptions) (given : List Object)
    (pull mountable tokens : List Component) : Prop where
  pull : List.Forall₂ (fun s c => o.LinksSecret a.metadata.inNamespace s.name c)
    (a.imagePullSecrets.getD []) pull
  /-- References without a name are passed over. -/
  mountable : List.Forall₂ (o.LinksSecret a.metadata.inNamespace)
    ((a.secrets.getD []).filterMap (·.name)) mountable
  /-- All secrets in the namespace of the account can be read, and those that are tokens of it are
  linked. -/
  tokens : ∃ answer, a.tokenQuery.IsAnswer given answer ∧ (∀ x ∈ answer, x.Converts Secret) ∧
    List.Forall₂ (fun x c => o.LinksSecret x.metadata.inNamespace x.displayName c)
      (answer.filter fun x => x.HoldsTokenOf a) tokens

/-- The sections of some lists of links, of those that are not empty. -/
def linkSections (lists : List (String × List Component)) : List (Summary.Section Component) :=
  (lists.filter fun l => !l.2.isEmpty).map fun l => ⟨l.1, .list ⟨none, l.2⟩⟩

theorem linkSection_eq (header : String) (links : List Component) :
    linkSection header links = linkSections [(header, links)] := by
  cases links <;> rfl

theorem linkSections_append (lists more : List (String × List Component)) :
    linkSections lists ++ linkSections more = linkSections (lists ++ more) := by
  simp [linkSections]

/-- **The summary of a service account shows its secrets and its tokens.** It is made exactly if
all of them can be linked and the secrets in the namespace can be read, and then it has a section
for each list of links that is not empty. -/
theorem configuration_eq_ok_iff (a : ServiceAccount) (given : List Object) (o : PrintOptions) :
    (∀ s, a.configuration (o.withStore (MemoryStore.ofObjects given).toObjectStore) = .ok s ↔
      ∃ pull mountable tokens, a.LinksSecrets o given pull mountable tokens ∧
        s = { title := "Configuration", actions := [],
              sections := linkSections [("Image Pull Secrets", pull),
                ("Mountable Secrets", mountable), ("Tokens", tokens)] }) ∧
      ∀ x : Object, x.HoldsTokenOf a → a.metadata.uid = none →
        ∀ given ∈ x.metadata.annotations,
          given.get? "kubernetes.io/service-account.uid" = none := by
  refine ⟨fun s => ?_, fun x hx => hx.uid_eq_none⟩
  have hsections : ∀ pull mountable tokens : List Component,
      linkSection "Image Pull Secrets" pull ++ linkSection "Mountable Secrets" mountable ++
          linkSection "Tokens" tokens =
        linkSections [("Image Pull Secrets", pull), ("Mountable Secrets", mountable),
          ("Tokens", tokens)] := fun pull mountable tokens => by
    simp only [linkSection_eq, linkSections_append, List.cons_append, List.nil_append]
  simp only [configuration, bind_eq_ok_iff, pure_eq_ok_iff, mapM_eq_ok_iff, tokenLinks_eq_ok_iff,
    hsections]
  constructor
  · rintro ⟨pull, hpull, mountable, hmountable, tokens, htokens, rfl⟩
    exact ⟨pull, mountable, tokens, ⟨hpull.imp fun _ _ => secretLink_eq_ok_iff.1,
      hmountable.imp fun _ _ => secretLink_eq_ok_iff.1, htokens⟩, rfl⟩
  · rintro ⟨pull, mountable, tokens, ⟨hpull, hmountable, htokens⟩, rfl⟩
    exact ⟨pull, hpull.imp fun _ _ => secretLink_eq_ok_iff.2, mountable,
      hmountable.imp fun _ _ => secretLink_eq_ok_iff.2, tokens, htokens, rfl⟩

end ServiceAccount

end ClusterView
