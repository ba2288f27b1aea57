import ClusterView.Proofs.Access.Bindings
import ClusterView.Proofs.Print.Answers
import ClusterView.Proofs.Print.Lists
import ClusterView.Proofs.Secret.Variant

/-!
# Values of secrets are not printed

Secrets reach a printer as what is printed, in the answers of the store when the tokens of a service
account are looked for, and as what plugins see. The values of a secret matter in none of these
(`print_eq_of_alike`): printing shows the keys of a secret, tokens are told by their type and their
annotations, and plugins of which only the metadata is known add nothing.
-/

namespace ClusterView

open Outcome

/-! ## Plugins -/

/-- Plugins of which only the metadata is known add nothing to any page. -/
theorem PluginRegistry.content_of_silent {r : PluginRegistry}
    (h : ∀ p ∈ r.plugins.values, p.service = .silent) (x : Object) : r.content x = .ok {} := by
  have hcovering : ∀ p ∈ r.covering (.ofObject x), p.service = .silent :=
    fun p hp => h p (List.mem_filter.1 hp).1
  unfold content
  generalize r.covering (.ofObject x) = plugins at hcovering
  induction plugins with
  | nil => rfl
  | cons p rest ih =>
    have hfirst : p.service.content x = .ok {} := by
      rw [hcovering p List.mem_cons_self]
      rfl
    rw [List.foldlM_cons, hfirst]
    exact ih fun p' hp' => hcovering p' (List.mem_cons_of_mem _ hp')

/-! ## Secrets alike -/

section

variable {s s' : Secret} (h : s.Alike s') {o : PrintOptions}
include h

/-- Secrets alike are printed alike, unless plugins tell them apart. -/
theorem Secret.print_eq
    (hcontent :
      o.plugins.content (Resource.toObject s) = o.plugins.content (Resource.toObject s')) :
    Secret.print o (some s) = Secret.print o (some s') := by
  have hpage : s'.page = { s.page with source := Resource.toObject s' } := by
    have hresource : Resource.metadata s' = Resource.metadata s := h.metadata
    simp only [page, configuration, dataTable, Page.ofResource, Reference.ofResource, hresource,
      h.type, h.keys]
  change s.page.print o = s'.page.print o
  rw [hpage]
  exact (Page.print_source (p := s.page) hcontent.symm).symm

/-- Secrets alike have the same row in a table. -/
theorem Secret.row_eq : Secret.listView.row o s = Secret.listView.row o s' := by
  have hresource : Resource.metadata s' = Resource.metadata s := h.metadata
  simp only [ListView.row, nameLink, listView, Reference.ofResource, Resource.displayName,
    List.map_cons, List.map_nil, ageOf, hresource, h.type, h.keys]

/-- Secrets alike hold tokens of the same service accounts. -/
theorem Secret.isTokenOf_eq (x : ServiceAccount) : s.isTokenOf x = s'.isTokenOf x := by
  simp only [isTokenOf, h.type, h.metadata]

end

/-! ## Stores alike -/

section

variable {o : PrintOptions} {a b : MemoryStore}
  (h : List.Forall₂ (Object.Alike secretType) a.objects b.objects)
include h

/-- In stores alike a service account has the same tokens. -/
theorem ServiceAccount.tokenLinks_eq (x : ServiceAccount) :
    x.tokenLinks (o.withStore a.toObjectStore) = x.tokenLinks (o.withStore b.toObjectStore) := by
  simp only [tokenLinks, PrintOptions.store_withStore, MemoryStore.toObjectStore, liftM_store_ok,
    ok_bind]
  congr 1
  refine mapM_congr ((MemoryStore.forall₂_list h _).imp fun y z hyz => ?_)
  refine (hyz.convert_secret.mapError PrintError.store).bind_eq fun s s' hs => ?_
  have hname : Resource.displayName s' = Resource.displayName s :=
    congrArg ObjectMeta.displayName hs.metadata
  rw [Secret.isTokenOf_eq hs, hs.metadata, hname]
  rfl

/-- In stores alike a service account has the same rules. -/
theorem ServiceAccount.policyRules_eq_of_alike (x : ServiceAccount) :
    x.policyRules a.toObjectStore = x.policyRules b.toObjectStore := by
  have hagree := MemoryStore.agreeOn_of_alike h
  have hne : ∀ q : Query, q.apiVersion = accessVersion →
      (⟨q.apiVersion, q.kind⟩ : TypeMeta) ≠ secretType := by
    intro q hq
    simp [secretType, hq, accessVersion]
  have hrules : OrFails (fun _ => False) (x.policyRules a.toObjectStore)
      (x.policyRules b.toObjectStore) :=
    x.policyRules_orFails_of_access (fun q hq => .of_eq (hagree.list q (hne q hq)))
      fun q hq => .of_eq (hagree.get q (hne q hq))
  exact hrules.eq_of_never

/-- Stores alike have the same pods and events. -/
theorem MemoryStore.agreeOn_workloadQuery (ns : Option String) :
    ObjectStore.AgreeOn (WorkloadQuery ns) a.toObjectStore b.toObjectStore := by
  refine (agreeOn_of_alike h).mono fun q hq => ?_
  cases hq with
  | pods selector => simp [secretType]
  | events => simp [secretType]

/-- An object is printed alike with stores alike. -/
theorem PrintableKind.print_withStore (k : PrintableKind) (x : Object) :
    k.print (o.withStore a.toObjectStore) x = k.print (o.withStore b.toObjectStore) x := by
  have hprint : OrFails (fun _ => False) (k.print (o.withStore a.toObjectStore) x)
      (k.print (o.withStore b.toObjectStore) x) :=
    k.print_orFails x (MemoryStore.agreeOn_workloadQuery h _).answersLike
      (fun account _ => .of_eq (ServiceAccount.tokenLinks_eq h account))
      fun account _ => .of_eq (ServiceAccount.policyRules_eq_of_alike h account)
  exact hprint.eq_of_never

end

/-! ## Objects alike -/

section

variable {o : PrintOptions}

/-- A secret with other values is printed alike. -/
theorem PrintableKind.print_secret {x y : Object} (h : x.SecretVariant y)
    (hcontent : ∀ z, o.plugins.content z = .ok {}) :
    PrintableKind.secret.print o x = PrintableKind.secret.print o y := by
  obtain ⟨s, s', hs, hs', halike⟩ := h.alike
  unfold print
  rw [hs, hs']
  exact Secret.print_eq halike ((hcontent _).trans (hcontent _).symm)

variable {a b : ObjectStore} {xs ys : List Object}

/-- The table of secrets shows none of their values. -/
theorem PrintableKind.printAs_secret (h : List.Forall₂ (Object.Alike secretType) xs ys) :
    printAs Secret.listView (o.withStore a) xs = printAs Secret.listView (o.withStore b) ys := by
  have hlist : Rel (List.Forall₂ Secret.Alike) (xs.mapM (Object.convert Secret))
      (ys.mapM (Object.convert Secret)) := Rel.mapM (fun _ _ hxy => hxy.convert_secret) h
  refine (hlist.mapError PrintError.store).bind_eq fun secrets secrets' hsecrets => ?_
  have hrows : secrets.mapM (Secret.listView.row o) = secrets'.mapM (Secret.listView.row o) :=
    mapM_congr (hsecrets.imp fun _ _ hs => Secret.row_eq hs)
  rw [ListView.print_withStore, ListView.print_withStore, ListView.print_eq, ListView.print_eq,
    hrows]

/-- The table of other resources has none of the values of secrets. -/
theorem PrintableKind.printAs_eq {α : Type} [Resource α] (v : ListView α)
    (hα : (⟨Resource.apiVersion α, Resource.kind α⟩ : TypeMeta) ≠ secretType)
    (h : List.Forall₂ (Object.Alike ⟨Resource.apiVersion α, Resource.kind α⟩) xs ys) :
    printAs v (o.withStore a) xs = printAs v (o.withStore b) ys := by
  have hlist : xs.mapM (Object.convert α) = ys.mapM (Object.convert α) :=
    mapM_congr (h.imp fun _ _ hxy => hxy.convert_eq hα)
  simp only [printAs, hlist, ListView.print_withStore]

theorem printList_eq {apiVersion kind : String}
    (h : List.Forall₂ (Object.Alike ⟨apiVersion, kind⟩) xs ys) :
    printList (o.withStore a) apiVersion kind xs =
      printList (o.withStore b) apiVersion kind ys := by
  unfold printList printableKind PrintableKind.ofType?
  split
  · next k hk =>
    split at hk <;> cases hk
    · exact PrintableKind.printAs_eq Deployment.listView (by decide) h
    · exact PrintableKind.printAs_eq Job.listView (by decide) h
    · exact PrintableKind.printAs_eq ConfigMap.listView (by decide) h
    · exact PrintableKind.printAs_eq ReplicationController.listView (by decide) h
    · exact PrintableKind.printAs_secret h
    · exact PrintableKind.printAs_eq ServiceAccount.listView (by decide) h
  · rfl

/-- The page of a secret shows none of its values. -/
theorem printObject_secret {a b : MemoryStore}
    (h : List.Forall₂ (Object.Alike secretType) a.objects b.objects) {x y : Object}
    (htype : x.types.getD secretType = secretType) (hxy : x.SecretVariant y)
    (hcontent : ∀ z, o.plugins.content z = .ok {}) :
    printObject (o.withStore a.toObjectStore) (some x) =
      printObject (o.withStore b.toObjectStore) (some y) := by
  unfold printObject
  cases hx : x.types with
  | none => simp only [orMissing, ok_bind, hxy.types, hx, error_bind]
  | some t =>
    obtain rfl : t = secretType := by simpa [hx] using htype
    simp only [orMissing, ok_bind, hxy.types, hx]
    calc PrintableKind.secret.print (o.withStore a.toObjectStore) x
        = PrintableKind.secret.print (o.withStore b.toObjectStore) x :=
          PrintableKind.print_withStore h .secret x
      _ = PrintableKind.secret.print (o.withStore b.toObjectStore) y :=
          PrintableKind.print_secret hxy hcontent

end

/-- **Printing shows no values of secrets.** Let plugins be known by their metadata only, and let
secrets among what is printed and among what is stored get other values. Then objects and lists are
printed as before. -/
theorem print_eq_of_alike {o : PrintOptions} {r : PluginRegistry}
    (hplugins : o.plugins = r.toManager) (hsilent : ∀ p ∈ r.plugins.values, p.service = .silent)
    {stored stored' : List Object}
    (hstored : List.Forall₂ (Object.Alike secretType) stored stored') :
    let before := o.withStore (MemoryStore.ofObjects stored).toObjectStore
    let after := o.withStore (MemoryStore.ofObjects stored').toObjectStore
    (∀ input input', Option.Rel (Object.Alike secretType) input input' →
      printObject before input = printObject after input') ∧
    ∀ apiVersion kind objects objects',
      List.Forall₂ (Object.Alike ⟨apiVersion, kind⟩) objects objects' →
        printList before apiVersion kind objects = printList after apiVersion kind objects' := by
  intro before after
  have hstores := MemoryStore.forall₂_ofObjects hstored
  have hcontent : ∀ z, o.plugins.content z = .ok {} := by
    rw [hplugins]
    exact PluginRegistry.content_of_silent hsilent
  refine ⟨fun input input' hinput => ?_, fun apiVersion kind objects objects' => printList_eq⟩
  cases hinput with
  | none => simp only [printObject, orMissing, error_bind]
  | @some x y hxy =>
    rcases hxy with rfl | ⟨htype, hxy⟩
    · have hprint := fun k => PrintableKind.print_withStore (o := o) hstores k x
      simp only [printObject, orMissing, ok_bind, hprint, before, after]
    · exact printObject_secret hstores htype hxy hcontent

/-- A token of the service account `builder`. -/
def builderToken (value : String) : Object where
  types := some secretType
  metadata :=
    { name := some "builder-token"
      inNamespace := some "default"
      annotations := some (.ofList [(tokenNameKey, "builder")]) }
  fields := [("data", .object [("token", .string value)]), ("type", .string tokenType)]

/-- The service account `builder`. -/
def builderAccount : Object where
  types := some ⟨"v1", "ServiceAccount"⟩
  metadata := { name := some "builder", inNamespace := some "default" }
  fields := []

/-- A plugin for secrets of which only the metadata is known. -/
def secretWatcher : PluginRegistry :=
  ⟨.ofList [("watcher", ⟨.silent, { name := "watcher", capabilities :=
    { printerItems := [⟨"", "v1", "Secret"⟩] } }, ""⟩)]⟩

/-- Options with a plugin for secrets. -/
def watchedOptions : PrintOptions where
  store := MemoryStore.empty.toObjectStore
  link := ⟨fun t => .ok ⟨t.text, t.name⟩⟩
  plugins := secretWatcher.toManager

theorem builderToken_alike (t : TypeMeta) :
    Object.Alike t (builderToken "c2VjcmV0") (builderToken "b3RoZXI=") := by
  refine .inr ⟨rfl, rfl, rfl, fun name hdata _ => ?_, fun k => Iff.rfl, by decide, by decide⟩
  simp [builderToken, Json.lookup, Ne.symm hdata]

/-- The page of the account, the page of its token and the list of tokens do not show the token. -/
theorem print_builderToken :
    let before := watchedOptions.withStore
      (MemoryStore.ofObjects [builderToken "c2VjcmV0", builderAccount]).toObjectStore
    let after := watchedOptions.withStore
      (MemoryStore.ofObjects [builderToken "b3RoZXI=", builderAccount]).toObjectStore
    printObject before (some builderAccount) = printObject after (some builderAccount) ∧
    (∃ page, printObject before (some (builderToken "c2VjcmV0")) = .ok page ∧
      printObject after (some (builderToken "b3RoZXI=")) = .ok page) ∧
    printList before "v1" "Secret" [builderToken "c2VjcmV0"] =
      printList after "v1" "Secret" [builderToken "b3RoZXI="] := by
  have hsilent : ∀ p ∈ secretWatcher.plugins.values, p.service = .silent := by
    intro p hp
    obtain rfl := List.mem_singleton.1 hp
    rfl
  have hstored := List.Forall₂.cons (builderToken_alike secretType)
    (.cons (.inl (rfl : builderAccount = builderAccount)) .nil)
  have hprint := print_eq_of_alike (o := watchedOptions) rfl hsilent hstored
  have htoken := hprint.1 _ _ (.some (builderToken_alike secretType))
  exact ⟨hprint.1 _ _ (.some (.inl rfl)), ⟨_, rfl, htoken.symm⟩,
    hprint.2 _ _ _ _ (.cons (builderToken_alike _) .nil)⟩

end ClusterView
