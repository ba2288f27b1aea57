import ClusterView.Print.ListView
import ClusterView.Print.Page
import ClusterView.Print.PolicyRules

/-!
# Printing service accounts

The page of a service account shows its secrets, its metadata and the rules granted to it. The
functions that make the configuration and the rules can be replaced.
-/

namespace ClusterView

/-! ## Secrets of a service account -/

/-- The type of secrets that hold a token of a service account. -/
def tokenType : String := "kubernetes.io/service-account-token"

/-- The annotation with the name of the service account of a token. -/
def tokenNameKey : String := "kubernetes.io/service-account.name"

/-- The annotation with the identity of the service account of a token. -/
def tokenUidKey : String := "kubernetes.io/service-account.uid"

/-- Whether a secret holds a token of a service account. -/
def Secret.isTokenOf (s : Secret) (a : ServiceAccount) : Bool :=
  let annotations := s.metadata.annotationMap
  s.type == some tokenType &&
    annotations.get? tokenNameKey == some (Resource.displayName a) &&
    (annotations.get? tokenUidKey).all fun uid => a.metadata.uid == some uid

/-- The link to a secret, shown with its name. -/
def secretLink (o : PrintOptions) (inNamespace : Option String) (name : String) :
    Except PrintError Component := do
  let link ← o.link.link ⟨inNamespace, "v1", "Secret", name, name⟩
  return .link link

namespace ServiceAccount

/-- How service accounts are shown in a table. -/
def listView : ListView ServiceAccount where
  input := "service account list"
  title := "Service Accounts"
  emptyContent := "We couldn't find any service accounts!"
  columns := ["Name", "Labels", "Secrets", "Age"]
  cells := [("Secrets", fun a => .ofNat (a.secrets.getD []).length), ("Age", ageOf)]
  columns_eq := rfl
  nodup_columns := by decide

/-- The links to the secrets of a query that hold a token of the account. -/
def tokenLinks (a : ServiceAccount) (o : PrintOptions) : Except PrintError (List Component) := do
  let objects ← o.store.list
    { apiVersion := "v1", kind := "Secret", inNamespace := a.metadata.inNamespace }
  let links ← objects.mapM fun object => do
    let secret ← object.convert Secret
    if secret.isTokenOf a then do
      let link ← secretLink o secret.metadata.inNamespace (Resource.displayName secret)
      return [link]
    else return []
  return links.flatten

/-- A section with a list of links; none without links. -/
def linkSection (header : String) (links : List Component) : List (Summary.Section Component) :=
  if links.isEmpty then [] else [⟨header, .list (.titled "" links)⟩]

/-- The summary of the secrets for pulling images, of those that can be mounted and of tokens. -/
def configuration (a : ServiceAccount) (o : PrintOptions) :
    Except PrintError (Summary Component) := do
  let ns := a.metadata.inNamespace
  let pull ← (a.imagePullSecrets.getD []).mapM fun s => secretLink o ns s.name
  let mountable ← ((a.secrets.getD []).filterMap (·.name)).mapM (secretLink o ns)
  let tokens ← a.tokenLinks o
  return .ofSections "Configuration" (linkSection "Image Pull Secrets" pull ++
    linkSection "Mountable Secrets" mountable ++ linkSection "Tokens" tokens)

end ServiceAccount

/-! ## Pages -/

/-- How the variable parts of the page of a service account are made. -/
structure ServiceAccountPage where
  configuration : ServiceAccount → PrintOptions → Except PrintError (Summary Component) :=
    ServiceAccount.configuration
  rules : ServiceAccount → ObjectStore → Except PrintError (Table Component) :=
    ServiceAccount.policyRulesTable

namespace ServiceAccountPage

/-- Lays the page of a service account out. -/
def layout (p : ServiceAccountPage) (a : ServiceAccount) (o : PrintOptions) :
    Except PrintError (Layout Component) := do
  let added ← o.plugins.content (Resource.toObject a)
  let config ← p.configuration a o
  let status := if added.status.isEmpty then [] else [Summary.ofSections "Status" added.status]
  let top ← Page.summarySection (config.add added.config :: status)
  let metadata ← metadataSummary (.ofResource a) a.metadata o
  let middle ← Page.summarySection [metadata]
  let rules ← p.rules a o.store
  let bottom ← (Layout.Section.empty.place ⟨.full, .table rules⟩ : Except ViewError _)
  return ((((Layout.empty "Summary").addSection top).addSection middle).addSection bottom).pack
    added.items

end ServiceAccountPage

/-- Prints a service account, which may be missing. -/
def ServiceAccount.print (o : PrintOptions) (input : Option ServiceAccount) :
    Except PrintError Component := do
  let a ← orMissing "service account" input
  let layout ← ({} : ServiceAccountPage).layout a o
  return .layout layout

end ClusterView
