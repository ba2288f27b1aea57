import ClusterView.Files.Tree
import ClusterView.Main
import ClusterView.Proofs.Access.Foreign
import ClusterView.Proofs.Page.Sections
import ClusterView.Proofs.Plugin.Merging
import ClusterView.Proofs.Print.Failing
import ClusterView.Proofs.Print.Fitting
import ClusterView.Proofs.Print.Isolation
import ClusterView.Proofs.Print.Lists
import ClusterView.Proofs.Print.Printable
import ClusterView.Proofs.Secret.Concealed
import ClusterView.Proofs.Store.Permuted
import ClusterView.Proofs.View.Written
import ClusterView.Proofs.Layout.Edits
import ClusterView.Proofs.Store.Grouping
import ClusterView.Proofs.Link.Loaded
import ClusterView.Proofs.Print.Switches
import ClusterView.Proofs.Page.ServiceAccount
import ClusterView.Proofs.Print.Phases
import ClusterView.Proofs.View.Links
import ClusterView.Proofs.Link.Confined
import ClusterView.Proofs.Link.Distinct
import ClusterView.Proofs.Plugin.Listed
import ClusterView.Proofs.CommandLine.Printed
import ClusterView.Proofs.Layout.Fewest
import ClusterView.Proofs.View.Selectors
import ClusterView.Proofs.Page.Events
import ClusterView.Proofs.Config.Kept
import ClusterView.Proofs.View.Rows
import ClusterView.Proofs.Plugin.Loosened
import ClusterView.Proofs.Page.Tokens
import ClusterView.Proofs.Print.Owned
import ClusterView.Proofs.Plugin.Named
import ClusterView.Proofs.Plugin.Covering
import ClusterView.Proofs.Page.Data
