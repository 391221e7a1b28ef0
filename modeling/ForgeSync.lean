import ForgeSync.Bitbucket.Kinds
import ForgeSync.Bitbucket.Wire
import ForgeSync.Call
import ForgeSync.Cli.Command
import ForgeSync.Cli.Run
import ForgeSync.Client
import ForgeSync.Config
import ForgeSync.Context
import ForgeSync.Decimal
import ForgeSync.Error.Basic
import ForgeSync.Error.Json
import ForgeSync.GitHub.Kinds
import ForgeSync.GitHub.Wire
import ForgeSync.Hosted
import ForgeSync.Json.Decode
import ForgeSync.Json.Read
import ForgeSync.Json.Value
import ForgeSync.Json.Write
import ForgeSync.Listing
import ForgeSync.Main
import ForgeSync.Manifest
import ForgeSync.Page
import ForgeSync.Page.Replay
import ForgeSync.Permission
import ForgeSync.Proofs.ApplyRun
import ForgeSync.Proofs.EffectiveLevel
import ForgeSync.Proofs.EffectiveSettings
import ForgeSync.Proofs.Establish
import ForgeSync.Proofs.Failure
import ForgeSync.Proofs.ItemBudget
import ForgeSync.Proofs.Lifecycle
import ForgeSync.Proofs.LinkHeader
import ForgeSync.Proofs.Locking
import ForgeSync.Proofs.MergeLaws
import ForgeSync.Proofs.NormalForm
import ForgeSync.Proofs.Paging
import ForgeSync.Proofs.PatchBody
import ForgeSync.Proofs.Reconcile
import ForgeSync.Proofs.Refusals
import ForgeSync.Proofs.Retry
import ForgeSync.Proofs.Revalidate
import ForgeSync.Proofs.Run
import ForgeSync.Proofs.ServiceStopping
import ForgeSync.Proofs.Slug
import ForgeSync.Proofs.Stopping
import ForgeSync.Proofs.Store
import ForgeSync.Proofs.TeamListing
import ForgeSync.Report
import ForgeSync.Resource.Handle
import ForgeSync.Resource.Store
import ForgeSync.Service
import ForgeSync.Spec
import ForgeSync.Spec.Json
import ForgeSync.Text.Blank
import ForgeSync.Text.Case
import ForgeSync.Text.Infix
import ForgeSync.Text.Slug
import ForgeSync.Text.Utf8
import ForgeSync.Time
import ForgeSync.Toml.Excerpt
import ForgeSync.Toml.Read
import ForgeSync.Toml.Shape
import ForgeSync.Toml.Table
import ForgeSync.Toml.Value
import ForgeSync.Transport.Channel
import ForgeSync.Transport.Http
import ForgeSync.Transport.Link
import ForgeSync.Transport.Message
import ForgeSync.Transport.Retry
import ForgeSync.Transport.Url
