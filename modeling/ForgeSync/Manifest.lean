import ForgeSync.Toml.Read
import ForgeSync.Toml.Shape
import ForgeSync.Toml.Excerpt
import ForgeSync.Client

/-!
# Manifests of desired state

A manifest is TOML with four arrays of tables: `[[repository]]` (organization, name and the
optional description, default branch and visibility), `[[deploy_key]]` (repository, label, key
and `read_only`, true unless given), `[[team_access]]` (repository, team and permission) and
`[[pull_request]]` (repository, title, optional description, source and target branch).
Visibilities and permissions are their lowercase words; a repository is written `ORG/SLUG`.
Every array may be absent and no other key may be present, in a manifest or in an entry.

Its entries come in the order they are applied: repositories first, so that later entries may
refer to repositories the same manifest makes, then deploy keys, team access and pull requests.

Applying entries brings each to its spec in turn and notes whether it changed, was already as
wanted, or failed.  A failure stops the run unless the run keeps going, and an ended context
stops it always; the entry that stops it is the last one noted.
-/

namespace ForgeSync

/-- A repository as a manifest describes it. -/
structure RepositoryItem where
  organization : String
  name : String
  description : Option String := none
  defaultBranch : Option String := none
  visibility : Option Visibility := none
  deriving Repr, DecidableEq, Inhabited

/-- A deploy key as a manifest describes it. -/
structure DeployKeyItem where
  repository : String
  label : String
  key : String
  readOnly : Bool := true
  deriving Repr, DecidableEq, Inhabited

/-- A team's access as a manifest describes it. -/
structure TeamAccessItem where
  repository : String
  team : String
  permission : Level
  deriving Repr, DecidableEq, Inhabited

/-- A pull request as a manifest describes it. -/
structure PullRequestItem where
  repository : String
  title : String
  description : Option String := none
  sourceBranch : String
  targetBranch : String
  deriving Repr, DecidableEq, Inhabited

/-- A manifest as it is written. -/
structure Manifest where
  repositories : List RepositoryItem := []
  deployKeys : List DeployKeyItem := []
  teamAccess : List TeamAccessItem := []
  pullRequests : List PullRequestItem := []
  deriving Repr, DecidableEq, Inhabited

/-- Why a manifest cannot be used. -/
inductive ManifestError where
  | unreadable (path reason : String)
  | malformed (message : String)
  | invalidEntry (message : String)
  deriving Repr, DecidableEq, Inhabited

/-- The message of a manifest error. -/
def ManifestError.message : ManifestError → String
  | .unreadable p r => "failed to read manifest '" ++ p ++ "': " ++ r
  | .malformed m => "failed to parse manifest: " ++ m
  | .invalidEntry m => "invalid manifest entry: " ++ m

/-- One entry of a manifest: where a resource lives and the spec it should have. -/
inductive Entry where
  | repository (organization : String) (spec : RepositorySpec)
  | deployKey (repository : RepositoryRef) (spec : DeployKeySpec)
  | teamAccess (repository : RepositoryRef) (spec : TeamAccessSpec)
  | pullRequest (repository : RepositoryRef) (spec : PullRequestSpec)
  deriving Repr, DecidableEq, Inhabited

/-- How reports name an entry. -/
def Entry.display : Entry → String
  | .repository o s => "repository " ++ o ++ "/" ++ s.name
  | .deployKey r s => "deploy key '" ++ s.label ++ "' on " ++ r.display
  | .teamAccess r s => "team '" ++ s.team ++ "' on " ++ r.display
  | .pullRequest r s =>
    "pull request " ++ s.sourceBranch ++ " -> " ++ s.targetBranch ++ " on " ++ r.display

/-! ### Reading -/

/-- The words of the visibilities. -/
def visibilityWords : List String := ["public", "private", "internal"]

/-- The words of the permission levels. -/
def levelWords : List String := ["read", "triage", "write", "maintain", "admin"]

namespace RepositoryItem

/-- The shape of a repository entry. -/
def shape : Toml.Shape :=
  .record "RepositoryEntry"
    [("organization", .required, .text), ("name", .required, .text),
      ("description", .optional, .text), ("default_branch", .optional, .text),
      ("visibility", .optional, .word visibilityWords)]

/-- A repository entry from a value of its shape. -/
def ofValue (v : Toml.Value) : RepositoryItem :=
  let get (name : String) := v.field? shape.names name
  { organization := ((get "organization").bind Toml.Value.text?).getD ""
    name := ((get "name").bind Toml.Value.text?).getD ""
    description := (get "description").bind Toml.Value.text?
    defaultBranch := (get "default_branch").bind Toml.Value.text?
    visibility := ((get "visibility").bind Toml.Value.word?).bind Visibility.ofName? }

end RepositoryItem

namespace DeployKeyItem

/-- The shape of a deploy key entry. -/
def shape : Toml.Shape :=
  .record "DeployKeyEntry"
    [("repository", .required, .text), ("label", .required, .text), ("key", .required, .text),
      ("read_only", .defaulted, .flag)]

/-- A deploy key entry from a value of its shape. -/
def ofValue (v : Toml.Value) : DeployKeyItem :=
  let get (name : String) := v.field? shape.names name
  { repository := ((get "repository").bind Toml.Value.text?).getD ""
    label := ((get "label").bind Toml.Value.text?).getD ""
    key := ((get "key").bind Toml.Value.text?).getD ""
    readOnly := ((get "read_only").bind Toml.Value.flag?).getD true }

end DeployKeyItem

namespace TeamAccessItem

/-- The shape of a team access entry. -/
def shape : Toml.Shape :=
  .record "TeamAccessEntry"
    [("repository", .required, .text), ("team", .required, .text),
      ("permission", .required, .word levelWords)]

/-- A team access entry from a value of its shape. -/
def ofValue (v : Toml.Value) : TeamAccessItem :=
  let get (name : String) := v.field? shape.names name
  { repository := ((get "repository").bind Toml.Value.text?).getD ""
    team := ((get "team").bind Toml.Value.text?).getD ""
    permission := (((get "permission").bind Toml.Value.word?).bind Level.ofName?).getD .read }

end TeamAccessItem

namespace PullRequestItem

/-- The shape of a pull request entry. -/
def shape : Toml.Shape :=
  .record "PullRequestEntry"
    [("repository", .required, .text), ("title", .required, .text),
      ("description", .optional, .text), ("source_branch", .required, .text),
      ("target_branch", .required, .text)]

/-- A pull request entry from a value of its shape. -/
def ofValue (v : Toml.Value) : PullRequestItem :=
  let get (name : String) := v.field? shape.names name
  { repository := ((get "repository").bind Toml.Value.text?).getD ""
    title := ((get "title").bind Toml.Value.text?).getD ""
    description := (get "description").bind Toml.Value.text?
    sourceBranch := ((get "source_branch").bind Toml.Value.text?).getD ""
    targetBranch := ((get "target_branch").bind Toml.Value.text?).getD "" }

end PullRequestItem

namespace Manifest

/-- The shape of a manifest: four arrays of entries, each of which may be absent. -/
def shape : Toml.Shape :=
  .record "Manifest"
    [("repository", .defaulted, .list RepositoryItem.shape),
      ("deploy_key", .defaulted, .list DeployKeyItem.shape),
      ("team_access", .defaulted, .list TeamAccessItem.shape),
      ("pull_request", .defaulted, .list PullRequestItem.shape)]

/-- A manifest from a value of its shape. -/
def ofValue (v : Toml.Value) : Manifest :=
  let get (name : String) := ((v.field? shape.names name).map Toml.Value.items).getD []
  { repositories := (get "repository").map RepositoryItem.ofValue
    deployKeys := (get "deploy_key").map DeployKeyItem.ofValue
    teamAccess := (get "team_access").map TeamAccessItem.ofValue
    pullRequests := (get "pull_request").map PullRequestItem.ofValue }

/-- Read a manifest from its text; a malformed one is shown against the text. -/
def parse (text : String) : Except ManifestError Manifest :=
  match Toml.read text >>= fun v => (Toml.conform shape v).map (fun _ => v) with
  | .error f => .error (.malformed (f.render text))
  | .ok v => .ok (ofValue v)

/-- Whether a manifest has no entry at all. -/
def isEmpty (m : Manifest) : Bool :=
  m.repositories.isEmpty && m.deployKeys.isEmpty && m.teamAccess.isEmpty &&
    m.pullRequests.isEmpty

/-- The repository an entry names, as `ORG/SLUG`. -/
def repositoryRef (s : String) : Except ManifestError RepositoryRef :=
  (RepositoryRef.parse s).mapError .invalidEntry

/-- The entries of a manifest in the order they are applied; a malformed repository reference
is an error. -/
def entries (m : Manifest) : Except ManifestError (List Entry) := do
  let repos := m.repositories.map (fun r =>
    Entry.repository r.organization
      { name := r.name, description := r.description, defaultBranch := r.defaultBranch,
        visibility := r.visibility })
  let keys ← m.deployKeys.mapM (fun k => do
    pure (Entry.deployKey (← repositoryRef k.repository)
      { label := k.label, key := k.key, readOnly := k.readOnly }))
  let access ← m.teamAccess.mapM (fun a => do
    pure (Entry.teamAccess (← repositoryRef a.repository)
      { team := a.team, permission := a.permission }))
  let pulls ← m.pullRequests.mapM (fun p => do
    pure (Entry.pullRequest (← repositoryRef p.repository)
      { title := p.title, description := p.description, sourceBranch := p.sourceBranch,
        targetBranch := p.targetBranch }))
  pure (repos ++ keys ++ access ++ pulls)

end Manifest

/-! ### Applying -/

/-- What applying one entry came to. -/
inductive Outcome where
  | changed
  | unchanged
  | failed (e : ApiError)
  deriving Repr, Inhabited

namespace Outcome

/-- The outcome of a reconcile's result. -/
def ofResult : Except ApiError Bool → Outcome
  | .ok true => .changed
  | .ok false => .unchanged
  | .error e => .failed e

/-- The word for an outcome. -/
def name : Outcome → String
  | .changed => "changed"
  | .unchanged => "unchanged"
  | .failed _ => "failed"

/-- Whether an outcome ends the run: a failure does unless the run keeps going, and an ended
context always does. -/
def stops (keepGoing : Bool) : Outcome → Bool
  | .failed e => !keepGoing || e.isContextError
  | _ => false

/-- Whether an outcome is a failure. -/
def isFailure : Outcome → Bool
  | .failed _ => true
  | _ => false

end Outcome

/-- Apply entries in order with `attempt`, pairing each attempted entry with its outcome, up to
and including the first outcome that stops the run. -/
def applyEntries {ε : Type} {m : Type → Type} [Monad m] (attempt : ε → m (Except ApiError Bool))
    (keepGoing : Bool) : List ε → m (List (ε × Outcome))
  | [] => pure []
  | e :: es => do
    let o := Outcome.ofResult (← attempt e)
    if o.stops keepGoing then pure [(e, o)]
    else do
      let rest ← applyEntries attempt keepGoing es
      pure ((e, o) :: rest)

/-- The outcomes of a run of entries. -/
structure ApplyReport where
  results : List (Entry × Outcome) := []
  deriving Inhabited

namespace ApplyReport

/-- How many entries changed. -/
def changed (r : ApplyReport) : Nat :=
  (r.results.filter (fun e => match e.2 with | .changed => true | _ => false)).length

/-- How many entries were already as wanted. -/
def unchanged (r : ApplyReport) : Nat :=
  (r.results.filter (fun e => match e.2 with | .unchanged => true | _ => false)).length

/-- How many entries failed. -/
def failed (r : ApplyReport) : Nat :=
  (r.results.filter (fun e => e.2.isFailure)).length

/-- Whether no attempted entry failed. -/
def isSuccess (r : ApplyReport) : Bool := r.failed == 0

end ApplyReport

namespace Client

/-- Bring one entry to its spec. -/
def applyEntry (c : Client) : Entry → Call Channel Bool
  | .repository o s => c.reconcileRepository o s
  | .deployKey r s => c.reconcileDeployKey r s
  | .teamAccess r s => c.reconcileTeamAccess r s
  | .pullRequest r s => c.reconcilePullRequest r s

/-- Apply entries in order. -/
def apply (c : Client) (entries : List Entry) (keepGoing : Bool) : StateM Channel ApplyReport := do
  let results ← applyEntries (fun e => (c.applyEntry e).run) keepGoing entries
  pure { results }

end Client

end ForgeSync
