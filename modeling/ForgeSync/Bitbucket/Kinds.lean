import ForgeSync.Bitbucket.Wire
import ForgeSync.Spec.Json
import ForgeSync.Listing
import ForgeSync.Resource.Handle

/-!
# Bitbucket Server resource kinds

How the four resource kinds are read and written on Bitbucket Server.

| kind | strategy | raw form |
|------|----------|----------|
| repository | patch, by a PUT of the merged form | `RepoRecord` |
| deploy key | recreate | `KeyRecord` |
| team access | replace | `TeamGrant` |
| pull request | replace, echoing the version | `PullRecord` |

Listings follow the service's paging envelope: each page is asked for by its `start`, and
by a `limit` when one is set.

A repository read without a default branch asks for it separately; a missing or empty
default branch is none.  A team's access is read from the repository's group grants and the
project's, filtered by the team's name and then matched exactly; a team with neither grant
has no access.  A project grant above the desired level shadows it: a repository grant equal
to the desired level is then left as it is.  An update of a pull request whose version is
stale is a version conflict.
-/

namespace ForgeSync

namespace Bitbucket

open Resource

/-- The service's name in messages. -/
def serviceName : String := "stash"

/-- The API path of a repository. -/
def repoPath (r : RepositoryRef) : String :=
  "rest/api/1.0/projects/" ++ r.organization ++ "/repos/" ++ r.slug

/-- The API path of a repository's access keys. -/
def keysPath (r : RepositoryRef) : String :=
  "rest/keys/1.0/projects/" ++ r.organization ++ "/repos/" ++ r.slug ++ "/ssh"

/-- Every item of a listing with the session of the page it came in, up to `maxItems`. -/
def pagedUpTo {α : Type} (opts : PageOptions) (req : Request) (read : Json → Json.Decoded α)
    (maxItems : Option Nat) : Call Channel (List (α × Session)) :=
  Channel.listAll { opts with maxItems } {} (fun c => do
    let r ← Channel.send
      ((req.withQuery "start" (toString c.start)).withOptionalQuery "limit" (c.limit.map toString))
    let page ← Call.ofExcept (r.decode (Page.ofEnvelope read))
    pure (page.map (fun v => (v, r.session))))

/-- Every item of a listing with the session of the page it came in. -/
def paged {α : Type} (opts : PageOptions) (req : Request) (read : Json → Json.Decoded α) :
    Call Channel (List (α × Session)) :=
  pagedUpTo opts req read none

/-! ### Repositories -/

namespace Repo

/-- The spec a repository stands for. -/
def specOf (r : RepoRecord) : RepositorySpec :=
  { name := r.name, description := nonEmpty r.description,
    defaultBranch := r.defaultBranch.map branchDisplayId, visibility := some r.visibility }

/-- Write a spec into a repository: the name always, the other fields when set. -/
def applySpec (r : RepoRecord) (s : RepositorySpec) : RepoRecord :=
  { r with
    name := s.name
    description := if s.description.isSome then s.description else r.description
    defaultBranch := if s.defaultBranch.isSome then s.defaultBranch else r.defaultBranch
    isPublic := match s.visibility with
      | some v => v == .everyone
      | none => r.isPublic }

/-- Normalise a spec: a blank description is unset; the name must not be blank, and internal
visibility does not exist on this service. -/
def validate (s : RepositorySpec) : Except ApiError RepositorySpec := do
  let s := { s with description := nonEmpty s.description }
  if Text.isBlankText s.name then throw (.invalidRequest "repository name must not be empty")
  if s.visibility == some .internal then
    throw (.unsupported serviceName "internal visibility")
  pure s

/-- The body that creates or updates a repository. -/
def body (r : RepoRecord) : Json :=
  .obj ([("name", .str r.name), ("scmId", .str "git"), ("public", .bool r.isPublic)] ++
    optionalMembers [("description", r.description.map .str),
      ("defaultBranch", r.defaultBranch.map (fun b => .str (branchDisplayId b)))])

/-- The default branch of a repository, asked for separately: none when the service has none
or answers with nothing. -/
def defaultBranchOf (ref : RepositoryRef) : Call Channel (Option String) := do
  let req := Request.new .get (repoPath ref ++ "/branches/default")
  let answer ← tryCatch (some <$> Channel.send req)
    (fun e => if e.isNotFound then pure none else throw e)
  match answer with
  | none => pure none
  | some r =>
    if r.status == 204 || r.body.isEmpty then pure none
    else
      let b ← Call.ofExcept (r.decode BranchRecord.read)
      pure (if b.displayId.isEmpty then none else some b.displayId)

/-- Read a repository, asking for its default branch when it names none. -/
def fetch (ref : RepositoryRef) : Call Channel RepoRecord := do
  let (raw, session) ← Channel.fetch (Request.new .get (repoPath ref)) RepoRecord.read
  let raw := { raw with session }
  Call.ofExcept raw.validate
  if raw.defaultBranch.isNone then
    let b ← defaultBranchOf ref
    pure { raw with defaultBranch := b }
  else pure raw

/-- Complete a repository the service answered with: its session, and the default branch
that was sent when it names none. -/
def answered (sent : RepoRecord) (got : RepoRecord) (session : Session) :
    Except ApiError RepoRecord := do
  let branch := if got.defaultBranch.isSome then got.defaultBranch else sent.defaultBranch
  let got := { got with session := session, defaultBranch := branch }
  got.validate
  pure got

/-- Create a repository from a spec. -/
def create (ref : RepositoryRef) (s : RepositorySpec) : Call Channel RepoRecord := do
  let raw := applySpec {} s
  let req := (Request.new .post ("rest/api/1.0/projects/" ++ ref.organization ++ "/repos")).withBody
    (body raw)
  let (got, session) ← Channel.fetch req RepoRecord.read
  Call.ofExcept (answered raw got session)

/-- Write a changed repository back. -/
def update (ref : RepositoryRef) (raw : RepoRecord) : Call Channel RepoRecord := do
  let (got, session) ← Channel.fetch ((Request.new .put (repoPath ref)).withBody (body raw))
    RepoRecord.read
  Call.ofExcept (answered raw got session)

/-- Delete a repository. -/
def delete (ref : RepositoryRef) (_raw : RepoRecord) : Call Channel Unit := do
  let _ ← Channel.send (Request.new .delete (repoPath ref))

end Repo

/-- Repositories on Bitbucket Server. -/
def repositoryKind : Kind Channel RepositoryRef RepoRecord RepositorySpec where
  name := "repository"
  service := serviceName
  strategy := .patch
  describe := RepositoryRef.display
  specOf := Repo.specOf
  applySpec := Repo.applySpec
  satisfies r d := Strategy.patch.satisfied d (Repo.specOf r)
  validate := Repo.validate
  fetch := Repo.fetch
  create := Repo.create
  update := Repo.update
  delete := Repo.delete

/-! ### Deploy keys -/

namespace Key

/-- Every access key of a repository. -/
def list (opts : PageOptions) (ref : RepositoryRef) : Call Channel (List KeyRecord) := do
  let keys ← paged opts (Request.new .get (keysPath ref)) AccessKey.read
  Call.ofExcept (keys.mapM (fun (k, session) => k.toKeyRecord session))

/-- The spec a key stands for. -/
def specOf (k : KeyRecord) : DeployKeySpec := ⟨k.label, normalizePublicKey k.text, k.readOnly⟩

/-- Write a spec into a key. -/
def applySpec (k : KeyRecord) (s : DeployKeySpec) : KeyRecord :=
  { k with label := s.label, text := s.key, permission := if s.readOnly then .read else .write }

/-- Normalise a spec: the key text loses its comment; a label and key text are needed. -/
def validate (s : DeployKeySpec) : Except ApiError DeployKeySpec := do
  let s := { s with key := normalizePublicKey s.key }
  if Text.isBlankText s.label || s.key.isEmpty then
    throw (.invalidRequest "deploy key needs a label and key text")
  pure s

/-- Find a repository's key by its label. -/
def fetch (opts : PageOptions) (ref : DeployKeyRef) : Call Channel KeyRecord := do
  let keys ← list opts ref.repository
  Call.ofExcept (exactMatch keys (·.label) ref.label ref.display)

/-- Add a key. -/
def create (ref : DeployKeyRef) (s : DeployKeySpec) : Call Channel KeyRecord := do
  let word ← Call.ofExcept
    ((Service.bitbucket.table .repository).wordFor (if s.readOnly then .read else .write))
  let req := (Request.new .post (keysPath ref.repository)).withBody
    (.obj [("key", .obj [("text", .str s.key), ("label", .str s.label)]),
      ("permission", .str word)])
  let (k, session) ← Channel.fetch req AccessKey.read
  Call.ofExcept (k.toKeyRecord session)

/-- Remove a key by its id. -/
def delete (ref : DeployKeyRef) (raw : KeyRecord) : Call Channel Unit := do
  let _ ← Channel.send (Request.new .delete (keysPath ref.repository ++ "/" ++ toString raw.id))

end Key

/-- The error for updating a kind that is only ever recreated. -/
def updateUnsupported {ι ρ : Type} (kindName : String) (_ref : ι) (_raw : ρ) : Call Channel ρ :=
  throw (.unsupported serviceName ("updating a " ++ kindName))

/-- Deploy keys on Bitbucket Server. -/
def deployKeyKind (opts : PageOptions) : Kind Channel DeployKeyRef KeyRecord DeployKeySpec where
  name := "deploy key"
  service := serviceName
  strategy := .recreate
  describe := DeployKeyRef.display
  specOf := Key.specOf
  applySpec := Key.applySpec
  satisfies r d := Strategy.recreate.satisfied d (Key.specOf r)
  validate := Key.validate
  fetch := Key.fetch opts
  create := Key.create
  update := updateUnsupported "deploy key"
  delete := Key.delete

/-! ### Team access -/

namespace Access

/-- The path of a repository's group grants. -/
def repositoryGrantsPath (r : RepositoryRef) : String := repoPath r ++ "/permissions/groups"

/-- The path of a project's group grants. -/
def projectGrantsPath (organization : String) : String :=
  "rest/api/1.0/projects/" ++ organization ++ "/permissions/groups"

/-- The group grants at a path, optionally filtered by a name, with the words read as levels
of a scope. -/
def grants (opts : PageOptions) (path : String) (scope : Scope) (filter : Option String) :
    Call Channel (List (String × Level)) := do
  let found ← paged opts ((Request.new .get path).withOptionalQuery "filter" filter)
    GroupPermission.read
  Call.ofExcept (found.mapM (fun (g, _) =>
    ((Service.bitbucket.table scope).levelOf g.permission).map (fun l => (g.group, l))))

/-- Give the first listed team of a name a project level. -/
def setProject (team : String) (level : Level) : List TeamGrant → List TeamGrant
  | [] => []
  | t :: ts =>
    if t.team == team then { t with project := some level } :: ts
    else t :: setProject team level ts

/-- Add project grants to repository grants: the first listed team of the name gets its
project level, and a team not listed is added after them. -/
def mergeProject (teams : List TeamGrant) : List (String × Level) → List TeamGrant
  | [] => teams
  | (team, level) :: rest =>
    if teams.any (·.team == team) then mergeProject (setProject team level teams) rest
    else mergeProject (teams ++ [{ team, project := some level }]) rest

/-- Every team's grants on a repository and its project. -/
def list (opts : PageOptions) (ref : RepositoryRef) : Call Channel (List TeamGrant) := do
  let repository ← grants opts (repositoryGrantsPath ref) .repository none
  let project ← grants opts (projectGrantsPath ref.organization) .organization none
  pure (mergeProject (repository.map (fun (team, l) => { team, repository := some l })) project)

/-- The spec a grant stands for: the effective level, read when there is none. -/
def specOf (g : TeamGrant) : TeamAccessSpec := ⟨g.team, g.effective.getD .read⟩

/-- Write a spec into a grant: the repository level becomes the desired one. -/
def applySpec (g : TeamGrant) (s : TeamAccessSpec) : TeamGrant :=
  { g with team := s.team, repository := some s.permission }

/-- Whether an optional level is above a level. -/
def above (o : Option Level) (l : Level) : Bool :=
  match o with
  | some q => decide (l < q)
  | none => false

/-- Whether a grant satisfies a spec: its spec is the desired one, or its repository level
is the desired one and a higher project level shadows it. -/
def satisfies (g : TeamGrant) (d : TeamAccessSpec) : Bool :=
  decide (specOf g = d) || (g.repository == some d.permission && above g.project d.permission)

/-- A spec is valid when its level has a word in the repository scope. -/
def validate (s : TeamAccessSpec) : Except ApiError TeamAccessSpec := do
  let _ ← (Service.bitbucket.table .repository).wordFor s.permission
  pure s

/-- A team's grants, by its name. -/
def fetch (opts : PageOptions) (ref : TeamAccessRef) : Call Channel TeamGrant := do
  let repository ← grants opts (repositoryGrantsPath ref.repository) .repository (some ref.team)
  let project ← grants opts (projectGrantsPath ref.repository.organization) .organization
    (some ref.team)
  let find (gs : List (String × Level)) : Option Level :=
    (gs.find? (·.1 == ref.team)).map (·.2)
  let g : TeamGrant := { team := ref.team, repository := find repository, project := find project }
  if g.effective.isNone then throw (.notFound ref.display)
  pure g

/-- Grant a team a level on the repository. -/
def grant (ref : TeamAccessRef) (l : Level) : Call Channel Unit := do
  let word ← Call.ofExcept ((Service.bitbucket.table .repository).wordFor l)
  let req := ((Request.new .put (repositoryGrantsPath ref.repository)).withQuery "permission" word)
    |>.withQuery "name" ref.team
  let _ ← Channel.send req

/-- Grant the desired level. -/
def create (ref : TeamAccessRef) (s : TeamAccessSpec) : Call Channel TeamGrant := do
  grant ref s.permission
  pure { team := ref.team, repository := some s.permission }

/-- Send the repository level of a grant again. -/
def update (ref : TeamAccessRef) (g : TeamGrant) : Call Channel TeamGrant := do
  match g.repository with
  | none => throw (.invalidRequest ("no repository grant to send for " ++ ref.display))
  | some l =>
    grant ref l
    pure g

/-- Revoke a team's repository grant. -/
def delete (ref : TeamAccessRef) (_g : TeamGrant) : Call Channel Unit := do
  let _ ← Channel.send
    ((Request.new .delete (repositoryGrantsPath ref.repository)).withQuery "name" ref.team)

end Access

/-- Team access on Bitbucket Server. -/
def teamAccessKind (opts : PageOptions) : Kind Channel TeamAccessRef TeamGrant TeamAccessSpec where
  name := "team access"
  service := serviceName
  strategy := .replace
  describe := TeamAccessRef.display
  specOf := Access.specOf
  applySpec := Access.applySpec
  satisfies := Access.satisfies
  validate := Access.validate
  fetch := Access.fetch opts
  create := Access.create
  update := Access.update
  delete := Access.delete

/-! ### Pull requests -/

namespace Pull

/-- The path of a repository's pull requests. -/
def pullsPath (r : RepositoryRef) : String := repoPath r ++ "/pull-requests"

/-- A ref in a request body: the branch's full id and its repository. -/
def refBody (r : RepositoryRef) (branch : String) : Json :=
  .obj [("id", .str (branchRefId branch)),
    ("repository", .obj [("slug", .str r.slug),
      ("project", .obj [("key", .str r.organization)])])]

/-- An optional text as JSON, null when absent. -/
def optText (s : Option String) : Json :=
  match s with
  | some t => .str t
  | none => .null

/-- A pull request by its id. -/
def get (ref : RepositoryRef) (id : Nat) : Call Channel PullRecord := do
  let (raw, session) ← Channel.fetch (Request.new .get (pullsPath ref ++ "/" ++ toString id))
    PullRecord.read
  let raw := { raw with session }
  Call.ofExcept raw.validate
  pure raw

/-- The spec a pull request stands for. -/
def specOf (p : PullRecord) : PullRequestSpec :=
  { title := p.title, description := nonEmpty p.description,
    sourceBranch := branchDisplayId p.fromRef.id, targetBranch := branchDisplayId p.toRef.id }

/-- Write a spec into a pull request: title, description and target. -/
def applySpec (p : PullRecord) (s : PullRequestSpec) : PullRecord :=
  let toRef := { p.toRef with id := branchRefId s.targetBranch, displayId := s.targetBranch }
  { p with title := s.title, description := s.description, toRef := toRef }

/-- Normalise a spec: a blank description is unset, and source and target must differ. -/
def validate (s : PullRequestSpec) : Except ApiError PullRequestSpec := do
  let s := { s with description := nonEmpty s.description }
  if s.sourceBranch == s.targetBranch then
    throw (.invalidRequest ("pull request source and target are both '" ++ s.sourceBranch ++ "'"))
  pure s

/-- The open pull request from a source branch. -/
def fetch (opts : PageOptions) (ref : PullRequestRef) : Call Channel PullRecord := do
  let source := branchRefId ref.sourceBranch
  let req := (((Request.new .get (pullsPath ref.repository)).withQuery "direction" "OUTGOING")
    |>.withQuery "at" source) |>.withQuery "state" "OPEN"
  let found ← paged opts req PullRecord.read
  let candidates := found.map (fun (p, session) => { p with session })
  let raw ← Call.ofExcept (exactMatch candidates (·.fromRef.id) source ref.display)
  Call.ofExcept raw.validate
  pure raw

/-- Open a pull request. -/
def create (ref : PullRequestRef) (s : PullRequestSpec) : Call Channel PullRecord := do
  let r := ref.repository
  let req := (Request.new .post (pullsPath r)).withBody
    (.obj [("title", .str s.title), ("description", optText s.description),
      ("fromRef", refBody r s.sourceBranch), ("toRef", refBody r s.targetBranch)])
  let (raw, session) ← Channel.fetch req PullRecord.read
  let raw := { raw with session }
  Call.ofExcept raw.validate
  pure raw

/-- How an update of a pull request reads a refusal: a conflict means that the version it was
sent at is stale. -/
def staleOnConflict (ref : PullRequestRef) (raw : PullRecord) : ApiError → ApiError
  | .alreadyExists m => .versionConflict ref.display raw.version m
  | other => other

/-- Send a changed pull request with the version it was read at; a conflict means the
version is stale. -/
def update (ref : PullRequestRef) (raw : PullRecord) : Call Channel PullRecord := do
  let r := ref.repository
  let req := (Request.new .put (pullsPath r ++ "/" ++ toString raw.id)).withBody
    (.obj [("version", .nat raw.version), ("title", .str raw.title),
      ("description", optText raw.description),
      ("toRef", refBody r (branchDisplayId raw.toRef.id))])
  let (got, session) ← tryCatch (Channel.fetch req PullRecord.read)
    (fun e => throw (staleOnConflict ref raw e))
  let got := { got with session }
  Call.ofExcept got.validate
  pure got

/-- Delete a pull request at the version it was read at. -/
def delete (ref : PullRequestRef) (raw : PullRecord) : Call Channel Unit := do
  let _ ← Channel.send ((Request.new .delete (pullsPath ref.repository ++ "/" ++ toString raw.id)).withBody
    (.obj [("version", .nat raw.version)]))

end Pull

/-- Pull requests on Bitbucket Server. -/
def pullRequestKind (opts : PageOptions) :
    Kind Channel PullRequestRef PullRecord PullRequestSpec where
  name := "pull request"
  service := serviceName
  strategy := .replace
  describe := PullRequestRef.display
  specOf := Pull.specOf
  applySpec := Pull.applySpec
  satisfies r d := Strategy.replace.satisfied d (Pull.specOf r)
  validate := Pull.validate
  fetch := Pull.fetch opts
  create := Pull.create
  update := Pull.update
  delete := Pull.delete

end Bitbucket

end ForgeSync
