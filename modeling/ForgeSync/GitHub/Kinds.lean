import ForgeSync.GitHub.Wire
import ForgeSync.Spec.Json
import ForgeSync.Listing
import ForgeSync.Resource.Handle
import ForgeSync.Text.Infix

/-!
# GitHub resource kinds

How the four resource kinds are read and written on GitHub.

| kind | strategy | raw form |
|------|----------|----------|
| repository | patch, by a PATCH of the staged fields | `RepoRecord` |
| deploy key | recreate | `KeyRecord` |
| team access | replace | `TeamGrant` |
| pull request | patch, by a PATCH of the staged fields | `PullRecord` |

Listings are numbered pages from 1, asked for by `page` and by `per_page` when a page size
is set; the next page is the one the link header names.

A create that GitHub refuses with status 422 failed because the resource exists when the
message says so, and is a validation failure otherwise.  An update with nothing staged sends
the name (or title) alone.  A team's access on a repository is the permission its grant
reports, beside the organization's base permission for every member; a base permission above
the desired level shadows it, as on Bitbucket Server.  Deleting a pull request closes it.
-/

namespace ForgeSync

namespace GitHub

open Resource

/-- The service's name in messages. -/
def serviceName : String := "github"

/-- The media type that makes GitHub report a team's permissions on a repository. -/
def repositoryMediaType : String := "application/vnd.github.v3.repository+json"

/-- The API path of a repository. -/
def repoPath (r : RepositoryRef) : String := "repos/" ++ r.organization ++ "/" ++ r.slug

/-- A create refused with status 422: an existing resource when the message says so, a
validation failure otherwise. -/
def alreadyExistsOnCreate (e : ApiError) : ApiError :=
  match e with
  | .http 422 body =>
    if Text.containsText body "already exists" then .alreadyExists body
    else .validation "Unprocessable Entity" body
  | other => other

/-- Send a create request and read the answer, refusals mapped by `alreadyExistsOnCreate`. -/
def fetchCreated {α : Type} (req : Request) (read : Json → Json.Decoded α) :
    Call Channel (α × Session) :=
  tryCatch (Channel.fetch req read) (fun e => throw (alreadyExistsOnCreate e))

/-- Every item of a listing with the session of the page it came in, up to `maxItems`. -/
def pagedUpTo {α : Type} (opts : PageOptions) (req : Request) (read : Json → Json.Decoded α)
    (maxItems : Option Nat) : Call Channel (List (α × Session)) :=
  Channel.listAll { opts with maxItems } { start := 1 } (fun c => do
    let r ← Channel.send
      ((req.withQuery "page" (toString c.start)).withOptionalQuery "per_page"
        (c.limit.map toString))
    let values ← Call.ofExcept (r.decode (Json.readList read))
    pure (Page.chained (values.map (fun v => (v, r.session))) c.start r.nextPage))

/-- Every item of a listing with the session of the page it came in. -/
def paged {α : Type} (opts : PageOptions) (req : Request) (read : Json → Json.Decoded α) :
    Call Channel (List (α × Session)) :=
  pagedUpTo opts req read none

/-- The staged fields to send, or the given field alone when nothing is staged. -/
def patchOr (patch : List (String × Json)) (key value : String) : Json :=
  if patch.isEmpty then .obj [(key, .str value)] else .obj patch

/-- An optional text as JSON, null when absent. -/
def optText (s : Option String) : Json :=
  match s with
  | some t => .str t
  | none => .null

/-! ### Repositories -/

namespace Repo

/-- The spec a repository stands for. -/
def specOf (r : RepoRecord) : RepositorySpec :=
  { name := r.name, description := nonEmpty r.description, defaultBranch := r.defaultBranch,
    visibility := some r.visibility }

/-- Write a spec into a repository, staging each field it changes. -/
def applySpec (r : RepoRecord) (s : RepositorySpec) : RepoRecord :=
  let patch := stage r.patch "name" r.name s.name
  let r := { r with name := s.name }
  let (patch, r) := match s.description with
    | some d => (stage patch "description" (r.description.getD "") d, { r with description := some d })
    | none => (patch, r)
  let (patch, r) := match s.defaultBranch with
    | some b =>
      (stage patch "default_branch" (r.defaultBranch.getD "") b, { r with defaultBranch := some b })
    | none => (patch, r)
  let (patch, r) := match s.visibility with
    | some v =>
      (stage patch "visibility" r.visibility.name v.name,
        { r with visibilityWord := some v.name, isPrivate := v != Visibility.everyone })
    | none => (patch, r)
  { r with patch }

/-- Normalise a spec: a blank description is unset, and the name must not be blank. -/
def validate (s : RepositorySpec) : Except ApiError RepositorySpec := do
  let s := { s with description := nonEmpty s.description }
  if Text.isBlankText s.name then throw (.invalidRequest "repository name must not be empty")
  pure s

/-- Complete a repository the service answered with. -/
def answered (got : RepoRecord) (session : Session) : Except ApiError RepoRecord := do
  let got := { got with session := session }
  got.validate
  pure got

/-- Read a repository. -/
def fetch (ref : RepositoryRef) : Call Channel RepoRecord := do
  let (raw, session) ← Channel.fetch (Request.new .get (repoPath ref)) RepoRecord.read
  Call.ofExcept (answered raw session)

/-- Create a repository from a spec; the default branch is left to GitHub. -/
def create (ref : RepositoryRef) (s : RepositorySpec) : Call Channel RepoRecord := do
  let body : Json := .obj ([("name", .str s.name)] ++
    optionalMembers [("description", s.description.map .str)] ++
    (match s.visibility with
     | some v => [("visibility", .str v.name), ("private", .bool (v != Visibility.everyone))]
     | none => []))
  let req := (Request.new .post ("orgs/" ++ ref.organization ++ "/repos")).withBody body
  let (raw, session) ← fetchCreated req RepoRecord.read
  Call.ofExcept (answered raw session)

/-- Send the staged fields of a repository. -/
def update (ref : RepositoryRef) (raw : RepoRecord) : Call Channel RepoRecord := do
  let req := (Request.new .patch (repoPath ref)).withBody (patchOr raw.patch "name" raw.name)
  let (got, session) ← Channel.fetch req RepoRecord.read
  Call.ofExcept (answered got session)

/-- Delete a repository. -/
def delete (ref : RepositoryRef) (_raw : RepoRecord) : Call Channel Unit := do
  let _ ← Channel.send (Request.new .delete (repoPath ref))

end Repo

/-- Repositories on GitHub. -/
def repositoryKind : Kind Channel RepositoryRef RepoRecord RepositorySpec where
  name := "repository"
  service := serviceName
  strategy := .patch
  describe := RepositoryRef.display
  specOf := Repo.specOf
  applySpec := Repo.applySpec
  satisfies r d := Strategy.patch.satisfied d (Repo.specOf r)
  validate := Repo.validate
  fetch := Repo.fetch
  create := Repo.create
  update := Repo.update
  delete := Repo.delete

/-! ### Deploy keys -/

namespace Key

/-- The path of a repository's deploy keys. -/
def keysPath (r : RepositoryRef) : String := repoPath r ++ "/keys"

/-- Every deploy key of a repository. -/
def list (opts : PageOptions) (ref : RepositoryRef) : Call Channel (List KeyRecord) := do
  let keys ← paged opts (Request.new .get (keysPath ref)) KeyRecord.read
  Call.ofExcept (keys.mapM (fun (k, session) => do
    let k := { k with session := session }
    k.validate
    pure k))

/-- The spec a key stands for. -/
def specOf (k : KeyRecord) : DeployKeySpec := ⟨k.title, normalizePublicKey k.key, k.readOnly⟩

/-- Write a spec into a key. -/
def applySpec (k : KeyRecord) (s : DeployKeySpec) : KeyRecord :=
  { k with title := s.label, key := s.key, readOnly := s.readOnly }

/-- Normalise a spec: the key text loses its comment; a label and key text are needed. -/
def validate (s : DeployKeySpec) : Except ApiError DeployKeySpec := do
  let s := { s with key := normalizePublicKey s.key }
  if Text.isBlankText s.label || s.key.isEmpty then
    throw (.invalidRequest "deploy key needs a label and key text")
  pure s

/-- Find a repository's key by its title. -/
def fetch (opts : PageOptions) (ref : DeployKeyRef) : Call Channel KeyRecord := do
  let keys ← list opts ref.repository
  Call.ofExcept (exactMatch keys (·.title) ref.label ref.display)

/-- Add a key. -/
def create (ref : DeployKeyRef) (s : DeployKeySpec) : Call Channel KeyRecord := do
  let req := (Request.new .post (keysPath ref.repository)).withBody
    (.obj [("title", .str s.label), ("key", .str s.key), ("read_only", .bool s.readOnly)])
  let (k, session) ← fetchCreated req KeyRecord.read
  let k := { k with session := session }
  Call.ofExcept k.validate
  pure k

/-- Remove a key by its id. -/
def delete (ref : DeployKeyRef) (raw : KeyRecord) : Call Channel Unit := do
  let _ ← Channel.send (Request.new .delete (keysPath ref.repository ++ "/" ++ toString raw.id))

end Key

/-- The error for updating a kind that is only ever recreated. -/
def updateUnsupported {ι ρ : Type} (kindName : String) (_ref : ι) (_raw : ρ) : Call Channel ρ :=
  throw (.unsupported serviceName ("updating a " ++ kindName))

/-- Deploy keys on GitHub. -/
def deployKeyKind (opts : PageOptions) : Kind Channel DeployKeyRef KeyRecord DeployKeySpec where
  name := "deploy key"
  service := serviceName
  strategy := .recreate
  describe := DeployKeyRef.display
  specOf := Key.specOf
  applySpec := Key.applySpec
  satisfies r d := Strategy.recreate.satisfied d (Key.specOf r)
  validate := Key.validate
  fetch := Key.fetch opts
  create := Key.create
  update := updateUnsupported "deploy key"
  delete := Key.delete

/-! ### Team access -/

namespace Access

/-- The path of a team's grant on a repository. -/
def grantPath (ref : TeamAccessRef) : String :=
  let r := ref.repository
  "orgs/" ++ r.organization ++ "/teams/" ++ ref.team ++ "/repos/" ++ r.organization ++ "/" ++
    r.slug

/-- The organization's base permission for every member, none when it has none or the
organization is not found. -/
def organizationLevel (organization : String) : Call Channel (Option Level) := do
  let found ← tryCatch (some <$> Channel.fetch (Request.new .get ("orgs/" ++ organization))
      OrgRecord.read)
    (fun e => if e.isNotFound then pure none else throw e)
  match found with
  | none => pure none
  | some (org, _) =>
    match org.defaultRepositoryPermission with
    | none => pure none
    | some "none" => pure none
    | some word => some <$> Call.ofExcept ((Service.github.table .organization).levelOf word)

/-- Grant a team a level on the repository. -/
def putGrant (ref : TeamAccessRef) (l : Level) : Call Channel Unit := do
  let word ← Call.ofExcept ((Service.github.table .repository).wordFor l)
  let _ ← Channel.send
    ((Request.new .put (grantPath ref)).withBody (.obj [("permission", .str word)]))

/-- The spec a grant stands for: the effective level, read when there is none. -/
def specOf (g : TeamGrant) : TeamAccessSpec := ⟨g.team, g.effective.getD .read⟩

/-- Write a spec into a grant: the repository level becomes the desired one. -/
def applySpec (g : TeamGrant) (s : TeamAccessSpec) : TeamGrant :=
  { g with team := s.team, repository := some s.permission }

/-- Whether an optional level is above a level. -/
def above (o : Option Level) (l : Level) : Bool :=
  match o with
  | some q => decide (l < q)
  | none => false

/-- Whether a grant satisfies a spec: its spec is the desired one, or its repository level
is the desired one and a higher base permission shadows it. -/
def satisfies (g : TeamGrant) (d : TeamAccessSpec) : Bool :=
  decide (specOf g = d) || (g.repository == some d.permission && above g.organization d.permission)

/-- A spec is valid when its level has a word in the repository scope. -/
def validate (s : TeamAccessSpec) : Except ApiError TeamAccessSpec := do
  let _ ← (Service.github.table .repository).wordFor s.permission
  pure s

/-- A team's grant on a repository and the organization's base permission. -/
def fetch (ref : TeamAccessRef) : Call Channel TeamGrant := do
  let req := (Request.new .get (grantPath ref)).withHeader "Accept" repositoryMediaType
  let (repo, session) ← Channel.fetch req RepoRecord.read
  let repository ← Call.ofExcept repo.grantedLevel
  let organization ← organizationLevel ref.repository.organization
  let g : TeamGrant := { team := ref.team, repository, organization, session }
  if g.effective.isNone then throw (.notFound ref.display)
  pure g

/-- Grant the desired level. -/
def create (ref : TeamAccessRef) (s : TeamAccessSpec) : Call Channel TeamGrant := do
  putGrant ref s.permission
  pure { team := ref.team, repository := some s.permission }

/-- Send the repository level of a grant again. -/
def update (ref : TeamAccessRef) (g : TeamGrant) : Call Channel TeamGrant := do
  match g.repository with
  | none => throw (.invalidRequest ("no repository grant to send for " ++ ref.display))
  | some l =>
    putGrant ref l
    pure g

/-- Remove a team's grant. -/
def delete (ref : TeamAccessRef) (_g : TeamGrant) : Call Channel Unit := do
  let _ ← Channel.send (Request.new .delete (grantPath ref))

end Access

/-- Team access on GitHub. -/
def teamAccessKind : Kind Channel TeamAccessRef TeamGrant TeamAccessSpec where
  name := "team access"
  service := serviceName
  strategy := .replace
  describe := TeamAccessRef.display
  specOf := Access.specOf
  applySpec := Access.applySpec
  satisfies := Access.satisfies
  validate := Access.validate
  fetch := Access.fetch
  create := Access.create
  update := Access.update
  delete := Access.delete

/-! ### Pull requests -/

namespace Pull

/-- The path of a repository's pull requests. -/
def pullsPath (r : RepositoryRef) : String := repoPath r ++ "/pulls"

/-- Complete a pull request the service answered with. -/
def answered (got : PullRecord) (session : Session) : Except ApiError PullRecord := do
  let got := { got with session := session }
  got.validate
  pure got

/-- A pull request by its number. -/
def get (ref : RepositoryRef) (number : Nat) : Call Channel PullRecord := do
  let (raw, session) ← Channel.fetch
    (Request.new .get (pullsPath ref ++ "/" ++ toString number)) PullRecord.read
  Call.ofExcept (answered raw session)

/-- The spec a pull request stands for. -/
def specOf (p : PullRecord) : PullRequestSpec :=
  { title := p.title, description := nonEmpty p.body, sourceBranch := p.head,
    targetBranch := p.base }

/-- Write a spec into a pull request, staging each field it changes. -/
def applySpec (p : PullRecord) (s : PullRequestSpec) : PullRecord :=
  let patch := stage p.patch "title" p.title s.title
  let p := { p with title := s.title }
  let (patch, p) := match s.description with
    | some d => (stage patch "body" (p.body.getD "") d, { p with body := some d })
    | none => (patch, p)
  let patch := stage patch "base" p.base s.targetBranch
  { p with base := s.targetBranch, patch }

/-- Normalise a spec: a blank description is unset, and source and target must differ. -/
def validate (s : PullRequestSpec) : Except ApiError PullRequestSpec := do
  let s := { s with description := nonEmpty s.description }
  if s.sourceBranch == s.targetBranch then
    throw (.invalidRequest ("pull request source and target are both '" ++ s.sourceBranch ++ "'"))
  pure s

/-- The open pull request from a source branch. -/
def fetch (opts : PageOptions) (ref : PullRequestRef) : Call Channel PullRecord := do
  let r := ref.repository
  let req := ((Request.new .get (pullsPath r)).withQuery "head"
    (r.organization ++ ":" ++ ref.sourceBranch)) |>.withQuery "state" "open"
  let found ← paged opts req PullRecord.read
  let candidates := found.map (fun (p, session) => { p with session := session })
  let raw ← Call.ofExcept (exactMatch candidates (·.head) ref.sourceBranch ref.display)
  Call.ofExcept raw.validate
  pure raw

/-- Open a pull request. -/
def create (ref : PullRequestRef) (s : PullRequestSpec) : Call Channel PullRecord := do
  let req := (Request.new .post (pullsPath ref.repository)).withBody
    (.obj [("title", .str s.title), ("body", optText s.description),
      ("head", .str s.sourceBranch), ("base", .str s.targetBranch)])
  let (raw, session) ← fetchCreated req PullRecord.read
  Call.ofExcept (answered raw session)

/-- Send the staged fields of a pull request. -/
def update (ref : PullRequestRef) (raw : PullRecord) : Call Channel PullRecord := do
  let req := (Request.new .patch (pullsPath ref.repository ++ "/" ++ toString raw.number)).withBody
    (patchOr raw.patch "title" raw.title)
  let (got, session) ← Channel.fetch req PullRecord.read
  Call.ofExcept (answered got session)

/-- Close a pull request. -/
def delete (ref : PullRequestRef) (raw : PullRecord) : Call Channel Unit := do
  let _ ← Channel.send
    ((Request.new .patch (pullsPath ref.repository ++ "/" ++ toString raw.number)).withBody
      (.obj [("state", .str "closed")]))

end Pull

/-- Pull requests on GitHub. -/
def pullRequestKind (opts : PageOptions) :
    Kind Channel PullRequestRef PullRecord PullRequestSpec where
  name := "pull request"
  service := serviceName
  strategy := .patch
  describe := PullRequestRef.display
  specOf := Pull.specOf
  applySpec := Pull.applySpec
  satisfies r d := Strategy.patch.satisfied d (Pull.specOf r)
  validate := Pull.validate
  fetch := Pull.fetch opts
  create := Pull.create
  update := Pull.update
  delete := Pull.delete

end GitHub

end ForgeSync
