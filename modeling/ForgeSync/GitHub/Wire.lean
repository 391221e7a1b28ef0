import ForgeSync.Hosted
import ForgeSync.Json.Decode

/-!
# GitHub records

The records GitHub's REST API sends, as this client reads them, and how each becomes a
hosted object.

As for Bitbucket Server, required fields are read with empty defaults and checked
afterwards, so that every gap of a record is named at once.  An organization needs a login; a
repository a name and an owner; a branch a name; a commit a sha; a deploy key its key text
and title; a pull request a title and both branch names.

A repository's visibility is its visibility word when that is `internal`, `public` or
`private`, and otherwise follows its private flag.  Its permissions map, when present, gives
the caller's level: the highest of the granted permission words.  A pull request is open by
its state word, merged when closed with a merge time, and declined otherwise.

Repositories and pull requests also carry the PATCH fields staged for their next update: a
field is staged when a spec changes it.
-/

namespace ForgeSync

namespace GitHub

/-- An organization as the service sends it. -/
structure OrgRecord where
  login : String := ""
  id : Option Nat := none
  name : Option String := none
  description : Option String := none
  defaultRepositoryPermission : Option String := none
  deriving Repr, DecidableEq, Inhabited

/-- A repository as the service sends it, with the fields staged for its next update. -/
structure RepoRecord where
  id : Option Nat := none
  name : String := ""
  description : Option String := none
  isPrivate : Bool := false
  visibilityWord : Option String := none
  defaultBranch : Option String := none
  owner : String := ""
  cloneUrl : Option String := none
  sshUrl : Option String := none
  permissions : Option (List (String × Bool)) := none
  session : Session := {}
  patch : List (String × Json) := []
  deriving Inhabited

/-- A branch as the service sends it. -/
structure BranchRecord where
  name : String := ""
  commit : Option String := none
  deriving Repr, DecidableEq, Inhabited

/-- A commit's author as the service sends it. -/
structure Signature where
  name : String := ""
  email : Option String := none
  date : Option Instant := none
  deriving Repr, DecidableEq, Inhabited

/-- A commit as the service sends it. -/
structure CommitRecord where
  sha : String := ""
  message : String := ""
  author : Signature := {}
  deriving Repr, DecidableEq, Inhabited

/-- A deploy key as the service sends it. -/
structure KeyRecord where
  id : Nat := 0
  key : String := ""
  title : String := ""
  readOnly : Bool := true
  session : Session := {}
  deriving Repr, DecidableEq, Inhabited

/-- A team with its permission word on a repository. -/
structure Team where
  slug : String := ""
  name : Option String := none
  permission : String := ""
  deriving Repr, DecidableEq, Inhabited

/-- A team's grant on a repository and its organization's base permission. -/
structure TeamGrant where
  team : String
  repository : Option Level := none
  organization : Option Level := none
  session : Session := {}
  deriving Repr, DecidableEq, Inhabited

/-- A pull request as the service sends it, with the fields staged for its next update. -/
structure PullRecord where
  number : Nat := 0
  title : String := ""
  body : Option String := none
  state : String := ""
  mergedAt : Option String := none
  head : String := ""
  base : String := ""
  htmlUrl : Option String := none
  session : Session := {}
  patch : List (String × Json) := []
  deriving Inhabited

/-! ### Reading -/

/-- Read an organization. -/
def OrgRecord.read (j : Json) : Json.Decoded OrgRecord := do
  let [login, id, name, description, defaultPermission] ←
    Json.slots "OrgRecord" ["login", "id", "name", "description",
      "default_repository_permission"] j
    | .error "record shape"
  pure {
    login := ← login.orDefault "" Json.readStr
    id := ← id.optional Json.readU64
    name := ← name.optional Json.readStr
    description := ← description.optional Json.readStr
    defaultRepositoryPermission := ← defaultPermission.optional Json.readStr }

/-- Read a record that holds only a login. -/
def readLogin (j : Json) : Json.Decoded String := do
  let [login] ← Json.slots "Owner" ["login"] j | .error "record shape"
  login.orDefault "" Json.readStr

/-- Read a repository. -/
def RepoRecord.read (j : Json) : Json.Decoded RepoRecord := do
  let [id, name, description, isPrivate, visibility, defaultBranch, owner, cloneUrl, sshUrl,
      permissions] ←
    Json.slots "RepoRecord" ["id", "name", "description", "private", "visibility",
      "default_branch", "owner", "clone_url", "ssh_url", "permissions"] j
    | .error "record shape"
  pure {
    id := ← id.optional Json.readU64
    name := ← name.orDefault "" Json.readStr
    description := ← description.optional Json.readStr
    isPrivate := ← isPrivate.orDefault false Json.readBool
    visibilityWord := ← visibility.optional Json.readStr
    defaultBranch := ← defaultBranch.optional Json.readStr
    owner := ← owner.orDefault "" readLogin
    cloneUrl := ← cloneUrl.optional Json.readStr
    sshUrl := ← sshUrl.optional Json.readStr
    permissions := ← permissions.optional (Json.readMap Json.readBool) }

/-- Read a record that holds only a sha. -/
def readSha (j : Json) : Json.Decoded String := do
  let [sha] ← Json.slots "CommitRef" ["sha"] j | .error "record shape"
  sha.orDefault "" Json.readStr

/-- Read a branch. -/
def BranchRecord.read (j : Json) : Json.Decoded BranchRecord := do
  let [name, commit] ← Json.slots "BranchRecord" ["name", "commit"] j | .error "record shape"
  pure { name := ← name.orDefault "" Json.readStr, commit := ← commit.optional readSha }

/-- Read an instant from its RFC 3339 text. -/
def readInstant (j : Json) : Json.Decoded Instant :=
  match j with
  | .str s =>
    match Instant.parse? s with
    | some t => .ok t
    | none => .error "input is out of range or malformed"
  | _ => Json.invalidType j "an RFC 3339 formatted date and time string"

/-- Read a commit's author. -/
def Signature.read (j : Json) : Json.Decoded Signature := do
  let [name, email, date] ← Json.slots "Signature" ["name", "email", "date"] j
    | .error "record shape"
  pure {
    name := ← name.orDefault "" Json.readStr
    email := ← email.optional Json.readStr
    date := ← date.optional readInstant }

/-- Read a commit's message and author. -/
def readCommitDetail (j : Json) : Json.Decoded (String × Signature) := do
  let [message, author] ← Json.slots "CommitDetail" ["message", "author"] j
    | .error "record shape"
  pure (← message.orDefault "" Json.readStr, ← author.orDefault {} Signature.read)

/-- Read a commit. -/
def CommitRecord.read (j : Json) : Json.Decoded CommitRecord := do
  let [sha, commit] ← Json.slots "CommitRecord" ["sha", "commit"] j | .error "record shape"
  let (message, author) ← commit.orDefault ("", {}) readCommitDetail
  pure { sha := ← sha.orDefault "" Json.readStr, message, author }

/-- Read a deploy key. -/
def KeyRecord.read (j : Json) : Json.Decoded KeyRecord := do
  let [id, key, title, readOnly] ← Json.slots "KeyRecord" ["id", "key", "title", "read_only"] j
    | .error "record shape"
  pure {
    id := ← id.orDefault 0 Json.readU64
    key := ← key.orDefault "" Json.readStr
    title := ← title.orDefault "" Json.readStr
    readOnly := ← readOnly.orDefault true Json.readBool }

/-- Read a team. -/
def Team.read (j : Json) : Json.Decoded Team := do
  let [slug, name, permission] ← Json.slots "Team" ["slug", "name", "permission"] j
    | .error "record shape"
  pure {
    slug := ← slug.orDefault "" Json.readStr
    name := ← name.optional Json.readStr
    permission := ← permission.orDefault "" Json.readStr }

/-- Read a branch of a pull request: its name, beside an optional label. -/
def readPullRef (j : Json) : Json.Decoded String := do
  let [name, label] ← Json.slots "PullRef" ["ref", "label"] j | .error "record shape"
  let name ← name.orDefault "" Json.readStr
  let _ ← label.optional Json.readStr
  pure name

/-- Read a pull request. -/
def PullRecord.read (j : Json) : Json.Decoded PullRecord := do
  let [number, title, body, state, mergedAt, head, base, htmlUrl] ←
    Json.slots "PullRecord" ["number", "title", "body", "state", "merged_at", "head", "base",
      "html_url"] j
    | .error "record shape"
  pure {
    number := ← number.orDefault 0 Json.readU64
    title := ← title.orDefault "" Json.readStr
    body := ← body.optional Json.readStr
    state := ← state.orDefault "" Json.readStr
    mergedAt := ← mergedAt.optional Json.readStr
    head := ← head.orDefault "" readPullRef
    base := ← base.orDefault "" readPullRef
    htmlUrl := ← htmlUrl.optional Json.readStr }

/-! ### Staging fields -/

/-- Stage a field: set it in the patch when the new value differs from the current one. -/
def stage (patch : List (String × Json)) (key current value : String) : List (String × Json) :=
  if current == value then patch
  else
    let kept := patch.filter (fun (e : String × Json) => e.1 != key)
    (kept ++ [(key, Json.str value)]).mergeSort (fun a b => decide (a.1 ≤ b.1))

/-! ### Checking and converting -/

/-- The organization a record stands for. -/
def OrgRecord.toOrganization (o : OrgRecord) (session : Session) : Except ApiError Organization := do
  checkFields (requireNonEmpty "login" o.login)
  pure { key := o.login, name := (nonEmpty o.name).getD o.login,
         description := nonEmpty o.description, id := o.id, session }

namespace RepoRecord

/-- Check the fields a repository needs. -/
def validate (r : RepoRecord) : Except ApiError Unit :=
  checkFields (requireNonEmpty "name" r.name ++ requireNonEmpty "owner.login" r.owner)

/-- The visibility of a repository. -/
def visibility (r : RepoRecord) : Visibility :=
  match r.visibilityWord with
  | some "internal" => .internal
  | some "public" => .everyone
  | some "private" => .restricted
  | _ => if r.isPrivate then .restricted else .everyone

/-- The caller's level on a repository: none without a permissions map, else the highest
granted permission word, an unknown word being an error. -/
def grantedLevel (r : RepoRecord) : Except ApiError (Option Level) :=
  match r.permissions with
  | none => .ok none
  | some ps =>
    Service.github.effectiveLevel
      ((ps.filter (·.2)).map (fun p => ⟨.repository, p.1⟩))

/-- The repository a record stands for. -/
def toRepository (r : RepoRecord) : Except ApiError Repository := do
  r.validate
  pure { organization := r.owner, slug := r.name, name := r.name,
         description := nonEmpty r.description, defaultBranch := r.defaultBranch,
         visibility := r.visibility, cloneUrls := r.cloneUrl.toList ++ r.sshUrl.toList,
         id := r.id, session := r.session }

end RepoRecord

/-- The branch a record stands for; it is the default when its name is the repository's
default branch. -/
def BranchRecord.toBranch (b : BranchRecord) (defaultBranch : Option String) (session : Session) :
    Except ApiError Branch := do
  checkFields (requireNonEmpty "name" b.name)
  pure { name := b.name, latestCommit := b.commit, isDefault := defaultBranch == some b.name,
         session }

/-- The commit a record stands for. -/
def CommitRecord.toCommit (c : CommitRecord) (session : Session) : Except ApiError Commit := do
  checkFields (requireNonEmpty "sha" c.sha)
  pure { id := c.sha, message := c.message, authorName := c.author.name,
         authorEmail := c.author.email, timestamp := c.author.date, session }

namespace KeyRecord

/-- Check the fields a deploy key needs. -/
def validate (k : KeyRecord) : Except ApiError Unit :=
  checkFields (requireNonEmpty "key" k.key ++ requireNonEmpty "title" k.title)

/-- The deploy key a record stands for. -/
def toDeployKey (k : KeyRecord) : DeployKey :=
  { id := k.id, label := k.title, key := k.key, readOnly := k.readOnly, session := k.session }

end KeyRecord

/-- The effective level of a grant: the higher of the two. -/
def TeamGrant.effective (g : TeamGrant) : Option Level := Level.maxOpt g.repository g.organization

namespace PullRecord

/-- Check the fields a pull request needs. -/
def validate (p : PullRecord) : Except ApiError Unit :=
  checkFields (requireNonEmpty "title" p.title ++ requireNonEmpty "head.ref" p.head ++
    requireNonEmpty "base.ref" p.base)

/-- The state of a pull request. -/
def pullState (p : PullRecord) : PullRequestState :=
  if p.state == "open" then .active
  else if p.mergedAt.isSome then .merged
  else .declined

/-- The pull request a record stands for. -/
def toPullRequest (p : PullRecord) : PullRequest :=
  { id := p.number, version := none, title := p.title, description := nonEmpty p.body,
    sourceBranch := p.head, targetBranch := p.base, state := p.pullState, url := p.htmlUrl,
    session := p.session }

end PullRecord

end GitHub

end ForgeSync
