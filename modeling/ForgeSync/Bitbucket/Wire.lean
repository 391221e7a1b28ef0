import ForgeSync.Hosted
import ForgeSync.Json.Decode

/-!
# Bitbucket Server records

The records Bitbucket Server's REST API sends, as this client reads them, and how each
becomes a hosted object.

Required fields are read with empty defaults and then checked, so that a record missing
several of them fails once, naming every gap as invalid server data, rather than failing to
decode at the first.  A repository needs a slug, a name and a project with a key; a branch
and a commit need an id; an access key needs the key's id and text and a permission; a pull
request needs a title and both refs.

A repository is public or private by its flag; its clone links are listed with the `http`
ones first.  A branch's name is its display id, or the short form of its id when that is
empty.  A commit's author is the display name, or the account name; its time is the author
timestamp in milliseconds, kept only when in range.  An access key's permission word is read
in the repository scope; the key is read-only below write.  A team grant combines the
repository and project levels, the higher one being effective.
-/

namespace ForgeSync

namespace Bitbucket

/-- A project. -/
structure Project where
  key : String := ""
  id : Option Nat := none
  name : Option String := none
  description : Option String := none
  isPublic : Bool := false
  deriving Repr, DecidableEq, Inhabited

/-- A link: its address and name. -/
structure Link where
  href : String := ""
  name : Option String := none
  deriving Repr, DecidableEq, Inhabited

/-- The links of a record: clone links and self links. -/
structure Links where
  clone : List Link := []
  selfLinks : List Link := []
  deriving Repr, DecidableEq, Inhabited

/-- A repository as the service sends it. -/
structure RepoRecord where
  id : Option Nat := none
  slug : String := ""
  name : String := ""
  description : Option String := none
  isPublic : Bool := false
  project : Option Project := none
  defaultBranch : Option String := none
  state : Option String := none
  links : Links := {}
  session : Session := {}
  deriving Repr, DecidableEq, Inhabited

/-- A branch as the service sends it. -/
structure BranchRecord where
  id : String := ""
  displayId : String := ""
  latestCommit : Option String := none
  isDefault : Bool := false
  deriving Repr, DecidableEq, Inhabited

/-- A commit's author. -/
structure Person where
  name : String := ""
  emailAddress : Option String := none
  displayName : Option String := none
  deriving Repr, DecidableEq, Inhabited

/-- A commit as the service sends it. -/
structure CommitRecord where
  id : String := ""
  message : String := ""
  author : Person := {}
  authorTimestamp : Option Int := none
  deriving Repr, DecidableEq, Inhabited

/-- An SSH key. -/
structure SshKey where
  id : Option Nat := none
  text : String := ""
  label : Option String := none
  deriving Repr, DecidableEq, Inhabited

/-- An access key: an SSH key with its permission word. -/
structure AccessKey where
  key : SshKey := {}
  permission : String := ""
  deriving Repr, DecidableEq, Inhabited

/-- A deploy key as this client keeps it: the permission read as a level. -/
structure KeyRecord where
  id : Nat
  label : String
  text : String
  permission : Level
  session : Session := {}
  deriving Repr, DecidableEq, Inhabited

/-- A group's permission word. -/
structure GroupPermission where
  group : String := ""
  permission : String := ""
  deriving Repr, DecidableEq, Inhabited

/-- A team's grants on a repository and on its project. -/
structure TeamGrant where
  team : String
  repository : Option Level := none
  project : Option Level := none
  session : Session := {}
  deriving Repr, DecidableEq, Inhabited

/-- A repository named in a ref. -/
structure RepoName where
  slug : String
  projectKey : String
  deriving Repr, DecidableEq, Inhabited

/-- A ref of a pull request: its full id, display id and repository. -/
structure BranchRef where
  id : String := ""
  displayId : String := ""
  repository : Option RepoName := none
  deriving Repr, DecidableEq, Inhabited

/-- A pull request as the service sends it. -/
structure PullRecord where
  id : Nat := 0
  version : Nat := 0
  title : String := ""
  description : Option String := none
  state : String := ""
  fromRef : BranchRef := {}
  toRef : BranchRef := {}
  links : Links := {}
  session : Session := {}
  deriving Repr, DecidableEq, Inhabited

/-! ### Reading -/

/-- Read a project. -/
def Project.read (j : Json) : Json.Decoded Project := do
  let [key, id, name, description, isPublic] ←
    Json.slots "Project" ["key", "id", "name", "description", "public"] j
    | .error "record shape"
  pure {
    key := ← key.orDefault "" Json.readStr
    id := ← id.optional Json.readU64
    name := ← name.optional Json.readStr
    description := ← description.optional Json.readStr
    isPublic := ← isPublic.orDefault false Json.readBool }

/-- Read a link. -/
def Link.read (j : Json) : Json.Decoded Link := do
  let [href, name] ← Json.slots "Link" ["href", "name"] j | .error "record shape"
  pure { href := ← href.orDefault "" Json.readStr, name := ← name.optional Json.readStr }

/-- Read links. -/
def Links.read (j : Json) : Json.Decoded Links := do
  let [clone, selfLinks] ← Json.slots "Links" ["clone", "self"] j | .error "record shape"
  pure {
    clone := ← clone.orDefault [] (Json.readList Link.read)
    selfLinks := ← selfLinks.orDefault [] (Json.readList Link.read) }

/-- Read a repository. -/
def RepoRecord.read (j : Json) : Json.Decoded RepoRecord := do
  let [id, slug, name, description, isPublic, project, defaultBranch, state, links] ←
    Json.slots "RepoRecord" ["id", "slug", "name", "description", "public", "project",
      "defaultBranch", "state", "links"] j
    | .error "record shape"
  pure {
    id := ← id.optional Json.readU64
    slug := ← slug.orDefault "" Json.readStr
    name := ← name.orDefault "" Json.readStr
    description := ← description.optional Json.readStr
    isPublic := ← isPublic.orDefault false Json.readBool
    project := ← project.optional Project.read
    defaultBranch := ← defaultBranch.optional Json.readStr
    state := ← state.optional Json.readStr
    links := ← links.orDefault {} Links.read }

/-- Read a branch. -/
def BranchRecord.read (j : Json) : Json.Decoded BranchRecord := do
  let [id, displayId, latestCommit, isDefault] ←
    Json.slots "BranchRecord" ["id", "displayId", "latestCommit", "isDefault"] j
    | .error "record shape"
  pure {
    id := ← id.orDefault "" Json.readStr
    displayId := ← displayId.orDefault "" Json.readStr
    latestCommit := ← latestCommit.optional Json.readStr
    isDefault := ← isDefault.orDefault false Json.readBool }

/-- Read a commit's author. -/
def Person.read (j : Json) : Json.Decoded Person := do
  let [name, emailAddress, displayName] ←
    Json.slots "Person" ["name", "emailAddress", "displayName"] j
    | .error "record shape"
  pure {
    name := ← name.orDefault "" Json.readStr
    emailAddress := ← emailAddress.optional Json.readStr
    displayName := ← displayName.optional Json.readStr }

/-- Read a commit. -/
def CommitRecord.read (j : Json) : Json.Decoded CommitRecord := do
  let [id, message, author, authorTimestamp] ←
    Json.slots "CommitRecord" ["id", "message", "author", "authorTimestamp"] j
    | .error "record shape"
  pure {
    id := ← id.orDefault "" Json.readStr
    message := ← message.orDefault "" Json.readStr
    author := ← author.orDefault {} Person.read
    authorTimestamp := ← authorTimestamp.optional Json.readI64 }

/-- Read an SSH key. -/
def SshKey.read (j : Json) : Json.Decoded SshKey := do
  let [id, text, label] ← Json.slots "SshKey" ["id", "text", "label"] j | .error "record shape"
  pure {
    id := ← id.optional Json.readU64
    text := ← text.orDefault "" Json.readStr
    label := ← label.optional Json.readStr }

/-- Read an access key. -/
def AccessKey.read (j : Json) : Json.Decoded AccessKey := do
  let [key, permission] ← Json.slots "AccessKey" ["key", "permission"] j | .error "record shape"
  pure {
    key := ← key.orDefault {} SshKey.read
    permission := ← permission.orDefault "" Json.readStr }

/-- Read a group's name. -/
def readGroup (j : Json) : Json.Decoded String := do
  let [name] ← Json.slots "Group" ["name"] j | .error "record shape"
  name.orDefault "" Json.readStr

/-- Read a group's permission. -/
def GroupPermission.read (j : Json) : Json.Decoded GroupPermission := do
  let [group, permission] ← Json.slots "GroupPermission" ["group", "permission"] j
    | .error "record shape"
  pure {
    group := ← group.orDefault "" readGroup
    permission := ← permission.orDefault "" Json.readStr }

/-- Read a project's key in a ref. -/
def readProjectKey (j : Json) : Json.Decoded String := do
  let [key] ← Json.slots "ProjectKey" ["key"] j | .error "record shape"
  key.required Json.readStr

/-- Read a repository named in a ref. -/
def RepoName.read (j : Json) : Json.Decoded RepoName := do
  let [slug, project] ← Json.slots "RepoName" ["slug", "project"] j | .error "record shape"
  pure { slug := ← slug.required Json.readStr, projectKey := ← project.required readProjectKey }

/-- Read a ref. -/
def BranchRef.read (j : Json) : Json.Decoded BranchRef := do
  let [id, displayId, repository] ← Json.slots "BranchRef" ["id", "displayId", "repository"] j
    | .error "record shape"
  pure {
    id := ← id.orDefault "" Json.readStr
    displayId := ← displayId.orDefault "" Json.readStr
    repository := ← repository.optional RepoName.read }

/-- Read a pull request. -/
def PullRecord.read (j : Json) : Json.Decoded PullRecord := do
  let [id, version, title, description, state, fromRef, toRef, links] ←
    Json.slots "PullRecord" ["id", "version", "title", "description", "state", "fromRef",
      "toRef", "links"] j
    | .error "record shape"
  pure {
    id := ← id.orDefault 0 Json.readU64
    version := ← version.orDefault 0 Json.readU64
    title := ← title.orDefault "" Json.readStr
    description := ← description.optional Json.readStr
    state := ← state.orDefault "" Json.readStr
    fromRef := ← fromRef.orDefault {} BranchRef.read
    toRef := ← toRef.orDefault {} BranchRef.read
    links := ← links.orDefault {} Links.read }

/-! ### Checking and converting -/

/-- The organization a project stands for. -/
def Project.toOrganization (p : Project) (session : Session) : Except ApiError Organization := do
  checkFields (requireNonEmpty "key" p.key)
  pure { key := p.key, name := p.name.getD p.key, description := nonEmpty p.description,
         id := p.id, session }

namespace RepoRecord

/-- Check the fields a repository needs. -/
def validate (r : RepoRecord) : Except ApiError Unit :=
  checkFields (requireNonEmpty "slug" r.slug ++ requireNonEmpty "name" r.name ++
    requireSome "project" r.project ++
    requireNonEmpty "project.key" ((r.project.map (·.key)).getD "-"))

/-- The visibility a repository's flag gives. -/
def visibility (r : RepoRecord) : Visibility := if r.isPublic then .everyone else .restricted

/-- The key of the repository's project, empty without one. -/
def projectKey (r : RepoRecord) : String := (r.project.map (·.key)).getD ""

/-- Whether a link is named `http`. -/
def isHttpLink (l : Link) : Bool := l.name == some "http"

/-- The clone addresses, the `http` links first. -/
def cloneUrls (r : RepoRecord) : List String :=
  (r.links.clone.filter isHttpLink ++ r.links.clone.filter (fun l => !isHttpLink l)).map (·.href)

/-- The repository a record stands for. -/
def toRepository (r : RepoRecord) : Except ApiError Repository := do
  r.validate
  pure { organization := r.projectKey, slug := r.slug, name := r.name,
         description := nonEmpty r.description,
         defaultBranch := r.defaultBranch.map branchDisplayId, visibility := r.visibility,
         cloneUrls := r.cloneUrls, id := r.id, session := r.session }

end RepoRecord

/-- The branch a record stands for. -/
def BranchRecord.toBranch (b : BranchRecord) (session : Session) : Except ApiError Branch := do
  checkFields (requireNonEmpty "id" b.id)
  pure { name := if b.displayId.isEmpty then branchDisplayId b.id else b.displayId,
         latestCommit := b.latestCommit, isDefault := b.isDefault, session }

/-- The commit a record stands for. -/
def CommitRecord.toCommit (c : CommitRecord) (session : Session) : Except ApiError Commit := do
  checkFields (requireNonEmpty "id" c.id)
  pure { id := c.id, message := c.message,
         authorName := c.author.displayName.getD c.author.name,
         authorEmail := c.author.emailAddress,
         timestamp := c.authorTimestamp.bind Instant.ofMillis?, session }

/-- The deploy key an access key stands for, its permission read in the repository scope. -/
def AccessKey.toKeyRecord (k : AccessKey) (session : Session) : Except ApiError KeyRecord := do
  checkFields (requireSome "key.id" k.key.id ++ requireNonEmpty "key.text" k.key.text ++
    requireNonEmpty "permission" k.permission)
  let permission ← (Service.bitbucket.table .repository).levelOf k.permission
  pure { id := k.key.id.getD 0, label := k.key.label.getD "", text := k.key.text, permission,
         session }

namespace KeyRecord

/-- Whether a key is read-only: its level is below write. -/
def readOnly (k : KeyRecord) : Bool := decide (k.permission < .write)

/-- The deploy key a record stands for. -/
def toDeployKey (k : KeyRecord) : DeployKey :=
  { id := k.id, label := k.label, key := k.text, readOnly := k.readOnly, session := k.session }

end KeyRecord

/-- The effective level of a grant: the higher of the two. -/
def TeamGrant.effective (g : TeamGrant) : Option Level := Level.maxOpt g.repository g.project

namespace PullRecord

/-- Check the fields a pull request needs. -/
def validate (p : PullRecord) : Except ApiError Unit :=
  checkFields (requireNonEmpty "title" p.title ++ requireNonEmpty "fromRef.id" p.fromRef.id ++
    requireNonEmpty "toRef.id" p.toRef.id)

/-- The pull request a record stands for. -/
def toPullRequest (p : PullRecord) : PullRequest :=
  { id := p.id, version := some p.version, title := p.title,
    description := nonEmpty p.description, sourceBranch := branchDisplayId p.fromRef.id,
    targetBranch := branchDisplayId p.toRef.id, state := PullRequestState.parse p.state,
    url := p.links.selfLinks.head?.map (·.href), session := p.session }

end PullRecord

end Bitbucket

end ForgeSync
