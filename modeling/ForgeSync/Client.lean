import ForgeSync.Bitbucket.Kinds
import ForgeSync.GitHub.Kinds

/-!
# Service clients

A client talks to one service, Bitbucket Server or GitHub, over a channel, with the paging
options it was made with.  It offers the same operations on both: reading organizations,
repositories, branches, commits, deploy keys, team access and pull requests, and bringing a
repository, a deploy key, a team's access or a pull request to a desired spec.  Reconciling
and deleting go through a fresh resource handle of the service's kind, so they fetch first.

Neither service has sub-organizations.  On Bitbucket Server a team's access is listed from the
repository and project grants, keeping the teams with a level; on GitHub it is listed from
the repository's teams.  GitHub marks the default branch in a branch listing from the
repository, which it reads first.
-/

namespace ForgeSync

open Resource

/-- A client of one service, with its paging options. -/
structure Client where
  service : Service
  pages : PageOptions := {}
  deriving Inhabited

namespace Client

/-- Run a handle operation for its result. -/
def runHandle {ι ρ α β : Type} (m : StateM Channel (Handle.Outcome ι ρ α β)) : Call Channel β := do
  let (r, _) ← (m : StateM Channel _)
  Call.ofExcept r

/-- Bring a resource to a spec through a fresh handle. -/
def reconcileWith {ι ρ α : Type} (k : Kind Channel ι ρ α) (ref : ι) (spec : α) : Call Channel Bool :=
  runHandle (Handle.reconcile k (Handle.set k (Handle.new ref) spec))

/-- Delete a resource through a fresh handle. -/
def deleteWith {ι ρ α : Type} (k : Kind Channel ι ρ α) (ref : ι) : Call Channel Unit :=
  runHandle (Handle.delete k (Handle.new ref))

/-- The name of the client's service. -/
def name (c : Client) : String := c.service.name

/-- An organization by its key. -/
def getOrganization (c : Client) (key : String) : Call Channel Organization :=
  match c.service with
  | .bitbucket => do
    let (p, session) ← Channel.fetch (Request.new .get ("rest/api/1.0/projects/" ++ key))
      Bitbucket.Project.read
    Call.ofExcept (p.toOrganization session)
  | .github => do
    let (o, session) ← Channel.fetch (Request.new .get ("orgs/" ++ key)) GitHub.OrgRecord.read
    Call.ofExcept (o.toOrganization session)

/-- Every organization the caller sees. -/
def listOrganizations (c : Client) : Call Channel (List Organization) :=
  match c.service with
  | .bitbucket => do
    let ps ← Bitbucket.paged c.pages (Request.new .get "rest/api/1.0/projects")
      Bitbucket.Project.read
    Call.ofExcept (ps.mapM (fun (p, session) => p.toOrganization session))
  | .github => do
    let os ← GitHub.paged c.pages (Request.new .get "user/orgs") GitHub.OrgRecord.read
    Call.ofExcept (os.mapM (fun (o, session) => o.toOrganization session))

/-- The sub-organizations of an organization, which neither service has. -/
def organizationChildren (c : Client) (_key : String) : Call Channel (List Organization) :=
  throw (.unsupported c.name "sub-organizations")

/-- A repository by its reference. -/
def getRepository (c : Client) (ref : RepositoryRef) : Call Channel Repository :=
  match c.service with
  | .bitbucket => do
    let raw ← Bitbucket.Repo.fetch ref
    Call.ofExcept raw.toRepository
  | .github => do
    let raw ← GitHub.Repo.fetch ref
    Call.ofExcept raw.toRepository

/-- Every repository of an organization. -/
def listRepositories (c : Client) (organization : String) : Call Channel (List Repository) :=
  match c.service with
  | .bitbucket => do
    let rs ← Bitbucket.paged c.pages
      (Request.new .get ("rest/api/1.0/projects/" ++ organization ++ "/repos"))
      Bitbucket.RepoRecord.read
    Call.ofExcept (rs.mapM (fun (r, session) => { r with session := session }.toRepository))
  | .github => do
    let rs ← GitHub.paged c.pages (Request.new .get ("orgs/" ++ organization ++ "/repos"))
      GitHub.RepoRecord.read
    Call.ofExcept (rs.mapM (fun (r, session) => { r with session := session }.toRepository))

/-- Delete a repository. -/
def deleteRepository (c : Client) (ref : RepositoryRef) : Call Channel Unit :=
  match c.service with
  | .bitbucket => deleteWith Bitbucket.repositoryKind ref
  | .github => deleteWith GitHub.repositoryKind ref

/-- Bring the repository a spec names in an organization to the spec. -/
def reconcileRepository (c : Client) (organization : String) (spec : RepositorySpec) :
    Call Channel Bool :=
  let ref := RepositoryRef.forName organization spec.name
  match c.service with
  | .bitbucket => reconcileWith Bitbucket.repositoryKind ref spec
  | .github => reconcileWith GitHub.repositoryKind ref spec

/-- Every branch of a repository. -/
def listBranches (c : Client) (ref : RepositoryRef) : Call Channel (List Branch) :=
  match c.service with
  | .bitbucket => do
    let bs ← Bitbucket.paged c.pages
      ((Request.new .get (Bitbucket.repoPath ref ++ "/branches")).withQuery "details" "true")
      Bitbucket.BranchRecord.read
    Call.ofExcept (bs.mapM (fun (b, session) => b.toBranch session))
  | .github => do
    let repo ← getRepository c ref
    let bs ← GitHub.paged c.pages (Request.new .get (GitHub.repoPath ref ++ "/branches"))
      GitHub.BranchRecord.read
    Call.ofExcept (bs.mapM (fun (b, session) => b.toBranch repo.defaultBranch session))

/-- The commits of a repository, of a branch when one is named, at most `limit` of them when
a limit is given. -/
def listCommits (c : Client) (ref : RepositoryRef) (branch : Option String) (limit : Option Nat) :
    Call Channel (List Commit) :=
  match c.service with
  | .bitbucket => do
    let cs ← Bitbucket.pagedUpTo c.pages
      ((Request.new .get (Bitbucket.repoPath ref ++ "/commits")).withOptionalQuery "until" branch)
      Bitbucket.CommitRecord.read limit
    Call.ofExcept (cs.mapM (fun (x, session) => x.toCommit session))
  | .github => do
    let cs ← GitHub.pagedUpTo c.pages
      ((Request.new .get (GitHub.repoPath ref ++ "/commits")).withOptionalQuery "sha" branch)
      GitHub.CommitRecord.read limit
    Call.ofExcept (cs.mapM (fun (x, session) => x.toCommit session))

/-- Every deploy key of a repository. -/
def listDeployKeys (c : Client) (ref : RepositoryRef) : Call Channel (List DeployKey) :=
  match c.service with
  | .bitbucket => do
    let ks ← Bitbucket.Key.list c.pages ref
    pure (ks.map Bitbucket.KeyRecord.toDeployKey)
  | .github => do
    let ks ← GitHub.Key.list c.pages ref
    pure (ks.map GitHub.KeyRecord.toDeployKey)

/-- Bring the deploy key a spec labels to the spec. -/
def reconcileDeployKey (c : Client) (ref : RepositoryRef) (spec : DeployKeySpec) :
    Call Channel Bool :=
  let keyRef : DeployKeyRef := ⟨ref, spec.label⟩
  match c.service with
  | .bitbucket => reconcileWith (Bitbucket.deployKeyKind c.pages) keyRef spec
  | .github => reconcileWith (GitHub.deployKeyKind c.pages) keyRef spec

/-- Delete a deploy key. -/
def deleteDeployKey (c : Client) (ref : DeployKeyRef) : Call Channel Unit :=
  match c.service with
  | .bitbucket => deleteWith (Bitbucket.deployKeyKind c.pages) ref
  | .github => deleteWith (GitHub.deployKeyKind c.pages) ref

/-- Every team's access on a repository. -/
def listTeamAccess (c : Client) (ref : RepositoryRef) : Call Channel (List TeamAccess) :=
  match c.service with
  | .bitbucket => do
    let gs ← Bitbucket.Access.list c.pages ref
    pure (gs.filterMap (fun g => g.effective.map (fun l =>
      { team := g.team, permission := l, session := g.session })))
  | .github => do
    let ts ← GitHub.paged c.pages (Request.new .get (GitHub.repoPath ref ++ "/teams"))
      GitHub.Team.read
    Call.ofExcept (ts.mapM (fun (t, session) => do
      let l ← (Service.github.table .repository).levelOf t.permission
      pure { team := t.slug, permission := l, session }))

/-- Bring the access of the team a spec names to the spec. -/
def reconcileTeamAccess (c : Client) (ref : RepositoryRef) (spec : TeamAccessSpec) :
    Call Channel Bool :=
  let accessRef : TeamAccessRef := ⟨ref, spec.team⟩
  match c.service with
  | .bitbucket => reconcileWith (Bitbucket.teamAccessKind c.pages) accessRef spec
  | .github => reconcileWith GitHub.teamAccessKind accessRef spec

/-- Revoke a team's access. -/
def revokeTeamAccess (c : Client) (ref : TeamAccessRef) : Call Channel Unit :=
  match c.service with
  | .bitbucket => deleteWith (Bitbucket.teamAccessKind c.pages) ref
  | .github => deleteWith GitHub.teamAccessKind ref

/-- A pull request by its id. -/
def getPullRequest (c : Client) (ref : RepositoryRef) (id : Nat) : Call Channel PullRequest :=
  match c.service with
  | .bitbucket => Bitbucket.PullRecord.toPullRequest <$> Bitbucket.Pull.get ref id
  | .github => GitHub.PullRecord.toPullRequest <$> GitHub.Pull.get ref id

/-- Bring the pull request from the spec's source branch to the spec. -/
def reconcilePullRequest (c : Client) (ref : RepositoryRef) (spec : PullRequestSpec) :
    Call Channel Bool :=
  let pullRef : PullRequestRef := ⟨ref, spec.sourceBranch⟩
  match c.service with
  | .bitbucket => reconcileWith (Bitbucket.pullRequestKind c.pages) pullRef spec
  | .github => reconcileWith (GitHub.pullRequestKind c.pages) pullRef spec

end Client

end ForgeSync
