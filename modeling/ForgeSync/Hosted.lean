import ForgeSync.Spec
import ForgeSync.Time

/-!
# Hosted objects

The objects a service reports, in one shape for both services: organizations (projects on
Bitbucket Server), repositories, branches, commits, deploy keys, team access and pull
requests.  Each carries the session data of the response it came in.  Repositories, deploy
keys, team access and pull requests also give the spec they satisfy as they stand.
-/

namespace ForgeSync

/-- Session data a service attaches to a response: user, session and request ids. -/
structure Session where
  userId : Option String := none
  sessionId : Option String := none
  requestId : Option String := none
  deriving Repr, DecidableEq, Inhabited

/-- The state of a pull request: open, merged, or closed without merging. -/
inductive PullRequestState where
  | active
  | merged
  | declined
  deriving Repr, DecidableEq, Inhabited

namespace PullRequestState

/-- The word for a state. -/
def name : PullRequestState → String
  | .active => "open"
  | .merged => "merged"
  | .declined => "declined"

/-- The state a Bitbucket Server word names, with ASCII letters in either case: `OPEN`,
`MERGED`, and every other word declined. -/
def parse (s : String) : PullRequestState :=
  match Text.asciiUpper s with
  | "OPEN" => .active
  | "MERGED" => .merged
  | _ => .declined

end PullRequestState

/-- An organization, or a project on Bitbucket Server. -/
structure Organization where
  key : String
  name : String
  description : Option String
  id : Option Nat
  session : Session
  deriving Repr, DecidableEq, Inhabited

/-- A repository. -/
structure Repository where
  organization : String
  slug : String
  name : String
  description : Option String
  defaultBranch : Option String
  visibility : Visibility
  cloneUrls : List String
  id : Option Nat
  session : Session
  deriving Repr, DecidableEq, Inhabited

namespace Repository

/-- The reference of a repository. -/
def reference (r : Repository) : RepositoryRef := ⟨r.organization, r.slug⟩

/-- The spec a repository satisfies as it stands. -/
def spec (r : Repository) : RepositorySpec :=
  { name := r.name, description := r.description, defaultBranch := r.defaultBranch,
    visibility := some r.visibility }

end Repository

/-- A branch and its latest commit. -/
structure Branch where
  name : String
  latestCommit : Option String
  isDefault : Bool
  session : Session
  deriving Repr, DecidableEq, Inhabited

/-- A commit: its id, message, author and the time it was authored, if known. -/
structure Commit where
  id : String
  message : String
  authorName : String
  authorEmail : Option String
  timestamp : Option Instant
  session : Session
  deriving Repr, DecidableEq, Inhabited

namespace Commit

/-- The first line of a message: up to the first line feed, without a carriage return just
before it; empty for an empty message. -/
def firstLine (cs : List Char) : List Char :=
  match cs.splitOn '\n' with
  | line :: _ :: _ => if line.getLast? == some '\r' then line.dropLast else line
  | line :: [] => line
  | [] => []

/-- The first line of the message. -/
def summary (c : Commit) : String := String.ofList (firstLine c.message.toList)

/-- The id cut to its first 12 bytes, or the whole id when it is shorter or byte 12 falls
inside a character. -/
def shortId (c : Commit) : String :=
  let bytes := c.id.toUTF8.toList
  if bytes.length < 12 then c.id
  else
    match String.fromUTF8? ⟨(bytes.take 12).toArray⟩ with
    | some s => s
    | none => c.id

end Commit

/-- A deploy key. -/
structure DeployKey where
  id : Nat
  label : String
  key : String
  readOnly : Bool
  session : Session
  deriving Repr, DecidableEq, Inhabited

/-- The spec a deploy key satisfies as it stands. -/
def DeployKey.spec (k : DeployKey) : DeployKeySpec := ⟨k.label, k.key, k.readOnly⟩

/-- A team's effective level on a repository. -/
structure TeamAccess where
  team : String
  permission : Level
  session : Session
  deriving Repr, DecidableEq, Inhabited

/-- The spec a team's access satisfies as it stands. -/
def TeamAccess.spec (t : TeamAccess) : TeamAccessSpec := ⟨t.team, t.permission⟩

/-- A pull request. -/
structure PullRequest where
  id : Nat
  version : Option Nat
  title : String
  description : Option String
  sourceBranch : String
  targetBranch : String
  state : PullRequestState
  url : Option String
  session : Session
  deriving Repr, DecidableEq, Inhabited

/-- The spec a pull request satisfies as it stands. -/
def PullRequest.spec (p : PullRequest) : PullRequestSpec :=
  { title := p.title, description := p.description, sourceBranch := p.sourceBranch,
    targetBranch := p.targetBranch }

/-- A text that holds a non-blank character, or nothing. -/
def nonEmpty (s : Option String) : Option String :=
  s.filter (fun t => !Text.isBlankText t)

end ForgeSync
