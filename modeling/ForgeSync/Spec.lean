import ForgeSync.Error.Basic
import ForgeSync.Permission
import ForgeSync.Text.Blank
import ForgeSync.Text.Case
import ForgeSync.Text.Slug

/-!
# Desired state

A spec is the state a user wants a resource to have: a repository's name, description,
default branch and visibility; a deploy key's label, key text and mode; a team's level on a
repository; a pull request's title, description and branches.

Each spec type says when an actual state satisfies a desired one and how a desired state is
merged onto an actual one.  For repositories and pull requests a field the user left unset
asks for nothing: satisfaction ignores it and merging keeps the actual value.  Deploy keys and
team access are all-or-nothing: satisfaction is equality and merging replaces.

References name a resource in messages: a repository by `ORG/SLUG`, the other resources by
their key within a repository.
-/

namespace ForgeSync

/-- A spec type: when an actual state satisfies a desired one, and how the desired state is
merged onto an actual one. -/
class Spec (α : Type) where
  satisfiedBy : α → α → Bool
  merge : α → α → α

/-- An unset desired value asks for nothing; a set one asks for equality. -/
def unsetOrEq {α : Type} [DecidableEq α] (desired actual : Option α) : Bool :=
  desired.isNone || decide (desired = actual)

/-- A set desired value replaces the actual one; an unset one keeps it. -/
def mergeSet {α : Type} (desired actual : Option α) : Option α :=
  match desired with
  | some v => some v
  | none => actual

/-! ### Visibility -/

/-- Who may see a repository: everyone (the word is "public"), only those granted access
("private"), or the members of the owning enterprise ("internal"). -/
inductive Visibility where
  | everyone
  | restricted
  | internal
  deriving Repr, DecidableEq, Inhabited

namespace Visibility

/-- The word for a visibility. -/
def name : Visibility → String
  | .everyone => "public"
  | .restricted => "private"
  | .internal => "internal"

/-- The visibility with exactly this lowercase word. -/
def ofName? (s : String) : Option Visibility :=
  [Visibility.everyone, .restricted, .internal].find? (fun v => v.name == s)

/-- The visibility a word names, with ASCII letters in either case; the error quotes the word
with its ASCII letters lowercased. -/
def parse (s : String) : Except ApiError Visibility :=
  match ofName? (Text.asciiLower s) with
  | some v => .ok v
  | none => .error (.invalidRequest ("unknown visibility '" ++ Text.asciiLower s ++ "'"))

end Visibility

/-! ### References -/

/-- A repository by organization and slug. -/
structure RepositoryRef where
  organization : String
  slug : String
  deriving Repr, DecidableEq, Inhabited

namespace RepositoryRef

/-- The reference written `ORG/SLUG`. -/
def display (r : RepositoryRef) : String := r.organization ++ "/" ++ r.slug

/-- The reference of the repository that a name gives, its slug made from the name. -/
def forName (organization name : String) : RepositoryRef :=
  ⟨organization, Text.slugify name⟩

/-- Read `ORG/SLUG`: both parts non-empty and the slug without a further slash. -/
def parse (s : String) : Except String RepositoryRef :=
  match s.toList.splitOn '/' with
  | [org, slug] =>
    if org.isEmpty || slug.isEmpty then .error ("expected ORG/SLUG, got '" ++ s ++ "'")
    else .ok ⟨String.ofList org, String.ofList slug⟩
  | _ => .error ("expected ORG/SLUG, got '" ++ s ++ "'")

end RepositoryRef

/-- A deploy key by repository and label. -/
structure DeployKeyRef where
  repository : RepositoryRef
  label : String
  deriving Repr, DecidableEq, Inhabited

/-- How messages name a deploy key. -/
def DeployKeyRef.display (r : DeployKeyRef) : String :=
  "deploy key '" ++ r.label ++ "' on " ++ r.repository.display

/-- A team's access by repository and team. -/
structure TeamAccessRef where
  repository : RepositoryRef
  team : String
  deriving Repr, DecidableEq, Inhabited

/-- How messages name a team's access. -/
def TeamAccessRef.display (r : TeamAccessRef) : String :=
  "access for team '" ++ r.team ++ "' on " ++ r.repository.display

/-- A pull request by repository and source branch. -/
structure PullRequestRef where
  repository : RepositoryRef
  sourceBranch : String
  deriving Repr, DecidableEq, Inhabited

/-- How messages name a pull request. -/
def PullRequestRef.display (r : PullRequestRef) : String :=
  "pull request from '" ++ r.sourceBranch ++ "' on " ++ r.repository.display

/-! ### Branch names and key text -/

/-- A branch's short name: a full ref under `refs/heads/` loses that prefix. -/
def branchDisplayId (id : String) : String :=
  if "refs/heads/".isPrefixOf id then String.ofList (id.toList.drop 11) else id

/-- A branch's full ref: a short name is put under `refs/heads/`, anything under `refs/`
is kept. -/
def branchRefId (name : String) : String :=
  if "refs/".isPrefixOf name then name else "refs/heads/" ++ name

/-- The comparable part of a public key: its first two words (key type and key data), joined
by one space, without the comment. -/
def normalizePublicKey (key : String) : String :=
  " ".intercalate ((Text.words key).take 2)

/-! ### The four specs -/

/-- The desired state of a repository. -/
structure RepositorySpec where
  name : String
  description : Option String := none
  defaultBranch : Option String := none
  visibility : Option Visibility := none
  deriving Repr, DecidableEq, Inhabited

instance : Spec RepositorySpec where
  satisfiedBy d a :=
    d.name == a.name && unsetOrEq d.description a.description &&
      unsetOrEq d.defaultBranch a.defaultBranch && unsetOrEq d.visibility a.visibility
  merge d a :=
    { name := d.name
      description := mergeSet d.description a.description
      defaultBranch := mergeSet d.defaultBranch a.defaultBranch
      visibility := mergeSet d.visibility a.visibility }

/-- The desired state of a deploy key. -/
structure DeployKeySpec where
  label : String
  key : String
  readOnly : Bool := true
  deriving Repr, DecidableEq, Inhabited

instance : Spec DeployKeySpec where
  satisfiedBy d a := decide (d = a)
  merge d _ := d

/-- The desired level of a team on a repository. -/
structure TeamAccessSpec where
  team : String
  permission : Level
  deriving Repr, DecidableEq, Inhabited

instance : Spec TeamAccessSpec where
  satisfiedBy d a := decide (d = a)
  merge d _ := d

/-- The desired state of a pull request. -/
structure PullRequestSpec where
  title : String
  description : Option String := none
  sourceBranch : String
  targetBranch : String
  deriving Repr, DecidableEq, Inhabited

instance : Spec PullRequestSpec where
  satisfiedBy d a :=
    d.title == a.title && d.sourceBranch == a.sourceBranch && d.targetBranch == a.targetBranch &&
      unsetOrEq d.description a.description
  merge d a :=
    { title := d.title
      description := mergeSet d.description a.description
      sourceBranch := d.sourceBranch
      targetBranch := d.targetBranch }

/-! ### Update strategies -/

/-- How an existing resource is brought to its desired state: changed in place field by
field, replaced as a whole, or deleted and created again. -/
inductive Strategy where
  | patch
  | replace
  | recreate
  deriving Repr, DecidableEq, Inhabited

/-- Whether an actual state needs no change under a strategy: a patch asks only for the set
fields, the other two ask for equality. -/
def Strategy.satisfied {α : Type} [DecidableEq α] [Spec α] (s : Strategy) (desired actual : α) :
    Bool :=
  match s with
  | .patch => Spec.satisfiedBy desired actual
  | _ => decide (desired = actual)

end ForgeSync
