import ForgeSync.Error.Basic
import ForgeSync.Service
import ForgeSync.Text.Case

/-!
# Permission levels

Access is measured on one scale of five levels, from reading to administering, each with an
ordinal (10 to 50) that orders them.  Each service names levels in its own words, in one table
for grants on a repository and one for grants on the organization (a project on Bitbucket
Server) that holds it; a table need not name every level.

A team's effective level is the highest level among its grants, each read through the table
of its scope.  A grant whose word is not in its table makes the whole computation fail rather
than count as a lower level.
-/

namespace ForgeSync

/-- A level of access, ordered from `read` to `admin`. -/
inductive Level where
  | read
  | triage
  | write
  | maintain
  | admin
  deriving Repr, DecidableEq, Inhabited

namespace Level

/-- Every level, in increasing order. -/
def all : List Level := [.read, .triage, .write, .maintain, .admin]

/-- The ordinal of a level: 10, 20, 30, 40 and 50 from `read` to `admin`. -/
def ordinal : Level → Nat
  | .read => 10
  | .triage => 20
  | .write => 30
  | .maintain => 40
  | .admin => 50

/-- The client's name of a level. -/
def name : Level → String
  | .read => "read"
  | .triage => "triage"
  | .write => "write"
  | .maintain => "maintain"
  | .admin => "admin"

instance : LE Level := ⟨fun a b => a.ordinal ≤ b.ordinal⟩

instance : LT Level := ⟨fun a b => a.ordinal < b.ordinal⟩

instance (a b : Level) : Decidable (a ≤ b) := inferInstanceAs (Decidable (a.ordinal ≤ b.ordinal))

instance (a b : Level) : Decidable (a < b) := inferInstanceAs (Decidable (a.ordinal < b.ordinal))

/-- The level with a given ordinal. -/
def ofOrdinal? (n : Nat) : Option Level :=
  all.find? (fun l => l.ordinal == n)

/-- The level named by a text, with ASCII letters in either case. -/
def parse (s : String) : Except ApiError Level :=
  match all.find? (fun l => Text.eqIgnoreAsciiCase l.name s) with
  | some l => .ok l
  | none => .error (.invalidPermissionLevel s)

/-- The level with the exact lowercase name given. -/
def ofName? (s : String) : Option Level :=
  all.find? (fun l => l.name == s)

/-- The higher of a level found so far, if any, and another. -/
def maxWith (best : Option Level) (l : Level) : Level :=
  match best with
  | some b => if l ≤ b then b else l
  | none => l

/-- The higher of two optional levels, where no level is below every level. -/
def maxOpt : Option Level → Option Level → Option Level
  | none, b => b
  | some a, b => some (maxWith b a)

end Level

/-- Where a grant applies: to one repository, or to the organization holding it. -/
inductive Scope where
  | repository
  | organization
  deriving Repr, DecidableEq, Inhabited

/-- The capitalised name of a scope, as messages write it. -/
def Scope.title : Scope → String
  | .repository => "Repository"
  | .organization => "Organization"

/-- A service's words for levels in one scope, in the order the service lists them. -/
structure PermissionTable where
  service : Service
  scope : Scope
  entries : List (String × Level)

namespace PermissionTable

/-- The service's word for a level. -/
def wordFor (t : PermissionTable) (l : Level) : Except ApiError String :=
  match t.entries.find? (fun e => e.2 == l) with
  | some e => .ok e.1
  | none => .error (.invalidPermissionLevel
      (t.service.name ++ " has no " ++ t.scope.title ++ "-scope equivalent of '" ++ l.name ++ "'"))

/-- The level a service's word stands for; the word must match exactly. -/
def levelOf (t : PermissionTable) (word : String) : Except ApiError Level :=
  match t.entries.find? (fun e => e.1 == word) with
  | some e => .ok e.2
  | none => .error (.invalidPermissionLevel
      ("unknown " ++ t.service.name ++ " permission '" ++ word ++ "'"))

end PermissionTable

/-- The permission table of a service in a scope. -/
def Service.table : Service → Scope → PermissionTable
  | .bitbucket, .repository =>
    ⟨.bitbucket, .repository, [("REPO_READ", .read), ("REPO_WRITE", .write), ("REPO_ADMIN", .admin)]⟩
  | .bitbucket, .organization =>
    ⟨.bitbucket, .organization,
      [("PROJECT_READ", .read), ("PROJECT_WRITE", .write), ("PROJECT_ADMIN", .admin)]⟩
  | .github, .repository =>
    ⟨.github, .repository,
      [("pull", .read), ("triage", .triage), ("push", .write), ("maintain", .maintain),
        ("admin", .admin)]⟩
  | .github, .organization =>
    ⟨.github, .organization, [("read", .read), ("write", .write), ("admin", .admin)]⟩

/-- A grant as a service reports it: the scope and the service's word. -/
structure Grant where
  scope : Scope
  word : String
  deriving Repr, DecidableEq

/-- Fold grants into the highest level seen so far, failing at the first unknown word. -/
def Service.foldGrants (svc : Service) (best : Option Level) : List Grant →
    Except ApiError (Option Level)
  | [] => .ok best
  | g :: gs =>
    match (svc.table g.scope).levelOf g.word with
    | .ok l => svc.foldGrants (some (Level.maxWith best l)) gs
    | .error e => .error e

/-- The effective level of a list of grants: none for no grant, otherwise the highest level
among them; an unknown word anywhere is an error, the first one in the list reported. -/
def Service.effectiveLevel (svc : Service) (grants : List Grant) : Except ApiError (Option Level) :=
  svc.foldGrants none grants

end ForgeSync
