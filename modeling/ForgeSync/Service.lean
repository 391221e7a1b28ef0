import ForgeSync.Text.Case

/-!
# Hosting services

The client talks to two kinds of hosting service: Bitbucket Server, known on the command
line and in messages as `stash` (its older name) or `bitbucket-server`, and GitHub.  A service
is chosen by a name read with full Unicode lowercasing.
-/

namespace ForgeSync

/-- A kind of hosting service. -/
inductive Service where
  | bitbucket
  | github
  deriving Repr, DecidableEq, Inhabited

namespace Service

/-- The name by which the client reports a service. -/
def name : Service → String
  | .bitbucket => "stash"
  | .github => "github"

/-- The service a name denotes, after full Unicode lowercasing: `github`, or `stash` and
`bitbucket-server` for Bitbucket Server. -/
def ofName? (s : String) : Option Service :=
  let n := Text.lowercaseText s
  if n == "github" then some .github
  else if n == "stash" || n == "bitbucket-server" then some .bitbucket
  else none

end Service

end ForgeSync
