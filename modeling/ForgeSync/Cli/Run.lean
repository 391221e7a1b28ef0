import ForgeSync.Cli.Command
import ForgeSync.Config
import ForgeSync.Manifest

/-!
# Running a command

A run reads its settings (the file `--config` names, else the first file found in the usual
places, else the defaults), puts `--provider` and `--base-url` over them and checks them
again, makes a client, and carries out the command.  Completion needs none of this.

Listings print one tab-separated line per item.  A failure ends the run with exit code 1 and
`error: ` followed by what was being done and the chain of causes, each after `: `.

`apply` reads a manifest and applies its entries.  Each entry that changed or was already as
wanted is printed with its outcome right-aligned in nine columns, each failure goes to standard
error with its message, and a summary line counts the outcomes and the entries not attempted;
`--quiet` keeps only the failures.  Any failure makes the run fail.
-/

namespace ForgeSync

namespace Cli

/-- What a run sees of its machine: environment variables, the files it may read by path, and
the network its requests go out on, by default one that refuses every connection and whose
backoff yields its delays without jitter. -/
structure Host where
  env : List (String × String) := []
  files : List (String × String) := []
  network : Network := Network.refusing fun _ b => b.steady

namespace Host

/-- The value of an environment variable. -/
def var (h : Host) (name : String) : Option String :=
  (h.env.find? (·.1 == name)).map (·.2)

/-- A relative path without its leading `./` parts. -/
def normalize (path : String) : String :=
  let rec strip : List Char → List Char
    | '.' :: '/' :: rest => strip (rest.dropWhile (· == '/'))
    | cs => cs
  termination_by cs => cs.length
  decreasing_by
    simp only [List.length_cons]
    have h := congrArg List.length (@List.takeWhile_append_dropWhile _ (· == '/') rest)
    simp only [List.length_append] at h
    omega
  String.ofList (strip path.toList)

/-- The text of a file, if it is there. -/
def read (h : Host) (path : String) : Option String :=
  (h.files.find? (fun f => normalize f.1 == normalize path)).map (·.2)

end Host

/-- What a run leaves: its exit code and what it wrote to standard output and standard
error. -/
structure Transcript where
  exit : Nat := 0
  stdout : String := ""
  stderr : String := ""
  deriving Repr, Inhabited

/-- Lines, each ended by a newline. -/
def lines (ls : List String) : String := String.join (ls.map (· ++ "\n"))

/-- A run that printed these lines and succeeded. -/
def Transcript.success (out : List String) : Transcript := { stdout := lines out }

/-- A run that failed with a message. -/
def Transcript.failure (message : String) : Transcript :=
  { exit := 1, stderr := "error: " ++ message ++ "\n" }

/-- A text right-aligned in a width. -/
def padLeft (width : Nat) (s : String) : String :=
  String.ofList (List.replicate (width - s.length) ' ') ++ s

/-! ### Lines of the listings -/

/-- An organization's line: key, name and, when there is one, description. -/
def Organization.line (o : Organization) : String :=
  match o.description with
  | some d => o.key ++ "\t" ++ o.name ++ "\t" ++ d
  | none => o.key ++ "\t" ++ o.name

/-- A repository's line: reference, visibility and description. -/
def Repository.line (r : Repository) : String :=
  r.reference.display ++ "\t" ++ r.visibility.name ++ "\t" ++ r.description.getD ""

/-- A repository's details, one labelled line each. -/
def Repository.details (r : Repository) : List String :=
  ["repository:     " ++ r.reference.display, "name:           " ++ r.name,
    "visibility:     " ++ r.visibility.name, "default branch: " ++ r.defaultBranch.getD "-"] ++
  (r.description.map ("description:    " ++ ·)).toList ++
  r.cloneUrls.map ("clone:          " ++ ·)

/-- A branch's line: a star for the default branch, the name and the latest commit. -/
def Branch.line (b : Branch) : String :=
  (if b.isDefault then "*" else " ") ++ " " ++ b.name ++ "\t" ++ b.latestCommit.getD ""

/-- A commit's line: short id, date, summary and author. -/
def Commit.line (c : Commit) : String :=
  c.shortId ++ " " ++ ((c.timestamp.map Instant.dateText).getD "") ++ " " ++ c.summary ++
    " (" ++ c.authorName ++ ")"

/-- A deploy key's line: id, label, mode and the key in its normal form. -/
def DeployKey.line (k : DeployKey) : String :=
  toString k.id ++ "\t" ++ k.label ++ "\t" ++ (if k.readOnly then "read" else "write") ++ "\t" ++
    normalizePublicKey k.key

/-- A team's line: team and permission. -/
def TeamAccess.line (t : TeamAccess) : String := t.team ++ "\t" ++ t.permission.name

/-- A pull request's details: number and title, state, branches, version, address and, after
a blank line, the description. -/
def PullRequest.details (p : PullRequest) : List String :=
  ["#" ++ toString p.id ++ " " ++ p.title, "state:  " ++ p.state.name,
    "branch: " ++ p.sourceBranch ++ " -> " ++ p.targetBranch] ++
  (p.version.map (fun v => "version: " ++ toString v)).toList ++
  (p.url.map ("url:    " ++ ·)).toList ++
  (match p.description with
    | some d => ["", d]
    | none => [])

/-! ### Running -/

/-- The settings of a run: read, with the options' service and API root put over them, and
checked again. -/
def loadSettings (host : Host) (g : Globals) : Except String Settings := do
  let s ← match Settings.load host.read host.var g.config with
    | .ok s => pure s
    | .error e => throw e.chainMessage
  let s := { s with provider := g.provider.orElse (fun _ => s.provider),
                    baseUrl := g.baseUrl.orElse (fun _ => s.baseUrl) }
  match s.validate with
  | .ok () => pure s
  | .error e => throw ("invalid configuration after applying flags: " ++ e.chainMessage)

/-- The entries of the manifest at a path. -/
def loadEntries (host : Host) (path : String) : Except String (List Entry) := do
  let text ← match host.read path with
    | some t => pure t
    | none => throw ((ManifestError.unreadable path missingFileReason).message ++ ": " ++
        missingFileReason)
  let m ← match Manifest.parse text with
    | .ok m => pure m
    | .error e => throw e.message
  match m.entries with
  | .ok es => pure es
  | .error e => throw ("invalid manifest '" ++ path ++ "': " ++ e.message)

/-- Run a call on a channel: its lines, or a failure that says what was being done. -/
def runCall {α : Type} (ch : Channel) (call : Call Channel α) (doing : String)
    (render : α → List String) : Transcript :=
  match (call.runOn ch).1 with
  | .ok v => .success (render v)
  | .error e => .failure (doing ++ ": " ++ e.chainMessage)

/-- Apply the manifest at a path. -/
def applyManifest (host : Host) (client : Client) (ch : Channel) (path : String)
    (keepGoing quiet : Bool) : Transcript :=
  match loadEntries host path with
  | .error m => .failure m
  | .ok [] => if quiet then {} else .success ["Nothing to apply."]
  | .ok entries =>
    let report := ((client.apply entries keepGoing).run ch).1
    let shown := report.results.filterMap (fun (e, o) =>
      if o.isFailure || quiet then none else some (padLeft 9 o.name ++ "  " ++ e.display))
    let failures := report.results.filterMap (fun (e, o) =>
      match o with
      | .failed x => some (padLeft 9 o.name ++ "  " ++ e.display ++ ": " ++ x.message)
      | _ => none)
    let summary :=
      if quiet then []
      else ["", toString report.changed ++ " changed, " ++ toString report.unchanged ++
        " unchanged, " ++ toString report.failed ++ " failed, " ++
        toString (entries.length - report.results.length) ++ " not attempted"]
    let out := lines (shown ++ summary)
    if report.isSuccess then { stdout := out, stderr := lines failures }
    else
      { exit := 1, stdout := out,
        stderr := lines failures ++ "error: " ++ toString report.failed ++ " of " ++
          toString entries.length ++ " entries failed\n" }

/-- Carry out a command with a client. -/
def dispatch (host : Host) (client : Client) (ch : Channel) (quiet : Bool) :
    Command → Transcript
  | .apply path keepGoing => applyManifest host client ch path keepGoing quiet
  | .orgList =>
    runCall ch client.listOrganizations "failed to list organizations"
      (·.map Organization.line)
  | .orgGet key =>
    runCall ch (client.getOrganization key) ("failed to get organization '" ++ key ++ "'")
      (fun o => [Organization.line o])
  | .orgChildren key =>
    runCall ch (client.organizationChildren key) ("failed to list children of '" ++ key ++ "'")
      (·.map Organization.line)
  | .repoList org =>
    runCall ch (client.listRepositories org) ("failed to list repositories of '" ++ org ++ "'")
      (·.map Repository.line)
  | .repoGet r =>
    runCall ch (client.getRepository r) ("failed to get repository " ++ r.display)
      Repository.details
  | .repoDelete r yes =>
    if !yes then .failure ("refusing to delete " ++ r.display ++ " without --yes")
    else
      runCall ch (client.deleteRepository r) ("failed to delete repository " ++ r.display)
        (fun _ => if quiet then [] else ["Deleted " ++ r.display])
  | .branchList r =>
    runCall ch (client.listBranches r) ("failed to list branches of " ++ r.display)
      (·.map Branch.line)
  | .commitList r branch limit =>
    runCall ch (client.listCommits r branch limit) ("failed to list commits of " ++ r.display)
      (·.map Commit.line)
  | .keyList r =>
    runCall ch (client.listDeployKeys r) ("failed to list deploy keys of " ++ r.display)
      (·.map DeployKey.line)
  | .accessList r =>
    runCall ch (client.listTeamAccess r) ("failed to list team access on " ++ r.display)
      (·.map TeamAccess.line)
  | .prGet r id =>
    runCall ch (client.getPullRequest r id)
      ("failed to get pull request " ++ toString id ++ " on " ++ r.display)
      PullRequest.details
  | .completion _ => {}

/-- Run an invocation on a host. -/
def Invocation.execute (host : Host) (inv : Invocation) : Transcript :=
  match inv.command with
  | .completion _ => {}
  | command =>
    match loadSettings host inv.globals with
    | .error m => .failure m
    | .ok s =>
      match s.connect host.var with
      | .error e => .failure ("failed to create provider: " ++ e.chainMessage)
      | .ok (client, http) =>
        dispatch host client { transport := .http http host.network } inv.globals.quiet command

/-- The files a run may read: the configuration file the options name, or the places one is
looked for, and the manifest of `apply`. -/
def Invocation.reads (inv : Invocation) (env : String → Option String) : List String :=
  (match inv.globals.config with
    | some p => [p]
    | none => configCandidates env) ++
  (match inv.command with
    | .apply m _ => [m]
    | _ => [])

/-- The outcome of a whole call of the program whose arguments could not be read: nothing
printed, and the stop's exit code. -/
def Stop.transcript (s : Stop) : Transcript := { exit := s.exitCode }

end Cli

end ForgeSync
