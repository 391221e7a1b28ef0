import ForgeSync.Cli.Run

/-!
# The program

Reads its arguments, then the environment variables and files a run may need, runs the
command, prints what it wrote and exits with its code.  Requests go out on a network on which
no connection can be made.
-/

open ForgeSync Cli

/-- The environment variables a run may consult before its settings are read. -/
def baseVariables : List String :=
  ["GITPROVIDER_CONFIG", "XDG_CONFIG_HOME", "HOME", "GITPROVIDER_TOKEN"]

/-- The variables among `names` that are set, with their values. -/
def readVariables (names : List String) : IO (List (String × String)) := do
  let mut out : List (String × String) := []
  for n in names do
    if let some v ← IO.getEnv n then out := out ++ [(n, v)]
  return out

/-- The files among `paths` that can be read, with their text. -/
def readFiles (paths : List String) : IO (List (String × String)) := do
  let mut out : List (String × String) := []
  for p in paths do
    try
      let text ← IO.FS.readFile p
      out := out ++ [(p, text)]
    catch _ => pure ()
  return out

/-- What `--help` prints. -/
def usage : String :=
  "Reconcile repositories, keys, access and pull requests on GitHub and Bitbucket Server\n\n" ++
  "Usage: gitprovider [OPTIONS] <COMMAND>\n\n" ++
  "Commands:\n" ++
  "  apply       Reconcile every entry of a desired-state manifest\n" ++
  "  org         Organizations (GitHub) or projects (Bitbucket Server)\n" ++
  "  repo        Repositories\n" ++
  "  branch      Branches\n" ++
  "  commit      Commits\n" ++
  "  key         Deploy keys\n" ++
  "  access      Team access grants\n" ++
  "  pr          Pull requests\n" ++
  "  completion  Generate shell completion scripts\n" ++
  "  help        Print this message or the help of the given subcommand(s)\n\n" ++
  "Options:\n" ++
  "      --config <PATH>        Read configuration from this file\n" ++
  "      --provider <PROVIDER>  Provider to talk to (github, stash, bitbucket-server)\n" ++
  "      --base-url <URL>       API root URL of the provider\n" ++
  "      --debug                Enable debug logging\n" ++
  "  -q, --quiet                Minimal output\n" ++
  "  -h, --help                 Print help\n" ++
  "  -V, --version              Print version"

/-- Run the command line. -/
def main (args : List String) : IO UInt32 := do
  match Invocation.parse args with
  | .error .help =>
    IO.println usage
    return 0
  | .error .version =>
    IO.println "gitprovider 0.3.0"
    return 0
  | .error (.error m) =>
    IO.eprintln ("error: " ++ m)
    return 2
  | .ok inv =>
    let env ← readVariables baseVariables
    let files ← readFiles (inv.reads (fun n => (env.find? (·.1 == n)).map (·.2)))
    let tokenVars := match loadSettings { env, files } inv.globals with
      | .ok s => s.tokenEnv.toList
      | .error _ => []
    let env := env ++ (← readVariables tokenVars)
    let t := inv.execute { env, files }
    IO.print t.stdout
    IO.eprint t.stderr
    return t.exit.toUInt32
