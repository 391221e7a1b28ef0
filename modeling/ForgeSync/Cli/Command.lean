import ForgeSync.Spec

/-!
# The command line

The program is called with global options and a command.  The global options (`--config PATH`,
`--provider NAME`, `--base-url URL`, `--debug`, `--quiet`/`-q`) may stand before the command
or anywhere after it; each may be given once at each level, and a later level's value wins.
`--help`/`-h` stops reading at any level, `--version`/`-V` only before the command.

The commands are `apply MANIFEST [--keep-going]`, `org list|get KEY|children KEY`,
`repo list ORG|get ORG/SLUG|delete ORG/SLUG [--yes]`, `branch list ORG/SLUG`,
`commit list ORG/SLUG [--branch B] [--limit N|-n N]`, `key list ORG/SLUG`,
`access list ORG/SLUG`, `pr get ORG/SLUG ID` and `completion SHELL`; a command with
subcommands also has `help`, which names a path of subcommands.

Arguments are read left to right and every value is checked as it is read, so the first
fault, or the first request for help, decides the outcome.  A long option takes its value
after `=` or as the next argument, a short one also right after its letter; a value may not
look like an option, and a word that names a subcommand is taken as the value.  After `--` every argument is a positional one; an argument starting with
`-` (other than `-` alone) is an option, so a negative number is refused.  Numbers are
unsigned decimals with an optional `+`.
-/

namespace ForgeSync

namespace Cli

/-- A shell that completion scripts are written for. -/
inductive Shell where
  | bash
  | zsh
  | fish
  | powerShell
  deriving Repr, DecidableEq, Inhabited

/-- The shell a word names. -/
def Shell.ofName? : String → Option Shell
  | "bash" => some .bash
  | "zsh" => some .zsh
  | "fish" => some .fish
  | "power-shell" => some .powerShell
  | _ => none

/-- A command of the command line. -/
inductive Command where
  | apply (manifest : String) (keepGoing : Bool)
  | orgList
  | orgGet (key : String)
  | orgChildren (key : String)
  | repoList (organization : String)
  | repoGet (repository : RepositoryRef)
  | repoDelete (repository : RepositoryRef) (yes : Bool)
  | branchList (repository : RepositoryRef)
  | commitList (repository : RepositoryRef) (branch : Option String) (limit : Option Nat)
  | keyList (repository : RepositoryRef)
  | accessList (repository : RepositoryRef)
  | prGet (repository : RepositoryRef) (id : Nat)
  | completion (shell : Shell)
  deriving Repr, Inhabited

/-- The options every command takes. -/
structure Globals where
  config : Option String := none
  provider : Option String := none
  baseUrl : Option String := none
  debug : Bool := false
  quiet : Bool := false
  deriving Repr, Inhabited

/-- A call of the program: its global options and its command. -/
structure Invocation where
  globals : Globals := {}
  command : Command
  deriving Repr, Inhabited

/-- Why reading the arguments stopped without a command: help or the version was asked for,
or the arguments are wrong. -/
inductive Stop where
  | help
  | version
  | error (message : String)
  deriving Repr, DecidableEq, Inhabited

/-- The exit code of a stop: 0 for help and the version, 2 for wrong arguments. -/
def Stop.exitCode : Stop → Nat
  | .help => 0
  | .version => 0
  | .error _ => 2

/-! ### The grammar -/

/-- The subcommands of the command at a path, or none for a command that takes arguments. -/
def subcommands : List String → Option (List String)
  | [] => some ["apply", "org", "repo", "branch", "commit", "key", "access", "pr", "completion",
      "help"]
  | ["org"] => some ["list", "get", "children", "help"]
  | ["repo"] => some ["list", "get", "delete", "help"]
  | ["branch"] => some ["list", "help"]
  | ["commit"] => some ["list", "help"]
  | ["key"] => some ["list", "help"]
  | ["access"] => some ["list", "help"]
  | ["pr"] => some ["get", "help"]
  | _ => none

/-- What a positional argument holds. -/
inductive Slot where
  | text
  | path
  | repository
  | number
  | shell
  deriving Repr, DecidableEq, Inhabited

/-- The positional arguments of the command at a path. -/
def slots : List String → List Slot
  | ["apply"] => [.path]
  | ["org", "get"] => [.text]
  | ["org", "children"] => [.text]
  | ["repo", "list"] => [.text]
  | ["repo", "get"] => [.repository]
  | ["repo", "delete"] => [.repository]
  | ["branch", "list"] => [.repository]
  | ["commit", "list"] => [.repository]
  | ["key", "list"] => [.repository]
  | ["access", "list"] => [.repository]
  | ["pr", "get"] => [.repository, .number]
  | ["completion"] => [.shell]
  | _ => []

/-- Whether the long option `name` of the command at a path takes a value; none when the
command has no such option. -/
def takesValue (path : List String) (name : String) : Option Bool :=
  if name == "config" || name == "provider" || name == "base-url" then some true
  else if name == "debug" || name == "quiet" || name == "help" then some false
  else if name == "version" && path.isEmpty then some false
  else
    match path, name with
    | ["apply"], "keep-going" => some false
    | ["repo", "delete"], "yes" => some false
    | ["commit", "list"], "branch" => some true
    | ["commit", "list"], "limit" => some true
    | _, _ => none

/-- The long option a short letter stands for at a path. -/
def shortOption (path : List String) (c : Char) : Option String :=
  if c == 'q' then some "quiet"
  else if c == 'h' then some "help"
  else if c == 'V' && path.isEmpty then some "version"
  else if c == 'n' && path == ["commit", "list"] then some "limit"
  else none

/-- An unsigned decimal number with an optional `+`, below `2^64`. -/
def parseUnsigned (s : String) : Option Nat :=
  let ds := match s.toList with
    | '+' :: rest => rest
    | cs => cs
  if !ds.isEmpty && ds.all Char.isDigit then
    let n := ds.foldl (fun n c => n * 10 + (c.toNat - '0'.toNat)) 0
    if n < Nat.pow 2 64 then some n else none
  else none

/-- Whether an argument looks like an option. -/
def looksLikeOption (s : String) : Bool := s.startsWith "-" && s != "-"

/-! ### Reading the arguments -/

/-- A checked positional value. -/
inductive Positional where
  | text (s : String)
  | repository (r : RepositoryRef)
  | number (n : Nat)
  | shell (s : Shell)
  deriving Repr, Inhabited

/-- Check a positional value for its slot. -/
def Slot.read (slot : Slot) (s : String) : Except Stop Positional :=
  match slot with
  | .text => .ok (.text s)
  | .path =>
    if s.isEmpty then .error (.error "a value is required for 'MANIFEST' but none was supplied")
    else .ok (.text s)
  | .repository =>
    match RepositoryRef.parse s with
    | .ok r => .ok (.repository r)
    | .error m => .error (.error ("invalid value '" ++ s ++ "': " ++ m))
  | .number =>
    match parseUnsigned s with
    | some n => .ok (.number n)
    | none => .error (.error ("invalid value '" ++ s ++ "': invalid digit found in string"))
  | .shell =>
    match Shell.ofName? s with
    | some sh => .ok (.shell sh)
    | none => .error (.error ("invalid value '" ++ s ++ "' for '<SHELL>'"))

/-- How far the reading of the arguments has come. -/
structure Reading where
  path : List String := []
  globals : Globals := {}
  given : List String := []
  branch : Option String := none
  limit : Option Nat := none
  yes : Bool := false
  keepGoing : Bool := false
  positionals : List Positional := []
  pending : Option String := none
  trailing : Bool := false
  deriving Inhabited

namespace Reading

/-- Note that an option was given at this level; a second time is a fault. -/
def give (r : Reading) (name : String) : Except Stop Reading :=
  if r.given.contains name then
    .error (.error ("the argument '--" ++ name ++ "' cannot be used multiple times"))
  else .ok { r with given := name :: r.given }

/-- Take a flag. -/
def flag (r : Reading) (name : String) : Except Stop Reading := do
  if name == "help" then throw .help
  if name == "version" then throw .version
  let r ← r.give name
  match name with
  | "debug" => pure { r with globals := { r.globals with debug := true } }
  | "quiet" => pure { r with globals := { r.globals with quiet := true } }
  | "yes" => pure { r with yes := true }
  | "keep-going" => pure { r with keepGoing := true }
  | _ => throw (.error ("unexpected argument '--" ++ name ++ "'"))

/-- Take the value of an option. -/
def value (r : Reading) (name v : String) : Except Stop Reading := do
  let r ← r.give name
  let g := r.globals
  match name with
  | "config" =>
    if v.isEmpty then throw (.error "a value is required for '--config <PATH>'")
    pure { r with globals := { g with config := some v } }
  | "provider" => pure { r with globals := { g with provider := some v } }
  | "base-url" => pure { r with globals := { g with baseUrl := some v } }
  | "branch" => pure { r with branch := some v }
  | "limit" =>
    match parseUnsigned v with
    | some n => pure { r with limit := some n }
    | none => throw (.error ("invalid value '" ++ v ++ "' for '--limit <LIMIT>'"))
  | _ => throw (.error ("unexpected argument '--" ++ name ++ "'"))

/-- Take a long option, written without its dashes. -/
def long (r : Reading) (body : String) : Except Stop Reading :=
  let (name, attached) : String × Option String :=
    match body.toList.splitOn '=' with
    | [n] => (String.ofList n, none)
    | n :: rest => (String.ofList n, some (String.ofList (List.intercalate ['='] rest)))
    | [] => (body, none)
  match takesValue r.path name, attached with
  | none, _ => .error (.error ("unexpected argument '--" ++ name ++ "' found"))
  | some false, none => r.flag name
  | some false, some _ => .error (.error ("unexpected value for '--" ++ name ++ "'"))
  | some true, some v => r.value name v
  | some true, none => .ok { r with pending := some name }

/-- Take a cluster of short options, written without its dash. -/
def short (r : Reading) : List Char → Except Stop Reading
  | [] => .ok r
  | c :: rest =>
    match shortOption r.path c with
    | none => .error (.error ("unexpected argument '-" ++ c.toString ++ "' found"))
    | some name =>
      if takesValue r.path name == some true then
        match rest with
        | [] => .ok { r with pending := some name }
        | '=' :: v => r.value name (String.ofList v)
        | v => r.value name (String.ofList v)
      else do
        let r ← r.flag name
        short r rest

/-- Take a positional argument: a subcommand where one is expected, else the next slot's
value. -/
def positional (r : Reading) (s : String) : Except Stop Reading :=
  match subcommands r.path with
  | some names =>
    if names.contains s then .ok { r with path := r.path ++ [s], given := [] }
    else .error (.error ("unrecognized subcommand '" ++ s ++ "'"))
  | none =>
    match (slots r.path)[r.positionals.length]? with
    | some slot => do
      let p ← slot.read s
      pure { r with positionals := r.positionals ++ [p] }
    | none => .error (.error ("unexpected argument '" ++ s ++ "' found"))

/-- The command the reading has arrived at, once every argument is read. -/
def command (r : Reading) : Except Stop Command :=
  let missing := Stop.error "the following required arguments were not provided"
  match r.path, r.positionals with
  | ["apply"], [.text m] => .ok (.apply m r.keepGoing)
  | ["org", "list"], [] => .ok .orgList
  | ["org", "get"], [.text k] => .ok (.orgGet k)
  | ["org", "children"], [.text k] => .ok (.orgChildren k)
  | ["repo", "list"], [.text o] => .ok (.repoList o)
  | ["repo", "get"], [.repository x] => .ok (.repoGet x)
  | ["repo", "delete"], [.repository x] => .ok (.repoDelete x r.yes)
  | ["branch", "list"], [.repository x] => .ok (.branchList x)
  | ["commit", "list"], [.repository x] => .ok (.commitList x r.branch r.limit)
  | ["key", "list"], [.repository x] => .ok (.keyList x)
  | ["access", "list"], [.repository x] => .ok (.accessList x)
  | ["pr", "get"], [.repository x, .number n] => .ok (.prGet x n)
  | ["completion"], [.shell s] => .ok (.completion s)
  | path, _ =>
    if (subcommands path).isSome then .error (.error "a subcommand is required") else .error missing

end Reading

/-- Read the names after `help`: a path of subcommands, whose help is then asked for. -/
def helpPath (path : List String) : List String → Stop
  | [] => .help
  | s :: rest =>
    if ((subcommands path).getD []).contains s then helpPath (path ++ [s]) rest
    else .error ("unrecognized subcommand '" ++ s ++ "'")

/-- Read the remaining arguments. -/
def readArgs (r : Reading) : List String → Except Stop Reading
  | [] =>
    match r.pending with
    | some name => .error (.error ("a value is required for '--" ++ name ++ "'"))
    | none => .ok r
  | a :: rest =>
    match r.pending with
    | some name =>
      if a == "--" || looksLikeOption a then
        .error (.error ("a value is required for '--" ++ name ++ "'"))
      else do
        let r ← { r with pending := none }.value name a
        readArgs r rest
    | none =>
      if r.trailing then do
        if (subcommands r.path).isSome then
          throw (.error ("unexpected argument '" ++ a ++ "' found"))
        let r ← r.positional a
        readArgs r rest
      else if a == "--" then readArgs { r with trailing := true } rest
      else if a.startsWith "--" then do
        let r ← r.long (String.ofList (a.toList.drop 2))
        readArgs r rest
      else if looksLikeOption a then do
        let r ← r.short (a.toList.drop 1)
        readArgs r rest
      else if a == "help" && (subcommands r.path).isSome then .error (helpPath r.path rest)
      else do
        let r ← r.positional a
        readArgs r rest

/-- Read the arguments after the program's name. -/
def Invocation.parse (args : List String) : Except Stop Invocation := do
  if args.isEmpty then throw (.error "a subcommand is required")
  let r ← readArgs {} args
  let command ← r.command
  pure { globals := r.globals, command }

end Cli

end ForgeSync
