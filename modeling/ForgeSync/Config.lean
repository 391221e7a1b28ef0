import ForgeSync.Toml.Read
import ForgeSync.Toml.Shape
import ForgeSync.Toml.Excerpt
import ForgeSync.Client

/-!
# Configuration

A configuration file is TOML and names the service, its API root, the credentials, a timeout,
retry settings (`[retry]`) and paging settings (`[pagination]`).  Every field may be absent
and no other field may be present.  Values are checked once the file is read:

* the service, if named, is one of `github`, `stash`, `bitbucket-server` after lowercasing;
* the API root, if given, starts with `https://` or `http://`;
* the timeout is not zero;
* the shortest retry wait is not above the longest, and retried statuses lie in 100–599;
* the page size and the page budget are not zero.

The effective settings come from the file over defaults: the service `github`, GitHub's public
API root for GitHub only, a 30 second timeout, four retries waiting 1 to 30 seconds on 429 and
the 5xx gateway statuses, and no paging limits.  The token is the file's, else the one in the
environment variable the file names (by default `GITPROVIDER_TOKEN`) when it is not empty.

A client is made from the effective settings: Bitbucket Server with a user name and a token
authenticates by password, any other token is a bearer token, and each service has headers of
its own on every request.
-/

namespace ForgeSync

/-- Retry settings as a file gives them. -/
structure RetrySettings where
  max : Option Nat := none
  waitMinMs : Option Nat := none
  waitMaxMs : Option Nat := none
  statuses : Option (List Nat) := none
  deriving Repr, DecidableEq, Inhabited

/-- Paging settings as a file gives them. -/
structure PageSettings where
  limit : Option Nat := none
  maxPages : Option Nat := none
  deriving Repr, DecidableEq, Inhabited

/-- The settings of a configuration file. -/
structure Settings where
  provider : Option String := none
  baseUrl : Option String := none
  username : Option String := none
  token : Option String := none
  tokenEnv : Option String := none
  timeoutSecs : Option Nat := none
  retry : Option RetrySettings := none
  pagination : Option PageSettings := none
  deriving Repr, DecidableEq, Inhabited

/-- Why a configuration cannot be used. -/
inductive ConfigError where
  | unreadable (path reason : String)
  | malformed (path message : String)
  | invalidValue (message : String)
  deriving Repr, DecidableEq, Inhabited

/-- The message of a configuration error. -/
def ConfigError.message : ConfigError → String
  | .unreadable p r => "failed to read config file '" ++ p ++ "': " ++ r
  | .malformed p m => "failed to parse config file '" ++ p ++ "': " ++ m
  | .invalidValue m => "invalid config value: " ++ m

/-- The message of a configuration error followed by its cause's, as a report of a chain of
causes reads: an unreadable file repeats the system's reason. -/
def ConfigError.chainMessage (e : ConfigError) : String :=
  match e with
  | .unreadable _ r => e.message ++ ": " ++ r
  | _ => e.message

/-- The service names a configuration accepts. -/
def serviceNames : List String := ["github", "stash", "bitbucket-server"]

/-- The API root GitHub has when none is configured. -/
def gitHubApiRoot : String := "https://api.github.com"

/-- The variable that holds a token when the configuration names none. -/
def tokenVariable : String := "GITPROVIDER_TOKEN"

/-! ### Reading -/

/-- Refuse a count given as zero; the message names the field. -/
def checkNonZero (field : String) (v : Option Nat) : Except ConfigError Unit :=
  if v == some 0 then throw (.invalidValue (field ++ " must be greater than zero")) else pure ()

namespace RetrySettings

/-- The shape of retry settings in a file: every field may be absent. -/
def shape : Toml.Shape :=
  .record "RetrySettings"
    [("max", .defaulted, .count (Nat.pow 2 32) "u32"),
      ("wait_min_ms", .defaulted, .count (Nat.pow 2 64) "u64"),
      ("wait_max_ms", .defaulted, .count (Nat.pow 2 64) "u64"),
      ("retryable_statuses", .defaulted, .list (.count (Nat.pow 2 16) "u16"))]

/-- Retry settings from a value of their shape. -/
def ofValue (v : Toml.Value) : RetrySettings :=
  let get (name : String) := v.field? shape.names name
  { max := (get "max").bind Toml.Value.count?
    waitMinMs := (get "wait_min_ms").bind Toml.Value.count?
    waitMaxMs := (get "wait_max_ms").bind Toml.Value.count?
    statuses := (get "retryable_statuses").map (·.items.filterMap Toml.Value.count?) }

/-- Check the order of the two waits, when both are given. -/
def checkWaits : Option Nat → Option Nat → Except ConfigError Unit
  | some lo, some hi =>
    if hi < lo then
      throw (.invalidValue ("retry.wait_min_ms (" ++ toString lo ++
        ") is greater than retry.wait_max_ms (" ++ toString hi ++ ")"))
    else pure ()
  | _, _ => pure ()

/-- Check that every retried status lies in 100–599; the first one outside is named. -/
def checkStatuses (statuses : List Nat) : Except ConfigError Unit :=
  match statuses.find? (fun s => s < 100 || 599 < s) with
  | some bad =>
    throw (.invalidValue ("retry.retryable_statuses contains invalid status " ++ toString bad))
  | none => pure ()

/-- Check the waits' order and the statuses' range. -/
def validate (r : RetrySettings) : Except ConfigError Unit := do
  checkWaits r.waitMinMs r.waitMaxMs
  checkStatuses (r.statuses.getD [])

/-- The retry policy these settings make over the default one. -/
def policy (r : RetrySettings) : RetryPolicy :=
  let d : RetryPolicy := {}
  { retryMax := (r.max.map Nat.toUInt32).getD d.retryMax, waitMin := r.waitMinMs.getD d.waitMin,
    waitMax := r.waitMaxMs.getD d.waitMax, statuses := r.statuses.getD d.statuses,
    jitter := d.jitter }

end RetrySettings

namespace PageSettings

/-- The shape of paging settings in a file: every field may be absent. -/
def shape : Toml.Shape :=
  .record "PaginationSettings"
    [("limit", .defaulted, .count (Nat.pow 2 64) "u64"),
      ("max_pages", .defaulted, .count (Nat.pow 2 64) "usize")]

/-- Paging settings from a value of their shape. -/
def ofValue (v : Toml.Value) : PageSettings :=
  let get (name : String) := v.field? shape.names name
  { limit := (get "limit").bind Toml.Value.count?
    maxPages := (get "max_pages").bind Toml.Value.count? }

/-- Check that neither limit is zero. -/
def validate (p : PageSettings) : Except ConfigError Unit := do
  checkNonZero "pagination.limit" p.limit
  checkNonZero "pagination.max_pages" p.maxPages

/-- The paging options these settings make. -/
def options (p : PageSettings) : PageOptions :=
  { limit := p.limit, maxPages := p.maxPages, maxItems := none }

end PageSettings

namespace Settings

/-- The shape of a configuration file: every field may be absent. -/
def shape : Toml.Shape :=
  .record "ProviderConfig"
    [("provider", .defaulted, .text), ("base_url", .defaulted, .text),
      ("username", .defaulted, .text), ("token", .defaulted, .text),
      ("token_env", .defaulted, .text), ("timeout_secs", .defaulted, .count (Nat.pow 2 64) "u64"),
      ("retry", .defaulted, RetrySettings.shape), ("pagination", .defaulted, PageSettings.shape)]

/-- Settings from a value of their shape. -/
def ofValue (v : Toml.Value) : Settings :=
  let get (name : String) := v.field? shape.names name
  let text (name : String) := (get name).bind Toml.Value.text?
  { provider := text "provider", baseUrl := text "base_url", username := text "username"
    token := text "token", tokenEnv := text "token_env"
    timeoutSecs := (get "timeout_secs").bind Toml.Value.count?
    retry := (get "retry").map RetrySettings.ofValue
    pagination := (get "pagination").map PageSettings.ofValue }

/-- Read settings from the text of a file; the fault says why they cannot be read. -/
def parse (text : String) : Except Toml.Fault Settings := do
  let v ← Toml.read text
  Toml.conform shape v
  pure (ofValue v)

/-- Check a named service: after lowercasing it must be one of the accepted names. -/
def checkProvider : Option String → Except ConfigError Unit
  | some p =>
    if !serviceNames.contains (Text.lowercaseText p) then
      throw (.invalidValue ("invalid provider '" ++ p ++ "', must be one of: " ++
        ", ".intercalate serviceNames))
    else pure ()
  | none => pure ()

/-- Check an API root: it must be an `https://` or `http://` address. -/
def checkBaseUrl : Option String → Except ConfigError Unit
  | some url =>
    if !(url.startsWith "https://" || url.startsWith "http://") then
      throw (.invalidValue ("base_url '" ++ url ++ "' must start with http:// or https://"))
    else pure ()
  | none => pure ()

/-- Check the values that are given, in the order the file's fields are described. -/
def validate (s : Settings) : Except ConfigError Unit := do
  checkProvider s.provider
  checkBaseUrl s.baseUrl
  checkNonZero "timeout_secs" s.timeoutSecs
  s.retry.forM RetrySettings.validate
  s.pagination.forM PageSettings.validate

/-! ### Effective settings -/

/-- The name of the service, `github` unless one is given. -/
def providerName (s : Settings) : String := s.provider.getD "github"

/-- The API root: the one given, else GitHub's public one when the service is GitHub by ASCII
case-insensitive name. -/
def apiRoot (s : Settings) : Option String :=
  match s.baseUrl with
  | some url => some url
  | none => if Text.asciiLower s.providerName == "github" then some gitHubApiRoot else none

/-- The token: the one given, else a non-empty value of the variable named for it. -/
def effectiveToken (s : Settings) (env : String → Option String) : Option String :=
  match s.token with
  | some t => some t
  | none => (env (s.tokenEnv.getD tokenVariable)).filter (fun t => !t.isEmpty)

/-- The timeout of one attempt, in seconds. -/
def timeout (s : Settings) : Nat := s.timeoutSecs.getD 30

/-- The retry policy. -/
def retryPolicy (s : Settings) : RetryPolicy :=
  match s.retry with
  | some r => r.policy
  | none => {}

/-- The paging options. -/
def pageOptions (s : Settings) : PageOptions :=
  match s.pagination with
  | some p => p.options
  | none => {}

/-- How requests authenticate: by password on Bitbucket Server with a user name and a token,
else by bearer token when there is one. -/
def auth (s : Settings) (service : Service) (env : String → Option String) : Auth :=
  match service, s.username, s.effectiveToken env with
  | .bitbucket, some user, some token => .basic user token
  | _, _, some token => .bearer token
  | _, _, none => .none

end Settings

/-- The headers every request to a service carries. -/
def Service.defaultHeaders : Service → List (String × String)
  | .github => [("Accept", "application/vnd.github+json"), ("X-GitHub-Api-Version", "2022-11-28")]
  | .bitbucket => [("X-Atlassian-Token", "no-check")]

/-- Make a client and its HTTP client from settings: the service must be known and have an
API root. -/
def Settings.connect (s : Settings) (env : String → Option String) :
    Except ApiError (Client × HttpClient) := do
  let name := s.providerName
  let service ← match Service.ofName? name with
    | some k => pure k
    | none => throw (.invalidRequest ("unknown provider '" ++ name ++
        "', available providers: " ++ ", ".intercalate serviceNames))
  let baseUrl ← match s.apiRoot with
    | some url => pure url
    | none => throw (.invalidRequest ("no base_url configured for provider '" ++
        service.name ++ "'"))
  let settings : HttpSettings :=
    { baseUrl := baseUrl, auth := s.auth service env, headers := service.defaultHeaders,
      retry := s.retryPolicy }
  let http ← settings.build
  pure ({ service, pages := s.pageOptions }, http)

/-! ### Finding the file -/

/-- A path joined to a directory; an empty directory or one ending in a slash takes no
separator. -/
def joinPath (dir file : String) : String :=
  if dir.isEmpty || dir.endsWith "/" then dir ++ file else dir ++ "/" ++ file

/-- Where a configuration file is looked for, in order: the file the variable
`GITPROVIDER_CONFIG` names, then `gitprovider/config.toml` under `XDG_CONFIG_HOME`, then
`.gitprovider/config.toml` under the home directory. -/
def configCandidates (env : String → Option String) : List String :=
  (env "GITPROVIDER_CONFIG").toList ++
    ((env "XDG_CONFIG_HOME").map (joinPath · "gitprovider/config.toml")).toList ++
    (((env "HOME").filter (!·.isEmpty)).map (joinPath · ".gitprovider/config.toml")).toList

/-- The message the system gives for a file that is not there. -/
def missingFileReason : String := "No such file or directory (os error 2)"

/-- Read and check the settings of a file. -/
def Settings.loadFrom (read : String → Option String) (path : String) :
    Except ConfigError Settings := do
  let text ← match read path with
    | some t => pure t
    | none => throw (.unreadable path missingFileReason)
  let s ← match Settings.parse text with
    | .ok s => pure s
    | .error f => throw (.malformed path (f.render text))
  s.validate
  pure s

/-- The settings from the file a path names, else from the first file found in the usual
places, else the defaults. -/
def Settings.load (read : String → Option String) (env : String → Option String)
    (explicit : Option String) : Except ConfigError Settings :=
  match explicit with
  | some path => Settings.loadFrom read path
  | none =>
    match (configCandidates env).find? (fun p => (read p).isSome) with
    | some path => Settings.loadFrom read path
    | none => .ok {}

end ForgeSync
