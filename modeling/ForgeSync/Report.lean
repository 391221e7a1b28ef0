import ForgeSync.Client
import ForgeSync.Config
import ForgeSync.Manifest
import ForgeSync.Json.Write
import ForgeSync.Error.Json

/-!
# Reports

JSON views of what the clients work with: hosted objects, the requests a client sends, and
the raw records of each service as the resource kinds keep them.  Optional values are `null`
when absent; levels, visibilities and states are their lowercase words; a raw record carries
the spec it stands for.
-/

namespace ForgeSync

/-- An optional level as JSON. -/
def Json.optLevel (l : Option Level) : Json :=
  match l with
  | some v => .str v.name
  | none => .null

/-- Session data as JSON. -/
def Session.toJson (s : Session) : Json :=
  .obj [("user_id", Json.optStr s.userId), ("session_id", Json.optStr s.sessionId),
    ("request_id", Json.optStr s.requestId)]

/-- An organization as JSON. -/
def Organization.toJson (o : Organization) : Json :=
  .obj [("key", .str o.key), ("name", .str o.name), ("description", Json.optStr o.description),
    ("id", Json.optNat o.id), ("session", o.session.toJson)]

/-- A repository as JSON, with its reference and spec. -/
def Repository.toJson (r : Repository) : Json :=
  .obj [("organization", .str r.organization), ("slug", .str r.slug), ("name", .str r.name),
    ("description", Json.optStr r.description),
    ("default_branch", Json.optStr r.defaultBranch), ("visibility", .str r.visibility.name),
    ("clone_urls", .arr (r.cloneUrls.map .str)), ("id", Json.optNat r.id),
    ("reference", .str r.reference.display), ("spec", r.spec.toJson),
    ("session", r.session.toJson)]

/-- A branch as JSON. -/
def Branch.toJson (b : Branch) : Json :=
  .obj [("name", .str b.name), ("latest_commit", Json.optStr b.latestCommit),
    ("is_default", .bool b.isDefault), ("session", b.session.toJson)]

/-- A commit as JSON, with its time in RFC 3339 and in milliseconds, its summary and its
short id. -/
def Commit.toJson (c : Commit) : Json :=
  .obj [("id", .str c.id), ("message", .str c.message), ("author_name", .str c.authorName),
    ("author_email", Json.optStr c.authorEmail),
    ("timestamp", Json.optStr (c.timestamp.map Instant.rfc3339)),
    ("timestamp_millis", match c.timestamp with
      | some t => .num (.int t.millis)
      | none => .null),
    ("summary", .str c.summary), ("short_id", .str c.shortId), ("session", c.session.toJson)]

/-- A deploy key as JSON, with its spec. -/
def DeployKey.toJson (k : DeployKey) : Json :=
  .obj [("id", .nat k.id), ("label", .str k.label), ("key", .str k.key),
    ("read_only", .bool k.readOnly), ("spec", k.spec.toJson), ("session", k.session.toJson)]

/-- A team's access as JSON, with its spec. -/
def TeamAccess.toJson (t : TeamAccess) : Json :=
  .obj [("team", .str t.team), ("permission", .str t.permission.name), ("spec", t.spec.toJson),
    ("session", t.session.toJson)]

/-- A pull request as JSON, with its spec. -/
def PullRequest.toJson (p : PullRequest) : Json :=
  .obj [("id", .nat p.id), ("version", Json.optNat p.version), ("title", .str p.title),
    ("description", Json.optStr p.description), ("source_branch", .str p.sourceBranch),
    ("target_branch", .str p.targetBranch), ("state", .str p.state.name),
    ("url", Json.optStr p.url), ("spec", p.spec.toJson), ("session", p.session.toJson)]

/-- Text pairs as JSON. -/
def Json.pairs (ps : List (String × String)) : Json :=
  .arr (ps.map (fun (a, b) => .arr [.str a, .str b]))

/-- A request as JSON: method, path, query, body and header overrides. -/
def Request.toJson (r : Request) : Json :=
  .obj [("method", .str r.method.name), ("path", .str r.path), ("query", Json.pairs r.query),
    ("body", r.body.getD .null), ("headers", Json.pairs r.headers)]

/-- A manifest entry as JSON: its type, where it lives, its spec and its display. -/
def Entry.toJson (e : Entry) : Json :=
  match e with
  | .repository o s => .obj [("type", .str "repository"), ("organization", .str o),
      ("spec", s.toJson), ("display", .str e.display)]
  | .deployKey r s => .obj [("type", .str "deploy_key"), ("repository", .str r.display),
      ("spec", s.toJson), ("display", .str e.display)]
  | .teamAccess r s => .obj [("type", .str "team_access"), ("repository", .str r.display),
      ("spec", s.toJson), ("display", .str e.display)]
  | .pullRequest r s => .obj [("type", .str "pull_request"), ("repository", .str r.display),
      ("spec", s.toJson), ("display", .str e.display)]

/-- A manifest error as JSON; a malformed manifest carries no message. -/
def ManifestError.toJson (e : ManifestError) : Json :=
  match e with
  | .unreadable _ _ => .obj [("error", .str "Read"), ("message", .str e.message)]
  | .malformed _ => .obj [("error", .str "Parse")]
  | .invalidEntry _ => .obj [("error", .str "InvalidEntry"), ("message", .str e.message)]

/-- An apply report as JSON: each attempted entry with its outcome and error, and the counts. -/
def ApplyReport.toJson (r : ApplyReport) : Json :=
  .obj [("results", .arr (r.results.map (fun (e, o) =>
      .obj ([("entry", .str e.display), ("outcome", .str o.name)] ++
        match o with
        | .failed err => [("err", err.toJson)]
        | _ => [])))),
    ("changed", .nat r.changed), ("unchanged", .nat r.unchanged), ("failed", .nat r.failed),
    ("success", .bool r.isSuccess)]

/-- Effective settings as JSON, with whether they pass their checks and what client they
make, for an environment that holds no token. -/
def Settings.toJson (s : Settings) : Json :=
  let noEnv : String → Option String := fun _ => none
  let r := s.retryPolicy
  let p := s.pageOptions
  .obj [("invalid", match s.validate with
      | .ok () => .null
      | .error e => .obj [("error", .str "InvalidValue"), ("message", .str e.message)]),
    ("provider_name", .str s.providerName), ("base_url", Json.optStr s.apiRoot),
    ("username", Json.optStr s.username), ("token", Json.optStr (s.effectiveToken noEnv)),
    ("timeout_secs", .nat s.timeout),
    ("retry", .obj [("retry_max", .nat r.retryMax.toNat), ("wait_min_ms", .nat r.waitMin),
      ("wait_max_ms", .nat r.waitMax), ("retryable_statuses", .arr (r.statuses.map .nat)),
      ("with_jitter", .bool r.jitter)]),
    ("pages", .obj [("limit", Json.optNat p.limit), ("max_pages", Json.optNat p.maxPages),
      ("max_items", Json.optNat p.maxItems)]),
    ("create_provider", match s.connect noEnv with
      | .ok (c, _) => .obj [("ok", .str c.name)]
      | .error e => .obj [("err", e.toJson)])]

namespace Bitbucket

/-- A repository record as JSON. -/
def RepoRecord.toJson (r : RepoRecord) : Json :=
  .obj [("id", Json.optNat r.id), ("slug", .str r.slug), ("name", .str r.name),
    ("description", Json.optStr r.description), ("public", .bool r.isPublic),
    ("project_key", .str r.projectKey), ("default_branch", Json.optStr r.defaultBranch),
    ("state", Json.optStr r.state), ("session", r.session.toJson),
    ("spec", (Repo.specOf r).toJson)]

/-- A deploy key record as JSON. -/
def KeyRecord.toJson (k : KeyRecord) : Json :=
  .obj [("id", .nat k.id), ("label", .str k.label), ("text", .str k.text),
    ("permission", .str k.permission.name), ("session", k.session.toJson),
    ("spec", (Key.specOf k).toJson)]

/-- A team grant as JSON. -/
def TeamGrant.toJson (g : TeamGrant) : Json :=
  .obj [("team", .str g.team), ("repository", Json.optLevel g.repository),
    ("project", Json.optLevel g.project), ("effective", Json.optLevel g.effective),
    ("spec", (Access.specOf g).toJson)]

/-- A pull request record as JSON. -/
def PullRecord.toJson (p : PullRecord) : Json :=
  .obj [("id", .nat p.id), ("version", .nat p.version), ("title", .str p.title),
    ("description", Json.optStr p.description), ("state", .str p.state),
    ("from_ref", .str p.fromRef.id), ("to_ref", .str p.toRef.id),
    ("to_ref_display", .str p.toRef.displayId), ("session", p.session.toJson),
    ("spec", (Pull.specOf p).toJson)]

end Bitbucket

namespace GitHub

/-- A repository record as JSON, with its staged fields. -/
def RepoRecord.toJson (r : RepoRecord) : Json :=
  .obj [("id", Json.optNat r.id), ("name", .str r.name),
    ("description", Json.optStr r.description), ("private", .bool r.isPrivate),
    ("visibility", Json.optStr r.visibilityWord),
    ("default_branch", Json.optStr r.defaultBranch), ("owner", .str r.owner),
    ("patch", .obj r.patch), ("session", r.session.toJson), ("spec", (Repo.specOf r).toJson)]

/-- A deploy key record as JSON. -/
def KeyRecord.toJson (k : KeyRecord) : Json :=
  .obj [("id", .nat k.id), ("key", .str k.key), ("title", .str k.title),
    ("read_only", .bool k.readOnly), ("session", k.session.toJson),
    ("spec", (Key.specOf k).toJson)]

/-- A team grant as JSON. -/
def TeamGrant.toJson (g : TeamGrant) : Json :=
  .obj [("team", .str g.team), ("repository", Json.optLevel g.repository),
    ("organization", Json.optLevel g.organization), ("effective", Json.optLevel g.effective),
    ("session", g.session.toJson), ("spec", (Access.specOf g).toJson)]

/-- A pull request record as JSON, with its staged fields. -/
def PullRecord.toJson (p : PullRecord) : Json :=
  .obj [("number", .nat p.number), ("title", .str p.title), ("body", Json.optStr p.body),
    ("state", .str p.state), ("merged_at", Json.optStr p.mergedAt), ("head", .str p.head),
    ("base", .str p.base), ("patch", .obj p.patch), ("session", p.session.toJson),
    ("spec", (Pull.specOf p).toJson)]

end GitHub

end ForgeSync
