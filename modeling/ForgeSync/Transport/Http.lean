import ForgeSync.Context
import ForgeSync.Transport.Message
import ForgeSync.Transport.Retry
import ForgeSync.Transport.Link
import ForgeSync.Transport.Url
import ForgeSync.Text.Utf8

/-!
# The HTTP transport

The client that talks HTTP to a service.  It is built from settings: the service's base
address (a trailing `/` is dropped), credentials, headers sent with every request, a retry
policy and a user agent.  Every request carries `Accept` and `Content-Type` headers for JSON
unless a header of the same name replaces them; names are case-insensitive and kept in
lower case.  Building fails on a malformed header or user agent.

One attempt turns a request into what goes on the wire: a path that is a full `http` or
`https` address is used as it is, any other is joined to the base address; the request's own
headers replace the client's of the same name; the query pairs are added in the form
encoding and the body is written as JSON.  A malformed header, an address that is not well
formed or a token that cannot be sent in a header fails the attempt before anything is sent.
A response with a 2xx status is a success, carrying the session data and the next page named
by its headers; any other status is turned into an error by `classify`.

The network itself is a parameter: it keeps the messages it has carried, and answers the
next one, given those, after some time with a response or a failure.  It also stands for the
rest of the world a request sees: the delays the retry policy's backoff yields, which are
random when the backoff adds jitter.  An attempt sends nothing in a done context; otherwise
its exchange is raced against the context, which ends it when the caller cancels or the
deadline comes first.

The retry loop makes one attempt, and on a failure that the policy retries (a network failure
or a status in its list) waits the next delay of the schedule and tries again.  When the
schedule is used up the last error is wrapped with the number of attempts, unless there was
only one.  A wait fails when the context is done or ends first.  The attempts are counted in
a 32-bit word, as an optimised build counts them, where the count wraps: a policy allowed the
most retries a 32-bit number holds reports its last attempt as attempt 0 (a debug build stops
on the overflow instead).
-/

namespace ForgeSync

/-! ### Headers -/

namespace Header

/-- The characters a header name may hold. -/
def isNameChar (c : Char) : Bool :=
  (c.isAlphanum && c.val < 0x80) || "!#$%&'*+-.^_`|~".contains c

/-- Whether a text is a header name. -/
def validName (name : String) : Bool :=
  !name.isEmpty && name.utf8ByteSize < 65536 && name.toList.all isNameChar

/-- Whether a text can be sent as a header value: no control character but tab. -/
def validValue (value : String) : Bool :=
  value.toList.all (fun c => c == '\t' || (0x20 ≤ c.val && c.val != 0x7F))

/-- Check a header, giving its name in lower case. -/
def pair (name value : String) : Except ApiError (String × String) :=
  if !validName name then
    .error (.invalidRequest ("invalid header name '" ++ name ++ "': invalid HTTP header name"))
  else
    let lower := Text.asciiLower name
    if !validValue value then
      .error (.invalidRequest ("invalid value for header '" ++ lower ++
        "': failed to parse header value"))
    else .ok (lower, value)

/-- Set a header, replacing every header of the same name. -/
def insert (headers : List (String × String)) (h : String × String) : List (String × String) :=
  headers.filter (fun e => e.1 != h.1) ++ [h]

/-- Check headers and set them one after another over the given ones. -/
def insertAll (base : List (String × String)) (given : List (String × String)) :
    Except ApiError (List (String × String)) :=
  given.foldlM (fun hs (n, v) => (pair n v).map (insert hs)) base

/-- The first header of a name, compared without regard to ASCII case. -/
def lookup (headers : List (String × String)) (name : String) : Option String :=
  (headers.find? (fun e => Text.asciiLower e.1 == name)).map (·.2)

/-- The first header of a name whose value is visible ASCII text. -/
def text? (headers : List (String × String)) (name : String) : Option String :=
  (lookup headers name).filter
    (fun v => v.toList.all (fun c => c == '\t' || (0x20 ≤ c.val && c.val < 0x7F)))

end Header

/-- The session data in response headers: Bitbucket Server's user, session and request ids,
and GitHub's request id. -/
def Session.ofHeaders (headers : List (String × String)) : Session where
  userId := Header.text? headers "x-auserid"
  sessionId := Header.text? headers "x-asessionid"
  requestId := (Header.text? headers "x-arequestid").orElse
    (fun _ => Header.text? headers "x-github-request-id")

/-! ### Credentials -/

/-- The base64 alphabet. -/
def base64Char (n : Nat) : Char :=
  if n < 26 then Char.ofNat (65 + n)
  else if n < 52 then Char.ofNat (97 + n - 26)
  else if n < 62 then Char.ofNat (48 + n - 52)
  else if n == 62 then '+' else '/'

/-- Bytes in base64 with padding. -/
def base64 : List UInt8 → List Char
  | a :: b :: c :: rest =>
    let n := (a.toNat * 256 + b.toNat) * 256 + c.toNat
    [base64Char (n / 262144), base64Char (n / 4096 % 64), base64Char (n / 64 % 64),
      base64Char (n % 64)] ++ base64 rest
  | [a, b] =>
    let n := (a.toNat * 256 + b.toNat) * 256
    [base64Char (n / 262144), base64Char (n / 4096 % 64), base64Char (n / 64 % 64), '=']
  | [a] =>
    let n := a.toNat * 65536
    [base64Char (n / 262144), base64Char (n / 4096 % 64), '=', '=']
  | [] => []

/-- Credentials sent with every request. -/
inductive Auth where
  | none
  | bearer (token : String)
  | basic (user password : String)
  deriving Repr, DecidableEq, Inhabited

/-- The authorization header of credentials, or none; fails when a token cannot be sent in
a header. -/
def Auth.header : Auth → Except ApiError (Option (String × String))
  | .none => .ok Option.none
  | .bearer token =>
    let v := "Bearer " ++ token
    if Header.validValue v then .ok (some ("authorization", v))
    else .error (.invalidRequest "builder error")
  | .basic user password =>
    .ok (some ("authorization",
      "Basic " ++ String.ofList (base64 (user ++ ":" ++ password).toUTF8.toList)))

/-! ### Classifying responses -/

/-- The message in an error body: GitHub's `message`, Bitbucket Server's `errors[].message`
joined with `; `, or both; otherwise the body's first 512 characters. -/
def errorMessage (body : List UInt8) : String :=
  let fallback := String.ofList ((Text.decodeLossy body).toList.take 512)
  match Json.parseBytes body with
  | none => fallback
  | some v =>
    let details := ((v.get? "errors").bind Json.asArr?).getD [] |>.filterMap
      (fun e => (e.get? "message").bind Json.asStr?)
    match (v.get? "message").bind Json.asStr? with
    | some m => if details.isEmpty then m else m ++ " (" ++ "; ".intercalate details ++ ")"
    | none => if details.isEmpty then fallback else "; ".intercalate details

/-- The error for a response whose status is not 2xx. -/
def classify (status : Nat) (body : List UInt8) : ApiError :=
  let m := errorMessage body
  if status == 404 then .notFound m
  else if status == 409 then .alreadyExists m
  else if status == 400 then .validation "Bad Request" m
  else if status == 401 || status == 403 then .authFailed m
  else .http status m

/-- Whether the policy retries an error: a network failure, or an error of a status in its
list. -/
def RetryPolicy.retries (p : RetryPolicy) (e : ApiError) : Bool :=
  match e with
  | .network _ => true
  | _ => match e.status with
    | some s => p.retriesStatus s
    | none => false

/-! ### The wire -/

/-- What goes on the wire for one attempt. -/
structure Outgoing where
  method : Method
  url : String
  headers : List (String × String)
  body : Option (List UInt8)
  deriving Inhabited

/-- What comes back over the wire. -/
structure Incoming where
  status : Nat
  headers : List (String × String) := []
  body : List UInt8 := []
  deriving Inhabited

/-- A network: the messages it has carried, how it answers the next one given those it carried
before (after how many milliseconds, and with a response or a failure), and what delays a
backoff yields for a request about to go out, given the messages carried before. -/
structure Network where
  respond : List Outgoing → Outgoing → Nat × Except String Incoming
  backoffDelays : List Outgoing → Backoff → List Nat
  carried : List Outgoing := []

namespace Network

/-- Carry a message: how long the exchange took and its answer, and the network after it. -/
def deliver (net : Network) (out : Outgoing) : (Nat × Except String Incoming) × Network :=
  (net.respond net.carried out, { net with carried := net.carried ++ [out] })

/-- A network on which no connection can be made, with the given backoff delays. -/
def refusing (backoffDelays : List Outgoing → Backoff → List Nat) : Network :=
  { respond := fun _ out => (0, .error ("error sending request for url (" ++ out.url ++ ")")),
    backoffDelays := backoffDelays }

end Network

/-- A response that came over the wire: a success for a 2xx status, an error otherwise. -/
def Incoming.receive (i : Incoming) : Except ApiError Response :=
  if 200 ≤ i.status && i.status < 300 then
    .ok { body := i.body, status := i.status, session := Session.ofHeaders i.headers,
          nextPage := (Header.text? i.headers "link").bind Link.nextPage? }
  else .error (classify i.status i.body)

/-! ### The client -/

/-- The user agent sent unless the settings name another. -/
def defaultUserAgent : String := "gitprovider/0.3.0"

/-- The settings an HTTP client is built from. -/
structure HttpSettings where
  baseUrl : String
  auth : Auth := .none
  headers : List (String × String) := []
  retry : RetryPolicy := {}
  userAgent : String := defaultUserAgent
  deriving Repr, Inhabited

/-- A built HTTP client. -/
structure HttpClient where
  baseUrl : String
  auth : Auth
  headers : List (String × String)
  retry : RetryPolicy
  userAgent : String
  deriving Repr, Inhabited

/-- The headers every client starts from. -/
def jsonHeaders : List (String × String) :=
  [("accept", "application/json"), ("content-type", "application/json")]

/-- Drop a character from the end of a text as often as it is there. -/
def dropTrailing (c : Char) (s : String) : String :=
  String.ofList ((s.toList.reverse.dropWhile (· == c)).reverse)

/-- Build a client: the headers are checked in order, then the user agent. -/
def HttpSettings.build (s : HttpSettings) : Except ApiError HttpClient := do
  let headers ← Header.insertAll jsonHeaders s.headers
  if !Header.validValue s.userAgent then
    throw (.invalidRequest "HTTP client: builder error")
  pure { baseUrl := dropTrailing '/' s.baseUrl, auth := s.auth, headers := headers,
         retry := s.retry, userAgent := s.userAgent }

namespace HttpClient

/-- The address of a path: a full address as it is, any other path joined to the base. -/
def urlFor (c : HttpClient) (path : String) : String :=
  if path.startsWith "http://" || path.startsWith "https://" then path
  else c.baseUrl ++ "/" ++ String.ofList (path.toList.dropWhile (· == '/'))

/-- What one attempt sends, or why it cannot be sent. -/
def prepare (c : HttpClient) (url : String) (req : Request) : Except ApiError Outgoing := do
  let headers ← Header.insertAll c.headers req.headers
  if !Url.valid url then throw (.invalidRequest "builder error")
  let headers :=
    if (Header.lookup headers "user-agent").isSome then headers
    else headers ++ [("user-agent", c.userAgent)]
  let auth ← c.auth.header
  pure { method := req.method, url := Url.withQuery url req.query,
         headers := headers ++ auth.toList, body := req.body.map Json.toBytes }

/-- What came back from an exchange: the response received, or the network's failure. -/
def answerOf : Except String Incoming → Except ApiError Response
  | .error m => .error (.network m)
  | .ok incoming => incoming.receive

/-- One attempt under the caller's context over a network: nothing is sent in a done context,
and a message that cannot be prepared fails before anything is sent; otherwise the message is
delivered and the exchange is raced against the context. -/
def attempt (c : HttpClient) (url : String) (req : Request) :
    StateM (Context × Network) (Except ApiError Response) := do
  let (ctx, net) ← get
  match ctx.check with
  | .error e => pure (.error e)
  | .ok () =>
    match c.prepare url req with
    | .error e => pure (.error e)
    | .ok out =>
      let ((ms, answer), net) := net.deliver out
      let (r, ctx) := ctx.race ms
      set (ctx, net)
      match r with
      | .error e => pure (.error e)
      | .ok () => pure (answerOf answer)

end HttpClient

/-- The retry loop over the remaining delays; `made` counts the attempts made so far, in a
32-bit word that wraps. -/
def retrying (policy : RetryPolicy)
    (attempt : StateM (Context × Network) (Except ApiError Response)) :
    List Nat → UInt32 → StateM (Context × Network) (Except ApiError Response)
  | delays, made => do
    match ← attempt with
    | .ok r => pure (.ok r)
    | .error err =>
      if !policy.retries err then pure (.error err)
      else
        match delays with
        | [] =>
          pure (.error (if made + 1 == 1 then err else .retriesExhausted (made + 1).toNat err))
        | d :: ds => do
          let (ctx, net) ← get
          let (r, ctx) := ctx.sleep d
          set (ctx, net)
          match r with
          | .error e => pure (.error e)
          | .ok () => retrying policy attempt ds (made + 1)

/-- Send a request with retries, waiting between attempts the delays the policy's backoff
yields on the network. -/
def HttpClient.execute (c : HttpClient) (req : Request) :
    StateM (Context × Network) (Except ApiError Response) := do
  let (_, net) ← get
  retrying c.retry (c.attempt (c.urlFor req.path) req)
    (c.retry.schedule (net.backoffDelays net.carried c.retry.backoff)) 0

end ForgeSync
