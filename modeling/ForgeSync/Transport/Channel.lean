import ForgeSync.Call
import ForgeSync.Transport.Http

/-!
# Channels

A channel is the world a service client runs against: the caller's context and the transport
that carries its requests.  The transport is either HTTP over a network, or a replay of
scripted answers, which stands in for a service in tests of the clients.

A replay checks the context before anything else and fails without recording when the
context is done.  Otherwise it records the request and answers with the next scripted entry,
a response or an error; with no entry left it fails.  It can cancel the context once a given
number of requests has been recorded, which lets a test stop a client in the middle of its
work: the request that reaches the number still gets its answer.
-/

namespace ForgeSync

/-- Scripted answers and the requests recorded so far. -/
structure Replay where
  script : List (Except ApiError Response)
  recorded : List Request := []
  cancelAfter : Option Nat := none
  deriving Inhabited

/-- What carries a client's requests. -/
inductive Transport where
  | replay (r : Replay)
  | http (client : HttpClient) (network : Network)

instance : Inhabited Transport := ⟨.replay default⟩

/-- The caller's context and a transport. -/
structure Channel where
  context : Context := {}
  transport : Transport
  deriving Inhabited

namespace Replay

/-- Answer a request in a context: the answer, the replay after it and the context after
it. -/
def answer (r : Replay) (ctx : Context) (req : Request) :
    Except ApiError Response × Replay × Context :=
  match ctx.check with
  | .error e => (.error e, r, ctx)
  | .ok () =>
    let recorded := r.recorded ++ [req]
    let ctx := if r.cancelAfter == some recorded.length then ctx.cancel else ctx
    match r.script with
    | [] => (.error (.invalidRequest "script exhausted"), { r with recorded }, ctx)
    | next :: rest => (next, { r with recorded, script := rest }, ctx)

end Replay

namespace Channel

/-- Send a request over the channel. -/
def send (req : Request) : Call Channel Response := do
  let ch ← get
  match ch.transport with
  | .replay r =>
    let (res, r, ctx) := r.answer ch.context req
    set { ch with transport := .replay r, context := ctx }
    Call.ofExcept res
  | .http client net =>
    let (res, ctx, net) := (client.execute req).run (ch.context, net)
    set { ch with transport := .http client net, context := ctx }
    Call.ofExcept res

/-- Send a request and read the response's body as a record, with the response's session
data. -/
def fetch {α : Type} (req : Request) (read : Json → Json.Decoded α) : Call Channel (α × Session) := do
  let r ← send req
  let v ← Call.ofExcept (r.decode read)
  pure (v, r.session)

/-- The requests recorded so far, for a replay. -/
def recorded (ch : Channel) : List Request :=
  match ch.transport with
  | .replay r => r.recorded
  | .http _ _ => []

/-- The scripted answers left, for a replay. -/
def unused (ch : Channel) : Nat :=
  match ch.transport with
  | .replay r => r.script.length
  | .http _ _ => 0

end Channel

end ForgeSync
