import ForgeSync.Call
import ForgeSync.Spec

/-!
# Resource handles

A resource kind says how one type of resource is read and written on a service: fetching by
reference, creating from a spec, updating from a changed raw form, deleting, the spec a raw
form stands for, how a spec is written into a raw form, and how a desired spec is checked and
normalised before it is sent.

A handle follows one resource through its life.  It holds the desired spec (once set), the
raw form last read or written (its cache) and a state: `unknown` before anything succeeded,
then `fetched`, `created`, `updated` or `deleted` after the last operation that succeeded.
The cache is filled exactly in the three middle states, so a handle that was never read or
that was deleted must be fetched before it can be updated.

`reconcile` brings the resource to the desired spec: it fetches, and does nothing when the
actual state satisfies the desired one; otherwise it writes the desired spec into the raw form
and updates, or creates the resource when it does not exist.  It answers whether it changed
anything.

An update by deleting and creating again is not atomic: when the create fails after the
delete succeeded, the error says so and the handle forgets its cache, since the resource is
gone.
-/

namespace ForgeSync

namespace Resource

/-- How one type of resource is read and written, over a world `σ`, with references `ι`, raw
forms `ρ` and specs `α`. -/
structure Kind (σ ι ρ α : Type) where
  name : String
  service : String
  strategy : Strategy
  describe : ι → String
  specOf : ρ → α
  applySpec : ρ → α → ρ
  satisfies : ρ → α → Bool
  validate : α → Except ApiError α
  fetch : ι → Call σ ρ
  create : ι → α → Call σ ρ
  update : ι → ρ → Call σ ρ
  delete : ι → ρ → Call σ Unit

/-- Where a handle stands after the last operation that succeeded. -/
inductive HandleState where
  | unknown
  | fetched
  | created
  | updated
  | deleted
  deriving Repr, DecidableEq, Inhabited

/-- The name of a handle state. -/
def HandleState.name : HandleState → String
  | .unknown => "Unknown"
  | .fetched => "Fetched"
  | .created => "Created"
  | .updated => "Updated"
  | .deleted => "Deleted"

/-- One resource followed through its life: its reference, desired spec, cached raw form and
state. -/
structure Handle (ι ρ α : Type) where
  reference : ι
  desired : Option α := none
  raw : Option ρ := none
  state : HandleState := .unknown
  deriving Inhabited

namespace Handle

variable {σ ι ρ α : Type}

/-- The outcome of a handle operation: its result and the handle after it. -/
abbrev Outcome (ι ρ α β : Type) := Except ApiError β × Handle ι ρ α

/-- A fresh handle for a reference. -/
def new (reference : ι) : Handle ι ρ α := { reference }

/-- The spec the handle stands for: the desired one once set, else that of the cached raw
form. -/
def spec (k : Kind σ ι ρ α) (h : Handle ι ρ α) : Option α :=
  match h.desired with
  | some d => some d
  | none => h.raw.map k.specOf

/-- Set the desired spec, writing it into the cached raw form as well. -/
def set (k : Kind σ ι ρ α) (h : Handle ι ρ α) (s : α) : Handle ι ρ α :=
  { h with raw := h.raw.map (fun r => k.applySpec r s), desired := some s }

/-- The desired spec, which creating and reconciling require. -/
def requireDesired (k : Kind σ ι ρ α) (h : Handle ι ρ α) : Except ApiError α :=
  match h.desired with
  | some d => .ok d
  | none => .error (.invalidRequest ("no desired spec set for " ++ k.describe h.reference))

/-- Read the resource into the cache. -/
def fetch (k : Kind σ ι ρ α) (h : Handle ι ρ α) : StateM σ (Outcome ι ρ α ρ) := do
  match ← (k.fetch h.reference).run with
  | .ok raw => pure (.ok raw, { h with raw := some raw, state := .fetched })
  | .error e => pure (.error e, h)

/-- Create the resource from the desired spec, once checked and normalised. -/
def create (k : Kind σ ι ρ α) (h : Handle ι ρ α) : StateM σ (Outcome ι ρ α ρ) := do
  match h.requireDesired k >>= k.validate with
  | .error e => pure (.error e, h)
  | .ok s =>
    match ← (k.create h.reference s).run with
    | .ok raw => pure (.ok raw, { h with desired := some s, raw := some raw, state := .created })
    | .error e => pure (.error e, h)

/-- Delete a resource and create it again from the spec of its raw form; a failed create
after the delete is reported as a failed recreate. -/
def recreate (k : Kind σ ι ρ α) (reference : ι) (raw : ρ) : Call σ ρ := do
  let s ← Call.ofExcept (k.validate (k.specOf raw))
  k.delete reference raw
  tryCatch (k.create reference s) (fun e => throw (.recreateFailed (k.describe reference) e))

/-- Send a raw form back by the kind's strategy: by deleting and creating again under the
recreate strategy, by the kind's own update otherwise. -/
def send (k : Kind σ ι ρ α) (reference : ι) (raw : ρ) : Call σ ρ :=
  match k.strategy with
  | .recreate => recreate k reference raw
  | _ => k.update reference raw

/-- Write the cached raw form back, by the kind's strategy. -/
def update (k : Kind σ ι ρ α) (h : Handle ι ρ α) : StateM σ (Outcome ι ρ α ρ) := do
  match h.raw with
  | none =>
    pure (.error (.invalidRequest (k.describe h.reference ++ " must be fetched before it is updated")), h)
  | some raw =>
    match ← (send k h.reference raw).run with
    | .ok updated => pure (.ok updated, { h with raw := some updated, state := .updated })
    | .error e =>
      if e.kind = .recreateFailed then pure (.error e, { h with raw := none, state := .deleted })
      else pure (.error e, h)

/-- Delete a raw form, keeping it in the cache if the delete fails. -/
def deleteRaw (k : Kind σ ι ρ α) (h : Handle ι ρ α) (raw : ρ) : StateM σ (Outcome ι ρ α Unit) := do
  match ← (k.delete h.reference raw).run with
  | .ok () => pure (.ok (), { h with raw := none, state := .deleted })
  | .error e => pure (.error e, { h with raw := some raw })

/-- Delete the resource: the cached raw form, or the one fetched now. -/
def delete (k : Kind σ ι ρ α) (h : Handle ι ρ α) : StateM σ (Outcome ι ρ α Unit) := do
  match h.raw with
  | some raw => deleteRaw k { h with raw := none } raw
  | none =>
    match ← (k.fetch h.reference).run with
    | .ok raw => deleteRaw k h raw
    | .error e => pure (.error e, h)

/-- Bring the resource to the desired spec; answers whether anything changed. -/
def reconcile (k : Kind σ ι ρ α) (h : Handle ι ρ α) : StateM σ (Outcome ι ρ α Bool) := do
  match h.requireDesired k >>= k.validate with
  | .error e => pure (.error e, h)
  | .ok d =>
    let h := { h with desired := some d }
    match ← (k.fetch h.reference).run with
    | .ok raw =>
      let h := { h with raw := some raw, state := .fetched }
      if k.satisfies raw d then pure (.ok false, h)
      else
        let (r, h) ← update k (set k h d)
        pure (r.map (fun _ => true), h)
    | .error e =>
      if e.isNotFound then
        let (r, h) ← create k h
        pure (r.map (fun _ => true), h)
      else pure (.error e, h)

/-- A handle for a reference, fetched. -/
def get (k : Kind σ ι ρ α) (reference : ι) : StateM σ (Outcome ι ρ α Unit) := do
  let (r, h) ← fetch k (new reference)
  pure (r.map (fun _ => ()), h)

end Handle

end Resource

end ForgeSync
