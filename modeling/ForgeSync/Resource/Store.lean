import ForgeSync.Resource.Handle
import ForgeSync.Context

/-!
# The in-memory store

A resource kind that keeps its objects in memory, for specs of any type.  Each object has an
id, given in order from 1 as objects are created, a version that starts at 0, and its spec.
The store checks versions on update: an update must carry the version the store holds, and
raises it by one; so a raw form read before someone else's write is refused.

Every operation first checks the caller's context and then records itself in the store's
log, even when it then fails; one operation type can be made to fail with a given error, for
testing how callers handle failures.  Patching merges the desired spec into the stored one;
the other strategies replace it.
-/

namespace ForgeSync

namespace Resource

/-- An object of the store: its id, version and spec. -/
structure StoredObject (α : Type) where
  id : Nat
  version : Nat
  spec : α
  deriving Repr, DecidableEq, Inhabited

/-- The four operations the store logs. -/
inductive StoreOp where
  | fetch
  | create
  | update
  | delete
  deriving Repr, DecidableEq, Inhabited

/-- The name of a store operation. -/
def StoreOp.name : StoreOp → String
  | .fetch => "fetch"
  | .create => "create"
  | .update => "update"
  | .delete => "delete"

/-- The in-memory store: objects by key, the next id, an injected failure, the log of
operations and the caller's context. -/
structure Store (α : Type) where
  objects : List (String × StoredObject α) := []
  nextId : Nat := 1
  failOn : Option (StoreOp × ApiError) := none
  log : List (StoreOp × String) := []
  context : Context := {}
  deriving Inhabited

namespace Store

variable {α : Type}

/-- The object stored at a key. -/
def get? (s : Store α) (key : String) : Option (StoredObject α) :=
  (s.objects.find? (fun o => o.1 == key)).map (·.2)

/-- The objects with one key set to an object. -/
def putObject (objects : List (String × StoredObject α)) (key : String) (o : StoredObject α) :
    List (String × StoredObject α) :=
  if objects.any (fun e => e.1 == key) then
    objects.map (fun e => if e.1 == key then (key, o) else e)
  else objects ++ [(key, o)]

/-- The objects without a key. -/
def eraseObject (objects : List (String × StoredObject α)) (key : String) :
    List (String × StoredObject α) :=
  objects.filter (fun e => e.1 != key)

/-- Add an object with the next id and version 0. -/
def seed (s : Store α) (key : String) (spec : α) : Store α :=
  { s with objects := putObject s.objects key ⟨s.nextId, 0, spec⟩, nextId := s.nextId + 1 }

/-- Raise the version of the object at a key, as a write by someone else would. -/
def bumpVersion (s : Store α) (key : String) : Store α :=
  match s.get? key with
  | some o => { s with objects := putObject s.objects key { o with version := o.version + 1 } }
  | none => s

/-- How many logged operations were writes. -/
def mutationCount (s : Store α) : Nat :=
  (s.log.filter (fun e => e.1 != .fetch)).length

/-- Start an operation: check the context, log the operation, and fail if it is the one made
to fail. -/
def begin (op : StoreOp) (key : String) : Call (Store α) Unit := do
  let s ← get
  Call.ofExcept s.context.check
  set { s with log := s.log ++ [(op, key)] }
  match s.failOn with
  | some (o, e) => if o = op then throw e else pure ()
  | none => pure ()

/-- Read the object at a key. -/
def fetch (key : String) : Call (Store α) (StoredObject α) := do
  begin .fetch key
  match (← get).get? key with
  | some o => pure o
  | none => throw (.notFound key)

/-- Create an object at a free key. -/
def create (key : String) (spec : α) : Call (Store α) (StoredObject α) := do
  begin .create key
  let s ← get
  if (s.get? key).isSome then throw (.alreadyExists key)
  let o : StoredObject α := ⟨s.nextId, 0, spec⟩
  set { s with objects := putObject s.objects key o, nextId := s.nextId + 1 }
  pure o

/-- Write a raw form back, if it carries the version the store holds. -/
def update (key : String) (raw : StoredObject α) : Call (Store α) (StoredObject α) := do
  begin .update key
  let s ← get
  match s.get? key with
  | none => throw (.notFound key)
  | some stored =>
    if stored.version ≠ raw.version then
      throw (.versionConflict key raw.version ("current version is " ++ toString stored.version))
    let o := { stored with spec := raw.spec, version := stored.version + 1 }
    set { s with objects := putObject s.objects key o }
    pure o

/-- Remove the object at a key. -/
def delete (key : String) (_raw : StoredObject α) : Call (Store α) Unit := do
  begin .delete key
  let s ← get
  if (s.get? key).isNone then throw (.notFound key)
  set { s with objects := eraseObject s.objects key }

end Store

/-- The in-memory store as a resource kind with the given update strategy. -/
def storeKind {α : Type} [DecidableEq α] [Spec α] (strategy : Strategy) :
    Kind (Store α) String (StoredObject α) α where
  name := "object"
  service := "memory"
  strategy := strategy
  describe := id
  specOf := StoredObject.spec
  applySpec r s :=
    match strategy with
    | .patch => { r with spec := Spec.merge s r.spec }
    | _ => { r with spec := s }
  satisfies r d := strategy.satisfied d r.spec
  validate := .ok
  fetch := Store.fetch
  create := Store.create
  update := Store.update
  delete := Store.delete

end Resource

end ForgeSync
