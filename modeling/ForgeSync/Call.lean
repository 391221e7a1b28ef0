import ForgeSync.Error.Basic

/-!
# Calls

A call runs against a world — the store, or the transport with the caller's context — and
either returns a value or fails with an API error.  A failed call keeps the world as the
failure left it: what was sent or recorded before the failure stays sent or recorded.
-/

namespace ForgeSync

/-- A computation against a world `σ` that may fail with an API error. -/
abbrev Call (σ : Type) := ExceptT ApiError (StateM σ)

/-- A result computed without touching the world. -/
def Call.ofExcept {σ α : Type} (r : Except ApiError α) : Call σ α :=
  ExceptT.mk (pure r)

/-- Run a call on a world: its result and the world after it. -/
def Call.runOn {σ α : Type} (c : Call σ α) (s : σ) : Except ApiError α × σ :=
  (ExceptT.run c).run s

end ForgeSync
