import ForgeSync.Page
import ForgeSync.Context

/-!
# Replayed listings

A page source that answers each fetch with the next recorded page or error, in order, and
keeps the cursors it was asked for.  It can also stand for a caller who interrupts a listing:
given a count, it cancels the caller's context during that fetch, which still gets its page.
A fetch past the end of the recording fails as an invalid request.
-/

namespace ForgeSync

/-- The state of a replayed listing: the recording left, the cursors asked for so far, the
caller's context and when to cancel it. -/
structure PageReplay (α : Type) where
  pages : List (Except ApiError (Page α))
  fetched : List Cursor := []
  context : Context := {}
  cancelAfter : Option Nat := none
  deriving Inhabited

namespace PageReplay

variable {α : Type}

/-- Answer one fetch from the recording. -/
def fetch (cursor : Cursor) : StateM (PageReplay α) (Except ApiError (Page α)) := do
  let r ← get
  let fetched := r.fetched ++ [cursor]
  let context := if r.cancelAfter == some fetched.length then r.context.cancel else r.context
  match r.pages with
  | p :: rest =>
    set { r with pages := rest, fetched, context }
    pure p
  | [] =>
    set { r with fetched, context }
    pure (.error (.invalidRequest "script exhausted"))

/-- Walk a replayed listing with `allPages`; the recording's length bounds the walk. -/
def walk (opts : PageOptions) (cursor : Cursor) (r : PageReplay α) :
    (Except ApiError (List α) × Cursor) × PageReplay α :=
  (allPages (fun s => s.context.check) fetch opts (r.pages.length + 1) cursor).run r

end PageReplay

end ForgeSync
