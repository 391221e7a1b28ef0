import ForgeSync.Page
import ForgeSync.Transport.Channel

/-!
# Listings over a channel

A listing walks the pages of a collection over a channel, checking the caller's context
before every page.  The walk runs on a budget of pages: over a replay, one more than the
answers left, which no walk can use up, since every page takes an answer; over HTTP, 65536
pages.

Over HTTP this bound is a deviation: a listing whose options set no page budget follows the
service's chain for as long as the pages go on, while here a chain longer than 65536 pages
ends as if a page budget of that size were used up.  The walk needs some bound to be a total
function; what happens on a longer chain is outside what this library describes.

Finding one item of a listing by its name is exact: a name that merely contains the wanted
one does not match, and no match is a not-found error.
-/

namespace ForgeSync

/-- The most pages one listing may fetch over a channel; over HTTP a bound of the model's own,
where the service client sets none (see the module's note). -/
def Channel.pageBudget (ch : Channel) : Nat :=
  match ch.transport with
  | .replay r => r.script.length + 1
  | .http _ _ => 65536

/-- Walk every page of a listing from a cursor, fetching each page with `fetchPage`. -/
def Channel.listAll {α : Type} (opts : PageOptions) (start : Cursor)
    (fetchPage : Cursor → Call Channel (Page α)) : Call Channel (List α) := do
  let fuel := (← get).pageBudget
  let (res, _) ← (allPages (fun ch => ch.context.check) (fun c => (fetchPage c).run) opts fuel
    start : StateM Channel _)
  Call.ofExcept res

/-- The first item whose name is exactly the wanted one, or a not-found error describing
what was wanted. -/
def exactMatch {α : Type} (items : List α) (name : α → String) (wanted : String)
    (what : String) : Except ApiError α :=
  match items.find? (fun i => name i == wanted) with
  | some i => .ok i
  | none => .error (.notFound what)

end ForgeSync
