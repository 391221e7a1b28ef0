import ForgeSync.Error.Basic

/-!
# The caller's context

Every call runs under a context that the caller may cancel and that may carry a deadline.
Time is counted in milliseconds on one clock; waits and exchanges over the network move it,
the client's own steps take no time.  The caller may cancel at any moment, also while the
client waits or an exchange is under way, so its cancellation is a time on that clock.

A context is done once its cancellation or its deadline has come.  Nothing new starts in a
done context: `check` fails with the reason, cancellation first.  Work that takes time in a
live context is raced against it: the cancellation or the deadline ends the work when it comes
no later than the work's end, at that moment and with that reason, the cancellation first
when both come at once.  A wait fails at once in a done context and is otherwise such work.
-/

namespace ForgeSync

/-- A caller's context: when the caller cancels, if it does, the deadline and the time now. -/
structure Context where
  cancelAt : Option Nat := none
  deadline : Option Nat := none
  now : Nat := 0
  deriving Repr, DecidableEq, Inhabited

namespace Context

/-- A fresh context that ends after `ms` milliseconds from now. -/
def withTimeout (c : Context) (ms : Nat) : Context :=
  let d := c.now + ms
  { c with deadline := some (match c.deadline with
      | some e => if e < d then e else d
      | none => d) }

/-- The context after the caller cancels it now; an earlier cancellation stands. -/
def cancel (c : Context) : Context :=
  { c with cancelAt := some (match c.cancelAt with
      | some t => if t < c.now then t else c.now
      | none => c.now) }

/-- Whether new work may start: it may not once the cancellation or the deadline has come. -/
def check (c : Context) : Except ApiError Unit :=
  if c.cancelAt.any (· ≤ c.now) then .error .cancelled
  else
    match c.deadline with
    | some d => if d ≤ c.now then .error .deadlineExceeded else .ok ()
    | none => .ok ()

/-- Spend `ms` milliseconds on work in a live context: the cancellation or the deadline ends
it when it comes no later than the work's end, the cancellation first when both do. -/
def race (c : Context) (ms : Nat) : Except ApiError Unit × Context :=
  let finish := c.now + ms
  match c.cancelAt.filter (· ≤ finish), c.deadline.filter (· ≤ finish) with
  | some t, some d =>
    if t ≤ d then (.error .cancelled, { c with now := t })
    else (.error .deadlineExceeded, { c with now := d })
  | some t, none => (.error .cancelled, { c with now := t })
  | none, some d => (.error .deadlineExceeded, { c with now := d })
  | none, none => (.ok (), { c with now := finish })

/-- Wait `ms` milliseconds: fails at once in a done context, and ends early when the
cancellation or the deadline comes first. -/
def sleep (c : Context) (ms : Nat) : Except ApiError Unit × Context :=
  match c.check with
  | .error e => (.error e, c)
  | .ok () => c.race ms

end Context

end ForgeSync
