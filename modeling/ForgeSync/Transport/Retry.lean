/-!
# Retry policy

How often and how long the HTTP transport retries: at most `retryMax` retries, a 32-bit
number, waiting between attempts the delays of an exponential backoff from the minimum wait
up to the maximum, each delay kept within the two (at the minimum, should the maximum be
smaller).  A failure is retried when it is a network failure or a response whose status is
in the policy's list.  Times are in milliseconds.

The policy configures the backoff (`RetryPolicy.backoff`): its first and largest delay, at
most how many delays it yields, and whether it adds random jitter.  What delays it then
yields on a run is not computed here: the transport takes them from the world it runs in,
and the schedule keeps at most `retryMax` of them, each within the waits.  Without jitter an
exponential backoff doubles its first delay before each next one, up to the largest
(`Backoff.steady`).

Main statements: a schedule has `retryMax` waits when the backoff yields that many delays,
and every wait lies within the policy's waits.
-/

namespace ForgeSync

/-- An exponential backoff as a policy configures it: its first delay, its largest, at most how
many delays it yields, and whether it adds random jitter to each. -/
structure Backoff where
  minDelay : Nat
  maxDelay : Nat
  maxTimes : Nat
  jitter : Bool
  deriving Repr, DecidableEq, Inhabited

/-- The delays of an exponential backoff without jitter: the first delay doubled before each
next one and capped at the largest, as many as it yields. -/
def Backoff.steady (b : Backoff) : List Nat :=
  (List.range b.maxTimes).map fun i => min (b.minDelay * Nat.pow 2 i) b.maxDelay

/-- When and how long to retry. -/
structure RetryPolicy where
  retryMax : UInt32 := 4
  waitMin : Nat := 1000
  waitMax : Nat := 30000
  statuses : List Nat := [429, 500, 502, 503, 504]
  jitter : Bool := true
  deriving Repr, DecidableEq, Inhabited

namespace RetryPolicy

/-- A policy that never retries. -/
def disabled : RetryPolicy := { retryMax := 0 }

/-- The backoff a policy configures: from the minimum wait up to the maximum, at most
`retryMax` delays, with jitter when the policy asks for it. -/
def backoff (p : RetryPolicy) : Backoff :=
  { minDelay := p.waitMin, maxDelay := p.waitMax, maxTimes := p.retryMax.toNat,
    jitter := p.jitter }

/-- A delay kept within the waits: no shorter than the minimum, and no longer than the
maximum, or than the minimum should the maximum be smaller. -/
def clampWait (p : RetryPolicy) (d : Nat) : Nat :=
  max p.waitMin (min d (max p.waitMax p.waitMin))

/-- The waits between attempts, from the delays the backoff yields: at most `retryMax` of them,
each kept within the waits. -/
def schedule (p : RetryPolicy) (delays : List Nat) : List Nat :=
  (delays.take p.retryMax.toNat).map p.clampWait

/-- A schedule has one wait per retry, unless the backoff yields fewer delays. -/
theorem length_schedule (p : RetryPolicy) (delays : List Nat) :
    (p.schedule delays).length = min p.retryMax.toNat delays.length := by
  simp [schedule]

/-- Every wait of a schedule lies within the policy's waits. -/
theorem bounds_of_mem_schedule {p : RetryPolicy} {delays : List Nat} {w : Nat}
    (h : w ∈ p.schedule delays) : p.waitMin ≤ w ∧ w ≤ max p.waitMax p.waitMin := by
  obtain ⟨d, -, rfl⟩ := List.mem_map.mp h
  constructor
  · exact Nat.le_max_left _ _
  · simp only [clampWait]
    omega

/-- Whether a status is one to retry. -/
def retriesStatus (p : RetryPolicy) (status : Nat) : Bool :=
  p.statuses.contains status

end RetryPolicy

end ForgeSync
