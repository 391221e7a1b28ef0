import ForgeSync.Transport.Http

/-!
# The retry loop of the HTTP transport

`HttpClient.execute` sends one request with retries.  Each attempt sends the same message,
and nothing at all in a done context or when the message cannot be prepared; the network
answers each sending in turn, after some time, in any way it likes, and the backoff yields
whatever delays the network gives for it: the schedule keeps at most `retryMax` of them,
exactly `retryMax` when the backoff yields that many.  `Network.answerAt` is its
answer to the `i`-th sending from now on, and `attemptStart` is when the `i`-th attempt starts
if every earlier one ran its whole exchange and its whole wait.

The main statement, `execute_retries_configured_failures`, describes every run.  It makes at
most `retryMax + 1` attempts.  Each attempt but the last was retried: its exchange and the
wait after it ended before the context did, and the loop retries its answer.  The last one
ends the run: with the context's end when that comes during its exchange or the wait after
it, with the first answer the loop does not retry, unchanged, or, when the schedule is used
up, with the last error, wrapped with the number of attempts unless there was only one.  That
number is counted in 32 bits: it is the true one below 2^32 attempts, and 0 for a policy that
allows the most retries a 32-bit number holds, whose exhausted run makes 2^32 attempts.

The loop retries a network failure, and a refused response whose status is in the policy's
list unless that status is 401 or 403 (`RetryPolicy.retriesAnswer`): those two become
authentication failures, which carry no status, so the list is never consulted for them
(`auth_failure_not_retried`).
-/

namespace ForgeSync

/-! ### The context's clock -/

namespace Context

/-- Whether the context has ended by time `w`: its cancellation or its deadline comes no
later. -/
def endsBy (c : Context) (w : Nat) : Bool :=
  c.cancelAt.any (· ≤ w) || c.deadline.any (· ≤ w)

/-- Why a context ends: its cancellation, when that comes no later than the deadline. -/
def endError (c : Context) : ApiError :=
  match c.cancelAt, c.deadline with
  | some t, some d => if t ≤ d then .cancelled else .deadlineExceeded
  | some _, none => .cancelled
  | none, _ => .deadlineExceeded

variable {c : Context} {ms : Nat}

@[simp] theorem endsBy_setNow (t w : Nat) : ({ c with now := t } : Context).endsBy w = c.endsBy w :=
  rfl

@[simp] theorem endError_setNow (t : Nat) : ({ c with now := t } : Context).endError = c.endError :=
  rfl

/-- A context is live exactly when it has not ended by now. -/
theorem check_eq_ok_iff : c.check = .ok () ↔ c.endsBy c.now = false := by
  unfold check endsBy
  cases c.cancelAt.any (· ≤ c.now)
  · cases hd : c.deadline with
    | none => simp
    | some d => by_cases h : d ≤ c.now <;> simp [h]
  · simp

/-- Work that ends before the context does runs to its end. -/
theorem race_eq_ok (h : c.endsBy (c.now + ms) = false) :
    c.race ms = (.ok (), { c with now := c.now + ms }) := by
  simp only [endsBy, Bool.or_eq_false_iff] at h
  have hc : c.cancelAt.filter (· ≤ c.now + ms) = none := by
    cases hc : c.cancelAt <;> simp_all [Option.filter_some]
  have hd : c.deadline.filter (· ≤ c.now + ms) = none := by
    cases hd : c.deadline <;> simp_all [Option.filter_some]
  simp [race, hc, hd]

/-- Work that the context outlives not is cut short with the reason the context ends. -/
theorem race_eq_error (h : c.endsBy (c.now + ms) = true) : (c.race ms).1 = .error c.endError := by
  rcases c with ⟨_ | t, _ | d, now⟩
  · simp [endsBy] at h
  · simp_all [race, endsBy, endError, Option.filter_some]
  · simp_all [race, endsBy, endError, Option.filter_some]
  · by_cases ht : t ≤ now + ms <;> by_cases hd : d ≤ now + ms <;> by_cases htd : t ≤ d <;>
      simp [race, endsBy, endError, Option.filter_some, ht, hd, htd] at h ⊢
    -- what is left are orderings of the two times that cannot be
    all_goals omega

theorem sleep_of_live (h : c.check = .ok ()) : c.sleep ms = c.race ms := by
  simp [sleep, h]

end Context

/-! ### What the loop retries -/

/-- Whether the loop retries after an answer of the network: a failure to connect, or a
response that is not a success, whose status is in the policy's list, and that is neither
401 nor 403. -/
def RetryPolicy.retriesAnswer (p : RetryPolicy) : Except String Incoming → Bool
  | .error _ => true
  | .ok i => !(200 ≤ i.status && i.status < 300) && p.retriesStatus i.status &&
      i.status != 401 && i.status != 403

namespace RetryPolicy

variable (p : RetryPolicy)

/-- A refused response is retried when its status is in the list, unless it is 401 or 403. -/
theorem retries_classify (status : Nat) (body : List UInt8) :
    p.retries (classify status body) =
      (p.retriesStatus status && status != 401 && status != 403) := by
  unfold classify
  by_cases h404 : status = 404
  · simp [h404, retries, ApiError.status]
  by_cases h409 : status = 409
  · simp [h409, retries, ApiError.status]
  by_cases h400 : status = 400
  · simp [h400, retries, ApiError.status]
  by_cases hauth : status = 401 ∨ status = 403
  · rcases hauth with rfl | rfl <;> simp [retries, ApiError.status]
  · have h401 : (status != 401) = true := bne_iff_ne.mpr (fun h => hauth (.inl h))
    have h403 : (status != 403) = true := bne_iff_ne.mpr (fun h => hauth (.inr h))
    simp [h404, h409, h400, hauth, h401, h403, retries, ApiError.status]

/-- The error an answer turns into is retried exactly when the answer is one the loop
retries. -/
theorem retries_answerOf {a : Except String Incoming} {e : ApiError}
    (h : HttpClient.answerOf a = .error e) : p.retries e = p.retriesAnswer a := by
  cases a with
  | error m =>
    simp only [HttpClient.answerOf, Except.error.injEq] at h
    subst h
    rfl
  | ok i =>
    simp only [HttpClient.answerOf, Incoming.receive] at h
    split at h
    · cases h
    · rename_i hs
      simp only [Except.error.injEq] at h
      subst h
      have hrefused : (decide (200 ≤ i.status) && decide (i.status < 300)) = false := by
        simpa using hs
      simp only [retriesAnswer, retries_classify, hrefused, Bool.not_false, Bool.true_and]

/-- An answer that is a response received is never retried. -/
theorem retriesAnswer_of_ok {a : Except String Incoming} {r : Response}
    (h : HttpClient.answerOf a = .ok r) : p.retriesAnswer a = false := by
  cases a with
  | error m => cases h
  | ok i =>
    simp only [HttpClient.answerOf, Incoming.receive] at h
    split at h
    · rename_i hs
      simp [retriesAnswer, hs]
    · cases h

/-- The end of the caller's context is never retried. -/
theorem retries_check_error {c : Context} {e : ApiError} (h : c.check = .error e) :
    p.retries e = false := by
  unfold Context.check at h
  split at h
  · cases h
    rfl
  · split at h
    · split at h
      · cases h
        rfl
      · cases h
    · cases h

theorem retries_endError (c : Context) : p.retries c.endError = false := by
  unfold Context.endError
  split
  · split <;> rfl
  · rfl
  · rfl

end RetryPolicy

/-! ### Preparing a message -/

/-- A header that cannot be set is an invalid request. -/
theorem Header.pair_error {name value : String} {e : ApiError} (h : Header.pair name value = .error e) :
    ∃ m, e = .invalidRequest m := by
  unfold Header.pair at h
  split at h
  · cases h
    exact ⟨_, rfl⟩
  · split at h
    · cases h
      exact ⟨_, rfl⟩
    · cases h

/-- Headers that cannot be set are an invalid request. -/
theorem Header.insertAll_error {base given : List (String × String)} {e : ApiError}
    (h : Header.insertAll base given = .error e) : ∃ m, e = .invalidRequest m := by
  -- induction on the headers given, over every list they are set on
  induction given generalizing base with
  | nil => cases h
  | cons hd rest ih =>
    obtain ⟨name, value⟩ := hd
    simp only [Header.insertAll, List.foldlM_cons] at h ih
    cases hp : Header.pair name value with
    | error e' =>
      rw [hp] at h
      cases h
      exact Header.pair_error hp
    | ok hv =>
      rw [hp] at h
      exact ih h

/-- Credentials that cannot be sent are an invalid request. -/
theorem Auth.header_error {a : Auth} {e : ApiError} (h : a.header = .error e) :
    ∃ m, e = .invalidRequest m := by
  cases a with
  | none => cases h
  | bearer token =>
    dsimp only [Auth.header] at h
    split at h
    · cases h
    · cases h
      exact ⟨_, rfl⟩
  | basic user password => cases h

/-- A message that cannot be prepared is an invalid request. -/
theorem HttpClient.prepare_error {c : HttpClient} {url : String} {req : Request} {e : ApiError}
    (h : c.prepare url req = .error e) : ∃ m, e = .invalidRequest m := by
  unfold prepare at h
  cases hh : Header.insertAll c.headers req.headers with
  | error e' =>
    rw [hh] at h
    cases h
    exact Header.insertAll_error hh
  | ok headers =>
    rw [hh] at h
    simp only [bind, Except.bind] at h
    split at h
    · cases h
      exact ⟨_, rfl⟩
    · cases ha : c.auth.header with
      | error e' =>
        simp only [ha] at h
        cases h
        exact Auth.header_error ha
      | ok auth =>
        simp [ha, pure, Except.pure] at h

/-! ### One attempt -/

namespace Network

/-- The answer to the `i`-th sending of a message from now on (from 0): what the network
answers once it has carried the message `i` times more. -/
def answerAt (net : Network) (out : Outgoing) (i : Nat) : Nat × Except String Incoming :=
  net.respond (net.carried ++ List.replicate i out) out

@[simp] theorem answerAt_deliver (net : Network) (out : Outgoing) (i : Nat) :
    (net.deliver out).2.answerAt out i = net.answerAt out (i + 1) := by
  simp [deliver, answerAt, List.replicate_succ]

@[simp] theorem carried_deliver (net : Network) (out : Outgoing) :
    (net.deliver out).2.carried = net.carried ++ [out] := rfl

end Network

namespace HttpClient

variable (c : HttpClient) (url : String) (req : Request) {ctx : Context} {net : Network}

/-- In a done context nothing is sent. -/
theorem attempt_done {e : ApiError} (h : ctx.check = .error e) :
    (c.attempt url req).run (ctx, net) = (.error e, ctx, net) := by
  simp [attempt, h]
  rfl

/-- A message that cannot be prepared is not sent. -/
theorem attempt_unprepared {e : ApiError} (h : ctx.check = .ok ())
    (hp : c.prepare url req = .error e) :
    (c.attempt url req).run (ctx, net) = (.error e, ctx, net) := by
  simp [attempt, h, hp]
  rfl

/-- A prepared message is sent, and its exchange races the context. -/
theorem attempt_raced {out : Outgoing} (h : ctx.check = .ok ()) (hp : c.prepare url req = .ok out) :
    (c.attempt url req).run (ctx, net) =
      ((match (ctx.race (net.answerAt out 0).1).1 with
        | .error e => .error e
        | .ok () => answerOf (net.answerAt out 0).2),
        (ctx.race (net.answerAt out 0).1).2, (net.deliver out).2) := by
  rcases hr : ctx.race (net.answerAt out 0).1 with ⟨r, ctx'⟩
  have hr' : ctx.race (net.respond net.carried out).1 = (r, ctx') := by
    simpa [Network.answerAt] using hr
  simp only [attempt, StateT.run_bind, StateT.run_get, pure_bind, h, hp, Network.deliver, hr',
    StateT.run_set, Network.answerAt, List.replicate_zero, List.append_nil]
  cases r <;> rfl

/-- An exchange that ends before the context does gives the network's answer, and takes its
time. -/
theorem attempt_answered {out : Outgoing} (h : ctx.check = .ok ())
    (hp : c.prepare url req = .ok out)
    (hlive : ctx.endsBy (ctx.now + (net.answerAt out 0).1) = false) :
    (c.attempt url req).run (ctx, net) =
      (answerOf (net.answerAt out 0).2, { ctx with now := ctx.now + (net.answerAt out 0).1 },
        (net.deliver out).2) := by
  rw [attempt_raced c url req h hp, Context.race_eq_ok hlive]

/-- An exchange that the context does not outlive is cut short with the reason the context
ends; the message was sent all the same. -/
theorem attempt_cut {out : Outgoing} (h : ctx.check = .ok ()) (hp : c.prepare url req = .ok out)
    (hcut : ctx.endsBy (ctx.now + (net.answerAt out 0).1) = true) :
    ∃ ctx', (c.attempt url req).run (ctx, net) = (.error ctx.endError, ctx', (net.deliver out).2) := by
  refine ⟨(ctx.race (net.answerAt out 0).1).2, ?_⟩
  rw [attempt_raced c url req h hp, Context.race_eq_error hcut]

end HttpClient

/-! ### One round of the loop -/

section Round

variable (p : RetryPolicy) (att : StateM (Context × Network) (Except ApiError Response))
  {s s₁ : Context × Network} {m : UInt32}

theorem retrying_ok {r : Response} (ds : List Nat) (h : att.run s = (.ok r, s₁)) :
    (retrying p att ds m).run s = (.ok r, s₁) := by
  rw [retrying, StateT.run_bind, h]
  rfl

theorem retrying_fatal {e : ApiError} (ds : List Nat) (h : att.run s = (.error e, s₁))
    (hr : p.retries e = false) : (retrying p att ds m).run s = (.error e, s₁) := by
  rw [retrying, StateT.run_bind, h]
  show StateT.run _ s₁ = _
  simp only [hr, Bool.not_false, if_true, StateT.run_pure]
  rfl

theorem retrying_exhausted {e : ApiError} (h : att.run s = (.error e, s₁))
    (hr : p.retries e = true) :
    (retrying p att [] m).run s =
      (.error (if m + 1 = 1 then e else .retriesExhausted (m + 1).toNat e), s₁) := by
  rw [retrying, StateT.run_bind, h]
  show StateT.run _ s₁ = _
  simp only [hr, Bool.not_true, Bool.false_eq_true, if_false, StateT.run_pure, beq_iff_eq]
  rfl

theorem retrying_wait_cut (d : Nat) (ds : List Nat) {e e' : ApiError} {c : Context}
    (h : att.run s = (.error e, s₁)) (hr : p.retries e = true) (hs : s₁.1.sleep d = (.error e', c)) :
    (retrying p att (d :: ds) m).run s = (.error e', c, s₁.2) := by
  rw [retrying, StateT.run_bind, h]
  show StateT.run _ s₁ = _
  simp only [hr, Bool.not_true, Bool.false_eq_true, if_false, StateT.run_bind, StateT.run_get,
    StateT.run_set, pure_bind, hs, StateT.run_pure]
  rfl

theorem retrying_wait_next (d : Nat) (ds : List Nat) {e : ApiError} {c : Context}
    (h : att.run s = (.error e, s₁)) (hr : p.retries e = true) (hs : s₁.1.sleep d = (.ok (), c)) :
    (retrying p att (d :: ds) m).run s = (retrying p att ds (m + 1)).run (c, s₁.2) := by
  rw [retrying, StateT.run_bind, h]
  show StateT.run _ s₁ = _
  simp only [hr, Bool.not_true, Bool.false_eq_true, if_false, StateT.run_bind, StateT.run_get,
    StateT.run_set, pure_bind, hs]

end Round

/-! ### The whole loop -/

/-- When the `i`-th attempt from now starts, if each earlier one ran its whole exchange and was
followed by its whole wait. -/
def attemptStart (net : Network) (out : Outgoing) (delays : List Nat) (now : Nat) : Nat → Nat
  | 0 => now
  | i + 1 => attemptStart net out delays now i + (net.answerAt out i).1 + delays.getD i 0

/-- After one attempt and the wait after it, the later attempts start when they would have
from before. -/
theorem attemptStart_deliver (net : Network) (out : Outgoing) (d : Nat) (ds : List Nat)
    (now i : Nat) :
    attemptStart (net.deliver out).2 out ds (now + (net.answerAt out 0).1 + d) i =
      attemptStart net out (d :: ds) now (i + 1) := by
  induction i with
  | zero => rfl
  | succ i ih =>
    rw [attemptStart, ih, Network.answerAt_deliver]
    rfl

section Spec

variable (p : RetryPolicy) (ctx : Context) (net : Network) (out : Outgoing) (delays : List Nat)

/-- Attempt `i` from now was retried: its exchange ended before the context did, the loop
retries the network's answer, and the wait after it ended before the context did. -/
def RetriedAt (i : Nat) : Prop :=
  ctx.endsBy (attemptStart net out delays ctx.now i + (net.answerAt out i).1) = false ∧
    p.retriesAnswer (net.answerAt out i).2 = true ∧
    ctx.endsBy (attemptStart net out delays ctx.now (i + 1)) = false

/-- How the loop ends at attempt `i` from now, after `m` attempts made before: with the
context's end if that comes during the attempt's exchange; with the network's answer,
unchanged, if the loop does not retry it; with the context's end if that comes during the wait
after it; and with its error, wrapped with the number of attempts counted in 32 bits unless that
count is one, when no wait is left. -/
def EndsWith (m : UInt32) (i : Nat) (res : Except ApiError Response) : Prop :=
  let start := attemptStart net out delays ctx.now
  let a := net.answerAt out i
  if ctx.endsBy (start i + a.1) then res = .error ctx.endError
  else if p.retriesAnswer a.2 = false then res = HttpClient.answerOf a.2
  else if i < delays.length then ctx.endsBy (start (i + 1)) = true ∧ res = .error ctx.endError
  else ∃ e, HttpClient.answerOf a.2 = .error e ∧
    res = .error (if m + UInt32.ofNat (i + 1) = 1 then e
      else .retriesExhausted (m + UInt32.ofNat (i + 1)).toNat e)

end Spec

section Shift

variable {p : RetryPolicy} {ctx : Context} {net : Network} {out : Outgoing} {d : Nat}
  {ds : List Nat}

/-- Attempt `j` of the rest of the loop is attempt `j + 1` of the whole. -/
theorem retriedAt_succ {j : Nat} :
    RetriedAt p { ctx with now := ctx.now + (net.answerAt out 0).1 + d } (net.deliver out).2 out
      ds j ↔ RetriedAt p ctx net out (d :: ds) (j + 1) := by
  simp only [RetriedAt, Context.endsBy_setNow, attemptStart_deliver, Network.answerAt_deliver]

/-- An attempt made before adds one to the 32-bit count of the later ones, wrapping or not. -/
theorem add_one_add_ofNat (m : UInt32) (i : Nat) :
    m + 1 + UInt32.ofNat (i + 1) = m + UInt32.ofNat (i + 1 + 1) := by
  apply UInt32.toNat_inj.mp
  simp only [UInt32.toNat_add, UInt32.toNat_ofNat', UInt32.toNat_one]
  omega

theorem endsWith_succ {m : UInt32} {i : Nat} {res : Except ApiError Response} :
    EndsWith p { ctx with now := ctx.now + (net.answerAt out 0).1 + d } (net.deliver out).2 out
      ds (m + 1) i res ↔ EndsWith p ctx net out (d :: ds) m (i + 1) res := by
  simp only [EndsWith, Context.endsBy_setNow, Context.endError_setNow, attemptStart_deliver,
    Network.answerAt_deliver, List.length_cons, Nat.add_lt_add_iff_right, add_one_add_ofNat]

end Shift

variable (c : HttpClient) (url : String) (req : Request) {out : Outgoing}

/-- The first round of the loop ends it at its own attempt, or, after a retried attempt and a
whole wait, hands on to the rest of the loop. -/
theorem retrying_round (hp : c.prepare url req = .ok out) (d₀ : List Nat) (m : UInt32)
    (ctx : Context) (net : Network) (hlive : ctx.check = .ok ()) :
    let run := (retrying c.retry (c.attempt url req) d₀ m).run (ctx, net)
    (run.2.2.carried = net.carried ++ [out] ∧ EndsWith c.retry ctx net out d₀ m 0 run.1) ∨
      ∃ d ds, d₀ = d :: ds ∧ RetriedAt c.retry ctx net out d₀ 0 ∧
        run = (retrying c.retry (c.attempt url req) ds (m + 1)).run
          ({ ctx with now := ctx.now + (net.answerAt out 0).1 + d }, (net.deliver out).2) := by
  intro run
  cases hcut : ctx.endsBy (ctx.now + (net.answerAt out 0).1) with
  | true =>
    -- the context ends during the exchange
    obtain ⟨ctx', hatt⟩ := c.attempt_cut url req hlive hp hcut
    have hrun : run = (.error ctx.endError, ctx', (net.deliver out).2) :=
      retrying_fatal _ _ d₀ hatt (c.retry.retries_endError ctx)
    left
    simp [hrun, EndsWith, attemptStart, hcut]
  | false =>
    have hatt := c.attempt_answered url req hlive hp hcut
    cases hres : HttpClient.answerOf (net.answerAt out 0).2 with
    | ok r =>
      rw [hres] at hatt
      have hrun := retrying_ok c.retry _ (m := m) d₀ hatt
      left
      simp [run, hrun, EndsWith, attemptStart, hcut, c.retry.retriesAnswer_of_ok hres, hres]
    | error e =>
      rw [hres] at hatt
      have hretry := c.retry.retries_answerOf hres
      cases hr : c.retry.retries e with
      | false =>
        -- an answer the loop does not retry ends it, unchanged
        have hrun := retrying_fatal c.retry _ (m := m) d₀ hatt hr
        left
        simp [run, hrun, EndsWith, attemptStart, hcut, ← hretry, hr, hres]
      | true =>
        cases d₀ with
        | nil =>
          have hrun := retrying_exhausted c.retry _ (m := m) hatt hr
          left
          simp [run, hrun, EndsWith, attemptStart, hcut, ← hretry, hr, hres]
        | cons d ds =>
          -- the wait runs in a context that is still live
          have hlive₁ : ({ ctx with now := ctx.now + (net.answerAt out 0).1 } : Context).check =
              .ok () := Context.check_eq_ok_iff.mpr hcut
          cases hcut₁ : ctx.endsBy (ctx.now + (net.answerAt out 0).1 + d) with
          | true =>
            have hrace : (({ ctx with now := ctx.now + (net.answerAt out 0).1 } : Context).race d).1 =
                .error ctx.endError := Context.race_eq_error hcut₁
            rcases hs : ({ ctx with now := ctx.now + (net.answerAt out 0).1 } : Context).race d
              with ⟨r, ctx'⟩
            rw [hs] at hrace
            subst hrace
            have hrun := retrying_wait_cut c.retry _ d ds (m := m) hatt hr
              ((Context.sleep_of_live hlive₁).trans hs)
            left
            simp [run, hrun, EndsWith, attemptStart, hcut, ← hretry, hr, hcut₁]
          | false =>
            have hrace : ({ ctx with now := ctx.now + (net.answerAt out 0).1 } : Context).race d =
                (.ok (), { ctx with now := ctx.now + (net.answerAt out 0).1 + d }) :=
              Context.race_eq_ok hcut₁
            have hrun := retrying_wait_next c.retry _ d ds (m := m) hatt hr
              ((Context.sleep_of_live hlive₁).trans hrace)
            right
            exact ⟨d, ds, rfl, ⟨hcut, hretry ▸ hr, hcut₁⟩, hrun⟩

/-- A whole run of the loop: it makes one attempt more than the rounds it hands on, at most
one more than the delays left; every attempt but the last was retried, and the last ends it. -/
theorem retrying_run (hp : c.prepare url req = .ok out) (delays : List Nat) (m : UInt32)
    (ctx : Context) (net : Network) (hlive : ctx.check = .ok ()) :
    let run := (retrying c.retry (c.attempt url req) delays m).run (ctx, net)
    ∃ i ≤ delays.length, run.2.2.carried = net.carried ++ List.replicate (i + 1) out ∧
      (∀ j < i, RetriedAt c.retry ctx net out delays j) ∧
      EndsWith c.retry ctx net out delays m i run.1 := by
  -- induction on the delays left, over every attempt number, context and network; the round
  -- lemma either ends the loop or hands on to a shorter schedule
  induction delays generalizing m ctx net with
  | nil =>
    intro run
    rcases retrying_round c url req hp [] m ctx net hlive with ⟨hsent, hend⟩ | ⟨d, ds, hds, -⟩
    · exact ⟨0, Nat.le_refl 0, hsent, fun j hj => absurd hj (Nat.not_lt_zero j), hend⟩
    · cases hds
  | cons d ds ih =>
    intro run
    rcases retrying_round c url req hp (d :: ds) m ctx net hlive with
      ⟨hsent, hend⟩ | ⟨d', ds', hds, hfirst, hrun⟩
    · exact ⟨0, Nat.zero_le _, hsent, fun j hj => absurd hj (Nat.not_lt_zero j), hend⟩
    · obtain ⟨rfl, rfl⟩ := List.cons.inj hds
      have hlive₂ : ({ ctx with now := ctx.now + (net.answerAt out 0).1 + d } : Context).check =
          .ok () := Context.check_eq_ok_iff.mpr hfirst.2.2
      obtain ⟨i, hi, hsent, hretried, hend⟩ := ih (m + 1) _ _ hlive₂
      refine ⟨i + 1, by simp [hi], ?_, ?_, endsWith_succ.mp ?_⟩
      · rw [show run = _ from hrun, hsent, Network.carried_deliver, List.append_assoc]
        rfl
      · intro j hj
        cases j with
        | zero => exact hfirst
        | succ j => exact retriedAt_succ.mp (hretried j (by omega))
      · rw [show run = _ from hrun]
        exact hend

/-- A request with retries runs the loop over the waits its backoff yields on the network. -/
theorem HttpClient.execute_run (c : HttpClient) (req : Request) (ctx : Context) (net : Network) :
    (c.execute req).run (ctx, net) =
      (retrying c.retry (c.attempt (c.urlFor req.path) req)
        (c.retry.schedule (net.backoffDelays net.carried c.retry.backoff)) 0).run (ctx, net) :=
  rfl

/-- Every run of a request with retries, whatever delays the backoff yields.  The schedule has
one wait per retry, or fewer should the backoff yield fewer delays.  In a done context, or for
a message that cannot be prepared, the request fails at once with the reason and sends
nothing.  Otherwise it makes at most one attempt more than the schedule has waits, each
sending the message once: every attempt but the last was retried, and the last ends the run
as `EndsWith` says, the attempts counted in 32 bits from none made before. -/
theorem execute_retries_configured_failures (c : HttpClient) (req : Request) (ctx : Context)
    (net : Network) :
    let waits := c.retry.schedule (net.backoffDelays net.carried c.retry.backoff)
    let run := (c.execute req).run (ctx, net)
    waits.length = min c.retry.retryMax.toNat (net.backoffDelays net.carried c.retry.backoff).length ∧
    (∀ e, ctx.check = .error e → run = (.error e, ctx, net)) ∧
    (∀ e, ctx.check = .ok () → c.prepare (c.urlFor req.path) req = .error e →
      run = (.error e, ctx, net)) ∧
    (∀ out, ctx.check = .ok () → c.prepare (c.urlFor req.path) req = .ok out →
      ∃ i ≤ waits.length, run.2.2.carried = net.carried ++ List.replicate (i + 1) out ∧
        (∀ j < i, RetriedAt c.retry ctx net out waits j) ∧
        EndsWith c.retry ctx net out waits 0 i run.1) := by
  intro waits run
  have hrun : run = (retrying c.retry (c.attempt (c.urlFor req.path) req) waits 0).run (ctx, net) :=
    HttpClient.execute_run c req ctx net
  refine ⟨c.retry.length_schedule _, fun e hdone => ?_, fun e hlive hbad => ?_,
    fun out hlive hp => ?_⟩
  · -- the context is done before the first attempt, and its end is not retried
    rw [hrun]
    exact retrying_fatal _ _ _ (HttpClient.attempt_done c _ req hdone)
      (c.retry.retries_check_error hdone)
  · -- an invalid request is not retried
    obtain ⟨m, rfl⟩ := HttpClient.prepare_error hbad
    rw [hrun]
    exact retrying_fatal _ _ _ (HttpClient.attempt_unprepared c _ req hlive hbad) rfl
  · rw [hrun]
    exact retrying_run c _ req hp waits 0 ctx net hlive

/-- With 401 in the policy's list, an answer 401 is still not retried: over a network that
answers 401 and then 200, the request fails with an authentication failure after one attempt,
and the 200 is never asked for. -/
theorem auth_failure_not_retried :
    let c : HttpClient :=
      { baseUrl := "http://127.0.0.1:8080", auth := Auth.none, headers := jsonHeaders,
        retry := { retryMax := 1, statuses := [401] }, userAgent := defaultUserAgent }
    let net : Network :=
      { respond := fun sent _ => (0, .ok { status := (if sent.isEmpty then 401 else 200) }),
        backoffDelays := fun _ b => List.replicate b.maxTimes b.minDelay }
    let req := Request.new .get "rest/api/1.0/projects"
    let run := (c.execute req).run ({}, net)
    run.1 = .error (.authFailed "") ∧ run.2.2.carried.length = 1 := by
  intro c net req run
  -- the message can be prepared, and the first exchange ends in a live context
  have hok : (c.prepare (c.urlFor req.path) req).toBool = true := by decide +kernel
  obtain ⟨out, hp⟩ : ∃ out, c.prepare (c.urlFor req.path) req = .ok out := by
    cases h : c.prepare (c.urlFor req.path) req with
    | error e =>
      rw [h] at hok
      cases hok
    | ok out => exact ⟨out, rfl⟩
  have hatt : (c.attempt (c.urlFor req.path) req).run ({}, net) = _ :=
    c.attempt_answered _ req rfl hp rfl
  -- the first answer is a 401, which is an authentication failure
  have hmsg : errorMessage [] = "" := by decide +kernel
  have hans : HttpClient.answerOf (net.answerAt out 0).2 = .error (.authFailed "") := by
    simp [net, Network.answerAt, HttpClient.answerOf, Incoming.receive, classify, hmsg]
  rw [hans] at hatt
  have hrun : run = _ := (HttpClient.execute_run c req {} net).trans
    (retrying_fatal c.retry _ (m := 0) _ hatt rfl)
  rw [hrun]
  exact ⟨rfl, rfl⟩

end ForgeSync
