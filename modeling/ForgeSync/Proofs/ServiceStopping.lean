import ForgeSync.Proofs.Stopping
import ForgeSync.Proofs.Retry
import ForgeSync.GitHub.Kinds
import ForgeSync.Bitbucket.Kinds

/-!
# Work over HTTP stops when the caller's context ends

Over HTTP the context can end in the middle of a call: an exchange or a backoff that the
context does not outlive is cut short when the context ends, and the attempt or the wait
fails with the reason.  So here a context that ends during a run always ends it during one
exchange or one wait, and the run fails with the reason (`Respects.ended`).

An attempt checks the context before it sends, and a wait before it waits; the retry loop
never retries the end of the context.  So `HttpClient.execute` respects the context, and so
does every call over a channel whose transport is HTTP: a send, a read, a listing, and the
calls of every kind of both services, whose error handlers (a refused create read as an
existing resource, a missing organization or default branch read as none, a conflict read
as a stale version) all let the end of the context through.

Main statement: `context_end_stops_work`, for the store, the retry loop, every walk over
pages and every handle operation of every kind of both services.
-/

namespace ForgeSync

/-! ### The clock of a context that ends during work -/

namespace Context

variable {c : Context} {ms : Nat}

/-- Work cut short by the context stops at the moment the context ends, and there the context
is done for the reason it ends. -/
theorem race_check_of_cut (h : c.endsBy (c.now + ms) = true) :
    (c.race ms).2.check = .error c.endError := by
  rcases c with ⟨_ | t, _ | d, now⟩
  · simp [endsBy] at h
  · simp_all [race, endsBy, endError, check, Option.filter_some]
  · simp_all [race, endsBy, endError, check, Option.filter_some]
  · by_cases ht : t ≤ now + ms <;> by_cases hd : d ≤ now + ms <;> by_cases htd : t ≤ d <;>
      simp [race, endsBy, endError, check, Option.filter_some, ht, hd, htd] at h ⊢
    -- what is left are orderings of the two times that cannot be
    all_goals omega

/-- Work that ends before the context does leaves it live. -/
theorem race_check_of_live (h : c.endsBy (c.now + ms) = false) : (c.race ms).2.check = .ok () := by
  rw [race_eq_ok h, check_eq_ok_iff, endsBy_setNow]
  exact h

end Context

/-! ### One attempt and the retry loop -/

/-- The worlds of the retry loop: the caller's context and the network. -/
abbrev LoopRespects (run : Context × Network → Except ApiError Response × (Context × Network)) :
    Prop :=
  Respects (fun _ => True) (fun s => s.1.check) false run

namespace HttpClient

variable (c : HttpClient) (url : String) (req : Request)

/-- An attempt respects the context: it sends nothing in a done context, and an exchange the
context does not outlive fails with the reason. -/
theorem attempt_respects : LoopRespects (c.attempt url req).run where
  keeps _ _ := trivial
  stopped s e _ he := .inl (by rw [attempt_done c url req he]; exact ⟨rfl, .inl rfl⟩)
  ended s e _ hl he := by
    cases hp : c.prepare url req with
    | error e' =>
      rw [attempt_unprepared c url req hl hp] at he
      rw [hl] at he
      cases he
    | ok out =>
      rw [attempt_raced c url req hl hp] at he ⊢
      cases hcut : s.1.endsBy (s.1.now + (s.2.answerAt out 0).1) with
      | true =>
        -- the exchange was cut short: the attempt fails with the reason the context is done
        rw [Context.race_check_of_cut hcut] at he
        cases he
        simp only [Context.race_eq_error hcut]
        exact .inl rfl
      | false =>
        rw [Context.race_check_of_live hcut] at he
        cases he

end HttpClient

section Loop

variable (p : RetryPolicy) {att : StateM (Context × Network) (Except ApiError Response)}

variable (hatt : LoopRespects att.run) {s s₁ : Context × Network} {e e' : ApiError}
include hatt

/-- An error the loop retries is no end of the context: an attempt started live leaves the
context live when it fails so. -/
theorem live_of_retried (hl : s.1.check = .ok ()) (ha : att.run s = (.error e', s₁))
    (hr : p.retries e' = true) : s₁.1.check = .ok () := by
  cases hc : s₁.1.check with
  | ok u => rfl
  | error e₁ =>
    have h₁ := hatt.ended_false trivial hl (by rw [ha]; exact hc)
    rw [ha] at h₁
    cases h₁
    rw [RetryPolicy.retries_check_error p hc] at hr
    cases hr

/-- In a done context the loop stops with the reason at once, or touches nothing at all. -/
theorem retrying_stopped (delays : List Nat) (n : UInt32) (he : s.1.check = .error e) :
    (retrying p att delays n).run s = (.error e, s) ∨
      ∃ r, ∀ s₂, (retrying p att delays n).run s₂ = (r, s₂) := by
  rcases hatt.stopped_false trivial he with hA | ⟨r, hB⟩
  · exact .inl (retrying_fatal p att delays hA (RetryPolicy.retries_check_error p he))
  · rcases r with e' | r
    · cases hr : p.retries e' with
      | false => exact .inr ⟨_, fun s₂ => retrying_fatal p att delays (hB s₂ trivial) hr⟩
      | true =>
        cases delays with
        | nil => exact .inr ⟨_, fun s₂ => retrying_exhausted p att (hB s₂ trivial) hr⟩
        | cons d ds =>
          -- the attempt touched nothing, and the wait after it stops in the done context
          have hs : s.1.sleep d = (.error e, s.1) := by simp [Context.sleep, he]
          exact .inl (retrying_wait_cut p att d ds (hB s trivial) hr hs)
    · exact .inr ⟨_, fun s₂ => retrying_ok p att delays (hB s₂ trivial)⟩

/-- Started live, the loop ends with the reason when the context ends during it: during an
attempt, which the loop does not retry, or during a wait, which fails with it. -/
theorem retrying_ended : ∀ (delays : List Nat) (n : UInt32) (s : Context × Network) (e : ApiError),
    s.1.check = .ok () → ((retrying p att delays n).run s).2.1.check = .error e →
      ((retrying p att delays n).run s).1 = .error e := by
  intro delays n s e hl he
  rcases ha : att.run s with ⟨e' | r, s₁⟩
  · cases hr : p.retries e' with
    | false =>
      rw [retrying_fatal p att delays ha hr] at he ⊢
      have h₁ := hatt.ended_false trivial hl (by rw [ha]; exact he)
      rw [ha] at h₁
      exact h₁
    | true =>
      have hl₁ := live_of_retried p hatt hl ha hr
      cases delays with
      | nil =>
        rw [retrying_exhausted p att ha hr, hl₁] at he
        cases he
      | cons d ds =>
        cases hcut : s₁.1.endsBy (s₁.1.now + d) with
        | true =>
          -- the wait was cut short: it fails with the reason the context is done
          have hs : s₁.1.sleep d = (.error s₁.1.endError, (s₁.1.race d).2) := by
            rw [Context.sleep_of_live hl₁, ← Context.race_eq_error hcut]
          rw [retrying_wait_cut p att d ds ha hr hs] at he ⊢
          rw [Context.race_check_of_cut hcut] at he
          cases he
          rfl
        | false =>
          have hs : s₁.1.sleep d = (.ok (), (s₁.1.race d).2) := by
            rw [Context.sleep_of_live hl₁, Context.race_eq_ok hcut]
          rw [retrying_wait_next p att d ds ha hr hs] at he ⊢
          exact retrying_ended ds (n + 1) _ e (Context.race_check_of_live hcut) he
  · rw [retrying_ok p att delays ha, hatt.live_of_ok trivial hl ha] at he
    cases he

/-- The retry loop respects the context when its attempt does. -/
theorem retrying_respects (delays : List Nat) (n : UInt32) :
    LoopRespects (retrying p att delays n).run where
  keeps _ _ := trivial
  stopped s e _ he := (retrying_stopped p hatt delays n he).imp
    (fun h => by rw [h]; exact ⟨rfl, .inl rfl⟩) (fun ⟨r, hB⟩ => ⟨r, fun s₂ _ => hB s₂⟩)
  ended s e _ hl he := .inl (retrying_ended p hatt delays n s e hl he)

end Loop

/-- In a done context a request is not sent, and fails with the reason. -/
theorem execute_done {c : HttpClient} {req : Request} {ctx : Context} {net : Network}
    {e : ApiError} (h : ctx.check = .error e) :
    (c.execute req).run (ctx, net) = (.error e, ctx, net) :=
  (HttpClient.execute_run c req ctx net).trans
    (retrying_fatal c.retry _ _ (HttpClient.attempt_done c _ req h)
      (RetryPolicy.retries_check_error _ h))

/-- A request with retries respects the context: its loop does, over whatever waits the
backoff yields on the network it starts on. -/
theorem execute_respects (c : HttpClient) (req : Request) : LoopRespects (c.execute req).run where
  keeps _ _ := trivial
  stopped s e _ he := .inl (by rw [execute_done he]; exact ⟨rfl, .inl rfl⟩)
  ended s e _ hl he := by
    rw [HttpClient.execute_run] at he ⊢
    exact (retrying_respects c.retry (HttpClient.attempt_respects c _ req) _ 0).ended s e
      trivial hl he

/-! ### Channels over HTTP -/

namespace Channel

/-- A channel whose transport is HTTP. -/
def OverHttp (ch : Channel) : Prop := ∃ client net, ch.transport = .http client net

/-- A run over channels whose transport is HTTP respects the caller's context. -/
abbrev HttpRespects {β : Type} (run : Channel → Except ApiError β × Channel) : Prop :=
  Respects OverHttp (fun ch => ch.context.check) false run

variable {ch : Channel} {client : HttpClient} {net : Network}

theorem send_runOn_http (ht : ch.transport = .http client net) (req : Request) :
    (send req).runOn ch = (((client.execute req).run (ch.context, net)).1,
      { ch with transport := .http client ((client.execute req).run (ch.context, net)).2.2,
                context := ((client.execute req).run (ch.context, net)).2.1 }) := by
  simp only [send, Call.runOn_bind, Call.runOn_get, ht]
  rfl

/-- A send over HTTP respects the context: it sends nothing in a done one, and fails with the
reason when the context ends while it runs. -/
theorem send_respects (req : Request) : HttpRespects (send req).runOn where
  keeps ch := by
    rintro ⟨client, net, ht⟩
    rw [send_runOn_http ht]
    exact ⟨client, _, rfl⟩
  stopped ch e := by
    rintro ⟨client, net, ht⟩ he
    refine .inl ?_
    rw [send_runOn_http ht, execute_done he]
    refine ⟨?_, .inl rfl⟩
    -- the channel is put back as it was
    rcases ch with ⟨ctx, tr⟩
    cases ht
    rfl
  ended ch e := by
    rintro ⟨client, net, ht⟩ hl he
    rw [send_runOn_http ht] at he ⊢
    exact .inl ((execute_respects client req).ended_false trivial hl he)

theorem fetch_respects {α : Type} (req : Request) (read : Json → Json.Decoded α) :
    HttpRespects (fetch req read).runOn :=
  Respects.bind (send_respects req) fun _ =>
    Respects.bind (Respects.ofExcept _) fun _ => Respects.pure _

theorem pageBudget_http (h : ch.OverHttp) : ch.pageBudget = 65536 := by
  obtain ⟨client, net, ht⟩ := h
  simp [pageBudget, ht]

theorem listAll_runOn {α : Type} (opts : PageOptions) (start : Cursor)
    (fetchPage : Cursor → Call Channel (Page α)) :
    (listAll opts start fetchPage).runOn ch =
      resultOn (allPages (fun ch => ch.context.check) (fun c => (fetchPage c).run) opts
        ch.pageBudget start) ch :=
  rfl

/-- A listing over HTTP respects the context when fetching one page does. -/
theorem listAll_respects {α : Type} (opts : PageOptions) (start : Cursor)
    {fetchPage : Cursor → Call Channel (Page α)} (hf : ∀ cur, HttpRespects (fetchPage cur).runOn) :
    HttpRespects (listAll opts start fetchPage).runOn := by
  have hall : HttpRespects (resultOn (allPages (fun ch => ch.context.check)
      (fun c => (fetchPage c).run) opts 65536 start)) := allPages_respects hf 65536 start
  exact Respects.congr (fun ch hch => by rw [listAll_runOn, pageBudget_http hch]) hall

end Channel

/-! ### GitHub -/

namespace GitHub

open Channel Resource

/-- A create refused as an existing resource or as invalid lets the end of the context
through. -/
theorem fetchCreated_respects {α : Type} (req : Request) (read : Json → Json.Decoded α) :
    HttpRespects (fetchCreated req read).runOn :=
  Respects.tryCatch (fetch_respects req read) (fun _ => Respects.throw _)
    fun _ _ he => by rcases Context.check_error_cases he with rfl | rfl <;> rfl

theorem pagedUpTo_respects {α : Type} (opts : PageOptions) (req : Request)
    (read : Json → Json.Decoded α) (maxItems : Option Nat) :
    HttpRespects (pagedUpTo opts req read maxItems).runOn :=
  listAll_respects _ _ fun _ =>
    Respects.bind (send_respects _) fun _ => Respects.bind (Respects.ofExcept _) fun _ =>
      Respects.pure _

theorem repositoryKind_callsRespect :
    repositoryKind.CallsRespect OverHttp (fun ch => ch.context.check) where
  fetch _ := Respects.bind (fetch_respects _ _) fun ⟨_, _⟩ => Respects.ofExcept _
  create _ _ := Respects.bind (fetchCreated_respects _ _) fun ⟨_, _⟩ => Respects.ofExcept _
  update _ _ := Respects.bind (fetch_respects _ _) fun ⟨_, _⟩ => Respects.ofExcept _
  delete _ _ := Respects.bind (send_respects _) fun _ => Respects.pure _

theorem deployKeyKind_callsRespect (opts : PageOptions) :
    (deployKeyKind opts).CallsRespect OverHttp (fun ch => ch.context.check) where
  fetch _ := Respects.bind
    (Respects.bind (pagedUpTo_respects _ _ _ _) fun _ => Respects.ofExcept _)
    fun _ => Respects.ofExcept _
  create _ _ := Respects.bind (fetchCreated_respects _ _) fun ⟨_, _⟩ =>
    Respects.bind (Respects.ofExcept _) fun _ => Respects.pure _
  update _ _ := Respects.throw _
  delete _ _ := Respects.bind (send_respects _) fun _ => Respects.pure _

/-- Reading an organization's base permission takes only a missing organization for none. -/
theorem organizationLevel_respects (organization : String) :
    HttpRespects (Access.organizationLevel organization).runOn := by
  refine Respects.bind (Respects.tryCatch (Respects.map _ (fetch_respects _ _))
    (fun e => ?_) fun _ _ he => by simp [Context.check_error_not_found he]) fun found => ?_
  · split
    · exact Respects.pure _
    · exact Respects.throw _
  · repeat' split
    all_goals first | exact Respects.pure _ | exact Respects.map _ (Respects.ofExcept _)

theorem putGrant_respects (ref : TeamAccessRef) (l : Level) :
    HttpRespects (Access.putGrant ref l).runOn :=
  Respects.bind (Respects.ofExcept _) fun _ =>
    Respects.bind (send_respects _) fun _ => Respects.pure _

theorem teamAccessKind_callsRespect :
    teamAccessKind.CallsRespect OverHttp (fun ch => ch.context.check) where
  fetch _ := Respects.bind (fetch_respects _ _) fun ⟨_, _⟩ =>
    Respects.bind (Respects.ofExcept _) fun _ =>
      Respects.bind (organizationLevel_respects _) fun _ => by
        dsimp only
        split
        · exact Respects.bind (Respects.throw _) fun _ => Respects.pure _
        · exact Respects.pure _
  create _ _ := Respects.bind (putGrant_respects _ _) fun _ => Respects.pure _
  update _ g := by
    show HttpRespects (Access.update _ g).runOn
    unfold Access.update
    split
    · exact Respects.throw _
    · exact Respects.bind (putGrant_respects _ _) fun _ => Respects.pure _
  delete _ _ := Respects.bind (send_respects _) fun _ => Respects.pure _

theorem pullRequestKind_callsRespect (opts : PageOptions) :
    (pullRequestKind opts).CallsRespect OverHttp (fun ch => ch.context.check) where
  fetch _ := Respects.bind (pagedUpTo_respects _ _ _ _) fun _ =>
    Respects.bind (Respects.ofExcept _) fun _ =>
      Respects.bind (Respects.ofExcept _) fun _ => Respects.pure _
  create _ _ := Respects.bind (fetchCreated_respects _ _) fun ⟨_, _⟩ => Respects.ofExcept _
  update _ _ := Respects.bind (fetch_respects _ _) fun ⟨_, _⟩ => Respects.ofExcept _
  delete _ _ := Respects.bind (send_respects _) fun _ => Respects.pure _

end GitHub

/-! ### Bitbucket Server -/

namespace Bitbucket

open Channel Resource

theorem pagedUpTo_respects {α : Type} (opts : PageOptions) (req : Request)
    (read : Json → Json.Decoded α) (maxItems : Option Nat) :
    HttpRespects (pagedUpTo opts req read maxItems).runOn :=
  listAll_respects _ _ fun _ =>
    Respects.bind (send_respects _) fun _ => Respects.bind (Respects.ofExcept _) fun _ =>
      Respects.pure _

/-- Asking for a default branch takes only a missing one for none. -/
theorem defaultBranchOf_respects (ref : RepositoryRef) :
    HttpRespects (Repo.defaultBranchOf ref).runOn := by
  refine Respects.bind (Respects.tryCatch (Respects.map _ (send_respects _))
    (fun e => ?_) fun _ _ he => by simp [Context.check_error_not_found he]) fun answer => ?_
  · split
    · exact Respects.pure _
    · exact Respects.throw _
  · repeat' split
    all_goals first
      | exact Respects.pure _
      | exact Respects.bind (Respects.ofExcept _) fun _ => Respects.pure _

theorem repositoryKind_callsRespect :
    repositoryKind.CallsRespect OverHttp (fun ch => ch.context.check) where
  fetch _ := Respects.bind (fetch_respects _ _) fun ⟨_, _⟩ =>
    Respects.bind (Respects.ofExcept _) fun _ => by
      dsimp only
      split
      · exact Respects.bind (defaultBranchOf_respects _) fun _ => Respects.pure _
      · exact Respects.pure _
  create _ _ := Respects.bind (fetch_respects _ _) fun ⟨_, _⟩ => Respects.ofExcept _
  update _ _ := Respects.bind (fetch_respects _ _) fun ⟨_, _⟩ => Respects.ofExcept _
  delete _ _ := Respects.bind (send_respects _) fun _ => Respects.pure _

theorem deployKeyKind_callsRespect (opts : PageOptions) :
    (deployKeyKind opts).CallsRespect OverHttp (fun ch => ch.context.check) where
  fetch _ := Respects.bind
    (Respects.bind (pagedUpTo_respects _ _ _ _) fun _ => Respects.ofExcept _)
    fun _ => Respects.ofExcept _
  create _ _ := Respects.bind (Respects.ofExcept _) fun _ =>
    Respects.bind (fetch_respects _ _) fun ⟨_, _⟩ => Respects.ofExcept _
  update _ _ := Respects.throw _
  delete _ _ := Respects.bind (send_respects _) fun _ => Respects.pure _

theorem grants_respects (opts : PageOptions) (path : String) (scope : Scope)
    (filter : Option String) : HttpRespects (Access.grants opts path scope filter).runOn :=
  Respects.bind (pagedUpTo_respects _ _ _ _) fun _ => Respects.ofExcept _

theorem grant_respects (ref : TeamAccessRef) (l : Level) : HttpRespects (Access.grant ref l).runOn :=
  Respects.bind (Respects.ofExcept _) fun _ =>
    Respects.bind (send_respects _) fun _ => Respects.pure _

theorem teamAccessKind_callsRespect (opts : PageOptions) :
    (teamAccessKind opts).CallsRespect OverHttp (fun ch => ch.context.check) where
  fetch _ := Respects.bind (grants_respects _ _ _ _) fun _ =>
    Respects.bind (grants_respects _ _ _ _) fun _ => by
      dsimp only
      split
      · exact Respects.bind (Respects.throw _) fun _ => Respects.pure _
      · exact Respects.pure _
  create _ _ := Respects.bind (grant_respects _ _) fun _ => Respects.pure _
  update _ g := by
    show HttpRespects (Access.update _ g).runOn
    unfold Access.update
    split
    · exact Respects.throw _
    · exact Respects.bind (grant_respects _ _) fun _ => Respects.pure _
  delete _ _ := Respects.bind (send_respects _) fun _ => Respects.pure _

/-- An update refused as a conflict is read as a stale version; the end of the context goes
through. -/
theorem pullRequestKind_callsRespect (opts : PageOptions) :
    (pullRequestKind opts).CallsRespect OverHttp (fun ch => ch.context.check) where
  fetch _ := Respects.bind (pagedUpTo_respects _ _ _ _) fun _ =>
    Respects.bind (Respects.ofExcept _) fun _ =>
      Respects.bind (Respects.ofExcept _) fun _ => Respects.pure _
  create _ _ := Respects.bind (fetch_respects _ _) fun ⟨_, _⟩ =>
    Respects.bind (Respects.ofExcept _) fun _ => Respects.pure _
  update _ _ := Respects.bind
    (Respects.tryCatch (fetch_respects _ _) (fun _ => Respects.throw _)
      fun _ _ he => by rcases Context.check_error_cases he with rfl | rfl <;> rfl)
    fun ⟨_, _⟩ => Respects.bind (Respects.ofExcept _) fun _ => Respects.pure _
  delete _ _ := Respects.bind (send_respects _) fun _ => Respects.pure _

end Bitbucket

/-! ### Every run -/

open Resource in
/-- Nothing new starts once the caller's context is done, and its end reaches the caller
unchanged, wrapped only by a recreate whose create step raised it: in every operation on a
handle over the store, in every request with retries, in every walk over pages (which asks
for a page only in a live context, so that a fetch guarded by the context changes nothing,
and which respects the context whenever its page fetch does), and in every operation on a
handle of every kind of both services over HTTP. -/
theorem context_end_stops_work :
    (∀ (α : Type) [DecidableEq α] [Spec α] (strategy : Strategy),
      (storeKind strategy : Kind (Store α) String (StoredObject α) α).HandlesRespect
        (fun _ => True) (fun s => s.context.check)) ∧
    (∀ (c : HttpClient) (req : Request), LoopRespects (c.execute req).run) ∧
    (∀ (σ α : Type) (check : σ → Except ApiError Unit)
        (fetch : Cursor → StateM σ (Except ApiError (Page α))) (opts : PageOptions) (fuel : Nat)
        (cursor : Cursor) (s : σ),
        (allPages check (guardedFetch check fetch) opts fuel cursor).run s =
          (allPages check fetch opts fuel cursor).run s) ∧
    (∀ (σ α : Type) (scope : σ → Prop) (check : σ → Except ApiError Unit)
        (fetch : Cursor → StateM σ (Except ApiError (Page α))) (opts : PageOptions) (fuel : Nat)
        (cursor : Cursor), (∀ cur, Respects scope check false (fetch cur).run) →
        Respects scope check false (resultOn (allPages check fetch opts fuel cursor))) ∧
    GitHub.repositoryKind.HandlesRespect Channel.OverHttp (fun ch => ch.context.check) ∧
    (∀ opts, (GitHub.deployKeyKind opts).HandlesRespect Channel.OverHttp
      (fun ch => ch.context.check)) ∧
    GitHub.teamAccessKind.HandlesRespect Channel.OverHttp (fun ch => ch.context.check) ∧
    (∀ opts, (GitHub.pullRequestKind opts).HandlesRespect Channel.OverHttp
      (fun ch => ch.context.check)) ∧
    Bitbucket.repositoryKind.HandlesRespect Channel.OverHttp (fun ch => ch.context.check) ∧
    (∀ opts, (Bitbucket.deployKeyKind opts).HandlesRespect Channel.OverHttp
      (fun ch => ch.context.check)) ∧
    (∀ opts, (Bitbucket.teamAccessKind opts).HandlesRespect Channel.OverHttp
      (fun ch => ch.context.check)) ∧
    (∀ opts, (Bitbucket.pullRequestKind opts).HandlesRespect Channel.OverHttp
      (fun ch => ch.context.check)) := by
  -- over HTTP the end of the context is never a not-found error either
  have hnf : ∀ (ch : Channel) e, ch.context.check = .error e → e.isNotFound = false :=
    fun _ _ => Context.check_error_not_found
  exact ⟨fun _ _ _ => Store.storeKind_handlesRespect, execute_respects,
    fun _ _ _ _ _ _ _ s => allPages_guarded _ _ s,
    fun _ _ _ _ _ _ _ _ hf => allPages_respects hf _ _,
    GitHub.repositoryKind_callsRespect.handles hnf,
    fun opts => (GitHub.deployKeyKind_callsRespect opts).handles hnf,
    GitHub.teamAccessKind_callsRespect.handles hnf,
    fun opts => (GitHub.pullRequestKind_callsRespect opts).handles hnf,
    Bitbucket.repositoryKind_callsRespect.handles hnf,
    fun opts => (Bitbucket.deployKeyKind_callsRespect opts).handles hnf,
    fun opts => (Bitbucket.teamAccessKind_callsRespect opts).handles hnf,
    fun opts => (Bitbucket.pullRequestKind_callsRespect opts).handles hnf⟩

end ForgeSync
