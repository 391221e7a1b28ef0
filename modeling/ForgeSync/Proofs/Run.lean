import ForgeSync.Resource.Handle

/-!
# Running calls and handle operations

A call is run on a world by `Call.runOn`; this file gives the equations that run `pure`, `bind`,
`throw`, `get`, `set` and `tryCatch`, so that later proofs never unfold the monad.

Each handle operation then gets one lemma per way it can go, in the style of a big-step
semantics: the hypotheses name what each call of the kind returned, and the conclusion is the
operation's result, the handle after it and the world after it.  The kind stays arbitrary here,
so these lemmas describe every behaviour of fetch, create, update and delete at once; the
in-memory store and the services instantiate them.

The equations compute a run from what its calls answered.  A property of every run goes the
other way: `create_run_cases`, `update_run_cases`, `delete_run_cases` and `reconcile_run_cases`
say everything each operation can do, so such a proof is one case split over their
disjuncts.
-/

namespace ForgeSync

namespace Call

variable {σ α β : Type}

@[simp] theorem runOn_pure (a : α) (s : σ) : (pure a : Call σ α).runOn s = (.ok a, s) := rfl

@[simp] theorem runOn_throw (e : ApiError) (s : σ) :
    (throw e : Call σ α).runOn s = (.error e, s) := rfl

@[simp] theorem runOn_get (s : σ) : (get : Call σ σ).runOn s = (.ok s, s) := rfl

@[simp] theorem runOn_set (s s' : σ) : (set s' : Call σ PUnit).runOn s = (.ok ⟨⟩, s') := rfl

@[simp] theorem runOn_ofExcept (r : Except ApiError α) (s : σ) :
    (Call.ofExcept r).runOn s = (r, s) := rfl

/-- A bind runs its first call and, when that succeeds, the continuation on the world it left;
a failure stops the run where it happened. -/
theorem runOn_bind (x : Call σ α) (f : α → Call σ β) (s : σ) :
    (x >>= f).runOn s = match x.runOn s with
      | (.ok a, s') => (f a).runOn s'
      | (.error e, s') => (.error e, s') := by
  simp only [runOn, ExceptT.run_bind, StateT.run_bind]
  rcases (ExceptT.run x).run s with ⟨_ | a, s'⟩ <;> rfl

/-- A handler runs only on a failure, from the world the failure left. -/
theorem runOn_tryCatch (x : Call σ α) (f : ApiError → Call σ α) (s : σ) :
    (tryCatch x f).runOn s = match x.runOn s with
      | (.ok a, s') => (.ok a, s')
      | (.error e, s') => (f e).runOn s' := by
  rcases hx : x.runOn s with ⟨_ | a, s'⟩ <;>
  · change StateT.run x s = _ at hx
    simp only [runOn, tryCatch, tryCatchThe, MonadExceptOf.tryCatch, ExceptT.tryCatch,
      ExceptT.run_mk, StateT.run_bind, hx]
    rfl

theorem runOn_bind_ok {x : Call σ α} {f : α → Call σ β} {s s' : σ} {a : α}
    (hx : x.runOn s = (.ok a, s')) : (x >>= f).runOn s = (f a).runOn s' := by
  rw [runOn_bind, hx]

theorem runOn_bind_error {x : Call σ α} {f : α → Call σ β} {s s' : σ} {e : ApiError}
    (hx : x.runOn s = (.error e, s')) : (x >>= f).runOn s = (.error e, s') := by
  rw [runOn_bind, hx]

end Call

namespace Resource

namespace Handle

variable {σ ι ρ α : Type} (k : Kind σ ι ρ α) {h : Handle ι ρ α} {s s₁ s₂ : σ}

theorem send_of_recreate (hk : k.strategy = .recreate) (reference : ι) (raw : ρ) :
    send k reference raw = recreate k reference raw := by
  simp only [send, hk]

theorem send_of_ne_recreate (hk : k.strategy ≠ .recreate) (reference : ι) (raw : ρ) :
    send k reference raw = k.update reference raw := by
  cases hs : k.strategy with
  | recreate => exact absurd hs hk
  | patch => simp only [send, hs]
  | replace => simp only [send, hs]

/-! ### Fetch -/

theorem fetch_run_ok {raw : ρ} (hf : (k.fetch h.reference).runOn s = (.ok raw, s₁)) :
    (fetch k h).run s = ((.ok raw, { h with raw := some raw, state := .fetched }), s₁) := by
  simp only [fetch, StateT.run_bind]
  rw [show (ExceptT.run (k.fetch h.reference)).run s = (.ok raw, s₁) from hf]
  rfl

theorem fetch_run_error {e : ApiError} (hf : (k.fetch h.reference).runOn s = (.error e, s₁)) :
    (fetch k h).run s = ((.error e, h), s₁) := by
  simp only [fetch, StateT.run_bind]
  rw [show (ExceptT.run (k.fetch h.reference)).run s = (.error e, s₁) from hf]
  rfl

/-! ### Create -/

theorem create_run_invalid {e : ApiError} (hv : h.requireDesired k >>= k.validate = .error e) :
    (create k h).run s = ((.error e, h), s) := by
  simp only [create, hv]
  rfl

theorem create_run_ok {d : α} {raw : ρ} (hv : h.requireDesired k >>= k.validate = .ok d)
    (hc : (k.create h.reference d).runOn s = (.ok raw, s₁)) :
    (create k h).run s =
      ((.ok raw, { h with desired := some d, raw := some raw, state := .created }), s₁) := by
  simp only [create, hv, StateT.run_bind]
  rw [show (ExceptT.run (k.create h.reference d)).run s = (.ok raw, s₁) from hc]
  rfl

theorem create_run_error {d : α} {e : ApiError} (hv : h.requireDesired k >>= k.validate = .ok d)
    (hc : (k.create h.reference d).runOn s = (.error e, s₁)) :
    (create k h).run s = ((.error e, h), s₁) := by
  simp only [create, hv, StateT.run_bind]
  rw [show (ExceptT.run (k.create h.reference d)).run s = (.error e, s₁) from hc]
  rfl

/-- Everything a create can do: refuse the spec before any call, or call the kind's create
with the validated spec, keeping the handle when that fails and holding the created raw form
when it succeeds. -/
theorem create_run_cases {r : Except ApiError ρ} {h' : Handle ι ρ α}
    (hrun : (create k h).run s = ((r, h'), s₁)) :
    (h' = h ∧ s₁ = s ∧ ∃ e, r = .error e) ∨
    ∃ d, h.requireDesired k >>= k.validate = .ok d ∧
      ((∃ e, (k.create h.reference d).runOn s = (.error e, s₁) ∧ r = .error e ∧ h' = h) ∨
        ∃ raw, (k.create h.reference d).runOn s = (.ok raw, s₁) ∧ r = .ok raw ∧
          h' = { h with desired := some d, raw := some raw, state := .created }) := by
  cases hv : h.requireDesired k >>= k.validate with
  | error e =>
    rw [create_run_invalid k hv] at hrun
    cases hrun
    exact .inl ⟨rfl, rfl, e, rfl⟩
  | ok d =>
    refine .inr ⟨d, rfl, ?_⟩
    rcases hc : (k.create h.reference d).runOn s with ⟨e | raw, s₂⟩
    · rw [create_run_error k hv hc] at hrun
      cases hrun
      exact .inl ⟨e, rfl, rfl, rfl⟩
    · rw [create_run_ok k hv hc] at hrun
      cases hrun
      exact .inr ⟨raw, rfl, rfl, rfl⟩

/-! ### Update -/

theorem update_run_uncached (hr : h.raw = none) :
    (update k h).run s = ((.error (.invalidRequest
      (k.describe h.reference ++ " must be fetched before it is updated")), h), s) := by
  simp only [update, hr]
  rfl

theorem update_run_ok {raw r : ρ} (hr : h.raw = some raw)
    (hs : (send k h.reference raw).runOn s = (.ok r, s₁)) :
    (update k h).run s = ((.ok r, { h with raw := some r, state := .updated }), s₁) := by
  have hs' : (ExceptT.run (send k h.reference raw)).run s = (.ok r, s₁) := hs
  simp only [update, hr]
  rw [StateT.run_bind, hs']
  rfl

/-- A failed update keeps the handle, except after a failed recreate: the resource is gone,
so the cache is dropped and the handle is deleted. -/
theorem update_run_error {raw : ρ} {e : ApiError} (hr : h.raw = some raw)
    (hs : (send k h.reference raw).runOn s = (.error e, s₁)) :
    (update k h).run s = if e.kind = .recreateFailed
      then ((.error e, { h with raw := none, state := .deleted }), s₁) else ((.error e, h), s₁) := by
  have hs' : (ExceptT.run (send k h.reference raw)).run s = (.error e, s₁) := hs
  simp only [update, hr]
  apply Id.ext
  rw [StateT.run_bind, hs', Id.run_bind]
  by_cases he : e.kind = .recreateFailed
  · simp only [he, Id.run, if_true]
    rfl
  · simp only [he, Id.run, if_false]
    rfl

/-- Everything an update can do: refuse a handle that holds no raw form, or send the cached
raw form.  A failed send keeps the handle, or forgets the cache and stands deleted after a
failed recreate; a successful one holds the raw form the service answered. -/
theorem update_run_cases {r : Except ApiError ρ} {h' : Handle ι ρ α}
    (hrun : (update k h).run s = ((r, h'), s₁)) :
    (h.raw = none ∧ h' = h ∧ s₁ = s ∧ ∃ e, r = .error e) ∨
    ∃ raw, h.raw = some raw ∧
      ((∃ e, (send k h.reference raw).runOn s = (.error e, s₁) ∧ r = .error e ∧
          (e.kind = .recreateFailed ∧ h' = { h with raw := none, state := .deleted } ∨
            e.kind ≠ .recreateFailed ∧ h' = h)) ∨
        ∃ updated, (send k h.reference raw).runOn s = (.ok updated, s₁) ∧ r = .ok updated ∧
          h' = { h with raw := some updated, state := .updated }) := by
  cases hr : h.raw with
  | none =>
    rw [update_run_uncached k hr] at hrun
    cases hrun
    exact .inl ⟨rfl, rfl, rfl, _, rfl⟩
  | some raw =>
    refine .inr ⟨raw, rfl, ?_⟩
    rcases hs : (send k h.reference raw).runOn s with ⟨e | updated, s₂⟩
    · rw [update_run_error k hr hs] at hrun
      by_cases he : e.kind = .recreateFailed
      · rw [if_pos he] at hrun
        cases hrun
        exact .inl ⟨e, rfl, rfl, .inl ⟨he, rfl⟩⟩
      · rw [if_neg he] at hrun
        cases hrun
        exact .inl ⟨e, rfl, rfl, .inr ⟨he, rfl⟩⟩
    · rw [update_run_ok k hr hs] at hrun
      cases hrun
      exact .inr ⟨updated, rfl, rfl, rfl⟩

/-! ### Recreate -/

section Recreate

variable {reference : ι} {raw : ρ} {spec : α}

theorem recreate_runOn_invalid {e : ApiError} (hv : k.validate (k.specOf raw) = .error e) :
    (recreate k reference raw).runOn s = (.error e, s) := by
  simp only [recreate, Call.runOn_bind, Call.runOn_ofExcept, hv]

theorem recreate_runOn_delete_error {e : ApiError} (hv : k.validate (k.specOf raw) = .ok spec)
    (hd : (k.delete reference raw).runOn s = (.error e, s₁)) :
    (recreate k reference raw).runOn s = (.error e, s₁) := by
  simp only [recreate, Call.runOn_bind, Call.runOn_ofExcept, hv, hd]

theorem recreate_runOn_ok {r : ρ} (hv : k.validate (k.specOf raw) = .ok spec)
    (hd : (k.delete reference raw).runOn s = (.ok (), s₁))
    (hc : (k.create reference spec).runOn s₁ = (.ok r, s₂)) :
    (recreate k reference raw).runOn s = (.ok r, s₂) := by
  simp only [recreate, Call.runOn_bind, Call.runOn_ofExcept, hv, hd, Call.runOn_tryCatch, hc]

/-- A create that fails after the delete succeeded is reported as a failed recreate, from the
world the create left. -/
theorem recreate_runOn_create_error {e : ApiError} (hv : k.validate (k.specOf raw) = .ok spec)
    (hd : (k.delete reference raw).runOn s = (.ok (), s₁))
    (hc : (k.create reference spec).runOn s₁ = (.error e, s₂)) :
    (recreate k reference raw).runOn s = (.error (.recreateFailed (k.describe reference) e), s₂) := by
  simp only [recreate, Call.runOn_bind, Call.runOn_ofExcept, hv, hd, Call.runOn_tryCatch, hc,
    Call.runOn_throw]

end Recreate

/-! ### Delete -/

theorem deleteRaw_run_ok {raw : ρ} (hd : (k.delete h.reference raw).runOn s = (.ok (), s₁)) :
    (deleteRaw k h raw).run s = ((.ok (), { h with raw := none, state := .deleted }), s₁) := by
  have hd' : (ExceptT.run (k.delete h.reference raw)).run s = (.ok (), s₁) := hd
  simp only [deleteRaw, StateT.run_bind, hd']
  rfl

/-- A failed delete puts the raw form it was given back into the cache. -/
theorem deleteRaw_run_error {raw : ρ} {e : ApiError}
    (hd : (k.delete h.reference raw).runOn s = (.error e, s₁)) :
    (deleteRaw k h raw).run s = ((.error e, { h with raw := some raw }), s₁) := by
  have hd' : (ExceptT.run (k.delete h.reference raw)).run s = (.error e, s₁) := hd
  simp only [deleteRaw, StateT.run_bind, hd']
  rfl

theorem delete_run_cached {raw : ρ} (hr : h.raw = some raw) :
    (delete k h).run s = (deleteRaw k { h with raw := none } raw).run s := by
  simp only [delete, hr]

theorem delete_run_fetched {raw : ρ} (hr : h.raw = none)
    (hf : (k.fetch h.reference).runOn s = (.ok raw, s₁)) :
    (delete k h).run s = (deleteRaw k h raw).run s₁ := by
  have hf' : (ExceptT.run (k.fetch h.reference)).run s = (.ok raw, s₁) := hf
  simp only [delete, hr, StateT.run_bind, hf']
  rfl

theorem delete_run_fetch_error {e : ApiError} (hr : h.raw = none)
    (hf : (k.fetch h.reference).runOn s = (.error e, s₁)) :
    (delete k h).run s = ((.error e, h), s₁) := by
  have hf' : (ExceptT.run (k.fetch h.reference)).run s = (.error e, s₁) := hf
  simp only [delete, hr, StateT.run_bind, hf']
  rfl

/-- A delete of a raw form empties the cache and deletes the handle, or puts the raw form back
into the cache when the kind's delete fails. -/
theorem deleteRaw_run_cases {raw : ρ} {r : Except ApiError Unit} {h' : Handle ι ρ α}
    (hrun : (deleteRaw k h raw).run s = ((r, h'), s₁)) :
    (∃ e, (k.delete h.reference raw).runOn s = (.error e, s₁) ∧ r = .error e ∧
        h' = { h with raw := some raw }) ∨
      (k.delete h.reference raw).runOn s = (.ok (), s₁) ∧ r = .ok () ∧
        h' = { h with raw := none, state := .deleted } := by
  rcases hd : (k.delete h.reference raw).runOn s with ⟨e | ⟨⟩, s₂⟩
  · rw [deleteRaw_run_error k hd] at hrun
    cases hrun
    exact .inl ⟨e, rfl, rfl, rfl⟩
  · rw [deleteRaw_run_ok k hd] at hrun
    cases hrun
    exact .inr ⟨rfl, rfl, rfl⟩

/-- Everything a delete can do: a handle with no raw form whose fetch fails is kept;
otherwise the kind's delete is called on the cached raw form, or on the fetched one from the
world the fetch left, and `deleteRaw_run_cases` says what follows. -/
theorem delete_run_cases {r : Except ApiError Unit} {h' : Handle ι ρ α}
    (hrun : (delete k h).run s = ((r, h'), s₁)) :
    (h.raw = none ∧ h' = h ∧
      ∃ e, (k.fetch h.reference).runOn s = (.error e, s₁) ∧ r = .error e) ∨
    ∃ raw s₂, (h.raw = some raw ∧ s₂ = s ∨
        h.raw = none ∧ (k.fetch h.reference).runOn s = (.ok raw, s₂)) ∧
      ((∃ e, (k.delete h.reference raw).runOn s₂ = (.error e, s₁) ∧ r = .error e ∧
          h' = { h with raw := some raw }) ∨
        (k.delete h.reference raw).runOn s₂ = (.ok (), s₁) ∧ r = .ok () ∧
          h' = { h with raw := none, state := .deleted }) := by
  cases hr : h.raw with
  | some raw =>
    rw [delete_run_cached k hr] at hrun
    exact .inr ⟨raw, s, .inl ⟨rfl, rfl⟩, deleteRaw_run_cases k hrun⟩
  | none =>
    rcases hf : (k.fetch h.reference).runOn s with ⟨e | raw, s₂⟩
    · rw [delete_run_fetch_error k hr hf] at hrun
      cases hrun
      exact .inl ⟨rfl, rfl, e, rfl, rfl⟩
    · rw [delete_run_fetched k hr hf] at hrun
      exact .inr ⟨raw, s₂, .inr ⟨rfl, rfl⟩, deleteRaw_run_cases k hrun⟩

/-! ### Reconcile -/

section Reconcile

variable {d : α}

theorem reconcile_run_invalid {e : ApiError} (hv : h.requireDesired k >>= k.validate = .error e) :
    (reconcile k h).run s = ((.error e, h), s) := by
  simp only [reconcile, hv]
  rfl

theorem reconcile_run_satisfied {raw : ρ} (hv : h.requireDesired k >>= k.validate = .ok d)
    (hf : (k.fetch h.reference).runOn s = (.ok raw, s₁)) (hsat : k.satisfies raw d = true) :
    (reconcile k h).run s =
      ((.ok false, { h with desired := some d, raw := some raw, state := .fetched }), s₁) := by
  have hf' : (ExceptT.run (k.fetch h.reference)).run s = (.ok raw, s₁) := hf
  simp only [reconcile, hv]
  apply Id.ext
  rw [StateT.run_bind, hf', Id.run_bind]
  simp only [Id.run, hsat, if_true]
  rfl

theorem reconcile_run_unsatisfied {raw : ρ} {r : Except ApiError ρ} {h' : Handle ι ρ α}
    (hv : h.requireDesired k >>= k.validate = .ok d)
    (hf : (k.fetch h.reference).runOn s = (.ok raw, s₁)) (hsat : k.satisfies raw d = false)
    (hu : (update k (set k { h with desired := some d, raw := some raw, state := .fetched } d)).run s₁
      = ((r, h'), s₂)) :
    (reconcile k h).run s = ((r.map (fun _ => true), h'), s₂) := by
  have hf' : (ExceptT.run (k.fetch h.reference)).run s = (.ok raw, s₁) := hf
  simp only [reconcile, hv]
  apply Id.ext
  rw [StateT.run_bind, hf', Id.run_bind]
  simp only [Id.run, hsat, Bool.false_eq_true, if_false]
  rw [StateT.run_bind, hu]
  rfl

theorem reconcile_run_created {e : ApiError} {r : Except ApiError ρ} {h' : Handle ι ρ α}
    (hv : h.requireDesired k >>= k.validate = .ok d)
    (hf : (k.fetch h.reference).runOn s = (.error e, s₁)) (hn : e.isNotFound = true)
    (hc : (create k { h with desired := some d }).run s₁ = ((r, h'), s₂)) :
    (reconcile k h).run s = ((r.map (fun _ => true), h'), s₂) := by
  have hf' : (ExceptT.run (k.fetch h.reference)).run s = (.error e, s₁) := hf
  simp only [reconcile, hv]
  apply Id.ext
  rw [StateT.run_bind, hf', Id.run_bind]
  simp only [Id.run, hn, if_true]
  rw [StateT.run_bind, hc]
  rfl

theorem reconcile_run_fetch_error {e : ApiError} (hv : h.requireDesired k >>= k.validate = .ok d)
    (hf : (k.fetch h.reference).runOn s = (.error e, s₁)) (hn : e.isNotFound = false) :
    (reconcile k h).run s = ((.error e, { h with desired := some d }), s₁) := by
  have hf' : (ExceptT.run (k.fetch h.reference)).run s = (.error e, s₁) := hf
  simp only [reconcile, hv]
  apply Id.ext
  rw [StateT.run_bind, hf', Id.run_bind]
  simp only [Id.run, hn, Bool.false_eq_true, if_false]
  rfl

/-- Everything a reconcile can do: refuse the spec before any call; or fetch, and then report
a raw form that satisfies the spec, update one that does not, create a missing resource, or
return any other failure of the fetch with the spec recorded. -/
theorem reconcile_run_cases {r : Except ApiError Bool} {h' : Handle ι ρ α}
    (hrun : (reconcile k h).run s = ((r, h'), s₁)) :
    (h' = h ∧ s₁ = s ∧ ∃ e, r = .error e) ∨
    ∃ d s₂, h.requireDesired k >>= k.validate = .ok d ∧
      ((∃ raw, (k.fetch h.reference).runOn s = (.ok raw, s₂) ∧
          (k.satisfies raw d = true ∧ r = .ok false ∧ s₁ = s₂ ∧
              h' = { h with desired := some d, raw := some raw, state := .fetched } ∨
            k.satisfies raw d = false ∧ ∃ r₁,
              (update k (set k { h with desired := some d, raw := some raw, state := .fetched }
                d)).run s₂ = ((r₁, h'), s₁) ∧ r = r₁.map (fun _ => true))) ∨
        ∃ e, (k.fetch h.reference).runOn s = (.error e, s₂) ∧
          ((e.isNotFound = true ∧ ∃ r₁,
              (create k { h with desired := some d }).run s₂ = ((r₁, h'), s₁) ∧
                r = r₁.map (fun _ => true)) ∨
            e.isNotFound = false ∧ r = .error e ∧ s₁ = s₂ ∧
              h' = { h with desired := some d })) := by
  cases hv : h.requireDesired k >>= k.validate with
  | error e =>
    rw [reconcile_run_invalid k hv] at hrun
    cases hrun
    exact .inl ⟨rfl, rfl, e, rfl⟩
  | ok d =>
    rcases hf : (k.fetch h.reference).runOn s with ⟨e | raw, s₂⟩
    · refine .inr ⟨d, s₂, rfl, .inr ⟨e, rfl, ?_⟩⟩
      cases hn : e.isNotFound with
      | true =>
        rcases hc : (create k { h with desired := some d }).run s₂ with
          ⟨⟨r₁, h₁⟩, s₃⟩
        rw [reconcile_run_created k hv hf hn hc] at hrun
        cases hrun
        exact .inl ⟨rfl, r₁, rfl, rfl⟩
      | false =>
        rw [reconcile_run_fetch_error k hv hf hn] at hrun
        cases hrun
        exact .inr ⟨rfl, rfl, rfl, rfl⟩
    · refine .inr ⟨d, s₂, rfl, .inl ⟨raw, rfl, ?_⟩⟩
      cases hsat : k.satisfies raw d with
      | true =>
        rw [reconcile_run_satisfied k hv hf hsat] at hrun
        cases hrun
        exact .inl ⟨rfl, rfl, rfl, rfl⟩
      | false =>
        rcases hu : (update k (set k
          { h with desired := some d, raw := some raw, state := .fetched } d)).run s₂ with
          ⟨⟨r₁, h₁⟩, s₃⟩
        rw [reconcile_run_unsatisfied k hv hf hsat hu] at hrun
        cases hrun
        exact .inr ⟨rfl, r₁, rfl, rfl⟩

end Reconcile

end Handle

end Resource

end ForgeSync
