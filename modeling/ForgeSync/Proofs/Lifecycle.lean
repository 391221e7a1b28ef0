import ForgeSync.Proofs.Run
import ForgeSync.Resource.Store

/-!
# The lifecycle of a handle

A handle is meant to hold a raw form exactly in the states reached by a read or a write,
`fetched`, `created` and `updated`: that is `Handle.Consistent`.  Every operation keeps it,
over every kind and whatever the kind's calls answer, with one exception.  A delete of a
handle that holds no raw form fetches one first; when the delete then fails, the fetched raw
form goes into the cache and the state stays `unknown` or `deleted`.

Main statements:

* `step_consistent_iff`: from a consistent handle, an operation leaves a consistent handle
  exactly when it is not such a delete (`Op.Breaks`).
* `trace_consistent_iff`: a run of operations from a consistent handle passes through
  consistent handles only, exactly when none of its steps is such a delete.
* `failed_delete_breaks_consistency`: on the in-memory store, a delete of a fresh handle whose
  delete fails leaves a handle in state `unknown` that holds a raw form.
-/

namespace ForgeSync

namespace Resource

/-- Whether a handle in this state holds a raw form: after a read or a write. -/
def HandleState.holdsRaw : HandleState → Bool
  | .fetched | .created | .updated => true
  | .unknown | .deleted => false

namespace Handle

variable {σ ι ρ α : Type}

/-- The cache is filled exactly in the states that hold a raw form. -/
def Consistent (h : Handle ι ρ α) : Prop := h.raw.isSome = h.state.holdsRaw

instance (h : Handle ι ρ α) : Decidable h.Consistent := inferInstanceAs (Decidable (_ = _))

/-! ### Operations and runs -/

/-- The operations a caller applies to a handle. -/
inductive Op (ι α : Type) where
  | new (reference : ι)
  | set (spec : α)
  | fetch
  | create
  | update
  | delete
  | reconcile

/-- The handle and the world after a handle operation, whatever it answered. -/
def after {β : Type} (m : StateM σ (Outcome ι ρ α β)) (s : σ) : Handle ι ρ α × σ :=
  ((m.run s).1.2, (m.run s).2)

/-- The handle and the world after one operation. -/
def Op.step (k : Kind σ ι ρ α) : Op ι α → Handle ι ρ α → σ → Handle ι ρ α × σ
  | .new reference, _, s => (Handle.new reference, s)
  | .set spec, h, s => (Handle.set k h spec, s)
  | .fetch, h, s => after (Handle.fetch k h) s
  | .create, h, s => after (Handle.create k h) s
  | .update, h, s => after (Handle.update k h) s
  | .delete, h, s => after (Handle.delete k h) s
  | .reconcile, h, s => after (Handle.reconcile k h) s

/-- The handles a run of operations passes through, one after each operation. -/
def trace (k : Kind σ ι ρ α) : List (Op ι α) → Handle ι ρ α → σ → List (Handle ι ρ α)
  | [], _, _ => []
  | op :: ops, h, s => (op.step k h s).1 :: trace k ops (op.step k h s).1 (op.step k h s).2

/-- A delete of a handle with no raw form whose fetch answered and whose delete then failed. -/
def KeepsFetchedRaw (k : Kind σ ι ρ α) (h : Handle ι ρ α) (s : σ) : Prop :=
  h.raw = none ∧ ∃ raw s₁ e s₂, (k.fetch h.reference).runOn s = (.ok raw, s₁) ∧
    (k.delete h.reference raw).runOn s₁ = (.error e, s₂)

/-- The steps that break consistency: a delete that keeps a fetched raw form. -/
def Op.Breaks (k : Kind σ ι ρ α) : Op ι α → Handle ι ρ α → σ → Prop
  | .delete, h, s => KeepsFetchedRaw k h s
  | _, _, _ => False

/-- No step of a run breaks consistency. -/
def SafeRun (k : Kind σ ι ρ α) : List (Op ι α) → Handle ι ρ α → σ → Prop
  | [], _, _ => True
  | op :: ops, h, s => ¬ op.Breaks k h s ∧ SafeRun k ops (op.step k h s).1 (op.step k h s).2

/-! ### One operation -/

variable (k : Kind σ ι ρ α) {h h' : Handle ι ρ α} {s s₁ s' : σ}

/-- What holds of every handle an operation can leave holds of the handle after it. -/
theorem after_of_forall {β : Type} {m : StateM σ (Outcome ι ρ α β)}
    {P : Handle ι ρ α → Prop} (hm : ∀ r h' s', m.run s = ((r, h'), s') → P h') : P (after m s).1 :=
  hm _ _ _ rfl

@[simp] theorem consistent_new (reference : ι) :
    (Handle.new reference : Handle ι ρ α).Consistent :=
  rfl

@[simp] theorem consistent_set (d : α) : (set k h d).Consistent ↔ h.Consistent := by
  simp only [Consistent, set, Option.isSome_map]

theorem fetch_consistent {r : Except ApiError ρ} (hc : h.Consistent)
    (hrun : (fetch k h).run s = ((r, h'), s')) : h'.Consistent := by
  rcases hf : (k.fetch h.reference).runOn s with ⟨_ | raw, s₁⟩
  · rw [fetch_run_error k hf] at hrun
    cases hrun
    exact hc
  · rw [fetch_run_ok k hf] at hrun
    cases hrun
    rfl

theorem create_consistent {r : Except ApiError ρ} (hc : h.Consistent)
    (hrun : (create k h).run s = ((r, h'), s')) : h'.Consistent := by
  rcases create_run_cases k hrun with
    ⟨rfl, -, -⟩ | ⟨d, -, ⟨e, -, -, rfl⟩ | ⟨raw, -, -, rfl⟩⟩
  · exact hc
  · exact hc
  · rfl

theorem update_consistent {r : Except ApiError ρ} (hc : h.Consistent)
    (hrun : (update k h).run s = ((r, h'), s')) : h'.Consistent := by
  rcases update_run_cases k hrun with
    ⟨-, rfl, -, -⟩ |
      ⟨raw, -, ⟨e, -, -, ⟨-, rfl⟩ | ⟨-, rfl⟩⟩ | ⟨updated, -, -, rfl⟩⟩
  · exact hc
  · -- a failed recreate empties the cache and deletes the handle
    rfl
  · exact hc
  · rfl

/-- From a consistent handle, a delete leaves a consistent handle exactly when it does not
keep a fetched raw form. -/
theorem delete_consistent_iff {r : Except ApiError Unit} (hc : h.Consistent)
    (hrun : (delete k h).run s = ((r, h'), s')) : h'.Consistent ↔ ¬ KeepsFetchedRaw k h s := by
  rcases delete_run_cases k hrun with
    ⟨-, rfl, e, hf, -⟩ | ⟨raw, s₁, hfrom, ⟨e, hd, -, rfl⟩ | ⟨hd, -, rfl⟩⟩
  · -- the fetch failed: the handle is kept, and nothing was fetched
    refine iff_of_true hc ?_
    rintro ⟨-, raw, s₁, e', s₂, hf', -⟩
    rw [hf] at hf'
    cases hf'
  · rcases hfrom with ⟨hr, rfl⟩ | ⟨hr, hf⟩
    · -- the cached raw form is put back
      refine iff_of_true ?_ ?_
      · show (some raw).isSome = h.state.holdsRaw
        rw [← hr]
        exact hc
      · rintro ⟨hnone, -⟩
        rw [hr] at hnone
        cases hnone
    · -- the fetched raw form is kept, in a state that holds none
      have hkeeps : KeepsFetchedRaw k h s := ⟨hr, raw, s₁, e, s', hf, hd⟩
      have hstate : h.state.holdsRaw = false := by
        rw [Consistent, hr] at hc
        exact hc.symm
      refine iff_of_false ?_ (not_not_intro hkeeps)
      show (some raw).isSome ≠ h.state.holdsRaw
      rw [hstate]
      simp
  · -- a delete that succeeded empties the cache; what it deleted was not kept
    refine iff_of_true rfl ?_
    rintro ⟨hr, raw', s₁', e, s₂', hf', hd'⟩
    rcases hfrom with ⟨hcached, -⟩ | ⟨-, hf⟩
    · rw [hr] at hcached
      cases hcached
    · rw [hf, Prod.mk.injEq, Except.ok.injEq] at hf'
      obtain ⟨rfl, rfl⟩ := hf'
      rw [hd] at hd'
      cases hd'

theorem reconcile_consistent {r : Except ApiError Bool} (hc : h.Consistent)
    (hrun : (reconcile k h).run s = ((r, h'), s')) : h'.Consistent := by
  rcases reconcile_run_cases k hrun with ⟨rfl, -, -⟩ |
    ⟨d, s₁, -, ⟨raw, -, ⟨-, -, -, rfl⟩ | ⟨-, r₁, hu, -⟩⟩ |
      ⟨e, -, ⟨-, r₁, hcr, -⟩ | ⟨-, -, -, rfl⟩⟩⟩
  · exact hc
  · rfl
  · -- the fetched handle is consistent, and so is the one the update leaves
    exact update_consistent k (by rw [consistent_set]; rfl) hu
  · exact create_consistent k (h := { h with desired := some d }) hc hcr
  · exact hc

/-- From a consistent handle, one operation leaves a consistent handle exactly when it does
not break consistency. -/
theorem step_consistent_iff (op : Op ι α) (hc : h.Consistent) (s : σ) :
    (op.step k h s).1.Consistent ↔ ¬ op.Breaks k h s := by
  cases op with
  | new reference => exact iff_of_true (consistent_new reference) not_false
  | set d => exact iff_of_true ((consistent_set k d).mpr hc) not_false
  | fetch => exact iff_of_true (after_of_forall fun _ _ _ => fetch_consistent k hc) not_false
  | create => exact iff_of_true (after_of_forall fun _ _ _ => create_consistent k hc) not_false
  | update => exact iff_of_true (after_of_forall fun _ _ _ => update_consistent k hc) not_false
  | delete => exact after_of_forall fun _ _ _ => delete_consistent_iff k hc
  | reconcile =>
    exact iff_of_true (after_of_forall fun _ _ _ => reconcile_consistent k hc) not_false

/-! ### Runs -/

/-- A run of operations from a consistent handle passes through consistent handles only,
exactly when none of its steps is a delete that keeps a fetched raw form. -/
theorem trace_consistent_iff (ops : List (Op ι α)) (hc : h.Consistent) (s : σ) :
    (∀ h' ∈ trace k ops h s, h'.Consistent) ↔ SafeRun k ops h s := by
  -- induction on the run; the step lemma carries consistency from one handle to the next
  induction ops generalizing h s with
  | nil => simp [trace, SafeRun]
  | cons op ops ih =>
    have hstep := step_consistent_iff k op hc s
    simp only [trace, SafeRun, List.forall_mem_cons, ← hstep]
    by_cases hnext : (op.step k h s).1.Consistent
    · rw [ih hnext]
    · simp only [hnext, false_and]

theorem trace_consistent_iff_fetch_then_delete :
    (new "obj" : Handle String (StoredObject RepositorySpec) RepositorySpec).Consistent ∧
      ((∀ h' ∈ trace (storeKind .patch) [.fetch, .delete] (new "obj") ({} : Store RepositorySpec),
        h'.Consistent) ↔
        SafeRun (storeKind .patch) [.fetch, .delete] (new "obj") ({} : Store RepositorySpec)) :=
  ⟨consistent_new "obj",
    trace_consistent_iff (storeKind .patch) [.fetch, .delete] (consistent_new "obj") {}⟩

/-- On the in-memory store, a delete of a fresh handle whose delete fails leaves the handle
holding the fetched raw form in state `unknown`. -/
theorem failed_delete_breaks_consistency :
    trace (storeKind (α := RepositorySpec) .patch) [.delete] (new "obj")
        { Store.seed {} "obj" ({ name := "svc" } : RepositorySpec) with
          failOn := some (.delete, .http 500 "") } =
      [{ reference := "obj", raw := some ⟨1, 0, { name := "svc" }⟩, state := .unknown }] ∧
    ¬ (({ reference := "obj", raw := some ⟨1, 0, { name := "svc" }⟩, state := .unknown } :
      Handle String (StoredObject RepositorySpec) RepositorySpec).Consistent) :=
  ⟨rfl, by decide⟩

end Handle

end Resource

end ForgeSync
