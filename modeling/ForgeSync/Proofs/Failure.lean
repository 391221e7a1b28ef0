import ForgeSync.Proofs.Reconcile

/-!
# Failed operations on the in-memory store

Every operation of the store checks the caller's context, the injected failure, the key and
the version before it writes, so a store operation that fails writes nothing.  A handle
operation is made of store operations and writes only in its last one, with one exception: an
update by recreating deletes the resource and then creates it, and when the create fails the
resource stays deleted.  That failure is reported as a failed recreate, and the handle then
forgets its raw form and stands deleted.

Main statements:

* `FailureLeaves`: the two things a failed handle operation may leave behind.
* `store_failure_frame`: for every strategy, handle and store, a failed reconcile, create,
  update or delete leaves `FailureLeaves`; and a reconcile whose own fetch failed with anything
  but "not found" returns that error and keeps the handle's cache and state.
-/

namespace ForgeSync

namespace Resource

/-- What a failed operation on the resource at `key` may leave behind, from store `s` to
handle `h'` and store `s'`. -/
inductive FailureLeaves {α : Type} (key : String) (s : Store α) (e : ApiError)
    (h' : Handle String (StoredObject α) α) (s' : Store α) : Prop
  /-- The store's objects are as they were. -/
  | unchanged (objects : s'.objects = s.objects)
  /-- A recreate lost the resource: the key holds nothing and the handle nothing either. -/
  | recreateFailed (kind : e.kind = .recreateFailed) (absent : s'.get? key = none)
      (raw : h'.raw = none) (state : h'.state = .deleted)

/-- A failure after a step that wrote nothing leaves what the failure alone leaves. -/
theorem FailureLeaves.of_objects_eq {α : Type} {key : String} {s s₁ s' : Store α} {e : ApiError}
    {h' : Handle String (StoredObject α) α} (hf : FailureLeaves key s₁ e h' s')
    (hs : s₁.objects = s.objects) : FailureLeaves key s e h' s' := by
  cases hf with
  | unchanged objects => exact .unchanged (objects.trans hs)
  | recreateFailed kind absent raw state => exact .recreateFailed kind absent raw state

/-- Mapping the value of a result keeps its error. -/
private theorem eq_error_of_map {β γ : Type} {r : Except ApiError β} {f : β → γ}
    {e : ApiError} (hr : r.map f = .error e) : r = .error e := by
  cases r with
  | error e₀ =>
    simp only [Except.map, Except.error.injEq] at hr
    rw [hr]
  | ok b => simp only [Except.map, reduceCtorEq] at hr

section Failure

variable {α : Type} [DecidableEq α] [Spec α] {strategy : Strategy}
  {h h' : Handle String (StoredObject α) α} {s s₁ s' : Store α} {e : ApiError}

namespace Handle

/-! ### Writes -/

/-- A write that fails leaves the objects as they were, unless it is a recreate whose create
failed after the delete: then the key holds nothing. -/
theorem send_store_error {key : String} {raw : StoredObject α}
    (hs : (send (storeKind strategy) key raw).runOn s = (.error e, s')) :
    s'.objects = s.objects ∨ (e.kind = .recreateFailed ∧ s'.get? key = none) := by
  by_cases hk : strategy = .recreate
  · subst hk
    rw [send_of_recreate (storeKind .recreate) rfl] at hs
    -- the store checks nothing before a recreate, which deletes the key and creates the spec
    have hv : (storeKind (α := α) .recreate).validate ((storeKind .recreate).specOf raw) =
        .ok raw.spec := rfl
    rcases hd : (Store.delete key raw).runOn s with ⟨_ | _, s₁⟩
    · rw [recreate_runOn_delete_error (storeKind .recreate) hv hd, Prod.mk.injEq] at hs
      rw [← hs.2]
      exact Or.inl (Store.delete_runOn_error_objects hd)
    · have habsent : s₁.get? key = none := Store.delete_runOn_ok_get? hd
      rcases hc : ((storeKind (α := α) .recreate).create key raw.spec).runOn s₁ with
        ⟨_ | _, s₂⟩
      · rw [recreate_runOn_create_error (storeKind .recreate) hv hd hc] at hs
        simp only [Prod.mk.injEq, Except.error.injEq] at hs
        obtain ⟨rfl, rfl⟩ := hs
        have hobjects : s₂.objects = s₁.objects := Store.create_runOn_error_objects hc
        refine Or.inr ⟨rfl, ?_⟩
        rw [Store.get?_eq_lookup, hobjects, ← Store.get?_eq_lookup]
        exact habsent
      · rw [recreate_runOn_ok (storeKind .recreate) hv hd hc] at hs
        simp only [Prod.mk.injEq, reduceCtorEq, false_and] at hs
  · rw [send_of_ne_recreate (storeKind strategy) hk] at hs
    exact Or.inl (Store.update_runOn_error_objects hs)

/-- A failed update leaves the objects as they were, or is a failed recreate that lost the
resource. -/
theorem update_store_error (hu : (update (storeKind strategy) h).run s = ((.error e, h'), s')) :
    FailureLeaves h.reference s e h' s' := by
  rcases update_run_cases _ hu with
    ⟨-, -, rfl, -⟩ | ⟨raw, -, ⟨e₁, hs, he₁, hleft⟩ | ⟨updated, -, hr, -⟩⟩
  · exact .unchanged rfl
  · cases he₁
    rcases send_store_error hs with hobjects | ⟨hkind, habsent⟩
    · exact .unchanged hobjects
    · -- the create of a recreate failed, and the handle has forgotten its cache
      rcases hleft with ⟨-, rfl⟩ | ⟨hne, -⟩
      · exact .recreateFailed hkind habsent rfl rfl
      · exact absurd hkind hne
  · cases hr

/-- A failed create writes nothing. -/
theorem create_store_error (hc : (create (storeKind strategy) h).run s = ((.error e, h'), s')) :
    s'.objects = s.objects := by
  rcases create_run_cases _ hc with
    ⟨-, rfl, -⟩ | ⟨d, -, ⟨e₁, hs, -, -⟩ | ⟨raw, -, hr, -⟩⟩
  · rfl
  · exact Store.create_runOn_error_objects hs
  · cases hr

/-- A failed delete writes nothing, whether it deleted the cached raw form or fetched one. -/
theorem delete_store_error (hd : (delete (storeKind strategy) h).run s = ((.error e, h'), s')) :
    s'.objects = s.objects := by
  rcases delete_run_cases _ hd with
    ⟨-, -, e₁, hf, -⟩ | ⟨raw, s₁, hfrom, ⟨e₁, hs, -, -⟩ | ⟨-, hr, -⟩⟩
  · exact Store.fetch_runOn_objects hf
  · -- the failed delete writes nothing, and neither does a fetch before it
    have hdel : (Store.delete h.reference raw).runOn s₁ = (.error e₁, s') := hs
    rw [Store.delete_runOn_error_objects hdel]
    rcases hfrom with ⟨-, rfl⟩ | ⟨-, hf⟩
    · rfl
    · exact Store.fetch_runOn_objects hf
  · cases hr

/-! ### Reconcile -/

/-- A failed reconcile leaves what its failed create or update leaves; its fetch writes
nothing. -/
theorem reconcile_store_error
    (hrun : (reconcile (storeKind strategy) h).run s = ((.error e, h'), s')) :
    FailureLeaves h.reference s e h' s' := by
  rcases reconcile_run_cases _ hrun with ⟨-, rfl, -⟩ |
    ⟨d, s₁, -, ⟨raw, hf, ⟨-, hr, -⟩ | ⟨-, r₁, hu, hr⟩⟩ |
      ⟨e₁, hf, ⟨-, r₁, hc, hr⟩ | ⟨-, -, rfl, -⟩⟩⟩
  · exact .unchanged rfl
  · cases hr
  · -- the reconcile failed in its update of the fetched raw form
    rw [eq_error_of_map hr.symm] at hu
    exact (update_store_error hu).of_objects_eq (Store.fetch_runOn_objects hf)
  · -- the resource is missing, so the reconcile failed in its create
    rw [eq_error_of_map hr.symm] at hc
    exact .unchanged ((create_store_error hc).trans (Store.fetch_runOn_objects hf))
  · exact .unchanged (Store.fetch_runOn_objects hf)

/-- A reconcile whose own fetch failed with anything but "not found" returns that error after
the fetch, with the handle's cache and state as they were. -/
theorem reconcile_fetch_error_keeps {d : α} (hd : h.desired = some d)
    (hf : (Store.fetch h.reference).runOn s = (.error e, s₁)) (hn : e.isNotFound = false) :
    ∃ h', (reconcile (storeKind strategy) h).run s = ((.error e, h'), s₁) ∧
      h'.raw = h.raw ∧ h'.state = h.state :=
  ⟨_, reconcile_run_fetch_error _ (storeKind_desired hd) hf hn, rfl, rfl⟩

/-! ### The frame of a failure -/

/-- Handle operations on the in-memory store fail without writing, except a recreate that
lost the resource; a reconcile whose fetch failed otherwise than "not found" also keeps the
handle's cache and state. -/
theorem store_failure_frame (strategy : Strategy) (h : Handle String (StoredObject α) α)
    (s : Store α) :
    (∀ e h' s', (reconcile (storeKind strategy) h).run s = ((.error e, h'), s') →
      FailureLeaves h.reference s e h' s') ∧
    (∀ e h' s', (create (storeKind strategy) h).run s = ((.error e, h'), s') →
      FailureLeaves h.reference s e h' s') ∧
    (∀ e h' s', (update (storeKind strategy) h).run s = ((.error e, h'), s') →
      FailureLeaves h.reference s e h' s') ∧
    (∀ e h' s', (delete (storeKind strategy) h).run s = ((.error e, h'), s') →
      FailureLeaves h.reference s e h' s') ∧
    ∀ d e s₁, h.desired = some d → (Store.fetch h.reference).runOn s = (.error e, s₁) →
      e.isNotFound = false →
      ∃ h', (reconcile (storeKind strategy) h).run s = ((.error e, h'), s₁) ∧
        h'.raw = h.raw ∧ h'.state = h.state := by
  refine ⟨?_, ?_, ?_, ?_, ?_⟩
  · intro e h' s' hrun
    exact reconcile_store_error hrun
  · intro e h' s' hrun
    exact .unchanged (create_store_error hrun)
  · intro e h' s' hrun
    exact update_store_error hrun
  · intro e h' s' hrun
    exact .unchanged (delete_store_error hrun)
  · intro d e s₁ hd hf hn
    exact reconcile_fetch_error_keeps hd hf hn

end Handle

end Failure

end Resource

end ForgeSync
