import ForgeSync.Proofs.Store

/-!
# Reconciling the in-memory store

A reconcile of a desired spec `d` at a key of a store that injects no failure, under a live
context, always succeeds, and what it leaves is decided by the key's object alone:

* no object: `d` is created under the next id, at version 0, and the answer is "changed";
* an object that satisfies `d` under the strategy: only the fetch is logged, the answer is
  "unchanged";
* any other object: the patch merges `d` onto it and the replace writes `d`, both at the next
  version of the same id, and the recreate deletes it and creates `d` under the next id; the
  answer is "changed".

In every case a second reconcile of `d`, by any handle, changes nothing and logs one fetch.
That rests on two laws of the spec types, `SpecLaws`: a spec satisfies itself, and a desired
spec is satisfied by anything it is merged onto.  The four spec types obey them.

Main statement: `store_reconcile_contract`.
-/

namespace ForgeSync

/-! ### The laws of spec types -/

/-- The laws reconciling relies on: a spec satisfies itself, and a desired spec is satisfied by
whatever it is merged onto. -/
structure SpecLaws (α : Type) [Spec α] : Prop where
  satisfiedBy_self : ∀ d : α, Spec.satisfiedBy d d = true
  satisfiedBy_merge : ∀ d a : α, Spec.satisfiedBy d (Spec.merge d a) = true

@[simp] theorem unsetOrEq_self {β : Type} [DecidableEq β] (v : Option β) : unsetOrEq v v = true := by
  simp [unsetOrEq]

@[simp] theorem unsetOrEq_mergeSet {β : Type} [DecidableEq β] (desired actual : Option β) :
    unsetOrEq desired (mergeSet desired actual) = true := by
  cases desired <;> simp [unsetOrEq, mergeSet]

theorem repositorySpec_laws : SpecLaws RepositorySpec where
  satisfiedBy_self d := by simp [Spec.satisfiedBy]
  satisfiedBy_merge d a := by simp [Spec.satisfiedBy, Spec.merge]

theorem deployKeySpec_laws : SpecLaws DeployKeySpec where
  satisfiedBy_self d := by simp [Spec.satisfiedBy]
  satisfiedBy_merge d a := by simp [Spec.satisfiedBy, Spec.merge]

theorem teamAccessSpec_laws : SpecLaws TeamAccessSpec where
  satisfiedBy_self d := by simp [Spec.satisfiedBy]
  satisfiedBy_merge d a := by simp [Spec.satisfiedBy, Spec.merge]

theorem pullRequestSpec_laws : SpecLaws PullRequestSpec where
  satisfiedBy_self d := by simp [Spec.satisfiedBy]
  satisfiedBy_merge d a := by simp [Spec.satisfiedBy, Spec.merge]

/-! ### What a reconcile writes -/

section Rewrite

open Resource

variable {α : Type} [DecidableEq α] [Spec α]

/-- The object a reconcile leaves at a key whose object `o` does not satisfy `d`: `d` merged
onto it for a patch and `d` itself for a replace, both at the next version of the same id, and
`d` under the store's next id, at version 0, for a recreate. -/
def Strategy.rewritten (strategy : Strategy) (nextId : Nat) (o : StoredObject α) (d : α) :
    StoredObject α :=
  match strategy with
  | .patch => { o with spec := Spec.merge d o.spec, version := o.version + 1 }
  | .replace => { o with spec := d, version := o.version + 1 }
  | .recreate => ⟨nextId, 0, d⟩

/-- The writes a reconcile logs after its fetch when the object must change. -/
def Strategy.writes : Strategy → List StoreOp
  | .recreate => [.delete, .create]
  | _ => [.update]

/-- Under the laws, a desired spec is satisfied by the object a reconcile rewrites for it. -/
theorem SpecLaws.satisfied_rewritten (hl : SpecLaws α) (strategy : Strategy) (nextId : Nat)
    (o : StoredObject α) (d : α) :
    strategy.satisfied d (strategy.rewritten nextId o d).spec = true := by
  cases strategy with
  | patch => exact hl.satisfiedBy_merge d o.spec
  | replace => simp [Strategy.satisfied, Strategy.rewritten]
  | recreate => simp [Strategy.satisfied, Strategy.rewritten]

/-- Under the laws, a desired spec is satisfied by itself, whatever the strategy. -/
theorem SpecLaws.satisfied_self (hl : SpecLaws α) (strategy : Strategy) (d : α) :
    strategy.satisfied d d = true := by
  cases strategy with
  | patch => exact hl.satisfiedBy_self d
  | replace => simp [Strategy.satisfied]
  | recreate => simp [Strategy.satisfied]

end Rewrite

/-! ### One reconcile, case by case -/

namespace Resource

namespace Handle

variable {α : Type} [DecidableEq α] [Spec α] {strategy : Strategy} {s : Store α}
  {h : Handle String (StoredObject α) α} {d : α} {o : StoredObject α}

/-- The store kind checks nothing: the desired spec goes through as it is. -/
theorem storeKind_desired (hd : h.desired = some d) :
    h.requireDesired (storeKind strategy) >>= (storeKind strategy).validate = .ok d := by
  simp only [requireDesired, hd]
  rfl

/-- An object that satisfies the desired spec is left alone: only the fetch is logged. -/
theorem reconcile_store_satisfied (hr : s.Ready) (hd : h.desired = some d)
    (hk : s.get? h.reference = some o) (hsat : strategy.satisfied d o.spec = true) :
    (reconcile (storeKind strategy) h).run s =
      ((.ok false, { h with desired := some d, raw := some o, state := .fetched }),
        s.record .fetch h.reference) :=
  reconcile_run_satisfied _ (storeKind_desired hd) (Store.fetch_runOn_found hr hk) hsat

/-- A missing object is created from the desired spec under the next id. -/
theorem reconcile_store_missing (hr : s.Ready) (hd : h.desired = some d)
    (hk : s.get? h.reference = none) :
    ∃ h', (reconcile (storeKind strategy) h).run s = ((.ok true, h'),
      { (s.record .fetch h.reference).record .create h.reference with
        objects := Store.putObject s.objects h.reference ⟨s.nextId, 0, d⟩, nextId := s.nextId + 1 }) := by
  have hf := Store.fetch_runOn_missing hr hk
  have hr₁ : (s.record .fetch h.reference).Ready := hr.of_eq rfl rfl
  have hc := create_run_ok (storeKind strategy) (h := { h with desired := some d })
    (storeKind_desired rfl) (Store.create_runOn_ready h.reference d hr₁ hk)
  exact ⟨_, reconcile_run_created _ (storeKind_desired hd) hf rfl hc⟩

/-- Under a patch or a replace, an object that does not satisfy the desired spec is written in
place: the merge or the spec itself, at the next version. -/
theorem reconcile_store_updated (hr : s.Ready) (hd : h.desired = some d)
    (hk : s.get? h.reference = some o) (hsat : strategy.satisfied d o.spec = false)
    (hs : strategy ≠ .recreate) :
    ∃ h', (reconcile (storeKind strategy) h).run s = ((.ok true, h'),
      { (s.record .fetch h.reference).record .update h.reference with
        objects := Store.putObject s.objects h.reference (strategy.rewritten s.nextId o d) }) := by
  have hf := Store.fetch_runOn_found hr hk
  have hr₁ : (s.record .fetch h.reference).Ready := hr.of_eq rfl rfl
  -- the raw form the handle sends: `o` with the desired spec written by the strategy
  have hw : (send (storeKind strategy) h.reference ((storeKind strategy).applySpec o d)).runOn
      (s.record .fetch h.reference) = (.ok (strategy.rewritten s.nextId o d),
        { (s.record .fetch h.reference).record .update h.reference with
          objects := Store.putObject s.objects h.reference (strategy.rewritten s.nextId o d) }) := by
    cases strategy with
    | patch => exact Store.update_runOn_ready hr₁ hk rfl
    | replace => exact Store.update_runOn_ready hr₁ hk rfl
    | recreate => exact absurd rfl hs
  have hu := update_run_ok (storeKind strategy)
    (h := set (storeKind strategy) { h with desired := some d, raw := some o, state := .fetched } d)
    rfl hw
  exact ⟨_, reconcile_run_unsatisfied (storeKind strategy) (storeKind_desired hd) hf hsat hu⟩

/-- Under a recreate, an object that differs from the desired spec is deleted and the spec is
created again under the next id. -/
theorem reconcile_store_recreated (hr : s.Ready) (hd : h.desired = some d)
    (hk : s.get? h.reference = some o) (hsat : Strategy.recreate.satisfied d o.spec = false) :
    ∃ h', (reconcile (storeKind .recreate) h).run s = ((.ok true, h'),
      { ((s.record .fetch h.reference).record .delete h.reference).record .create h.reference with
        objects := Store.putObject (Store.eraseObject s.objects h.reference) h.reference ⟨s.nextId, 0, d⟩,
        nextId := s.nextId + 1 }) := by
  have hf := Store.fetch_runOn_found hr hk
  have hr₁ : (s.record .fetch h.reference).Ready := hr.of_eq rfl rfl
  -- stated through the kind, so that the recreate lemma below matches them without unfolding
  have hd₂ : ((storeKind .recreate).delete h.reference { o with spec := d }).runOn
      (s.record .fetch h.reference) = _ := Store.delete_runOn_ready { o with spec := d } hr₁ hk
  simp only [Store.record_objects] at hd₂
  have hr₂ : ({ (s.record .fetch h.reference).record .delete h.reference with
      objects := Store.eraseObject s.objects h.reference } : Store α).Ready := hr.of_eq rfl rfl
  have hc₃ : ((storeKind (α := α) .recreate).create h.reference d).runOn _ = _ :=
    Store.create_runOn_ready h.reference d hr₂ (by simp)
  have hw := recreate_runOn_ok (storeKind .recreate) rfl hd₂ hc₃
  have hu := update_run_ok (storeKind .recreate)
    (h := set (storeKind .recreate) { h with desired := some d, raw := some o, state := .fetched } d)
    rfl hw
  exact ⟨_, reconcile_run_unsatisfied (storeKind .recreate) (storeKind_desired hd) hf hsat hu⟩

end Handle

/-! ### The contract -/

variable {α : Type} [DecidableEq α] [Spec α]

/-- What a reconcile of `d` at `key` did to the store `s`, answering `changed` and leaving `s'`:
no other key's object changed, and the key's object decided the rest.  A missing object was
created under the next id at version 0; a satisfying one was left with only the fetch logged;
any other was rewritten by the strategy, with the writes the strategy makes logged after the
fetch. -/
def ReconcileEffect (strategy : Strategy) (s : Store α) (key : String) (d : α) (changed : Bool)
    (s' : Store α) : Prop :=
  (∀ k, k ≠ key → s'.get? k = s.get? k) ∧
  match s.get? key with
  | none => changed = true ∧ s'.get? key = some ⟨s.nextId, 0, d⟩ ∧
      s'.log = s.log ++ [(.fetch, key), (.create, key)]
  | some o =>
    if strategy.satisfied d o.spec then changed = false ∧ s' = s.record .fetch key
    else changed = true ∧ s'.get? key = some (strategy.rewritten s.nextId o d) ∧
      s'.log = s.log ++ (StoreOp.fetch :: strategy.writes).map (·, key)

/-- The contract of reconciling the in-memory store over specs of type `α`: on a store that
injects no failure, under a live context, the reconcile of a handle whose desired spec is `d`
succeeds with the effect `ReconcileEffect` describes at the handle's key; afterwards any
handle's reconcile of `d` at that key answers "unchanged" and only logs its fetch. -/
def ReconcileContract (α : Type) [DecidableEq α] [Spec α] : Prop :=
  ∀ (strategy : Strategy) (s : Store α) (h : Handle String (StoredObject α) α) (d : α),
    s.Ready → h.desired = some d →
    ∃ changed h' s', (Handle.reconcile (storeKind strategy) h).run s = ((.ok changed, h'), s') ∧
      ReconcileEffect strategy s h.reference d changed s' ∧
      ∀ h₂ : Handle String (StoredObject α) α, h₂.reference = h.reference → h₂.desired = some d →
        ∃ h₂', (Handle.reconcile (storeKind strategy) h₂).run s' =
          ((.ok false, h₂'), s'.record .fetch h.reference)

section Contract

variable {strategy : Strategy} {s : Store α} {key : String} {d : α} {o : StoredObject α}

/-- Once the key's object satisfies `d`, any handle's reconcile of `d` only fetches. -/
theorem reconcile_again (hr : s.Ready) (hk : s.get? key = some o)
    (hsat : strategy.satisfied d o.spec = true) (h₂ : Handle String (StoredObject α) α)
    (href : h₂.reference = key) (hd : h₂.desired = some d) :
    ∃ h₂', (Handle.reconcile (storeKind strategy) h₂).run s = ((.ok false, h₂'), s.record .fetch key) := by
  subst href
  exact ⟨_, Handle.reconcile_store_satisfied hr hd hk hsat⟩

theorem reconcile_contract_of_laws (hl : SpecLaws α) : ReconcileContract α := by
  intro strategy s h d hr hd
  cases hk : s.get? h.reference with
  | none =>
    obtain ⟨h', hrun⟩ : ∃ h', (Handle.reconcile (storeKind strategy) h).run s = _ :=
      Handle.reconcile_store_missing hr hd hk
    refine ⟨true, h', _, hrun, ⟨?_, ?_⟩, ?_⟩
    · intro k hne
      simp [hne]
    · rw [hk]
      simp
    · exact reconcile_again (o := ⟨s.nextId, 0, d⟩) (hr.of_eq rfl rfl) (by simp)
        (hl.satisfied_self strategy d)
  | some o =>
    by_cases hsat : strategy.satisfied d o.spec = true
    · refine ⟨false, _, _, Handle.reconcile_store_satisfied hr hd hk hsat, ⟨?_, ?_⟩, ?_⟩
      · intro k _
        rfl
      · rw [hk]
        simp [hsat]
      · exact reconcile_again (hr.of_eq rfl rfl) hk hsat
    · have hsat' : strategy.satisfied d o.spec = false := by simpa using hsat
      -- the second reconcile finds the rewritten object, which satisfies `d` by the laws
      have hagain := hl.satisfied_rewritten strategy s.nextId o d
      cases strategy with
      | recreate =>
        obtain ⟨h', hrun⟩ := Handle.reconcile_store_recreated hr hd hk hsat'
        refine ⟨true, h', _, hrun, ⟨?_, ?_⟩, ?_⟩
        · intro k hne
          simp [hne]
        · rw [hk]
          simp [hsat', Strategy.rewritten, Strategy.writes]
        · exact reconcile_again (hr.of_eq rfl rfl) (by simp [Strategy.rewritten]) hagain
      | patch =>
        obtain ⟨h', hrun⟩ := Handle.reconcile_store_updated hr hd hk hsat' (by simp)
        refine ⟨true, h', _, hrun, ⟨?_, ?_⟩, ?_⟩
        · intro k hne
          simp [hne]
        · rw [hk]
          simp [hsat', Strategy.writes]
        · exact reconcile_again (hr.of_eq rfl rfl) (by simp) hagain
      | replace =>
        obtain ⟨h', hrun⟩ := Handle.reconcile_store_updated hr hd hk hsat' (by simp)
        refine ⟨true, h', _, hrun, ⟨?_, ?_⟩, ?_⟩
        · intro k hne
          simp [hne]
        · rw [hk]
          simp [hsat', Strategy.writes]
        · exact reconcile_again (hr.of_eq rfl rfl) (by simp) hagain

/-- Reconciling the in-memory store writes exactly the desired state and then is a no-op, for
each of the four spec types. -/
theorem store_reconcile_contract :
    ReconcileContract RepositorySpec ∧ ReconcileContract DeployKeySpec ∧
      ReconcileContract TeamAccessSpec ∧ ReconcileContract PullRequestSpec :=
  ⟨reconcile_contract_of_laws repositorySpec_laws, reconcile_contract_of_laws deployKeySpec_laws,
    reconcile_contract_of_laws teamAccessSpec_laws, reconcile_contract_of_laws pullRequestSpec_laws⟩

end Contract

end Resource

end ForgeSync
