import ForgeSync.Manifest

/-!
# Which entries an apply run attempts

An apply run reconciles manifest entries in order and records each attempted entry with its
outcome; it stops after a failure, unless it keeps going, in which case it stops only after a
failure by the end of the caller's context.  Whatever the provider answers, the report is
therefore determined by the answers it would give the entries in turn: it pairs the entries
with their outcomes up to and including the first answer that stops the run, or all of them
(`applyEntries_stop_rule`).  The counts of a report add up to its length, which is at most the
number of entries, so the summary's count of entries not attempted is exact; and a report is a
success exactly when no attempted entry failed.

The provider is any computation over any world: the run lemma relates the run to the answers
of the provider asked for every entry in turn (`mapM`), entry by entry.
-/

namespace ForgeSync

/-- Whether a result is a failure by the end of the caller's context. -/
def failedByContext : Except ApiError Bool → Bool
  | .ok _ => false
  | .error e => e.isContextError

/-- How many results a run takes up to and including the first that `stop` accepts, or all of
them when it accepts none. -/
def upToFirst {α : Type} (stop : α → Bool) (rs : List α) : Nat :=
  min (rs.findIdx stop + 1) rs.length

theorem upToFirst_cons {α : Type} (stop : α → Bool) (r : α) (rs : List α) :
    upToFirst stop (r :: rs) = if stop r then 1 else upToFirst stop rs + 1 := by
  unfold upToFirst
  cases h : stop r with
  | true => simp [List.findIdx_cons, h]
  | false =>
    simp only [List.findIdx_cons, h, cond_false, List.length_cons, Bool.false_eq_true, if_false]
    omega

theorem upToFirst_le {α : Type} (stop : α → Bool) (rs : List α) :
    upToFirst stop rs ≤ rs.length :=
  Nat.min_le_right _ _

namespace Outcome

/-- An outcome stops a run exactly when its result is a failure and the run does not keep
going, or a failure by the end of the context. -/
theorem stops_ofResult (keepGoing : Bool) (r : Except ApiError Bool) :
    (ofResult r).stops keepGoing =
      if keepGoing then failedByContext r else !r.isOk := by
  rcases r with e | _ | _ <;> cases keepGoing <;> rfl

@[simp] theorem isFailure_ofResult (r : Except ApiError Bool) :
    (ofResult r).isFailure = !r.isOk := by
  rcases r with e | _ | _ <;> rfl

end Outcome

/-! ## The run -/

section Run

variable {σ ε : Type} (attempt : ε → StateM σ (Except ApiError Bool)) (keepGoing : Bool)

/-- A bind runs its first computation and the continuation on the world it left. -/
theorem stateM_run_bind {α β : Type} (x : StateM σ α) (f : α → StateM σ β) (s : σ) :
    (x >>= f).run s = (f (x.run s).1).run (x.run s).2 := rfl

theorem mapM_run_cons (e : ε) (es : List ε) (s : σ) :
    (((e :: es).mapM attempt).run s).1 =
      ((attempt e).run s).1 :: ((es.mapM attempt).run ((attempt e).run s).2).1 := by
  simp only [List.mapM_cons, stateM_run_bind]
  rfl

theorem length_mapM_run (es : List ε) (s : σ) :
    ((es.mapM attempt).run s).1.length = es.length := by
  induction es generalizing s with
  | nil => rfl
  | cons e es ih => rw [mapM_run_cons, List.length_cons, ih, List.length_cons]

/-- One entry of a run: its outcome is recorded, and the run goes on from the world the
attempt left unless the outcome stops it. -/
theorem applyEntries_run_cons (e : ε) (es : List ε) (s : σ) :
    ((applyEntries attempt keepGoing (e :: es)).run s).1 =
      let r := ((attempt e).run s).1
      if (Outcome.ofResult r).stops keepGoing then [(e, Outcome.ofResult r)]
      else (e, Outcome.ofResult r) ::
        ((applyEntries attempt keepGoing es).run ((attempt e).run s).2).1 := by
  simp only [applyEntries, stateM_run_bind]
  split <;> rfl

/-- The run lemma: a run records each entry with the outcome of the answer the provider gives
it in turn, up to and including the first answer that stops the run. -/
theorem applyEntries_run (es : List ε) (s : σ) :
    ((applyEntries attempt keepGoing es).run s).1 =
      let rs := ((es.mapM attempt).run s).1
      ((es.zip rs).take (upToFirst (fun r => (Outcome.ofResult r).stops keepGoing) rs)).map
        (fun p => (p.1, Outcome.ofResult p.2)) := by
  induction es generalizing s with
  | nil => rfl
  | cons e es ih =>
    simp only [applyEntries_run_cons, mapM_run_cons, upToFirst_cons, List.zip_cons_cons]
    -- the first answer either stops the run or is followed by the run of the rest
    by_cases hstop : (Outcome.ofResult ((attempt e).run s).1).stops keepGoing = true
    · simp only [if_pos hstop]
      rfl
    · simp only [if_neg hstop, List.take_succ_cons, List.map_cons, ih]

end Run

/-! ## Reports -/

namespace ApplyReport

/-- Every attempted entry is counted once: as changed, unchanged or failed. -/
theorem counts_add_up (r : ApplyReport) :
    r.changed + r.unchanged + r.failed = r.results.length := by
  obtain ⟨results⟩ := r
  induction results with
  | nil => rfl
  | cons p ps ih =>
    obtain ⟨e, o⟩ := p
    cases o <;> simp [changed, unchanged, failed, Outcome.isFailure] at ih ⊢ <;> omega

theorem isSuccess_iff (r : ApplyReport) :
    r.isSuccess = true ↔ ∀ p ∈ r.results, p.2.isFailure = false := by
  simp [isSuccess, failed, List.filter_eq_nil_iff]

/-- A report whose outcomes are those of answers `rs` is a success exactly when every one of
the answers is. -/
theorem isSuccess_iff_ok (r : ApplyReport) {rs : List (Except ApiError Bool)}
    (h : r.results.map (·.2) = rs.map Outcome.ofResult) :
    r.isSuccess = true ↔ ∀ x ∈ rs, x.isOk = true := by
  have hout : (∀ p ∈ r.results, p.2.isFailure = false) ↔
      ∀ o ∈ r.results.map (·.2), o.isFailure = false :=
    (List.forall_mem_map (P := fun o : Outcome => o.isFailure = false)).symm
  rw [isSuccess_iff, hout, h, List.forall_mem_map]
  simp

end ApplyReport

/-- The outcomes of the first `n` entries paired with their answers are the outcomes of the
first `n` answers. -/
theorem outcomes_take {ε : Type} {es : List ε} {rs : List (Except ApiError Bool)}
    (hlen : rs.length ≤ es.length) (n : Nat) :
    (((es.zip rs).take n).map fun p => (p.1, Outcome.ofResult p.2)).map (·.2) =
      (rs.take n).map Outcome.ofResult := by
  rw [List.map_map]
  show List.map (Outcome.ofResult ∘ Prod.snd) _ = _
  rw [← List.map_map, List.map_take, List.map_snd_zip hlen]

/-- An apply run attempts exactly what its stop rule allows, whatever the provider answers.
With `rs` the answers the provider gives the entries in turn, the report pairs the entries
with the outcomes of their answers, up to and including the first failure, or, when the run
keeps going, the first failure by the end of the context; all of them when there is no such
failure.  Its counts add up to its length, which is at most the number of entries; and it is a
success exactly when no attempted entry failed. -/
theorem applyEntries_stop_rule {σ : Type} (attempt : Entry → StateM σ (Except ApiError Bool))
    (keepGoing : Bool) (entries : List Entry) (s : σ) :
    let rs := ((entries.mapM attempt).run s).1
    let report : ApplyReport := { results := ((applyEntries attempt keepGoing entries).run s).1 }
    report.results =
        ((entries.zip rs).take
          (if keepGoing then upToFirst failedByContext rs else upToFirst (fun r => !r.isOk) rs)).map
          (fun p => (p.1, Outcome.ofResult p.2)) ∧
      report.changed + report.unchanged + report.failed = report.results.length ∧
      report.results.length ≤ entries.length ∧
      (report.isSuccess = true ↔ ∀ r ∈ rs.take report.results.length, r.isOk = true) := by
  intro rs report
  -- the stop rule, read on the answers
  have hrule : (fun r => (Outcome.ofResult r).stops keepGoing) =
      if keepGoing then failedByContext else (fun r => !r.isOk) := by
    funext r
    rw [Outcome.stops_ofResult]
    cases keepGoing <;> rfl
  have hresults : report.results = ((entries.zip rs).take
      (if keepGoing then upToFirst failedByContext rs else upToFirst (fun r => !r.isOk) rs)).map
      (fun p => (p.1, Outcome.ofResult p.2)) := by
    show ((applyEntries attempt keepGoing entries).run s).1 = _
    rw [applyEntries_run, hrule]
    cases keepGoing <;> rfl
  have hlen : rs.length = entries.length := length_mapM_run attempt entries s
  have hle : (if keepGoing then upToFirst failedByContext rs else upToFirst (fun r => !r.isOk) rs)
      ≤ rs.length := by
    cases keepGoing <;> exact upToFirst_le _ rs
  have hcount : report.results.length =
      if keepGoing then upToFirst failedByContext rs else upToFirst (fun r => !r.isOk) rs := by
    rw [hresults, List.length_map, List.length_take, List.length_zip, hlen]
    omega
  -- the attempted outcomes are those of the first answers, entry by entry
  refine ⟨hresults, report.counts_add_up, by omega, report.isSuccess_iff_ok ?_⟩
  rw [hcount, hresults]
  exact outcomes_take (by omega) _

end ForgeSync
