import ForgeSync.Proofs.Paging
import ForgeSync.Proofs.Run
import ForgeSync.Proofs.Store

/-!
# Work stops when the caller's context ends

Every place that starts work checks the caller's context first: the store before each
operation, a walk over pages before each page, an HTTP attempt before it sends and a backoff
before it waits.  Every place that inspects an error lets the context's end through: a
not-found branch never sees it, the retry loop never retries it, and only a recreate wraps it,
when its create step raised it.

`Respects` says this of one run over a world whose context is read by `check`.  Started in a
done context, the run changes nothing and tells its caller why the context is done, or it
does not touch its world at all (it refuses its arguments, or answers without asking).
Started live, when the context is done at the end, the run tells its caller the reason: so a
context that ends in the middle of a run stops it there, since whatever comes after stands in
a done context and is stopped at once.

The property is closed under the ways runs are put together (`Respects.branch`, which covers
sequencing and error handlers that let the end through), so it holds of a whole operation
once it holds of its parts.  Here: the walk over pages, which asks for a page only in a live
context whatever its fetch does (`walkPages_guarded`) and respects the context whenever its
page fetch does; the handle operations, for any kind whose calls respect it; and the
in-memory store, whose every call checks the context first and none changes it.
-/

namespace ForgeSync

section Respects

variable {σ α β : Type} (scope : σ → Prop) (check : σ → Except ApiError Unit)

/-- What a run may tell its caller once the context has ended with reason `e`: the reason
itself or, where `wraps` (a recreate whose create step raised it), the reason inside a failed
recreate. -/
def ReportsEnd (wraps : Bool) (e : ApiError) (r : Except ApiError β) : Prop :=
  r = .error e ∨ wraps = true ∧ ∃ what, r = .error (.recreateFailed what e)

/-- A run respects the context of the worlds in `scope`, read by `check`: it keeps worlds in
scope; started in a done context it changes nothing and reports the end, or it does the same
in every world and touches none; started live, it reports the end of a context that is done
when it returns. -/
structure Respects (wraps : Bool) (run : σ → Except ApiError β × σ) : Prop where
  keeps : ∀ s, scope s → scope (run s).2
  stopped : ∀ s e, scope s → check s = .error e →
    (run s).2 = s ∧ ReportsEnd wraps e (run s).1 ∨ ∃ r, ∀ s₂, scope s₂ → run s₂ = (r, s₂)
  ended : ∀ s e, scope s → check s = .ok () → check (run s).2 = .error e →
    ReportsEnd wraps e (run s).1

/-- The result of a run that also returns a companion value (a handle, a cursor), and the
world after it. -/
def resultOn {γ : Type} (m : StateM σ (Except ApiError β × γ)) (s : σ) : Except ApiError β × σ :=
  ((m.run s).1.1, (m.run s).2)

theorem resultOn_of_run {γ : Type} {m : StateM σ (Except ApiError β × γ)} {s s₁ : σ}
    {r : Except ApiError β} {c : γ} (h : m.run s = ((r, c), s₁)) : resultOn m s = (r, s₁) := by
  rw [resultOn, h]

end Respects

namespace ReportsEnd

variable {β : Type} {w : Bool} {e : ApiError} {r : Except ApiError β}

@[simp] theorem not_ok (a : β) : ¬ ReportsEnd w e (.ok a) := by
  simp [ReportsEnd]

@[simp] theorem false_iff : ReportsEnd false e r ↔ r = .error e := by
  simp [ReportsEnd]

theorem mono (h : ReportsEnd false e r) : ReportsEnd w e r :=
  .inl (false_iff.mp h)

theorem map {γ : Type} (g : β → γ) (h : ReportsEnd w e r) : ReportsEnd w e (r.map g) := by
  rcases h with rfl | ⟨hw, what, rfl⟩
  · exact .inl rfl
  · exact .inr ⟨hw, what, rfl⟩

end ReportsEnd

namespace Respects

variable {σ α β : Type} {scope : σ → Prop} {check : σ → Except ApiError Unit} {w : Bool}
  {run run' : σ → Except ApiError β × σ}

/-- A run that does the same in every world and touches none respects every context. -/
theorem of_const {r : Except ApiError β} (h : ∀ s, scope s → run s = (r, s)) :
    Respects scope check w run where
  keeps s hs := by rw [h s hs]; exact hs
  stopped _ _ _ _ := .inr ⟨r, h⟩
  ended s e hs hl he := by
    rw [h s hs] at he
    rw [hl] at he
    cases he

/-- A run that fails with the reason at once in a done context, and leaves the context as it
found it, respects it. -/
theorem of_checked (hkeeps : ∀ s, scope s → scope (run s).2)
    (hstop : ∀ s e, scope s → check s = .error e → run s = (.error e, s))
    (hcheck : ∀ s, scope s → check (run s).2 = check s) : Respects scope check w run where
  keeps := hkeeps
  stopped s e hs he := .inl (by rw [hstop s e hs he]; exact ⟨rfl, .inl rfl⟩)
  ended s e hs hl he := by
    rw [hcheck s hs, hl] at he
    cases he

theorem congr (h : ∀ s, scope s → run s = run' s) (hr : Respects scope check w run) :
    Respects scope check w run' where
  keeps s hs := h s hs ▸ hr.keeps s hs
  stopped s e hs he := by
    rcases hr.stopped s e hs he with hA | ⟨r, hB⟩
    · exact .inl (h s hs ▸ hA)
    · exact .inr ⟨r, fun s₂ hs₂ => (h s₂ hs₂).symm.trans (hB s₂ hs₂)⟩
  ended s e hs hl he := h s hs ▸ hr.ended s e hs hl (h s hs ▸ he)

theorem mono (hr : Respects scope check false run) : Respects scope check w run where
  keeps := hr.keeps
  stopped s e hs he := (hr.stopped s e hs he).imp (fun ⟨h1, h2⟩ => ⟨h1, h2.mono⟩) id
  ended s e hs hl he := (hr.ended s e hs hl he).mono

/-- Mapping the result of a run keeps its respect for the context. -/
theorem mapResult {γ : Type} (g : β → γ) (hr : Respects scope check w run) :
    Respects scope check w (fun s => ((run s).1.map g, (run s).2)) where
  keeps := hr.keeps
  stopped s e hs he := by
    rcases hr.stopped s e hs he with ⟨h1, h2⟩ | ⟨r, hB⟩
    · exact .inl ⟨h1, h2.map g⟩
    · exact .inr ⟨r.map g, fun s₂ hs₂ => by rw [hB s₂ hs₂]⟩
  ended s e hs hl he := (hr.ended s e hs hl he).map g

/-- Started in a done context, a run that reports no wrapped end fails with the reason at
once, or touches no world. -/
theorem stopped_false (hr : Respects scope check false run) {s : σ} {e : ApiError}
    (hs : scope s) (he : check s = .error e) :
    run s = (.error e, s) ∨ ∃ r, ∀ s₂, scope s₂ → run s₂ = (r, s₂) := by
  rcases hr.stopped s e hs he with ⟨h1, h2⟩ | hB
  · exact .inl (Prod.ext (ReportsEnd.false_iff.mp h2) h1)
  · exact .inr hB

/-- Started live, a run that reports no wrapped end and ends with the context fails with the
reason. -/
theorem ended_false (hr : Respects scope check false run) {s : σ} {e : ApiError}
    (hs : scope s) (hl : check s = .ok ()) (he : check (run s).2 = .error e) :
    (run s).1 = .error e :=
  ReportsEnd.false_iff.mp (hr.ended s e hs hl he)

/-- Started live, a run that reports no wrapped end and succeeds leaves the context live. -/
theorem live_of_ok {α : Type} {run : σ → Except ApiError α × σ}
    (hr : Respects scope check false run) {s s₁ : σ} {a : α} (hs : scope s)
    (hl : check s = .ok ()) (h : run s = (.ok a, s₁)) : check s₁ = .ok () := by
  cases hc : check s₁ with
  | ok u => rfl
  | error e =>
    have := hr.ended_false hs hl (by rw [h]; exact hc)
    rw [h] at this
    cases this

/-- A handler lets the end of the context through: given the reason, it touches nothing and
reports the end (wrapped, where `wraps`). -/
def Passes (check : σ → Except ApiError Unit) (wraps : Bool)
    (onErr : ApiError → σ → Except ApiError β × σ) : Prop :=
  ∀ s e, check s = .error e → ∀ s', (onErr e s').2 = s' ∧ ReportsEnd wraps e (onErr e s').1

/-- Run a first step and go on by its outcome: with `onOk` on a result, with `onErr` on a
failure.  When both ways respect the context and the failure handler lets the context's end
through, the whole run respects it. -/
theorem branch {run₀ : σ → Except ApiError α × σ}
    {onOk : α → σ → Except ApiError β × σ} {onErr : ApiError → σ → Except ApiError β × σ}
    (h₀ : Respects scope check false run₀) (hok : ∀ a, Respects scope check w (onOk a))
    (herr : ∀ e, Respects scope check w (onErr e)) (hpass : Passes check w onErr) :
    Respects scope check w (fun s => match run₀ s with
      | (.ok a, s₁) => onOk a s₁
      | (.error e, s₁) => onErr e s₁) where
  keeps s hs := by
    have hs₁ := h₀.keeps s hs
    rcases h : run₀ s with ⟨e | a, s₁⟩
    · rw [h] at hs₁
      exact (herr e).keeps s₁ hs₁
    · rw [h] at hs₁
      exact (hok a).keeps s₁ hs₁
  stopped s e hs he := by
    rcases h₀.stopped_false hs he with hA | ⟨r, hB⟩
    · -- the first step stopped with the reason, and the handler passes it on
      refine .inl ?_
      simp only [hA]
      exact hpass s e he s
    · -- the first step touches no world, so what follows decides
      rcases r with e' | a
      · rcases (herr e').stopped s e hs he with hA | ⟨r', hB'⟩
        · exact .inl (by simpa only [hB s hs] using hA)
        · exact .inr ⟨r', fun s₂ hs₂ => by simp only [hB s₂ hs₂, hB' s₂ hs₂]⟩
      · rcases (hok a).stopped s e hs he with hA | ⟨r', hB'⟩
        · exact .inl (by simpa only [hB s hs] using hA)
        · exact .inr ⟨r', fun s₂ hs₂ => by simp only [hB s₂ hs₂, hB' s₂ hs₂]⟩
  ended s e hs hl he := by
    have hs₁ := h₀.keeps s hs
    rcases h : run₀ s with ⟨e' | a, s₁⟩
    · rw [h] at hs₁
      simp only [h] at he ⊢
      cases hc : check s₁ with
      | ok u => exact (herr e').ended s₁ e hs₁ hc he
      | error e₁ =>
        -- the first step ended with the context, so it failed with the reason
        have h₁ := h₀.ended_false hs hl (by rw [h]; exact hc)
        simp only [h, Except.error.injEq] at h₁
        subst h₁
        obtain ⟨hkeep, hreport⟩ := hpass s₁ e' hc s₁
        rw [hkeep, hc] at he
        cases he
        exact hreport
    · rw [h] at hs₁
      simp only [h] at he ⊢
      cases hc : check s₁ with
      | ok u => exact (hok a).ended s₁ e hs₁ hc he
      | error e₁ =>
        have h₁ := h₀.ended_false hs hl (by rw [h]; exact hc)
        simp only [h] at h₁
        cases h₁

/-! ### Calls -/

section Calls

variable {σ α β : Type} {scope : σ → Prop} {check : σ → Except ApiError Unit} {w : Bool}

theorem ofExcept (r : Except ApiError α) :
    Respects scope check w (Call.ofExcept r : Call σ α).runOn :=
  of_const fun s _ => Call.runOn_ofExcept r s

theorem pure (a : α) : Respects scope check w (Pure.pure a : Call σ α).runOn :=
  of_const fun s _ => Call.runOn_pure a s

theorem throw (e : ApiError) : Respects scope check w (MonadExcept.throw e : Call σ α).runOn :=
  of_const fun s _ => Call.runOn_throw e s

/-- A failure passed on unchanged lets the end of the context through. -/
theorem passes_error : Passes check w (fun e (s : σ) => ((.error e : Except ApiError β), s)) :=
  fun _ _ _ _ => ⟨rfl, .inl rfl⟩

theorem bind {c : Call σ α} {f : α → Call σ β} (hc : Respects scope check false c.runOn)
    (hf : ∀ a, Respects scope check w (f a).runOn) : Respects scope check w (c >>= f).runOn :=
  congr (fun s _ => (Call.runOn_bind c f s).symm)
    (branch hc hf (fun _ => of_const fun _ _ => rfl) passes_error)

/-- A handler that lets the end of the context through keeps a call's respect for it. -/
theorem tryCatch {c : Call σ α} {handler : ApiError → Call σ α}
    (hc : Respects scope check false c.runOn) (hh : ∀ e, Respects scope check w (handler e).runOn)
    (hpass : ∀ s e, check s = .error e → handler e = MonadExcept.throw e) :
    Respects scope check w (MonadExcept.tryCatch c handler).runOn :=
  congr (fun s _ => (Call.runOn_tryCatch c handler s).symm)
    (branch hc (fun a => of_const fun s _ => rfl) hh
      fun s e he s' => by rw [hpass s e he, Call.runOn_throw]; exact ⟨rfl, .inl rfl⟩)

theorem map {c : Call σ α} (g : α → β) (hc : Respects scope check false c.runOn) :
    Respects scope check w (g <$> c).runOn := by
  rw [map_eq_pure_bind]
  exact bind hc fun a => pure (g a)

/-- A failure wrapped as a failed recreate reports the end wrapped. -/
theorem recreateFailed {c : Call σ α} (what : String) (hc : Respects scope check false c.runOn) :
    Respects scope check true
      (MonadExcept.tryCatch c (fun e => MonadExcept.throw (.recreateFailed what e))).runOn :=
  congr (fun s _ => (Call.runOn_tryCatch c _ s).symm)
    (branch hc (fun a => of_const fun s _ => rfl) (fun e => throw _)
      fun _ _ _ s' => by rw [Call.runOn_throw]; exact ⟨rfl, .inr ⟨rfl, what, rfl⟩⟩)

end Calls

end Respects

/-! ### Walks over pages -/

section Walk

variable {σ α : Type} {scope : σ → Prop} {check : σ → Except ApiError Unit}
  {fetch : Cursor → StateM σ (Except ApiError (Page α))} {opts : PageOptions}
  {fuel pages : Nat} {items : List α} {cur : Cursor} {s : σ}

/-- With a page in hand, under any item budget, the walk ends where the fetch left the world
or goes on to the next page from there. -/
theorem walkPages_after_page {page : Page α} {s₁ : σ} (hc : check s = .ok ())
    (hb : opts.maxPages.any (· ≤ pages) = false) (hf : (fetch cur).run s = (.ok page, s₁)) :
    ((walkPages check fetch opts (fuel + 1) pages items cur).run s).2 = s₁ ∨
      ∃ items' cur', (walkPages check fetch opts (fuel + 1) pages items cur).run s =
        (walkPages check fetch opts fuel (pages + 1) items' cur').run s₁ := by
  have hf' : (fetch cur).run s = Pure.pure (.ok page, s₁) := hf
  simp only [walkPages, StateT.run_bind, StateT.run_get, pure_bind, hc, hb, Bool.false_eq_true,
    if_false, hf']
  -- each way on from a page either returns where the fetch left the world or walks on
  repeat' split
  all_goals first | exact .inl rfl | exact .inr ⟨_, _, rfl⟩

/-- A walk respects the context whenever its page fetch does: the check before each page
stops it in a done context, and a fetch that ends with the context ends the walk with it. -/
theorem walkPages_respects (hf : ∀ cur, Respects scope check false (fetch cur).run) :
    ∀ fuel pages items cur, Respects scope check false
      (resultOn (walkPages check fetch opts fuel pages items cur))
  | 0, _, _, _ => Respects.of_const fun _ _ => rfl
  | fuel + 1, pages, items, cur => by
    have ih := walkPages_respects hf fuel (pages + 1)
    refine { keeps := fun s hs => ?_, stopped := fun s e hs hc => ?_,
             ended := fun s e hs hl he => ?_ }
    · cases hc : check s with
      | error e => rw [resultOn_of_run (walkPages_stopped check fetch opts hc)]; exact hs
      | ok u =>
        cases hb : opts.maxPages.any (· ≤ pages) with
        | true => rw [resultOn_of_run (walkPages_budget check fetch opts hc hb)]; exact hs
        | false =>
          have hs₁ := (hf cur).keeps s hs
          rcases hfr : (fetch cur).run s with ⟨e | page, s₁⟩ <;> rw [hfr] at hs₁
          · rw [resultOn_of_run (walkPages_fetch_error check fetch opts hc hb hfr)]
            exact hs₁
          · rcases walkPages_after_page hc hb hfr with hend | ⟨items', cur', hw⟩
            · rw [resultOn, hend]
              exact hs₁
            · rw [resultOn, hw]
              exact (ih items' cur').keeps s₁ hs₁
    · rw [resultOn_of_run (walkPages_stopped check fetch opts hc)]
      exact .inl ⟨rfl, .inl rfl⟩
    · cases hb : opts.maxPages.any (· ≤ pages) with
      | true =>
        rw [resultOn_of_run (walkPages_budget check fetch opts hl hb), hl] at he
        cases he
      | false =>
        rcases hfr : (fetch cur).run s with ⟨e' | page, s₁⟩
        · -- the fetch failed: with the reason, if the context ended during it
          rw [resultOn_of_run (walkPages_fetch_error check fetch opts hl hb hfr)] at he ⊢
          have h₁ := (hf cur).ended_false hs hl (by rw [hfr]; exact he)
          simp only [hfr, Except.error.injEq] at h₁
          exact .inl (by rw [h₁])
        · have hl₁ := (hf cur).live_of_ok hs hl hfr
          rcases walkPages_after_page hl hb hfr with hend | ⟨items', cur', hw⟩
          · -- the walk ended where a successful fetch left a live context
            rw [resultOn, hend, hl₁] at he
            cases he
          · have hs₁ := (hf cur).keeps s hs
            rw [hfr] at hs₁
            rw [resultOn, hw] at he ⊢
            exact (ih items' cur').ended s₁ e hs₁ hl₁ he

/-- A page fetch that checks the context first: in a done one it fails with the reason and
asks for nothing. -/
def guardedFetch (check : σ → Except ApiError Unit)
    (fetch : Cursor → StateM σ (Except ApiError (Page α))) (cur : Cursor) :
    StateM σ (Except ApiError (Page α)) := do
  match check (← get) with
  | .error e => pure (.error e)
  | .ok () => fetch cur

theorem guardedFetch_run_live (hc : check s = .ok ()) :
    (guardedFetch check fetch cur).run s = (fetch cur).run s := by
  simp only [guardedFetch, StateT.run_bind, StateT.run_get, pure_bind, hc]

/-- A walk asks for a page only in a live context: guarding its fetch by the context changes
nothing, whatever the fetch does to the context. -/
theorem walkPages_guarded : ∀ fuel pages items cur s,
    (walkPages check (guardedFetch check fetch) opts fuel pages items cur).run s =
      (walkPages check fetch opts fuel pages items cur).run s
  | 0, _, _, _, _ => rfl
  | fuel + 1, pages, items, cur, s => by
    cases hc : check s with
    | error e => rw [walkPages_stopped check _ opts hc, walkPages_stopped check _ opts hc]
    | ok u =>
      cases hb : opts.maxPages.any (· ≤ pages) with
      | true => rw [walkPages_budget check _ opts hc hb, walkPages_budget check _ opts hc hb]
      | false =>
        -- the same fetch from a live world, and the same way on from its answer
        simp only [walkPages, StateT.run_bind, StateT.run_get, pure_bind, hc, hb,
          Bool.false_eq_true, if_false, guardedFetch_run_live hc]
        rcases (fetch cur).run s with ⟨e | page, s₁⟩
        · rfl
        · dsimp only [bind, StateT.bind, Id.run]
          repeat' split
          all_goals first | rfl | exact walkPages_guarded fuel _ _ _ s₁

theorem allPages_guarded (fuel : Nat) (cursor : Cursor) (s : σ) :
    (allPages check (guardedFetch check fetch) opts fuel cursor).run s =
      (allPages check fetch opts fuel cursor).run s := by
  unfold allPages
  split
  · rfl
  · exact walkPages_guarded _ _ _ _ s
  · exact walkPages_guarded _ _ _ _ s

theorem allPages_respects (hf : ∀ cur, Respects scope check false (fetch cur).run) (fuel : Nat)
    (cursor : Cursor) :
    Respects scope check false (resultOn (allPages check fetch opts fuel cursor)) := by
  unfold allPages
  split
  · exact Respects.of_const fun _ _ => rfl
  · exact walkPages_respects hf fuel 0 [] _
  · exact walkPages_respects hf fuel 0 [] _

end Walk

/-! ### Handle operations -/

namespace Resource

namespace Handle

variable {σ ι ρ α : Type} {scope : σ → Prop} {check : σ → Except ApiError Unit}
  (k : Kind σ ι ρ α) {h : Handle ι ρ α}

theorem fetch_respects (hf : Respects scope check false (k.fetch h.reference).runOn) :
    Respects scope check false (resultOn (fetch k h)) := by
  refine Respects.congr (fun s _ => ?_) hf
  rcases hr : (k.fetch h.reference).runOn s with ⟨e | raw, s₁⟩
  · exact (resultOn_of_run (fetch_run_error k hr)).symm
  · exact (resultOn_of_run (fetch_run_ok k hr)).symm

theorem create_respects (hc : ∀ d, Respects scope check false (k.create h.reference d).runOn) :
    Respects scope check false (resultOn (create k h)) := by
  cases hv : h.requireDesired k >>= k.validate with
  | error e => exact Respects.of_const fun s _ => resultOn_of_run (create_run_invalid k hv)
  | ok d =>
    refine Respects.congr (fun s _ => ?_) (hc d)
    rcases hr : (k.create h.reference d).runOn s with ⟨e | raw, s₁⟩
    · exact (resultOn_of_run (create_run_error k hv hr)).symm
    · exact (resultOn_of_run (create_run_ok k hv hr)).symm

/-- A recreate reports the end of the context wrapped when its create step raised it. -/
theorem recreate_respects {reference : ι} {raw : ρ}
    (hd : Respects scope check false (k.delete reference raw).runOn)
    (hc : ∀ d, Respects scope check false (k.create reference d).runOn) :
    Respects scope check true (recreate k reference raw).runOn :=
  Respects.bind (Respects.ofExcept _) fun d =>
    Respects.bind hd fun _ => Respects.recreateFailed _ (hc d)

/-- How `update` sends a raw form respects the context, with the end wrapped only by a
recreate. -/
theorem send_respects {reference : ι} {raw : ρ}
    (hu : Respects scope check false (k.update reference raw).runOn)
    (hd : Respects scope check false (k.delete reference raw).runOn)
    (hc : ∀ d, Respects scope check false (k.create reference d).runOn) :
    Respects scope check (decide (k.strategy = .recreate)) (send k reference raw).runOn := by
  by_cases hk : k.strategy = .recreate
  · rw [send_of_recreate k hk, decide_eq_true hk]
    exact recreate_respects k hd hc
  · rw [send_of_ne_recreate k hk]
    exact hu.mono

theorem update_respects (hu : ∀ raw, Respects scope check false (k.update h.reference raw).runOn)
    (hd : ∀ raw, Respects scope check false (k.delete h.reference raw).runOn)
    (hc : ∀ d, Respects scope check false (k.create h.reference d).runOn) :
    Respects scope check (decide (k.strategy = .recreate)) (resultOn (update k h)) := by
  cases hr : h.raw with
  | none => exact Respects.of_const fun s _ => resultOn_of_run (update_run_uncached k hr)
  | some raw =>
    refine Respects.congr (fun s _ => ?_) (send_respects k (hu raw) (hd raw) hc)
    rcases hs : (send k h.reference raw).runOn s with ⟨e | r, s₁⟩
    · rw [resultOn, update_run_error k hr hs]
      split <;> rfl
    · exact (resultOn_of_run (update_run_ok k hr hs)).symm

theorem deleteRaw_respects {raw : ρ} (hd : Respects scope check false (k.delete h.reference raw).runOn) :
    Respects scope check false (resultOn (deleteRaw k h raw)) := by
  refine Respects.congr (fun s _ => ?_) hd
  rcases hr : (k.delete h.reference raw).runOn s with ⟨e | ⟨⟩, s₁⟩
  · exact (resultOn_of_run (deleteRaw_run_error k hr)).symm
  · exact (resultOn_of_run (deleteRaw_run_ok k hr)).symm

theorem delete_respects (hf : Respects scope check false (k.fetch h.reference).runOn)
    (hd : ∀ raw, Respects scope check false (k.delete h.reference raw).runOn) :
    Respects scope check false (resultOn (delete k h)) := by
  cases hr : h.raw with
  | some raw =>
    refine Respects.congr (fun s _ => ?_) (deleteRaw_respects k (h := { h with raw := none }) (hd raw))
    rw [resultOn, resultOn, delete_run_cached k hr]
  | none =>
    -- fetch the raw form, then delete it
    refine Respects.congr (fun s _ => ?_)
      (Respects.branch hf (fun raw => deleteRaw_respects k (hd raw))
        (fun _ => Respects.of_const fun _ _ => rfl) Respects.passes_error)
    rcases hfr : (k.fetch h.reference).runOn s with ⟨e | raw, s₁⟩
    · exact (resultOn_of_run (delete_run_fetch_error k hr hfr)).symm
    · show resultOn (deleteRaw k h raw) s₁ = resultOn (delete k h) s
      rw [resultOn, resultOn, delete_run_fetched k hr hfr]

/-- A reconcile respects the context when its kind's calls do and the context's end is never
a not-found error: the fetch that stands first, and the update or create it leads to. -/
theorem reconcile_respects (hnf : ∀ s e, check s = .error e → e.isNotFound = false)
    (hf : Respects scope check false (k.fetch h.reference).runOn)
    (hu : ∀ raw, Respects scope check false (k.update h.reference raw).runOn)
    (hd : ∀ raw, Respects scope check false (k.delete h.reference raw).runOn)
    (hc : ∀ d, Respects scope check false (k.create h.reference d).runOn) :
    Respects scope check (decide (k.strategy = .recreate)) (resultOn (reconcile k h)) := by
  cases hv : h.requireDesired k >>= k.validate with
  | error e => exact Respects.of_const fun s _ => resultOn_of_run (reconcile_run_invalid k hv)
  | ok d =>
    -- after the fetch: nothing to do, or an update of the fetched raw form
    have hok : ∀ raw, Respects scope check (decide (k.strategy = .recreate)) (fun s₁ =>
        if k.satisfies raw d then ((.ok false : Except ApiError Bool), s₁) else
          ((resultOn (update k (set k
              { h with desired := some d, raw := some raw, state := .fetched } d)) s₁).1.map
              (fun _ => true),
            (resultOn (update k (set k
              { h with desired := some d, raw := some raw, state := .fetched } d)) s₁).2)) := by
      intro raw
      by_cases hsat : k.satisfies raw d = true
      · simp only [hsat, if_true]
        exact Respects.of_const fun _ _ => rfl
      · simp only [hsat, Bool.false_eq_true, if_false]
        exact (update_respects k (h := set k
          { h with desired := some d, raw := some raw, state := .fetched } d) hu hd hc).mapResult _
    -- after a failed fetch: a create when the resource is missing, else the failure
    have herr : ∀ e, Respects scope check (decide (k.strategy = .recreate)) (fun s₁ =>
        if e.isNotFound then
          ((resultOn (create k { h with desired := some d }) s₁).1.map (fun _ => true),
           (resultOn (create k { h with desired := some d }) s₁).2)
        else ((.error e : Except ApiError Bool), s₁)) := by
      intro e
      by_cases hn : e.isNotFound = true
      · simp only [hn, if_true]
        exact ((create_respects k (h := { h with desired := some d }) hc).mapResult _).mono
      · simp only [hn, Bool.false_eq_true, if_false]
        exact Respects.of_const fun _ _ => rfl
    have hpass : Respects.Passes check (decide (k.strategy = .recreate)) (fun e s₁ =>
        if e.isNotFound then
          ((resultOn (create k { h with desired := some d }) s₁).1.map (fun _ => true),
           (resultOn (create k { h with desired := some d }) s₁).2)
        else ((.error e : Except ApiError Bool), s₁)) := by
      intro s e he s'
      have hn := hnf s e he
      refine ⟨by simp only [hn, Bool.false_eq_true, if_false], ?_⟩
      simp only [hn, Bool.false_eq_true, if_false]
      exact .inl rfl
    refine Respects.congr (fun s _ => ?_) (Respects.branch hf hok herr hpass)
    rcases hfr : (k.fetch h.reference).runOn s with ⟨e | raw, s₁⟩
    · by_cases hn : e.isNotFound = true
      · rcases hcr : (create k { h with desired := some d }).run s₁ with ⟨⟨r₁, h₁⟩, s₂⟩
        show (if e.isNotFound then _ else _) = _
        rw [if_pos hn, resultOn_of_run hcr, resultOn_of_run (reconcile_run_created k hv hfr hn hcr)]
      · have hn' : e.isNotFound = false := by simpa using hn
        show (if e.isNotFound then _ else _) = _
        rw [if_neg hn, resultOn_of_run (reconcile_run_fetch_error k hv hfr hn')]
    · cases hsat : k.satisfies raw d with
      | true =>
        show (if k.satisfies raw d then _ else _) = _
        rw [if_pos hsat, resultOn_of_run (reconcile_run_satisfied k hv hfr hsat)]
      | false =>
        rcases hur : (update k (set k
            { h with desired := some d, raw := some raw, state := .fetched } d)).run s₁ with
          ⟨⟨r₁, h₁⟩, s₂⟩
        show (if k.satisfies raw d then _ else _) = _
        rw [if_neg (by simp [hsat]), resultOn_of_run hur,
          resultOn_of_run (reconcile_run_unsatisfied k hv hfr hsat hur)]

end Handle

namespace Kind

variable {σ ι ρ α : Type} (scope : σ → Prop) (check : σ → Except ApiError Unit)

/-- Every call of a kind respects the context. -/
structure CallsRespect (k : Kind σ ι ρ α) : Prop where
  fetch : ∀ reference, Respects scope check false (k.fetch reference).runOn
  create : ∀ reference d, Respects scope check false (k.create reference d).runOn
  update : ∀ reference raw, Respects scope check false (k.update reference raw).runOn
  delete : ∀ reference raw, Respects scope check false (k.delete reference raw).runOn

/-- Every operation on every handle of a kind respects the context; only an update or a
reconcile of a kind that recreates may report the end wrapped. -/
def HandlesRespect (k : Kind σ ι ρ α) : Prop :=
  ∀ h : Handle ι ρ α,
    Respects scope check false (resultOn (Handle.fetch k h)) ∧
    Respects scope check false (resultOn (Handle.create k h)) ∧
    Respects scope check (decide (k.strategy = .recreate)) (resultOn (Handle.update k h)) ∧
    Respects scope check false (resultOn (Handle.delete k h)) ∧
    Respects scope check (decide (k.strategy = .recreate)) (resultOn (Handle.reconcile k h))

variable {scope check}

/-- The handle operations respect the context of any kind whose calls do, where the end of
the context is never a not-found error. -/
theorem CallsRespect.handles {k : Kind σ ι ρ α} (hk : k.CallsRespect scope check)
    (hnf : ∀ s e, check s = .error e → e.isNotFound = false) : k.HandlesRespect scope check :=
  fun _ => ⟨Handle.fetch_respects k (hk.fetch _), Handle.create_respects k (hk.create _),
    Handle.update_respects k (hk.update _) (hk.delete _) (hk.create _),
    Handle.delete_respects k (hk.fetch _) (hk.delete _),
    Handle.reconcile_respects k hnf (hk.fetch _) (hk.update _) (hk.delete _) (hk.create _)⟩

end Kind

end Resource

/-! ### The caller's context -/

namespace Context

variable {c : Context} {e : ApiError}

/-- A done context is cancelled or past its deadline. -/
theorem check_error_cases (h : c.check = .error e) : e = .cancelled ∨ e = .deadlineExceeded := by
  unfold check at h
  split at h
  · cases h
    exact .inl rfl
  · split at h
    · split at h
      · cases h
        exact .inr rfl
      · cases h
    · cases h

/-- The end of a context is no not-found error. -/
theorem check_error_not_found (h : c.check = .error e) : e.isNotFound = false := by
  rcases check_error_cases h with rfl | rfl <;> rfl

end Context

/-! ### The in-memory store -/

namespace Resource

namespace Store

variable {α : Type} {s s₁ : Store α} {key : String} {e : ApiError}

theorem begin_runOn_context {op : StoreOp} {r : Except ApiError Unit}
    (hb : (begin op key).runOn s = (r, s₁)) : s₁.context = s.context := by
  rw [begin_runOn] at hb
  cases hc : s.context.check with
  | error e =>
    simp only [hc, Prod.mk.injEq] at hb
    rw [← hb.2]
  | ok u =>
    simp only [hc, Prod.mk.injEq] at hb
    rw [← hb.2]
    rfl

/-- In a done context `begin` fails with the reason and leaves the store as it was. -/
theorem begin_runOn_done {op : StoreOp} (hc : s.context.check = .error e) :
    (begin op key).runOn s = (.error e, s) := by
  rw [begin_runOn, hc]

theorem fetch_runOn_context (key : String) (s : Store α) :
    ((fetch key).runOn s).2.context = s.context := by
  rcases hb : (begin .fetch key).runOn s with ⟨_ | _, s₀⟩
  · rw [fetch, Call.runOn_bind_error hb]
    exact begin_runOn_context hb
  · rw [fetch, Call.runOn_bind_ok hb]
    simp only [Call.runOn_bind, Call.runOn_get]
    split <;> exact begin_runOn_context hb

theorem create_runOn_context (key : String) (spec : α) (s : Store α) :
    ((create key spec).runOn s).2.context = s.context := by
  rcases hb : (begin .create key).runOn s with ⟨_ | _, s₀⟩
  · rw [create, Call.runOn_bind_error hb]
    exact begin_runOn_context hb
  · rw [create, Call.runOn_bind_ok hb]
    simp only [Call.runOn_bind, Call.runOn_get]
    split <;> simp only [Call.runOn_bind, Call.runOn_throw, Call.runOn_set, Call.runOn_pure] <;>
      exact begin_runOn_context hb

theorem update_runOn_context (key : String) (raw : StoredObject α) (s : Store α) :
    ((update key raw).runOn s).2.context = s.context := by
  rcases hb : (begin .update key).runOn s with ⟨_ | _, s₀⟩
  · rw [update, Call.runOn_bind_error hb]
    exact begin_runOn_context hb
  · rw [update, Call.runOn_bind_ok hb]
    simp only [Call.runOn_bind, Call.runOn_get]
    split
    · exact begin_runOn_context hb
    · split <;> simp only [Call.runOn_bind, Call.runOn_throw, Call.runOn_set, Call.runOn_pure] <;>
        exact begin_runOn_context hb

theorem delete_runOn_context (key : String) (raw : StoredObject α) (s : Store α) :
    ((delete key raw).runOn s).2.context = s.context := by
  rcases hb : (begin .delete key).runOn s with ⟨_ | _, s₀⟩
  · rw [delete, Call.runOn_bind_error hb]
    exact begin_runOn_context hb
  · rw [delete, Call.runOn_bind_ok hb]
    simp only [Call.runOn_bind, Call.runOn_get]
    split <;> simp only [Call.runOn_bind, Call.runOn_throw, Call.runOn_set] <;>
      exact begin_runOn_context hb

/-- A store call that stops at once in a done context and keeps the context respects it. -/
theorem respects_of_kept {β : Type} {c : Call (Store α) β}
    (hstop : ∀ s e, s.context.check = .error e → c.runOn s = (.error e, s))
    (hkeep : ∀ s, (c.runOn s).2.context = s.context) :
    Respects (fun _ => True) (fun s : Store α => s.context.check) false c.runOn :=
  Respects.of_checked (fun _ _ => trivial) (fun s e _ he => hstop s e he)
    (fun s _ => by rw [hkeep])

variable [DecidableEq α] [Spec α]

/-- Every call of the store checks the context before it touches anything, and none changes
the context. -/
theorem storeKind_callsRespect (strategy : Strategy) :
    (storeKind strategy : Kind (Store α) String (StoredObject α) α).CallsRespect
      (fun _ => True) (fun s => s.context.check) where
  fetch key := respects_of_kept
    (fun _ _ hc => Call.runOn_bind_error (begin_runOn_done hc))
    (fetch_runOn_context key)
  create key spec := respects_of_kept
    (fun _ _ hc => Call.runOn_bind_error (begin_runOn_done hc))
    (create_runOn_context key spec)
  update key raw := respects_of_kept
    (fun _ _ hc => Call.runOn_bind_error (begin_runOn_done hc))
    (update_runOn_context key raw)
  delete key raw := respects_of_kept
    (fun _ _ hc => Call.runOn_bind_error (begin_runOn_done hc))
    (delete_runOn_context key raw)

/-- Every operation on a handle over the store respects the caller's context. -/
theorem storeKind_handlesRespect (strategy : Strategy) :
    (storeKind strategy : Kind (Store α) String (StoredObject α) α).HandlesRespect
      (fun _ => True) (fun s => s.context.check) :=
  (storeKind_callsRespect strategy).handles fun _ _ => Context.check_error_not_found

end Store

end Resource

end ForgeSync
