import ForgeSync.Proofs.Run
import ForgeSync.Resource.Store

/-!
# The in-memory store, operation by operation

The store is read through one view, `lookup`: the object a list of entries holds at a key.
Writing an entry changes the view at that key only, and erasing one empties it there
(`lookup_putObject`, `lookup_eraseObject`).

Every operation starts with `begin`, which either stops at once (a done context), or logs
the operation and then fails with the injected error or goes on (`begin_runOn`).  So an
operation that fails has written nothing: its objects are those it started from
(`create_runOn_error_objects` and its siblings), and a fetch never writes at all.  On a
`Ready` store, with no injected failure and a live context, each operation does exactly what
its documentation says (`fetch_runOn_ready`, `create_runOn_ready`, `update_runOn_ready`,
`delete_runOn_ready`).
-/

namespace ForgeSync

namespace Resource

namespace Store

variable {α : Type}

/-! ### The view by key -/

/-- The object a list of entries holds at a key: that of the first entry with the key. -/
def lookup (objects : List (String × StoredObject α)) (key : String) : Option (StoredObject α) :=
  (objects.find? (fun o => o.1 == key)).map (·.2)

@[simp] theorem get?_eq_lookup (s : Store α) (key : String) : s.get? key = lookup s.objects key :=
  rfl

@[simp] theorem lookup_nil (key : String) : lookup ([] : List (String × StoredObject α)) key = none :=
  rfl

theorem lookup_cons (e : String × StoredObject α) (rest : List (String × StoredObject α))
    (key : String) :
    lookup (e :: rest) key = if e.1 = key then some e.2 else lookup rest key := by
  by_cases he : e.1 = key <;> simp [lookup, he]

/-- Replacing the entries at a key changes the view there, to the new object when the key had
an entry, and nowhere else. -/
theorem lookup_map_replace (objects : List (String × StoredObject α)) (key k : String)
    (o : StoredObject α) :
    lookup (objects.map (fun e => if e.1 == key then (key, o) else e)) k =
      if k = key then (if objects.any (fun e => e.1 == key) then some o else none)
      else lookup objects k := by
  induction objects with
  | nil => by_cases hk : k = key <;> simp [hk]
  | cons e rest ih =>
    rw [List.map_cons, lookup_cons, ih, lookup_cons]
    by_cases hk : k = key
    · subst hk
      by_cases he : e.1 = k
      · simp [he]
      · have hne : (e.1 == k) = false := beq_eq_false_iff_ne.mpr he
        simp only [he, hne, List.any_cons, Bool.false_or, Bool.false_eq_true, if_false]
    · by_cases he : e.1 = key <;> simp [he, hk, Ne.symm hk]

/-- A key with no entry is looked up as nothing. -/
theorem lookup_eq_none_of_any (objects : List (String × StoredObject α)) (key : String)
    (h : objects.any (fun e => e.1 == key) = false) : lookup objects key = none := by
  simp only [lookup, Option.map_eq_none_iff, List.find?_eq_none]
  intro e he
  simpa using List.any_eq_false.mp h e he

@[simp] theorem lookup_putObject (objects : List (String × StoredObject α)) (key k : String)
    (o : StoredObject α) :
    lookup (putObject objects key o) k = if k = key then some o else lookup objects k := by
  unfold putObject
  split
  · rename_i hany
    rw [lookup_map_replace, hany]
    rfl
  · rename_i hany
    have hnone : objects.find? (fun e => e.1 == key) = none := by
      rw [List.find?_eq_none]
      intro e he hek
      exact hany (List.any_eq_true.2 ⟨e, he, hek⟩)
    by_cases hk : k = key
    · subst hk
      simp [lookup, List.find?_append, hnone]
    · simp [lookup, List.find?_append, hk, Ne.symm hk]

@[simp] theorem lookup_eraseObject (objects : List (String × StoredObject α)) (key k : String) :
    lookup (eraseObject objects key) k = if k = key then none else lookup objects k := by
  induction objects with
  | nil => simp [eraseObject]
  | cons e rest ih =>
    simp only [eraseObject] at ih ⊢
    by_cases he : e.1 = key
    · simp only [List.filter_cons, he, bne_self_eq_false, Bool.false_eq_true, if_false, ih,
        lookup_cons]
      by_cases hk : k = key
      · simp [hk]
      · simp [hk, Ne.symm hk]
    · simp only [List.filter_cons, bne_iff_ne, ne_eq, he, not_false_eq_true, if_true, lookup_cons, ih]
      by_cases hk : k = key
      · subst hk
        simp [he]
      · simp [hk]

/-! ### Starting an operation -/

/-- The store with one more operation in its log. -/
def record (s : Store α) (op : StoreOp) (key : String) : Store α :=
  { s with log := s.log ++ [(op, key)] }

/-- The error the store is made to fail an operation with, if any. -/
def injected (s : Store α) (op : StoreOp) : Option ApiError :=
  match s.failOn with
  | some (o, e) => if o = op then some e else none
  | none => none

@[simp] theorem record_objects (s : Store α) (op : StoreOp) (key : String) :
    (s.record op key).objects = s.objects := rfl

@[simp] theorem record_nextId (s : Store α) (op : StoreOp) (key : String) :
    (s.record op key).nextId = s.nextId := rfl

@[simp] theorem record_log (s : Store α) (op : StoreOp) (key : String) :
    (s.record op key).log = s.log ++ [(op, key)] := rfl

/-- A store on which every operation goes through: no failure is injected and the caller's
context is live. -/
structure Ready (s : Store α) : Prop where
  noFailure : s.failOn = none
  live : s.context.check = .ok ()

/-- Readiness depends on the injected failure and the context only, which no operation
changes. -/
theorem Ready.of_eq {s t : Store α} (hs : s.Ready) (hf : t.failOn = s.failOn)
    (hc : t.context = s.context) : t.Ready :=
  ⟨hf.trans hs.noFailure, hc ▸ hs.live⟩

variable {s s₁ : Store α} {key : String} {e : ApiError}

/-- `begin` stops in a done context without a trace; otherwise it logs the operation and fails
with the injected error, if there is one. -/
theorem begin_runOn (s : Store α) (op : StoreOp) (key : String) :
    (begin op key).runOn s = match s.context.check with
      | .error e => (.error e, s)
      | .ok () => ((s.injected op).elim (.ok ()) .error, s.record op key) := by
  simp only [begin, Call.runOn_bind, Call.runOn_get, Call.runOn_ofExcept]
  cases s.context.check with
  | error e => rfl
  | ok u =>
    simp only [Call.runOn_set, injected, record]
    rcases s.failOn with _ | ⟨o, e⟩
    · rfl
    · by_cases ho : o = op <;> simp [ho]

theorem begin_runOn_objects {op : StoreOp} {r : Except ApiError Unit}
    (hb : (begin op key).runOn s = (r, s₁)) : s₁.objects = s.objects := by
  rw [begin_runOn] at hb
  cases hc : s.context.check with
  | error e =>
    simp only [hc, Prod.mk.injEq] at hb
    rw [← hb.2]
  | ok u =>
    simp only [hc, Prod.mk.injEq] at hb
    rw [← hb.2, record_objects]

theorem begin_runOn_ready {op : StoreOp} (hr : s.Ready) :
    (begin op key).runOn s = (.ok (), s.record op key) := by
  have hi : s.injected op = none := by simp [injected, hr.noFailure]
  rw [begin_runOn, hr.live, hi]
  rfl

/-! ### Fetch -/

/-- A fetch never writes. -/
theorem fetch_runOn_objects {r : Except ApiError (StoredObject α)}
    (hf : (fetch key).runOn s = (r, s₁)) : s₁.objects = s.objects := by
  rcases hb : (begin .fetch key).runOn s with ⟨_ | _, s₀⟩
  · rw [fetch, Call.runOn_bind_error hb, Prod.mk.injEq] at hf
    rw [← hf.2, begin_runOn_objects hb]
  · rw [fetch, Call.runOn_bind_ok hb] at hf
    simp only [Call.runOn_bind, Call.runOn_get] at hf
    split at hf <;> simp only [Call.runOn_pure, Call.runOn_throw, Prod.mk.injEq] at hf <;>
      rw [← hf.2, begin_runOn_objects hb]

theorem fetch_runOn_found {o : StoredObject α} (hr : s.Ready) (hk : s.get? key = some o) :
    (fetch key).runOn s = (.ok o, s.record .fetch key) := by
  have hk' : (s.record .fetch key).get? key = some o := hk
  simp only [fetch, Call.runOn_bind_ok (begin_runOn_ready hr), Call.runOn_bind, Call.runOn_get, hk',
    Call.runOn_pure]

theorem fetch_runOn_missing (hr : s.Ready) (hk : s.get? key = none) :
    (fetch key).runOn s = (.error (.notFound key), s.record .fetch key) := by
  have hk' : (s.record .fetch key).get? key = none := hk
  simp only [fetch, Call.runOn_bind_ok (begin_runOn_ready hr), Call.runOn_bind, Call.runOn_get, hk',
    Call.runOn_throw]

/-! ### Create -/

theorem create_runOn_error_objects {spec : α} (hc : (create key spec).runOn s = (.error e, s₁)) :
    s₁.objects = s.objects := by
  rcases hb : (begin .create key).runOn s with ⟨_ | _, s₀⟩
  · rw [create, Call.runOn_bind_error hb, Prod.mk.injEq] at hc
    rw [← hc.2, begin_runOn_objects hb]
  · rw [create, Call.runOn_bind_ok hb] at hc
    simp only [Call.runOn_bind, Call.runOn_get] at hc
    split at hc
    · simp only [Call.runOn_bind, Call.runOn_throw, Prod.mk.injEq] at hc
      rw [← hc.2, begin_runOn_objects hb]
    · simp only [Call.runOn_bind, Call.runOn_set, Call.runOn_pure, Prod.mk.injEq, reduceCtorEq,
        false_and] at hc

/-- A create at a free key stores the spec under the next id, at version 0. -/
theorem create_runOn_ready (key : String) (spec : α) (hr : s.Ready) (hk : s.get? key = none) :
    (create key spec).runOn s = (.ok ⟨s.nextId, 0, spec⟩,
      { s.record .create key with
        objects := putObject s.objects key ⟨s.nextId, 0, spec⟩, nextId := s.nextId + 1 }) := by
  have hk' : ((s.record .create key).get? key).isSome = false := by simp_all
  simp only [create, Call.runOn_bind_ok (begin_runOn_ready hr), Call.runOn_bind, Call.runOn_get, hk',
    Bool.false_eq_true, if_false, Call.runOn_pure, Call.runOn_set]
  rfl

/-! ### Update -/

theorem update_runOn_error_objects {raw : StoredObject α}
    (hu : (update key raw).runOn s = (.error e, s₁)) : s₁.objects = s.objects := by
  rcases hb : (begin .update key).runOn s with ⟨_ | _, s₀⟩
  · rw [update, Call.runOn_bind_error hb, Prod.mk.injEq] at hu
    rw [← hu.2, begin_runOn_objects hb]
  · rw [update, Call.runOn_bind_ok hb] at hu
    simp only [Call.runOn_bind, Call.runOn_get] at hu
    split at hu
    · simp only [Call.runOn_throw, Prod.mk.injEq] at hu
      rw [← hu.2, begin_runOn_objects hb]
    · split at hu
      · simp only [Call.runOn_bind, Call.runOn_throw, Prod.mk.injEq] at hu
        rw [← hu.2, begin_runOn_objects hb]
      · simp only [Call.runOn_bind, Call.runOn_set, Call.runOn_pure, Prod.mk.injEq, reduceCtorEq,
          false_and] at hu

/-- An update carrying the stored version writes its spec and raises the version by one,
keeping the id. -/
theorem update_runOn_ready {raw o : StoredObject α} (hr : s.Ready) (hk : s.get? key = some o)
    (hv : raw.version = o.version) :
    (update key raw).runOn s = (.ok { o with spec := raw.spec, version := o.version + 1 },
      { s.record .update key with
        objects := putObject s.objects key { o with spec := raw.spec, version := o.version + 1 } }) := by
  have hk' : (s.record .update key).get? key = some o := hk
  simp only [update, Call.runOn_bind_ok (begin_runOn_ready hr), Call.runOn_bind, Call.runOn_get, hk',
    hv, ne_eq, not_true_eq_false, if_false, Call.runOn_pure, Call.runOn_set]
  rfl

/-! ### Delete -/

theorem delete_runOn_error_objects {raw : StoredObject α}
    (hd : (delete key raw).runOn s = (.error e, s₁)) : s₁.objects = s.objects := by
  rcases hb : (begin .delete key).runOn s with ⟨_ | _, s₀⟩
  · rw [delete, Call.runOn_bind_error hb, Prod.mk.injEq] at hd
    rw [← hd.2, begin_runOn_objects hb]
  · rw [delete, Call.runOn_bind_ok hb] at hd
    simp only [Call.runOn_bind, Call.runOn_get] at hd
    split at hd
    · simp only [Call.runOn_bind, Call.runOn_throw, Prod.mk.injEq] at hd
      rw [← hd.2, begin_runOn_objects hb]
    · simp only [Call.runOn_set, Prod.mk.injEq, reduceCtorEq, false_and] at hd

/-- After a delete that succeeded, the key holds nothing. -/
theorem delete_runOn_ok_get? {raw : StoredObject α}
    (hd : (delete key raw).runOn s = (.ok (), s₁)) : s₁.get? key = none := by
  rcases hb : (begin .delete key).runOn s with ⟨_ | _, s₀⟩
  · rw [delete, Call.runOn_bind_error hb] at hd
    cases hd
  · rw [delete, Call.runOn_bind_ok hb] at hd
    simp only [Call.runOn_bind, Call.runOn_get] at hd
    split at hd
    · simp only [Call.runOn_bind, Call.runOn_throw, Prod.mk.injEq, reduceCtorEq, false_and] at hd
    · simp only [Call.runOn_set, Prod.mk.injEq] at hd
      rw [← hd.2]
      simp

theorem delete_runOn_ready {o : StoredObject α} (raw : StoredObject α) (hr : s.Ready)
    (hk : s.get? key = some o) :
    (delete key raw).runOn s =
      (.ok (), { s.record .delete key with objects := eraseObject s.objects key }) := by
  have hk' : ((s.record .delete key).get? key).isNone = false := by simp_all
  simp only [delete, Call.runOn_bind_ok (begin_runOn_ready hr), Call.runOn_bind, Call.runOn_get, hk',
    Bool.false_eq_true, if_false, Call.runOn_set]
  rfl

end Store

end Resource

end ForgeSync
