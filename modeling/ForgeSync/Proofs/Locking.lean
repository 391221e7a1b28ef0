import ForgeSync.Proofs.Store

/-!
# Optimistic locking in the in-memory store

Handles that share one store interleave their calls on it.  Each update carries a raw form
read earlier, and the store accepts it only when the version it carries is the version the
key's object holds now.  Every update that goes through raises that version by one, and no
create can go through while the key is taken, so as long as nobody deletes the key, a raw form
is accepted exactly when no update of the key went through since it was read
(`update_detects_intervening_writes`).

The version is the only thing compared, and a deleted key that is created again starts over
at version 0 under a new id: every call keeps each id the store holds below the next one to
give (`IdsBelow`), so a create, and a delete followed by a create, gives an id above every id
the store held (`recreate_fresh_id`).  A raw form read before the delete then carries the version the
new object holds, and its update goes through, writing the old spec onto the new object
(`stale_update_after_recreate`).

The calls of many handles are taken as one history of store calls, each with whether it went
through: a handle's operation is a sequence of such calls, so every interleaving of handle
operations is a history.
-/

namespace ForgeSync

namespace Resource

namespace Store

variable {α : Type} {s s₁ : Store α} {key : String}

/-! ### What a call that went through did -/

theorem begin_runOn_ok {op : StoreOp} (hb : (begin op key).runOn s = (.ok (), s₁)) :
    s₁ = s.record op key := by
  rw [begin_runOn] at hb
  cases hc : s.context.check with
  | error e => simp [hc] at hb
  | ok u =>
    simp only [hc, Prod.mk.injEq] at hb
    exact hb.2.symm

/-- A call that went through began: the rest of it ran on the store with the operation
logged. -/
theorem runOn_ok_of_begin {β : Type} {op : StoreOp} {f : Unit → Call (Store α) β} {a : β}
    (h : (begin op key >>= f).runOn s = (.ok a, s₁)) :
    (f ()).runOn (s.record op key) = (.ok a, s₁) := by
  rcases hb : (begin op key).runOn s with ⟨_ | ⟨⟩, s₀⟩
  · rw [Call.runOn_bind_error hb] at h
    cases h
  · rw [Call.runOn_bind_ok hb, begin_runOn_ok hb] at h
    exact h

/-- A create that went through found the key free and stored its object there. -/
theorem create_runOn_ok {spec : α} {o : StoredObject α}
    (hc : (create key spec).runOn s = (.ok o, s₁)) :
    s.get? key = none ∧ s₁.objects = putObject s.objects key o := by
  have hc' := runOn_ok_of_begin hc
  simp only [Call.runOn_bind, Call.runOn_get] at hc'
  split at hc'
  · simp at hc'
  · rename_i hfree
    simp only [Call.runOn_bind, Call.runOn_set, Call.runOn_pure, Prod.mk.injEq,
      Except.ok.injEq] at hc'
    obtain ⟨rfl, rfl⟩ := hc'
    refine ⟨?_, rfl⟩
    simpa using hfree

/-- An update that went through found an object at the key with the version the raw form
carries, and stored the raw form's spec there at the next version, under the same id. -/
theorem update_runOn_ok {raw o : StoredObject α} (hu : (update key raw).runOn s = (.ok o, s₁)) :
    ∃ stored, s.get? key = some stored ∧ stored.version = raw.version ∧
      o = { stored with spec := raw.spec, version := stored.version + 1 } ∧
      s₁.objects = putObject s.objects key o := by
  have hu' := runOn_ok_of_begin hu
  simp only [Call.runOn_bind, Call.runOn_get] at hu'
  split at hu'
  · simp at hu'
  · rename_i stored hstored
    split at hu'
    · simp at hu'
    · rename_i hv
      simp only [Call.runOn_bind, Call.runOn_set, Call.runOn_pure, Prod.mk.injEq,
        Except.ok.injEq] at hu'
      obtain ⟨rfl, rfl⟩ := hu'
      exact ⟨stored, hstored, by simpa using hv, rfl, rfl⟩

/-- An update carrying another version than the stored one is refused with a version conflict
that names both versions, and writes nothing. -/
theorem update_runOn_conflict {raw o : StoredObject α} (hr : s.Ready) (hk : s.get? key = some o)
    (hv : raw.version ≠ o.version) :
    (update key raw).runOn s = (.error (.versionConflict key raw.version
      ("current version is " ++ toString o.version)), s.record .update key) := by
  have hk' : (s.record .update key).get? key = some o := hk
  simp only [update, Call.runOn_bind_ok (begin_runOn_ready hr), Call.runOn_bind, Call.runOn_get, hk',
    ne_eq, Ne.symm hv, not_false_eq_true, if_true, Call.runOn_throw]

/-- A delete that went through removed the key. -/
theorem delete_runOn_ok {raw : StoredObject α} (hd : (delete key raw).runOn s = (.ok (), s₁)) :
    s₁.objects = eraseObject s.objects key := by
  have hd' := runOn_ok_of_begin hd
  simp only [Call.runOn_bind, Call.runOn_get] at hd'
  split at hd'
  · simp at hd'
  · simp only [Call.runOn_set, Prod.mk.injEq] at hd'
    rw [← hd'.2]
    rfl

/-- A fetch that went through answered the object at the key, and wrote nothing. -/
theorem fetch_runOn_ok {o : StoredObject α} (hf : (fetch key).runOn s = (.ok o, s₁)) :
    s.get? key = some o ∧ s₁ = s.record .fetch key := by
  have hf' := runOn_ok_of_begin hf
  simp only [Call.runOn_bind, Call.runOn_get] at hf'
  split at hf'
  · rename_i found hfound
    simp only [Call.runOn_pure, Prod.mk.injEq, Except.ok.injEq] at hf'
    obtain ⟨rfl, rfl⟩ := hf'
    exact ⟨hfound, rfl⟩
  · simp at hf'

/-! ### Raw forms read at a key -/

/-- A raw form read at a key, from store `s₀` to store `s`: what a fetch, a create or an update
of the key answered. -/
def Obtained (key : String) (raw : StoredObject α) (s₀ s : Store α) : Prop :=
  (fetch key).runOn s₀ = (.ok raw, s) ∨ (∃ spec, (create key spec).runOn s₀ = (.ok raw, s)) ∨
    ∃ sent, (update key sent).runOn s₀ = (.ok raw, s)

/-- A raw form just read is the object the key holds. -/
theorem Obtained.stored {raw : StoredObject α} {s₀ : Store α} (h : Obtained key raw s₀ s) :
    s.get? key = some raw := by
  rcases h with hf | ⟨spec, hc⟩ | ⟨sent, hu⟩
  · obtain ⟨hk, rfl⟩ := fetch_runOn_ok hf
    simpa using hk
  · simp [(create_runOn_ok hc).2]
  · obtain ⟨stored, -, -, -, hobj⟩ := update_runOn_ok hu
    simp [hobj]

end Store

/-! ### Histories of calls -/

/-- A call on the store, as a handle makes it: a read of a key, a create of it from a spec, or
a raw form written back to it or deleted from it. -/
inductive StoreCall (α : Type) where
  | fetch (key : String)
  | create (key : String) (spec : α)
  | update (key : String) (raw : StoredObject α)
  | delete (key : String) (raw : StoredObject α)

namespace StoreCall

variable {α : Type}

/-- The key a call is on. -/
def key : StoreCall α → String
  | .fetch k | .create k _ | .update k _ | .delete k _ => k

/-- The operation a call makes. -/
def op : StoreCall α → StoreOp
  | .fetch _ => .fetch
  | .create _ _ => .create
  | .update _ _ => .update
  | .delete _ _ => .delete

/-- Make a call: whether it went through, and the store after it. -/
def run : StoreCall α → Store α → Bool × Store α
  | .fetch k, s => (((Store.fetch k).runOn s).1.toBool, ((Store.fetch k).runOn s).2)
  | .create k spec, s =>
    (((Store.create k spec).runOn s).1.toBool, ((Store.create k spec).runOn s).2)
  | .update k raw, s => (((Store.update k raw).runOn s).1.toBool, ((Store.update k raw).runOn s).2)
  | .delete k raw, s => (((Store.delete k raw).runOn s).1.toBool, ((Store.delete k raw).runOn s).2)

/-- Make calls one after another: each call with whether it went through, and the store after
them all. -/
def runAll : List (StoreCall α) → Store α → List (StoreCall α × Bool) × Store α
  | [], s => ([], s)
  | c :: cs, s => ((c, (c.run s).1) :: (runAll cs (c.run s).2).1, (runAll cs (c.run s).2).2)

/-- Whether a call of a history is the operation on the key and went through. -/
def isThrough (op : StoreOp) (key : String) (c : StoreCall α × Bool) : Bool :=
  c.1.op == op && c.1.key == key && c.2

/-- How many calls of a history were the operation on the key and went through. -/
def wentThrough (hist : List (StoreCall α × Bool)) (op : StoreOp) (key : String) : Nat :=
  hist.countP (isThrough op key)

@[simp] theorem wentThrough_nil (op : StoreOp) (key : String) :
    wentThrough ([] : List (StoreCall α × Bool)) op key = 0 := rfl

@[simp] theorem wentThrough_cons (c : StoreCall α × Bool) (hist : List (StoreCall α × Bool))
    (op : StoreOp) (key : String) :
    wentThrough (c :: hist) op key = wentThrough hist op key + if isThrough op key c then 1 else 0 := by
  simp [wentThrough, List.countP_cons]

/-- A call that wrote nothing leaves the object at every key as it was. -/
theorem get?_of_objects_eq {t t' : Store α} (h : t'.objects = t.objects) (key : String) :
    t'.get? key = t.get? key := by
  simp [h]

variable {key : String}

/-- One call keeps the object at `key`, under its id, unless it is a delete of the key that went
through: an update of the key that went through raises its version by one, every other call
leaves it as it is, and no create of the key goes through while it is taken. -/
theorem run_keeps (c : StoreCall α) {t : Store α} {o : StoredObject α} (ho : t.get? key = some o)
    (hdel : isThrough .delete key (c, (c.run t).1) = false) :
    isThrough .create key (c, (c.run t).1) = false ∧
      ∃ o', (c.run t).2.get? key = some o' ∧ o'.id = o.id ∧
        o'.version = o.version + if isThrough .update key (c, (c.run t).1) then 1 else 0 := by
  -- a write of another key leaves the object at `key` as it was
  have other {t' : Store α} {k : String} {o₁ : StoredObject α} (hk : k ≠ key)
      (hobj : t'.objects = Store.putObject t.objects k o₁) : t'.get? key = some o := by
    rw [Store.get?_eq_lookup, hobj, Store.lookup_putObject, if_neg (Ne.symm hk)]
    exact ho
  cases c with
  | fetch k =>
    rcases hf : (Store.fetch k).runOn t with ⟨r, t'⟩
    have hkeep : t'.get? key = some o := by
      rw [get?_of_objects_eq (Store.fetch_runOn_objects hf), ho]
    exact ⟨by simp [isThrough, op], o, by simpa [run, hf] using hkeep, rfl,
      by simp [isThrough, op]⟩
  | create k spec =>
    rcases hc : (Store.create k spec).runOn t with ⟨_ | o₁, t'⟩
    · have hkeep : t'.get? key = some o := by
        rw [get?_of_objects_eq (Store.create_runOn_error_objects hc), ho]
      exact ⟨by simp [isThrough, run, hc, Except.toBool], o, by simpa [run, hc] using hkeep, rfl,
        by simp [isThrough, op]⟩
    · -- a create that went through found its key free, so it was another key
      obtain ⟨hfree, hobj⟩ := Store.create_runOn_ok hc
      have hne : k ≠ key := by
        rintro rfl
        rw [ho] at hfree
        cases hfree
      exact ⟨by simp [isThrough, op, StoreCall.key, hne], o, by simpa [run, hc] using other hne hobj,
        rfl, by simp [isThrough, op]⟩
  | update k raw =>
    rcases hu : (Store.update k raw).runOn t with ⟨_ | o₁, t'⟩
    · have hkeep : t'.get? key = some o := by
        rw [get?_of_objects_eq (Store.update_runOn_error_objects hu), ho]
      exact ⟨by simp [isThrough, op], o, by simpa [run, hu] using hkeep, rfl,
        by simp [isThrough, run, hu, Except.toBool]⟩
    · obtain ⟨stored, hstored, -, rfl, hobj⟩ := Store.update_runOn_ok hu
      by_cases hk : k = key
      · -- the update of the key itself: same id, next version
        subst hk
        obtain rfl : stored = o := Option.some.inj (hstored.symm.trans ho)
        exact ⟨by simp [isThrough, op], { stored with spec := raw.spec, version := stored.version + 1 },
          by simp [run, hu, hobj], rfl, by simp [isThrough, op, StoreCall.key, run, hu, Except.toBool]⟩
      · exact ⟨by simp [isThrough, op], o, by simpa [run, hu] using other hk hobj, rfl,
          by simp [isThrough, op, StoreCall.key, hk]⟩
  | delete k raw =>
    rcases hd : (Store.delete k raw).runOn t with ⟨_ | u, t'⟩
    · have hkeep : t'.get? key = some o := by
        rw [get?_of_objects_eq (Store.delete_runOn_error_objects hd), ho]
      exact ⟨by simp [isThrough, op], o, by simpa [run, hd] using hkeep, rfl,
        by simp [isThrough, op]⟩
    · -- a delete that went through was of another key, or `hdel` is broken
      have hne : k ≠ key := by
        rintro rfl
        simp [isThrough, op, StoreCall.key, run, hd, Except.toBool] at hdel
      have hkeep : t'.get? key = some o := by
        rw [Store.get?_eq_lookup, Store.delete_runOn_ok hd, Store.lookup_eraseObject,
          if_neg (Ne.symm hne)]
        exact ho
      exact ⟨by simp [isThrough, op], o, by simpa [run, hd] using hkeep, rfl,
        by simp [isThrough, op]⟩

/-- Over a history in which no delete of `key` went through, the key keeps its object under the
same id, no create of it goes through, and its version grows by one for each update of it that
went through. -/
theorem runAll_keeps (calls : List (StoreCall α)) {t : Store α} {o : StoredObject α}
    (ho : t.get? key = some o) (hdel : wentThrough (runAll calls t).1 .delete key = 0) :
    wentThrough (runAll calls t).1 .create key = 0 ∧
      ∃ o', (runAll calls t).2.get? key = some o' ∧ o'.id = o.id ∧
        o'.version = o.version + wentThrough (runAll calls t).1 .update key := by
  -- induction on the history; the step lemma carries the object from one store to the next
  induction calls generalizing t o with
  | nil => exact ⟨rfl, o, ho, rfl, rfl⟩
  | cons c cs ih =>
    simp only [runAll, wentThrough_cons] at hdel ⊢
    have hc : isThrough .delete key (c, (c.run t).1) = false := by
      cases h : isThrough .delete key (c, (c.run t).1)
      · rfl
      · simp [h] at hdel
    obtain ⟨hcreate, o₁, ho₁, hid₁, hver₁⟩ := run_keeps c ho hc
    obtain ⟨hcreate', o', ho', hid', hver'⟩ := ih ho₁ (by omega)
    refine ⟨by simp [hcreate, hcreate'], o', ho', hid'.trans hid₁, ?_⟩
    rw [hver', hver₁]
    omega

/-- The update with a raw form read at `key`, any spec written into it, after any history of
calls in which no delete of the key went through.  No create of the key went through either;
if no update of it did, the update goes through on a ready store and stores the spec at the
next version; if one did, the update fails and writes nothing, on a ready store with a version
conflict naming the version the key has moved on to. -/
theorem update_detects_intervening_writes {raw : StoredObject α} {s₀ s : Store α}
    (hraw : Store.Obtained key raw s₀ s) (spec : α) (calls : List (StoreCall α))
    (hdel : wentThrough (runAll calls s).1 .delete key = 0) :
    let hist := (runAll calls s).1
    let t := (runAll calls s).2
    let sent := { raw with spec := spec }
    wentThrough hist .create key = 0 ∧
      (wentThrough hist .update key = 0 → t.Ready →
        (Store.update key sent).runOn t = (.ok { sent with version := raw.version + 1 },
          { t.record .update key with
            objects := Store.putObject t.objects key { sent with version := raw.version + 1 } })) ∧
      (0 < wentThrough hist .update key →
        (∃ e t₁, (Store.update key sent).runOn t = (.error e, t₁) ∧ t₁.objects = t.objects) ∧
        (t.Ready → (Store.update key sent).runOn t = (.error (.versionConflict key raw.version
          ("current version is " ++ toString (raw.version + wentThrough hist .update key))),
            t.record .update key))) := by
  dsimp only
  obtain ⟨hcreate, o', ho', hid, hver⟩ := runAll_keeps calls hraw.stored hdel
  refine ⟨hcreate, fun hu hr => ?_, fun hu => ⟨?_, fun hr => ?_⟩⟩
  · -- nothing moved the version: the update writes the spec over the same id
    have hv : ({ raw with spec := spec } : StoredObject α).version = o'.version := by
      simp only
      omega
    have hnext : { o' with spec := spec, version := o'.version + 1 } =
        { raw with spec := spec, version := raw.version + 1 } := by
      cases o'
      cases raw
      simp_all
    rw [Store.update_runOn_ready hr ho' hv, hnext]
  · -- the version moved on, so no update carrying the raw form's version can go through
    rcases h : (Store.update key { raw with spec := spec }).runOn (runAll calls s).2 with
      ⟨_ | r, t₁⟩
    · exact ⟨_, t₁, rfl, Store.update_runOn_error_objects h⟩
    · obtain ⟨stored, hs, hsv, -, -⟩ := Store.update_runOn_ok h
      obtain rfl : stored = o' := Option.some.inj (hs.symm.trans ho')
      simp only at hsv
      omega
  · rw [Store.update_runOn_conflict hr ho' (by simp only; omega), hver]

/-- A raw form fetched, then an update of the key by someone else: writing a new spec with the
stale raw form is refused with a version conflict. -/
theorem stale_update_refused :
    let s₀ : Store Nat := ({} : Store Nat).seed "obj" 5
    let calls : List (StoreCall Nat) := [.update "obj" ⟨1, 0, 6⟩, .create "obj" 9]
    let t := (runAll calls (s₀.record .fetch "obj")).2
    Store.Obtained "obj" ⟨1, 0, 5⟩ s₀ (s₀.record .fetch "obj") ∧
      wentThrough (runAll calls (s₀.record .fetch "obj")).1 .delete "obj" = 0 ∧
      (Store.update "obj" ⟨1, 0, 7⟩).runOn t =
        (.error (.versionConflict "obj" 0 "current version is 1"), t.record .update "obj") := by
  intro s₀ calls t
  have hraw : Store.Obtained "obj" ⟨1, 0, 5⟩ s₀ (s₀.record .fetch "obj") := Or.inl rfl
  have hdel : wentThrough (runAll calls (s₀.record .fetch "obj")).1 .delete "obj" = 0 := by decide
  have hready : t.Ready := ⟨rfl, rfl⟩
  have h := ((update_detects_intervening_writes hraw 7 calls hdel).2.2 (by decide)).2 hready
  refine ⟨hraw, hdel, h.trans ?_⟩
  -- one update went through, so the conflict names version 1
  congr 3
  decide

end StoreCall

namespace Store

/-- A raw form read before its key was deleted and created again carries the version the new
object starts at: writing a new spec with it goes through, onto the new object. -/
theorem stale_update_after_recreate :
    let s₀ : Store Nat := ({} : Store Nat).seed "obj" 5
    let hist := StoreCall.runAll [.delete "obj" ⟨1, 0, 5⟩, .create "obj" 9] (s₀.record .fetch "obj")
    Obtained "obj" ⟨1, 0, 5⟩ s₀ (s₀.record .fetch "obj") ∧
      StoreCall.wentThrough hist.1 .delete "obj" = 1 ∧
      StoreCall.wentThrough hist.1 .create "obj" = 1 ∧
      ((update "obj" ⟨1, 0, 7⟩).runOn hist.2).1 = .ok ⟨2, 1, 7⟩ :=
  ⟨Or.inl rfl, rfl, rfl, rfl⟩

/-! ### Fresh ids -/

variable {α : Type} {s s₁ : Store α} {key : String}

/-- Every object the store holds has an id below the next one to give. -/
def IdsBelow (s : Store α) : Prop :=
  ∀ k o, s.get? k = some o → o.id < s.nextId

theorem idsBelow_empty : ({} : Store α).IdsBelow := fun _ _ h => by simp at h

theorem begin_runOn_nextId {op : StoreOp} {r : Except ApiError Unit}
    (hb : (begin op key).runOn s = (r, s₁)) : s₁.nextId = s.nextId := by
  rw [begin_runOn] at hb
  cases hc : s.context.check with
  | error e =>
    simp only [hc, Prod.mk.injEq] at hb
    rw [← hb.2]
  | ok u =>
    simp only [hc, Prod.mk.injEq] at hb
    rw [← hb.2, record_nextId]

/-- A call that begins as every store call does keeps the next id when what follows does. -/
theorem runOn_begin_nextId {β : Type} {op : StoreOp} {f : Unit → Call (Store α) β}
    {r : Except ApiError β}
    (hf : ∀ s₀ r₀ s₂, (f ()).runOn s₀ = (r₀, s₂) → s₂.nextId = s₀.nextId)
    (h : (begin op key >>= f).runOn s = (r, s₁)) : s₁.nextId = s.nextId := by
  rcases hb : (begin op key).runOn s with ⟨_ | _, s₀⟩
  · rw [Call.runOn_bind_error hb, Prod.mk.injEq] at h
    rw [← h.2, begin_runOn_nextId hb]
  · rw [Call.runOn_bind_ok hb] at h
    rw [hf _ _ _ h, begin_runOn_nextId hb]

/-- Only a create that goes through gives an id: every other call keeps the next one. -/
theorem fetch_runOn_nextId {r : Except ApiError (StoredObject α)}
    (hf : (fetch key).runOn s = (r, s₁)) : s₁.nextId = s.nextId := by
  refine runOn_begin_nextId (fun s₀ r₀ s₂ h => ?_) hf
  simp only [Call.runOn_bind, Call.runOn_get] at h
  split at h <;> simp only [Call.runOn_pure, Call.runOn_throw, Prod.mk.injEq] at h <;> rw [← h.2]

theorem update_runOn_nextId {raw : StoredObject α} {r : Except ApiError (StoredObject α)}
    (hu : (update key raw).runOn s = (r, s₁)) : s₁.nextId = s.nextId := by
  refine runOn_begin_nextId (fun s₀ r₀ s₂ h => ?_) hu
  simp only [Call.runOn_bind, Call.runOn_get] at h
  -- a missing key and a stale version throw; a write replaces only the objects
  split at h
  · simp only [Call.runOn_throw, Prod.mk.injEq] at h
    rw [← h.2]
  · split at h
    · simp only [Call.runOn_bind, Call.runOn_throw, Prod.mk.injEq] at h
      rw [← h.2]
    · simp only [Call.runOn_bind, Call.runOn_set, Call.runOn_pure, Prod.mk.injEq] at h
      rw [← h.2]

theorem delete_runOn_nextId {raw : StoredObject α} {r : Except ApiError Unit}
    (hd : (delete key raw).runOn s = (r, s₁)) : s₁.nextId = s.nextId := by
  refine runOn_begin_nextId (fun s₀ r₀ s₂ h => ?_) hd
  simp only [Call.runOn_bind, Call.runOn_get] at h
  split at h
  · simp only [Call.runOn_bind, Call.runOn_throw, Prod.mk.injEq] at h
    rw [← h.2]
  · simp only [Call.runOn_set, Prod.mk.injEq] at h
    rw [← h.2]

/-- A create that went through gave its object the next id, and moved the next id on. -/
theorem create_runOn_ok_id {spec : α} {o : StoredObject α}
    (hc : (create key spec).runOn s = (.ok o, s₁)) : o.id = s.nextId ∧ s₁.nextId = s.nextId + 1 := by
  have hc' := runOn_ok_of_begin hc
  simp only [Call.runOn_bind, Call.runOn_get] at hc'
  split at hc'
  · simp at hc'
  · simp only [Call.runOn_bind, Call.runOn_set, Call.runOn_pure, Prod.mk.injEq,
      Except.ok.injEq] at hc'
    obtain ⟨rfl, rfl⟩ := hc'
    exact ⟨rfl, rfl⟩

theorem create_runOn_error_nextId {spec : α} {e : ApiError}
    (hc : (create key spec).runOn s = (.error e, s₁)) : s₁.nextId = s.nextId := by
  rcases hb : (begin .create key).runOn s with ⟨_ | _, s₀⟩
  · rw [create, Call.runOn_bind_error hb, Prod.mk.injEq] at hc
    rw [← hc.2, begin_runOn_nextId hb]
  · rw [create, Call.runOn_bind_ok hb] at hc
    simp only [Call.runOn_bind, Call.runOn_get] at hc
    -- only a taken key fails once the call has begun
    split at hc
    · simp only [Call.runOn_bind, Call.runOn_throw, Prod.mk.injEq] at hc
      rw [← hc.2, begin_runOn_nextId hb]
    · simp only [Call.runOn_bind, Call.runOn_set, Call.runOn_pure, Prod.mk.injEq, reduceCtorEq,
        false_and] at hc

/-- A call that keeps the next id and holds, at every key, nothing or what it held before, keeps
every id below the next one. -/
theorem IdsBelow.of_shrink (h : s.IdsBelow) (hn : s₁.nextId = s.nextId)
    (hk : ∀ k o, s₁.get? k = some o → s.get? k = some o ∨ ∃ o', s.get? k = some o' ∧ o.id = o'.id) :
    s₁.IdsBelow := by
  intro k o ho
  rw [hn]
  rcases hk k o ho with hs | ⟨o', hs, hid⟩
  · exact h k o hs
  · exact hid ▸ h k o' hs

/-- A call that keeps the objects and the next id keeps every id below the next one. -/
theorem IdsBelow.of_objects_eq (h : s.IdsBelow) (hn : s₁.nextId = s.nextId)
    (ho : s₁.objects = s.objects) : s₁.IdsBelow :=
  h.of_shrink hn fun k o hk => .inl (by rwa [StoreCall.get?_of_objects_eq ho] at hk)

/-- A create that went through gives an id above every id the store held, and keeps every id
below the next one. -/
theorem IdsBelow.create {spec : α} {o : StoredObject α} (h : s.IdsBelow)
    (hc : (create key spec).runOn s = (.ok o, s₁)) :
    (∀ k o', s.get? k = some o' → o'.id < o.id) ∧ s₁.IdsBelow := by
  obtain ⟨hid, hnext⟩ := create_runOn_ok_id hc
  obtain ⟨-, hobj⟩ := create_runOn_ok hc
  refine ⟨fun k o' ho' => hid ▸ h k o' ho', fun k o' ho' => ?_⟩
  rw [get?_eq_lookup, hobj, lookup_putObject] at ho'
  rw [hnext]
  split at ho'
  · cases ho'
    omega
  · have := h k o' ho'
    omega

end Store

namespace StoreCall

variable {α : Type}

/-- Every call keeps the ids of the store below the next one. -/
theorem run_idsBelow (c : StoreCall α) {t : Store α} (h : t.IdsBelow) : (c.run t).2.IdsBelow := by
  cases c with
  | fetch k =>
    rcases hf : (Store.fetch k).runOn t with ⟨r, t'⟩
    have hkeep : t'.IdsBelow :=
      h.of_objects_eq (Store.fetch_runOn_nextId hf) (Store.fetch_runOn_objects hf)
    simpa [run, hf] using hkeep
  | create k spec =>
    rcases hc : (Store.create k spec).runOn t with ⟨e | o, t'⟩
    · have hkeep : t'.IdsBelow :=
        h.of_objects_eq (Store.create_runOn_error_nextId hc) (Store.create_runOn_error_objects hc)
      simpa [run, hc] using hkeep
    · simpa [run, hc] using (h.create hc).2
  | update k raw =>
    rcases hu : (Store.update k raw).runOn t with ⟨e | o, t'⟩
    · have hkeep : t'.IdsBelow :=
        h.of_objects_eq (Store.update_runOn_nextId hu) (Store.update_runOn_error_objects hu)
      simpa [run, hu] using hkeep
    · -- the update keeps the id of the object it writes over
      obtain ⟨stored, hstored, -, rfl, hobj⟩ := Store.update_runOn_ok hu
      have hkeep : t'.IdsBelow := h.of_shrink (Store.update_runOn_nextId hu) fun k' o ho => by
        rw [Store.get?_eq_lookup, hobj, Store.lookup_putObject] at ho
        split at ho
        · rename_i hk
          cases ho
          exact .inr ⟨stored, hk ▸ hstored, rfl⟩
        · exact .inl ho
      simpa [run, hu] using hkeep
  | delete k raw =>
    rcases hd : (Store.delete k raw).runOn t with ⟨e | u, t'⟩
    · have hkeep : t'.IdsBelow :=
        h.of_objects_eq (Store.delete_runOn_nextId hd) (Store.delete_runOn_error_objects hd)
      simpa [run, hd] using hkeep
    · have hkeep : t'.IdsBelow := h.of_shrink (Store.delete_runOn_nextId hd) fun k' o ho => by
        rw [Store.get?_eq_lookup, Store.delete_runOn_ok hd, Store.lookup_eraseObject] at ho
        split at ho
        · cases ho
        · exact .inl ho
      simpa [run, hd] using hkeep

/-- Over any history of calls, every id the store holds stays below the next one. -/
theorem runAll_idsBelow (calls : List (StoreCall α)) {t : Store α} (h : t.IdsBelow) :
    (runAll calls t).2.IdsBelow := by
  induction calls generalizing t with
  | nil => exact h
  | cons c cs ih => exact ih (run_idsBelow c h)

end StoreCall

namespace Store

variable {α : Type} [DecidableEq α] [Spec α] {s s₁ : Store α}

/-- Deleting a key and creating it again, as the recreate strategy updates, gives the new
object an id above every id the store held before: never the id of the object it replaced. -/
theorem recreate_fresh_id (strategy : Strategy) {key : String} {raw o : StoredObject α}
    (h : s.IdsBelow) (hr : (Handle.recreate (storeKind strategy) key raw).runOn s = (.ok o, s₁)) :
    (∀ k o', s.get? k = some o' → o'.id < o.id) ∧ s₁.IdsBelow := by
  have hv : (storeKind strategy).validate ((storeKind strategy).specOf raw) = .ok raw.spec := rfl
  rcases hd : (delete key raw).runOn s with ⟨e | u, s₀⟩
  · rw [Handle.recreate_runOn_delete_error (storeKind strategy) hv hd] at hr
    cases hr
  · cases u
    -- the delete keeps the next id, and every id the store held is below it
    have h₀ : s₀.IdsBelow := by
      simpa [StoreCall.run, hd] using StoreCall.run_idsBelow (.delete key raw) h
    have hnext : s₀.nextId = s.nextId := delete_runOn_nextId hd
    rcases hc : (create key raw.spec).runOn s₀ with ⟨e | o', s₂⟩
    · rw [Handle.recreate_runOn_create_error (storeKind strategy) hv hd hc] at hr
      cases hr
    · rw [Handle.recreate_runOn_ok (storeKind strategy) hv hd hc] at hr
      obtain ⟨rfl, rfl⟩ := Prod.mk.inj hr |>.imp Except.ok.inj id
      obtain ⟨hid, -⟩ := create_runOn_ok_id hc
      refine ⟨fun k o'' ho'' => ?_, (h₀.create hc).2⟩
      have := h k o'' ho''
      omega

end Store

end Resource

end ForgeSync
