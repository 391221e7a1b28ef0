import ForgeSync.Page.Replay

/-!
# Walking the pages of a listing

`walkPages` is a loop with five exits: the caller's context is done, the page budget is used
up, the fetch fails, the page is the last, or a page that is not the last names no next start.
Without an item budget, each of them is one equation below (`walkPages_stopped`,
`walkPages_budget`, `walkPages_fetch_error`, `walkPages_last`, `walkPages_missing_next`), and
`walkPages_next` is the one way the loop goes on: to the start the page names, whatever its
size.  These hold for any fetch and any world.

Over a replayed listing, the pages come back in the order they were recorded and every cursor
asked for is kept.  A run of pages that each go on (`Page.GoesOn`) is then walked as a whole
(`walk_chain`): each cursor starts where the page before it said the next one starts.

Main statement: `walk_follows_chain` gives, for every recorded listing and every cursor and
page budget, what the walk answers at the first page that stops it, how many pages it asked
for, and the start of each.
-/

namespace ForgeSync

/-! ### One turn of the loop -/

section Step

variable {σ α : Type} (check : σ → Except ApiError Unit)
  (fetch : Cursor → StateM σ (Except ApiError (Page α))) (opts : PageOptions)
  {fuel pages : Nat} {items : List α} {cur : Cursor} {s s₁ : σ}

/-- A done context stops the walk before it asks for another page. -/
theorem walkPages_stopped {e : ApiError} (hc : check s = .error e) :
    (walkPages check fetch opts (fuel + 1) pages items cur).run s = ((.error e, cur), s) := by
  simp only [walkPages, StateT.run_bind, StateT.run_get, pure_bind, hc]
  rfl

/-- A used-up page budget stops the walk before it asks for another page. -/
theorem walkPages_budget (hc : check s = .ok ()) (hb : opts.maxPages.any (· ≤ pages) = true) :
    (walkPages check fetch opts (fuel + 1) pages items cur).run s =
      ((.error (.tooManyPages pages), cur), s) := by
  simp only [walkPages, StateT.run_bind, StateT.run_get, pure_bind, hc, hb, if_true]
  rfl

/-- A failed fetch ends the walk with its error, the cursor as it was asked. -/
theorem walkPages_fetch_error {e : ApiError} (hc : check s = .ok ())
    (hb : opts.maxPages.any (· ≤ pages) = false) (hf : (fetch cur).run s = (.error e, s₁)) :
    (walkPages check fetch opts (fuel + 1) pages items cur).run s = ((.error e, cur), s₁) := by
  simp only [walkPages, hb, Bool.false_eq_true, if_false, StateT.run_bind, StateT.run_get,
    pure_bind, hc, hf]
  rfl

section Unbudgeted

variable {p : Page α} (hc : check s = .ok ()) (hb : opts.maxPages.any (· ≤ pages) = false)
  (hm : opts.maxItems = none) (hf : (fetch cur).run s = (.ok p, s₁))
include hc hb hm hf

/-- The last page ends the walk with every item gathered, the cursor holding what the page
reported. -/
theorem walkPages_last (hl : p.isLastPage = true) :
    (walkPages check fetch opts (fuel + 1) pages items cur).run s =
      ((.ok (items ++ p.values), cur.advance p), s₁) := by
  simp only [walkPages, hb, Bool.false_eq_true, if_false, hm, StateT.run_bind, StateT.run_get,
    pure_bind, hc, hf]
  dsimp only [bind, Id.run]
  simp [Cursor.advance, hl]
  rfl

/-- A page that is not the last and names no next start ends the walk as invalid data. -/
theorem walkPages_missing_next (hl : p.isLastPage = false) (hn : p.nextPageStart = none) :
    (walkPages check fetch opts (fuel + 1) pages items cur).run s =
      ((.error missingNextStart, cur.advance p), s₁) := by
  simp only [walkPages, hb, Bool.false_eq_true, if_false, hm, StateT.run_bind, StateT.run_get,
    pure_bind, hc, hf]
  dsimp only [bind, Id.run]
  simp [Cursor.advance, hl, hn]
  rfl

/-- A page that goes on sends the walk to the start it names, never to its start plus its
size. -/
theorem walkPages_next {n : Nat} (hl : p.isLastPage = false) (hn : p.nextPageStart = some n) :
    (walkPages check fetch opts (fuel + 1) pages items cur).run s =
      (walkPages check fetch opts fuel (pages + 1) (items ++ p.values)
        { cur.advance p with start := n }).run s₁ := by
  simp only [walkPages, hb, Bool.false_eq_true, if_false, hm, StateT.run_bind, StateT.run_get,
    pure_bind, hc, hf]
  dsimp only [bind, Id.run]
  simp [Cursor.advance, hl, hn]

end Unbudgeted

end Step

/-! ### Replayed listings -/

/-- A page the walk goes on from: it is not the last and names where the next one starts. -/
def Page.GoesOn {α : Type} (p : Page α) : Prop := p.isLastPage = false ∧ p.nextPageStart.isSome

namespace PageReplay

variable {α : Type}

/-- A replay that never cancels answers a fetch with its next recorded answer and keeps the
cursor. -/
theorem fetch_run_cons {r : PageReplay α} (hca : r.cancelAfter = none)
    {a : Except ApiError (Page α)} {rest : List (Except ApiError (Page α))}
    (hr : r.pages = a :: rest) (c : Cursor) :
    (fetch c).run r = (a, { r with pages := rest, fetched := r.fetched ++ [c] }) := by
  simp [fetch, hr, hca]
  rfl

/-- The walk asked, after what the replay had kept before, for cursors with these starts, in
order. -/
def Asked (r r' : PageReplay α) (starts : List Nat) : Prop :=
  ∃ cs : List Cursor, r'.fetched = r.fetched ++ cs ∧ cs.map Cursor.start = starts

variable {opts : PageOptions}

/-- Over a run of pages that each go on, the walk takes every page in turn: it asks first at
its cursor's start and then at each start the page before named, gathers their items in
order, and goes on past them with the replay's later answers. -/
theorem walk_chain (hm : opts.maxItems = none) (qs : List (Page α)) (hq : ∀ q ∈ qs, q.GoesOn)
    (rest : List (Except ApiError (Page α))) (fuel pages : Nat)
    (hb : opts.maxPages.all (pages + qs.length ≤ ·)) (items : List α) (cur : Cursor)
    (r : PageReplay α) (hca : r.cancelAfter = none) (hlive : r.context.check = .ok ())
    (hr : r.pages = qs.map .ok ++ rest) :
    ∃ cs cur', cs.map Cursor.start ++ [cur'.start] =
        cur.start :: qs.map (·.nextPageStart.getD 0) ∧
      (walkPages (fun s => s.context.check) fetch opts (fuel + qs.length) pages items cur).run r =
        (walkPages (fun s => s.context.check) fetch opts fuel (pages + qs.length)
          (items ++ qs.flatMap Page.values) cur').run
          { r with pages := rest, fetched := r.fetched ++ cs } := by
  -- induction on the run of pages; each page is one turn of the loop, from the replay it left
  induction qs generalizing pages items cur r with
  | nil =>
    refine ⟨[], cur, rfl, ?_⟩
    rw [List.map_nil, List.nil_append] at hr
    cases r
    simp_all
  | cons q qs ih =>
    obtain ⟨hl, hn⟩ := hq q List.mem_cons_self
    obtain ⟨n, hn⟩ := Option.isSome_iff_exists.mp hn
    have hf := fetch_run_cons hca (by simp [hr] : r.pages = .ok q :: (qs.map .ok ++ rest)) cur
    have hb₀ : opts.maxPages.any (· ≤ pages) = false := by
      cases hmax : opts.maxPages <;> simp_all; omega
    obtain ⟨cs, cur', hstarts, hrun⟩ := ih (fun q hq' => hq q (List.mem_cons_of_mem _ hq'))
      (pages + 1) (by cases hmax : opts.maxPages <;> simp_all; omega) (items ++ q.values)
      { cur.advance q with start := n }
      { r with pages := qs.map .ok ++ rest, fetched := r.fetched ++ [cur] } hca hlive rfl
    refine ⟨cur :: cs, cur', ?_, ?_⟩
    · simp [← hstarts, hn]
    · rw [List.length_cons, ← Nat.add_assoc,
        walkPages_next (fun s => s.context.check) fetch opts hlive hb₀ hm hf hl hn, hrun]
      simp [Nat.add_assoc, Nat.add_comm 1, List.append_assoc]

variable (opts)

/-- What a walk with no item budget does over a replay whose recording starts with the pages
`qs`, each of which goes on, and then holds `rest`.  It asks first at the cursor's start and
then at each start the page before named.  A page budget of exactly `qs.length` pages stops it
after those pages with `tooManyPages`.  A larger budget, or none, lets it ask once more, and
the answer after the run decides: the last page gives every item of the run and of that page
in order, the cursor holding that page's size, flag and next start; a page that goes on
without naming a next start is invalid data; a failed fetch gives its error as it is.  In
each case nothing is asked for after that page. -/
def FollowsChain (cursor : Cursor) (r : PageReplay α) (qs : List (Page α))
    (rest : List (Except ApiError (Page α))) : Prop :=
  let starts := cursor.start :: qs.map (·.nextPageStart.getD 0)
  let w := r.walk opts cursor
  (opts.maxPages = some qs.length →
    w.1.1 = .error (.tooManyPages qs.length) ∧ Asked r w.2 (starts.take qs.length)) ∧
  (opts.maxPages.all (qs.length < ·) →
    (∀ p rest', rest = .ok p :: rest' → p.isLastPage = true →
      w.1.1 = .ok ((qs ++ [p]).flatMap Page.values) ∧ w.1.2.size = p.size ∧
        w.1.2.isLastPage = true ∧ w.1.2.nextPageStart = p.nextPageStart ∧
        Asked r w.2 starts) ∧
    (∀ p rest', rest = .ok p :: rest' → p.isLastPage = false → p.nextPageStart = none →
      w.1.1 = .error missingNextStart ∧ Asked r w.2 starts) ∧
    (∀ e rest', rest = .error e :: rest' → w.1.1 = .error e ∧ Asked r w.2 starts))

/-- Walking a replayed listing with no item budget follows the chain of next starts exactly,
from any cursor and under any page budget, while the caller's context stays live. -/
theorem walk_follows_chain (hm : opts.maxItems = none) (cursor : Cursor) (r : PageReplay α)
    (hca : r.cancelAfter = none) (hlive : r.context.check = .ok ())
    (qs : List (Page α)) (hq : ∀ q ∈ qs, q.GoesOn) (rest : List (Except ApiError (Page α)))
    (hr : r.pages = qs.map .ok ++ rest) :
    FollowsChain opts cursor r qs rest := by
  unfold FollowsChain
  intro starts w
  -- with no item budget the walk starts at the cursor, with the options' page size
  have hwalk : w = (walkPages (fun s => s.context.check) fetch opts ((rest.length + 1) + qs.length)
      0 [] (opts.withLimit cursor)).run r := by
    have hfuel : r.pages.length + 1 = rest.length + 1 + qs.length := by simp [hr]; omega
    simp only [w, walk, allPages, hm, hfuel]
  have hstart : (opts.withLimit cursor).start = cursor.start := by
    unfold PageOptions.withLimit
    split <;> rfl
  -- the budget allows every page of the run in both cases, and one more in the second
  have hchain (hb : opts.maxPages.all (qs.length ≤ ·)) := walk_chain hm qs hq rest
    (rest.length + 1) 0 (by simpa using hb) [] (opts.withLimit cursor) r hca hlive hr
  refine ⟨fun hmax => ?_, fun hmax => ?_⟩
  · obtain ⟨cs, cur', hstarts, hrun⟩ := hchain (by simp [hmax])
    have hlen : cs.length = qs.length := by
      simpa using congrArg List.length hstarts
    have hlive₁ : (fun s : PageReplay α => s.context.check)
        { r with pages := rest, fetched := r.fetched ++ cs } = .ok () := hlive
    rw [hwalk, hrun, Nat.zero_add,
      walkPages_budget (fun s => s.context.check) fetch opts hlive₁ (by simp [hmax])]
    refine ⟨rfl, cs, rfl, ?_⟩
    simp only [starts, ← hstarts, ← hstart, ← hlen]
    simp
  · obtain ⟨cs, cur', hstarts, hrun⟩ := hchain (by cases h : opts.maxPages <;> simp_all; omega)
    rw [hstart] at hstarts
    have hb : opts.maxPages.any (· ≤ qs.length) = false := by
      cases h : opts.maxPages <;> simp_all
    -- the replay after the run, and the one fetch it answers next
    have hnext (a : Except ApiError (Page α)) (rest' : List (Except ApiError (Page α)))
        (hrest : rest = a :: rest') :=
      fetch_run_cons (r := { r with pages := rest, fetched := r.fetched ++ cs }) hca hrest cur'
    have hasked (rest' : List (Except ApiError (Page α))) : Asked r
        { r with pages := rest', fetched := r.fetched ++ cs ++ [cur'] } starts :=
      ⟨cs ++ [cur'], by simp, by simpa using hstarts⟩
    refine ⟨fun p rest' hrest hl => ?_, fun p rest' hrest hl hn => ?_, fun e rest' hrest => ?_⟩
    · rw [hwalk, hrun, Nat.zero_add, walkPages_last (fun s => s.context.check) fetch opts
        hlive hb hm (hnext (.ok p) rest' hrest) hl]
      exact ⟨by simp, rfl, hl, rfl, hasked rest'⟩
    · rw [hwalk, hrun, Nat.zero_add, walkPages_missing_next (fun s => s.context.check) fetch opts
        hlive hb hm (hnext (.ok p) rest' hrest) hl hn]
      exact ⟨rfl, hasked rest'⟩
    · rw [hwalk, hrun, Nat.zero_add, walkPages_fetch_error (fun s => s.context.check) fetch opts
        hlive hb (hnext (.error e) rest' hrest)]
      exact ⟨rfl, hasked rest'⟩

/-- Two chained pages, the first naming start 40 for the second: the walk asks at 0 and then
at 40, and answers the three items. -/
theorem walk_follows_chain_two_pages :
    let p₁ : Page Nat := Page.chained [1, 2] 0 (some 40)
    let p₂ : Page Nat := Page.chained [3] 40 none
    let r : PageReplay Nat := { pages := [.ok p₁, .ok p₂] }
    ({} : PageOptions).maxItems = none ∧ r.cancelAfter = none ∧ r.context.check = .ok () ∧
      (∀ q ∈ [p₁], q.GoesOn) ∧ r.pages = [p₁].map .ok ++ [.ok p₂] ∧
      FollowsChain {} {} r [p₁] [.ok p₂] :=
  have hq : ∀ q ∈ [Page.chained [1, 2] 0 (some 40)], q.GoesOn := by
    simp [Page.GoesOn, Page.chained]
  ⟨rfl, rfl, rfl, hq, rfl, walk_follows_chain {} rfl {} _ rfl rfl _ hq _ rfl⟩

end PageReplay

end ForgeSync
