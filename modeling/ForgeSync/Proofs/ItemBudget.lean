import ForgeSync.Proofs.Paging

/-!
# Walking a listing with an item budget

A caller who wants at most `m` items gives the walk an item budget.  A budget of zero fetches
nothing.  Any other caps the page size of the first cursor at `m`, and ends the walk at the
first page at which the items gathered reach the budget, with the first `m` of them.

The cap is not kept: after each page the cursor takes the page size the page reported, when it
reported one, as Bitbucket Server's envelopes do.  So every cursor asks for at most `m` items
or for a size a page answered before it reported, and a page that reports more than the
budget makes the walk ask for pages that large from then on.

Main statements:

* `walk_item_budget`: a budget of zero answers nothing and asks for nothing; over a listing
  whose pages each name the next up to the first one that is the last or whose items reach
  `m`, a walk within its page budget answers the first `m` items of the listing and asks for
  exactly the pages up to the first at which the items reach `m`.  The page that reaches the
  budget ends the walk before its flag or its next start is looked at, so from it on the
  pages may be anything, one that names no next page or a failure included.
* `walk_page_sizes`: every cursor a walk with an item budget asks with has a page size, which is
  at most the budget or one a page answered before it reported.
* `reported_limit_lifts_cap`: with a budget of five, a page that reports a size of 25 makes the
  next cursor ask for 25.
-/

namespace ForgeSync

/-! ### One turn of the loop under an item budget -/

section Step

variable {σ α : Type} (check : σ → Except ApiError Unit)
  (fetch : Cursor → StateM σ (Except ApiError (Page α))) (opts : PageOptions)
  {fuel pages m : Nat} {items : List α} {cur : Cursor} {s s₁ : σ} {p : Page α}

theorem walkPages_zero : (walkPages check fetch opts 0 pages items cur).run s =
    ((.error (.tooManyPages pages), cur), s) := rfl

section Budgeted

variable (hc : check s = .ok ()) (hb : opts.maxPages.any (· ≤ pages) = false)
  (hm : opts.maxItems = some m) (hf : (fetch cur).run s = (.ok p, s₁))
include hc hb hm hf

/-- After a page that was answered, a walk with an item budget compares the items gathered
with the budget before it looks at whether the page goes on. -/
theorem walkPages_budgeted_page :
    (walkPages check fetch opts (fuel + 1) pages items cur).run s =
      (if m ≤ (items ++ p.values).length then
        pure (.ok ((items ++ p.values).take m), cur.advance p)
      else if (cur.advance p).isLastPage then pure (.ok (items ++ p.values), cur.advance p)
      else
        match (cur.advance p).nextPageStart with
        | none => pure (.error missingNextStart, cur.advance p)
        | some n => walkPages check fetch opts fuel (pages + 1) (items ++ p.values)
            { cur.advance p with start := n } : StateM σ _).run s₁ := by
  simp only [walkPages, hb, Bool.false_eq_true, if_false, hm, StateT.run_bind, StateT.run_get,
    pure_bind, hc, hf]
  rfl

/-- The page at which the items reach the budget ends the walk with the first `m` items. -/
theorem walkPages_reaches_budget (hr : m ≤ (items ++ p.values).length) :
    (walkPages check fetch opts (fuel + 1) pages items cur).run s =
      ((.ok ((items ++ p.values).take m), cur.advance p), s₁) := by
  rw [walkPages_budgeted_page check fetch opts hc hb hm hf, if_pos hr]
  rfl

/-- Below the budget, the last page ends the walk with every item gathered. -/
theorem walkPages_below_budget_last (hr : (items ++ p.values).length < m)
    (hl : p.isLastPage = true) :
    (walkPages check fetch opts (fuel + 1) pages items cur).run s =
      ((.ok (items ++ p.values), cur.advance p), s₁) := by
  have hl' : (cur.advance p).isLastPage = true := hl
  rw [walkPages_budgeted_page check fetch opts hc hb hm hf, if_neg (Nat.not_le.mpr hr), if_pos hl']
  rfl

/-- Below the budget, a page that is not the last and names no next start ends the walk as
invalid data. -/
theorem walkPages_below_budget_missing_next (hr : (items ++ p.values).length < m)
    (hl : p.isLastPage = false) (hn : p.nextPageStart = none) :
    (walkPages check fetch opts (fuel + 1) pages items cur).run s =
      ((.error missingNextStart, cur.advance p), s₁) := by
  have hl' : (cur.advance p).isLastPage = false := hl
  have hn' : (cur.advance p).nextPageStart = none := hn
  rw [walkPages_budgeted_page check fetch opts hc hb hm hf, if_neg (Nat.not_le.mpr hr), hl', hn']
  rfl

/-- Below the budget, a page that goes on sends the walk to the start it names. -/
theorem walkPages_below_budget_next {n : Nat} (hr : (items ++ p.values).length < m)
    (hl : p.isLastPage = false) (hn : p.nextPageStart = some n) :
    (walkPages check fetch opts (fuel + 1) pages items cur).run s =
      (walkPages check fetch opts fuel (pages + 1) (items ++ p.values)
        { cur.advance p with start := n }).run s₁ := by
  have hl' : (cur.advance p).isLastPage = false := hl
  have hn' : (cur.advance p).nextPageStart = some n := hn
  rw [walkPages_budgeted_page check fetch opts hc hb hm hf, if_neg (Nat.not_le.mpr hr), hl', hn']
  rfl

end Budgeted

/-- What one turn of the loop can do, with or without an item budget: end the walk before it
fetches, end it in the world the fetch left, or go on from that world at the start named by
the page the fetch answered. -/
theorem walkPages_turn (fuel pages : Nat) (items : List α) (cur : Cursor) (s : σ) :
    let w := (walkPages check fetch opts (fuel + 1) pages items cur).run s
    let f := (fetch cur).run s
    w.2 = s ∨ w.2 = f.2 ∨ ∃ p n items', f.1 = .ok p ∧
      w = (walkPages check fetch opts fuel (pages + 1) items' { cur.advance p with start := n }).run
        f.2 := by
  intro w f
  cases hc : check s with
  | error e => exact .inl (by simp only [w, walkPages_stopped check fetch opts hc])
  | ok u =>
  cases u
  cases hb : opts.maxPages.any (· ≤ pages) with
  | true => exact .inl (by simp only [w, walkPages_budget check fetch opts hc hb])
  | false =>
  rcases hf : (fetch cur).run s with ⟨_ | p, s₁⟩
  · exact .inr (.inl (by simp only [w, f, walkPages_fetch_error check fetch opts hc hb hf, hf]))
  -- the fetch answered a page: the walk ends unless the page goes on below the item budget
  have hnext {n : Nat} {items' : List α}
      (h : w = (walkPages check fetch opts fuel (pages + 1) items'
        { cur.advance p with start := n }).run s₁) :
      ∃ p n items', f.1 = .ok p ∧ w = (walkPages check fetch opts fuel (pages + 1) items'
        { cur.advance p with start := n }).run f.2 :=
    ⟨p, n, items', by simp only [f, hf], by simp only [f, hf, h]⟩
  cases hm : opts.maxItems with
  | none =>
    cases hl : p.isLastPage
    · cases hn : p.nextPageStart with
      | none =>
        exact .inr (.inl (by
          simp only [w, f, walkPages_missing_next check fetch opts hc hb hm hf hl hn, hf]))
      | some n => exact .inr (.inr (hnext (walkPages_next check fetch opts hc hb hm hf hl hn)))
    · exact .inr (.inl (by simp only [w, f, walkPages_last check fetch opts hc hb hm hf hl, hf]))
  | some m =>
    by_cases hr : m ≤ (items ++ p.values).length
    · exact .inr (.inl (by
        simp only [w, f, walkPages_reaches_budget check fetch opts hc hb hm hf hr, hf]))
    have hr' := Nat.lt_of_not_le hr
    cases hl : p.isLastPage
    · cases hn : p.nextPageStart with
      | none =>
        exact .inr (.inl (by simp only [w, f,
          walkPages_below_budget_missing_next check fetch opts hc hb hm hf hr' hl hn, hf]))
      | some n =>
        exact .inr (.inr (hnext
          (walkPages_below_budget_next check fetch opts hc hb hm hf hr' hl hn)))
    · exact .inr (.inl (by
        simp only [w, f, walkPages_below_budget_last check fetch opts hc hb hm hf hr' hl, hf]))

end Step

/-! ### The pages a budget asks for -/

/-- How many of the pages `ps` a walk asks for while it still wants `b` items: up to and
including the first page at which the items reach `b`, or all of them. -/
def Page.budgetPages {α : Type} (b : Nat) : List (Page α) → Nat
  | [] => 0
  | p :: ps => if b ≤ p.values.length then 1 else budgetPages (b - p.values.length) ps + 1

namespace Page

variable {α : Type}

/-- A page whose items reach the budget is the last one asked for. -/
theorem budgetPages_cons_of_le {b : Nat} {p : Page α} (h : b ≤ p.values.length)
    (ps : List (Page α)) : budgetPages b (p :: ps) = 1 := by
  rw [budgetPages, if_pos h]

/-- A page below the budget is asked for, and the rest of the budget goes on to the next. -/
theorem budgetPages_cons_of_lt {b : Nat} {p : Page α} (h : p.values.length < b)
    (ps : List (Page α)) : budgetPages b (p :: ps) = budgetPages (b - p.values.length) ps + 1 := by
  rw [budgetPages, if_neg (Nat.not_le_of_lt h)]

/-- The pages a budget asks for are the shortest run of pages whose items reach it, or all
the pages when their items never do. -/
theorem budgetPages_spec (b : Nat) (hb : 0 < b) (ps : List (Page α)) :
    budgetPages b ps ≤ ps.length ∧
      (∀ i < budgetPages b ps, ((ps.take i).flatMap Page.values).length < b) ∧
      (budgetPages b ps = ps.length ∨
        b ≤ ((ps.take (budgetPages b ps)).flatMap Page.values).length) := by
  induction ps generalizing b with
  | nil => simp [budgetPages]
  | cons p ps ih =>
    by_cases hp : b ≤ p.values.length
    · -- the first page reaches the budget
      rw [budgetPages_cons_of_le hp]
      refine ⟨by simp, fun i hi => ?_, .inr (by simpa using hp)⟩
      rw [Nat.lt_one_iff.mp hi]
      simpa using hb
    · have hrest : 0 < b - p.values.length := by omega
      obtain ⟨hle, hbelow, hreach⟩ := ih (b - p.values.length) hrest
      rw [budgetPages_cons_of_lt (Nat.lt_of_not_le hp)]
      refine ⟨by simpa using hle, fun i hi => ?_, ?_⟩
      · -- before the page that reaches it, each run of pages is the first page and fewer
        cases i with
        | zero => simpa using hb
        | succ i =>
          have := hbelow i (by omega)
          simp only [List.take_succ_cons, List.flatMap_cons, List.length_append]
          omega
      · rcases hreach with heq | hge
        · exact .inl (by simp [heq])
        · refine .inr ?_
          simp only [List.take_succ_cons, List.flatMap_cons, List.length_append]
          omega

theorem budgetPages_cons_pos (b : Nat) (p : Page α) (ps : List (Page α)) :
    0 < budgetPages b (p :: ps) := by
  unfold budgetPages
  split <;> omega

end Page

/-! ### Page sizes asked for -/

section Sizes

variable {α : Type}

/-- A cursor asks with a page size, at most `m` or one that a page among `answered` reported. -/
def Cursor.SizeWithin (m : Nat) (answered : List (Except ApiError (Page α))) (c : Cursor) : Prop :=
  ∃ l, c.limit = some l ∧ (l ≤ m ∨ ∃ p, .ok p ∈ answered ∧ p.limit = some l)

/-- Each cursor of `asked`, the `i`-th asked after the first `i` answers, asks with a page size
at most `m` or one that one of those answers reported. -/
def SizesWithin (m : Nat) (answers : List (Except ApiError (Page α))) (asked : List Cursor) :
    Prop :=
  ∀ i (c : Cursor), asked[i]? = some c → c.SizeWithin m (answers.take i)

variable {m : Nat} {xs ys : List (Except ApiError (Page α))} {c : Cursor}

theorem Cursor.SizeWithin.of_prefix (h : c.SizeWithin m xs) (hxy : xs <+: ys) :
    c.SizeWithin m ys := by
  obtain ⟨l, hl, hle | ⟨p, hp, hpl⟩⟩ := h
  · exact ⟨l, hl, .inl hle⟩
  · exact ⟨l, hl, .inr ⟨p, hxy.subset hp, hpl⟩⟩

/-- After a page that was answered, the cursor asks with the size the page reported, or with
the one it had. -/
theorem Cursor.SizeWithin.advance {p : Page α} (h : c.SizeWithin m xs) (hp : .ok p ∈ xs) :
    (c.advance p).SizeWithin m xs := by
  cases hpl : p.limit with
  | none => simpa [Cursor.SizeWithin, Cursor.advance, hpl] using h
  | some l => exact ⟨l, by simp [Cursor.advance, hpl], .inr ⟨p, hp, hpl⟩⟩

theorem SizesWithin.append {cs : List Cursor} (h : SizesWithin m xs cs)
    (hc : c.SizeWithin m (xs.take cs.length)) : SizesWithin m xs (cs ++ [c]) := by
  unfold SizesWithin
  intro i c' hi
  rcases Nat.lt_or_ge i cs.length with hlt | hge
  · rw [List.getElem?_append_left hlt] at hi
    exact h i c' hi
  · -- past the earlier cursors only the new one is left
    rw [List.getElem?_append_right hge] at hi
    have hi0 : i - cs.length = 0 := by
      cases hz : i - cs.length with
      | zero => rfl
      | succ k => simp [hz] at hi
    rw [hi0] at hi
    cases hi
    have hieq : i = cs.length := by omega
    exact hieq ▸ hc

end Sizes

section PageBudget

variable {o : Option Nat} {a b : Nat}

/-- A page budget that allows `b` pages allows fewer. -/
theorem pageBudget_all_mono (hab : a ≤ b) (h : o.all (b ≤ ·)) : o.all (a ≤ ·) := by
  cases o with
  | none => rfl
  | some k =>
    simp only [Option.all_some, decide_eq_true_eq] at h ⊢
    omega

/-- A page budget that allows one page more than those fetched is not used up. -/
theorem pageBudget_not_reached (h : o.all (a + 1 ≤ ·)) : o.any (· ≤ a) = false := by
  cases o with
  | none => rfl
  | some k =>
    simp only [Option.all_some, decide_eq_true_eq] at h
    simp only [Option.any_some, decide_eq_false_iff_not]
    omega

end PageBudget

namespace PageReplay

variable {α : Type}

/-- A fetch from a replay keeps the cursor, takes the first recorded answer and answers with it,
or fails when nothing is left. -/
theorem fetch_run_log (c : Cursor) (r : PageReplay α) :
    ((fetch c).run r).2.fetched = r.fetched ++ [c] ∧ ((fetch c).run r).2.pages = r.pages.drop 1 ∧
      ((fetch c).run r).1 = r.pages.head?.getD (.error (.invalidRequest "script exhausted")) := by
  unfold fetch
  cases hr : r.pages <;> simp [hr] <;> exact ⟨rfl, rfl, rfl⟩

/-- Over a replay read from `r₀`: the cursors asked so far follow `r₀`'s, as many answers have
been taken, every cursor asked had a size within `m` or reported before it, and so has the
cursor to ask next. -/
def SizesKept (m : Nat) (r₀ r : PageReplay α) (cur : Cursor) : Prop :=
  ∃ cs, r.fetched = r₀.fetched ++ cs ∧ r.pages = r₀.pages.drop cs.length ∧
    SizesWithin m r₀.pages cs ∧ cur.SizeWithin m (r₀.pages.take cs.length)

/-- A walk over a replay asks, from a cursor within its sizes, only for cursors within them. -/
theorem walkPages_sizesKept (check : PageReplay α → Except ApiError Unit) (opts : PageOptions)
    (m : Nat) (r₀ : PageReplay α) (fuel pages : Nat) (items : List α) (cur : Cursor)
    (r : PageReplay α) (h : SizesKept m r₀ r cur) :
    ∃ cs, ((walkPages check fetch opts fuel pages items cur).run r).2.fetched = r₀.fetched ++ cs ∧
      SizesWithin m r₀.pages cs := by
  -- induction on the fuel; each turn asks at most once, with the cursor the invariant covers
  induction fuel generalizing pages items cur r with
  | zero =>
    obtain ⟨cs, hfetched, -, hcs, -⟩ := h
    exact ⟨cs, hfetched, hcs⟩
  | succ fuel ih =>
    obtain ⟨cs, hfetched, hpages, hcs, hcur⟩ := h
    obtain ⟨hlog, hdrop, hanswer⟩ := fetch_run_log cur r
    have hasked : ((fetch cur).run r).2.fetched = r₀.fetched ++ (cs ++ [cur]) := by
      rw [hlog, hfetched, List.append_assoc]
    have hstep : SizesWithin m r₀.pages (cs ++ [cur]) := hcs.append hcur
    rcases walkPages_turn check fetch opts fuel pages items cur r with
      hw | hw | ⟨p, n, items', hp, hw⟩
    · rw [hw]
      exact ⟨cs, hfetched, hcs⟩
    · rw [hw]
      exact ⟨cs ++ [cur], hasked, hstep⟩
    · -- the page answered is the next recorded one, so it is among the answers taken
      have hhead : r.pages.head? = some (.ok p) := by
        cases hh : r.pages.head? with
        | none => simp [hh] at hanswer; rw [hanswer] at hp; cases hp
        | some a => simp [hh] at hanswer; rw [hanswer] at hp; rw [hp]
      have hmem : .ok p ∈ r₀.pages.take (cs.length + 1) := by
        rw [hpages, List.head?_drop] at hhead
        rw [List.take_add_one, hhead]
        exact List.mem_append_right _ (List.mem_singleton_self _)
      rw [hw]
      refine ih (pages + 1) items' _ _ ⟨cs ++ [cur], hasked, ?_, hstep, ?_⟩
      · rw [hdrop, hpages, List.drop_drop, List.length_append, List.length_singleton, Nat.add_comm]
      · rw [List.length_append, List.length_singleton]
        exact (hcur.of_prefix (List.take_prefix_take_left (Nat.le_succ _))).advance hmem

variable {opts : PageOptions} {m : Nat}

/-- Over a listing whose pages each go on up to one that is the last or whose items reach the
budget, a walk below its item budget and within its page budget asks for the pages up to the
first at which the items reach the budget, each at the start the page before it named, and
answers the first `m` items. -/
theorem walk_budget_chain (hm : opts.maxItems = some m) (qs : List (Page α))
    (hq : ∀ q ∈ qs, q.GoesOn) (p : Page α) (rest : List (Except ApiError (Page α)))
    (fuel pages : Nat) (items : List α)
    (hp : p.isLastPage = true ∨ m ≤ (items ++ (qs ++ [p]).flatMap Page.values).length)
    (hitems : items.length < m)
    (hb : opts.maxPages.all (pages + Page.budgetPages (m - items.length) (qs ++ [p]) ≤ ·))
    (cur : Cursor) (r : PageReplay α) (hca : r.cancelAfter = none)
    (hlive : r.context.check = .ok ()) (hr : r.pages = (qs ++ [p]).map .ok ++ rest) :
    ∃ cs cur', cs.map Cursor.start = (cur.start :: qs.map (·.nextPageStart.getD 0)).take
        (Page.budgetPages (m - items.length) (qs ++ [p])) ∧
      (walkPages (fun s => s.context.check) fetch opts
          (fuel + Page.budgetPages (m - items.length) (qs ++ [p])) pages items cur).run r =
        ((.ok ((items ++ (qs ++ [p]).flatMap Page.values).take m), cur'),
          { r with pages := r.pages.drop (Page.budgetPages (m - items.length) (qs ++ [p])),
                   fetched := r.fetched ++ cs }) := by
  -- induction on the pages that go on; each is one turn of the loop, from the replay it left
  induction qs generalizing pages items cur r with
  | nil =>
    have hj : Page.budgetPages (m - items.length) [p] = 1 := by
      unfold Page.budgetPages
      split <;> rfl
    rw [List.nil_append] at hr hb ⊢
    rw [hj] at hb ⊢
    have hf := fetch_run_cons hca (by simpa using hr : r.pages = .ok p :: rest) cur
    have hb₀ := pageBudget_not_reached hb
    have hrest : r.pages.drop 1 = rest := by simp [hr]
    refine ⟨[cur], cur.advance p, rfl, ?_⟩
    by_cases hreach : m ≤ (items ++ p.values).length
    · rw [walkPages_reaches_budget (fun s => s.context.check) fetch opts hlive hb₀ hm hf hreach]
      simp [hrest]
    · -- below the budget the page must be the last, which gives every item, fewer than `m`
      have hlast : p.isLastPage = true := hp.resolve_right (by simpa using hreach)
      rw [walkPages_below_budget_last (fun s => s.context.check) fetch opts hlive hb₀ hm hf
        (Nat.lt_of_not_le hreach) hlast]
      simp [hrest, List.take_of_length_le (Nat.le_of_not_le hreach)]
  | cons q qs ih =>
    obtain ⟨hl, hn⟩ := hq q List.mem_cons_self
    obtain ⟨n, hn⟩ := Option.isSome_iff_exists.mp hn
    have hf := fetch_run_cons hca
      (by simp [hr] : r.pages = .ok q :: ((qs ++ [p]).map .ok ++ rest)) cur
    have hb₀ : opts.maxPages.any (· ≤ pages) = false := by
      have hpos := Page.budgetPages_cons_pos (m - items.length) q (qs ++ [p])
      rw [List.cons_append] at hb
      exact pageBudget_not_reached (pageBudget_all_mono (by omega) hb)
    by_cases hreach : m ≤ (items ++ q.values).length
    · -- this page reaches the budget: it is the last one asked for
      have hj : Page.budgetPages (m - items.length) (q :: qs ++ [p]) = 1 := by
        rw [List.length_append] at hreach
        exact Page.budgetPages_cons_of_le (by omega) _
      rw [hj]
      refine ⟨[cur], cur.advance q, rfl, ?_⟩
      rw [walkPages_reaches_budget (fun s => s.context.check) fetch opts hlive hb₀ hm hf hreach]
      have htake : ((items ++ q.values) ++ (qs ++ [p]).flatMap Page.values).take m =
          (items ++ q.values).take m := List.take_append_of_le_length hreach
      simp only [List.cons_append, List.flatMap_cons, ← List.append_assoc, htake]
      simp [hr]
    · -- below the budget the walk goes on to the start this page names
      have hlt : (items ++ q.values).length < m := Nat.lt_of_not_le hreach
      have hsub : m - (items ++ q.values).length = m - items.length - q.values.length := by
        rw [List.length_append, Nat.sub_sub]
      have hj : Page.budgetPages (m - items.length) (q :: qs ++ [p]) =
          Page.budgetPages (m - (items ++ q.values).length) (qs ++ [p]) + 1 := by
        rw [List.length_append] at hreach
        rw [List.cons_append, Page.budgetPages_cons_of_lt (by omega), hsub]
      rw [hj] at hb ⊢
      have hp' : p.isLastPage = true ∨
          m ≤ ((items ++ q.values) ++ (qs ++ [p]).flatMap Page.values).length := by
        rcases hp with hp | hp
        · exact .inl hp
        · right
          simpa [List.flatMap_cons, Nat.add_assoc] using hp
      obtain ⟨cs, cur', hstarts, hrun⟩ := ih (fun q hq' => hq q (List.mem_cons_of_mem _ hq'))
        (pages + 1) (items ++ q.values) hp' hlt
        (pageBudget_all_mono (by omega) hb) { cur.advance q with start := n }
        { r with pages := (qs ++ [p]).map .ok ++ rest, fetched := r.fetched ++ [cur] } hca hlive rfl
      refine ⟨cur :: cs, cur', ?_, ?_⟩
      · simp [hstarts, hn]
      · rw [← Nat.add_assoc, walkPages_below_budget_next (fun s => s.context.check) fetch opts
          hlive hb₀ hm hf hlt hl hn, hrun]
        simp [hr, List.append_assoc]

variable (opts) (m)

/-- What a walk with an item budget of `m` does over a replay whose recording starts with the
pages `qs`, each of which goes on, and then a page `p` that is the last or whose items reach
`m`: it answers the first `m` items of those pages, and asks for the pages up to the first at
which the items reach `m`, or for all of them, first at the cursor's start and then at each
start the page before named, and for no more. -/
def WithinItemBudget (cursor : Cursor) (r : PageReplay α) (qs : List (Page α)) (p : Page α) :
    Prop :=
  let ps := qs ++ [p]
  let j := Page.budgetPages m ps
  let w := r.walk opts cursor
  w.1.1 = .ok ((ps.flatMap Page.values).take m) ∧
    Asked r w.2 ((cursor.start :: qs.map (·.nextPageStart.getD 0)).take j) ∧
    (∀ i < j, ((ps.take i).flatMap Page.values).length < m) ∧
    (j = ps.length ∨ m ≤ ((ps.take j).flatMap Page.values).length)

variable {opts} {m}

/-- A walk with an item budget answers the first items of the listing and stops asking once it
has them.  A budget of zero answers nothing and leaves the replay as it was.  Any other, over a
listing whose pages each name the next up to the first one that is the last or whose items
reach the budget, whatever is recorded after that one, from any cursor and while the caller's
context stays live, within a page budget that allows the pages it needs, behaves as
`WithinItemBudget` says. -/
theorem walk_item_budget (hm : opts.maxItems = some m) (cursor : Cursor) (r : PageReplay α) :
    (m = 0 → r.walk opts cursor = ((.ok [], opts.withLimit cursor), r)) ∧
    (0 < m → r.cancelAfter = none → r.context.check = .ok () →
      ∀ (qs : List (Page α)) (p : Page α) (rest : List (Except ApiError (Page α))),
        (∀ q ∈ qs, q.GoesOn) →
        (p.isLastPage = true ∨ m ≤ ((qs ++ [p]).flatMap Page.values).length) →
        r.pages = (qs ++ [p]).map .ok ++ rest →
        opts.maxPages.all (Page.budgetPages m (qs ++ [p]) ≤ ·) →
        WithinItemBudget opts m cursor r qs p) := by
  refine ⟨fun h0 => ?_, fun hpos hca hlive qs p rest hq hp hr hb => ?_⟩
  · subst h0
    simp [walk, allPages, hm]
    rfl
  obtain ⟨hle, hbelow, hreach⟩ := Page.budgetPages_spec m hpos (qs ++ [p])
  -- the walk has fuel for every page it asks for
  have hfuel : r.pages.length + 1 =
      (r.pages.length + 1 - Page.budgetPages m (qs ++ [p])) + Page.budgetPages m (qs ++ [p]) := by
    have : (qs ++ [p]).length ≤ r.pages.length := by simp [hr]
    omega
  have hstart : ((opts.withLimit cursor).capLimit m).start = cursor.start := by
    unfold PageOptions.withLimit
    split <;> rfl
  obtain ⟨cs, cur', hstarts, hrun⟩ := walk_budget_chain hm qs hq p rest
    (r.pages.length + 1 - Page.budgetPages m (qs ++ [p])) 0 [] (hp.imp id fun h => by simpa using h)
    hpos (by simpa using hb)
    ((opts.withLimit cursor).capLimit m) r hca hlive hr
  obtain ⟨k, rfl⟩ : ∃ k, m = k + 1 := ⟨m - 1, by omega⟩
  have hwalk : r.walk opts cursor = (walkPages (fun s => s.context.check) fetch opts
      ((r.pages.length + 1 - Page.budgetPages (k + 1) (qs ++ [p])) +
        Page.budgetPages (k + 1) (qs ++ [p])) 0 []
      ((opts.withLimit cursor).capLimit (k + 1))).run r := by
    rw [← hfuel]
    simp only [walk, allPages, hm]
  simp only [List.length_nil, Nat.sub_zero, List.nil_append] at hrun hstarts
  refine ⟨?_, ⟨cs, ?_, ?_⟩, hbelow, hreach⟩
  · rw [hwalk, hrun]
  · rw [hwalk, hrun]
  · rw [hstarts, hstart]

/-- The theorem at a budget of three over a page of two items that goes on and a page of two
that reaches the budget but names no next page, with a failure recorded after it. -/
theorem walk_item_budget_three :
    let q : Page Nat := Page.chained [1, 2] 0 (some 2)
    let p : Page Nat := { values := [3, 4], start := 2, size := 2, isLastPage := false }
    let r : PageReplay Nat := { pages := [.ok q, .ok p, .error (.network "refused")] }
    ({ maxItems := some 3 } : PageOptions).maxItems = some 3 ∧ 0 < 3 ∧ r.cancelAfter = none ∧
      r.context.check = .ok () ∧ (∀ q' ∈ [q], q'.GoesOn) ∧
      (p.isLastPage = true ∨ 3 ≤ (([q] ++ [p]).flatMap Page.values).length) ∧
      r.pages = ([q] ++ [p]).map .ok ++ [.error (.network "refused")] ∧
      ({ maxItems := some 3 } : PageOptions).maxPages.all (Page.budgetPages 3 ([q] ++ [p]) ≤ ·) ∧
      WithinItemBudget { maxItems := some 3 } 3 {} r [q] p :=
  have hq : ∀ q' ∈ [Page.chained [1, 2] 0 (some 2)], q'.GoesOn := by
    simp [Page.GoesOn, Page.chained]
  ⟨rfl, by decide, rfl, rfl, hq, .inr (by decide), rfl, rfl,
    (walk_item_budget rfl {} _).2 (by decide) rfl rfl _ _ _ hq (.inr (by decide)) rfl rfl⟩

/-- Every cursor a walk with an item budget of `m` asks with, over any replayed listing, from
any cursor and in any context, has a page size: at most `m`, or the size a page answered
before it reported. -/
theorem walk_page_sizes (opts : PageOptions) {m : Nat} (hm : opts.maxItems = some m)
    (cursor : Cursor) (r : PageReplay α) :
    ∃ cs, (r.walk opts cursor).2.fetched = r.fetched ++ cs ∧
      ∀ i (c : Cursor), cs[i]? = some c → ∃ l, c.limit = some l ∧
        (l ≤ m ∨ ∃ p, .ok p ∈ r.pages.take i ∧ p.limit = some l) := by
  cases m with
  | zero =>
    -- a budget of zero asks for nothing
    refine ⟨[], ?_, fun i c hc => by simp at hc⟩
    simp [walk, allPages, hm]
    rfl
  | succ k =>
    -- the first cursor's size is capped by the budget
    have hcap : ((opts.withLimit cursor).capLimit (k + 1)).SizeWithin (k + 1) (r.pages.take 0) := by
      refine ⟨_, rfl, .inl ?_⟩
      cases (opts.withLimit cursor).limit
      · exact Nat.le_refl _
      · exact Nat.min_le_right _ _
    have hkept : SizesKept (k + 1) r r ((opts.withLimit cursor).capLimit (k + 1)) :=
      ⟨[], by simp, by simp, fun i c hc => by simp at hc, hcap⟩
    obtain ⟨cs, hcs, hsizes⟩ := walkPages_sizesKept (fun s => s.context.check) opts (k + 1) r
      (r.pages.length + 1) 0 [] _ r hkept
    refine ⟨cs, ?_, hsizes⟩
    simpa [walk, allPages, hm] using hcs

/-- The theorem at a budget of five over a listing whose first page reports a size of 25. -/
theorem walk_page_sizes_reported :
    let r : PageReplay Nat :=
      { pages := [.ok { values := [1], limit := some 25, size := 1, isLastPage := false,
                        nextPageStart := some 1 },
                  .ok { values := [2], start := 1, size := 1 }] }
    ({ maxItems := some 5 } : PageOptions).maxItems = some 5 ∧
      ∃ cs, (r.walk { maxItems := some 5 } {}).2.fetched = r.fetched ++ cs ∧
        ∀ i (c : Cursor), cs[i]? = some c → ∃ l, c.limit = some l ∧
          (l ≤ 5 ∨ ∃ p, .ok p ∈ r.pages.take i ∧ p.limit = some l) :=
  ⟨rfl, walk_page_sizes { maxItems := some 5 } rfl {} _⟩

/-- With a budget of five, a first page that reports a size of 25 makes the walk ask for the
second page with a size of 25. -/
theorem reported_limit_lifts_cap :
    let r : PageReplay Nat :=
      { pages := [.ok { values := [1], limit := some 25, size := 1, isLastPage := false,
                        nextPageStart := some 1 },
                  .ok { values := [2], start := 1, size := 1 }] }
    (r.walk { maxItems := some 5 } {}).2.fetched.map Cursor.limit = [some 5, some 25] := by
  decide

end PageReplay

end ForgeSync
