import ForgeSync.GitHub.Wire

/-!
# The effective level is a maximum

A team's effective level folds its grants from left to right, keeping the higher of the level
found so far and the next grant's level, and failing at the first grant whose word is not in
its scope's table.  Read as a whole, the fold computes something that does not depend on the
order of the grants at all: it succeeds exactly when every word is in its table, and then its
answer is none for no grant and otherwise the highest level among the grants (`IsHighest`).

The proof turns the left fold into a right one (`effectiveLevel_cons_ok`): folding from a level
`b` is folding from nothing and then taking the higher of the answer and `b`, since the higher
of two levels is associative and commutative on ordinals.  The characterisation then follows
by induction on the grants, and `IsHighest` reads only which grants there are, so a
permutation keeps it.  GitHub's reading of a repository's permissions map is the same fold over
the granted keys.

Main statements:

* `effectiveLevel_eq_ok_iff`: the fold succeeds with `r` exactly when every word is known and
  `r` is the highest level.
* `effectiveLevel_order_independent`: hence, for both services, permuting the grants changes
  neither whether the fold succeeds nor its answer; and the same holds of the granted keys of
  any permissions map.
-/

namespace ForgeSync

/-! ## The order of levels -/

namespace Level

theorem ordinal_injective : Function.Injective ordinal := by
  intro a b h
  cases a <;> cases b <;> simp [ordinal] at h ⊢

theorem le_def {a b : Level} : a ≤ b ↔ a.ordinal ≤ b.ordinal := Iff.rfl

theorem le_refl (a : Level) : a ≤ a := Nat.le_refl a.ordinal

theorem le_trans {a b c : Level} (h₁ : a ≤ b) (h₂ : b ≤ c) : a ≤ c :=
  Nat.le_trans h₁ h₂

theorem le_antisymm {a b : Level} (h₁ : a ≤ b) (h₂ : b ≤ a) : a = b :=
  ordinal_injective (Nat.le_antisymm h₁ h₂)

@[simp] theorem maxWith_none (l : Level) : maxWith none l = l := rfl

/-- On ordinals, `maxWith` is the maximum. -/
theorem ordinal_maxWith_some (b l : Level) :
    (maxWith (some b) l).ordinal = max b.ordinal l.ordinal := by
  by_cases h : l ≤ b
  · have hle : l.ordinal ≤ b.ordinal := h
    simp only [maxWith, if_pos h]
    omega
  · have hlt : ¬ l.ordinal ≤ b.ordinal := h
    simp only [maxWith, if_neg h]
    omega

theorem le_maxWith (best : Option Level) (l : Level) : l ≤ maxWith best l := by
  cases best with
  | none => exact le_refl l
  | some b =>
    show l.ordinal ≤ (maxWith (some b) l).ordinal
    rw [ordinal_maxWith_some]
    omega

theorem le_maxWith_some (b l : Level) : b ≤ maxWith (some b) l := by
  show b.ordinal ≤ (maxWith (some b) l).ordinal
  rw [ordinal_maxWith_some]
  omega

/-- The higher of a level found so far and a new one is one of the two. -/
theorem maxWith_eq_or (best : Option Level) (l : Level) :
    maxWith best l = l ∨ best = some (maxWith best l) := by
  cases best with
  | none => exact .inl rfl
  | some b =>
    by_cases h : l ≤ b
    · exact .inr (by simp only [maxWith, if_pos h])
    · exact .inl (by simp only [maxWith, if_neg h])

/-- Taking the higher of levels is associative and commutative, in the one form the fold
needs: folding `b` in first or last gives the same level. -/
theorem maxWith_maxWith (r : Option Level) (b l : Level) :
    maxWith r (maxWith (some b) l) = maxWith (some (maxWith r l)) b := by
  cases r with
  | none =>
    apply ordinal_injective
    simp only [maxWith_none, ordinal_maxWith_some]
    omega
  | some a =>
    apply ordinal_injective
    simp only [ordinal_maxWith_some]
    omega

end Level

/-! ## Tables -/

namespace PermissionTable

/-- The words a table knows. -/
def words (t : PermissionTable) : List String := t.entries.map (·.1)

/-- A word has a level exactly when it is in the table. -/
theorem exists_levelOf_ok_iff (t : PermissionTable) (w : String) :
    (∃ l, t.levelOf w = .ok l) ↔ w ∈ t.words := by
  unfold levelOf words
  cases h : t.entries.find? (fun e => e.1 == w) with
  | none =>
    simp only [reduceCtorEq, exists_false, false_iff, List.mem_map, not_exists, not_and]
    intro e he hw
    have := List.find?_eq_none.1 h e he
    simp [hw] at this
  | some e =>
    simp only [Except.ok.injEq, exists_eq', true_iff, List.mem_map]
    exact ⟨e, List.mem_of_find?_eq_some h, by simpa using List.find?_some h⟩

end PermissionTable

/-! ## The highest level of a set of grants -/

/-- `r` is the highest level that `level` reads off the members of `S`: none when `S` has no
member, and otherwise a level some member has that no member's level exceeds. -/
def IsHighest {α : Type} (level : α → Except ApiError Level) (S : α → Prop) :
    Option Level → Prop
  | none => ∀ x, ¬ S x
  | some m => (∃ x, S x ∧ level x = .ok m) ∧ ∀ x, S x → ∀ l, level x = .ok l → l ≤ m

namespace IsHighest

variable {α : Type} {level : α → Except ApiError Level} {S : α → Prop}

/-- There is at most one highest level. -/
theorem unique {r r' : Option Level} (h : IsHighest level S r) (h' : IsHighest level S r') :
    r = r' := by
  cases r with
  | none =>
    cases r' with
    | none => rfl
    | some m' =>
      obtain ⟨⟨x, hx, -⟩, -⟩ := h'
      exact absurd hx (h x)
  | some m =>
    cases r' with
    | none =>
      obtain ⟨⟨x, hx, -⟩, -⟩ := h
      exact absurd hx (h' x)
    | some m' =>
      obtain ⟨⟨x, hx, hlx⟩, hm⟩ := h
      obtain ⟨⟨x', hx', hlx'⟩, hm'⟩ := h'
      exact congrArg some (Level.le_antisymm (hm' x hx m hlx) (hm x' hx' m' hlx'))

/-- The highest level of a list's grants, after one more grant of level `l` in front. -/
theorem cons {x : α} {xs : List α} {l : Level} {r : Option Level}
    (h : IsHighest level (· ∈ xs) r) (hx : level x = .ok l) :
    IsHighest level (· ∈ x :: xs) (some (Level.maxWith r l)) := by
  refine ⟨?_, ?_⟩
  · -- the new maximum is `l` itself or the old one, which some grant of `xs` has
    rcases Level.maxWith_eq_or r l with heq | heq
    · exact ⟨x, List.mem_cons_self, by rw [heq, hx]⟩
    · rw [heq] at h
      obtain ⟨⟨y, hy, hly⟩, -⟩ := h
      exact ⟨y, List.mem_cons_of_mem x hy, hly⟩
  · intro y hy l' hly
    rcases List.mem_cons.1 hy with rfl | hy
    · have hl : l' = l := by
        rw [hx] at hly
        exact (Except.ok.inj hly).symm
      rw [hl]
      exact Level.le_maxWith r l
    · -- a grant of `xs` is below the old maximum, so `xs` has one
      cases r with
      | none => exact absurd hy (h y)
      | some m => exact Level.le_trans (h.2 y hy l' hly) (Level.le_maxWith_some m l)

/-- Only the members of `S` matter. -/
theorem congr {S' : α → Prop} (hS : ∀ x, S x ↔ S' x) {r : Option Level} :
    IsHighest level S r ↔ IsHighest level S' r := by
  have : S = S' := funext fun x => propext (hS x)
  rw [this]

/-- The highest level over the image of a set is the highest level of the composite. -/
theorem image {β : Type} (e : β → α) (T : β → Prop) {r : Option Level} :
    IsHighest level (fun x => ∃ y, T y ∧ e y = x) r ↔
      IsHighest (fun y => level (e y)) T r := by
  cases r with
  | none => simp [IsHighest]
  | some m =>
    simp only [IsHighest]
    constructor
    · rintro ⟨⟨_, ⟨y, hy, rfl⟩, hm⟩, hle⟩
      exact ⟨⟨y, hy, hm⟩, fun y' hy' => hle (e y') ⟨y', hy', rfl⟩⟩
    · rintro ⟨⟨y, hy, hm⟩, hle⟩
      refine ⟨⟨e y, ⟨y, hy, rfl⟩, hm⟩, ?_⟩
      rintro _ ⟨y', hy', rfl⟩
      exact hle y' hy'

end IsHighest

/-! ## The fold over grants -/

namespace Service

/-- The level a grant stands for, through the table of its scope. -/
def grantLevel (svc : Service) (g : Grant) : Except ApiError Level :=
  (svc.table g.scope).levelOf g.word

variable (svc : Service)

/-- Folding from a level `b` is folding from nothing and then taking the higher of the answer
and `b`. -/
theorem foldGrants_some (b : Level) (gs : List Grant) :
    svc.foldGrants (some b) gs =
      (svc.effectiveLevel gs).map (fun r => some (Level.maxWith r b)) := by
  induction gs generalizing b with
  | nil => rfl
  | cons g gs ih =>
    cases hg : (svc.table g.scope).levelOf g.word with
    | error e => simp only [effectiveLevel, foldGrants, hg]; rfl
    | ok l =>
      -- both sides fold the rest from one level; the two levels agree
      simp only [effectiveLevel, foldGrants, hg, Level.maxWith_none]
      rw [ih, ih]
      cases svc.effectiveLevel gs with
      | error e => rfl
      | ok r => simp only [Except.map, Level.maxWith_maxWith]

theorem effectiveLevel_nil : svc.effectiveLevel [] = .ok none := rfl

theorem effectiveLevel_cons_ok {g : Grant} {l : Level} (hg : svc.grantLevel g = .ok l)
    (gs : List Grant) :
    svc.effectiveLevel (g :: gs) =
      (svc.effectiveLevel gs).map (fun r => some (Level.maxWith r l)) := by
  have hg' : (svc.table g.scope).levelOf g.word = .ok l := hg
  simp only [effectiveLevel, foldGrants, hg', Level.maxWith_none]
  rw [foldGrants_some, effectiveLevel]

theorem effectiveLevel_cons_error {g : Grant} {e : ApiError} (hg : svc.grantLevel g = .error e)
    (gs : List Grant) : svc.effectiveLevel (g :: gs) = .error e := by
  have hg' : (svc.table g.scope).levelOf g.word = .error e := hg
  simp only [effectiveLevel, foldGrants, hg']

/-- The fold succeeds exactly when every grant's word is in its scope's table. -/
theorem effectiveLevel_isOk_iff (gs : List Grant) :
    (∃ r, svc.effectiveLevel gs = .ok r) ↔
      ∀ g ∈ gs, g.word ∈ (svc.table g.scope).words := by
  induction gs with
  | nil => simp [effectiveLevel_nil]
  | cons g gs ih =>
    simp only [List.mem_cons, forall_eq_or_imp]
    cases hg : svc.grantLevel g with
    | error e =>
      have hunknown : g.word ∉ (svc.table g.scope).words := by
        rw [← PermissionTable.exists_levelOf_ok_iff]
        rintro ⟨l, hl⟩
        exact absurd (hl.symm.trans hg) (by simp)
      simp [effectiveLevel_cons_error svc hg, hunknown]
    | ok l =>
      have hknown : g.word ∈ (svc.table g.scope).words :=
        (PermissionTable.exists_levelOf_ok_iff _ _).1 ⟨l, hg⟩
      rw [effectiveLevel_cons_ok svc hg, ← ih]
      cases svc.effectiveLevel gs <;> simp [Except.map, hknown]

/-- A successful fold answers the highest level of the grants. -/
theorem effectiveLevel_highest {gs : List Grant} {r : Option Level}
    (h : svc.effectiveLevel gs = .ok r) : IsHighest svc.grantLevel (· ∈ gs) r := by
  induction gs generalizing r with
  | nil =>
    rw [effectiveLevel_nil] at h
    cases h
    exact fun _ hx => List.not_mem_nil hx
  | cons g gs ih =>
    cases hg : svc.grantLevel g with
    | error e => rw [effectiveLevel_cons_error svc hg] at h; cases h
    | ok l =>
      rw [effectiveLevel_cons_ok svc hg] at h
      cases hgs : svc.effectiveLevel gs with
      | error e => rw [hgs] at h; cases h
      | ok r' =>
        rw [hgs] at h
        cases h
        exact (ih hgs).cons hg

/-- The fold succeeds with `r` exactly when every word is known and `r` is the highest level
of the grants. -/
theorem effectiveLevel_eq_ok_iff (gs : List Grant) (r : Option Level) :
    svc.effectiveLevel gs = .ok r ↔
      (∀ g ∈ gs, g.word ∈ (svc.table g.scope).words) ∧
        IsHighest svc.grantLevel (· ∈ gs) r := by
  constructor
  · intro h
    exact ⟨(svc.effectiveLevel_isOk_iff gs).1 ⟨r, h⟩, svc.effectiveLevel_highest h⟩
  · rintro ⟨hknown, hr⟩
    obtain ⟨r', h'⟩ := (svc.effectiveLevel_isOk_iff gs).2 hknown
    rw [h', (svc.effectiveLevel_highest h').unique hr]

/-- Permuting the grants changes nothing: the fold is read off which grants there are. -/
theorem effectiveLevel_perm {L L' : List Grant} (hp : L.Perm L') (r : Option Level) :
    svc.effectiveLevel L = .ok r ↔ svc.effectiveLevel L' = .ok r := by
  have hmem : ∀ g, g ∈ L ↔ g ∈ L' := fun g => hp.mem_iff
  rw [svc.effectiveLevel_eq_ok_iff, svc.effectiveLevel_eq_ok_iff, IsHighest.congr hmem]
  simp only [hmem]

end Service

namespace GitHub.RepoRecord

/-- The grants a permissions map stands for: one repository grant per granted key. -/
theorem mem_granted_iff (ps : List (String × Bool)) (g : Grant) :
    g ∈ (ps.filter (·.2)).map (fun p => (⟨.repository, p.1⟩ : Grant)) ↔
      ∃ k, (k, true) ∈ ps ∧ (⟨.repository, k⟩ : Grant) = g := by
  simp only [List.mem_map, List.mem_filter]
  constructor
  · rintro ⟨⟨k, b⟩, ⟨hkb, hb⟩, rfl⟩
    simp only at hb
    exact ⟨k, hb ▸ hkb, rfl⟩
  · rintro ⟨k, hk, rfl⟩
    exact ⟨(k, true), ⟨hk, rfl⟩, rfl⟩

/-- A repository's level, read from a permissions map, is the highest level of its granted
keys, and it is read exactly when every granted key is a repository permission word. -/
theorem grantedLevel_eq_ok_iff {repo : RepoRecord} {ps : List (String × Bool)}
    (hps : repo.permissions = some ps) (r : Option Level) :
    repo.grantedLevel = .ok r ↔
      (∀ k, (k, true) ∈ ps → k ∈ (Service.github.table .repository).words) ∧
      IsHighest (Service.github.table .repository).levelOf (fun k => (k, true) ∈ ps) r := by
  rw [grantedLevel, hps, Service.effectiveLevel_eq_ok_iff, IsHighest.congr (mem_granted_iff ps),
    IsHighest.image]
  simp only [mem_granted_iff, forall_exists_index, and_imp]
  constructor
  · rintro ⟨hknown, hr⟩
    exact ⟨fun k hk => hknown _ k hk rfl, hr⟩
  · rintro ⟨hknown, hr⟩
    exact ⟨fun _ k hk hg => hg ▸ hknown k hk, hr⟩

end GitHub.RepoRecord

/-- The effective level does not depend on the order of the grants, for either service: a
permutation succeeds exactly when the original does, which is exactly when every word is in
its scope's table, and then with the same answer, the highest level of the grants (none for
no grant).  A repository's permissions map is read the same way, over its granted keys. -/
theorem effectiveLevel_order_independent (svc : Service) {L L' : List Grant} (hp : L.Perm L') :
    (∀ r, svc.effectiveLevel L = .ok r ↔ svc.effectiveLevel L' = .ok r) ∧
    ((∃ r, svc.effectiveLevel L = .ok r) ↔
      ∀ g ∈ L, g.word ∈ (svc.table g.scope).words) ∧
    (∀ r, svc.effectiveLevel L = .ok r → IsHighest svc.grantLevel (· ∈ L) r) ∧
    ∀ (repo : GitHub.RepoRecord) (ps : List (String × Bool)), repo.permissions = some ps →
      ∀ r, repo.grantedLevel = .ok r ↔
        (∀ k, (k, true) ∈ ps → k ∈ (Service.github.table .repository).words) ∧
        IsHighest (Service.github.table .repository).levelOf (fun k => (k, true) ∈ ps) r :=
  ⟨svc.effectiveLevel_perm hp, svc.effectiveLevel_isOk_iff L,
    fun _ => svc.effectiveLevel_highest,
    fun _ _ hps => GitHub.RepoRecord.grantedLevel_eq_ok_iff hps⟩

/-- Two Bitbucket Server grants in either order: a read grant on the repository and an admin
grant on the project give admin either way. -/
theorem effectiveLevel_order_independent_two :
    let L : List Grant := [⟨.repository, "REPO_READ"⟩, ⟨.organization, "PROJECT_ADMIN"⟩]
    L.Perm L.reverse ∧
      ((∀ r, Service.bitbucket.effectiveLevel L = .ok r ↔
          Service.bitbucket.effectiveLevel L.reverse = .ok r) ∧
        ((∃ r, Service.bitbucket.effectiveLevel L = .ok r) ↔
          ∀ g ∈ L, g.word ∈ (Service.bitbucket.table g.scope).words) ∧
        (∀ r, Service.bitbucket.effectiveLevel L = .ok r →
          IsHighest Service.bitbucket.grantLevel (· ∈ L) r) ∧
        ∀ (repo : GitHub.RepoRecord) (ps : List (String × Bool)), repo.permissions = some ps →
          ∀ r, repo.grantedLevel = .ok r ↔
            (∀ k, (k, true) ∈ ps → k ∈ (Service.github.table .repository).words) ∧
            IsHighest (Service.github.table .repository).levelOf (fun k => (k, true) ∈ ps) r) :=
  have hp : List.Perm
      [(⟨.repository, "REPO_READ"⟩ : Grant), ⟨.organization, "PROJECT_ADMIN"⟩]
      [⟨.organization, "PROJECT_ADMIN"⟩, ⟨.repository, "REPO_READ"⟩] :=
    List.Perm.swap _ _ []
  ⟨hp, effectiveLevel_order_independent .bitbucket hp⟩

example : (Service.bitbucket.effectiveLevel
    [⟨.repository, "REPO_READ"⟩, ⟨.organization, "PROJECT_ADMIN"⟩]).toOption =
      some (some .admin) := by
  decide +kernel

end ForgeSync
