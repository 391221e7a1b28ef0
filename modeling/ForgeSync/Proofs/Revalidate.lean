import ForgeSync.Proofs.Establish

/-!
# Validation is a normal form

Every resource kind checks a desired spec before it is sent, and the check may rewrite it:
a blank description becomes unset, a public key keeps its key type and data only.  Each check
has one shape: normalise the spec, then accept the normal form or refuse it by a condition
on the normal form alone.  Normalising twice is normalising once, so a spec the check
accepted passes the check again unchanged.

This is what keeps the compared spec and the sent spec one and the same.  A reconcile checks
the desired spec and stores the result; the create it may fall back to checks the stored spec
again and sends the same spec.  A kind that updates by deleting and creating again re-derives
the spec from the raw form it wrote; for the three such kinds (deploy keys on both services,
and the in-memory store under that strategy) the re-derived spec is the checked one.

Main statement: `validation_idempotent`.
-/

namespace ForgeSync

namespace Resource

section Normal

variable {ε α : Type}

/-- A check that normalises by `norm` and accepts exactly the normal forms that satisfy
`accepts`, so that it passes again on what it produced when `norm` is idempotent. -/
theorem revalidates_of_normalises {v : α → Except ε α} {norm : α → α} {accepts : α → Prop}
    (hv : ∀ s d, v s = .ok d ↔ d = norm s ∧ accepts d) (hn : ∀ s, norm (norm s) = norm s)
    {s d : α} (h : v s = .ok d) : v d = .ok d := by
  obtain ⟨rfl, hd⟩ := (hv s d).mp h
  exact (hv _ _).mpr ⟨(hn s).symm, hd⟩

end Normal

variable {σ ι ρ α : Type}

/-- A kind's check is a normal form: what it accepted passes it again unchanged; and when the
kind updates by deleting and creating again, the spec it re-derives from a raw form it wrote
is the checked spec. -/
structure Kind.ValidatesToNormal (k : Kind σ ι ρ α) : Prop where
  revalidate : ∀ s d, k.validate s = .ok d → k.validate d = .ok d
  rederive : k.strategy = .recreate →
    ∀ r s d, k.validate s = .ok d → k.validate (k.specOf (k.applySpec r d)) = .ok d

/-- A kind that never recreates only needs its check to be a normal form. -/
theorem Kind.validatesToNormal_of_ne_recreate {k : Kind σ ι ρ α} (hk : k.strategy ≠ .recreate)
    (hv : ∀ s d, k.validate s = .ok d → k.validate d = .ok d) : k.ValidatesToNormal :=
  ⟨hv, fun h => absurd h hk⟩

/-- A recreating kind whose raw forms give back the spec written into them. -/
theorem Kind.validatesToNormal_of_specOf_applySpec {k : Kind σ ι ρ α}
    (hv : ∀ s d, k.validate s = .ok d → k.validate d = .ok d)
    (hr : ∀ r s d, k.validate s = .ok d → k.specOf (k.applySpec r d) = d) :
    k.ValidatesToNormal :=
  ⟨hv, fun _ r s d h => (hr r s d h).symm ▸ hv s d h⟩

/-- After a reconcile has checked the desired spec, the create it falls back to checks the
stored spec again and arrives at the same spec. -/
theorem Handle.validate_desired_again {k : Kind σ ι ρ α}
    (hk : ∀ s d, k.validate s = .ok d → k.validate d = .ok d) {h : Handle ι ρ α} {d : α}
    (hd : (h.requireDesired k >>= k.validate) = .ok d) :
    ({ h with desired := some d }.requireDesired k >>= k.validate) = .ok d := by
  cases hreq : h.requireDesired k with
  | error e => rw [hreq] at hd; cases hd
  | ok s =>
    rw [hreq] at hd
    exact hk s d hd

end Resource

/-! ### The checks of the two services -/

/-- A check of a level alone accepts a team's spec unchanged, exactly when the table has a word
for the level. -/
theorem TeamAccessSpec.wordFor_then_eq_ok_iff (t : PermissionTable) (s d : TeamAccessSpec) :
    (t.wordFor s.permission >>= fun _ => pure s : Except ApiError TeamAccessSpec) = .ok d ↔
      d = s ∧ ∃ w, t.wordFor d.permission = .ok w := by
  cases hw : t.wordFor s.permission with
  | error e =>
    simp only [bind, Except.bind, reduceCtorEq, false_iff, not_and]
    rintro rfl ⟨w, hw'⟩
    rw [hw] at hw'
    cases hw'
  | ok w =>
    simp only [bind, Except.bind, pure, Except.pure, Except.ok.injEq]
    exact ⟨fun h => ⟨h.symm, h ▸ ⟨w, hw⟩⟩, fun h => h.1.symm⟩

namespace Bitbucket

namespace Repo

theorem validate_eq_ok_iff (s d : RepositorySpec) :
    validate s = .ok d ↔ d = { s with description := nonEmpty s.description } ∧
      Text.isBlankText d.name = false ∧ d.visibility ≠ some .internal := by
  constructor
  · intro h
    unfold validate at h
    simp only [bind, Except.bind, pure, Except.pure] at h
    split at h
    · cases h
    · split at h
      · cases h
      · rename_i hname hvis
        cases h
        exact ⟨rfl, by simpa using hname, by simpa using hvis⟩
  · rintro ⟨rfl, hname, hvis⟩
    unfold validate
    simp only [hname, Bool.false_eq_true, if_false, beq_iff_eq, hvis]
    rfl

end Repo

namespace Key

theorem validate_eq_ok_iff (s d : DeployKeySpec) :
    validate s = .ok d ↔ d = { s with key := normalizePublicKey s.key } ∧
      Text.isBlankText d.label = false ∧ d.key.isEmpty = false := by
  constructor
  · intro h
    unfold validate at h
    simp only [bind, Except.bind, pure, Except.pure] at h
    split at h
    · cases h
    · rename_i hbad
      cases h
      simp only [Bool.or_eq_true, not_or, Bool.not_eq_true] at hbad
      exact ⟨rfl, hbad⟩
  · rintro ⟨rfl, hlabel, hkey⟩
    unfold validate
    simp only [hlabel, hkey, Bool.or_false, Bool.false_eq_true, if_false]
    rfl

end Key

namespace Access

theorem validate_eq_ok_iff (s d : TeamAccessSpec) :
    validate s = .ok d ↔ d = s ∧
      ∃ w, (Service.bitbucket.table .repository).wordFor d.permission = .ok w :=
  TeamAccessSpec.wordFor_then_eq_ok_iff _ s d

end Access

namespace Pull

theorem validate_eq_ok_iff (s d : PullRequestSpec) :
    validate s = .ok d ↔ d = { s with description := nonEmpty s.description } ∧
      d.sourceBranch ≠ d.targetBranch := by
  constructor
  · intro h
    unfold validate at h
    simp only [bind, Except.bind, pure, Except.pure] at h
    split at h
    · cases h
    · rename_i hsame
      cases h
      exact ⟨rfl, by simpa using hsame⟩
  · rintro ⟨rfl, hsame⟩
    unfold validate
    simp only [beq_iff_eq, hsame, if_false]
    rfl

end Pull

end Bitbucket

namespace GitHub

namespace Repo

theorem validate_eq_ok_iff (s d : RepositorySpec) :
    validate s = .ok d ↔ d = { s with description := nonEmpty s.description } ∧
      Text.isBlankText d.name = false := by
  constructor
  · intro h
    unfold validate at h
    simp only [bind, Except.bind, pure, Except.pure] at h
    split at h
    · cases h
    · rename_i hname
      cases h
      exact ⟨rfl, by simpa using hname⟩
  · rintro ⟨rfl, hname⟩
    unfold validate
    simp only [hname, Bool.false_eq_true, if_false]
    rfl

end Repo

/-- Both services check deploy keys alike. -/
theorem Key.validate_eq_bitbucket : Key.validate = Bitbucket.Key.validate := rfl

/-- Both services check pull requests alike. -/
theorem Pull.validate_eq_bitbucket : Pull.validate = Bitbucket.Pull.validate := rfl

theorem Access.validate_eq_ok_iff (s d : TeamAccessSpec) :
    Access.validate s = .ok d ↔ d = s ∧
      ∃ w, (Service.github.table .repository).wordFor d.permission = .ok w :=
  TeamAccessSpec.wordFor_then_eq_ok_iff _ s d

end GitHub

/-! ### The nine kinds -/

/-- A description checked once is checked for good. -/
theorem RepositorySpec.normalise_normalise (s : RepositorySpec) :
    { s with description := nonEmpty (nonEmpty s.description) } =
      { s with description := nonEmpty s.description } := by
  rw [nonEmpty_nonEmpty]

theorem PullRequestSpec.normalise_normalise (s : PullRequestSpec) :
    { s with description := nonEmpty (nonEmpty s.description) } =
      { s with description := nonEmpty s.description } := by
  rw [nonEmpty_nonEmpty]

theorem DeployKeySpec.normalise_normalise (s : DeployKeySpec) :
    { s with key := normalizePublicKey (normalizePublicKey s.key) } =
      { s with key := normalizePublicKey s.key } := by
  rw [normalizePublicKey_normalizePublicKey]

/-- A checked key is written and read back as itself: its text is already in normal form. -/
theorem DeployKeySpec.eq_of_validate {s d : DeployKeySpec} (h : Bitbucket.Key.validate s = .ok d) :
    (⟨d.label, normalizePublicKey d.key, d.readOnly⟩ : DeployKeySpec) = d := by
  obtain ⟨rfl, -⟩ := (Bitbucket.Key.validate_eq_ok_iff s d).mp h
  exact DeployKeySpec.normalise_normalise s

open Resource

namespace Bitbucket

theorem repositoryKind_validatesToNormal : repositoryKind.ValidatesToNormal :=
  Kind.validatesToNormal_of_ne_recreate nofun fun _ _ =>
    revalidates_of_normalises Repo.validate_eq_ok_iff RepositorySpec.normalise_normalise

theorem Key.validate_revalidates (s d : DeployKeySpec) (h : Key.validate s = .ok d) :
    Key.validate d = .ok d :=
  revalidates_of_normalises Key.validate_eq_ok_iff DeployKeySpec.normalise_normalise h

theorem deployKeyKind_validatesToNormal (opts : PageOptions) :
    (deployKeyKind opts).ValidatesToNormal := by
  refine Kind.validatesToNormal_of_specOf_applySpec Key.validate_revalidates ?_
  intro r s d h
  show Key.specOf (Key.applySpec r d) = d
  rw [Key.specOf_applySpec]
  exact DeployKeySpec.eq_of_validate h

theorem teamAccessKind_validatesToNormal (opts : PageOptions) :
    (teamAccessKind opts).ValidatesToNormal :=
  Kind.validatesToNormal_of_ne_recreate nofun fun _ _ =>
    revalidates_of_normalises Access.validate_eq_ok_iff fun _ => rfl

theorem pullRequestKind_validatesToNormal (opts : PageOptions) :
    (pullRequestKind opts).ValidatesToNormal :=
  Kind.validatesToNormal_of_ne_recreate nofun fun _ _ =>
    revalidates_of_normalises Pull.validate_eq_ok_iff PullRequestSpec.normalise_normalise

end Bitbucket

namespace GitHub

theorem repositoryKind_validatesToNormal : repositoryKind.ValidatesToNormal :=
  Kind.validatesToNormal_of_ne_recreate nofun fun _ _ =>
    revalidates_of_normalises Repo.validate_eq_ok_iff RepositorySpec.normalise_normalise

theorem deployKeyKind_validatesToNormal (opts : PageOptions) :
    (deployKeyKind opts).ValidatesToNormal :=
  Kind.validatesToNormal_of_specOf_applySpec Bitbucket.Key.validate_revalidates
    fun _ _ _ h => DeployKeySpec.eq_of_validate h

theorem teamAccessKind_validatesToNormal : teamAccessKind.ValidatesToNormal :=
  Kind.validatesToNormal_of_ne_recreate nofun fun _ _ =>
    revalidates_of_normalises Access.validate_eq_ok_iff fun _ => rfl

theorem pullRequestKind_validatesToNormal (opts : PageOptions) :
    (pullRequestKind opts).ValidatesToNormal :=
  Kind.validatesToNormal_of_ne_recreate nofun fun _ _ =>
    revalidates_of_normalises Bitbucket.Pull.validate_eq_ok_iff
      PullRequestSpec.normalise_normalise

end GitHub

/-- The in-memory store checks nothing, and under the recreate strategy writes a spec by
replacing the stored one. -/
theorem Resource.storeKind_validatesToNormal {α : Type} [DecidableEq α] [Spec α]
    (strategy : Strategy) : (storeKind (α := α) strategy).ValidatesToNormal where
  revalidate _ _ _ := rfl
  rederive hs _ _ _ _ := by
    change strategy = .recreate at hs
    subst hs
    rfl

/-- For each of the nine kinds, a spec the check accepted passes it again unchanged, and a
recreating kind re-derives the checked spec from the raw form it wrote; the two normalisations
behind the checks are idempotent; and so the create a reconcile falls back to sends the spec
the reconcile compared. -/
theorem validation_idempotent :
    (∀ key, normalizePublicKey (normalizePublicKey key) = normalizePublicKey key) ∧
    (∀ s, nonEmpty (nonEmpty s) = nonEmpty s) ∧
    Bitbucket.repositoryKind.ValidatesToNormal ∧
    (∀ opts, (Bitbucket.deployKeyKind opts).ValidatesToNormal) ∧
    (∀ opts, (Bitbucket.teamAccessKind opts).ValidatesToNormal) ∧
    (∀ opts, (Bitbucket.pullRequestKind opts).ValidatesToNormal) ∧
    GitHub.repositoryKind.ValidatesToNormal ∧
    (∀ opts, (GitHub.deployKeyKind opts).ValidatesToNormal) ∧
    GitHub.teamAccessKind.ValidatesToNormal ∧
    (∀ opts, (GitHub.pullRequestKind opts).ValidatesToNormal) ∧
    (∀ (α : Type) [DecidableEq α] [Spec α] (strategy : Strategy),
      (storeKind (α := α) strategy).ValidatesToNormal) ∧
    ∀ {σ ι ρ α : Type} (k : Kind σ ι ρ α), k.ValidatesToNormal →
      ∀ (h : Handle ι ρ α) (d : α), (h.requireDesired k >>= k.validate) = .ok d →
        ({ h with desired := some d }.requireDesired k >>= k.validate) = .ok d :=
  ⟨normalizePublicKey_normalizePublicKey, nonEmpty_nonEmpty,
    Bitbucket.repositoryKind_validatesToNormal, Bitbucket.deployKeyKind_validatesToNormal,
    Bitbucket.teamAccessKind_validatesToNormal, Bitbucket.pullRequestKind_validatesToNormal,
    GitHub.repositoryKind_validatesToNormal, GitHub.deployKeyKind_validatesToNormal,
    GitHub.teamAccessKind_validatesToNormal, GitHub.pullRequestKind_validatesToNormal,
    fun _ _ _ => Resource.storeKind_validatesToNormal,
    fun _ hk _ _ => Handle.validate_desired_again hk.revalidate⟩

end ForgeSync
