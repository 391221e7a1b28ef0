import ForgeSync.Bitbucket.Kinds
import ForgeSync.GitHub.Kinds
import ForgeSync.Proofs.EffectiveLevel
import ForgeSync.Proofs.NormalForm
import ForgeSync.Proofs.Reconcile

/-!
# Writes establish the desired state

A reconcile that finds a resource unsatisfied writes the validated desired spec into the raw
form it fetched and sends that.  When the service takes the raw form as sent, the next
reconcile reads it back, and changes nothing again exactly when the kind's `satisfies` accepts
the written raw form for the spec.  `EstablishesWhen` says when that happens, over every raw
form and every spec that validates.

On five of the eight kinds of the two services it always happens, and on GitHub pull requests
it does for a raw form read by the spec's source branch.  On Bitbucket Server it fails for
branch names written as full refs under `refs/heads/`: the service shows a branch by its short
name, so a repository's default branch or a pull request's branches given that way come back
shortened and no longer equal the desired ones.

Main statements:

* `write_establishes_validated`: the exact condition for each of the eight kinds.
* `stash_full_ref_default_branch_unsatisfied`: a Bitbucket Server repository whose desired
  default branch is `refs/heads/develop` is not satisfied by the raw form its write sends.
-/

namespace ForgeSync

/-! ## Satisfaction, field by field -/

theorem unsetOrEq_iff {β : Type} [DecidableEq β] (d a : Option β) :
    unsetOrEq d a = true ↔ ∀ v, d = some v → a = some v := by
  cases d with
  | none => simp [unsetOrEq]
  | some v => simp [unsetOrEq, eq_comm]

theorem RepositorySpec.satisfiedBy_iff (d a : RepositorySpec) :
    Spec.satisfiedBy d a = true ↔ d.name = a.name ∧
      unsetOrEq d.description a.description = true ∧
      unsetOrEq d.defaultBranch a.defaultBranch = true ∧
      unsetOrEq d.visibility a.visibility = true := by
  simp only [Spec.satisfiedBy, Bool.and_eq_true, beq_iff_eq, and_assoc]

theorem PullRequestSpec.satisfiedBy_iff (d a : PullRequestSpec) :
    Spec.satisfiedBy d a = true ↔ d.title = a.title ∧ d.sourceBranch = a.sourceBranch ∧
      d.targetBranch = a.targetBranch ∧ unsetOrEq d.description a.description = true := by
  simp only [Spec.satisfiedBy, Bool.and_eq_true, beq_iff_eq, and_assoc]

@[simp] theorem Strategy.satisfied_patch {α : Type} [DecidableEq α] [Spec α] (d a : α) :
    Strategy.patch.satisfied d a = Spec.satisfiedBy d a := rfl

@[simp] theorem Strategy.satisfied_replace {α : Type} [DecidableEq α] [Spec α] (d a : α) :
    Strategy.replace.satisfied d a = decide (d = a) := rfl

/-- A normalised description, written over any other, reads back as itself. -/
theorem unsetOrEq_nonEmpty_mergeSet (x p : Option String) :
    unsetOrEq (nonEmpty x) (nonEmpty (mergeSet (nonEmpty x) p)) = true := by
  rw [unsetOrEq_iff]
  intro v hv
  rw [hv, mergeSet, ← hv, nonEmpty_nonEmpty]

/-- A value written over any other and read back through `f` is as desired exactly when `f`
keeps it. -/
theorem unsetOrEq_map_mergeSet_iff {β : Type} [DecidableEq β] (f : β → β) (o p : Option β) :
    unsetOrEq o ((mergeSet o p).map f) = true ↔ ∀ v, o = some v → f v = v := by
  rw [unsetOrEq_iff]
  cases o with
  | none => simp
  | some v => simp [mergeSet]

/-! ## Levels -/

namespace Level

/-- The higher of a level and an optional one is the level itself, unless the optional one is
above it. -/
theorem maxOpt_some (p : Level) (o : Option Level) :
    maxOpt (some p) o = some p ∨ ∃ q, o = some q ∧ p < q := by
  cases o with
  | none => exact .inl rfl
  | some q =>
    by_cases hle : p ≤ q
    · by_cases heq : q = p
      · subst heq
        exact .inl (by simp [maxOpt, maxWith])
      · have hord : p.ordinal ≠ q.ordinal := fun h => heq (ordinal_injective h).symm
        exact .inr ⟨q, rfl, Nat.lt_of_le_of_ne hle hord⟩
    · exact .inl (by simp [maxOpt, maxWith, hle])

end Level

/-! ## Kinds -/

namespace Resource

variable {σ ι ρ α : Type}

/-- Writing a validated spec `d'` into any raw form `r` read by its reference (`readBy r d'`)
gives a raw form the kind accepts for `d'` exactly when `holds d'`. -/
def EstablishesWhen (k : Kind σ ι ρ α) (readBy : ρ → α → Prop) (holds : α → Prop) : Prop :=
  ∀ r d d', k.validate d = .ok d' → readBy r d' →
    (k.satisfies (k.applySpec r d') d' = true ↔ holds d')

/-- Writing a validated spec into any raw form read by its reference always establishes it. -/
def Establishes (k : Kind σ ι ρ α) (readBy : ρ → α → Prop) : Prop :=
  EstablishesWhen k readBy (fun _ => True)

theorem establishes_of_satisfies {k : Kind σ ι ρ α} {readBy : ρ → α → Prop}
    (h : ∀ r d d', k.validate d = .ok d' → readBy r d' →
      k.satisfies (k.applySpec r d') d' = true) :
    Establishes k readBy :=
  fun r d d' hv hr => iff_of_true (h r d d' hv hr) trivial

end Resource

/-! ## Bitbucket Server -/

namespace Bitbucket

open Resource

namespace Repo

theorem validate_eq_ok {s d : RepositorySpec} (h : validate s = .ok d) :
    d = { s with description := nonEmpty s.description } ∧ d.visibility ≠ some .internal := by
  unfold validate at h
  simp only [bind, Except.bind, pure, Except.pure] at h
  split at h
  · cases h
  · split at h
    · cases h
    · rename_i hinternal
      cases h
      refine ⟨rfl, fun hv => hinternal ?_⟩
      rw [hv]
      rfl

theorem applySpec_description (r : RepoRecord) (s : RepositorySpec) :
    (applySpec r s).description = mergeSet s.description r.description := by
  rcases s with ⟨name, _ | description, defaultBranch, visibility⟩ <;> rfl

theorem applySpec_defaultBranch (r : RepoRecord) (s : RepositorySpec) :
    (applySpec r s).defaultBranch = mergeSet s.defaultBranch r.defaultBranch := by
  rcases s with ⟨name, description, _ | defaultBranch, visibility⟩ <;> rfl

/-- A visibility the service has is written as the flag and read back as itself. -/
theorem applySpec_visibility (r : RepoRecord) {s : RepositorySpec} {v : Visibility}
    (hs : s.visibility = some v) (hv : v ≠ .internal) : (applySpec r s).visibility = v := by
  cases v with
  | everyone => simp [applySpec, RepoRecord.visibility, hs]
  | restricted => simp [applySpec, RepoRecord.visibility, hs]
  | internal => exact absurd rfl hv

/-- Writing a validated spec into a repository establishes it exactly when its default branch,
if set, is not a full ref under `refs/heads/`. -/
theorem satisfies_applySpec_iff {s d : RepositorySpec} (hv : validate s = .ok d) (r : RepoRecord) :
    repositoryKind.satisfies (applySpec r d) d = true ↔
      ∀ b, d.defaultBranch = some b → "refs/heads/".isPrefixOf b = false := by
  obtain ⟨hd, hinternal⟩ := validate_eq_ok hv
  have hdesc : unsetOrEq d.description (specOf (applySpec r d)).description = true := by
    rw [specOf, applySpec_description, hd]
    exact unsetOrEq_nonEmpty_mergeSet s.description r.description
  have hvis : unsetOrEq d.visibility (specOf (applySpec r d)).visibility = true := by
    rw [unsetOrEq_iff]
    intro v hs
    rw [specOf, applySpec_visibility r hs (fun h => hinternal (hs.trans (congrArg some h)))]
  have hbranch : unsetOrEq d.defaultBranch (specOf (applySpec r d)).defaultBranch = true ↔
      ∀ b, d.defaultBranch = some b → "refs/heads/".isPrefixOf b = false := by
    rw [specOf, applySpec_defaultBranch, unsetOrEq_map_mergeSet_iff]
    simp only [branchDisplayId_eq_self_iff]
  show Strategy.patch.satisfied d (specOf (applySpec r d)) = true ↔ _
  rw [Strategy.satisfied_patch, RepositorySpec.satisfiedBy_iff, ← hbranch]
  exact ⟨fun h => h.2.2.1, fun h => ⟨rfl, hdesc, h, hvis⟩⟩

end Repo

namespace Key

theorem validate_eq_ok {s d : DeployKeySpec} (h : validate s = .ok d) :
    d = { s with key := normalizePublicKey s.key } := by
  unfold validate at h
  simp only [bind, Except.bind, pure, Except.pure] at h
  split at h
  · cases h
  · cases h
    rfl

/-- The mode is written as a permission and read back as itself. -/
theorem specOf_applySpec (k : KeyRecord) (s : DeployKeySpec) :
    specOf (applySpec k s) = ⟨s.label, normalizePublicKey s.key, s.readOnly⟩ := by
  have hread : Level.read < Level.write := by decide
  have hwrite : ¬ Level.write < Level.write := by decide
  cases hr : s.readOnly <;> simp [specOf, applySpec, KeyRecord.readOnly, hr, hread, hwrite]

/-- Writing a validated key spec into any key establishes it. -/
theorem satisfies_applySpec {s d : DeployKeySpec} (hv : validate s = .ok d) (opts : PageOptions)
    (k : KeyRecord) : (deployKeyKind opts).satisfies (applySpec k d) d = true := by
  have hspec : specOf (applySpec k d) = d := by
    rw [specOf_applySpec, validate_eq_ok hv, normalizePublicKey_normalizePublicKey]
  show Strategy.recreate.satisfied d (specOf (applySpec k d)) = true
  rw [hspec]
  exact SpecLaws.satisfied_self deployKeySpec_laws .recreate d

end Key

namespace Access

/-- Writing a level into any grant establishes it: the written level is the effective one,
unless a higher project level shadows it, which the kind accepts. -/
theorem satisfies_applySpec (g : TeamGrant) (d : TeamAccessSpec) :
    satisfies (applySpec g d) d = true := by
  rcases Level.maxOpt_some d.permission g.project with hmax | ⟨q, hq, hlt⟩
  · have hspec : specOf (applySpec g d) = d := by
      simp [specOf, applySpec, TeamGrant.effective, hmax]
    simp [satisfies, hspec]
  · have habove : above g.project d.permission = true := by
      simp [above, hq, hlt]
    simp [satisfies, applySpec, habove]

end Access

namespace Pull

theorem validate_eq_ok {s d : PullRequestSpec} (h : validate s = .ok d) :
    d = { s with description := nonEmpty s.description } := by
  unfold validate at h
  simp only [bind, Except.bind, pure, Except.pure] at h
  split at h
  · cases h
  · cases h
    rfl

/-- Writing a validated spec into a pull request read by its source branch establishes it
exactly when neither branch is a full ref under `refs/heads/`. -/
theorem satisfies_applySpec_iff {s d : PullRequestSpec} (hv : validate s = .ok d)
    (opts : PageOptions) (p : PullRecord) (hp : p.fromRef.id = branchRefId d.sourceBranch) :
    (pullRequestKind opts).satisfies (applySpec p d) d = true ↔
      "refs/heads/".isPrefixOf d.sourceBranch = false ∧
        "refs/heads/".isPrefixOf d.targetBranch = false := by
  have hdesc : nonEmpty d.description = d.description := by
    rw [validate_eq_ok hv, nonEmpty_nonEmpty]
  show Strategy.replace.satisfied d (specOf (applySpec p d)) = true ↔ _
  rw [Strategy.satisfied_replace, decide_eq_true_iff, ← branchDisplayId_branchRefId,
    ← branchDisplayId_branchRefId]
  simp only [specOf, applySpec, hp, hdesc]
  rcases d with ⟨title, description, source, target⟩
  simp only [PullRequestSpec.mk.injEq, true_and, eq_comm]

end Pull

end Bitbucket

namespace GitHub

open Resource

namespace Repo

theorem validate_eq_ok {s d : RepositorySpec} (h : validate s = .ok d) :
    d = { s with description := nonEmpty s.description } := by
  unfold validate at h
  simp only [bind, Except.bind, pure, Except.pure] at h
  split at h
  · cases h
  · cases h
    rfl

theorem specOf_applySpec (r : RepoRecord) (s : RepositorySpec) :
    specOf (applySpec r s) =
      { name := s.name
        description := nonEmpty (mergeSet s.description r.description)
        defaultBranch := mergeSet s.defaultBranch r.defaultBranch
        visibility := some (s.visibility.getD r.visibility) } := by
  -- every field a spec may leave unset, and every visibility the word is written for
  rcases s with ⟨name, _ | description, _ | defaultBranch, _ | (⟨⟩ | ⟨⟩ | ⟨⟩)⟩ <;> rfl

/-- Writing a validated spec into any repository establishes it. -/
theorem satisfies_applySpec {s d : RepositorySpec} (hv : validate s = .ok d) (r : RepoRecord) :
    repositoryKind.satisfies (applySpec r d) d = true := by
  have hdesc :
      unsetOrEq d.description (nonEmpty (mergeSet d.description r.description)) = true := by
    rw [validate_eq_ok hv]
    exact unsetOrEq_nonEmpty_mergeSet s.description r.description
  have hvis : unsetOrEq d.visibility (some (d.visibility.getD r.visibility)) = true := by
    cases d.visibility <;> simp [unsetOrEq]
  show Strategy.patch.satisfied d (specOf (applySpec r d)) = true
  rw [Strategy.satisfied_patch, RepositorySpec.satisfiedBy_iff, specOf_applySpec]
  exact ⟨rfl, hdesc, unsetOrEq_mergeSet _ _, hvis⟩

end Repo

namespace Key

theorem validate_eq_ok {s d : DeployKeySpec} (h : validate s = .ok d) :
    d = { s with key := normalizePublicKey s.key } := by
  unfold validate at h
  simp only [bind, Except.bind, pure, Except.pure] at h
  split at h
  · cases h
  · cases h
    rfl

/-- Writing a validated key spec into any key establishes it. -/
theorem satisfies_applySpec {s d : DeployKeySpec} (hv : validate s = .ok d) (opts : PageOptions)
    (k : KeyRecord) : (deployKeyKind opts).satisfies (applySpec k d) d = true := by
  have hspec : specOf (applySpec k d) = d := by
    show (⟨d.label, normalizePublicKey d.key, d.readOnly⟩ : DeployKeySpec) = d
    rw [validate_eq_ok hv, normalizePublicKey_normalizePublicKey]
  show Strategy.recreate.satisfied d (specOf (applySpec k d)) = true
  rw [hspec]
  exact SpecLaws.satisfied_self deployKeySpec_laws .recreate d

end Key

namespace Access

/-- Writing a level into any grant establishes it: the written level is the effective one,
unless a higher base permission shadows it, which the kind accepts. -/
theorem satisfies_applySpec (g : TeamGrant) (d : TeamAccessSpec) :
    satisfies (applySpec g d) d = true := by
  rcases Level.maxOpt_some d.permission g.organization with hmax | ⟨q, hq, hlt⟩
  · have hspec : specOf (applySpec g d) = d := by
      simp [specOf, applySpec, TeamGrant.effective, hmax]
    simp [satisfies, hspec]
  · have habove : above g.organization d.permission = true := by
      simp [above, hq, hlt]
    simp [satisfies, applySpec, habove]

end Access

namespace Pull

theorem validate_eq_ok {s d : PullRequestSpec} (h : validate s = .ok d) :
    d = { s with description := nonEmpty s.description } := by
  unfold validate at h
  simp only [bind, Except.bind, pure, Except.pure] at h
  split at h
  · cases h
  · cases h
    rfl

theorem specOf_applySpec (p : PullRecord) (s : PullRequestSpec) :
    specOf (applySpec p s) =
      { title := s.title
        description := nonEmpty (mergeSet s.description p.body)
        sourceBranch := p.head
        targetBranch := s.targetBranch } := by
  rcases s with ⟨title, _ | description, source, target⟩ <;> rfl

/-- Writing a validated spec into a pull request read by its source branch establishes it. -/
theorem satisfies_applySpec {s d : PullRequestSpec} (hv : validate s = .ok d) (opts : PageOptions)
    (p : PullRecord) (hp : p.head = d.sourceBranch) :
    (pullRequestKind opts).satisfies (applySpec p d) d = true := by
  have hdesc : unsetOrEq d.description (nonEmpty (mergeSet d.description p.body)) = true := by
    rw [validate_eq_ok hv]
    exact unsetOrEq_nonEmpty_mergeSet s.description p.body
  show Strategy.patch.satisfied d (specOf (applySpec p d)) = true
  rw [Strategy.satisfied_patch, PullRequestSpec.satisfiedBy_iff, specOf_applySpec, hp]
  exact ⟨rfl, rfl, rfl, hdesc⟩

end Pull

end GitHub

/-! ## The eight kinds -/

namespace Resource

/-- The write a reconcile sends establishes the validated desired spec on every kind but two:
a Bitbucket Server repository whose default branch, and a Bitbucket Server pull request one of
whose branches, is written as a full ref under `refs/heads/`. -/
theorem write_establishes_validated (opts : PageOptions) :
    EstablishesWhen Bitbucket.repositoryKind (fun _ _ => True)
        (fun d => ∀ b, d.defaultBranch = some b → "refs/heads/".isPrefixOf b = false) ∧
      Establishes (Bitbucket.deployKeyKind opts) (fun _ _ => True) ∧
      Establishes (Bitbucket.teamAccessKind opts) (fun _ _ => True) ∧
      EstablishesWhen (Bitbucket.pullRequestKind opts)
        (fun r d => r.fromRef.id = branchRefId d.sourceBranch)
        (fun d => "refs/heads/".isPrefixOf d.sourceBranch = false ∧
          "refs/heads/".isPrefixOf d.targetBranch = false) ∧
      Establishes GitHub.repositoryKind (fun _ _ => True) ∧
      Establishes (GitHub.deployKeyKind opts) (fun _ _ => True) ∧
      Establishes GitHub.teamAccessKind (fun _ _ => True) ∧
      Establishes (GitHub.pullRequestKind opts) (fun r d => r.head = d.sourceBranch) := by
  refine ⟨?_, ?_, ?_, ?_, ?_, ?_, ?_, ?_⟩
  · intro r d d' hv _
    exact Bitbucket.Repo.satisfies_applySpec_iff hv r
  · exact establishes_of_satisfies fun r _ _ hv _ => Bitbucket.Key.satisfies_applySpec hv opts r
  · exact establishes_of_satisfies fun r _ d' _ _ => Bitbucket.Access.satisfies_applySpec r d'
  · intro r d d' hv hr
    exact Bitbucket.Pull.satisfies_applySpec_iff hv opts r hr
  · exact establishes_of_satisfies fun r _ _ hv _ => GitHub.Repo.satisfies_applySpec hv r
  · exact establishes_of_satisfies fun r _ _ hv _ => GitHub.Key.satisfies_applySpec hv opts r
  · exact establishes_of_satisfies fun r _ d' _ _ => GitHub.Access.satisfies_applySpec r d'
  · exact establishes_of_satisfies fun r _ _ hv hr => GitHub.Pull.satisfies_applySpec hv opts r hr

/-- On Bitbucket Server, a repository whose desired default branch is the full ref
`refs/heads/develop` validates as it is, but the raw form its write sends shows the branch as
`develop` and does not satisfy it. -/
theorem stash_full_ref_default_branch_unsatisfied :
    Bitbucket.repositoryKind.validate
        { name := "billing", defaultBranch := some "refs/heads/develop" } =
      .ok { name := "billing", defaultBranch := some "refs/heads/develop" } ∧
    Bitbucket.repositoryKind.satisfies
        (Bitbucket.repositoryKind.applySpec
          { id := some 11, slug := "billing", name := "billing", description := some "Payments",
            defaultBranch := some "refs/heads/main" }
          { name := "billing", defaultBranch := some "refs/heads/develop" })
        { name := "billing", defaultBranch := some "refs/heads/develop" } = false := by
  have hv :
      Bitbucket.Repo.validate { name := "billing", defaultBranch := some "refs/heads/develop" } =
      .ok { name := "billing", defaultBranch := some "refs/heads/develop" } := rfl
  refine ⟨hv, Bool.eq_false_iff.mpr fun hsat => ?_⟩
  have hfull : "refs/heads/".isPrefixOf "refs/heads/develop" = true :=
    (isPrefixOf_iff_toList _ _).mpr (by decide)
  have hshort := (Bitbucket.Repo.satisfies_applySpec_iff hv _).mp hsat "refs/heads/develop" rfl
  rw [hfull] at hshort
  cases hshort

end Resource

end ForgeSync
