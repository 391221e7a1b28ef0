import ForgeSync.Spec

/-!
# Satisfaction and merging agree

A desired spec acts on an actual state as an override: merging writes the fields the spec
sets and keeps the others, and satisfaction asks whether the actual state already has every
set field.  So a desired spec is satisfied by an actual state exactly when merging it there
changes nothing.  Two more laws make overrides a well-behaved algebra: applying `d` onto the
result of applying `a` is applying `d` onto `a` first, and a spec applied onto itself is
itself.  From the three laws alone follow the ones a patch reconcile relies on to converge:
merging twice is merging once, a merged state satisfies the desired spec, a spec satisfies
itself, and satisfaction is transitive.

For repositories and pull requests every optional field is an override of its own
(`mergeSet`, which is `Option.or`), checked by `unsetOrEq`; deploy keys and team access have
no optional field, and their merge replaces the whole spec.

Main statement: `spec_merge_coherent`, the laws for the four spec types.
-/

namespace ForgeSync

/-! ### One optional field -/

section Field

variable {β : Type}

theorem mergeSet_eq_or (d a : Option β) : mergeSet d a = d.or a := by
  cases d <;> rfl

@[simp] theorem mergeSet_self (d : Option β) : mergeSet d d = d := by
  cases d <;> rfl

theorem mergeSet_assoc (d a b : Option β) :
    mergeSet d (mergeSet a b) = mergeSet (mergeSet d a) b := by
  simp only [mergeSet_eq_or, Option.or_assoc]

/-- An unset desired value, or one equal to the actual value, is exactly one whose merge keeps
the actual value. -/
theorem unsetOrEq_iff_mergeSet_eq [DecidableEq β] (d a : Option β) :
    unsetOrEq d a = true ↔ mergeSet d a = a := by
  cases d with
  | none => simp [unsetOrEq, mergeSet]
  | some v => simp [unsetOrEq, mergeSet]

end Field

/-! ### Overrides and the laws they give -/

/-- A spec type whose merge is an override: a desired spec is satisfied exactly by the states
its merge keeps, merges compose, and a spec merged onto itself is itself. -/
structure Override (α : Type) [Spec α] : Prop where
  satisfiedBy_iff : ∀ d a : α, Spec.satisfiedBy d a = true ↔ Spec.merge d a = a
  merge_merge : ∀ d a b : α, Spec.merge d (Spec.merge a b) = Spec.merge (Spec.merge d a) b
  merge_self : ∀ d : α, Spec.merge d d = d

/-- The laws under which satisfaction and merging agree: satisfaction is "merging changes
nothing", merging is idempotent, a merged state satisfies the desired spec, equal specs
satisfy each other, and satisfaction is transitive. -/
structure MergeLaws (α : Type) [Spec α] : Prop where
  satisfiedBy_iff : ∀ d a : α, Spec.satisfiedBy d a = true ↔ Spec.merge d a = a
  merge_idem : ∀ d a : α, Spec.merge d (Spec.merge d a) = Spec.merge d a
  satisfiedBy_merge : ∀ d a : α, Spec.satisfiedBy d (Spec.merge d a) = true
  satisfiedBy_of_eq : ∀ d a : α, d = a → Spec.satisfiedBy d a = true
  satisfiedBy_trans : ∀ d a b : α,
    Spec.satisfiedBy d a = true → Spec.satisfiedBy a b = true → Spec.satisfiedBy d b = true

namespace Override

variable {α : Type} [Spec α] (h : Override α)
include h

theorem merge_idem (d a : α) : Spec.merge d (Spec.merge d a) = Spec.merge d a := by
  rw [h.merge_merge, h.merge_self]

theorem satisfiedBy_merge (d a : α) : Spec.satisfiedBy d (Spec.merge d a) = true :=
  (h.satisfiedBy_iff d _).mpr (h.merge_idem d a)

theorem satisfiedBy_self (d : α) : Spec.satisfiedBy d d = true :=
  (h.satisfiedBy_iff d d).mpr (h.merge_self d)

/-- If `a` keeps `d` and `b` keeps `a`, then `b` keeps `d`: merging `d` onto `b` is merging
`d` onto `a` onto `b`. -/
theorem satisfiedBy_trans {d a b : α} (hda : Spec.satisfiedBy d a = true)
    (hab : Spec.satisfiedBy a b = true) : Spec.satisfiedBy d b = true := by
  have hda' : Spec.merge d a = a := (h.satisfiedBy_iff d a).mp hda
  have hab' : Spec.merge a b = b := (h.satisfiedBy_iff a b).mp hab
  apply (h.satisfiedBy_iff d b).mpr
  calc Spec.merge d b = Spec.merge d (Spec.merge a b) := by rw [hab']
    _ = Spec.merge (Spec.merge d a) b := h.merge_merge d a b
    _ = b := by rw [hda', hab']

theorem mergeLaws : MergeLaws α where
  satisfiedBy_iff := h.satisfiedBy_iff
  merge_idem := h.merge_idem
  satisfiedBy_merge := h.satisfiedBy_merge
  satisfiedBy_of_eq d _ hd := hd ▸ h.satisfiedBy_self d
  satisfiedBy_trans _ _ _ := h.satisfiedBy_trans

end Override

/-! ### The four spec types -/

/-- A spec type whose merge replaces and whose satisfaction is equality is an override. -/
theorem override_of_replace {α : Type} [DecidableEq α] [Spec α]
    (hs : ∀ d a : α, Spec.satisfiedBy d a = decide (d = a)) (hm : ∀ d a : α, Spec.merge d a = d) :
    Override α where
  satisfiedBy_iff d a := by rw [hs, hm, decide_eq_true_iff]
  merge_merge d a b := by rw [hm, hm, hm]
  merge_self d := hm d d

theorem repositorySpec_override : Override RepositorySpec where
  satisfiedBy_iff d a := by
    obtain ⟨name, description, branch, visibility⟩ := d
    obtain ⟨name', description', branch', visibility'⟩ := a
    simp only [Spec.satisfiedBy, Spec.merge, Bool.and_eq_true, beq_iff_eq,
      unsetOrEq_iff_mergeSet_eq, RepositorySpec.mk.injEq, and_assoc]
  merge_merge d a b := by
    simp only [Spec.merge, mergeSet_assoc]
  merge_self d := by
    simp only [Spec.merge, mergeSet_self]

theorem pullRequestSpec_override : Override PullRequestSpec where
  satisfiedBy_iff d a := by
    obtain ⟨title, description, source, target⟩ := d
    obtain ⟨title', description', source', target'⟩ := a
    simp only [Spec.satisfiedBy, Spec.merge, Bool.and_eq_true, beq_iff_eq,
      unsetOrEq_iff_mergeSet_eq, PullRequestSpec.mk.injEq, and_assoc]
    -- the description is checked last but merged second
    constructor
    · rintro ⟨ht, hs, hg, hd⟩
      exact ⟨ht, hd, hs, hg⟩
    · rintro ⟨ht, hd, hs, hg⟩
      exact ⟨ht, hs, hg, hd⟩
  merge_merge d a b := by
    simp only [Spec.merge, mergeSet_assoc]
  merge_self d := by
    simp only [Spec.merge, mergeSet_self]

theorem deployKeySpec_override : Override DeployKeySpec :=
  override_of_replace (fun _ _ => rfl) (fun _ _ => rfl)

theorem teamAccessSpec_override : Override TeamAccessSpec :=
  override_of_replace (fun _ _ => rfl) (fun _ _ => rfl)

/-- For every spec type, a desired spec is satisfied exactly when merging it changes nothing;
merging twice is merging once, so a merged state satisfies the desired spec; equal specs
satisfy each other; and satisfaction is transitive. -/
theorem spec_merge_coherent :
    MergeLaws RepositorySpec ∧ MergeLaws DeployKeySpec ∧ MergeLaws TeamAccessSpec ∧
      MergeLaws PullRequestSpec :=
  ⟨repositorySpec_override.mergeLaws, deployKeySpec_override.mergeLaws,
    teamAccessSpec_override.mergeLaws, pullRequestSpec_override.mergeLaws⟩

end ForgeSync
