import ForgeSync.Proofs.Establish
import Mathlib.Logic.Function.Basic

/-!
# The PATCH body of a GitHub update

GitHub repositories and pull requests are updated by a PATCH whose body is the map of fields
staged in the raw form.  Writing a spec into a raw form stages a field when the spec sets it
to a text other than the one the raw form holds; a field staged twice keeps its last text.

Both kinds write their fields one after another in the same way, so the theory is stated once
for a list of field writes (`stageAll`): what the patch holds after them (`mem_stageAll`), when
it stays empty (`stageAll_eq_nil_iff`), and that every staged field holds the field's text as
the writes leave it (`stageAll_current`).  Each kind's `applySpec` is such a list of writes.

Main statements:

* `staged_patch_is_difference`: after any number of writes into a raw form as it was read,
  every staged field holds the field's current text; after one write of a validated spec, each
  staged field is one on which the spec and the read raw form differ, and the patch is empty
  exactly when the raw form already satisfies the spec, for pull requests read by the spec's
  source branch and for repositories unless the spec asks for an empty default branch where
  the repository names none.
* `repository_blank_default_branch_unstaged`: such a spec is unsatisfied, yet stages nothing.
-/

namespace ForgeSync

/-! ### Fields of specs and optional texts -/

theorem Visibility.name_inj {a b : Visibility} : a.name = b.name ↔ a = b := by
  cases a <;> cases b <;> decide

/-- Whether two repository specs differ on the field a PATCH key names. -/
def RepositorySpec.differsAt (a b : RepositorySpec) : String → Bool
  | "name" => decide (a.name ≠ b.name)
  | "description" => decide (a.description ≠ b.description)
  | "default_branch" => decide (a.defaultBranch ≠ b.defaultBranch)
  | "visibility" => decide (a.visibility ≠ b.visibility)
  | _ => false

/-- Whether two pull request specs differ on the field a PATCH key names. -/
def PullRequestSpec.differsAt (a b : PullRequestSpec) : String → Bool
  | "title" => decide (a.title ≠ b.title)
  | "body" => decide (a.description ≠ b.description)
  | "base" => decide (a.targetBranch ≠ b.targetBranch)
  | _ => false

/-- A text that is kept once blanks count as absent is not blank. -/
theorem nonEmpty_blank_false {o : Option String} {t : String} (h : nonEmpty o = some t) :
    Text.isBlankText t = false := by
  simp only [nonEmpty, Option.filter_eq_some_iff] at h
  simpa using h.2

/-- A set text that is not blank is the text an optional field holds, with an absent field
read as empty, exactly when the field holds it once blanks count as absent. -/
theorem getD_eq_iff_nonEmpty {o : Option String} {t : String} (ht : Text.isBlankText t = false) :
    o.getD "" = t ↔ nonEmpty o = some t := by
  cases o with
  | none =>
    -- the empty text is blank, so it is not `t`
    have hempty : ("" : String) ≠ t := fun h => by
      rw [← h] at ht
      cases ht
    simp [nonEmpty, hempty]
  | some u =>
    simp only [Option.getD_some, nonEmpty, Option.filter_some]
    split
    · simp
    · -- a blank text is not the set one
      simp only [reduceCtorEq, iff_false]
      rintro rfl
      simp_all

/-- A text a spec sets once blanks count as absent is the one a field holds read blank-as-absent
exactly when it is the one the field holds read empty-when-absent. -/
theorem unsetOrEq_nonEmpty_iff (u o : Option String) :
    unsetOrEq (nonEmpty u) (nonEmpty o) = true ↔ ∀ t, nonEmpty u = some t → o.getD "" = t := by
  rw [unsetOrEq_iff]
  refine forall_congr' fun t => imp_congr_right fun ht => ?_
  rw [getD_eq_iff_nonEmpty (nonEmpty_blank_false ht)]

namespace GitHub

/-! ### Staging one field -/

section Stage

variable {patch : List (String × Json)} {key current value : String}

/-- Staging keeps the patch when the text is unchanged, and otherwise replaces the field's
entry by the new text. -/
theorem mem_stage {e : String × Json} :
    e ∈ stage patch key current value ↔
      if current = value then e ∈ patch else (e ∈ patch ∧ e.1 ≠ key) ∨ e = (key, .str value) := by
  unfold stage
  by_cases h : current = value
  · simp [h]
  · simp [h, List.mem_mergeSort, List.mem_filter]

theorem stage_eq_nil_iff : stage patch key current value = [] ↔ patch = [] ∧ current = value := by
  by_cases h : current = value
  · simp [stage, h]
  · -- a changed text leaves its new entry in the patch
    have hmem : (key, Json.str value) ∈ stage patch key current value := by
      rw [mem_stage, if_neg h]
      exact .inr rfl
    simp only [h, and_false, iff_false]
    exact List.ne_nil_of_mem hmem

end Stage

/-! ### A run of field writes -/

/-- A write of one field: its key in the PATCH body, the text the raw form holds, and the text
the spec asks for, if it sets one. -/
structure FieldWrite where
  key : String
  current : String
  desired : Option String

namespace FieldWrite

/-- Stage a write into a patch, when it sets its field. -/
def stageInto (w : FieldWrite) (patch : List (String × Json)) : List (String × Json) :=
  match w.desired with
  | some t => stage patch w.key w.current t
  | none => patch

/-- The text of every field after a write, from the texts before it. -/
def writeInto (w : FieldWrite) (view : String → Option String) : String → Option String :=
  match w.desired with
  | some t => Function.update view w.key (some t)
  | none => view

end FieldWrite

/-- Stage each write in turn. -/
def stageAll (patch : List (String × Json)) (ws : List FieldWrite) : List (String × Json) :=
  ws.foldl (fun p w => w.stageInto p) patch

/-- The text of every field after the writes, from the texts before them. -/
def writeAll (view : String → Option String) (ws : List FieldWrite) : String → Option String :=
  ws.foldl (fun v w => w.writeInto v) view

@[simp] theorem stageAll_nil (patch : List (String × Json)) : stageAll patch [] = patch := rfl

@[simp] theorem stageAll_cons (patch : List (String × Json)) (w : FieldWrite)
    (ws : List FieldWrite) : stageAll patch (w :: ws) = stageAll (w.stageInto patch) ws := rfl

@[simp] theorem writeAll_nil (view : String → Option String) : writeAll view [] = view := rfl

@[simp] theorem writeAll_cons (view : String → Option String) (w : FieldWrite)
    (ws : List FieldWrite) : writeAll view (w :: ws) = writeAll (w.writeInto view) ws := rfl

/-- Every staged field holds the text `view` gives for it. -/
def StagedCurrent (view : String → Option String) (patch : List (String × Json)) : Prop :=
  ∀ e ∈ patch, ∃ t, view e.1 = some t ∧ e.2 = .str t

section Writes

variable {view : String → Option String} {patch : List (String × Json)}

/-- A field staged with its new text keeps every staged field current, as long as the
field's text, where it has one, is the current text the staging compares with. -/
theorem stage_current {key current value : String} (hp : StagedCurrent view patch)
    (hcur : ∀ t, view key = some t → t = current) :
    StagedCurrent (Function.update view key (some value)) (stage patch key current value) := by
  intro e he
  rw [mem_stage] at he
  by_cases hcv : current = value
  · rw [if_pos hcv] at he
    obtain ⟨t, ht, he2⟩ := hp e he
    by_cases hk : e.1 = key
    · -- an entry of the field itself already holds the text the write asks for
      refine ⟨value, by simp [hk], ?_⟩
      rw [he2, hcur t (hk ▸ ht), hcv]
    · exact ⟨t, by simp [hk, ht], he2⟩
  · rw [if_neg hcv] at he
    rcases he with ⟨he, hk⟩ | rfl
    · obtain ⟨t, ht, he2⟩ := hp e he
      exact ⟨t, by simp [hk, ht], he2⟩
    · exact ⟨value, by simp, rfl⟩

namespace FieldWrite

variable (w : FieldWrite)

theorem stageInto_current (hp : StagedCurrent view patch)
    (hcur : ∀ t, view w.key = some t → t = w.current) :
    StagedCurrent (w.writeInto view) (w.stageInto patch) := by
  unfold stageInto writeInto
  split
  · exact stage_current hp hcur
  · exact hp

theorem stageInto_eq_nil_iff :
    w.stageInto patch = [] ↔ patch = [] ∧ ∀ t, w.desired = some t → w.current = t := by
  unfold stageInto
  split <;> simp_all [stage_eq_nil_iff]

theorem writeInto_of_ne {k : String} (hk : k ≠ w.key) : w.writeInto view k = view k := by
  rcases w with ⟨key, current, _ | t⟩
  · rfl
  · exact Function.update_of_ne hk _ _

theorem mem_stageInto {e : String × Json} (he : e ∈ w.stageInto patch) :
    e ∈ patch ∨ ∃ t, w.desired = some t ∧ w.current ≠ t ∧ e = (w.key, .str t) := by
  unfold stageInto at he
  split at he
  · rename_i t hd
    rw [mem_stage] at he
    by_cases hct : w.current = t
    · rw [if_pos hct] at he
      exact .inl he
    · rw [if_neg hct] at he
      rcases he with ⟨he, -⟩ | rfl
      · exact .inl he
      · exact .inr ⟨t, hd, hct, rfl⟩
  · exact .inl he

end FieldWrite

/-- Writes of distinct fields keep every staged field current, when each field's text, where it
has one, is the current text its write compares with. -/
theorem stageAll_current (ws : List FieldWrite) (hp : StagedCurrent view patch)
    (hkeys : (ws.map FieldWrite.key).Nodup)
    (hcur : ∀ w ∈ ws, ∀ t, view w.key = some t → t = w.current) :
    StagedCurrent (writeAll view ws) (stageAll patch ws) := by
  -- induction on the writes, over every view and patch; a later write's field is untouched
  -- by the earlier ones, so its current text is still the one it compares with
  induction ws generalizing view patch with
  | nil => exact hp
  | cons w ws ih =>
    rw [List.map_cons, List.nodup_cons] at hkeys
    rw [stageAll_cons, writeAll_cons]
    refine ih (w.stageInto_current hp (hcur w List.mem_cons_self)) hkeys.2 fun w' hw' t ht => ?_
    have hne : w'.key ≠ w.key := fun h => hkeys.1 (h ▸ List.mem_map_of_mem hw')
    rw [w.writeInto_of_ne hne] at ht
    exact hcur w' (List.mem_cons_of_mem w hw') t ht

/-- The writes leave the patch empty exactly when it was empty and no write asks for a text
other than the current one. -/
theorem stageAll_eq_nil_iff (ws : List FieldWrite) :
    stageAll patch ws = [] ↔ patch = [] ∧ ∀ w ∈ ws, ∀ t, w.desired = some t → w.current = t := by
  induction ws generalizing patch with
  | nil => simp
  | cons w ws ih =>
    rw [stageAll_cons, ih, w.stageInto_eq_nil_iff, List.forall_mem_cons, and_assoc]

/-- A field in the patch after the writes was there before, or a write staged its new text
there because it differed from the current one. -/
theorem mem_stageAll {e : String × Json} (ws : List FieldWrite) (he : e ∈ stageAll patch ws) :
    e ∈ patch ∨ ∃ w ∈ ws, ∃ t, w.desired = some t ∧ w.current ≠ t ∧ e = (w.key, .str t) := by
  induction ws generalizing patch with
  | nil => exact .inl he
  | cons w ws ih =>
    rcases ih he with he | ⟨w', hw', t, hd, hne, rfl⟩
    · rcases w.mem_stageInto he with he | ⟨t, hd, hne, rfl⟩
      · exact .inl he
      · exact .inr ⟨w, List.mem_cons_self, t, hd, hne, rfl⟩
    · exact .inr ⟨w', List.mem_cons_of_mem w hw', t, hd, hne, rfl⟩

end Writes

/-! ### Repositories -/


/-- The text of each field of a repository, by its key in the PATCH body. -/
def RepoRecord.fieldText (r : RepoRecord) : String → Option String
  | "name" => some r.name
  | "description" => r.description
  | "default_branch" => r.defaultBranch
  | "visibility" => some r.visibility.name
  | _ => none

namespace Repo

/-- The four fields a spec writes into a repository, in the order they are staged. -/
def writes (r : RepoRecord) (s : RepositorySpec) : List FieldWrite :=
  [⟨"name", r.name, some s.name⟩, ⟨"description", r.description.getD "", s.description⟩,
    ⟨"default_branch", r.defaultBranch.getD "", s.defaultBranch⟩,
    ⟨"visibility", r.visibility.name, s.visibility.map Visibility.name⟩]

theorem applySpec_patch (r : RepoRecord) (s : RepositorySpec) :
    (applySpec r s).patch = stageAll r.patch (writes r s) := by
  rcases s with ⟨name, _ | description, _ | defaultBranch, _ | visibility⟩ <;> rfl

theorem applySpec_name (r : RepoRecord) (s : RepositorySpec) : (applySpec r s).name = s.name := by
  rcases s with ⟨name, _ | description, _ | defaultBranch, _ | visibility⟩ <;> rfl

theorem applySpec_description (r : RepoRecord) (s : RepositorySpec) :
    (applySpec r s).description = mergeSet s.description r.description := by
  rcases s with ⟨name, _ | description, _ | defaultBranch, _ | visibility⟩ <;> rfl

theorem applySpec_defaultBranch (r : RepoRecord) (s : RepositorySpec) :
    (applySpec r s).defaultBranch = mergeSet s.defaultBranch r.defaultBranch := by
  rcases s with ⟨name, _ | description, _ | defaultBranch, _ | visibility⟩ <;> rfl

/-- A visibility written into a repository is read back as itself. -/
theorem applySpec_visibility (r : RepoRecord) (s : RepositorySpec) :
    (applySpec r s).visibility = s.visibility.getD r.visibility :=
  Option.some.inj (congrArg RepositorySpec.visibility (specOf_applySpec r s))

/-- The texts of a repository's fields after a spec is written are those its writes leave. -/
theorem fieldText_applySpec (r : RepoRecord) (s : RepositorySpec) :
    (applySpec r s).fieldText = writeAll r.fieldText (writes r s) := by
  funext k
  -- one case for each key of the PATCH body and one for every other text
  rcases s with ⟨name, _ | d, _ | b, _ | v⟩ <;>
  · by_cases h1 : k = "name"
    · subst h1
      simp [RepoRecord.fieldText, writes, FieldWrite.writeInto, applySpec_name]
    by_cases h2 : k = "description"
    · subst h2
      simp [RepoRecord.fieldText, writes, FieldWrite.writeInto, applySpec_description, mergeSet]
    by_cases h3 : k = "default_branch"
    · subst h3
      simp [RepoRecord.fieldText, writes, FieldWrite.writeInto, applySpec_defaultBranch, mergeSet]
    by_cases h4 : k = "visibility"
    · subst h4
      simp [RepoRecord.fieldText, writes, FieldWrite.writeInto, applySpec_visibility]
    simp [RepoRecord.fieldText, writes, FieldWrite.writeInto, h1, h2, h3, h4]

theorem writes_keys_nodup (r : RepoRecord) (s : RepositorySpec) :
    ((writes r s).map FieldWrite.key).Nodup := by
  simp [writes]

/-- Each write compares with the text its field holds, an absent one read as empty. -/
theorem writes_current (r : RepoRecord) (s : RepositorySpec) :
    ∀ w ∈ writes r s, ∀ t, r.fieldText w.key = some t → t = w.current := by
  simp only [writes, List.mem_cons, List.not_mem_nil, or_false]
  rintro w (rfl | rfl | rfl | rfl) t ht <;> simp_all [RepoRecord.fieldText]

/-- Writing a spec keeps every staged field of a repository current. -/
theorem applySpec_current (r : RepoRecord) (s : RepositorySpec)
    (h : StagedCurrent r.fieldText r.patch) :
    StagedCurrent (applySpec r s).fieldText (applySpec r s).patch := by
  rw [fieldText_applySpec, applySpec_patch]
  exact stageAll_current _ h (writes_keys_nodup r s) (writes_current r s)

/-- Writing specs one after another keeps every staged field of a repository current. -/
theorem foldl_applySpec_current (specs : List RepositorySpec) (r : RepoRecord)
    (h : StagedCurrent r.fieldText r.patch) :
    StagedCurrent (specs.foldl applySpec r).fieldText (specs.foldl applySpec r).patch := by
  induction specs generalizing r with
  | nil => exact h
  | cons s specs ih => exact ih (applySpec r s) (applySpec_current r s h)

/-- Writing a spec into a repository with nothing staged stages nothing exactly when every
field the spec sets already holds the text it asks for, an absent one read as empty. -/
theorem applySpec_patch_eq_nil_iff {r : RepoRecord} (hr : r.patch = []) (s : RepositorySpec) :
    (applySpec r s).patch = [] ↔ r.name = s.name ∧
      (∀ t, s.description = some t → r.description.getD "" = t) ∧
      (∀ t, s.defaultBranch = some t → r.defaultBranch.getD "" = t) ∧
      (∀ v, s.visibility = some v → r.visibility = v) := by
  rw [applySpec_patch, stageAll_eq_nil_iff, hr]
  simp [writes, Visibility.name_inj]

/-- A repository satisfies a spec when it has the spec's name and every other field the spec
sets, the description once blanks count as absent. -/
theorem satisfies_iff (r : RepoRecord) (d : RepositorySpec) :
    repositoryKind.satisfies r d = true ↔ d.name = r.name ∧
      unsetOrEq d.description (nonEmpty r.description) = true ∧
      unsetOrEq d.defaultBranch r.defaultBranch = true ∧
      (∀ v, d.visibility = some v → r.visibility = v) := by
  show Strategy.patch.satisfied d (specOf r) = true ↔ _
  rw [Strategy.satisfied_patch, RepositorySpec.satisfiedBy_iff, unsetOrEq_iff d.visibility]
  simp only [specOf, Option.some.injEq]

/-- Writing a validated spec into a repository as it was read stages nothing exactly when the
repository satisfies the spec, except for a spec that asks for an empty default branch where
the repository names none: that one is unsatisfied and stages nothing. -/
theorem satisfies_eq_false_iff {s d : RepositorySpec} (hv : validate s = .ok d) {r : RepoRecord}
    (hr : r.patch = []) :
    repositoryKind.satisfies r d = false ↔
      (applySpec r d).patch ≠ [] ∨ (d.defaultBranch = some "" ∧ r.defaultBranch = none) := by
  -- a description the spec sets is not blank, so reading it empty or blank-as-absent agree
  have hdesc : unsetOrEq d.description (nonEmpty r.description) = true ↔
      ∀ t, d.description = some t → r.description.getD "" = t := by
    rw [validate_eq_ok hv]
    exact unsetOrEq_nonEmpty_iff s.description r.description
  -- a default branch is compared as it is, but staged against an absent one read as empty
  have hbranch : unsetOrEq d.defaultBranch r.defaultBranch = true ↔
      (∀ t, d.defaultBranch = some t → r.defaultBranch.getD "" = t) ∧
        ¬(d.defaultBranch = some "" ∧ r.defaultBranch = none) := by
    rcases d.defaultBranch with _ | t <;> rcases r.defaultBranch with _ | u <;>
      simp [unsetOrEq, eq_comm]
  rw [← Bool.not_eq_true, satisfies_iff, hdesc, hbranch, ne_eq, applySpec_patch_eq_nil_iff hr,
    eq_comm (a := d.name)]
  by_cases hE : d.defaultBranch = some "" ∧ r.defaultBranch = none
  · exact iff_of_true (fun h => h.2.2.1.2 hE) (.inr hE)
  · simp only [hE, not_false_eq_true, and_true, or_false]

/-- Every field a write into a repository as it was read stages is one on which the spec and
the repository differ. -/
theorem differsAt_of_mem_patch {r : RepoRecord} (hr : r.patch = []) (d : RepositorySpec)
    {e : String × Json} (he : e ∈ (applySpec r d).patch) :
    d.differsAt (specOf r) e.1 = true := by
  rw [applySpec_patch, hr] at he
  rcases mem_stageAll _ he with he | ⟨w, hw, t, hd, hne, rfl⟩
  · cases he
  simp only [writes, List.mem_cons, List.not_mem_nil, or_false] at hw
  rcases hw with rfl | rfl | rfl | rfl <;> simp only [RepositorySpec.differsAt] <;>
    rw [decide_eq_true_iff] <;> simp only [specOf] at hd hne ⊢
  · cases hd
    exact fun h => hne h.symm
  · -- a description shows unless blank, so one the spec sets differently is not shown
    rw [hd]
    intro h
    exact hne ((getD_eq_iff_nonEmpty (nonEmpty_blank_false h.symm)).mpr h.symm)
  · rw [hd]
    intro h
    exact hne (by rw [← h]; rfl)
  · obtain ⟨v, hv, rfl⟩ := Option.map_eq_some_iff.mp hd
    rw [hv]
    intro h
    exact hne (Visibility.name_inj.mpr (Option.some.inj h).symm)

end Repo

/-! ### Pull requests -/

/-- The text of each field of a pull request, by its key in the PATCH body. -/
def PullRecord.fieldText (p : PullRecord) : String → Option String
  | "title" => some p.title
  | "body" => p.body
  | "base" => some p.base
  | _ => none

namespace Pull

/-- The three fields a spec writes into a pull request, in the order they are staged. -/
def writes (p : PullRecord) (s : PullRequestSpec) : List FieldWrite :=
  [⟨"title", p.title, some s.title⟩, ⟨"body", p.body.getD "", s.description⟩,
    ⟨"base", p.base, some s.targetBranch⟩]

theorem applySpec_patch (p : PullRecord) (s : PullRequestSpec) :
    (applySpec p s).patch = stageAll p.patch (writes p s) := by
  rcases s with ⟨title, _ | description, source, target⟩ <;> rfl

theorem applySpec_title (p : PullRecord) (s : PullRequestSpec) :
    (applySpec p s).title = s.title := by
  rcases s with ⟨title, _ | description, source, target⟩ <;> rfl

theorem applySpec_body (p : PullRecord) (s : PullRequestSpec) :
    (applySpec p s).body = mergeSet s.description p.body := by
  rcases s with ⟨title, _ | description, source, target⟩ <;> rfl

theorem applySpec_base (p : PullRecord) (s : PullRequestSpec) :
    (applySpec p s).base = s.targetBranch := by
  rcases s with ⟨title, _ | description, source, target⟩ <;> rfl

/-- The texts of a pull request's fields after a spec is written are those its writes leave. -/
theorem fieldText_applySpec (p : PullRecord) (s : PullRequestSpec) :
    (applySpec p s).fieldText = writeAll p.fieldText (writes p s) := by
  funext k
  -- one case for each key of the PATCH body and one for every other text
  rcases s with ⟨title, _ | d, source, target⟩ <;>
  · by_cases h1 : k = "title"
    · subst h1
      simp [PullRecord.fieldText, writes, FieldWrite.writeInto, applySpec_title]
    by_cases h2 : k = "body"
    · subst h2
      simp [PullRecord.fieldText, writes, FieldWrite.writeInto, applySpec_body, mergeSet]
    by_cases h3 : k = "base"
    · subst h3
      simp [PullRecord.fieldText, writes, FieldWrite.writeInto, applySpec_base]
    simp [PullRecord.fieldText, writes, FieldWrite.writeInto, h1, h2, h3]

theorem writes_keys_nodup (p : PullRecord) (s : PullRequestSpec) :
    ((writes p s).map FieldWrite.key).Nodup := by
  simp [writes]

/-- Each write compares with the text its field holds, an absent one read as empty. -/
theorem writes_current (p : PullRecord) (s : PullRequestSpec) :
    ∀ w ∈ writes p s, ∀ t, p.fieldText w.key = some t → t = w.current := by
  simp only [writes, List.mem_cons, List.not_mem_nil, or_false]
  rintro w (rfl | rfl | rfl) t ht <;> simp_all [PullRecord.fieldText]

/-- Writing a spec keeps every staged field of a pull request current. -/
theorem applySpec_current (p : PullRecord) (s : PullRequestSpec)
    (h : StagedCurrent p.fieldText p.patch) :
    StagedCurrent (applySpec p s).fieldText (applySpec p s).patch := by
  rw [fieldText_applySpec, applySpec_patch]
  exact stageAll_current _ h (writes_keys_nodup p s) (writes_current p s)

/-- Writing specs one after another keeps every staged field of a pull request current. -/
theorem foldl_applySpec_current (specs : List PullRequestSpec) (p : PullRecord)
    (h : StagedCurrent p.fieldText p.patch) :
    StagedCurrent (specs.foldl applySpec p).fieldText (specs.foldl applySpec p).patch := by
  induction specs generalizing p with
  | nil => exact h
  | cons s specs ih => exact ih (applySpec p s) (applySpec_current p s h)

/-- Writing a spec into a pull request with nothing staged stages nothing exactly when the
title, the target and a description the spec sets already hold the texts it asks for, an
absent description read as empty. -/
theorem applySpec_patch_eq_nil_iff {p : PullRecord} (hp : p.patch = []) (s : PullRequestSpec) :
    (applySpec p s).patch = [] ↔ p.title = s.title ∧
      (∀ t, s.description = some t → p.body.getD "" = t) ∧ p.base = s.targetBranch := by
  rw [applySpec_patch, stageAll_eq_nil_iff, hp]
  simp [writes]

/-- Writing a validated spec into a pull request read by its source branch, with nothing
staged, stages nothing exactly when the pull request satisfies the spec. -/
theorem satisfies_eq_false_iff {s d : PullRequestSpec} (hv : validate s = .ok d)
    (opts : PageOptions) {p : PullRecord} (hp : p.patch = []) (hsource : d.sourceBranch = p.head) :
    (pullRequestKind opts).satisfies p d = false ↔ (applySpec p d).patch ≠ [] := by
  -- a description the spec sets is not blank, so reading it empty or blank-as-absent agree
  have hdesc : unsetOrEq d.description (nonEmpty p.body) = true ↔
      ∀ t, d.description = some t → p.body.getD "" = t := by
    rw [validate_eq_ok hv]
    exact unsetOrEq_nonEmpty_iff s.description p.body
  have hsat : (pullRequestKind opts).satisfies p d = true ↔ d.title = p.title ∧
      d.targetBranch = p.base ∧ unsetOrEq d.description (nonEmpty p.body) = true := by
    show Strategy.patch.satisfied d (specOf p) = true ↔ _
    rw [Strategy.satisfied_patch, PullRequestSpec.satisfiedBy_iff]
    simp only [specOf, hsource, true_and]
  rw [← Bool.not_eq_true, hsat, hdesc, ne_eq, applySpec_patch_eq_nil_iff hp, eq_comm (a := d.title),
    eq_comm (a := d.targetBranch)]
  exact not_congr (and_congr_right' and_comm)

/-- Every field a write into a pull request as it was read stages is one on which the spec
and the pull request differ. -/
theorem differsAt_of_mem_patch {p : PullRecord} (hp : p.patch = []) (d : PullRequestSpec)
    {e : String × Json} (he : e ∈ (applySpec p d).patch) :
    d.differsAt (specOf p) e.1 = true := by
  rw [applySpec_patch, hp] at he
  rcases mem_stageAll _ he with he | ⟨w, hw, t, hd, hne, rfl⟩
  · cases he
  simp only [writes, List.mem_cons, List.not_mem_nil, or_false] at hw
  rcases hw with rfl | rfl | rfl <;> simp only [PullRequestSpec.differsAt] <;>
    rw [decide_eq_true_iff] <;> simp only [specOf] at hd hne ⊢
  · cases hd
    exact fun h => hne h.symm
  · -- a body shows unless blank, so one the spec sets differently is not shown
    rw [hd]
    intro h
    exact hne ((getD_eq_iff_nonEmpty (nonEmpty_blank_false h.symm)).mpr h.symm)
  · cases hd
    exact fun h => hne h.symm

end Pull

/-! ### The PATCH body -/

/-- The PATCH body a GitHub update sends is the difference a write makes.  After any writes
into a repository or pull request as it was read, every staged field holds the field's
current text.  After one write of a validated spec, every staged field is one on which the
spec and the read raw form differ, and the write stages something exactly when the raw form
does not satisfy the spec: for a pull request read by the spec's source branch always, and for
a repository except when the spec asks for an empty default branch where the repository
names none, which is unsatisfied and stages nothing. -/
theorem staged_patch_is_difference (opts : PageOptions) :
    (∀ (r : RepoRecord) (specs : List RepositorySpec), r.patch = [] →
      StagedCurrent (specs.foldl repositoryKind.applySpec r).fieldText
        (specs.foldl repositoryKind.applySpec r).patch) ∧
    (∀ (p : PullRecord) (specs : List PullRequestSpec), p.patch = [] →
      StagedCurrent (specs.foldl (pullRequestKind opts).applySpec p).fieldText
        (specs.foldl (pullRequestKind opts).applySpec p).patch) ∧
    (∀ (r : RepoRecord) (s d : RepositorySpec), r.patch = [] → repositoryKind.validate s = .ok d →
      (repositoryKind.satisfies r d = false ↔ (repositoryKind.applySpec r d).patch ≠ [] ∨
        (d.defaultBranch = some "" ∧ r.defaultBranch = none)) ∧
      ∀ e ∈ (repositoryKind.applySpec r d).patch, d.differsAt (repositoryKind.specOf r) e.1) ∧
    (∀ (p : PullRecord) (s d : PullRequestSpec), p.patch = [] →
      (pullRequestKind opts).validate s = .ok d → d.sourceBranch = p.head →
      ((pullRequestKind opts).satisfies p d = false ↔
        ((pullRequestKind opts).applySpec p d).patch ≠ []) ∧
      ∀ e ∈ ((pullRequestKind opts).applySpec p d).patch,
        d.differsAt ((pullRequestKind opts).specOf p) e.1) := by
  -- nothing is staged in a raw form as it was read
  have hnil (view : String → Option String) : StagedCurrent view [] := fun _ he => by cases he
  refine ⟨fun r specs hr => ?_, fun p specs hp => ?_, fun r s d hr hv => ?_,
    fun p s d hp hv hsource => ?_⟩
  · exact Repo.foldl_applySpec_current specs r (hr ▸ hnil r.fieldText)
  · exact Pull.foldl_applySpec_current specs p (hp ▸ hnil p.fieldText)
  · exact ⟨Repo.satisfies_eq_false_iff hv hr, fun e he => Repo.differsAt_of_mem_patch hr d he⟩
  · exact ⟨Pull.satisfies_eq_false_iff hv opts hp hsource,
      fun e he => Pull.differsAt_of_mem_patch hp d he⟩

/-- The theorem at a renamed and described repository and a retitled pull request. -/
theorem staged_patch_is_difference_renamed :
    let r : RepoRecord := { name := "svc", owner := "acme" }
    let s : RepositorySpec := { name := "billing", description := some "Payments" }
    let p : PullRecord := { title := "T", head := "feature", base := "main" }
    let q : PullRequestSpec := { title := "X", sourceBranch := "feature", targetBranch := "main" }
    (r.patch = [] ∧ StagedCurrent ([s].foldl repositoryKind.applySpec r).fieldText
        ([s].foldl repositoryKind.applySpec r).patch) ∧
    (p.patch = [] ∧ StagedCurrent ([q].foldl (pullRequestKind {}).applySpec p).fieldText
        ([q].foldl (pullRequestKind {}).applySpec p).patch) ∧
    (r.patch = [] ∧ repositoryKind.validate s = .ok s ∧
      (repositoryKind.satisfies r s = false ↔ (repositoryKind.applySpec r s).patch ≠ [] ∨
        (s.defaultBranch = some "" ∧ r.defaultBranch = none))) ∧
    (p.patch = [] ∧ (pullRequestKind {}).validate q = .ok q ∧ q.sourceBranch = p.head ∧
      ((pullRequestKind {}).satisfies p q = false ↔
        ((pullRequestKind {}).applySpec p q).patch ≠ [])) := by
  have h := staged_patch_is_difference {}
  -- the validations are computed on the literal specs
  dsimp only
  exact ⟨⟨rfl, h.1 _ _ rfl⟩, ⟨rfl, h.2.1 _ _ rfl⟩, ⟨rfl, rfl,
      (h.2.2.1 _ { name := "billing", description := some "Payments" } _ rfl rfl).1⟩,
    ⟨rfl, rfl, rfl,
      (h.2.2.2 _ { title := "X", sourceBranch := "feature", targetBranch := "main" } _
        rfl rfl rfl).1⟩⟩

/-- A repository that names no default branch, and a spec that asks for an empty one: the spec
validates as it is and the repository does not satisfy it, yet writing it stages nothing. -/
theorem repository_blank_default_branch_unstaged :
    let r : RepoRecord := { id := some 7, name := "svc", owner := "acme",
                            visibilityWord := some "public" }
    let d : RepositorySpec := { name := "svc", defaultBranch := some "" }
    repositoryKind.validate d = .ok d ∧ repositoryKind.satisfies r d = false ∧
      (repositoryKind.applySpec r d).patch = [] :=
  ⟨rfl, rfl, rfl⟩

end GitHub

end ForgeSync
