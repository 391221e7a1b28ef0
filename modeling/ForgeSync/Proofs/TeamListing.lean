import Mathlib.Data.List.Nodup
import ForgeSync.Client
import ForgeSync.Proofs.EffectiveLevel
import ForgeSync.Proofs.Run

/-!
# Listing and fetching team access agree on Bitbucket Server

Bitbucket Server reports a team's access as group grants on the repository and on its project.
The client reads them two ways.  Listing reads both scopes whole and merges them: the first
team of the repository grants of each name gets its project level, and the teams only the
project grants name follow (`mergeProject`).  Fetching one team asks both scopes for grants filtered by the team's
name, a filter the service applies loosely, and takes the first exact match in each.

When each scope names a team at most once and knows every word, the two agree: the listing has
one entry per team, repository teams first, and each entry's level is the effective level that
fetching the team finds, for any filtered answers that keep the team's own grants; and fetching
finds nothing exactly for the teams the listing lacks.

The proof reads both through one view of a scope's grants, `levelFor`, the level a list of
named levels gives a team: with each team named once, merging computes `withProject` (the
first team of a name is then its only one), whose every entry carries the `levelFor` of its
team in both scopes, and a filtered answer gives every team it keeps the same `levelFor` as the
whole listing.

Main statement: `listTeamAccess_agrees_with_fetch`.
-/

namespace ForgeSync

namespace Bitbucket

namespace Access

/-! ## The level a scope gives a team -/

/-- The level a list of named levels gives a team: that of the first entry naming it. -/
def levelFor (t : String) (xs : List (String × Level)) : Option Level :=
  (xs.find? (·.1 == t)).map (·.2)

@[simp] theorem levelFor_nil (t : String) : levelFor t [] = none := rfl

theorem levelFor_cons (t k : String) (l : Level) (xs : List (String × Level)) :
    levelFor t ((k, l) :: xs) = if k = t then some l else levelFor t xs := by
  by_cases h : k = t <;> simp [levelFor, h]

theorem levelFor_eq_none_iff {t : String} {xs : List (String × Level)} :
    levelFor t xs = none ↔ t ∉ xs.map (·.1) := by
  simp only [levelFor, Option.map_eq_none_iff, List.find?_eq_none, beq_iff_eq, List.mem_map,
    not_exists, not_and]

/-- With each team named once, a team's level is the one its entry gives. -/
theorem levelFor_eq_some_iff {xs : List (String × Level)} (hn : (xs.map (·.1)).Nodup)
    {t : String} {l : Level} : levelFor t xs = some l ↔ (t, l) ∈ xs := by
  constructor
  · intro h
    obtain ⟨x, hx, rfl⟩ := Option.map_eq_some_iff.1 h
    have hxt : x.1 = t := by simpa using List.find?_some hx
    rw [← hxt]
    exact List.mem_of_find?_eq_some hx
  · intro h
    cases hf : xs.find? (·.1 == t) with
    | none =>
      have := List.find?_eq_none.1 hf (t, l) h
      simp at this
    | some x =>
      -- the first entry naming the team is its only entry
      have hx := List.mem_of_find?_eq_some hf
      have hxt : x.1 = t := by simpa using List.find?_some hf
      have hxeq : x = (t, l) := List.inj_on_of_nodup_map hn hx h hxt
      simp [levelFor, hf, hxeq]

/-- A part of a list that keeps a team's entries gives the team the same level. -/
theorem levelFor_of_sublist {xs xs' : List (String × Level)} (hs : xs'.Sublist xs)
    (hn : (xs.map (·.1)).Nodup) {t : String} (hkeep : ∀ x ∈ xs, x.1 = t → x ∈ xs') :
    levelFor t xs' = levelFor t xs := by
  have hn' : (xs'.map (·.1)).Nodup := (hs.map _).nodup hn
  cases h : levelFor t xs with
  | none =>
    rw [levelFor_eq_none_iff] at h ⊢
    exact fun ht => h ((hs.map _).subset ht)
  | some l =>
    rw [levelFor_eq_some_iff hn']
    exact hkeep (t, l) ((levelFor_eq_some_iff hn).1 h) rfl

/-! ## Merging the project grants -/

/-- A team of the repository grants, with no project level yet. -/
def repositoryGrant (p : String × Level) : TeamGrant := { team := p.1, repository := some p.2 }

/-- A team only the project grants name. -/
def projectGrant (p : String × Level) : TeamGrant := { team := p.1, project := some p.2 }

/-- Project grants `B` merged into teams `T`, when `B` names each team once: each team of `T`
takes its project level from `B` when `B` has one, and the teams only `B` names follow in
`B`'s order. -/
def withProject (T : List TeamGrant) (B : List (String × Level)) : List TeamGrant :=
  T.map (fun g => { g with project := (levelFor g.team B).or g.project }) ++
    (B.filter (fun p => !T.any (·.team == p.1))).map projectGrant

theorem withProject_nil (T : List TeamGrant) : withProject T [] = T := by
  simp [withProject]

/-- One project grant of a team already listed. -/
theorem withProject_cons_listed {T : List TeamGrant} {team : String} {l : Level}
    {rest : List (String × Level)} (hnot : team ∉ rest.map (·.1))
    (hT : T.any (·.team == team) = true) :
    withProject T ((team, l) :: rest) =
      withProject (T.map (fun t => if t.team == team then { t with project := some l } else t))
        rest := by
  unfold withProject
  congr 1
  · rw [List.map_map]
    refine List.map_congr_left fun g _ => ?_
    by_cases hg : g.team = team
    · have hnone : levelFor team rest = none := levelFor_eq_none_iff.2 hnot
      simp [levelFor_cons, hg, hnone]
    · simp [levelFor_cons, Ne.symm hg, hg]
  · -- the grant itself is merged, and updating project levels keeps the listed teams
    have hany : ∀ x,
        (T.map (fun t => if t.team == team then { t with project := some l } else t)).any
          (·.team == x) = T.any (·.team == x) := by
      intro x
      rw [List.any_map]
      congr 1
      funext t
      by_cases ht : t.team = team <;> simp [ht]
    simp only [List.filter_cons, hT, Bool.not_true, Bool.false_eq_true, if_false, hany]

/-- One project grant of a team not listed yet. -/
theorem withProject_cons_new {T : List TeamGrant} {team : String} {l : Level}
    {rest : List (String × Level)} (hnot : team ∉ rest.map (·.1))
    (hT : T.any (·.team == team) = false) :
    withProject T ((team, l) :: rest) = withProject (T ++ [projectGrant (team, l)]) rest := by
  have hnone : levelFor team rest = none := levelFor_eq_none_iff.2 hnot
  have hteams : ∀ g ∈ T, g.team ≠ team := by
    intro g hg hgt
    have := List.any_eq_false.1 hT g hg
    simp [hgt] at this
  unfold withProject
  rw [List.map_append, List.append_assoc]
  congr 1
  · refine List.map_congr_left fun g hg => ?_
    simp [levelFor_cons, Ne.symm (hteams g hg)]
  · -- the new team comes first, and the rest are filtered as before
    have hrest : (rest.filter fun p => !(T ++ [projectGrant (team, l)]).any (·.team == p.1)) =
        rest.filter fun p => !T.any (·.team == p.1) := by
      refine List.filter_congr fun p hp => ?_
      have hpt : p.1 ≠ team := fun h => hnot (h ▸ List.mem_map_of_mem hp)
      simp [projectGrant, Ne.symm hpt]
    rw [hrest]
    simp [hT, projectGrant, hnone]

/-- Among teams each listed once, giving the first team of a name a project level gives it to
every team of that name. -/
theorem setProject_eq_map {T : List TeamGrant} (hT : (T.map (·.team)).Nodup) (team : String)
    (l : Level) :
    setProject team l T =
      T.map (fun t => if t.team == team then { t with project := some l } else t) := by
  induction T with
  | nil => rfl
  | cons t ts ih =>
    rw [List.map_cons, List.nodup_cons] at hT
    obtain ⟨hnot, hts⟩ := hT
    by_cases ht : t.team = team
    · -- no later team has the name, so the update of every match leaves them as they are
      have hrest : ts.map (fun t' => if t'.team == team then { t' with project := some l } else t') =
          ts := by
        refine (List.map_congr_left fun t' ht' => ?_).trans (List.map_id ts)
        have hne : t'.team ≠ team := fun h => hnot (ht ▸ h ▸ List.mem_map_of_mem ht')
        simp [hne]
      have hb : (t.team == team) = true := beq_iff_eq.mpr ht
      rw [setProject, if_pos hb, List.map_cons, if_pos hb, hrest]
    · simp [setProject, ht, ih hts]

/-- Updating project levels keeps the teams listed. -/
theorem teams_map_setLevel (T : List TeamGrant) (team : String) (l : Level) :
    (T.map (fun t => if t.team == team then { t with project := some l } else t)).map (·.team) =
      T.map (·.team) := by
  rw [List.map_map]
  refine List.map_congr_left fun t _ => ?_
  by_cases ht : t.team = team <;> simp [ht]

/-- Merging computes `withProject` when the teams and the project grants each name a team
once. -/
theorem mergeProject_eq {T : List TeamGrant} {B : List (String × Level)}
    (hT : (T.map (·.team)).Nodup) (hB : (B.map (·.1)).Nodup) :
    mergeProject T B = withProject T B := by
  induction B generalizing T with
  | nil => rw [mergeProject, withProject_nil]
  | cons p rest ih =>
    obtain ⟨team, l⟩ := p
    rw [List.map_cons, List.nodup_cons] at hB
    obtain ⟨hnot, hrest⟩ := hB
    -- a team already listed gets its project level; any other is added after the rest
    cases hTt : T.any (·.team == team) with
    | true =>
      have hT' := teams_map_setLevel T team l ▸ hT
      rw [mergeProject, if_pos hTt, setProject_eq_map hT, ih hT' hrest,
        withProject_cons_listed hnot hTt]
    | false =>
      have hnew : team ∉ T.map (·.team) := by simpa using hTt
      have hT' : ((T ++ [projectGrant (team, l)]).map (·.team)).Nodup := by
        rw [List.map_append, List.nodup_append]
        exact ⟨hT, List.nodup_singleton _, by simpa [projectGrant] using hnew⟩
      rw [mergeProject, if_neg (by simp [hTt]), withProject_cons_new hnot hTt]
      exact ih hT' hrest

/-! ## What the merged listing holds -/

section Merged

variable {A B : List (String × Level)}

theorem any_repositoryGrant (x : String) :
    (A.map repositoryGrant).any (·.team == x) = decide (x ∈ A.map (·.1)) := by
  simp [repositoryGrant, List.any_eq]

/-- The merged listing names the repository teams, then the teams only the project names. -/
theorem teams_withProject :
    (withProject (A.map repositoryGrant) B).map (·.team) =
      A.map (·.1) ++ (B.map (·.1)).filter (· ∉ A.map (·.1)) := by
  simp only [withProject, List.map_append, List.map_map]
  congr 1
  rw [List.filter_map]
  have hpred : (fun p : String × Level => !(A.map repositoryGrant).any (·.team == p.1)) =
      (fun x => decide (x ∉ A.map (·.1))) ∘ Prod.fst := by
    funext p
    rw [any_repositoryGrant]
    simp
  rw [hpred]
  rfl

/-- Every entry of the merged listing has the level each scope gives its team. -/
theorem levels_of_mem_withProject (hA : (A.map (·.1)).Nodup) (hB : (B.map (·.1)).Nodup)
    {g : TeamGrant} (hg : g ∈ withProject (A.map repositoryGrant) B) :
    g.repository = levelFor g.team A ∧ g.project = levelFor g.team B := by
  rcases List.mem_append.1 hg with hg | hg
  · -- a repository team, with its project level if any
    obtain ⟨p, hp, rfl⟩ := List.mem_map.1 hg
    obtain ⟨a, ha, rfl⟩ := List.mem_map.1 hp
    refine ⟨((levelFor_eq_some_iff hA).2 ha).symm, ?_⟩
    show (levelFor a.1 B).or none = levelFor a.1 B
    cases levelFor a.1 B <;> rfl
  · -- a team only the project names
    obtain ⟨b, hb, rfl⟩ := List.mem_map.1 hg
    obtain ⟨hbB, hbA⟩ := List.mem_filter.1 hb
    have hnot : b.1 ∉ A.map (·.1) := by
      rw [any_repositoryGrant] at hbA
      simpa using hbA
    exact ⟨(levelFor_eq_none_iff.2 hnot).symm, ((levelFor_eq_some_iff hB).2 hbB).symm⟩

/-- Every entry of the merged listing has a level. -/
theorem effective_of_mem_withProject {g : TeamGrant}
    (hg : g ∈ withProject (A.map repositoryGrant) B) : g.effective.isSome := by
  rcases List.mem_append.1 hg with hg | hg
  · obtain ⟨p, hp, rfl⟩ := List.mem_map.1 hg
    obtain ⟨a, -, rfl⟩ := List.mem_map.1 hp
    simp [TeamGrant.effective, repositoryGrant, Level.maxOpt]
  · obtain ⟨b, -, rfl⟩ := List.mem_map.1 hg
    cases b with
    | mk t l => simp [TeamGrant.effective, projectGrant, Level.maxOpt]

/-- A team the merged listing lacks is in neither scope. -/
theorem levelFor_eq_none_of_unlisted {t : String}
    (ht : t ∉ (withProject (A.map repositoryGrant) B).map (·.team)) :
    levelFor t A = none ∧ levelFor t B = none := by
  rw [teams_withProject] at ht
  have htA : t ∉ A.map (·.1) := fun h => ht (List.mem_append_left _ h)
  have htB : t ∉ B.map (·.1) :=
    fun h => ht (List.mem_append_right _ (List.mem_filter.2 ⟨h, by simpa using htA⟩))
  exact ⟨levelFor_eq_none_iff.2 htA, levelFor_eq_none_iff.2 htB⟩

end Merged

/-! ## Reading the listings -/

/-- The group grants a listing at a path holds, filtered by a name or not, each with the
session of the page it came in: what `grants` asks the service for. -/
def groupListing (opts : PageOptions) (path : String) (filter : Option String) :
    Call Channel (List (GroupPermission × Session)) :=
  paged opts ((Request.new .get path).withOptionalQuery "filter" filter) GroupPermission.read

/-- The grants of a listing whose words a table knows, as teams with their levels. -/
def knownGrants (t : PermissionTable) (found : List (GroupPermission × Session)) :
    List (String × Level) :=
  found.filterMap fun p => (t.levelOf p.1.permission).toOption.map fun l => (p.1.group, l)

theorem knownGrants_cons_of_levelOf {t : PermissionTable} {p : GroupPermission × Session}
    {l : Level} (hl : t.levelOf p.1.permission = .ok l) (ps : List (GroupPermission × Session)) :
    knownGrants t (p :: ps) = (p.1.group, l) :: knownGrants t ps := by
  simp [knownGrants, hl, Except.toOption]

/-- Reading a listing whose every word the table knows succeeds with its known grants. -/
theorem mapM_levelOf_known {t : PermissionTable}
    {read : GroupPermission × Session → Except ApiError (String × Level)}
    (hread : ∀ p, read p = (t.levelOf p.1.permission).map fun l => (p.1.group, l))
    (found : List (GroupPermission × Session)) (hk : ∀ p ∈ found, p.1.permission ∈ t.words) :
    found.mapM read = .ok (knownGrants t found) := by
  induction found with
  | nil => rfl
  | cons p ps ih =>
    obtain ⟨l, hl⟩ := (PermissionTable.exists_levelOf_ok_iff t _).2 (hk p List.mem_cons_self)
    rw [List.mapM_cons, hread, hl, ih fun q hq => hk q (List.mem_cons_of_mem p hq),
      knownGrants_cons_of_levelOf hl]
    rfl

theorem grants_runOn {opts : PageOptions} {path : String} {scope : Scope}
    {filter : Option String} {c c' : Channel} {found : List (GroupPermission × Session)}
    (h : (groupListing opts path filter).runOn c = (.ok found, c'))
    (hk : ∀ p ∈ found, p.1.permission ∈ (Service.bitbucket.table scope).words) :
    (grants opts path scope filter).runOn c =
      (.ok (knownGrants (Service.bitbucket.table scope) found), c') := by
  refine (Call.runOn_bind_ok h).trans ?_
  rw [Call.runOn_ofExcept]
  congr 1
  exact mapM_levelOf_known (fun p => rfl) found hk

/-- The known grants of a part of a listing are a part of its known grants. -/
theorem knownGrants_sublist (t : PermissionTable) {found found' : List (GroupPermission × Session)}
    (hs : (found'.map (·.1)).Sublist (found.map (·.1))) :
    (knownGrants t found').Sublist (knownGrants t found) := by
  have hmap : ∀ xs : List (GroupPermission × Session), knownGrants t xs =
      (xs.map (·.1)).filterMap fun g =>
        (t.levelOf g.permission).toOption.map fun l => (g.group, l) := by
    intro xs
    simp [knownGrants, List.filterMap_map]
  rw [hmap, hmap]
  exact hs.filterMap _

/-- With every word known, the known grants name the listing's teams. -/
theorem teams_knownGrants {t : PermissionTable} {found : List (GroupPermission × Session)}
    (hk : ∀ p ∈ found, p.1.permission ∈ t.words) :
    (knownGrants t found).map (·.1) = found.map (·.1.group) := by
  induction found with
  | nil => rfl
  | cons p ps ih =>
    obtain ⟨l, hl⟩ := (PermissionTable.exists_levelOf_ok_iff t _).2 (hk p List.mem_cons_self)
    rw [knownGrants_cons_of_levelOf hl, List.map_cons, List.map_cons,
      ih fun q hq => hk q (List.mem_cons_of_mem p hq)]

/-- A team's own known grant is kept by a part of the listing that keeps its group grant. -/
theorem mem_knownGrants_of_keeps {t : PermissionTable}
    {found found' : List (GroupPermission × Session)}
    {x : String × Level} (hx : x ∈ knownGrants t found)
    (hkeep : ∀ p ∈ found, p.1.group = x.1 → p.1 ∈ found'.map (·.1)) :
    x ∈ knownGrants t found' := by
  obtain ⟨p, hp, hpx⟩ := List.mem_filterMap.1 hx
  obtain ⟨l, hl, rfl⟩ := Option.map_eq_some_iff.1 hpx
  obtain ⟨p', hp', hpp'⟩ := List.mem_map.1 (hkeep p hp rfl)
  refine List.mem_filterMap.2 ⟨p', hp', ?_⟩
  rw [hpp', hl]
  rfl

/-- A part of a listing knows the words the listing knows. -/
theorem known_of_part {t : PermissionTable} {found found' : List (GroupPermission × Session)}
    (hs : (found'.map (·.1)).Sublist (found.map (·.1)))
    (hk : ∀ p ∈ found, p.1.permission ∈ t.words) :
    ∀ p ∈ found', p.1.permission ∈ t.words := by
  intro p hp
  obtain ⟨q, hq, hqp⟩ := List.mem_map.1 (hs.subset (List.mem_map_of_mem hp))
  exact hqp ▸ hk q hq

/-- A part of a listing that keeps a team's group grants gives the team the level the whole
listing gives it. -/
theorem levelFor_knownGrants_part {t : PermissionTable}
    {found found' : List (GroupPermission × Session)} {team : String}
    (hs : (found'.map (·.1)).Sublist (found.map (·.1)))
    (hn : ((knownGrants t found).map (·.1)).Nodup)
    (hkeep : ∀ p ∈ found, p.1.group = team → p.1 ∈ found'.map (·.1)) :
    levelFor team (knownGrants t found') = levelFor team (knownGrants t found) :=
  levelFor_of_sublist (knownGrants_sublist t hs) hn
    fun _ hx hxt => mem_knownGrants_of_keeps hx fun p hp hpg => hkeep p hp (hpg.trans hxt)

/-! ## The two ways of reading team access -/

/-- Listing merges the two scopes' grants. -/
theorem list_runOn {opts : PageOptions} {ref : RepositoryRef} {c c₁ c₂ : Channel}
    {A B : List (String × Level)}
    (hA : (grants opts (repositoryGrantsPath ref) .repository none).runOn c = (.ok A, c₁))
    (hB : (grants opts (projectGrantsPath ref.organization) .organization none).runOn c₁ =
      (.ok B, c₂)) :
    (list opts ref).runOn c = (.ok (mergeProject (A.map repositoryGrant) B), c₂) := by
  unfold list
  rw [Call.runOn_bind_ok hA, Call.runOn_bind_ok hB, Call.runOn_pure]
  rfl

/-- The client lists every merged team that has a level, with that level. -/
theorem listTeamAccess_runOn {opts : PageOptions} {ref : RepositoryRef} {c c₂ : Channel}
    {gs : List TeamGrant} (h : (list opts ref).runOn c = (.ok gs, c₂)) :
    (Client.listTeamAccess ⟨.bitbucket, opts⟩ ref).runOn c =
      (.ok (gs.filterMap fun g => g.effective.map fun l =>
        { team := g.team, permission := l, session := g.session }), c₂) :=
  (Call.runOn_bind_ok h).trans rfl

/-- Fetching a team takes the first exact match in each scope's filtered grants, and finds
nothing when neither has one. -/
theorem fetch_runOn {opts : PageOptions} {ref : RepositoryRef} {t : String} {c c₁ c₂ : Channel}
    {At Bt : List (String × Level)}
    (hA : (grants opts (repositoryGrantsPath ref) .repository (some t)).runOn c = (.ok At, c₁))
    (hB : (grants opts (projectGrantsPath ref.organization) .organization (some t)).runOn c₁ =
      (.ok Bt, c₂)) :
    (fetch opts ⟨ref, t⟩).runOn c =
      if (Level.maxOpt (levelFor t At) (levelFor t Bt)).isNone then
        (.error (.notFound (TeamAccessRef.display ⟨ref, t⟩)), c₂)
      else (.ok { team := t, repository := levelFor t At, project := levelFor t Bt }, c₂) := by
  unfold fetch
  rw [Call.runOn_bind_ok hA, Call.runOn_bind_ok hB]
  dsimp only
  -- the exact matches are `levelFor` of the filtered grants
  split
  · next hnone =>
    rw [if_pos (show (Level.maxOpt (levelFor t At) (levelFor t Bt)).isNone = true from hnone)]
    rfl
  · next hsome =>
    rw [if_neg (show ¬ (Level.maxOpt (levelFor t At) (levelFor t Bt)).isNone = true from hsome)]
    rfl

/-- Listed teams that all have a level are listed in their order. -/
theorem teams_listed {gs : List TeamGrant} (h : ∀ g ∈ gs, g.effective.isSome) :
    (gs.filterMap fun g => g.effective.map fun l =>
        ({ team := g.team, permission := l, session := g.session } : TeamAccess)).map (·.team) =
      gs.map (·.team) := by
  induction gs with
  | nil => rfl
  | cons g gs ih =>
    obtain ⟨l, hl⟩ := Option.isSome_iff_exists.1 (h g List.mem_cons_self)
    rw [List.filterMap_cons, hl, Option.map_some, List.map_cons, List.map_cons,
      ih fun g' hg' => h g' (List.mem_cons_of_mem g hg')]

/-- Listing and fetching a team's access agree on Bitbucket Server.  Let `R` and `P` be the
whole listings of the repository's and the project's group grants, each naming a team at most
once and knowing every word.  Then listing succeeds with one entry per team named in `R` or
`P`, the repository's teams first, each at its first appearance.  And for any team `t`, and any
filtered answers that are parts of `R` and `P` keeping `t`'s own grants, fetching `t` finds a
grant whose effective level is the level the listing gives `t`, or, when the listing has no
entry for `t`, fails as not found. -/
theorem listTeamAccess_agrees_with_fetch (opts : PageOptions) (ref : RepositoryRef)
    {R P : List (GroupPermission × Session)} {ch ch₁ ch₂ : Channel}
    (hR : (groupListing opts (repositoryGrantsPath ref) none).runOn ch =
      (.ok R, ch₁))
    (hP : (groupListing opts (projectGrantsPath ref.organization) none).runOn ch₁ =
      (.ok P, ch₂))
    (hRu : (R.map (·.1.group)).Nodup) (hPu : (P.map (·.1.group)).Nodup)
    (hRk : ∀ p ∈ R, p.1.permission ∈ (Service.bitbucket.table .repository).words)
    (hPk : ∀ p ∈ P, p.1.permission ∈ (Service.bitbucket.table .organization).words) :
    ∃ out, (Client.listTeamAccess ⟨.bitbucket, opts⟩ ref).runOn ch = (.ok out, ch₂) ∧
      out.map (·.team) =
        R.map (·.1.group) ++ (P.map (·.1.group)).filter (· ∉ R.map (·.1.group)) ∧
      ∀ (t : String) (Rt Pt : List (GroupPermission × Session)) (c c₁ c₂ : Channel),
        (groupListing opts (repositoryGrantsPath ref) (some t)).runOn c =
          (.ok Rt, c₁) →
        (groupListing opts (projectGrantsPath ref.organization) (some t)).runOn c₁ =
          (.ok Pt, c₂) →
        (Rt.map (·.1)).Sublist (R.map (·.1)) → (Pt.map (·.1)).Sublist (P.map (·.1)) →
        (∀ p ∈ R, p.1.group = t → p.1 ∈ Rt.map (·.1)) →
        (∀ p ∈ P, p.1.group = t → p.1 ∈ Pt.map (·.1)) →
        (∀ a ∈ out, a.team = t → ∃ g, (fetch opts ⟨ref, t⟩).runOn c = (.ok g, c₂) ∧
          g.effective = some a.permission) ∧
        ((∀ a ∈ out, a.team ≠ t) → (fetch opts ⟨ref, t⟩).runOn c =
          (.error (.notFound (TeamAccessRef.display ⟨ref, t⟩)), c₂)) := by
  -- the two scopes read as teams with levels, each team named once
  set A := knownGrants (Service.bitbucket.table .repository) R with hAdef
  set B := knownGrants (Service.bitbucket.table .organization) P with hBdef
  have hA : (grants opts (repositoryGrantsPath ref) .repository none).runOn ch = (.ok A, ch₁) :=
    grants_runOn hR hRk
  have hB : (grants opts (projectGrantsPath ref.organization) .organization none).runOn ch₁ =
      (.ok B, ch₂) :=
    grants_runOn hP hPk
  have hAn : (A.map (·.1)).Nodup := teams_knownGrants hRk ▸ hRu
  have hBn : (B.map (·.1)).Nodup := teams_knownGrants hPk ▸ hPu
  have hlist := list_runOn hA hB
  have hTn : ((A.map repositoryGrant).map (·.team)).Nodup := by
    simpa [List.map_map, Function.comp_def, repositoryGrant] using hAn
  rw [mergeProject_eq hTn hBn] at hlist
  have hall : ∀ g ∈ withProject (A.map repositoryGrant) B, g.effective.isSome :=
    fun g hg => effective_of_mem_withProject hg
  refine ⟨_, listTeamAccess_runOn hlist, ?_, ?_⟩
  · rw [teams_listed hall, teams_withProject, teams_knownGrants hRk, teams_knownGrants hPk]
  intro t Rt Pt c c₁ c₂ hRt hPt hsubR hsubP hkeepR hkeepP
  -- a filtered answer is read like the whole listing, and gives `t` the same levels
  have hfetch := fetch_runOn (grants_runOn hRt (known_of_part hsubR hRk))
    (grants_runOn hPt (known_of_part hsubP hPk))
  rw [levelFor_knownGrants_part hsubR hAn hkeepR, levelFor_knownGrants_part hsubP hBn hkeepP,
    ← hAdef, ← hBdef] at hfetch
  constructor
  · -- a listed team: its entry's level is the higher of the two it has, as fetching finds
    intro a ha hat
    obtain ⟨g, hg, hga⟩ := List.mem_filterMap.1 ha
    obtain ⟨l, hl, rfl⟩ := Option.map_eq_some_iff.1 hga
    obtain ⟨hrep, hproj⟩ := levels_of_mem_withProject hAn hBn hg
    have hgt : g.team = t := hat
    have heff : Level.maxOpt (levelFor t A) (levelFor t B) = some l := by
      rw [← hgt, ← hrep, ← hproj]
      exact hl
    rw [hfetch, if_neg (by simp [heff])]
    exact ⟨_, rfl, heff⟩
  · -- an unlisted team is in neither scope
    intro hnot
    have hout : t ∉ (withProject (A.map repositoryGrant) B).map (·.team) := by
      rw [← teams_listed hall]
      intro ht
      obtain ⟨a, ha, hat⟩ := List.mem_map.1 ht
      exact hnot a ha hat
    obtain ⟨hA₀, hB₀⟩ := levelFor_eq_none_of_unlisted hout
    rw [hfetch, if_pos (by simp [hA₀, hB₀, Level.maxOpt])]

theorem runOn_eq_ok_of_toOption {σ α : Type} {x : Call σ α} {s : σ} {a : α}
    (h : (x.runOn s).1.toOption = some a) : x.runOn s = (.ok a, (x.runOn s).2) := by
  rcases hx : x.runOn s with ⟨r, s'⟩
  rw [hx] at h
  cases r with
  | error e => cases h
  | ok b => cases h; rfl

/-- The bytes of an ASCII text. -/
def asciiBytes (s : String) : List UInt8 := s.toList.map fun c => c.toNat.toUInt8

/-- A team with write access on the repository and admin access through its project, and a
second team with read access through the project only: the listing's two entries agree with
fetching either team, for the filtered answers that keep its grants. -/
theorem listTeamAccess_agrees_with_fetch_two_teams :
    let ref : RepositoryRef := ⟨"PRJ", "app"⟩
    let repositoryPage := asciiBytes
      ("\x7b\"values\":[\x7b\"group\":\x7b\"name\":\"devs\"\x7d," ++
        "\"permission\":\"REPO_WRITE\"\x7d]\x7d")
    let projectPage := asciiBytes
      ("\x7b\"values\":[\x7b\"group\":\x7b\"name\":\"devs\"\x7d," ++
        "\"permission\":\"PROJECT_ADMIN\"\x7d," ++
        "\x7b\"group\":\x7b\"name\":\"ops\"\x7d,\"permission\":\"PROJECT_READ\"\x7d]\x7d")
    let ch : Channel :=
      { transport := .replay
          { script := [.ok { body := repositoryPage }, .ok { body := projectPage }] } }
    let R : List (GroupPermission × Session) := [(⟨"devs", "REPO_WRITE"⟩, {})]
    let P : List (GroupPermission × Session) :=
      [(⟨"devs", "PROJECT_ADMIN"⟩, {}), (⟨"ops", "PROJECT_READ"⟩, {})]
    let ch₁ := ((groupListing {} (repositoryGrantsPath ref) none).runOn ch).2
    let ch₂ := ((groupListing {} (projectGrantsPath ref.organization) none).runOn ch₁).2
    (groupListing {} (repositoryGrantsPath ref) none).runOn ch = (.ok R, ch₁) ∧
    (groupListing {} (projectGrantsPath ref.organization) none).runOn ch₁ = (.ok P, ch₂) ∧
    (R.map (·.1.group)).Nodup ∧ (P.map (·.1.group)).Nodup ∧
    (∀ p ∈ R, p.1.permission ∈ (Service.bitbucket.table .repository).words) ∧
    (∀ p ∈ P, p.1.permission ∈ (Service.bitbucket.table .organization).words) ∧
    ∃ out, (Client.listTeamAccess ⟨.bitbucket, {}⟩ ref).runOn ch = (.ok out, ch₂) ∧
      out.map (·.team) =
        R.map (·.1.group) ++ (P.map (·.1.group)).filter (· ∉ R.map (·.1.group)) ∧
      ∀ (t : String) (Rt Pt : List (GroupPermission × Session)) (c c₁ c₂ : Channel),
        (groupListing {} (repositoryGrantsPath ref) (some t)).runOn c = (.ok Rt, c₁) →
        (groupListing {} (projectGrantsPath ref.organization) (some t)).runOn c₁ =
          (.ok Pt, c₂) →
        (Rt.map (·.1)).Sublist (R.map (·.1)) → (Pt.map (·.1)).Sublist (P.map (·.1)) →
        (∀ p ∈ R, p.1.group = t → p.1 ∈ Rt.map (·.1)) →
        (∀ p ∈ P, p.1.group = t → p.1 ∈ Pt.map (·.1)) →
        (∀ a ∈ out, a.team = t → ∃ g, (fetch {} ⟨ref, t⟩).runOn c = (.ok g, c₂) ∧
          g.effective = some a.permission) ∧
        ((∀ a ∈ out, a.team ≠ t) → (fetch {} ⟨ref, t⟩).runOn c =
          (.error (.notFound (TeamAccessRef.display ⟨ref, t⟩)), c₂)) := by
  intro ref repositoryPage projectPage ch R P ch₁ ch₂
  have hR : (groupListing {} (repositoryGrantsPath ref) none).runOn ch = (.ok R, ch₁) :=
    runOn_eq_ok_of_toOption (by decide +kernel)
  have hP :
      (groupListing {} (projectGrantsPath ref.organization) none).runOn ch₁ = (.ok P, ch₂) :=
    runOn_eq_ok_of_toOption (by decide +kernel)
  have hRu : (R.map (·.1.group)).Nodup := by decide +kernel
  have hPu : (P.map (·.1.group)).Nodup := by decide +kernel
  have hRk : ∀ p ∈ R, p.1.permission ∈ (Service.bitbucket.table .repository).words := by
    decide +kernel
  have hPk : ∀ p ∈ P, p.1.permission ∈ (Service.bitbucket.table .organization).words := by
    decide +kernel
  exact ⟨hR, hP, hRu, hPu, hRk, hPk,
    listTeamAccess_agrees_with_fetch {} ref hR hP hRu hPu hRk hPk⟩

end Access

end Bitbucket

end ForgeSync
