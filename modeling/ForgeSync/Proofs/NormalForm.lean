import ForgeSync.Hosted

/-!
# Normal forms of spec texts

A spec is normalised before it is sent, and the spec read back from a raw form is normalised
in the same way: a description loses a blank text, a public key keeps its first two words,
and a branch is shown by its short name.  The first two are normal forms: normalising twice
is normalising once, so a normalised value comes back unchanged.  The third is not: a branch
written as a full ref under `refs/heads/` comes back shortened.

Main statements:

* `nonEmpty_nonEmpty`, `normalizePublicKey_normalizePublicKey`: normalising twice is
  normalising once.
* `Text.words_intercalate`: words joined by single spaces have exactly these words.
* `branchDisplayId_eq_self_iff`, `branchDisplayId_branchRefId`: a branch is shown as it is
  written, and survives being written as a full ref and shown again, exactly when it does not
  start with `refs/heads/`.
-/

namespace ForgeSync

/-! ## Descriptions -/

@[simp] theorem nonEmpty_nonEmpty (s : Option String) : nonEmpty (nonEmpty s) = nonEmpty s := by
  simp only [nonEmpty, Option.filter_filter, Bool.and_self]

/-! ## Words -/

namespace Text

/-- A piece of a split holds no separator. -/
theorem separator_not_mem_splitOnP {p : Char → Bool} {cs w : List Char}
    (hw : w ∈ cs.splitOnP p) : ∀ c ∈ w, p c = false := by
  induction cs generalizing w with
  | nil =>
    rw [List.splitOnP_nil, List.mem_singleton] at hw
    subst hw
    intro c hc
    cases hc
  | cons x xs ih =>
    rw [List.splitOnP_cons_eq_if_modifyHead] at hw
    by_cases hx : p x = true
    · -- a separator starts a new, empty piece
      rw [if_pos hx, List.mem_cons] at hw
      rcases hw with rfl | hw
      · intro c hc
        cases hc
      · exact ih hw
    · -- any other character joins the first piece of the rest
      obtain ⟨first, rest, hsplit⟩ := List.exists_cons_of_ne_nil (List.splitOnP_ne_nil p xs)
      rw [if_neg hx, hsplit, List.modifyHead_cons, List.mem_cons] at hw
      rcases hw with rfl | hw
      · intro c hc
        rcases List.mem_cons.mp hc with rfl | hc
        · simpa using hx
        · exact ih (by rw [hsplit]; exact List.mem_cons_self) c hc
      · exact ih (by rw [hsplit]; exact List.mem_cons_of_mem first hw)

/-- Every word is a non-empty run of non-blank characters. -/
theorem mem_wordsOf {cs w : List Char} (hw : w ∈ wordsOf cs) :
    w ≠ [] ∧ ∀ c ∈ w, isBlank c = false := by
  rw [wordsOf, List.mem_filter] at hw
  refine ⟨?_, separator_not_mem_splitOnP hw.1⟩
  simpa using hw.2

/-- Pieces without separators, joined by a separator, split back into themselves. -/
theorem splitOnP_intercalate {p : Char → Bool} {sep : Char} (hsep : p sep = true) :
    ∀ {ws : List (List Char)}, ws ≠ [] → (∀ w ∈ ws, ∀ c ∈ w, p c = false) →
      ([sep].intercalate ws).splitOnP p = ws
  | [], hne, _ => absurd rfl hne
  | [w], _, hw => by
    rw [List.intercalate_singleton, List.splitOnP_eq_singleton (hw w List.mem_cons_self)]
  | w :: w' :: ws, _, hw => by
    have hrest := splitOnP_intercalate hsep (List.cons_ne_nil w' ws)
      (fun v hv => hw v (List.mem_cons_of_mem w hv))
    rw [List.intercalate_cons_cons, List.append_assoc, List.singleton_append,
      List.splitOnP_append_cons_of_forall_mem (hw w List.mem_cons_self) sep hsep, hrest]

/-- Words joined by single spaces split back into the same words. -/
theorem wordsOf_intercalate {ws : List (List Char)}
    (hw : ∀ w ∈ ws, w ≠ [] ∧ ∀ c ∈ w, isBlank c = false) :
    wordsOf ([' '].intercalate ws) = ws := by
  by_cases hne : ws = []
  · subst hne
    rfl
  · have hsplit := splitOnP_intercalate (show isBlank ' ' = true by decide) hne
      (fun w h => (hw w h).2)
    rw [wordsOf, hsplit, List.filter_eq_self]
    intro w h
    simpa using (hw w h).1

/-- Every word of a text is a non-empty run of non-blank characters. -/
theorem mem_words {s w : String} (hw : w ∈ words s) :
    w.toList ≠ [] ∧ ∀ c ∈ w.toList, isBlank c = false := by
  obtain ⟨v, hv, rfl⟩ := List.mem_map.mp hw
  rw [String.toList_ofList]
  exact mem_wordsOf hv

/-- Texts that are words, joined by single spaces, have exactly these words. -/
theorem words_intercalate {ws : List String}
    (hw : ∀ w ∈ ws, w.toList ≠ [] ∧ ∀ c ∈ w.toList, isBlank c = false) :
    words (" ".intercalate ws) = ws := by
  have hchars : (" ".intercalate ws).toList = [' '].intercalate (ws.map String.toList) := by
    rw [String.toList_intercalate]
    rfl
  have hpieces : ∀ v ∈ ws.map String.toList, v ≠ [] ∧ ∀ c ∈ v, isBlank c = false := by
    intro v hv
    obtain ⟨w, hw', rfl⟩ := List.mem_map.mp hv
    exact hw w hw'
  rw [words, hchars, wordsOf_intercalate hpieces, List.map_map]
  simp

end Text

/-! ## Public keys -/

/-- A normalised key is its own normal form. -/
theorem normalizePublicKey_normalizePublicKey (key : String) :
    normalizePublicKey (normalizePublicKey key) = normalizePublicKey key := by
  have hw : ∀ w ∈ (Text.words key).take 2,
      w.toList ≠ [] ∧ ∀ c ∈ w.toList, Text.isBlank c = false :=
    fun w h => Text.mem_words (List.mem_of_mem_take h)
  rw [normalizePublicKey, normalizePublicKey, Text.words_intercalate hw, List.take_take,
    Nat.min_self]

/-! ## Branch names -/

theorem isPrefixOf_iff_toList (p s : String) : p.isPrefixOf s = true ↔ p.toList <+: s.toList := by
  simp [String.isPrefixOf]

/-- A branch is shown as it is written exactly when it does not start with `refs/heads/`. -/
theorem branchDisplayId_eq_self_iff (b : String) :
    branchDisplayId b = b ↔ "refs/heads/".isPrefixOf b = false := by
  unfold branchDisplayId
  cases hp : "refs/heads/".isPrefixOf b with
  | false => simp
  | true =>
    simp only [if_true, Bool.true_eq_false, iff_false]
    intro h
    -- the shown name is eleven characters shorter than the full ref
    have hlong : 11 ≤ b.toList.length := by
      have hle := ((isPrefixOf_iff_toList _ _).mp hp).length_le
      simpa using hle
    have hlen := congrArg (fun t => t.toList.length) h
    simp only [String.toList_ofList, List.length_drop] at hlen
    omega

/-- A branch survives being written as a full ref and shown again exactly when it does not
start with `refs/heads/`. -/
theorem branchDisplayId_branchRefId (b : String) :
    branchDisplayId (branchRefId b) = b ↔ "refs/heads/".isPrefixOf b = false := by
  unfold branchRefId
  cases hr : "refs/".isPrefixOf b with
  | true =>
    rw [if_pos rfl]
    exact branchDisplayId_eq_self_iff b
  | false =>
    -- a short name is put under `refs/heads/` and loses that prefix again
    have hshort : "refs/heads/".isPrefixOf b = false := by
      rw [Bool.eq_false_iff]
      intro hh
      have hrefs : "refs/".toList <+: b.toList :=
        List.IsPrefix.trans (by decide) ((isPrefixOf_iff_toList _ _).mp hh)
      rw [← isPrefixOf_iff_toList, hr] at hrefs
      cases hrefs
    have hfull : "refs/heads/".isPrefixOf ("refs/heads/" ++ b) = true := by
      rw [isPrefixOf_iff_toList, String.toList_append]
      exact List.prefix_append _ _
    rw [if_neg Bool.false_ne_true, branchDisplayId, if_pos hfull, String.toList_append,
      show 11 = "refs/heads/".toList.length by decide, List.drop_left, String.ofList_toList]
    exact iff_of_true rfl hshort

end ForgeSync
