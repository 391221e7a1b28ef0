import Mathlib.Data.List.Chain
import ForgeSync.Text.Slug
import ForgeSync.Text.Blank

/-!
# Slugs are canonical

`slugify` writes its slug backwards, one lowercased character at a time (`slugStep`), and
drops a hyphen left at the end.  Whatever the name, the result is a canonical slug (`IsSlug`):
slug characters and hyphens only, no hyphen at either end and never two in a row.  A canonical
slug is its own slug, so `slugify` is idempotent.

The first half is an invariant of the reversed slug written so far (`SlugAcc`): each step keeps
it whatever the character, including the characters a multi-character lowercase form adds, so
it holds after the whole fold.  For the second half, every character of a slug lowercases to
itself, and on a slug each step only pushes its character: a hyphen never meets an empty slug
or another hyphen.

Blanks at either end of a name change no slug (`slugify_trim`): lowercasing keeps them, a
blank before the first slug character is skipped and those after the last give one trailing
hyphen, which is dropped.  So slugging a trimmed name is slugging the name.

Main statement: `slugify_canonical`.
-/

namespace ForgeSync

namespace Text

/-- A canonical slug: slug characters and hyphens, with no hyphen at either end and never two
hyphens in a row. -/
structure IsSlug (cs : List Char) : Prop where
  chars : ∀ c ∈ cs, isSlugChar c = true ∨ c = '-'
  head : cs.head? ≠ some '-'
  last : cs.getLast? ≠ some '-'
  hyphens : cs.IsChain (fun a b => ¬ (a = '-' ∧ b = '-'))

/-- The reversed slug written so far, as `slugStep` keeps it: slug characters and hyphens,
never two hyphens in a row, and no hyphen as its first character, which is the list's last. -/
structure SlugAcc (acc : List Char) : Prop where
  chars : ∀ c ∈ acc, isSlugChar c = true ∨ c = '-'
  start : acc.getLast? ≠ some '-'
  hyphens : acc.IsChain (fun a b => ¬ (a = '-' ∧ b = '-'))

/-! ## Characters -/

theorem isSlugChar_iff (c : Char) :
    isSlugChar c = true ↔
      ('a' ≤ c ∧ c ≤ 'z') ∨ ('0' ≤ c ∧ c ≤ '9') ∨ c = '.' ∨ c = '_' := by
  simp [isSlugChar, or_assoc]

@[simp] theorem isSlugChar_hyphen : isSlugChar '-' = false := by decide

/-- A slug character is ASCII and no capital. -/
theorem toNat_of_isSlugChar {c : Char} (h : isSlugChar c = true) :
    c.toNat < 65 ∨ (90 < c.toNat ∧ c.toNat < 128) := by
  have hc : c.toNat = c.val.toNat := rfl
  have bounds : 'a'.val.toNat = 97 ∧ 'z'.val.toNat = 122 ∧ '0'.val.toNat = 48 ∧
      '9'.val.toNat = 57 := ⟨rfl, rfl, rfl, rfl⟩
  rw [isSlugChar_iff] at h
  rcases h with ⟨h₁, h₂⟩ | ⟨h₁, h₂⟩ | rfl | rfl
  · rw [Char.le_def, UInt32.le_iff_toNat_le] at h₁ h₂
    omega
  · rw [Char.le_def, UInt32.le_iff_toNat_le] at h₁ h₂
    omega
  · exact .inl (by decide)
  · exact .inr (by decide)

/-- A character that is no ASCII capital is its own ASCII lowercase. -/
theorem toLower_of_not_upper {c : Char} (h : c.toNat < 65 ∨ 90 < c.toNat) : c.toLower = c := by
  unfold Char.toLower
  rw [dif_neg]
  rintro ⟨h₁, h₂⟩
  rw [ge_iff_le, UInt32.le_iff_toNat_le] at h₁
  rw [UInt32.le_iff_toNat_le] at h₂
  have bounds : 'A'.val.toNat = 65 ∧ 'Z'.val.toNat = 90 := ⟨rfl, rfl⟩
  have hc : c.toNat = c.val.toNat := rfl
  omega

/-- An ASCII character other than a capital lowercases to itself. -/
theorem lowercase_of_not_upper {c : Char} (h : c.toNat < 65 ∨ (90 < c.toNat ∧ c.toNat < 128)) :
    lowercase c = [c] := by
  have h130 : c.toNat ≠ 0x130 := by omega
  have h212A : c.toNat ≠ 0x212A := by omega
  have hlower : c.toLower = c := toLower_of_not_upper (by omega)
  simp only [lowercase, if_neg h130, if_neg h212A, hlower]

theorem lowercase_of_slug {c : Char} (h : isSlugChar c = true ∨ c = '-') : lowercase c = [c] := by
  rcases h with h | rfl
  · exact lowercase_of_not_upper (toNat_of_isSlugChar h)
  · exact lowercase_of_not_upper (by decide)

/-! ## Every slug is canonical -/

theorem SlugAcc.nil : SlugAcc [] := ⟨by simp, by simp, List.isChain_nil⟩

theorem slugStep_of_isSlugChar {c : Char} (hc : isSlugChar c = true) (acc : List Char) :
    slugStep acc c = c :: acc := by
  simp [slugStep, hc]

theorem slugStep_nil {c : Char} (hc : isSlugChar c = false) : slugStep [] c = [] := by
  simp [slugStep, hc]

theorem slugStep_hyphen {c : Char} (hc : isSlugChar c = false) (rest : List Char) :
    slugStep ('-' :: rest) c = '-' :: rest := by
  simp [slugStep, hc]

theorem slugStep_other {c a : Char} (hc : isSlugChar c = false) (ha : a ≠ '-')
    (rest : List Char) : slugStep (a :: rest) c = '-' :: a :: rest := by
  simp only [slugStep, hc, Bool.false_eq_true, if_false]
  split
  · next heq => cases heq
  · next heq => exact absurd (List.cons.inj heq).1 ha
  · rfl

/-- One step keeps the invariant, whatever the character. -/
theorem SlugAcc.step {acc : List Char} (h : SlugAcc acc) (c : Char) : SlugAcc (slugStep acc c) := by
  cases hc : isSlugChar c with
  | true =>
    -- a slug character is pushed; it is no hyphen, so it starts no pair of hyphens
    have hne : c ≠ '-' := by rintro rfl; simp at hc
    rw [slugStep_of_isSlugChar hc]
    refine ⟨?_, ?_, ?_⟩
    · simpa [hc] using h.chars
    · cases acc with
      | nil => simpa using hne
      | cons a rest => simpa [List.getLast?_cons_cons] using h.start
    · cases acc with
      | nil => exact List.isChain_singleton c
      | cons a rest => exact List.isChain_cons_cons.2 ⟨fun hh => hne hh.1, h.hyphens⟩
  | false =>
    cases acc with
    | nil => rw [slugStep_nil hc]; exact SlugAcc.nil
    | cons a rest =>
      by_cases ha : a = '-'
      · subst ha
        rw [slugStep_hyphen hc]
        exact h
      · -- a hyphen is pushed onto a slug that does not end in one
        rw [slugStep_other hc ha]
        refine ⟨?_, ?_, ?_⟩
        · simpa using h.chars
        · simpa [List.getLast?_cons_cons] using h.start
        · exact List.isChain_cons_cons.2 ⟨fun hh => ha hh.2, h.hyphens⟩

/-- The run lemma: the whole fold keeps the invariant. -/
theorem SlugAcc.foldl {acc : List Char} (h : SlugAcc acc) (cs : List Char) :
    SlugAcc (cs.foldl slugStep acc) := by
  induction cs generalizing acc with
  | nil => exact h
  | cons c cs ih => exact ih (h.step c)

theorem slugAcc_slugRev (cs : List Char) : SlugAcc (slugRev cs) :=
  SlugAcc.nil.foldl _

/-- The invariant, once the reversed slug starts with no hyphen either, is canonical. -/
theorem SlugAcc.isSlug {acc : List Char} (h : SlugAcc acc) (hhead : acc.head? ≠ some '-') :
    IsSlug acc :=
  ⟨h.chars, hhead, h.start, h.hyphens⟩

/-- Once a trailing hyphen is dropped, the reversed slug is canonical: the character before
the hyphen is no hyphen. -/
theorem SlugAcc.isSlug_of_hyphen {rest : List Char} (h : SlugAcc ('-' :: rest)) : IsSlug rest := by
  refine ⟨fun c hc => h.chars c (List.mem_cons_of_mem _ hc), ?_, ?_, h.hyphens.tail⟩
  · cases rest with
    | nil => simp
    | cons b rest' =>
      have hb := (List.isChain_cons_cons.1 h.hyphens).1
      simpa using fun hbh => hb ⟨rfl, hbh⟩
  · cases rest with
    | nil => simp
    | cons b rest' => simpa [List.getLast?_cons_cons] using h.start

/-- Being a canonical slug reads the same backwards. -/
theorem IsSlug.reverse {cs : List Char} (h : IsSlug cs) : IsSlug cs.reverse := by
  refine ⟨fun c hc => h.chars c (List.mem_reverse.1 hc), ?_, ?_, ?_⟩
  · simpa [List.head?_reverse] using h.last
  · simpa [List.getLast?_reverse] using h.head
  · rw [List.isChain_reverse]
    exact h.hyphens.imp fun a b hab hba => hab ⟨hba.2, hba.1⟩

theorem slugify_of_trailing {name : String} {rest : List Char}
    (h : slugRev name.toList = '-' :: rest) : slugify name = String.ofList rest.reverse := by
  simp only [slugify, h]

theorem slugify_of_no_trailing {name : String} (h : (slugRev name.toList).head? ≠ some '-') :
    slugify name = String.ofList (slugRev name.toList).reverse := by
  unfold slugify
  split
  · next rest hrest => simp [hrest] at h
  · rfl

/-- Every name's slug is canonical. -/
theorem isSlug_slugify (name : String) : IsSlug (slugify name).toList := by
  have hacc := slugAcc_slugRev name.toList
  cases hrev : slugRev name.toList with
  | nil =>
    rw [slugify_of_no_trailing (by simp [hrev]), hrev]
    exact ⟨by simp, by simp, by simp, List.isChain_nil⟩
  | cons a rest =>
    rw [hrev] at hacc
    by_cases ha : a = '-'
    · -- the trailing hyphen goes
      subst ha
      rw [slugify_of_trailing hrev, String.toList_ofList]
      exact hacc.isSlug_of_hyphen.reverse
    · rw [slugify_of_no_trailing (by simp [hrev, ha]), hrev, String.toList_ofList]
      exact (hacc.isSlug (by simpa using ha)).reverse

/-! ## A slug is its own slug -/

/-- On a slug, each step only pushes its character: a hyphen never meets an empty slug or
another hyphen.  `acc` is the reversed slug already written, `cs` the rest to write. -/
theorem foldl_slugStep_of_isSlug (cs : List Char) {acc : List Char}
    (hchars : ∀ c ∈ cs, isSlugChar c = true ∨ c = '-')
    (hhead : (acc.reverse ++ cs).head? ≠ some '-')
    (hchain : (acc.reverse ++ cs).IsChain (fun a b => ¬ (a = '-' ∧ b = '-'))) :
    cs.foldl slugStep acc = cs.reverse ++ acc := by
  induction cs generalizing acc with
  | nil => simp
  | cons c cs ih =>
    have hstep : slugStep acc c = c :: acc := by
      rcases hchars c List.mem_cons_self with hc | rfl
      · exact slugStep_of_isSlugChar hc acc
      · -- the hyphen follows a character of the slug, and that one is no hyphen
        cases acc with
        | nil => simp at hhead
        | cons a rest =>
          have hsplit : (a :: rest).reverse ++ '-' :: cs = rest.reverse ++ a :: '-' :: cs := by
            simp
          rw [hsplit] at hchain
          have hpair := (List.isChain_cons_cons.1 (List.isChain_append.1 hchain).2.1).1
          have ha : a ≠ '-' := fun haa => hpair ⟨haa, rfl⟩
          exact slugStep_other isSlugChar_hyphen ha rest
    rw [List.foldl_cons, hstep, ih (fun x hx => hchars x (List.mem_cons_of_mem c hx))
      (by simpa using hhead) (by simpa using hchain)]
    simp

theorem slugRev_of_isSlug {cs : List Char} (h : IsSlug cs) : slugRev cs = cs.reverse := by
  have hlower : cs.flatMap lowercase = cs := by
    rw [List.flatMap_congr fun c hc => lowercase_of_slug (h.chars c hc)]
    simp
  rw [slugRev, hlower, foldl_slugStep_of_isSlug cs h.chars (by simpa using h.head)
    (by simpa using h.hyphens), List.append_nil]

/-- A canonical slug is its own slug. -/
theorem slugify_of_isSlug {cs : List Char} (h : IsSlug cs) :
    slugify (String.ofList cs) = String.ofList cs := by
  have hrev : slugRev (String.ofList cs).toList = cs.reverse := by
    rw [String.toList_ofList, slugRev_of_isSlug h]
  have hlast : (slugRev (String.ofList cs).toList).head? ≠ some '-' := by
    simpa [slugRev_of_isSlug h, List.head?_reverse] using h.last
  rw [slugify_of_no_trailing hlast, hrev, List.reverse_reverse]

/-- The slug of any name is canonical: slug characters and hyphens only, no hyphen at either
end, never two in a row; and it is its own slug. -/
theorem slugify_canonical (s : String) :
    (∀ c ∈ (slugify s).toList,
      ('a' ≤ c ∧ c ≤ 'z') ∨ ('0' ≤ c ∧ c ≤ '9') ∨
        c = '.' ∨ c = '_' ∨ c = '-') ∧
    (slugify s).toList.head? ≠ some '-' ∧ (slugify s).toList.getLast? ≠ some '-' ∧
    (slugify s).toList.IsChain (fun a b => ¬ (a = '-' ∧ b = '-')) ∧
    slugify (slugify s) = slugify s := by
  have h := isSlug_slugify s
  refine ⟨fun c hc => ?_, h.head, h.last, h.hyphens, ?_⟩
  · rcases h.chars c hc with hs | rfl
    · rcases (isSlugChar_iff c).1 hs with h₁ | h₁ | h₁ | h₁ <;> simp [h₁]
    · simp
  · conv_lhs => rw [← String.ofList_toList (s := slugify s)]
    rw [slugify_of_isSlug h, String.ofList_toList]

example : slugify "My Service (v2)" = "my-service-v2" := by decide +kernel

/-! ## Blanks around a name -/

/-- A blank is an ASCII control from tab to carriage return, a space, or a character beyond
ASCII that is neither of the two whose lowercase form holds an ASCII letter. -/
theorem toNat_of_isBlank {c : Char} (h : isBlank c = true) :
    (9 ≤ c.toNat ∧ c.toNat ≤ 13) ∨ c.toNat = 32 ∨
      (128 ≤ c.toNat ∧ c.toNat ≠ 0x130 ∧ c.toNat ≠ 0x212A) := by
  simp only [isBlank, Bool.or_eq_true, Bool.and_eq_true, decide_eq_true_eq, beq_iff_eq] at h
  omega

theorem isSlugChar_of_isBlank {c : Char} (h : isBlank c = true) : isSlugChar c = false := by
  have hn := toNat_of_isBlank h
  cases hs : isSlugChar c with
  | false => rfl
  | true =>
    -- a slug character is ASCII and printable, and no blank is both
    have hc : c.toNat = c.val.toNat := rfl
    have bounds : 'a'.val.toNat = 97 ∧ 'z'.val.toNat = 122 ∧ '0'.val.toNat = 48 ∧
        '9'.val.toNat = 57 ∧ '.'.val.toNat = 46 ∧ '_'.val.toNat = 95 := ⟨rfl, rfl, rfl, rfl, rfl, rfl⟩
    rcases (isSlugChar_iff c).1 hs with ⟨h₁, h₂⟩ | ⟨h₁, h₂⟩ | rfl | rfl
    · rw [Char.le_def, UInt32.le_iff_toNat_le] at h₁ h₂
      omega
    · rw [Char.le_def, UInt32.le_iff_toNat_le] at h₁ h₂
      omega
    · simp at hn
    · simp at hn

theorem lowercase_of_isBlank {c : Char} (h : isBlank c = true) : lowercase c = [c] := by
  have hn := toNat_of_isBlank h
  have hlower : c.toLower = c := toLower_of_not_upper (by omega)
  have h130 : c.toNat ≠ 0x130 := by omega
  have h212A : c.toNat ≠ 0x212A := by omega
  simp only [lowercase, if_neg h130, if_neg h212A, hlower]

/-- A text splits into the blanks before it, its trimmed middle and the blanks after it. -/
theorem trimChars_split (cs : List Char) :
    ∃ pre post, (∀ c ∈ pre, isBlank c = true) ∧ (∀ c ∈ post, isBlank c = true) ∧
      cs = pre ++ trimChars cs ++ post := by
  let rest := cs.dropWhile isBlank
  refine ⟨cs.takeWhile isBlank, (rest.reverse.takeWhile isBlank).reverse,
    fun c hc => List.all_eq_true.mp List.all_takeWhile c hc,
    fun c hc => List.all_eq_true.mp List.all_takeWhile c (List.mem_reverse.mp hc), ?_⟩
  -- the end of the rest, read backwards, is its blanks and then the trimmed middle
  have hrest : rest = trimChars cs ++ (rest.reverse.takeWhile isBlank).reverse := by
    conv_lhs => rw [← List.reverse_reverse rest,
      ← List.takeWhile_append_dropWhile (p := isBlank) (l := rest.reverse)]
    rw [List.reverse_append, trimChars]
  conv_lhs => rw [← List.takeWhile_append_dropWhile (p := isBlank) (l := cs)]
  rw [List.append_assoc, ← hrest]

/-- Characters that are not slug characters, written onto an empty slug, leave it empty. -/
theorem foldl_slugStep_nil {cs : List Char} (h : ∀ c ∈ cs, isSlugChar c = false) :
    cs.foldl slugStep [] = [] := by
  induction cs with
  | nil => rfl
  | cons c cs ih =>
    rw [List.foldl_cons, slugStep_nil (h c List.mem_cons_self)]
    exact ih fun d hd => h d (List.mem_cons_of_mem c hd)

/-- After one character that is not a slug character, more such characters change nothing. -/
theorem slugStep_slugStep {c d : Char} (hc : isSlugChar c = false) (hd : isSlugChar d = false)
    (acc : List Char) : slugStep (slugStep acc c) d = slugStep acc c := by
  match acc with
  | [] => rw [slugStep_nil hc, slugStep_nil hd]
  | '-' :: rest => rw [slugStep_hyphen hc, slugStep_hyphen hd]
  | a :: rest =>
    by_cases ha : a = '-'
    · subst ha
      rw [slugStep_hyphen hc, slugStep_hyphen hd]
    · rw [slugStep_other hc ha, slugStep_hyphen hd]

theorem foldl_slugStep_of_not_slug {c : Char} {cs : List Char} (hc : isSlugChar c = false)
    (h : ∀ d ∈ cs, isSlugChar d = false) (acc : List Char) :
    cs.foldl slugStep (slugStep acc c) = slugStep acc c := by
  induction cs with
  | nil => rfl
  | cons d cs ih =>
    rw [List.foldl_cons, slugStep_slugStep hc (h d List.mem_cons_self)]
    exact ih fun e he => h e (List.mem_cons_of_mem d he)

/-- Blanks around a name add at most one hyphen at the end of its reversed slug, or keep it. -/
theorem slugRev_blank_around {pre m post : List Char} (hpre : ∀ c ∈ pre, isBlank c = true)
    (hpost : ∀ c ∈ post, isBlank c = true) :
    slugRev (pre ++ m ++ post) = slugRev m ∨
      ∃ c, isSlugChar c = false ∧ slugRev (pre ++ m ++ post) = slugStep (slugRev m) c := by
  have hlower : ∀ {bs : List Char}, (∀ c ∈ bs, isBlank c = true) → bs.flatMap lowercase = bs :=
    fun hb => by
      rw [List.flatMap_congr fun c hc => lowercase_of_isBlank (hb c hc)]
      simp
  have hslug : ∀ {bs : List Char}, (∀ c ∈ bs, isBlank c = true) → ∀ c ∈ bs, isSlugChar c = false :=
    fun hb c hc => isSlugChar_of_isBlank (hb c hc)
  have hrun : slugRev (pre ++ m ++ post) = post.foldl slugStep (slugRev m) := by
    rw [slugRev, List.flatMap_append, List.flatMap_append, hlower hpre, hlower hpost,
      List.foldl_append, List.foldl_append, foldl_slugStep_nil (hslug hpre), slugRev]
  rw [hrun]
  cases post with
  | nil => exact .inl rfl
  | cons c rest =>
    have hc := hslug hpost c List.mem_cons_self
    refine .inr ⟨c, hc, ?_⟩
    rw [List.foldl_cons]
    exact foldl_slugStep_of_not_slug hc (fun d hd => hslug hpost d (List.mem_cons_of_mem c hd)) _

/-- A hyphen added at the end of a reversed slug is dropped again. -/
theorem slugify_of_slugRev_step {s t : String} {c : Char} (hc : isSlugChar c = false)
    (h : slugRev s.toList = slugStep (slugRev t.toList) c) : slugify s = slugify t := by
  cases ht : slugRev t.toList with
  | nil =>
    rw [ht, slugStep_nil hc] at h
    rw [slugify_of_no_trailing (by simp [h]), slugify_of_no_trailing (by simp [ht]), h, ht]
  | cons a rest =>
    by_cases ha : a = '-'
    · subst ha
      rw [ht, slugStep_hyphen hc] at h
      rw [slugify_of_trailing h, slugify_of_trailing ht]
    · rw [ht, slugStep_other hc ha] at h
      rw [slugify_of_trailing h, slugify_of_no_trailing (by simp [ht, ha]), ht]

/-- Trimming a name first changes no slug: blanks at either end become at most a trailing
hyphen, which is dropped. -/
theorem slugify_trim (s : String) : slugify (trim s) = slugify s := by
  obtain ⟨pre, post, hpre, hpost, hsplit⟩ := trimChars_split s.toList
  have htrim : (trim s).toList = trimChars s.toList := String.toList_ofList
  rcases slugRev_blank_around (m := trimChars s.toList) hpre hpost with heq | ⟨c, hc, hstep⟩
  · rw [← hsplit, ← htrim] at heq
    unfold slugify
    rw [heq]
  · rw [← hsplit, ← htrim] at hstep
    exact (slugify_of_slugRev_step hc hstep).symm

end Text

end ForgeSync
