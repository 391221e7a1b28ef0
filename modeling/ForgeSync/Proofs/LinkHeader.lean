import Mathlib.Data.List.TakeWhile
import ForgeSync.Transport.Link

/-!
# Reading the next page from a link header

A link header is a list of link values, each a target in angle brackets followed by its
parameters, written `<target>; param; param`, the values separated by `, `.  The page a
listing continues at is read from the first value that has the parameter `rel="next"` and
whose target's query has a `page` parameter holding a number.

The reader does not parse this grammar: it cuts the whole header at every comma and each
piece at every semicolon, and takes everything after the target's first question mark as its
query.  So it reads the rendered form of a list of link values right exactly when those cuts
fall where the grammar's separators are: no target or parameter holds a comma or a semicolon,
no target holds a fragment, and no parameter starts or ends with a blank.  A comma in a target
(`?labels=a,b&page=3`) is cut through, and the next page is missed.

The intended reading is stated on the link values themselves (`Link.intendedNext`): the query
of a target runs from its first `?` to its fragment, and each query parameter is cut at its
first `=`.

Main statements: `nextPage_render_plain`, and `nextPage_comma_in_target` for the comma.
-/

namespace ForgeSync

/-! ### Trimming -/

namespace Text

theorem dropWhile_eq_self {p : Char → Bool} {l : List Char} (h : ∀ c ∈ l.head?, p c = false) :
    l.dropWhile p = l := by
  cases l with
  | nil => rfl
  | cons c cs => simp [h c rfl]

/-- A text that neither starts nor ends with a blank is kept by trimming. -/
theorem trimChars_eq_self {l : List Char} (hh : ∀ c ∈ l.head?, isBlank c = false)
    (hl : ∀ c ∈ l.getLast?, isBlank c = false) : trimChars l = l := by
  have hrev : ∀ c ∈ l.reverse.head?, isBlank c = false := by
    rw [List.head?_reverse]
    exact hl
  rw [trimChars, dropWhile_eq_self hh, dropWhile_eq_self hrev, List.reverse_reverse]

/-- The space that follows each separator of a link header is a blank. -/
theorem isBlank_of_mem_space : ∀ c ∈ [' '], isBlank c = true :=
  List.forall_mem_singleton.mpr (by decide)

/-- Blanks before a text are dropped by trimming. -/
theorem trimChars_blank_append {lead : List Char} (h : ∀ c ∈ lead, isBlank c = true)
    (l : List Char) : trimChars (lead ++ l) = trimChars l := by
  simp only [trimChars, List.dropWhile_append_of_pos h]

end Text

namespace Link

/-! ### Link values, their text and their intended reading -/

/-- A link value: a target and its parameters. -/
structure Value where
  target : String
  params : List String
  deriving Repr, DecidableEq

/-- The text of a link value: the target in angle brackets, then `; param` for each
parameter. -/
def Value.render (v : Value) : List Char :=
  '<' :: v.target.toList ++ '>' :: v.params.flatMap (fun p => ';' :: ' ' :: p.toList)

/-- The text of a link header: the link values separated by `, `. -/
def render (vs : List Value) : String :=
  String.ofList ([',', ' '].intercalate (vs.map Value.render))

/-- The query of a URI reference: the text after its first `?`, up to a fragment. -/
def uriQuery? (u : List Char) : Option (List Char) :=
  let beforeFragment := u.takeWhile (· != '#')
  if '?' ∈ beforeFragment then some (beforeFragment.dropWhile (· != '?')).tail else none

/-- The page a query parameter names: its name, before the first `=`, is `page`, and its
value, after that `=`, is a number. -/
def pageOfParam? (param : List Char) : Option Nat :=
  if '=' ∈ param ∧ param.takeWhile (· != '=') = "page".toList then
    pageNumber? (param.dropWhile (· != '=')).tail
  else none

/-- The page a link value names, if it is a `rel="next"` link. -/
def Value.intendedNext (v : Value) : Option Nat :=
  if "rel=\"next\"" ∈ v.params then
    (uriQuery? v.target.toList).bind fun q => (q.splitOn '&').findSome? pageOfParam?
  else none

/-- The next page of a list of link values: the first page parameter holding a number in the
first `rel="next"` link that has one. -/
def intendedNext (vs : List Value) : Option Nat :=
  vs.findSome? Value.intendedNext

/-- A target the reader's cuts leave whole: no angle bracket, blank, comma, semicolon or
fragment mark. -/
def PlainTarget (u : String) : Prop :=
  ∀ c ∈ u.toList, c ≠ '<' ∧ c ≠ '>' ∧ c ≠ ',' ∧ c ≠ ';' ∧ c ≠ '#' ∧ Text.isBlank c = false

instance (u : String) : Decidable (PlainTarget u) :=
  List.decidableBAll _ u.toList

/-- A parameter the reader's cuts leave whole: no comma or semicolon, and no blank at either
end. -/
def PlainParam (p : String) : Prop :=
  (∀ c ∈ p.toList, c ≠ ',' ∧ c ≠ ';') ∧ (∀ c ∈ p.toList.head?, Text.isBlank c = false) ∧
    (∀ c ∈ p.toList.getLast?, Text.isBlank c = false)

-- the instances are named so that no search over all characters is found in their place
instance (p : String) : Decidable (PlainParam p) :=
  @instDecidableAnd _ _ (List.decidableBAll _ p.toList)
    (@instDecidableAnd _ _ (Option.decidableForallMem _) (Option.decidableForallMem _))

/-- A link value the reader's cuts leave whole. -/
def Value.Plain (v : Value) : Prop :=
  PlainTarget v.target ∧ ∀ p ∈ v.params, PlainParam p

instance (v : Value) : Decidable v.Plain :=
  @instDecidableAnd _ _ inferInstance (List.decidableBAll _ v.params)

/-! ### Cutting at the first separator -/

/-- A list that holds the separator is cut before its first occurrence, and the rest is cut
on. -/
theorem splitOn_of_mem {x : Char} {l : List Char} (h : x ∈ l) :
    l.splitOn x = l.takeWhile (· != x) :: (l.dropWhile (· != x)).tail.splitOn x := by
  induction l with
  | nil => simp at h
  | cons c cs ih =>
    rw [List.splitOn_cons_eq_if_modifyHead]
    by_cases hc : c = x
    · subst hc
      simp
    · have hx : x ∈ cs := by
        rcases List.mem_cons.mp h with hxc | hx
        · exact absurd hxc.symm hc
        · exact hx
      rw [ih hx]
      simp [hc]

/-- A list that holds the separator splits into its text before the first separator and at
least one more piece; the pieces after the first, joined back, are the text after it. -/
theorem splitOn_of_mem_joined {x : Char} {l : List Char} (h : x ∈ l) :
    ∃ r rs, l.splitOn x = l.takeWhile (· != x) :: r :: rs ∧
      [x].intercalate (r :: rs) = (l.dropWhile (· != x)).tail := by
  obtain ⟨r, rs, hr⟩ :=
    List.exists_cons_of_ne_nil (List.splitOn_ne_nil x (l.dropWhile (· != x)).tail)
  refine ⟨r, rs, ?_, hr ▸ List.intercalate_splitOn x⟩
  rw [splitOn_of_mem h, hr]

theorem queryOf?_eq (u : List Char) :
    queryOf? u = if '?' ∈ u then some (u.dropWhile (· != '?')).tail else none := by
  unfold queryOf?
  by_cases h : '?' ∈ u
  · obtain ⟨r, rs, hsplit, hjoin⟩ := splitOn_of_mem_joined h
    rw [hsplit, if_pos h]
    exact congrArg some hjoin
  · rw [List.splitOn_eq_singleton h, if_neg h]

/-- The reader's way of naming a page in one query parameter is `pageOfParam?`. -/
theorem pageParam?_eq (q : List Char) : pageParam? q = (q.splitOn '&').findSome? pageOfParam? := by
  unfold pageParam?
  congr 1
  funext pair
  unfold pageOfParam?
  by_cases h : '=' ∈ pair
  · obtain ⟨r, rs, hsplit, hjoin⟩ := splitOn_of_mem_joined h
    rw [hsplit]
    dsimp only
    rw [show "=".toList = ['='] from rfl, hjoin]
    by_cases hkey : pair.takeWhile (· != '=') = "page".toList
    · rw [if_pos (beq_iff_eq.mpr hkey), if_pos ⟨h, hkey⟩]
    · rw [if_neg (by simpa using hkey), if_neg (fun hk => hkey hk.2)]
  · rw [List.splitOn_eq_singleton h, if_neg (fun hk => h hk.1)]

/-- Without a fragment, the query is everything after the first `?`. -/
theorem uriQuery?_of_no_fragment {u : List Char} (h : '#' ∉ u) :
    uriQuery? u = if '?' ∈ u then some (u.dropWhile (· != '?')).tail else none := by
  have hkeep : u.takeWhile (· != '#') = u :=
    List.takeWhile_eq_self_iff.mpr fun c hc => by
      have hne : c ≠ '#' := fun hce => h (hce ▸ hc)
      simpa using hne
  simp only [uriQuery?, hkeep]

/-! ### Cutting the header -/

/-- Link values separated by `, ` are pieces separated by commas, each after the first
starting with a space. -/
theorem intercalate_comma_space (x : List Char) (xs : List (List Char)) :
    [',', ' '].intercalate (x :: xs) = [','].intercalate (x :: xs.map (' ' :: ·)) := by
  induction xs generalizing x with
  | nil => simp
  | cons y ys ih =>
    rw [List.intercalate_cons_cons, ih, List.map_cons, List.intercalate_cons_cons]
    simp

/-- Parameters written after a piece are pieces of their own, separated by semicolons. -/
theorem append_flatMap_params (a : List Char) (ps : List String) :
    a ++ ps.flatMap (fun p => ';' :: ' ' :: p.toList) =
      [';'].intercalate (a :: ps.map (fun p => ' ' :: p.toList)) := by
  induction ps generalizing a with
  | nil => simp
  | cons p ps ih =>
    rw [List.flatMap_cons, List.map_cons, List.intercalate_cons_cons, ← ih]
    simp

theorem comma_not_mem_render {v : Value} (hv : v.Plain) : ',' ∉ v.render := by
  obtain ⟨ht, hps⟩ := hv
  intro h
  simp only [Value.render, List.mem_cons, List.mem_append, List.mem_flatMap] at h
  rcases h with (h | h) | h | ⟨p, hp, h | h | h⟩
  · exact absurd h (by decide)
  · exact (ht _ h).2.2.1 rfl
  · exact absurd h (by decide)
  · exact absurd h (by decide)
  · exact absurd h (by decide)
  · exact ((hps p hp).1 _ h).1 rfl

/-- Two searches agree when their functions agree on the list. -/
theorem findSome?_congr_mem {α β : Type} {f g : α → Option β} {l : List α}
    (h : ∀ a ∈ l, f a = g a) : l.findSome? f = l.findSome? g := by
  induction l with
  | nil => rfl
  | cons a as ih =>
    rw [List.findSome?_cons, List.findSome?_cons, h a List.mem_cons_self,
      ih fun b hb => h b (List.mem_cons_of_mem a hb)]

/-- Trimming a parameter piece gives the parameter. -/
theorem trimChars_param {p : String} (hp : PlainParam p) :
    Text.trimChars (' ' :: p.toList) = p.toList :=
  (Text.trimChars_blank_append Text.isBlank_of_mem_space p.toList).trans
    (Text.trimChars_eq_self hp.2.1 hp.2.2)

/-- The target piece, once trimmed and taken out of its angle brackets, is the target. -/
theorem target_of_piece {lead : List Char} (hlead : ∀ c ∈ lead, Text.isBlank c = true)
    {u : String} (hu : PlainTarget u) :
    (((Text.trimChars (lead ++ '<' :: u.toList ++ ['>'])).dropWhile (· == '<')).reverse.dropWhile
      (· == '>')).reverse = u.toList := by
  have htrim : Text.trimChars (lead ++ '<' :: u.toList ++ ['>']) = '<' :: (u.toList ++ ['>']) := by
    rw [List.append_assoc, Text.trimChars_blank_append hlead, List.cons_append]
    apply Text.trimChars_eq_self
    · rintro c ⟨⟩
      decide
    · intro c hc
      rw [List.getLast?_cons, List.getLast?_concat, Option.getD_some] at hc
      cases hc
      decide
  -- the target neither starts with `<` nor ends with `>`, so only the brackets are dropped
  have hopen : (u.toList ++ ['>']).dropWhile (· == '<') = u.toList ++ ['>'] := by
    apply Text.dropWhile_eq_self
    intro c hc
    rw [List.head?_append] at hc
    cases hu0 : u.toList.head? with
    | none =>
      rw [hu0] at hc
      cases hc
      decide
    | some d =>
      rw [hu0] at hc
      cases hc
      simpa using (hu _ (List.mem_of_mem_head? hu0)).1
  have hclose : u.toList.reverse.dropWhile (· == '>') = u.toList.reverse := by
    apply Text.dropWhile_eq_self
    intro c hc
    rw [List.head?_reverse] at hc
    simpa using (hu c (List.mem_of_getLast? hc)).2.1
  rw [htrim, List.dropWhile_cons_of_pos (by decide), hopen, List.reverse_append]
  rw [show ['>'].reverse ++ u.toList.reverse = '>' :: u.toList.reverse from rfl,
    List.dropWhile_cons_of_pos (by decide), hclose, List.reverse_reverse]

/-- Each piece of the header between commas, after leading blanks, names the page its link
value names. -/
theorem nextOfLink?_blank_append_render (lead : List Char)
    (hlead : ∀ c ∈ lead, Text.isBlank c = true) (v : Value) (hv : v.Plain) :
    nextOfLink? (lead ++ v.render) = v.intendedNext := by
  obtain ⟨hu, hps⟩ := hv
  -- the pieces between semicolons are the target and the parameters
  have hsplit : (lead ++ v.render).splitOn ';' =
      (lead ++ '<' :: v.target.toList ++ ['>']) :: v.params.map (fun p => ' ' :: p.toList) := by
    have hjoin : lead ++ v.render = [';'].intercalate
        ((lead ++ '<' :: v.target.toList ++ ['>']) :: v.params.map (fun p => ' ' :: p.toList)) := by
      rw [← append_flatMap_params]
      simp [Value.render]
    rw [hjoin]
    apply List.splitOn_intercalate ';' _ (List.cons_ne_nil _ _)
    simp only [List.forall_mem_cons, List.forall_mem_map]
    constructor
    · intro h
      simp only [List.mem_append, List.mem_cons] at h
      rcases h with (h | h | h) | h
      · exact absurd (hlead _ h) (by decide)
      · exact absurd h (by decide)
      · exact (hu _ h).2.2.2.1 rfl
      · exact absurd h (by decide)
    · intro p hp h
      rcases List.mem_cons.mp h with h | h
      · exact absurd h (by decide)
      · exact ((hps p hp).1 _ h).2 rfl
  -- a parameter piece is `rel="next"` once trimmed exactly when the parameter is
  have hrel : (v.params.map (fun p => ' ' :: p.toList)).any
      (fun p => Text.trimChars p == "rel=\"next\"".toList) =
        decide ("rel=\"next\"" ∈ v.params) := by
    rw [Bool.eq_iff_iff, List.any_eq_true, decide_eq_true_iff]
    constructor
    · rintro ⟨q, hq, hr⟩
      obtain ⟨p, hp, rfl⟩ := List.mem_map.mp hq
      rw [trimChars_param (hps p hp), beq_iff_eq, String.toList_inj] at hr
      exact hr ▸ hp
    · intro h
      refine ⟨_, List.mem_map_of_mem h, ?_⟩
      rw [trimChars_param (hps _ h)]
      exact beq_self_eq_true _
  have hpage : pageParam? = fun q => (q.splitOn '&').findSome? pageOfParam? := funext pageParam?_eq
  have hfrag : '#' ∉ v.target.toList := fun h => (hu _ h).2.2.2.2.1 rfl
  unfold nextOfLink?
  rw [hsplit]
  dsimp only
  rw [hrel, target_of_piece hlead hu, queryOf?_eq, ← uriQuery?_of_no_fragment hfrag, hpage]
  simp only [Value.intendedNext, decide_eq_true_eq]

/-! ### The whole header -/

/-- The reader finds the next page of every header rendered from link values that its cuts
leave whole: the first page in the first `rel="next"` link that names one, and none if no such
link does. -/
theorem nextPage_render_plain (vs : List Value) (hvs : ∀ v ∈ vs, v.Plain) :
    nextPage? (render vs) = intendedNext vs := by
  cases vs with
  | nil => rfl
  | cons v ws =>
    have hv : v.Plain := hvs v List.mem_cons_self
    have hws : ∀ w ∈ ws, w.Plain := fun w hw => hvs w (List.mem_cons_of_mem v hw)
    -- the pieces between commas are the values, each after the first led by a space
    have hsplit : (render (v :: ws)).toList.splitOn ',' =
        v.render :: ws.map (fun w => ' ' :: w.render) := by
      rw [render, String.toList_ofList, List.map_cons, intercalate_comma_space, List.map_map]
      apply List.splitOn_intercalate ',' _ (List.cons_ne_nil _ _)
      simp only [List.forall_mem_cons, List.forall_mem_map, Function.comp]
      refine ⟨comma_not_mem_render hv, fun w hw h => ?_⟩
      rcases List.mem_cons.mp h with h | h
      · exact absurd h (by decide)
      · exact comma_not_mem_render (hws w hw) h
    have hfirst : nextOfLink? v.render = v.intendedNext :=
      nextOfLink?_blank_append_render [] (by simp) v hv
    have hrest : ws.findSome? (nextOfLink? ∘ fun w => ' ' :: w.render) = intendedNext ws :=
      findSome?_congr_mem fun w hw =>
        nextOfLink?_blank_append_render [' '] Text.isBlank_of_mem_space w (hws w hw)
    rw [nextPage?, hsplit, intendedNext, List.findSome?_cons, List.findSome?_cons, hfirst,
      List.findSome?_map, hrest, intendedNext]

/-- A listing header of the usual shape, a previous and a next link, names the next link's
page. -/
theorem nextPage_render_prev_next :
    let vs : List Value := [⟨"https://api.github.com/r?page=2", ["rel=\"prev\""]⟩,
      ⟨"https://api.github.com/r?per_page=50&page=4", ["rel=\"next\""]⟩]
    (∀ v ∈ vs, v.Plain) ∧ nextPage? (render vs) = some 4 :=
  ⟨by decide, (nextPage_render_plain _ (by decide)).trans (by decide)⟩

/-- A comma inside a target, which a query may hold, is cut through: the reader misses the
page of a `rel="next"` link to a target with no angle bracket or blank in it. -/
theorem nextPage_comma_in_target :
    let vs : List Value := [⟨"https://api.github.com/orgs/o/repos?q=a,b&page=3", ["rel=\"next\""]⟩]
    (vs.all fun v => v.target.toList.all fun c => c != '<' && c != '>' && !Text.isBlank c) ∧
      intendedNext vs = some 3 ∧ nextPage? (render vs) = none := by
  decide

end Link

end ForgeSync
