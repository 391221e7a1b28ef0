import ForgeSync.Config

/-!
# Effective settings of a checked configuration

Validation looks only at the values a file gives, while the effective settings come from those
values laid over defaults.  This module says exactly what validation accepts (`Checked`, one
condition per field a file may give) and reads the effective settings of every accepted file
off it: retried statuses lie in 100–599, page limits are absent or positive, the timeout is
positive, the service name denotes a service, and a client can be made unless a Bitbucket
Server configuration names no API root.  Making a client is taken to fail only on what is
modelled of it, a malformed header or user agent, which the defaults never are; an HTTP
library whose own set-up fails is outside this statement.

The two service-name checks agree although they are written apart: validation looks the
lowercased name up in the list of accepted names, and choosing the service matches it against
each name in turn.  The API root's fallback compares the name by ASCII case folding instead;
for `github` the two foldings agree, because no character other than an ASCII letter
lowercases into the letters of `github`.

The order of the two retry waits is where the split shows: validation compares them only when
the file gives both.  A file that gives one wait alone is never compared with the other wait's
default, so a lone minimum above 30 seconds, or a lone maximum below 1 second, is accepted
with its waits out of order.  The transport tolerates that by design (its schedule caps each
wait at the larger of the two bounds).

Main statements: `validated_settings_effective`, and `lone_wait_min_above_default` for the
waits.
-/

namespace ForgeSync

/-! ### Checks one after another -/

section Sequence

variable {α ε : Type}

theorem bind_unit_eq_ok {x y : Except ε Unit} :
    (x >>= fun _ => y) = .ok () ↔ x = .ok () ∧ y = .ok () := by
  cases x <;> simp [bind, Except.bind]

theorem forM_eq_ok_iff {o : Option α} {f : α → Except ε Unit} :
    o.forM f = .ok () ↔ ∀ a, o = some a → f a = .ok () := by
  cases o <;> simp [Option.forM, pure, Except.pure]

end Sequence

theorem checkNonZero_eq_ok_iff (field : String) (v : Option Nat) :
    checkNonZero field v = .ok () ↔ v ≠ some 0 := by
  unfold checkNonZero
  by_cases hv : v = some 0 <;> simp [hv, throw, throwThe, MonadExceptOf.throw, pure, Except.pure]

/-! ### What validation accepts -/

namespace RetrySettings

theorem checkWaits_eq_ok_iff (lo? hi? : Option Nat) :
    checkWaits lo? hi? = .ok () ↔ ∀ lo hi, lo? = some lo → hi? = some hi → lo ≤ hi := by
  cases lo? with
  | none => simp [checkWaits, pure, Except.pure]
  | some lo =>
    cases hi? with
    | none => simp [checkWaits, pure, Except.pure]
    | some hi =>
      by_cases h : hi < lo
      · simp [checkWaits, h, throw, throwThe, MonadExceptOf.throw]
      · simp only [checkWaits, h, if_false, pure, Except.pure, Option.some.injEq, true_iff]
        rintro _ _ rfl rfl
        omega

theorem checkStatuses_eq_ok_iff (l : List Nat) :
    checkStatuses l = .ok () ↔ ∀ st ∈ l, 100 ≤ st ∧ st ≤ 599 := by
  unfold checkStatuses
  cases hf : l.find? (fun s => s < 100 || 599 < s) with
  | some bad =>
    -- the first status outside the range is a witness against the range
    simp only [throw, throwThe, MonadExceptOf.throw, reduceCtorEq, false_iff]
    intro hall
    have hin := hall bad (List.mem_of_find?_eq_some hf)
    have hout := List.find?_some hf
    simp only [Bool.or_eq_true, decide_eq_true_eq] at hout
    omega
  | none =>
    simp only [pure, Except.pure, true_iff]
    intro st hst
    have hin := List.find?_eq_none.mp hf st hst
    simp only [Bool.or_eq_true, decide_eq_true_eq, not_or, Nat.not_lt] at hin
    omega

/-- Retry settings that validation accepts: the waits are in order when both are given, and
every retried status lies in 100–599. -/
structure Checked (r : RetrySettings) : Prop where
  waits : ∀ lo hi, r.waitMinMs = some lo → r.waitMaxMs = some hi → lo ≤ hi
  statuses : ∀ st ∈ r.statuses.getD [], 100 ≤ st ∧ st ≤ 599

theorem validate_eq_ok_iff (r : RetrySettings) : r.validate = .ok () ↔ r.Checked := by
  show (checkWaits r.waitMinMs r.waitMaxMs >>= fun _ => checkStatuses (r.statuses.getD [])) = _ ↔ _
  rw [bind_unit_eq_ok, checkWaits_eq_ok_iff, checkStatuses_eq_ok_iff]
  exact ⟨fun h => ⟨h.1, h.2⟩, fun h => ⟨h.waits, h.statuses⟩⟩

end RetrySettings

namespace PageSettings

/-- Paging settings that validation accepts: neither limit is zero. -/
structure Checked (p : PageSettings) : Prop where
  limit : p.limit ≠ some 0
  maxPages : p.maxPages ≠ some 0

theorem validate_eq_ok_iff (p : PageSettings) : p.validate = .ok () ↔ p.Checked := by
  show (checkNonZero "pagination.limit" p.limit >>= fun _ =>
    checkNonZero "pagination.max_pages" p.maxPages) = _ ↔ _
  rw [bind_unit_eq_ok, checkNonZero_eq_ok_iff, checkNonZero_eq_ok_iff]
  exact ⟨fun h => ⟨h.1, h.2⟩, fun h => ⟨h.limit, h.maxPages⟩⟩

end PageSettings

namespace Settings

theorem checkProvider_eq_ok_iff (p? : Option String) :
    checkProvider p? = .ok () ↔ ∀ p, p? = some p → Text.lowercaseText p ∈ serviceNames := by
  cases p? with
  | none => simp [checkProvider, pure, Except.pure]
  | some p =>
    by_cases h : Text.lowercaseText p ∈ serviceNames
    · simp [checkProvider, h, pure, Except.pure]
    · simp [checkProvider, h, throw, throwThe, MonadExceptOf.throw]

theorem checkBaseUrl_eq_ok_iff (u? : Option String) :
    checkBaseUrl u? = .ok () ↔
      ∀ url, u? = some url → url.startsWith "https://" = true ∨ url.startsWith "http://" = true := by
  cases u? with
  | none => simp [checkBaseUrl, pure, Except.pure]
  | some url =>
    simp only [checkBaseUrl]
    cases hb : (url.startsWith "https://" || url.startsWith "http://") with
    | true =>
      simp only [Bool.not_true, Bool.false_eq_true, if_false, pure, Except.pure, true_iff]
      rintro _ ⟨⟩
      simpa only [Bool.or_eq_true] using hb
    | false =>
      simp only [Bool.not_false, if_true, throw, throwThe, MonadExceptOf.throw, reduceCtorEq,
        false_iff]
      intro hall
      obtain ⟨hs, hh⟩ := Bool.or_eq_false_iff.mp hb
      rcases hall url rfl with h | h
      · rw [hs] at h
        cases h
      · rw [hh] at h
        cases h

/-- The files validation accepts, one condition per field a file may give: a named service is
one of the accepted names once lowercased, an API root is an `https://` or `http://` address,
a timeout is not zero, and retry and paging settings pass their own checks. -/
structure Checked (s : Settings) : Prop where
  provider : ∀ p, s.provider = some p → Text.lowercaseText p ∈ serviceNames
  baseUrl : ∀ url, s.baseUrl = some url →
    url.startsWith "https://" = true ∨ url.startsWith "http://" = true
  timeout : s.timeoutSecs ≠ some 0
  retry : ∀ r, s.retry = some r → r.Checked
  pagination : ∀ p, s.pagination = some p → p.Checked

/-- Validation accepts exactly the files whose given values pass their checks. -/
theorem validate_eq_ok_iff (s : Settings) : s.validate = .ok () ↔ s.Checked := by
  show (checkProvider s.provider >>= fun _ => checkBaseUrl s.baseUrl >>= fun _ =>
    checkNonZero "timeout_secs" s.timeoutSecs >>= fun _ =>
    s.retry.forM RetrySettings.validate >>= fun _ => s.pagination.forM PageSettings.validate) = _ ↔ _
  simp only [bind_unit_eq_ok, checkProvider_eq_ok_iff, checkBaseUrl_eq_ok_iff,
    checkNonZero_eq_ok_iff, forM_eq_ok_iff, RetrySettings.validate_eq_ok_iff,
    PageSettings.validate_eq_ok_iff]
  constructor
  · rintro ⟨hp, hu, ht, hr, hg⟩
    exact ⟨hp, hu, ht, hr, hg⟩
  · rintro ⟨hp, hu, ht, hr, hg⟩
    exact ⟨hp, hu, ht, hr, hg⟩

end Settings

/-! ### Service names under two foldings -/

namespace Text

theorem lowercase_of_ne {c : Char} (h130 : c.toNat ≠ 0x130) (h212A : c.toNat ≠ 0x212A) :
    lowercase c = [c.toLower] := by
  simp [lowercase, h130, h212A]

theorem toList_lowercaseText (s : String) :
    (lowercaseText s).toList = s.toList.flatMap lowercase := by
  simp [lowercaseText]

theorem toList_asciiLower (s : String) : (asciiLower s).toList = s.toList.map Char.toLower := by
  simp [asciiLower]

theorem flatMap_lowercase_eq_map {cs : List Char}
    (h : ∀ c ∈ cs, c.toNat ≠ 0x130 ∧ c.toNat ≠ 0x212A) :
    cs.flatMap lowercase = cs.map Char.toLower := by
  induction cs with
  | nil => rfl
  | cons c cs ih =>
    have hc := h c List.mem_cons_self
    rw [List.flatMap_cons, List.map_cons, lowercase_of_ne hc.1 hc.2, List.singleton_append,
      ih fun d hd => h d (List.mem_cons_of_mem c hd)]

/-- Without the capital I with dot above and the Kelvin sign, full lowercasing is ASCII
folding. -/
theorem lowercaseText_eq_asciiLower {s : String}
    (h : ∀ c ∈ s.toList, c.toNat ≠ 0x130 ∧ c.toNat ≠ 0x212A) :
    lowercaseText s = asciiLower s := by
  apply String.toList_injective
  rw [toList_lowercaseText, toList_asciiLower, flatMap_lowercase_eq_map h]

theorem mem_lowercaseText {s : String} {c d : Char} (hc : c ∈ s.toList) (hd : d ∈ lowercase c) :
    d ∈ (lowercaseText s).toList := by
  rw [toList_lowercaseText, List.mem_flatMap]
  exact ⟨c, hc, hd⟩

/-- A text whose full lowercase form holds neither `k` nor the combining dot above is folded
to that form by ASCII folding too: neither special character can be in it. -/
theorem asciiLower_eq_of_lowercaseText {s t : String} (h : lowercaseText s = t)
    (hk : 'k' ∉ t.toList) (hdot : Char.ofNat 0x307 ∉ t.toList) : asciiLower s = t := by
  rw [← h]
  symm
  apply lowercaseText_eq_asciiLower
  intro c hc
  constructor
  · intro h130
    apply hdot
    rw [← h]
    exact mem_lowercaseText hc (by simp [lowercase, h130])
  · intro h212A
    apply hk
    rw [← h]
    exact mem_lowercaseText hc (by simp [lowercase, h212A])

end Text

namespace Service

/-- A name denotes a service exactly when validation accepts it. -/
theorem ofName?_isSome_iff (name : String) :
    (ofName? name).isSome ↔ Text.lowercaseText name ∈ serviceNames := by
  unfold ofName?
  by_cases hg : Text.lowercaseText name = "github"
  · simp [hg, serviceNames]
  · by_cases hs : Text.lowercaseText name = "stash"
    · simp [hs, serviceNames]
    · by_cases hb : Text.lowercaseText name = "bitbucket-server"
      · simp [hb, serviceNames]
      · simp [hg, hs, hb, serviceNames]

/-- A name that denotes GitHub is `github` under ASCII folding as well. -/
theorem asciiLower_of_ofName?_github {name : String} (h : ofName? name = some .github) :
    Text.asciiLower name = "github" := by
  have hl : Text.lowercaseText name = "github" := by
    unfold ofName? at h
    by_cases hg : Text.lowercaseText name = "github"
    · exact hg
    · simp [hg] at h
  exact Text.asciiLower_eq_of_lowercaseText hl (by decide) (by decide)

end Service

/-! ### Making a client -/

namespace Header

theorem pair_of_valid {n v : String} (hn : validName n = true) (hv : validValue v = true) :
    pair n v = .ok (Text.asciiLower n, v) := by
  simp [pair, hn, hv]

/-- Headers that are all valid are all set. -/
theorem insertAll_ok_of_valid : ∀ (given base : List (String × String)),
    (∀ h ∈ given, validName h.1 = true ∧ validValue h.2 = true) →
      ∃ hs, insertAll base given = .ok hs
  | [], base, _ => ⟨base, rfl⟩
  | (n, v) :: rest, base, h => by
    have hnv : validName n = true ∧ validValue v = true := h (n, v) List.mem_cons_self
    have hrest := insertAll_ok_of_valid rest (insert base (Text.asciiLower n, v))
      (fun g hg => h g (List.mem_cons_of_mem _ hg))
    unfold insertAll at hrest ⊢
    rw [List.foldlM_cons]
    dsimp only
    rw [pair_of_valid hnv.1 hnv.2]
    exact hrest

end Header

/-- Each service's own headers are valid.  The names hold a hyphen, which is checked against
the list of token characters, so they are unfolded rather than evaluated. -/
theorem Service.defaultHeaders_valid (svc : Service) :
    ∀ h ∈ svc.defaultHeaders, Header.validName h.1 = true ∧ Header.validValue h.2 = true := by
  cases svc with
  | bitbucket =>
    simp only [Service.defaultHeaders, List.mem_singleton, forall_eq]
    refine ⟨?_, by decide⟩
    simp [Header.validName, Header.isNameChar, String.contains]
    decide
  | github =>
    simp only [Service.defaultHeaders, List.mem_cons, List.not_mem_nil, or_false,
      forall_eq_or_imp, forall_eq]
    refine ⟨⟨by decide, by decide⟩, ?_, by decide⟩
    simp [Header.validName, Header.isNameChar, String.contains]
    decide

/-- The HTTP client for a service's own headers and the default user agent is always made. -/
theorem HttpSettings.build_defaultHeaders (svc : Service) (b : String) (a : Auth)
    (r : RetryPolicy) :
    ∃ c, ({ baseUrl := b, auth := a, headers := svc.defaultHeaders, retry := r } :
      HttpSettings).build = .ok c := by
  obtain ⟨hs, hhs⟩ :=
    Header.insertAll_ok_of_valid svc.defaultHeaders jsonHeaders svc.defaultHeaders_valid
  have hua : Header.validValue defaultUserAgent = true := by decide
  unfold HttpSettings.build
  simp only [hhs, hua]
  exact ⟨_, rfl⟩

/-- The statuses a checked retry table makes effective, its own or the default ones, lie in
100–599. -/
theorem RetrySettings.policy_statuses_mem {r : RetrySettings} (hr : r.Checked) :
    ∀ st ∈ r.policy.statuses, 100 ≤ st ∧ st ≤ 599 := by
  cases hs : r.statuses with
  | none =>
    have hd : r.policy.statuses = ({} : RetryPolicy).statuses := by
      simp [RetrySettings.policy, hs]
    rw [hd]
    decide
  | some l =>
    have hd : r.policy.statuses = l := by
      simp [RetrySettings.policy, hs]
    rw [hd]
    simpa [hs] using hr.statuses

namespace Settings

theorem apiRoot_eq_none_iff (s : Settings) :
    s.apiRoot = none ↔ s.baseUrl = none ∧ Text.asciiLower s.providerName ≠ "github" := by
  unfold apiRoot
  cases s.baseUrl with
  | some url => simp
  | none =>
    by_cases hg : Text.asciiLower s.providerName = "github"
    · simp [hg]
    · simp [hg]

/-- Once the service is known, a client is made unless there is no API root. -/
theorem connect_of_service {s : Settings} {k : Service} (hk : Service.ofName? s.providerName = some k)
    (env : String → Option String) :
    (∃ c, s.connect env = .ok c) ∨
      (s.apiRoot = none ∧ s.connect env =
        .error (.invalidRequest ("no base_url configured for provider '" ++ k.name ++ "'"))) := by
  unfold connect
  simp only [hk]
  cases hroot : s.apiRoot with
  | none => exact .inr ⟨rfl, rfl⟩
  | some url =>
    obtain ⟨c, hc⟩ := HttpSettings.build_defaultHeaders k url (s.auth k env) s.retryPolicy
    left
    simp only [pure_bind]
    rw [hc]
    exact ⟨_, rfl⟩

/-! ### The effective settings of a checked file -/

theorem retryPolicy_eq (s : Settings) : s.retryPolicy = (s.retry.getD {}).policy := by
  unfold retryPolicy
  cases s.retry <;> rfl

section Checked

variable {s : Settings} (h : s.Checked)
include h

theorem Checked.statuses : ∀ st ∈ s.retryPolicy.statuses, 100 ≤ st ∧ st ≤ 599 := by
  rw [retryPolicy_eq]
  cases hr : s.retry with
  | none => exact RetrySettings.policy_statuses_mem ⟨by simp, by simp⟩
  | some r => exact RetrySettings.policy_statuses_mem (h.retry r hr)

/-- The waits are in order unless exactly one is given and it lies beyond the other's
default. -/
theorem Checked.waits_ordered
    (hlo : ∀ lo, s.retry.bind (·.waitMinMs) = some lo → s.retry.bind (·.waitMaxMs) = none →
      lo ≤ ({} : RetryPolicy).waitMax)
    (hhi : ∀ hi, s.retry.bind (·.waitMaxMs) = some hi → s.retry.bind (·.waitMinMs) = none →
      ({} : RetryPolicy).waitMin ≤ hi) :
    s.retryPolicy.waitMin ≤ s.retryPolicy.waitMax := by
  rw [retryPolicy_eq]
  cases hr : s.retry with
  | none => decide
  | some r =>
    have hw := (h.retry r hr).waits
    simp only [hr, Option.bind_some] at hlo hhi
    simp only [Option.getD_some, RetrySettings.policy]
    cases hmin : r.waitMinMs with
    | none =>
      cases hmax : r.waitMaxMs with
      | none => decide
      | some hi => simpa using hhi hi hmax hmin
    | some lo =>
      cases hmax : r.waitMaxMs with
      | none => simpa using hlo lo hmin hmax
      | some hi => simpa using hw lo hi hmin hmax

theorem Checked.limit_pos : ∀ n, s.pageOptions.limit = some n → 0 < n := by
  intro n hn
  cases hp : s.pagination with
  | none => simp [pageOptions, hp] at hn
  | some p =>
    have hl := (h.pagination p hp).limit
    simp only [pageOptions, hp, PageSettings.options] at hn
    rw [hn] at hl
    exact Nat.pos_of_ne_zero fun h0 => hl (h0 ▸ rfl)

theorem Checked.maxPages_pos : ∀ n, s.pageOptions.maxPages = some n → 0 < n := by
  intro n hn
  cases hp : s.pagination with
  | none => simp [pageOptions, hp] at hn
  | some p =>
    have hm := (h.pagination p hp).maxPages
    simp only [pageOptions, hp, PageSettings.options] at hn
    rw [hn] at hm
    exact Nat.pos_of_ne_zero fun h0 => hm (h0 ▸ rfl)

theorem Checked.timeout_pos : 0 < s.timeout := by
  unfold Settings.timeout
  cases ht : s.timeoutSecs with
  | none => decide
  | some n =>
    have hn := h.timeout
    rw [ht] at hn
    exact Nat.pos_of_ne_zero fun h0 => hn (h0 ▸ rfl)

/-- The service name, given or defaulted, denotes a service. -/
theorem Checked.service_isSome : (Service.ofName? s.providerName).isSome := by
  unfold providerName
  cases hp : s.provider with
  | none => decide
  | some p =>
    rw [Option.getD_some, Service.ofName?_isSome_iff]
    exact h.provider p hp

/-- A client is made, unless the service is Bitbucket Server and no API root is given. -/
theorem Checked.connect (env : String → Option String) :
    (∃ c, s.connect env = .ok c) ∨
      (s.baseUrl = none ∧ Service.ofName? s.providerName = some .bitbucket ∧
        s.connect env = .error (.invalidRequest "no base_url configured for provider 'stash'")) := by
  obtain ⟨k, hk⟩ := Option.isSome_iff_exists.mp h.service_isSome
  rcases connect_of_service hk env with hok | ⟨hroot, herr⟩
  · exact .inl hok
  · -- without an API root the service cannot be GitHub, whose root has a default
    obtain ⟨hbase, hname⟩ := (apiRoot_eq_none_iff s).mp hroot
    cases k with
    | github => exact absurd (Service.asciiLower_of_ofName?_github hk) hname
    | bitbucket => exact .inr ⟨hbase, hk, herr⟩

end Checked

end Settings

/-- The effective settings of a file that passes validation: retried statuses lie in 100–599;
the waits are in order unless the file gives one wait alone beyond the other's default; page
limits are absent or positive; the timeout is positive; the service name denotes a service;
and a client is made unless the service is Bitbucket Server and no API root is given. -/
theorem validated_settings_effective (s : Settings) (hv : s.validate = .ok ()) :
    (∀ st ∈ s.retryPolicy.statuses, 100 ≤ st ∧ st ≤ 599) ∧
    ((∀ lo, s.retry.bind (·.waitMinMs) = some lo → s.retry.bind (·.waitMaxMs) = none →
        lo ≤ ({} : RetryPolicy).waitMax) →
      (∀ hi, s.retry.bind (·.waitMaxMs) = some hi → s.retry.bind (·.waitMinMs) = none →
        ({} : RetryPolicy).waitMin ≤ hi) →
      s.retryPolicy.waitMin ≤ s.retryPolicy.waitMax) ∧
    (∀ n, s.pageOptions.limit = some n → 0 < n) ∧
    (∀ n, s.pageOptions.maxPages = some n → 0 < n) ∧
    0 < s.timeout ∧
    (Service.ofName? s.providerName).isSome ∧
    ∀ env, (∃ c, s.connect env = .ok c) ∨
      (s.baseUrl = none ∧ Service.ofName? s.providerName = some .bitbucket ∧
        s.connect env = .error (.invalidRequest "no base_url configured for provider 'stash'")) := by
  have h : s.Checked := (Settings.validate_eq_ok_iff s).mp hv
  exact ⟨h.statuses, h.waits_ordered, h.limit_pos, h.maxPages_pos, h.timeout_pos,
    h.service_isSome, h.connect⟩

/-- A GitHub configuration named in mixed case, with both waits and paging limits. -/
theorem validated_settings_effective_github :
    let s : Settings :=
      { provider := some "GitHub", timeoutSecs := some 10,
        retry := some { max := some 2, waitMinMs := some 50, waitMaxMs := some 500 },
        pagination := some { limit := some 25, maxPages := some 3 } }
    s.validate = .ok () ∧
    ((∀ st ∈ s.retryPolicy.statuses, 100 ≤ st ∧ st ≤ 599) ∧
    ((∀ lo, s.retry.bind (·.waitMinMs) = some lo → s.retry.bind (·.waitMaxMs) = none →
        lo ≤ ({} : RetryPolicy).waitMax) →
      (∀ hi, s.retry.bind (·.waitMaxMs) = some hi → s.retry.bind (·.waitMinMs) = none →
        ({} : RetryPolicy).waitMin ≤ hi) →
      s.retryPolicy.waitMin ≤ s.retryPolicy.waitMax) ∧
    (∀ n, s.pageOptions.limit = some n → 0 < n) ∧
    (∀ n, s.pageOptions.maxPages = some n → 0 < n) ∧
    0 < s.timeout ∧
    (Service.ofName? s.providerName).isSome ∧
    ∀ env, (∃ c, s.connect env = .ok c) ∨
      (s.baseUrl = none ∧ Service.ofName? s.providerName = some .bitbucket ∧
        s.connect env = .error (.invalidRequest "no base_url configured for provider 'stash'"))) :=
  ⟨rfl, validated_settings_effective _ rfl⟩

/-- A file whose retry table gives only a minimum wait of a minute passes validation, and its
effective minimum wait is above the default maximum of thirty seconds. -/
theorem lone_wait_min_above_default :
    let s : Settings := { retry := some { waitMinMs := some 60000 } }
    s.validate = .ok () ∧ s.retryPolicy.waitMax < s.retryPolicy.waitMin :=
  ⟨rfl, by decide⟩

end ForgeSync
