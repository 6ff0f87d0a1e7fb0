import Mathlib
import Proximity.Proofs.Options.Request

/-!
# Validating a configuration

`Config.issues` runs seven checks over a configuration and lists one issue per failed check,
in a fixed order: the strategy token, each medium token that names no medium (in list
order), the fast-advertisement UUID, the keep-alive timeout, the manager app id, the sync URL
and the sync timeout. `Config.validate` answers from the number of issues: none, one, or
several together.

Options are built from the same tokens along a second path, which stops at the first token
that does not read. The two paths agree: building options fails exactly when the issue list
has an issue on the strategy or on the mediums, and then with the first such issue.

The keep-alive check compares the configured values, in which zero stands for the default;
the keep-alive in use replaces each zero by its own default. The check therefore does not
make the timeout in use exceed the interval in use: an unset interval under a timeout of at
most 5000 ms, or an unset timeout over an interval of at least 30000 ms, passes it.

**Results.**
* `Config.issues_eq`: the issue list, check by check.
* `Config.validate_eq_ok_iff`, `Config.validate_eq_invalid_iff`,
  `Config.validate_eq_invalidMany_iff`: no issue, exactly one, or several.
* `Config.discoveryOptions_eq_error_iff`: building options fails with the first issue on
  the strategy or the mediums, and only when there is one.
* `Config.validation_agrees_with_options`: the issue list, the answer of `validate`, and
  the agreement of both option builders with it.
* `Config.keepAlive_timeout_gt_interval_iff`: on a configuration that validates, the
  keep-alive in use has its timeout above its interval except in the two cases above.
* `Config.keepAlive_unset_interval_outlasts_timeout`: interval 0 and timeout 1 validate, and
  the keep-alive in use waits 5000 ms between frames but times out after 1 ms.
-/

namespace Proximity

namespace Config

/-! ## The issue list -/

/-- An issue on a field that options are built from: the strategy or the mediums. -/
def isTokenIssue (i : ValidationIssue) : Bool :=
  i.field == "discovery.strategy" || i.field == "discovery.mediums"

/-- The issue of a strategy token that names no strategy. -/
def strategyIssue (s : String) : ValidationIssue :=
  ⟨"discovery.strategy", (Strategy.InvalidStrategy.mk s).message⟩

/-- The issue of a medium token that names no medium. -/
def mediumIssue (t : String) : ValidationIssue :=
  ⟨"discovery.mediums", (Medium.UnknownMedium.mk t).message⟩

/-- One medium issue per token that names no medium, in list order. -/
theorem filterMap_mediumIssue {f : String → Option ValidationIssue}
    (hf : ∀ t, f t = if Medium.rejects t then some (mediumIssue t) else none) (ts : List String) :
    ts.filterMap f = (ts.filter Medium.rejects).map mediumIssue := by
  induction ts with
  | nil => rfl
  | cons t ts ih =>
    -- rewrite the head by hand: under a binder, hf would unfold f before ih can apply
    rw [List.filterMap_cons, hf, List.filter_cons]
    cases Medium.rejects t <;> simp [ih]

/-- The issue list, check by check: each check adds its issue exactly when it fails. -/
theorem issues_eq (c : Config) : c.issues =
    (if (Strategy.parse c.discovery.strategy).isOk then [] else
      [strategyIssue c.discovery.strategy]) ++
    (c.discovery.mediums.filter Medium.rejects).map mediumIssue ++
    ((c.discovery.fastAdvertisementServiceUuid.filter (!Uuid.isValidText ·)).toList.map
      fun u => ⟨"discovery.fast_advertisement_service_uuid", "'" ++ u ++ "' is not a UUID"⟩) ++
    (if c.discovery.keepAliveTimeoutMillis ≠ 0 ∧
        c.discovery.keepAliveTimeoutMillis ≤ c.discovery.keepAliveIntervalMillis then
      [⟨"discovery.keep_alive_timeout_millis", "must be greater than keep_alive_interval_millis"⟩]
      else []) ++
    (if Text.isBlankText c.credentials.managerAppId then
      [⟨"credentials.manager_app_id", "must not be empty"⟩] else []) ++
    ((c.sync.baseUrl.bind baseUrlIssue).toList.map fun m => ⟨"sync.base_url", m⟩) ++
    (if c.sync.timeoutSecs = 0 then [⟨"sync.timeout_secs", "must be at least 1"⟩] else []) := by
  simp only [issues, List.append_assoc]
  congr 1
  · -- the strategy check
    cases h : Strategy.parse c.discovery.strategy with
    | ok t => rfl
    | error e => rw [Strategy.parse_error_token h]; rfl
  congr 1
  · -- the medium checks
    refine filterMap_mediumIssue (fun t => ?_) _
    cases h : Medium.rejects t with
    | true => simp [Medium.parse_of_rejects h, mediumIssue]
    | false =>
      obtain ⟨m, hm⟩ := Medium.parse_of_not_rejects h
      simp [hm]
  -- the later checks differ from the definition only in how options and tests are spelled
  congr 1
  · cases c.discovery.fastAdvertisementServiceUuid with
    | none => rfl
    | some u => cases h : Uuid.isValidText u <;> simp [h, Option.filter]
  congr 1
  · simp [bne_iff_ne]
  congr 2
  · cases c.sync.baseUrl with
    | none => rfl
    | some u => cases h : baseUrlIssue u <;> simp [h]
  · simp

/-- Past the medium checks, no check raises an issue on a token. -/
theorem issues_eq_tokenIssues_append (c : Config) : ∃ rest, c.issues =
    (if (Strategy.parse c.discovery.strategy).isOk then [] else
      [strategyIssue c.discovery.strategy]) ++
    (c.discovery.mediums.filter Medium.rejects).map mediumIssue ++ rest ∧
      ∀ i ∈ rest, isTokenIssue i = false := by
  refine ⟨_, by rw [issues_eq]; simp only [List.append_assoc]; rfl, fun i hi => ?_⟩
  simp only [List.mem_append, List.mem_map, Option.mem_toList, List.mem_ite_nil_right,
    List.mem_singleton] at hi
  rcases hi with ⟨u, -, rfl⟩ | ⟨-, rfl⟩ | ⟨-, rfl⟩ | ⟨m, -, rfl⟩ | ⟨-, rfl⟩ <;> simp [isTokenIssue]

/-- The first issue on a token: the strategy's, else the first unknown medium's. -/
theorem issues_find?_tokenIssue (c : Config) : c.issues.find? isTokenIssue =
    if (Strategy.parse c.discovery.strategy).isOk then
      (c.discovery.mediums.find? Medium.rejects).map mediumIssue
    else some (strategyIssue c.discovery.strategy) := by
  obtain ⟨rest, hc, hrest⟩ := issues_eq_tokenIssues_append c
  have hnone : rest.find? isTokenIssue = none := List.find?_eq_none.2 (by simpa using hrest)
  -- every medium issue is a token issue, so the first one is the first unknown medium's
  have hmed : ((c.discovery.mediums.filter Medium.rejects).map mediumIssue).find? isTokenIssue =
      (c.discovery.mediums.find? Medium.rejects).map mediumIssue := by
    rw [List.find?_map, List.find?_filter]
    simp [isTokenIssue, mediumIssue]
  rw [hc, List.find?_append, List.find?_append, hnone, hmed]
  by_cases hs : (Strategy.parse c.discovery.strategy).isOk <;>
    simp [hs, isTokenIssue, strategyIssue]

/-! ## The answer of `validate` -/

variable {c : Config}

theorem validate_eq_ok_iff : c.validate = .ok () ↔ c.issues = [] := by
  rcases h : c.issues with _ | ⟨i, _ | ⟨j, rest⟩⟩ <;> simp [validate, h]

theorem validate_eq_invalid_iff (i : ValidationIssue) :
    c.validate = .error (.invalid i) ↔ c.issues = [i] := by
  rcases h : c.issues with _ | ⟨i, _ | ⟨j, rest⟩⟩ <;> simp [validate, h]

theorem validate_eq_invalidMany_iff (is : List ValidationIssue) :
    c.validate = .error (.invalidMany is) ↔ is = c.issues ∧ 2 ≤ is.length := by
  rcases h : c.issues with _ | ⟨i, _ | ⟨j, rest⟩⟩
  · simp only [validate, h, reduceCtorEq, false_iff, not_and]
    rintro rfl; simp
  · simp only [validate, h, reduceCtorEq, Except.error.injEq, false_iff, not_and]
    rintro rfl; simp
  · simp only [validate, h, Except.error.injEq, ConfigError.invalidMany.injEq]
    exact ⟨fun he => ⟨he.symm, by simp [← he]⟩, fun ⟨he, _⟩ => he.symm⟩

/-! ## Options built from the same tokens -/

/-- Discovery options are the advertising options with the configured keep-alive. -/
theorem discoveryOptions_eq_map (c : Config) : c.discoveryOptions = c.advertisingOptions.map
    fun o => { toOptions := o, keepAliveIntervalMillis := c.discovery.keepAliveIntervalMillis.toNat,
               keepAliveTimeoutMillis := c.discovery.keepAliveTimeoutMillis.toNat } := by
  simp only [discoveryOptions, bind, Except.bind, pure, Except.pure, Except.map]

/-- Building options fails exactly when an issue is on a token, with the first such issue. -/
theorem discoveryOptions_eq_error_iff (e : ConfigError) :
    c.discoveryOptions = .error e ↔ ∃ i, c.issues.find? isTokenIssue = some i ∧ e = .invalid i := by
  rw [issues_find?_tokenIssue]
  cases hs : Strategy.parse c.discovery.strategy with
  | error es =>
    obtain rfl := Strategy.parse_error_token hs
    rw [discoveryOptions_of_strategy_error c hs]
    simp only [Except.isOk, Except.toBool, Bool.false_eq_true, if_false, Option.some.injEq,
      exists_eq_left', Except.error.injEq]
    exact ⟨fun h => h ▸ rfl, fun h => h ▸ rfl⟩
  | ok t =>
    simp only [Except.isOk, Except.toBool, if_true]
    cases hu : c.discovery.mediums.find? Medium.rejects with
    | some u =>
      rw [discoveryOptions_of_medium_error c hs hu]
      simp only [Option.map_some, Option.some.injEq, exists_eq_left', Except.error.injEq]
      exact ⟨fun h => h ▸ rfl, fun h => h ▸ rfl⟩
    | none =>
      obtain ⟨d, hd⟩ := (discoveryOptions_ok_iff c).2 ⟨by simp [hs, Except.isOk, Except.toBool], hu⟩
      simp [hd]

theorem advertisingOptions_eq_error_iff (e : ConfigError) :
    c.advertisingOptions = .error e ↔ c.discoveryOptions = .error e := by
  rw [discoveryOptions_eq_map]
  cases c.advertisingOptions <;> simp [Except.map]

/-- Built options allow exactly the mediums the configured tokens name. -/
theorem allowed_of_advertisingOptions_eq_ok {o : AdvertisingOptions}
    (h : c.advertisingOptions = .ok o) :
    o.allowed =
      MediumSet.ofList (c.discovery.mediums.filterMap fun t => (Medium.parse t).toOption) := by
  cases hs : Strategy.parse c.discovery.strategy with
  | error e => simp [advertisingOptions, Config.strategy, hs, bind, Except.bind] at h
  | ok t =>
    cases hu : c.discovery.mediums.find? Medium.rejects with
    | some u =>
      simp [advertisingOptions, Config.strategy, allowedMediums, hs,
        Medium.parseAll_of_find?_eq_some hu, bind, Except.bind] at h
    | none =>
      simp only [advertisingOptions, Config.strategy, allowedMediums, hs,
        Medium.parseAll_of_find?_eq_none hu, bind, Except.bind, pure, Except.pure,
        Except.ok.injEq] at h
      rw [← h]

/-- **Validation and options agree.** The issue list has one issue per failed check, in
the order of the checks; `validate` answers `ok` for no issue, the issue itself for one, and
all of them together for several. Discovery and advertising options fail to build exactly
when the list has an issue on the strategy or the mediums, each with the first such issue;
when they build, they share every common option, and their medium set is the set of the
mediums the configured tokens name. -/
theorem validation_agrees_with_options (c : Config) :
    c.issues =
      (if (Strategy.parse c.discovery.strategy).isOk then [] else
        [strategyIssue c.discovery.strategy]) ++
      (c.discovery.mediums.filter Medium.rejects).map mediumIssue ++
      ((c.discovery.fastAdvertisementServiceUuid.filter (!Uuid.isValidText ·)).toList.map
        fun u => ⟨"discovery.fast_advertisement_service_uuid", "'" ++ u ++ "' is not a UUID"⟩) ++
      (if c.discovery.keepAliveTimeoutMillis ≠ 0 ∧
          c.discovery.keepAliveTimeoutMillis ≤ c.discovery.keepAliveIntervalMillis then
        [⟨"discovery.keep_alive_timeout_millis", "must be greater than keep_alive_interval_millis"⟩]
        else []) ++
      (if Text.isBlankText c.credentials.managerAppId then
        [⟨"credentials.manager_app_id", "must not be empty"⟩] else []) ++
      ((c.sync.baseUrl.bind baseUrlIssue).toList.map fun m => ⟨"sync.base_url", m⟩) ++
      (if c.sync.timeoutSecs = 0 then [⟨"sync.timeout_secs", "must be at least 1"⟩] else []) ∧
    (c.validate = .ok () ↔ c.issues = []) ∧
    (∀ i, c.validate = .error (.invalid i) ↔ c.issues = [i]) ∧
    (∀ is, c.validate = .error (.invalidMany is) ↔ is = c.issues ∧ 2 ≤ is.length) ∧
    (∀ e, c.discoveryOptions = .error e ↔
      ∃ i, c.issues.find? isTokenIssue = some i ∧ e = .invalid i) ∧
    (∀ e, c.advertisingOptions = .error e ↔
      ∃ i, c.issues.find? isTokenIssue = some i ∧ e = .invalid i) ∧
    (∀ d, c.discoveryOptions = .ok d → c.advertisingOptions = .ok d.toOptions ∧
      d.allowed = MediumSet.ofList (c.discovery.mediums.filterMap fun t => (Medium.parse t).toOption)) := by
  refine ⟨issues_eq c, validate_eq_ok_iff, validate_eq_invalid_iff, validate_eq_invalidMany_iff,
    discoveryOptions_eq_error_iff, fun e => (advertisingOptions_eq_error_iff e).trans
      (discoveryOptions_eq_error_iff e), fun d hd => ?_⟩
  -- discovery options are built over the advertising options
  rw [discoveryOptions_eq_map] at hd
  cases ha : c.advertisingOptions with
  | error e => simp [ha, Except.map] at hd
  | ok o =>
    simp only [ha, Except.map, Except.ok.injEq] at hd
    subst hd
    exact ⟨rfl, allowed_of_advertisingOptions_eq_ok ha⟩

/-! ## The keep-alive in use -/

/-- A configuration that validates builds its options. -/
theorem discoveryOptions_ok_of_validate (hv : c.validate = .ok ()) :
    ∃ d, c.discoveryOptions = .ok d := by
  cases hd : c.discoveryOptions with
  | ok d => exact ⟨d, rfl⟩
  | error e =>
    obtain ⟨i, hi, -⟩ := (discoveryOptions_eq_error_iff e).1 hd
    rw [validate_eq_ok_iff.1 hv] at hi
    cases hi

/-- The keep-alive check: a configuration that validates has its timeout unset or above its
interval, as configured. -/
theorem keepAlive_configured_of_validate (hv : c.validate = .ok ()) :
    c.discovery.keepAliveTimeoutMillis = 0 ∨
      c.discovery.keepAliveIntervalMillis < c.discovery.keepAliveTimeoutMillis := by
  have h := validate_eq_ok_iff.1 hv
  rw [issues_eq] at h
  simp only [List.append_eq_nil_iff, ite_eq_right_iff, reduceCtorEq, imp_false] at h
  -- the keep-alive check is the fourth of the seven
  obtain ⟨⟨⟨⟨-, hka⟩, -⟩, -⟩, -⟩ := h
  by_cases ht : c.discovery.keepAliveTimeoutMillis = 0
  · exact .inl ht
  · exact .inr (UInt32.not_le.1 fun hle => hka ⟨ht, hle⟩)

/-- The keep-alive in use replaces each unset value by its default. -/
theorem keepAlive_of_discoveryOptions {d : DiscoveryOptions} (h : c.discoveryOptions = .ok d) :
    d.keepAlive = { intervalMillis := if c.discovery.keepAliveIntervalMillis.toNat = 0 then
                      defaultKeepAliveIntervalMillis else c.discovery.keepAliveIntervalMillis.toNat,
                    timeoutMillis := if c.discovery.keepAliveTimeoutMillis.toNat = 0 then
                      defaultKeepAliveTimeoutMillis else c.discovery.keepAliveTimeoutMillis.toNat } := by
  rw [discoveryOptions_eq_map] at h
  cases ha : c.advertisingOptions with
  | error e => simp [ha, Except.map] at h
  | ok o =>
    simp only [ha, Except.map, Except.ok.injEq] at h
    subst h
    rfl

/-- **The keep-alive in use, on a configuration that validates.** Options build, and their
keep-alive has its timeout above its interval except when an unset interval (5000 ms in use)
meets a timeout of at most 5000 ms, or an unset timeout (30000 ms in use) meets an interval of
at least 30000 ms. -/
theorem keepAlive_timeout_gt_interval_iff (hv : c.validate = .ok ()) :
    ∃ d, c.discoveryOptions = .ok d ∧
      (d.keepAlive.intervalMillis < d.keepAlive.timeoutMillis ↔
        ¬(c.discovery.keepAliveIntervalMillis = 0 ∧ 0 < c.discovery.keepAliveTimeoutMillis ∧
            c.discovery.keepAliveTimeoutMillis.toNat ≤ defaultKeepAliveIntervalMillis) ∧
        ¬(c.discovery.keepAliveTimeoutMillis = 0 ∧
            defaultKeepAliveTimeoutMillis ≤ c.discovery.keepAliveIntervalMillis.toNat)) := by
  obtain ⟨d, hd⟩ := discoveryOptions_ok_of_validate hv
  have hcheck := keepAlive_configured_of_validate hv
  refine ⟨d, hd, ?_⟩
  rw [keepAlive_of_discoveryOptions hd]
  simp only [defaultKeepAliveIntervalMillis, defaultKeepAliveTimeoutMillis]
  -- compare the configured values by their numbers
  simp only [UInt32.lt_iff_toNat_lt, ← UInt32.toNat_inj, UInt32.toNat_zero] at hcheck ⊢
  split <;> split <;> omega

/-- The default configuration, with any keep-alive, validates exactly when its timeout is
unset or above its interval. -/
theorem validate_keepAlive_eq_ok_iff (interval timeout : UInt32) :
    ({ discovery := { keepAliveIntervalMillis := interval, keepAliveTimeoutMillis := timeout } } :
      Config).validate = .ok () ↔ timeout = 0 ∨ interval < timeout := by
  have hs : Strategy.parse "P2P_CLUSTER" = .ok .cluster := by cbv
  have hb : Text.isBlankText "nearlink" = false := by cbv
  rw [validate_eq_ok_iff, issues_eq]
  by_cases ht : timeout = 0 <;> simp [hs, hb, ht, Except.isOk, Except.toBool]

theorem keepAlive_timeout_gt_interval_when_both_set :
    ({ discovery := { keepAliveIntervalMillis := 1000, keepAliveTimeoutMillis := 2000 } } :
      Config).validate = .ok () ∧
    ∃ d, ({ discovery := { keepAliveIntervalMillis := 1000, keepAliveTimeoutMillis := 2000 } } :
        Config).discoveryOptions = .ok d ∧
      (d.keepAlive.intervalMillis < d.keepAlive.timeoutMillis ↔
        ¬((1000 : UInt32) = 0 ∧ 0 < (2000 : UInt32) ∧
            (2000 : UInt32).toNat ≤ defaultKeepAliveIntervalMillis) ∧
        ¬((2000 : UInt32) = 0 ∧ defaultKeepAliveTimeoutMillis ≤ (1000 : UInt32).toNat)) := by
  have hv := (validate_keepAlive_eq_ok_iff 1000 2000).2 (by decide)
  exact ⟨hv, keepAlive_timeout_gt_interval_iff hv⟩

/-- An unset interval under a 1 ms timeout validates, and the keep-alive in use then waits
5000 ms between frames but times out after 1 ms. -/
theorem keepAlive_unset_interval_outlasts_timeout :
    ({ discovery := { keepAliveIntervalMillis := 0, keepAliveTimeoutMillis := 1 } } :
      Config).validate = .ok () ∧
    ∃ d, ({ discovery := { keepAliveIntervalMillis := 0, keepAliveTimeoutMillis := 1 } } :
        Config).discoveryOptions = .ok d ∧
      d.keepAlive = { intervalMillis := 5000, timeoutMillis := 1 } := by
  have hv := (validate_keepAlive_eq_ok_iff 0 1).2 (by decide)
  obtain ⟨d, hd⟩ := discoveryOptions_ok_of_validate hv
  exact ⟨hv, d, hd, by rw [keepAlive_of_discoveryOptions hd]; rfl⟩

end Config

end Proximity
