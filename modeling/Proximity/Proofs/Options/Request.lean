import Mathlib
import Proximity.Api.Options

/-!
# Normalizing a request over the configured defaults

A discovery request is answered from three layers: the built-in defaults, the daemon's
configuration, and the fields the request gives. Two of the layers can hold unreadable
tokens, and the handler reports the first problem it meets, in this order:

1. the configured strategy, then the first configured medium that names no medium: the
   daemon's fault, 500 `config_validation_error`;
2. the request's strategy: 400 `invalid_strategy`, with the token as written;
3. the first of the request's medium tokens, in list order, that names no medium:
   400 `invalid_medium`, with that token.

Otherwise the answer describes the requested options (`NormalizeRequest.overlay`: every field
the request gives replaces the configured one, an empty medium list included) and their
normalization.

**Results.**
* `Medium.parseAll_of_find?_eq_some`, `Medium.parseAll_of_find?_eq_none`: reading a list of
  medium tokens fails exactly at the first token that names no medium.
* `normalizeDiscovery_answers`: the four answers above, each under exactly its condition.
-/

namespace Proximity

/-! ## Token readers -/

namespace Medium

/-- A token names no medium. -/
def rejects (t : String) : Bool := !(parse t).isOk

theorem parse_of_rejects {t : String} (h : rejects t = true) : parse t = .error ⟨t⟩ := by
  unfold rejects parse at *
  split <;> simp_all [Except.isOk, Except.toBool]

theorem parse_of_not_rejects {t : String} (h : rejects t = false) : ∃ m, parse t = .ok m := by
  cases hp : parse t with
  | ok m => exact ⟨m, rfl⟩
  | error e => simp [rejects, hp, Except.isOk, Except.toBool] at h

/-- Reading a list stops at the first token that names no medium. -/
theorem parseAll_of_find?_eq_some {ts : List String} {u : String}
    (h : ts.find? rejects = some u) : parseAll ts = .error ⟨u⟩ := by
  induction ts with
  | nil => simp at h
  | cons t ts ih =>
    cases ht : rejects t with
    | true =>
      simp only [List.find?_cons, ht, Option.some.injEq] at h
      subst h
      simp only [parseAll, parse_of_rejects ht, bind, Except.bind]
    | false =>
      simp only [List.find?_cons, ht] at h
      obtain ⟨m, hm⟩ := parse_of_not_rejects ht
      simp only [parseAll, hm, ih h, bind, Except.bind]

/-- When every token names a medium, the list reads as those mediums, in order. -/
theorem parseAll_of_find?_eq_none {ts : List String} (h : ts.find? rejects = none) :
    parseAll ts = .ok (ts.filterMap fun t => (parse t).toOption) := by
  induction ts with
  | nil => rfl
  | cons t ts ih =>
    have ht : rejects t = false := by simpa using (List.find?_eq_none.1 h) t (by simp)
    have hrest : ts.find? rejects = none := by
      simpa [List.find?_cons, ht] using h
    obtain ⟨m, hm⟩ := parse_of_not_rejects ht
    simp only [parseAll, hm, ih hrest, bind, Except.bind, pure, Except.pure,
      List.filterMap_cons, Except.toOption]

end Medium

theorem Strategy.parse_error_token {s : String} {e : Strategy.InvalidStrategy}
    (h : Strategy.parse s = .error e) : e = ⟨s⟩ := by
  unfold Strategy.parse at h
  split at h <;> simp_all

/-! ## The configured defaults -/

namespace Config

variable (c : Config)

theorem discoveryOptions_of_strategy_error {e : Strategy.InvalidStrategy}
    (h : Strategy.parse c.discovery.strategy = .error e) :
    c.discoveryOptions = .error (.invalid ⟨"discovery.strategy", e.message⟩) := by
  simp only [discoveryOptions, advertisingOptions, Config.strategy, h, bind, Except.bind]

theorem discoveryOptions_of_medium_error {t : Strategy} {u : String}
    (ht : Strategy.parse c.discovery.strategy = .ok t)
    (hu : c.discovery.mediums.find? Medium.rejects = some u) :
    c.discoveryOptions = .error (.invalid ⟨"discovery.mediums", (Medium.UnknownMedium.mk u).message⟩) := by
  simp only [discoveryOptions, advertisingOptions, Config.strategy, allowedMediums, ht,
    Medium.parseAll_of_find?_eq_some hu, bind, Except.bind]

theorem discoveryOptions_ok_iff :
    (∃ d, c.discoveryOptions = .ok d) ↔
      (Strategy.parse c.discovery.strategy).isOk ∧ c.discovery.mediums.find? Medium.rejects = none := by
  constructor
  · rintro ⟨d, hd⟩
    cases ht : Strategy.parse c.discovery.strategy with
    | error e => rw [discoveryOptions_of_strategy_error c ht] at hd; cases hd
    | ok t =>
      cases hu : c.discovery.mediums.find? Medium.rejects with
      | some u => rw [discoveryOptions_of_medium_error c ht hu] at hd; cases hd
      | none => exact ⟨rfl, rfl⟩
  · rintro ⟨ht, hu⟩
    cases hs : Strategy.parse c.discovery.strategy with
    | error e => rw [hs] at ht; cases ht
    | ok t =>
      simp [discoveryOptions, advertisingOptions, Config.strategy, allowedMediums, hs,
        Medium.parseAll_of_find?_eq_none hu, bind, Except.bind, pure, Except.pure]

end Config

/-! ## The request over the defaults -/

namespace NormalizeRequest

/-- The discovery options a request asks for over the configured ones `d`, once its tokens
read: each field the request gives replaces the configured one, the mediums become the set
of the listed mediums (an empty list included), and the connection is out of band exactly
when the request says so. -/
def overlay (r : NormalizeRequest) (d : DiscoveryOptions) : DiscoveryOptions where
  strategy := match r.strategy with
    | some s => match Strategy.parse s with
      | .ok t => t
      | .error _ => d.strategy
    | none => d.strategy
  allowed := match r.mediums with
    | some ts => MediumSet.ofList (ts.filterMap fun t => (Medium.parse t).toOption)
    | none => d.allowed
  lowPower := r.lowPower.getD d.lowPower
  alwaysOn := r.alwaysOn.getD d.alwaysOn
  autoUpgradeBandwidth := r.autoUpgradeBandwidth.getD d.autoUpgradeBandwidth
  enforceTopologyConstraints := r.enforceTopologyConstraints.getD d.enforceTopologyConstraints
  outOfBand := r.outOfBand
  fastAdvertisementServiceUuid := r.fastAdvertisementServiceUuid.getD d.fastAdvertisementServiceUuid
  keepAliveIntervalMillis := r.keepAliveIntervalMillis.getD d.keepAliveIntervalMillis
  keepAliveTimeoutMillis := r.keepAliveTimeoutMillis.getD d.keepAliveTimeoutMillis

/-- The strategy a request reads as, over a configured one. -/
def strategyRead (r : NormalizeRequest) (dflt : Strategy) : Except ApiError Strategy :=
  match r.strategy with
  | some t => match Strategy.parse t with
    | .ok s => .ok s
    | .error e => .error (ApiError.ofError (.invalidStrategy e.token))
  | none => .ok dflt

/-- The medium set a request reads as, over a configured one. -/
def mediumsRead (r : NormalizeRequest) (dflt : MediumSet) : Except ApiError MediumSet :=
  match r.mediums with
  | some ts => match Medium.parseAll ts with
    | .ok ms => .ok (MediumSet.ofList ms)
    | .error e => .error (ApiError.ofError (.invalidMedium e.token))
  | none => .ok dflt

variable (r : NormalizeRequest) (d : DiscoveryOptions)

/-- The base fields: the strategy is read first, then the mediums. -/
theorem applyBase_eq (o : Options) :
    r.applyBase o = (r.strategyRead o.strategy).bind fun strategy =>
      (r.mediumsRead o.allowed).map fun allowed =>
        { o with strategy, allowed, lowPower := r.lowPower.getD o.lowPower,
                 alwaysOn := r.alwaysOn.getD o.alwaysOn } := by
  obtain ⟨_ | s, _ | ts, oob, lp, ao, au, en, ki, kt, u⟩ := r <;>
    simp only [applyBase, strategyRead, mediumsRead] <;>
    (try cases Strategy.parse s) <;> (try cases Medium.parseAll ts) <;> rfl

theorem applyCommon_eq (o : Options) :
    r.applyCommon o = (r.applyBase o).map fun base => { base with
      outOfBand := r.outOfBand
      autoUpgradeBandwidth := r.autoUpgradeBandwidth.getD o.autoUpgradeBandwidth
      enforceTopologyConstraints := r.enforceTopologyConstraints.getD o.enforceTopologyConstraints
      fastAdvertisementServiceUuid := r.fastAdvertisementServiceUuid.getD o.fastAdvertisementServiceUuid } := by
  unfold applyCommon
  cases r.applyBase o <;> rfl

theorem strategyRead_of_error {s : String} (hs : r.strategy = some s)
    (he : (Strategy.parse s).isOk = false) (dflt : Strategy) :
    r.strategyRead dflt = .error (ApiError.ofError (.invalidStrategy s)) := by
  cases hp : Strategy.parse s with
  | ok t => rw [hp] at he; cases he
  | error e =>
    obtain rfl := Strategy.parse_error_token hp
    simp only [strategyRead, hs, hp]

theorem strategyRead_of_ok (hs : ∀ s, r.strategy = some s → (Strategy.parse s).isOk) :
    r.strategyRead d.strategy = .ok (r.overlay d).strategy := by
  cases hst : r.strategy with
  | none => simp only [strategyRead, overlay, hst]
  | some s =>
    have hok := hs s hst
    cases hp : Strategy.parse s with
    | error e => rw [hp] at hok; cases hok
    | ok t => simp only [strategyRead, overlay, hst, hp]

theorem mediumsRead_of_error {ts : List String} {u : String} (hm : r.mediums = some ts)
    (hu : ts.find? Medium.rejects = some u) (dflt : MediumSet) :
    r.mediumsRead dflt = .error (ApiError.ofError (.invalidMedium u)) := by
  simp only [mediumsRead, hm, Medium.parseAll_of_find?_eq_some hu]

theorem mediumsRead_of_ok (hm : ∀ ts, r.mediums = some ts → ts.find? Medium.rejects = none) :
    r.mediumsRead d.allowed = .ok (r.overlay d).allowed := by
  cases hms : r.mediums with
  | none => simp only [mediumsRead, overlay, hms]
  | some ts => simp only [mediumsRead, overlay, hms, Medium.parseAll_of_find?_eq_none (hm ts hms)]

theorem applyCommon_of_strategy_error {s : String} (hs : r.strategy = some s)
    (he : (Strategy.parse s).isOk = false) :
    r.applyCommon d.toOptions = .error (ApiError.ofError (.invalidStrategy s)) := by
  rw [applyCommon_eq, applyBase_eq, strategyRead_of_error r hs he]
  rfl

theorem applyCommon_of_medium_error (hs : ∀ s, r.strategy = some s → (Strategy.parse s).isOk)
    {ts : List String} {u : String} (hm : r.mediums = some ts) (hu : ts.find? Medium.rejects = some u) :
    r.applyCommon d.toOptions = .error (ApiError.ofError (.invalidMedium u)) := by
  rw [applyCommon_eq, applyBase_eq, strategyRead_of_ok r d hs, mediumsRead_of_error r hm hu]
  rfl

theorem applyCommon_of_ok (hs : ∀ s, r.strategy = some s → (Strategy.parse s).isOk)
    (hm : ∀ ts, r.mediums = some ts → ts.find? Medium.rejects = none) :
    r.applyCommon d.toOptions = .ok (r.overlay d).toOptions := by
  rw [applyCommon_eq, applyBase_eq, strategyRead_of_ok r d hs, mediumsRead_of_ok r d hm]
  rfl

end NormalizeRequest

/-! ## The answer -/

/-- The answer for discovery options `o` as requested: the requested mediums, and the rest
read off their normalization. -/
def DiscoveryOptions.answer (o : DiscoveryOptions) : NormalizedResponse where
  strategy := o.resolve.1.strategy
  requestedMediums := o.allowed
  mediums := o.resolve.1.allowed
  resolution := o.resolve.2
  outOfBand := o.resolve.1.outOfBand
  lowPower := o.resolve.1.lowPower
  alwaysOn := o.resolve.1.alwaysOn
  autoUpgradeBandwidth := o.resolve.1.autoUpgradeBandwidth
  enforceTopologyConstraints := o.resolve.1.enforceTopologyConstraints
  upgradeMediums := o.resolve.1.upgradeMediums
  keepAlive := some o.resolve.1.keepAlive
  fastAdvertisementServiceUuid := o.resolve.1.fastAdvertisementServiceUuid

section Answers

variable (c : Config) (r : NormalizeRequest)

theorem normalizeDiscovery_of_config_error {e : ConfigError} (h : c.discoveryOptions = .error e) :
    normalizeDiscovery c r = .error (ApiError.ofError e.toError) := by
  simp only [normalizeDiscovery, h, bind, Except.bind]
  rfl

theorem normalizeDiscovery_of_request_error {d : DiscoveryOptions} {e : ApiError}
    (hc : c.discoveryOptions = .ok d) (he : r.applyCommon d.toOptions = .error e) :
    normalizeDiscovery c r = .error e := by
  simp only [normalizeDiscovery, hc, he, bind, Except.bind, pure, Except.pure]

theorem normalizeDiscovery_of_request_ok {d : DiscoveryOptions} (hc : c.discoveryOptions = .ok d)
    (ho : r.applyCommon d.toOptions = .ok (r.overlay d).toOptions) :
    normalizeDiscovery c r = .ok (r.overlay d).answer := by
  simp only [normalizeDiscovery, hc, ho, bind, Except.bind, pure, Except.pure]
  rfl

theorem ofError_configValidation (m : String) :
    ApiError.ofError (.configValidation m) =
      ⟨.internalError, "config_validation_error", (Error.configValidation m).message⟩ := by
  simp only [ApiError.ofError, Error.httpStatus, Error.code, ApiError.mk.injEq, and_true, true_and]
  cbv

theorem ofError_invalidStrategy (s : String) :
    ApiError.ofError (.invalidStrategy s) =
      ⟨.badRequest, "invalid_strategy", (Error.invalidStrategy s).message⟩ := by
  simp only [ApiError.ofError, Error.httpStatus, Error.code, ApiError.mk.injEq, and_true, true_and]
  cbv

theorem ofError_invalidMedium (s : String) :
    ApiError.ofError (.invalidMedium s) =
      ⟨.badRequest, "invalid_medium", (Error.invalidMedium s).message⟩ := by
  simp only [ApiError.ofError, Error.httpStatus, Error.code, ApiError.mk.injEq, and_true, true_and]
  cbv

/-- **Answering a discovery request.** The configured defaults read exactly when the
configured strategy reads and every configured medium does. A configured strategy that does
not read, and else the first configured medium that does not, is answered by a 500
`config_validation_error` naming it, whatever the request. Over readable defaults, a request
strategy that does not read is answered by a 400 `invalid_strategy` with the token as written;
then the first request medium that does not read by a 400 `invalid_medium` with that token.
Otherwise the answer describes the request laid over the defaults and its normalization. -/
theorem normalizeDiscovery_answers :
    ((∃ d, c.discoveryOptions = .ok d) ↔
      (Strategy.parse c.discovery.strategy).isOk ∧ c.discovery.mediums.find? Medium.rejects = none) ∧
    (∀ e, Strategy.parse c.discovery.strategy = .error e →
      normalizeDiscovery c r = .error ⟨.internalError, "config_validation_error",
        (Error.configValidation ("discovery.strategy: " ++ e.message)).message⟩) ∧
    (∀ t u, Strategy.parse c.discovery.strategy = .ok t →
      c.discovery.mediums.find? Medium.rejects = some u →
      normalizeDiscovery c r = .error ⟨.internalError, "config_validation_error",
        (Error.configValidation ("discovery.mediums: " ++ (Medium.UnknownMedium.mk u).message)).message⟩) ∧
    (∀ d s, c.discoveryOptions = .ok d → r.strategy = some s → (Strategy.parse s).isOk = false →
      normalizeDiscovery c r = .error ⟨.badRequest, "invalid_strategy", (Error.invalidStrategy s).message⟩) ∧
    (∀ d ts u, c.discoveryOptions = .ok d → (∀ s, r.strategy = some s → (Strategy.parse s).isOk) →
      r.mediums = some ts → ts.find? Medium.rejects = some u →
      normalizeDiscovery c r = .error ⟨.badRequest, "invalid_medium", (Error.invalidMedium u).message⟩) ∧
    (∀ d, c.discoveryOptions = .ok d → (∀ s, r.strategy = some s → (Strategy.parse s).isOk) →
      (∀ ts, r.mediums = some ts → ts.find? Medium.rejects = none) →
      normalizeDiscovery c r = .ok (r.overlay d).answer) := by
  refine ⟨c.discoveryOptions_ok_iff, ?_, ?_, ?_, ?_, ?_⟩
  · intro e he
    rw [normalizeDiscovery_of_config_error c r (c.discoveryOptions_of_strategy_error he),
      ConfigError.toError, ofError_configValidation]
    simp
  · intro t u ht hu
    rw [normalizeDiscovery_of_config_error c r (c.discoveryOptions_of_medium_error ht hu),
      ConfigError.toError, ofError_configValidation]
    simp
  · intro d s hc hs he
    rw [normalizeDiscovery_of_request_error c r hc (r.applyCommon_of_strategy_error d hs he),
      ofError_invalidStrategy]
  · intro d ts u hc hs hm hu
    rw [normalizeDiscovery_of_request_error c r hc (r.applyCommon_of_medium_error d hs hm hu),
      ofError_invalidMedium]
  · intro d hc hs hm
    exact normalizeDiscovery_of_request_ok c r hc (r.applyCommon_of_ok d hs hm)

end Answers

end Proximity
