import Proximity.Options

/-!
# Legal medium sets

Normalizing options (`Options.resolve`) replaces the requested medium set by a legal one and
reports the rule it used. A set is legal for a connection (`LegalMediums`) when it holds
exactly one medium on an out-of-band connection and at least one otherwise.

Everything below rests on two facts about `resolveMediums`: each of its three rules gives a
legal set (`resolveMediums_legal`), and a legal set is kept and reported unchanged
(`resolveMediums_of_legal`). Idempotence, and the agreement of the upgrade mediums before
and after normalizing, follow from the two without another look at the rules.

**Results.**
* `upgradeMediums_get`: a medium is an upgrade target exactly when automatic upgrade is on,
  the connection is in band, the in-band normalized set allows it and, under topology
  constraints, the strategy can run over it.
* `resolve_normalizes`: for advertising and discovery options alike, normalizing changes
  only the medium set, makes it legal, keeps a legal set, falls back to Bluetooth Classic or
  widens to every medium exactly when the rules say so, reports which rule it used, is
  idempotent, and leaves the upgrade mediums as they were.
-/

namespace Proximity

/-- A medium set is legal for a connection: one medium out of band, at least one in band. -/
def LegalMediums : Bool → MediumSet → Prop
  | true, s => s.count = 1
  | false, s => 0 < s.count

/-! ## The three rules -/

theorem resolveMediums_true (s : MediumSet) :
    resolveMediums s true =
      if s.count = 1 then (s, .unchanged)
      else (MediumSet.only .bluetoothClassic, .outOfBandFallback) := rfl

theorem resolveMediums_false (s : MediumSet) :
    resolveMediums s false =
      if s.count = 0 then (MediumSet.full, .allMediums) else (s, .unchanged) := by
  by_cases h : s.count = 0
  · rw [if_pos h]
    simp [resolveMediums, (MediumSet.count_eq_zero_iff s).1 h]
  · rw [if_neg h]
    have hany : s.any = true := by
      simpa [MediumSet.count_eq_zero_iff] using h
    simp [resolveMediums, hany]

/-- Every rule gives a legal set. -/
theorem resolveMediums_legal (s : MediumSet) (b : Bool) : LegalMediums b (resolveMediums s b).1 := by
  cases b with
  | false =>
    rw [resolveMediums_false]
    split
    · simp [LegalMediums]
    · simp only [LegalMediums]; omega
  | true =>
    rw [resolveMediums_true]
    split
    · assumption
    · simp [LegalMediums]

/-- A legal set is kept, and the rule reported is `unchanged`. -/
theorem resolveMediums_of_legal {s : MediumSet} {b : Bool} (h : LegalMediums b s) :
    resolveMediums s b = (s, .unchanged) := by
  cases b with
  | false =>
    simp only [LegalMediums] at h
    rw [resolveMediums_false, if_neg (by omega)]
  | true =>
    simp only [LegalMediums] at h
    rw [resolveMediums_true, if_pos h]

theorem normalizeMediums_idem (s : MediumSet) (b : Bool) :
    normalizeMediums (normalizeMediums s b) b = normalizeMediums s b := by
  show (resolveMediums (resolveMediums s b).1 b).1 = (resolveMediums s b).1
  rw [resolveMediums_of_legal (resolveMediums_legal s b)]

/-! ## Which rule was reported -/

theorem resolveMediums_unchanged_iff (s : MediumSet) (b : Bool) :
    (resolveMediums s b).2 = .unchanged ↔ (resolveMediums s b).1 = s := by
  cases b with
  | false =>
    rw [resolveMediums_false]
    split
    · rename_i h
      -- the full set counts seven mediums, the requested one none
      have hne : MediumSet.full ≠ s := fun he => by simp [← he] at h
      simp [hne]
    · simp
  | true =>
    rw [resolveMediums_true]
    split
    · simp
    · rename_i h
      have hne : MediumSet.only .bluetoothClassic ≠ s := fun he => h (he ▸ MediumSet.count_only _)
      simp [hne]

theorem resolveMediums_allMediums_iff (s : MediumSet) (b : Bool) :
    (resolveMediums s b).2 = .allMediums ↔ b = false ∧ s.count = 0 := by
  cases b with
  | false => rw [resolveMediums_false]; split <;> simp [*]
  | true => rw [resolveMediums_true]; split <;> simp

theorem resolveMediums_fallback_iff (s : MediumSet) (b : Bool) :
    (resolveMediums s b).2 = .outOfBandFallback ↔ b = true ∧ s.count ≠ 1 := by
  cases b with
  | false => rw [resolveMediums_false]; split <;> simp
  | true => rw [resolveMediums_true]; split <;> simp [*]

/-! ## Options -/

/-- What normalizing `o` into `o'`, reporting rule `r`, does. -/
structure NormalizedFrom (o o' : Options) (r : Resolution) : Prop where
  /-- only the medium set changes -/
  frame : o' = { o with allowed := o'.allowed }
  legal : LegalMediums o.outOfBand o'.allowed
  keeps : LegalMediums o.outOfBand o.allowed → o'.allowed = o.allowed
  fallback : o.outOfBand = true → o.allowed.count ≠ 1 →
    o'.allowed = MediumSet.only .bluetoothClassic
  widens : o.outOfBand = false → o.allowed.count = 0 → o'.allowed = MediumSet.full
  unchanged_iff : r = .unchanged ↔ o'.allowed = o.allowed
  allMediums_iff : r = .allMediums ↔ o.outOfBand = false ∧ o.allowed.count = 0
  fallback_iff : r = .outOfBandFallback ↔ o.outOfBand = true ∧ o.allowed.count ≠ 1
  upgrades : o'.upgradeMediums = o.upgradeMediums

namespace Options

theorem resolve_eq (o : Options) :
    o.resolve = ({ o with allowed := normalizeMediums o.allowed o.outOfBand },
      (resolveMediums o.allowed o.outOfBand).2) := rfl

theorem resolve_of_legal {o : Options} (h : LegalMediums o.outOfBand o.allowed) :
    o.resolve = (o, .unchanged) := by
  rw [resolve_eq, normalizeMediums, resolveMediums_of_legal h]

theorem resolve_resolve (o : Options) : o.resolve.1.resolve = (o.resolve.1, .unchanged) :=
  resolve_of_legal (resolveMediums_legal o.allowed o.outOfBand)

theorem normalizeMediums_false_get (s : MediumSet) (m : Medium) :
    (normalizeMediums s false).get m = (!s.any || s.get m) := by
  cases h : s.any <;> simp [normalizeMediums, resolveMediums, h]

/-- The upgrade mediums, medium by medium. -/
theorem upgradeMediums_get (o : Options) (m : Medium) :
    o.upgradeMediums.get m =
      (o.autoUpgradeBandwidth && !o.outOfBand && (!o.allowed.any || o.allowed.get m) &&
        (!o.enforceTopologyConstraints || o.strategy.isMediumCompatible m)) := by
  obtain ⟨t, s, lp, ao, au, en, oob, u⟩ := o
  cases au <;> cases oob <;> cases en <;>
    simp [upgradeMediums, normalizeMediums_false_get, Strategy.isMediumCompatible]

/-- Upgrades read the medium set only through its in-band normalization, which normalizing
first does not change. -/
theorem upgradeMediums_resolve (o : Options) : o.resolve.1.upgradeMediums = o.upgradeMediums := by
  cases hb : o.outOfBand with
  | false =>
    have hn := normalizeMediums_idem o.allowed false
    simp only [resolve_eq, upgradeMediums, hb, hn]
  | true => simp [resolve_eq, upgradeMediums, hb]

theorem resolve_normalizedFrom (o : Options) : NormalizedFrom o o.resolve.1 o.resolve.2 where
  frame := rfl
  legal := resolveMediums_legal o.allowed o.outOfBand
  keeps h := congrArg Prod.fst (resolveMediums_of_legal h)
  fallback h1 h2 := by
    simp only [resolve_eq, normalizeMediums, h1, resolveMediums_true, if_neg h2]
  widens h1 h2 := by
    simp only [resolve_eq, normalizeMediums, h1, resolveMediums_false, if_pos h2]
  unchanged_iff := resolveMediums_unchanged_iff o.allowed o.outOfBand
  allMediums_iff := resolveMediums_allMediums_iff o.allowed o.outOfBand
  fallback_iff := resolveMediums_fallback_iff o.allowed o.outOfBand
  upgrades := upgradeMediums_resolve o

end Options

namespace DiscoveryOptions

theorem resolve_eq (d : DiscoveryOptions) :
    d.resolve = ({ d with toOptions := d.toOptions.resolve.1 }, d.toOptions.resolve.2) := rfl

theorem resolve_resolve (d : DiscoveryOptions) : d.resolve.1.resolve = (d.resolve.1, .unchanged) := by
  rw [resolve_eq d.resolve.1]
  have h : d.resolve.1.toOptions.resolve = (d.resolve.1.toOptions, .unchanged) :=
    Options.resolve_resolve d.toOptions
  rw [h]

end DiscoveryOptions

/-- **Normalizing options.** For advertising options, and for discovery options with their
keep-alive kept as it was, normalizing changes only the medium set, makes it legal, keeps a
legal set, replaces any other out-of-band set by Bluetooth Classic alone and an empty in-band
set by every medium, reports exactly the rule it applied, is idempotent and leaves the
upgrade mediums unchanged. A medium is an upgrade target exactly when automatic upgrade is
on, the connection is in band, the in-band normalized set allows it and, under topology
constraints, the strategy can run over it. -/
theorem resolve_normalizes :
    (∀ o : AdvertisingOptions, NormalizedFrom o o.resolve.1 o.resolve.2 ∧
      o.resolve.1.resolve = (o.resolve.1, .unchanged)) ∧
    (∀ d : DiscoveryOptions, d.resolve.1 = { d with toOptions := d.resolve.1.toOptions } ∧
      NormalizedFrom d.toOptions d.resolve.1.toOptions d.resolve.2 ∧
      d.resolve.1.resolve = (d.resolve.1, .unchanged)) ∧
    (∀ (o : Options) (m : Medium), o.upgradeMediums.get m =
      (o.autoUpgradeBandwidth && !o.outOfBand && (!o.allowed.any || o.allowed.get m) &&
        (!o.enforceTopologyConstraints || o.strategy.isMediumCompatible m))) :=
  ⟨fun o => ⟨o.resolve_normalizedFrom, o.resolve_resolve⟩,
    fun d => ⟨rfl, d.toOptions.resolve_normalizedFrom, d.resolve_resolve⟩,
    Options.upgradeMediums_get⟩

end Proximity
