import Proximity.Medium

/-!
# A value for every medium

`MediumMap α` holds one value of `α` for each of the seven mediums. It is read with
`get` and changed one medium at a time with `set`; `map`, `zipWith` and `splat` build
maps pointwise; `toList` lists the pairs in the order of `Medium.all`.

The laws below say that `get` sees exactly what these operations put in: after
`set m v`, `get m` is `v` and every other medium is untouched (`get_set_self`,
`get_set_of_ne`), and the pointwise builders are pointwise (`get_map`, `get_zipWith`,
`get_splat`). Two maps with the same `get` are equal (`ext`).
-/

namespace Proximity

/-- One value for each medium. -/
structure MediumMap (α : Type) where
  bluetooth : α
  ble : α
  wifiLan : α
  wifiDirect : α
  wifiAware : α
  nfc : α
  webRtc : α
  deriving DecidableEq, Repr, Inhabited

namespace MediumMap

variable {α β γ : Type}

/-- The value held for a medium. -/
def get (s : MediumMap α) : Medium → α
  | .bluetoothClassic => s.bluetooth
  | .ble => s.ble
  | .wifiLan => s.wifiLan
  | .wifiDirect => s.wifiDirect
  | .wifiAware => s.wifiAware
  | .nfc => s.nfc
  | .webRtc => s.webRtc

/-- The map with the value for one medium replaced. -/
def set (s : MediumMap α) (m : Medium) (v : α) : MediumMap α :=
  match m with
  | .bluetoothClassic => { s with bluetooth := v }
  | .ble => { s with ble := v }
  | .wifiLan => { s with wifiLan := v }
  | .wifiDirect => { s with wifiDirect := v }
  | .wifiAware => { s with wifiAware := v }
  | .nfc => { s with nfc := v }
  | .webRtc => { s with webRtc := v }

/-- The map built from a value for each medium. -/
def ofFn (f : Medium → α) : MediumMap α :=
  ⟨f .bluetoothClassic, f .ble, f .wifiLan, f .wifiDirect, f .wifiAware, f .nfc, f .webRtc⟩

/-- The same value for every medium. -/
def splat (v : α) : MediumMap α := ofFn fun _ => v

/-- The map with `f` applied to each medium and its value. -/
def map (s : MediumMap α) (f : Medium → α → β) : MediumMap β :=
  ofFn fun m => f m (s.get m)

/-- Two maps combined medium by medium. -/
def zipWith (s : MediumMap α) (t : MediumMap β) (f : α → β → γ) : MediumMap γ :=
  ofFn fun m => f (s.get m) (t.get m)

/-- Each medium with its value, in the order of `Medium.all`. -/
def toList (s : MediumMap α) : List (Medium × α) :=
  Medium.all.map fun m => (m, s.get m)

@[simp] theorem get_ofFn (f : Medium → α) (m : Medium) : (ofFn f).get m = f m := by
  cases m <;> rfl

@[simp] theorem get_set_self (s : MediumMap α) (m : Medium) (v : α) : (s.set m v).get m = v := by
  cases m <;> rfl

theorem get_set_of_ne (s : MediumMap α) {m m' : Medium} (v : α) (h : m' ≠ m) :
    (s.set m v).get m' = s.get m' := by
  cases m <;> cases m' <;> first | rfl | exact absurd rfl h

theorem get_set (s : MediumMap α) (m m' : Medium) (v : α) :
    (s.set m v).get m' = if m' = m then v else s.get m' := by
  by_cases h : m' = m
  · subst h; simp
  · rw [if_neg h, get_set_of_ne s v h]

@[simp] theorem get_splat (v : α) (m : Medium) : (splat v).get m = v := by
  simp [splat]

@[simp] theorem get_map (s : MediumMap α) (f : Medium → α → β) (m : Medium) :
    (s.map f).get m = f m (s.get m) := by
  simp [map]

@[simp] theorem get_zipWith (s : MediumMap α) (t : MediumMap β) (f : α → β → γ) (m : Medium) :
    (s.zipWith t f).get m = f (s.get m) (t.get m) := by
  simp [zipWith]

@[ext] theorem ext {s t : MediumMap α} (h : ∀ m, s.get m = t.get m) : s = t := by
  cases s; cases t
  have h1 := h .bluetoothClassic; have h2 := h .ble; have h3 := h .wifiLan
  have h4 := h .wifiDirect; have h5 := h .wifiAware; have h6 := h .nfc; have h7 := h .webRtc
  simp only [get] at h1 h2 h3 h4 h5 h6 h7
  subst h1 h2 h3 h4 h5 h6 h7; rfl

theorem toList_eq (s : MediumMap α) : s.toList = Medium.all.map fun m => (m, s.get m) := rfl

end MediumMap

end Proximity
