import Proximity.Medium.Map

/-!
# Sets of mediums

A `MediumSet` says, for each medium, whether it is allowed. It is a `MediumMap Bool`, so
the laws of `MediumMap` apply; on top of them come the set operations. `inter` and
`union` are pointwise `&&` and `||`, `members` lists the allowed mediums in the order of
`Medium.all`, and `count` is their number.

`ofList` allows exactly the mediums of a list (`get_ofList`): repeating or reordering the
list changes nothing, and `ofList s.members = s`.
-/

namespace Proximity

/-- Which mediums are allowed. -/
abbrev MediumSet := MediumMap Bool

namespace MediumSet

/-- No medium allowed. -/
def empty : MediumSet := MediumMap.splat false

/-- Every medium allowed. -/
def full : MediumSet := MediumMap.splat true

/-- Exactly one medium allowed. -/
def only (m : Medium) : MediumSet := empty.set m true

/-- The mediums of a list allowed, and no other. -/
def ofList (ms : List Medium) : MediumSet :=
  ms.foldl (fun s m => s.set m true) empty

/-- The mediums allowed by both sets. -/
def inter (s t : MediumSet) : MediumSet := s.zipWith t (· && ·)

/-- The mediums allowed by either set. -/
def union (s t : MediumSet) : MediumSet := s.zipWith t (· || ·)

/-- The allowed mediums, in the order of `Medium.all`. -/
def members (s : MediumSet) : List Medium := Medium.all.filter s.get

/-- How many mediums are allowed. -/
def count (s : MediumSet) : Nat := s.members.length

/-- Some medium is allowed. -/
def any (s : MediumSet) : Bool := Medium.all.any s.get

/-- Every medium is allowed. -/
def all (s : MediumSet) : Bool := Medium.all.all s.get

@[simp] theorem get_empty (m : Medium) : empty.get m = false := by simp [empty]

@[simp] theorem get_full (m : Medium) : full.get m = true := by simp [full]

@[simp] theorem get_only (m m' : Medium) : (only m).get m' = decide (m' = m) := by
  by_cases h : m' = m
  · subst h; simp [only]
  · simp [only, MediumMap.get_set_of_ne _ _ h, h]

@[simp] theorem get_inter (s t : MediumSet) (m : Medium) :
    (s.inter t).get m = (s.get m && t.get m) := by simp [inter]

@[simp] theorem get_union (s t : MediumSet) (m : Medium) :
    (s.union t).get m = (s.get m || t.get m) := by simp [union]

theorem get_foldl_set (ms : List Medium) (s : MediumSet) (m : Medium) :
    (ms.foldl (fun s m => s.set m true) s).get m = (s.get m || decide (m ∈ ms)) := by
  induction ms generalizing s with
  | nil => simp
  | cons a as ih =>
    simp only [List.foldl_cons, ih, MediumMap.get_set, List.mem_cons]
    by_cases h : m = a <;> simp [h]

/-- A list's set allows exactly the mediums of the list. -/
@[simp] theorem get_ofList (ms : List Medium) (m : Medium) :
    (ofList ms).get m = decide (m ∈ ms) := by
  simp [ofList, get_foldl_set]

theorem mem_members (s : MediumSet) (m : Medium) : m ∈ s.members ↔ s.get m = true := by
  simp [members, Medium.mem_all]

theorem ofList_members (s : MediumSet) : ofList s.members = s := by
  ext m; simp [mem_members]

@[simp] theorem count_only (m : Medium) : (only m).count = 1 := by
  cases m <;> rfl

@[simp] theorem count_full : full.count = 7 := rfl

@[simp] theorem any_full : full.any = true := rfl

/-- A set allows no medium exactly when it counts none. -/
theorem count_eq_zero_iff (s : MediumSet) : s.count = 0 ↔ s.any = false := by
  simp [count, any, members, List.filter_eq_nil_iff]

end MediumSet

end Proximity
