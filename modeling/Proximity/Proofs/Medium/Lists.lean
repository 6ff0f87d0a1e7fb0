import Mathlib.Data.List.Dedup
import Proximity.Medium.Set

/-!
# Medium sets built from lists

`MediumSet.ofList` starts from the empty set and allows the mediums of a list one after
another. What it builds depends only on which mediums occur in the list (`get_ofList`): the
order of the list and repeated entries are forgotten, and the set of two lists joined is the
union of their sets. Going back, `members` lists the allowed mediums once each, in the order
of `Medium.all`, so the members of a list's set are the distinct mediums of the list, sorted,
and their number is the number of distinct mediums.

**Results.**
* `MediumSet.ofList_eq_ofList_iff`: two lists give one set exactly when they hold the same
  mediums; hence `ofList_perm` and `ofList_dedup`.
* `MediumSet.ofList_append`: the set of a joined list is the union.
* `MediumSet.members_ofList`, `MediumSet.members_ofList_perm_dedup`,
  `MediumSet.count_ofList`: the members of a list's set and their number.
* `MediumSet.ofList_allows_exactly_listed`: all of the above, with `ofList s.members = s`.
-/

namespace Proximity

theorem Medium.nodup_all : Medium.all.Nodup := by decide

namespace MediumSet

/-- The members of a set are listed once each, in the order of `Medium.all`. -/
theorem members_sublist (s : MediumSet) : s.members.Sublist Medium.all := List.filter_sublist

theorem nodup_members (s : MediumSet) : s.members.Nodup :=
  Medium.nodup_all.sublist s.members_sublist

/-- Two lists give the same set exactly when they hold the same mediums. -/
theorem ofList_eq_ofList_iff (l l' : List Medium) : ofList l = ofList l' ↔ ∀ m, m ∈ l ↔ m ∈ l' := by
  constructor
  · intro h m
    have hm : (ofList l).get m = (ofList l').get m := by rw [h]
    simpa using hm
  · intro h
    ext m
    simp [h m]

theorem ofList_perm {l l' : List Medium} (h : l.Perm l') : ofList l = ofList l' :=
  (ofList_eq_ofList_iff l l').2 fun _ => h.mem_iff

theorem ofList_dedup (l : List Medium) : ofList l.dedup = ofList l :=
  (ofList_eq_ofList_iff _ _).2 fun _ => List.mem_dedup

theorem ofList_append (l₁ l₂ : List Medium) : ofList (l₁ ++ l₂) = (ofList l₁).union (ofList l₂) := by
  ext m
  simp

/-- The members of a list's set: the mediums of `Medium.all` that occur in the list. -/
theorem members_ofList (l : List Medium) : (ofList l).members = Medium.all.filter (· ∈ l) :=
  List.filter_congr fun m _ => get_ofList l m

/-- The members of a list's set are the list's distinct mediums, up to order. -/
theorem members_ofList_perm_dedup (l : List Medium) : (ofList l).members.Perm l.dedup := by
  rw [List.perm_ext_iff_of_nodup (nodup_members _) (List.nodup_dedup l)]
  intro m
  simp [mem_members]

theorem count_ofList (l : List Medium) : (ofList l).count = l.dedup.length :=
  (members_ofList_perm_dedup l).length_eq

/-- A list's set allows exactly the listed mediums, whatever their order and repetitions; the
set of a joined list is the union; the members of a list's set are its distinct mediums in
the order of `Medium.all`, counted once each; and a set is the set of its members. -/
theorem ofList_allows_exactly_listed (l l' l₁ l₂ : List Medium) (s : MediumSet) :
    (∀ m, (ofList l).get m = true ↔ m ∈ l) ∧
    (ofList l = ofList l' ↔ ∀ m, m ∈ l ↔ m ∈ l') ∧
    (l.Perm l' → ofList l = ofList l') ∧ ofList l.dedup = ofList l ∧
    ofList (l₁ ++ l₂) = (ofList l₁).union (ofList l₂) ∧
    (ofList l).members = Medium.all.filter (· ∈ l) ∧
    (ofList l).members.Perm l.dedup ∧ (ofList l).members.Nodup ∧
    (ofList l).count = l.dedup.length ∧
    ofList s.members = s :=
  ⟨fun m => by simp, ofList_eq_ofList_iff l l', ofList_perm, ofList_dedup l, ofList_append l₁ l₂,
    members_ofList l, members_ofList_perm_dedup l, nodup_members _, count_ofList l,
    ofList_members s⟩

end MediumSet

end Proximity
