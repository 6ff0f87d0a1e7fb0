import Mathlib
import Proximity.Proofs.Medium.Lists

/-!
# Medium maps are pointwise

A `MediumMap α` holds one value per medium, and whatever is built from such maps is built
medium by medium: after `set m v`, `get` sees `v` at `m` and the old value at every other
medium; `map`, `zipWith` and `splat` act on each medium's value alone; `toList` lists each
medium with its value, in the order of `Medium.all`. These are the laws of `MediumMap`, one
case per pair of mediums, so no medium's value is ever read or written in another's place.

On sets of mediums, `inter` and `union` are therefore `&&` and `||` at each medium. Read
through `get`, a set is the function that tells which mediums it allows, and `get` is one to
one; ordered by inclusion, the sets of mediums form a distributive lattice with `inter` as
meet, `union` as join, `empty` as bottom and `full` as top (`MediumSet.distribLattice`),
and the laws of `inter` and `union` are the lattice's own. A set's `count` is the number of
its members, the size of the finite set they make (`card_memberSet`); so some medium is
allowed exactly when the count is positive, every medium exactly when it is seven, and the
counts of a union and of an intersection add up to the counts of the two sets.

**Results.**
* `inter_comm` … `union_empty`: the laws of intersection and union.
* `any_iff_count_pos`, `all_iff_count_eq_seven`, `count_union_add_count_inter`: counting.
* `selectors_are_pointwise`: all of it, with the laws of `MediumMap`.
-/

namespace Proximity

namespace MediumSet

/-! ## The lattice of sets of mediums -/

/-- `a ≤ b`: every medium `a` allows, `b` allows too. -/
instance : LE MediumSet := ⟨fun a b => a.get ≤ b.get⟩

instance : LT MediumSet := ⟨fun a b => a.get < b.get⟩

instance : Max MediumSet := ⟨union⟩

instance : Min MediumSet := ⟨inter⟩

/-- A set of mediums is known by the mediums it allows. -/
theorem get_injective : Function.Injective (MediumMap.get : MediumSet → Medium → Bool) :=
  fun _ _ h => MediumMap.ext (congrFun h)

/-- `get` takes union and intersection to the pointwise `||` and `&&`, so the sets of mediums
are a distributive lattice as the functions from mediums to `Bool` are. -/
instance distribLattice : DistribLattice MediumSet :=
  get_injective.distribLattice _ Iff.rfl Iff.rfl (fun a b => funext (get_union a b))
    (fun a b => funext (get_inter a b))

instance : BoundedOrder MediumSet where
  top := full
  le_top a m := by simp
  bot := empty
  bot_le a m := by simp

theorem inter_comm (a b : MediumSet) : a.inter b = b.inter a := inf_comm a b

theorem union_comm (a b : MediumSet) : a.union b = b.union a := sup_comm a b

theorem inter_assoc (a b c : MediumSet) : (a.inter b).inter c = a.inter (b.inter c) :=
  inf_assoc a b c

theorem union_assoc (a b c : MediumSet) : (a.union b).union c = a.union (b.union c) :=
  sup_assoc a b c

theorem inter_self (a : MediumSet) : a.inter a = a := inf_idem a

theorem union_self (a : MediumSet) : a.union a = a := sup_idem a

theorem inter_union_distrib_left (a b c : MediumSet) :
    a.inter (b.union c) = (a.inter b).union (a.inter c) :=
  inf_sup_left a b c

theorem union_inter_distrib_left (a b c : MediumSet) :
    a.union (b.inter c) = (a.union b).inter (a.union c) :=
  sup_inf_left a b c

theorem inter_union_self (a b : MediumSet) : a.inter (a.union b) = a := inf_sup_self

theorem union_inter_self (a b : MediumSet) : a.union (a.inter b) = a := sup_inf_self

theorem inter_full (a : MediumSet) : a.inter full = a := inf_top_eq a

theorem union_empty (a : MediumSet) : a.union empty = a := sup_bot_eq a

/-! ## Counting -/

/-- The allowed mediums, as a finite set. -/
def memberSet (s : MediumSet) : Finset Medium := s.members.toFinset

@[simp] theorem mem_memberSet {s : MediumSet} {m : Medium} :
    m ∈ s.memberSet ↔ s.get m = true := by
  simp [memberSet, mem_members]

/-- The members are listed once each, so their number is the size of their set. -/
theorem card_memberSet (s : MediumSet) : s.memberSet.card = s.count :=
  List.toFinset_card_of_nodup (nodup_members s)

theorem memberSet_union (a b : MediumSet) :
    (a.union b).memberSet = a.memberSet ∪ b.memberSet := by
  ext m
  simp

theorem memberSet_inter (a b : MediumSet) :
    (a.inter b).memberSet = a.memberSet ∩ b.memberSet := by
  ext m
  simp

/-- The counts of a union and an intersection add up to the counts of the two sets. -/
theorem count_union_add_count_inter (a b : MediumSet) :
    (a.union b).count + (a.inter b).count = a.count + b.count := by
  rw [← card_memberSet, ← card_memberSet, ← card_memberSet, ← card_memberSet,
    memberSet_union, memberSet_inter]
  exact Finset.card_union_add_card_inter _ _

theorem any_iff_count_pos (s : MediumSet) : s.any = true ↔ 0 < s.count := by
  rw [Nat.pos_iff_ne_zero, Ne, count_eq_zero_iff, Bool.not_eq_false]

theorem all_iff_count_eq_seven (s : MediumSet) : s.all = true ↔ s.count = 7 := by
  have hlen : Medium.all.length = 7 := rfl
  rw [all, count, members, ← hlen, List.length_filter_eq_length_iff, List.all_eq_true]

end MediumSet

/-! ## All together -/

/-- Every operation on medium maps works medium by medium, and `toList` lists the mediums in
order with their values. On sets of mediums, intersection and union are `&&` and `||` at each
medium, so they are commutative, associative, idempotent, distribute over each other and
absorb each other, with `full` and `empty` as their units. A set allows some medium exactly
when its count is positive and every medium exactly when its count is seven; its count is the
number of its members, and the counts of a union and an intersection add up to the counts of
the two sets. -/
theorem MediumMap.selectors_are_pointwise {α β γ : Type} :
    (∀ (s : MediumMap α) m v, (s.set m v).get m = v) ∧
    (∀ (s : MediumMap α) m m' v, m' ≠ m → (s.set m v).get m' = s.get m') ∧
    (∀ (s : MediumMap α) (f : Medium → α → β) m, (s.map f).get m = f m (s.get m)) ∧
    (∀ (s : MediumMap α) (t : MediumMap β) (f : α → β → γ) m,
      (s.zipWith t f).get m = f (s.get m) (t.get m)) ∧
    (∀ (v : α) m, (MediumMap.splat v).get m = v) ∧
    (∀ s : MediumMap α, s.toList = Medium.all.map fun m => (m, s.get m)) ∧
    (∀ (a b : MediumSet) m,
      (a.inter b).get m = (a.get m && b.get m) ∧ (a.union b).get m = (a.get m || b.get m)) ∧
    (∀ a b : MediumSet, a.inter b = b.inter a ∧ a.union b = b.union a) ∧
    (∀ a b c : MediumSet,
      (a.inter b).inter c = a.inter (b.inter c) ∧ (a.union b).union c = a.union (b.union c)) ∧
    (∀ a : MediumSet, a.inter a = a ∧ a.union a = a) ∧
    (∀ a b c : MediumSet, a.inter (b.union c) = (a.inter b).union (a.inter c) ∧
      a.union (b.inter c) = (a.union b).inter (a.union c)) ∧
    (∀ a b : MediumSet, a.inter (a.union b) = a ∧ a.union (a.inter b) = a) ∧
    (∀ a : MediumSet, a.inter .full = a ∧ a.union .empty = a) ∧
    (∀ a : MediumSet, (a.any = true ↔ 0 < a.count) ∧ (a.all = true ↔ a.count = 7) ∧
      a.count = a.members.length) ∧
    (∀ a b : MediumSet, (a.union b).count + (a.inter b).count = a.count + b.count) :=
  ⟨get_set_self, fun s _ _ v h => get_set_of_ne s v h, get_map, get_zipWith, get_splat,
    toList_eq,
    fun a b m => ⟨MediumSet.get_inter a b m, MediumSet.get_union a b m⟩,
    fun a b => ⟨MediumSet.inter_comm a b, MediumSet.union_comm a b⟩,
    fun a b c => ⟨MediumSet.inter_assoc a b c, MediumSet.union_assoc a b c⟩,
    fun a => ⟨MediumSet.inter_self a, MediumSet.union_self a⟩,
    fun a b c =>
      ⟨MediumSet.inter_union_distrib_left a b c, MediumSet.union_inter_distrib_left a b c⟩,
    fun a b => ⟨MediumSet.inter_union_self a b, MediumSet.union_inter_self a b⟩,
    fun a => ⟨MediumSet.inter_full a, MediumSet.union_empty a⟩,
    fun a => ⟨MediumSet.any_iff_count_pos a, MediumSet.all_iff_count_eq_seven a, rfl⟩,
    MediumSet.count_union_add_count_inter⟩

end Proximity
