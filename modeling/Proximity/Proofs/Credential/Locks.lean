import Mathlib.Data.List.Nodup
import Proximity.Credential.Locks

/-!
# One lock per account, in every state of the lock table

The calls on the file store take, hold, let go and drop handles on the locks of a table
(`AccountLocks`). Whatever the calls do, in whatever interleaving, the table stays a map from
accounts to locks with no lock shared by two accounts, and every handle a call keeps is on the
lock the table holds for the handle's account (`Inv`). The table does forget locks, but only
those that no handle is on, and a lock it makes is one no handle has ever been on.

So all the calls on one account synchronise on one lock, and the lock's own rule, one writer
alone or any number of readers, becomes a rule per account: while a save of an account holds
its lock, no other save or read of that account holds it. Taking a lock leaves in the table
exactly the accounts some call was still working on, and the account just asked for.

**Results.**
* `Inv.take`, `Inv.read`, `Inv.write`, `Inv.release`, `Inv.drop`: each kind of step keeps
  `Inv`; `Reachable.inv`: so does every run from the empty table.
* `holdersFor_writing_le_one`, `holdersFor_reading_of_writing`: the rule of the lock per account.
* `accounts_take`: the accounts of the table after a lock is taken.
* `account_locks_shared`: all of it, for every reachable state.
-/

namespace Proximity

/-! ## Looking up a map kept as a list of pairs -/

section Lookup

variable {α β : Type} [DecidableEq α] {l : List (α × β)} {a : α} {b : β}

theorem lookup_of_mem (hnd : (l.map Prod.fst).Nodup) (h : (a, b) ∈ l) : l.lookup a = some b := by
  induction l with
  | nil => cases h
  | cons p l ih =>
    obtain ⟨k, v⟩ := p
    simp only [List.map_cons, List.nodup_cons] at hnd
    rcases List.mem_cons.1 h with he | h
    · cases he
      simp
    · have hne : (a == k) = false :=
        beq_eq_false_iff_ne.2 fun e => hnd.1 (e ▸ List.mem_map.2 ⟨_, h, rfl⟩)
      rw [List.lookup_cons, hne]
      exact ih hnd.2 h

theorem mem_of_lookup (h : l.lookup a = some b) : (a, b) ∈ l := by
  obtain ⟨l₁, l₂, rfl, -⟩ := List.lookup_eq_some_iff.1 h
  simp

end Lookup

namespace AccountLocks

variable {s s' : AccountLocks}

/-! ## Counting holders -/

/-- The handles on one lock that hold it in a given way. -/
def holdersOn (s : AccountLocks) (l : Nat) (hold : Hold) : Nat :=
  s.handles.countP fun h => h.lock == l && h.hold == hold

/-- The handles asked for one account that hold their lock in a given way. -/
def holdersFor (s : AccountLocks) (a : String) (hold : Hold) : Nat :=
  s.handles.countP fun h => h.account == a && h.hold == hold

theorem holdersOn_setHold {i : Nat} {h : LockHandle} (hi : s.handles[i]? = some h) (hold : Hold)
    (l : Nat) (x : Hold) :
    (s.setHold i h hold).holdersOn l x = s.holdersOn l x - (if h.lock = l ∧ h.hold = x then 1 else 0) +
      (if h.lock = l ∧ hold = x then 1 else 0) := by
  obtain ⟨hlt, rfl⟩ := List.getElem?_eq_some_iff.1 hi
  simp [holdersOn, setHold, List.countP_set hlt]

theorem mem_setHold {i : Nat} {h g : LockHandle} {hold : Hold} (hg : g ∈ (s.setHold i h hold).handles) :
    g ∈ s.handles ∨ g = { h with hold } :=
  List.mem_or_eq_of_mem_set hg

/-- No writer on a lock, counted. -/
theorem holdersOn_writing_of_noWriter {l : Nat} (h : s.noWriter l = true) :
    s.holdersOn l .writing = 0 := by
  simp only [noWriter, List.all_eq_true] at h
  simp only [holdersOn, List.countP_eq_zero]
  intro g hg
  simpa [or_iff_not_imp_left] using h g hg

/-- No holder of a lock, counted. -/
theorem holdersOn_of_unheld {l : Nat} (h : s.unheld l = true) {x : Hold} (hx : x ≠ .idle) :
    s.holdersOn l x = 0 := by
  simp only [unheld, List.all_eq_true] at h
  simp only [holdersOn, List.countP_eq_zero]
  intro g hg hgx
  simp only [Bool.and_eq_true, beq_iff_eq] at hgx
  have := h g hg
  simp_all

/-! ## The invariant -/

/-- What every reachable state keeps: the table maps each of its accounts to one lock and no
lock to two accounts, every identity handed out is below `fresh`, every handle is on the lock
the table holds for its account, and each lock has one writer alone or only readers. -/
structure Inv (s : AccountLocks) : Prop where
  accounts_nodup : (s.table.map Prod.fst).Nodup
  locks_nodup : (s.table.map Prod.snd).Nodup
  below_fresh : ∀ e ∈ s.table, e.2 < s.fresh
  handle_lock : ∀ h ∈ s.handles, s.table.lookup h.account = some h.lock
  one_writer : ∀ l, s.holdersOn l .writing ≤ 1
  writer_alone : ∀ l, 0 < s.holdersOn l .writing → s.holdersOn l .reading = 0

theorem inv_empty : Inv {} :=
  ⟨List.nodup_nil, List.nodup_nil, by simp, by simp, by simp [holdersOn], by simp [holdersOn]⟩

/-- A change of one handle's hold that keeps the rule of each lock keeps the invariant. -/
theorem Inv.setHold (hs : Inv s) {i : Nat} {h : LockHandle} (hold : Hold)
    (hone : ∀ l, (s.setHold i h hold).holdersOn l .writing ≤ 1)
    (halone : ∀ l, 0 < (s.setHold i h hold).holdersOn l .writing →
      (s.setHold i h hold).holdersOn l .reading = 0)
    (hi : s.handles[i]? = some h) : Inv (s.setHold i h hold) where
  accounts_nodup := hs.accounts_nodup
  locks_nodup := hs.locks_nodup
  below_fresh := hs.below_fresh
  handle_lock g hg := by
    rcases mem_setHold hg with hg | rfl
    · exact hs.handle_lock g hg
    · exact hs.handle_lock h (List.mem_of_getElem? hi)
  one_writer := hone
  writer_alone := halone

/-! ## Each step keeps the invariant -/

/-- A handle is on a lock the table keeps when it forgets the locks nobody holds. -/
theorem mem_kept (hs : Inv s) {h : LockHandle} (hh : h ∈ s.handles) : (h.account, h.lock) ∈ s.kept := by
  refine List.mem_filter.2 ⟨mem_of_lookup (hs.handle_lock h hh), ?_⟩
  simpa [handlesOn] using ⟨h, hh, rfl⟩

theorem kept_sublist (s : AccountLocks) : s.kept.Sublist s.table := List.filter_sublist

theorem lookup_kept (hs : Inv s) {h : LockHandle} (hh : h ∈ s.handles) :
    s.kept.lookup h.account = some h.lock :=
  lookup_of_mem (hs.accounts_nodup.sublist (s.kept_sublist.map _)) (mem_kept hs hh)

/-- A new handle holds nothing, so the rule of each lock stands. -/
theorem holdersOn_append_idle (s : AccountLocks) (t : List (String × Nat)) (f : Nat)
    (a : String) (l : Nat) (x : Hold) (hx : x ≠ .idle) (k : Nat) :
    ({ table := t, handles := s.handles ++ [⟨a, l, .idle⟩], fresh := f } : AccountLocks).holdersOn k x =
      s.holdersOn k x := by
  simp [holdersOn, List.countP_append, Ne.symm hx]

theorem Inv.take (hs : Inv s) (a : String) : Inv (s.take a).1 := by
  have hkeys := hs.accounts_nodup.sublist (s.kept_sublist.map Prod.fst)
  have hlocks := hs.locks_nodup.sublist (s.kept_sublist.map Prod.snd)
  have hbelow : ∀ e ∈ s.kept, e.2 < s.fresh := fun e he => hs.below_fresh e (s.kept_sublist.subset he)
  unfold AccountLocks.take
  cases hl : s.kept.lookup a with
  | some l =>
    refine ⟨hkeys, hlocks, hbelow, fun g hg => ?_, fun k => ?_, fun k => ?_⟩
    · rcases List.mem_append.1 hg with hg | hg
      · exact lookup_kept hs hg
      · simp only [List.mem_singleton] at hg
        subst hg
        exact hl
    · rw [holdersOn_append_idle s _ _ a l .writing (by decide)]
      exact hs.one_writer k
    · rw [holdersOn_append_idle s _ _ a l .writing (by decide),
        holdersOn_append_idle s _ _ a l .reading (by decide)]
      exact hs.writer_alone k
  | none =>
    -- the account has no lock left in the table, so no handle is asked for it
    have hfresh : s.fresh ∉ s.kept.map Prod.snd := by
      simp only [List.mem_map, not_exists, not_and]
      intro e he hfe
      exact absurd (hbelow e he) (by omega)
    have hnew : a ∉ s.kept.map Prod.fst := by
      rw [List.lookup_eq_none_iff] at hl
      simp only [List.mem_map, not_exists, not_and]
      intro e he hea
      simpa [hea] using hl e he
    refine ⟨?_, ?_, fun e he => ?_, fun g hg => ?_, fun k => ?_, fun k => ?_⟩
    · simpa [List.concat_eq_append] using hkeys.concat hnew
    · simpa [List.concat_eq_append] using hlocks.concat hfresh
    · rcases List.mem_append.1 he with he | he
      · exact Nat.lt_succ_of_lt (hbelow e he)
      · simp only [List.mem_singleton] at he
        subst he
        exact Nat.lt_succ_self _
    · rw [List.lookup_append]
      rcases List.mem_append.1 hg with hg | hg
      · rw [lookup_kept hs hg]
        rfl
      · simp only [List.mem_singleton] at hg
        subst hg
        simp [hl]
    · rw [holdersOn_append_idle s _ _ a s.fresh .writing (by decide)]
      exact hs.one_writer k
    · rw [holdersOn_append_idle s _ _ a s.fresh .writing (by decide),
        holdersOn_append_idle s _ _ a s.fresh .reading (by decide)]
      exact hs.writer_alone k

theorem Inv.read (hs : Inv s) {i : Nat} {h : LockHandle} (hi : s.handles[i]? = some h)
    (hidle : h.hold = .idle) (hfree : s.noWriter h.lock = true) : Inv (s.setHold i h .reading) := by
  have hw := holdersOn_writing_of_noWriter hfree
  refine hs.setHold .reading (fun l => ?_) (fun l hl => ?_) hi
  · -- a reader more leaves the writers as they were
    rw [holdersOn_setHold hi]
    have := hs.one_writer l
    simp [hidle]
    omega
  · rw [holdersOn_setHold hi] at hl ⊢
    by_cases hlk : h.lock = l
    · subst hlk
      simp [hidle, hw] at hl
    · simpa [hlk] using hs.writer_alone l (by simpa [hlk] using hl)

theorem Inv.write (hs : Inv s) {i : Nat} {h : LockHandle} (hi : s.handles[i]? = some h)
    (hfree : s.unheld h.lock = true) : Inv (s.setHold i h .writing) := by
  have hw := holdersOn_of_unheld hfree (x := .writing) (by decide)
  have hr := holdersOn_of_unheld hfree (x := .reading) (by decide)
  refine hs.setHold .writing (fun l => ?_) (fun l hl => ?_) hi
  · -- the lock had no writer, and gets one
    rw [holdersOn_setHold hi]
    by_cases hlk : h.lock = l
    · subst hlk
      rw [hw]
      split <;> simp
    · simpa [hlk] using hs.one_writer l
  · rw [holdersOn_setHold hi] at hl ⊢
    by_cases hlk : h.lock = l
    · subst hlk
      rw [hr]
      simp
    · simpa [hlk] using hs.writer_alone l (by simpa [hlk] using hl)

theorem Inv.release (hs : Inv s) {i : Nat} {h : LockHandle} (hi : s.handles[i]? = some h) :
    Inv (s.setHold i h .idle) := by
  -- letting a lock go only lowers the counts
  have hle : ∀ l x, x ≠ .idle → (s.setHold i h .idle).holdersOn l x ≤ s.holdersOn l x := by
    intro l x hx
    rw [holdersOn_setHold hi]
    simp [Ne.symm hx]
  refine hs.setHold .idle (fun l => Nat.le_trans (hle l .writing (by decide)) (hs.one_writer l))
    (fun l hl => ?_) hi
  have := hs.writer_alone l (Nat.lt_of_lt_of_le hl (hle l .writing (by decide)))
  have := hle l .reading (by decide)
  omega

theorem Inv.drop (hs : Inv s) (i : Nat) : Inv { s with handles := s.handles.eraseIdx i } := by
  have hsub := List.eraseIdx_sublist s.handles i
  have hle : ∀ l x, ({ s with handles := s.handles.eraseIdx i } : AccountLocks).holdersOn l x ≤
      s.holdersOn l x := fun l x => hsub.countP_le
  refine ⟨hs.accounts_nodup, hs.locks_nodup, hs.below_fresh,
    fun g hg => hs.handle_lock g (hsub.subset hg), fun l => Nat.le_trans (hle l .writing) (hs.one_writer l),
    fun l hl => ?_⟩
  have := hs.writer_alone l (Nat.lt_of_lt_of_le hl (hle l .writing))
  have := hle l .reading
  omega

/-- Every step keeps the invariant. -/
theorem Inv.step (hs : Inv s) {e : LockEvent} (h : s.step e = some s') : Inv s' := by
  cases e with
  | take a =>
    cases h
    exact hs.take a
  | read i =>
    simp only [AccountLocks.step] at h
    split at h
    · split at h
      · cases h
        exact hs.read ‹_› (by simp_all) (by simp_all)
      · cases h
    · cases h
  | write i =>
    simp only [AccountLocks.step] at h
    split at h
    · split at h
      · cases h
        exact hs.write ‹_› ‹_›
      · cases h
    · cases h
  | release i =>
    simp only [AccountLocks.step] at h
    split at h
    · split at h
      · cases h
        exact hs.release ‹_›
      · cases h
    · cases h
  | drop i =>
    simp only [AccountLocks.step] at h
    split at h
    · split at h
      · cases h
        exact hs.drop i
      · cases h
    · cases h

/-! ## Every reachable state -/

/-- The states a run of steps reaches from the empty table. -/
inductive Reachable : AccountLocks → Prop
  | empty : Reachable {}
  | step {s s' : AccountLocks} (e : LockEvent) : Reachable s → s.step e = some s' → Reachable s'

theorem Reachable.inv (h : Reachable s) : Inv s := by
  induction h with
  | empty => exact inv_empty
  | step e _ hstep ih => exact ih.step hstep

theorem reachable_run {es : List LockEvent} (hs : Reachable s) (h : s.run es = some s') :
    Reachable s' := by
  induction es generalizing s with
  | nil =>
    cases h
    exact hs
  | cons e es ih =>
    simp only [run] at h
    cases hstep : s.step e with
    | none => simp [hstep] at h
    | some t =>
      rw [hstep, Option.bind_some] at h
      exact ih (hs.step e hstep) h

/-! ## The rule of the lock, per account -/

/-- All handles asked for an account are on one lock. -/
theorem Inv.lock_eq (hs : Inv s) {h g : LockHandle} (hh : h ∈ s.handles) (hg : g ∈ s.handles)
    (ha : h.account = g.account) : h.lock = g.lock := by
  have e := hs.handle_lock h hh
  rw [ha, hs.handle_lock g hg] at e
  exact (Option.some.inj e).symm

/-- The handles of an account that hold their lock in a way are among the holders of the
account's lock. -/
theorem Inv.holdersFor_le (hs : Inv s) {a : String} {l : Nat} (hl : s.table.lookup a = some l)
    (x : Hold) : s.holdersFor a x ≤ s.holdersOn l x := by
  apply List.countP_mono_left
  intro g hg hgx
  simp only [Bool.and_eq_true, beq_iff_eq] at hgx ⊢
  refine ⟨?_, hgx.2⟩
  have e := hs.handle_lock g hg
  rw [hgx.1, hl] at e
  exact (Option.some.inj e).symm

/-- An account with no lock in the table has no handle. -/
theorem Inv.holdersFor_of_lookup_none (hs : Inv s) {a : String} (hl : s.table.lookup a = none)
    (x : Hold) : s.holdersFor a x = 0 := by
  simp only [holdersFor, List.countP_eq_zero, Bool.and_eq_true, beq_iff_eq, not_and]
  intro g hg hga
  have e := hs.handle_lock g hg
  rw [hga, hl] at e
  cases e

/-- At most one call on an account holds its lock for writing. -/
theorem holdersFor_writing_le_one (hs : Inv s) (a : String) : s.holdersFor a .writing ≤ 1 := by
  cases hl : s.table.lookup a with
  | none => simp [hs.holdersFor_of_lookup_none hl]
  | some l => exact Nat.le_trans (hs.holdersFor_le hl .writing) (hs.one_writer l)

/-- While a call on an account holds its lock for writing, no call on the account reads. -/
theorem holdersFor_reading_of_writing (hs : Inv s) {a : String} (hw : 0 < s.holdersFor a .writing) :
    s.holdersFor a .reading = 0 := by
  cases hl : s.table.lookup a with
  | none => exact hs.holdersFor_of_lookup_none hl _
  | some l =>
    have hr := hs.writer_alone l (Nat.lt_of_lt_of_le hw (hs.holdersFor_le hl .writing))
    have := hs.holdersFor_le hl .reading
    omega

/-! ## What taking a lock leaves in the table -/

/-- After a lock is taken, the table holds the accounts some handle was asked for, and the
account just asked for. -/
theorem accounts_take (hs : Inv s) (a b : String) :
    b ∈ (s.take a).1.table.map Prod.fst ↔ b = a ∨ ∃ h ∈ s.handles, h.account = b := by
  -- the kept entries are exactly the accounts of the handles
  have hkept : b ∈ s.kept.map Prod.fst ↔ ∃ h ∈ s.handles, h.account = b := by
    constructor
    · simp only [List.mem_map]
      rintro ⟨e, he, rfl⟩
      obtain ⟨-, hn⟩ := List.mem_filter.1 he
      obtain ⟨g, hg, hgl⟩ : ∃ g ∈ s.handles, g.lock = e.2 := by simpa [handlesOn] using hn
      refine ⟨g, hg, ?_⟩
      -- the handle's entry and `e` share a lock, so they are one entry
      have hge := mem_kept hs hg
      have hsnd := hs.locks_nodup.sublist (s.kept_sublist.map Prod.snd)
      have := List.inj_on_of_nodup_map hsnd hge he ?_
      · rw [← this]
      · exact hgl
    · rintro ⟨g, hg, rfl⟩
      exact List.mem_map_of_mem (mem_kept hs hg)
  unfold AccountLocks.take
  cases hl : s.kept.lookup a with
  | some l =>
    simp only [hkept]
    constructor
    · exact Or.inr
    · rintro (rfl | h)
      · obtain ⟨e, he, hea⟩ : ∃ e ∈ s.kept, e.1 = b := by
          have := mem_of_lookup hl
          exact ⟨_, this, rfl⟩
        exact hkept.1 (hea ▸ List.mem_map_of_mem he)
      · exact h
  | none =>
    simp only [List.map_append, List.map_cons, List.map_nil, List.mem_append, hkept,
      List.mem_singleton]
    exact Or.comm

/-- Taking a lock for `carol` forgets `alice`, whose calls are done, and keeps `bob`. -/
example : (({ table := [("alice", 0), ("bob", 1)], handles := [⟨"bob", 1, .idle⟩], fresh := 2 } :
    AccountLocks).take "carol").1.table = [("bob", 1), ("carol", 2)] := by decide

/-- **The lock table.** In every state a run of the calls reaches: every handle is on the lock
the table holds for the handle's account, so all handles asked for one account are on one lock;
at most one call on an account holds that lock for writing, and then no call on it reads; and
taking the lock of an account `a` leaves in the table exactly `a` and the accounts that some
call still holds a handle for. -/
theorem account_locks_shared {s : AccountLocks} (hs : Reachable s) :
    (∀ h ∈ s.handles, s.table.lookup h.account = some h.lock) ∧
    (∀ h ∈ s.handles, ∀ g ∈ s.handles, h.account = g.account → h.lock = g.lock) ∧
    (∀ a, s.holdersFor a .writing ≤ 1 ∧
      (0 < s.holdersFor a .writing → s.holdersFor a .reading = 0)) ∧
    (∀ a b, b ∈ (s.take a).1.table.map Prod.fst ↔ b = a ∨ ∃ h ∈ s.handles, h.account = b) := by
  have hinv := hs.inv
  exact ⟨hinv.handle_lock, fun h hh g hg => hinv.lock_eq hh hg,
    fun a => ⟨holdersFor_writing_le_one hinv a, holdersFor_reading_of_writing hinv⟩,
    accounts_take hinv⟩

/-- Two calls on `alice`, one of them saving, and a read of `bob`. -/
def savingAlice : AccountLocks :=
  { table := [("alice", 0), ("bob", 1)],
    handles := [⟨"alice", 0, .writing⟩, ⟨"alice", 0, .idle⟩, ⟨"bob", 1, .reading⟩], fresh := 2 }

theorem reachable_savingAlice : Reachable savingAlice :=
  reachable_run .empty (show ({} : AccountLocks).run
    [.take "alice", .take "alice", .take "bob", .write 0, .read 2] = some savingAlice by decide)

/-- The state where `alice` is being saved is reachable, and the lock table is as
`account_locks_shared` says there. -/
theorem account_locks_shared_saving_alice :
    Reachable savingAlice ∧
    ((∀ h ∈ savingAlice.handles, savingAlice.table.lookup h.account = some h.lock) ∧
    (∀ h ∈ savingAlice.handles, ∀ g ∈ savingAlice.handles, h.account = g.account → h.lock = g.lock) ∧
    (∀ a, savingAlice.holdersFor a .writing ≤ 1 ∧
      (0 < savingAlice.holdersFor a .writing → savingAlice.holdersFor a .reading = 0)) ∧
    (∀ a b, b ∈ (savingAlice.take a).1.table.map Prod.fst ↔
      b = a ∨ ∃ h ∈ savingAlice.handles, h.account = b)) :=
  ⟨reachable_savingAlice, account_locks_shared reachable_savingAlice⟩

end AccountLocks

end Proximity
