import Mathlib.Data.List.Induction
import Proximity.Credential.Store

/-!
# Credential stores answer from their history of saves

A client makes calls on a store (`Call`): a save replaces one list of an account, a get reads
one list and keeps the credentials of one identity type. Saving private credentials is a
save into `.private_`, saving public ones of kind `k` a save into `Slot.ofPublic k`, and the
gets read the same slots.

The specification is the history itself. `lastSaved past a k` is the list that the last save
under `a` and `k` in `past` put there, and `expectedReply past c` the answer the call `c` gets
after `past`: a save is answered `saved`, a get the selected credentials of `lastSaved`, or
`notFound` when nothing was saved there.

The memory store keeps a map from accounts to their three lists; an account is entered by
its first save, with its other lists still absent. `heldLists` reads it as a partial map
from account and slot, which is the abstract store of the specification.

`run_answers` is the induction over a sequence of calls, done once: from any invariant that
every call keeps while answering as the history says, a whole run answers as the history
says. The memory store's invariant is that it holds `lastSaved` of the calls so far.

**Results.**
* `lastSaved_eq_none_iff`, `lastSaved_eq_some_iff`: nothing is held where nothing was saved,
  and otherwise exactly the list of the last save there.
* `heldLists_save`: a save sets one entry of the map and no other.
* `memory_run`: from an empty memory store, a run answers as its history says.
* `memory_store_answers_history`: on the memory store every save succeeds and sets exactly
  its entry, gets change nothing, and over any sequence of calls from an empty store every
  reply is the one the history before it gives.
-/

namespace Proximity

/-! ## Calls -/

/-- A call on a credential store. -/
inductive Call where
  | save (account : String) (slot : Slot) (cs : List Credential)
  | get (account : String) (slot : Slot) (t : IdentityType)

/-- What a call answers: a save nothing, a get the credentials it selected. -/
inductive Reply where
  | saved
  | found (cs : List Credential)
  deriving DecidableEq

/-- The account a call names. -/
def Call.account : Call → String
  | .save a .. => a
  | .get a .. => a

namespace CredentialStore

/-- A call's reply, and the store after it. -/
def call (s : CredentialStore) : Call → Except StoreError Reply × CredentialStore
  | .save a k cs => ((s.save a k cs).1.map fun _ => .saved, (s.save a k cs).2)
  | .get a k t => ((s.get a k t).map .found, s)

/-- The replies to a sequence of calls, in order, and the store after them. -/
def run (s : CredentialStore) : List Call → List (Except StoreError Reply) × CredentialStore
  | [] => ([], s)
  | c :: cs => ((s.call c).1 :: ((s.call c).2.run cs).1, ((s.call c).2.run cs).2)

theorem call_get (s : CredentialStore) (a : String) (k : Slot) (t : IdentityType) :
    s.call (.get a k t) = ((s.get a k t).map .found, s) := rfl

theorem call_save_of_ok {s s' : CredentialStore} {a : String} {k : Slot} {cs : List Credential}
    (h : s.save a k cs = (.ok (), s')) : s.call (.save a k cs) = (.ok .saved, s') := by
  simp [call, h, Except.map]

end CredentialStore

/-! ## The history -/

/-- The list held under account `a` and slot `k` once a call is made, from the one before. -/
def Call.record (c : Call) (a : String) (k : Slot) (held : Option (List Credential)) :
    Option (List Credential) :=
  match c with
  | .save a' k' cs => if a' = a ∧ k' = k then some cs else held
  | .get .. => held

/-- The list the last save under account `a` and slot `k` in a history put there. -/
def lastSaved (past : List Call) (a : String) (k : Slot) : Option (List Credential) :=
  past.foldl (fun held c => c.record a k held) none

/-- The reply a call gets after the history `past`. -/
def expectedReply (past : List Call) : Call → Except StoreError Reply
  | .save .. => .ok .saved
  | .get a k t =>
    match lastSaved past a k with
    | some cs => .ok (.found (selectType t cs))
    | none => .error (.notFound a)

/-- The replies to a sequence of calls made after the history `past`. -/
def expectedReplies (past : List Call) : List Call → List (Except StoreError Reply)
  | [] => []
  | c :: cs => expectedReply past c :: expectedReplies (past ++ [c]) cs

section History

variable {a : String} {k : Slot}

theorem lastSaved_append_single (past : List Call) (c : Call) :
    lastSaved (past ++ [c]) a k = c.record a k (lastSaved past a k) := by
  simp [lastSaved]

/-- A save sets what is held under its own account and slot, and nowhere else. -/
theorem record_save (a : String) (k : Slot) (cs : List Credential) (a' : String) (k' : Slot)
    (held : Option (List Credential)) :
    (Call.save a k cs).record a' k' held = if a' = a ∧ k' = k then some cs else held := by
  simp only [Call.record]
  by_cases h : a' = a ∧ k' = k
  · obtain ⟨rfl, rfl⟩ := h
    simp
  · have h' : ¬(a = a' ∧ k = k') := fun ⟨h1, h2⟩ => h ⟨h1.symm, h2.symm⟩
    rw [if_neg h, if_neg h']

theorem record_save_self (a : String) (k : Slot) (cs : List Credential) (held : Option (List Credential)) :
    (Call.save a k cs).record a k held = some cs := by
  rw [record_save, if_pos ⟨rfl, rfl⟩]

/-- A call that is no save under `a` and `k` leaves what is held there. -/
theorem record_of_ne {c : Call} (hc : ∀ cs, c ≠ .save a k cs) (held : Option (List Credential)) :
    c.record a k held = held := by
  cases c with
  | save a' k' cs =>
    have hne : ¬(a = a' ∧ k = k') := by
      rintro ⟨rfl, rfl⟩
      exact hc cs rfl
    rw [record_save, if_neg hne]
  | get => rfl

/-- Calls with no save under `a` and `k` leave what is held there. -/
theorem foldl_record_of_not_mem {post : List Call} (h : ∀ cs, Call.save a k cs ∉ post)
    (held : Option (List Credential)) :
    post.foldl (fun held c => c.record a k held) held = held := by
  induction post generalizing held with
  | nil => rfl
  | cons c post ih =>
    have hc : ∀ cs, c ≠ .save a k cs := fun cs he => h cs (he ▸ List.mem_cons_self)
    have hpost : ∀ cs, Call.save a k cs ∉ post := fun cs hm => h cs (List.mem_cons_of_mem _ hm)
    rw [List.foldl_cons, record_of_ne hc, ih hpost]

theorem lastSaved_eq_none_iff (past : List Call) :
    lastSaved past a k = none ↔ ∀ cs, Call.save a k cs ∉ past := by
  induction past using List.reverseRecOn with
  | nil => simp [lastSaved]
  | append_singleton past c ih =>
    rw [lastSaved_append_single]
    by_cases hc : ∃ cs, c = .save a k cs
    · obtain ⟨cs, rfl⟩ := hc
      rw [record_save_self]
      simp only [reduceCtorEq, false_iff, not_forall, not_not]
      exact ⟨cs, by simp⟩
    · have hne : ∀ cs, c ≠ .save a k cs := fun cs he => hc ⟨cs, he⟩
      rw [record_of_ne hne, ih]
      simp only [List.mem_append, List.mem_singleton, not_or]
      exact ⟨fun h cs => ⟨h cs, (hne cs).symm⟩, fun h cs => (h cs).1⟩

theorem lastSaved_eq_some_iff (past : List Call) (cs : List Credential) :
    lastSaved past a k = some cs ↔
      ∃ pre post, past = pre ++ Call.save a k cs :: post ∧ ∀ cs', Call.save a k cs' ∉ post := by
  constructor
  · induction past using List.reverseRecOn with
    | nil => simp [lastSaved]
    | append_singleton past c ih =>
      rw [lastSaved_append_single]
      intro h
      by_cases hc : ∃ cs', c = .save a k cs'
      · obtain ⟨cs', rfl⟩ := hc
        rw [record_save_self, Option.some.injEq] at h
        subst h
        exact ⟨past, [], rfl, by simp⟩
      · have hne : ∀ cs', c ≠ .save a k cs' := fun cs' he => hc ⟨cs', he⟩
        rw [record_of_ne hne] at h
        obtain ⟨pre, post, rfl, hpost⟩ := ih h
        refine ⟨pre, post ++ [c], by simp, fun cs' hm => ?_⟩
        rcases List.mem_append.1 hm with hm | hm
        · exact hpost cs' hm
        · exact hne cs' (List.mem_singleton.1 hm).symm
  · rintro ⟨pre, post, rfl, hpost⟩
    simp only [lastSaved, List.foldl_append, List.foldl_cons, record_save_self]
    exact foldl_record_of_not_mem hpost (some cs)

end History

theorem lastSaved_append_get (past : List Call) (a : String) (k : Slot) (t : IdentityType) :
    lastSaved (past ++ [.get a k t]) = lastSaved past := by
  funext a' k'
  rw [lastSaved_append_single]
  rfl

/-- A get answers as the history says on a store that loads what the history last saved. -/
theorem call_get_of_load {s : CredentialStore} {past : List Call} {a : String} {k : Slot}
    (h : s.load a k =
      match lastSaved past a k with
      | some cs => .ok cs
      | none => .error (.notFound a)) (t : IdentityType) :
    (s.call (.get a k t)).1 = expectedReply past (.get a k t) := by
  rw [CredentialStore.call_get, CredentialStore.get, h]
  simp only [expectedReply]
  cases lastSaved past a k <;> rfl

theorem length_expectedReplies (past calls : List Call) :
    (expectedReplies past calls).length = calls.length := by
  induction calls generalizing past with
  | nil => rfl
  | cons c calls ih => simp [expectedReplies, ih]

/-- The `i`-th reply is the one the history before the `i`-th call gives. -/
theorem getElem?_expectedReplies (past calls : List Call) (i : Nat) :
    (expectedReplies past calls)[i]? = calls[i]?.map (expectedReply (past ++ calls.take i)) := by
  induction calls generalizing past i with
  | nil => rfl
  | cons c calls ih =>
    cases i with
    | zero => simp [expectedReplies]
    | succ i => simp [expectedReplies, ih]

/-! ## Runs -/

/-- **Runs answer from the history.** If every allowed call, from a store in `Inv` after some
history, answers as that history says and leaves a store in `Inv` after the history with the
call appended, then a run of allowed calls answers as the history says, call by call. -/
theorem run_answers (Allowed : Call → Prop) (Inv : List Call → CredentialStore → Prop)
    (step : ∀ past s c, Allowed c → Inv past s →
      (s.call c).1 = expectedReply past c ∧ Inv (past ++ [c]) (s.call c).2)
    (calls : List Call) (hc : ∀ c ∈ calls, Allowed c) (past : List Call) (s : CredentialStore)
    (hs : Inv past s) :
    (s.run calls).1 = expectedReplies past calls ∧ Inv (past ++ calls) (s.run calls).2 := by
  induction calls generalizing past s with
  | nil => exact ⟨rfl, by simpa [CredentialStore.run] using hs⟩
  | cons c calls ih =>
    obtain ⟨hreply, hinv⟩ := step past s c (hc c List.mem_cons_self) hs
    obtain ⟨hrest, hinv'⟩ :=
      ih (fun c' hm => hc c' (List.mem_cons_of_mem _ hm)) (past ++ [c]) (s.call c).2 hinv
    refine ⟨?_, ?_⟩
    · simp only [CredentialStore.run, expectedReplies, hreply, hrest]
    · simpa [CredentialStore.run] using hinv'

/-! ## The memory store -/

/-- The lists a memory store holds, as a partial map from account and slot. -/
def heldLists (accounts : String → Option AccountLists) (a : String) (k : Slot) :
    Option (List Credential) :=
  (accounts a).bind fun l => l.slot k

namespace AccountLists

theorem slot_setSlot (l : AccountLists) (k : Slot) (cs : List Credential) (k' : Slot) :
    (l.setSlot k cs).slot k' = if k' = k then some cs else l.slot k' := by
  cases k <;> cases k' <;> rfl

@[simp] theorem slot_default (k : Slot) : ({} : AccountLists).slot k = none := by
  cases k <;> rfl

end AccountLists

/-- A save into the memory store sets the entry of its account and slot, and no other. -/
theorem heldLists_save (accounts : String → Option AccountLists) (a : String) (k : Slot)
    (cs : List Credential) :
    ∃ accounts', (CredentialStore.memory accounts).save a k cs = (.ok (), .memory accounts') ∧
      ∀ a' k', heldLists accounts' a' k' =
        if a' = a ∧ k' = k then some cs else heldLists accounts a' k' := by
  refine ⟨_, rfl, fun a' k' => ?_⟩
  by_cases ha : a' = a
  · subst ha
    -- the account's earlier lists, or none when the save enters it
    have hlists : ((accounts a').getD {}).slot k' = heldLists accounts a' k' := by
      unfold heldLists
      cases accounts a' <;> simp
    simp only [heldLists, if_pos, Option.bind_some, AccountLists.slot_setSlot, true_and]
    rw [hlists]
    rfl
  · simp [heldLists, ha]

theorem load_memory (accounts : String → Option AccountLists) (a : String) (k : Slot) :
    (CredentialStore.memory accounts).load a k =
      match heldLists accounts a k with
      | some cs => .ok cs
      | none => .error (.notFound a) := by
  simp only [CredentialStore.load, heldLists]
  cases accounts a with
  | none => rfl
  | some l => cases l.slot k <;> rfl

/-- One call on a memory store that holds what the history saved. -/
theorem memory_call {accounts : String → Option AccountLists} {past : List Call}
    (h : ∀ a k, heldLists accounts a k = lastSaved past a k) (c : Call) :
    ((CredentialStore.memory accounts).call c).1 = expectedReply past c ∧
      ∃ accounts', ((CredentialStore.memory accounts).call c).2 = .memory accounts' ∧
        ∀ a k, heldLists accounts' a k = lastSaved (past ++ [c]) a k := by
  cases c with
  | save a k cs =>
    obtain ⟨accounts', hsave, hheld⟩ := heldLists_save accounts a k cs
    rw [CredentialStore.call_save_of_ok hsave]
    refine ⟨rfl, accounts', rfl, fun a' k' => ?_⟩
    rw [hheld, lastSaved_append_single, h, record_save]
  | get a k t =>
    refine ⟨call_get_of_load (by rw [load_memory, h]) t, accounts, rfl, fun a' k' => ?_⟩
    rw [h, lastSaved_append_get]

/-- From an empty memory store, a run answers as its own history says. -/
theorem memory_run (calls : List Call) :
    (CredentialStore.emptyMemory.run calls).1 = expectedReplies [] calls := by
  -- the invariant: the store holds what the calls so far saved
  have hrun := run_answers (fun _ => True)
    (fun past s => ∃ accounts, s = .memory accounts ∧
      ∀ a k, heldLists accounts a k = lastSaved past a k)
    (fun past s c _ ⟨accounts, hs, h⟩ => by
      subst hs
      obtain ⟨hreply, accounts', hs', h'⟩ := memory_call h c
      exact ⟨hreply, accounts', hs', h'⟩)
    calls (fun _ _ => trivial) [] CredentialStore.emptyMemory
    ⟨fun _ => none, rfl, fun _ _ => by simp [heldLists, lastSaved]⟩
  exact hrun.1

/-- **The memory store answers from its history.** A save answers `saved`, sets the list of
its account and slot to exactly the given list and leaves every other list as it was; a get
leaves the store as it was and answers from the list held there. Over any sequence of calls
from an empty store, the `i`-th reply is the one the history of the first `i` calls gives:
`notFound` for the account exactly when no save under that account and slot came before it,
else the credentials of the selected identity type, in order, from the list of the last such
save. -/
theorem memory_store_answers_history :
    (∀ accounts a k cs, ((CredentialStore.memory accounts).call (.save a k cs)).1 = .ok .saved ∧
      ∃ accounts', ((CredentialStore.memory accounts).call (.save a k cs)).2 = .memory accounts' ∧
        ∀ a' k', heldLists accounts' a' k' =
          if a' = a ∧ k' = k then some cs else heldLists accounts a' k') ∧
    (∀ (s : CredentialStore) a k t, (s.call (.get a k t)).2 = s) ∧
    (∀ accounts a k t, ((CredentialStore.memory accounts).call (.get a k t)).1 =
      match heldLists accounts a k with
      | some cs => .ok (.found (selectType t cs))
      | none => .error (.notFound a)) ∧
    (∀ calls : List Call, (CredentialStore.emptyMemory.run calls).1.length = calls.length ∧
      ∀ i (hi : i < calls.length),
        (CredentialStore.emptyMemory.run calls).1[i]? = some (expectedReply (calls.take i) calls[i])) ∧
    (∀ past a k, lastSaved past a k = none ↔ ∀ cs, Call.save a k cs ∉ past) ∧
    (∀ past a k cs, lastSaved past a k = some cs ↔
      ∃ pre post, past = pre ++ Call.save a k cs :: post ∧ ∀ cs', Call.save a k cs' ∉ post) := by
  refine ⟨fun accounts a k cs => ?_, fun s a k t => rfl, fun accounts a k t => ?_,
    fun calls => ?_, fun past a k => lastSaved_eq_none_iff past,
    fun past a k cs => lastSaved_eq_some_iff past cs⟩
  · obtain ⟨accounts', hsave, hheld⟩ := heldLists_save accounts a k cs
    rw [CredentialStore.call_save_of_ok hsave]
    exact ⟨rfl, accounts', rfl, hheld⟩
  · rw [CredentialStore.call_get, CredentialStore.get, load_memory]
    cases heldLists accounts a k <;> rfl
  · rw [memory_run]
    refine ⟨length_expectedReplies [] calls, fun i hi => ?_⟩
    rw [getElem?_expectedReplies, List.getElem?_eq_getElem hi]
    rfl

end Proximity
