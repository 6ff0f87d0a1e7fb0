/-!
# The file store's account locks

The file store serialises the calls on one account with a read-write lock per account. The
locks are kept in a table from account names to locks, behind a mutex, and each call keeps a
handle on its account's lock while it runs.

Taking the lock of an account (`AccountLocks.take`) is one step under the mutex: the table
first forgets every lock that no handle outside the table holds (its reference count is the
table's alone), then gives the account's lock, making a new one when the account has none,
and the caller keeps a handle on it. The caller then holds the lock for writing (a save) or
for reading (a read of a list), lets it go, and drops its handle; a call that is abandoned
while it waits drops its handle without ever holding the lock.

A lock is known by an identity, and a new lock gets one that no lock had before. A read-write
lock lets a handle write only when no other handle holds it at all, and read only when no
handle holds it for writing; a step that the lock does not allow yet is not taken
(`AccountLocks.step` gives none), the call waits.
-/

namespace Proximity

/-- How a handle holds its lock. -/
inductive Hold where
  | idle
  | reading
  | writing
  deriving DecidableEq, Repr

/-- A handle kept by a call: the account it asked for, the identity of the lock it was given,
and how it holds that lock. -/
structure LockHandle where
  account : String
  lock : Nat
  hold : Hold := .idle
  deriving DecidableEq, Repr

/-- The lock table and the handles the running calls keep. -/
structure AccountLocks where
  /-- the table: a lock for each account it holds -/
  table : List (String × Nat) := []
  /-- the handles outside the table, one per running call -/
  handles : List LockHandle := []
  /-- the identity the next new lock gets -/
  fresh : Nat := 0
  deriving DecidableEq, Repr

/-- What the calls do to the locks. -/
inductive LockEvent where
  /-- a call takes the lock of an account -/
  | take (account : String)
  /-- the call of a handle holds its lock for reading -/
  | read (handle : Nat)
  /-- the call of a handle holds its lock for writing -/
  | write (handle : Nat)
  /-- the call of a handle lets its lock go -/
  | release (handle : Nat)
  /-- the call of a handle drops it -/
  | drop (handle : Nat)
  deriving DecidableEq, Repr

namespace AccountLocks

/-- The number of handles on a lock: its reference count less the table's own. -/
def handlesOn (s : AccountLocks) (l : Nat) : Nat := s.handles.countP (·.lock == l)

/-- The table without the locks that no handle holds. -/
def kept (s : AccountLocks) : List (String × Nat) := s.table.filter fun e => 0 < s.handlesOn e.2

/-- Takes the lock of an account: forget the locks nobody holds, then hand out the account's
lock, made new when the account has none. Gives the locks after and the lock handed out. -/
def take (s : AccountLocks) (a : String) : AccountLocks × Nat :=
  match s.kept.lookup a with
  | some l => ({ s with table := s.kept, handles := s.handles ++ [⟨a, l, .idle⟩] }, l)
  | none =>
    ({ table := s.kept ++ [(a, s.fresh)], handles := s.handles ++ [⟨a, s.fresh, .idle⟩],
       fresh := s.fresh + 1 }, s.fresh)

/-- No handle holds lock `l` for writing. -/
def noWriter (s : AccountLocks) (l : Nat) : Bool :=
  s.handles.all fun h => h.lock != l || h.hold != .writing

/-- No handle holds lock `l` at all. -/
def unheld (s : AccountLocks) (l : Nat) : Bool :=
  s.handles.all fun h => h.lock != l || h.hold == .idle

/-- The handle at a position with its hold changed. -/
def setHold (s : AccountLocks) (i : Nat) (h : LockHandle) (hold : Hold) : AccountLocks :=
  { s with handles := s.handles.set i { h with hold } }

/-- One step of the calls; none when the step cannot be taken now. -/
def step (s : AccountLocks) : LockEvent → Option AccountLocks
  | .take a => some (s.take a).1
  | .read i =>
    match s.handles[i]? with
    | some h => if h.hold = .idle ∧ s.noWriter h.lock then some (s.setHold i h .reading) else none
    | none => none
  | .write i =>
    match s.handles[i]? with
    | some h => if s.unheld h.lock then some (s.setHold i h .writing) else none
    | none => none
  | .release i =>
    match s.handles[i]? with
    | some h => if h.hold ≠ .idle then some (s.setHold i h .idle) else none
    | none => none
  | .drop i =>
    match s.handles[i]? with
    | some h => if h.hold = .idle then some { s with handles := s.handles.eraseIdx i } else none
    | none => none

/-- The locks after a run of steps, if every step could be taken. -/
def run (s : AccountLocks) : List LockEvent → Option AccountLocks
  | [] => some s
  | e :: es => (s.step e).bind (run · es)

end AccountLocks

end Proximity
