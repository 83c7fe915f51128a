import TorrentAdmission.Metrics.Exposition

/-!
# Banks of counters

Any number of separate sets of counters, each of which is reached through one or more numbered
handles. Handles that were cloned from one another reach the same counters.
-/

namespace TorrentAdmission

structure Bank where
  sets : List Metrics := [{}]
  /-- For each handle, the number of the set that it reaches. -/
  handles : List Nat := [0]
  deriving DecidableEq, Repr

namespace Bank

def setOf (b : Bank) (handle : Nat) : Nat :=
  (b.handles[handle]?).getD 0

def metrics (b : Bank) (handle : Nat) : Metrics :=
  (b.sets[b.setOf handle]?).getD {}

def modify (b : Bank) (handle : Nat) (f : Metrics → Metrics) : Bank :=
  { b with sets := b.sets.modify (b.setOf handle) f }

/-- Adds counters of their own, with a handle. -/
def addSet (b : Bank) : Bank :=
  { sets := b.sets ++ [{}], handles := b.handles ++ [b.sets.length] }

/-- Adds a handle that reaches what `handle` reaches. -/
def clone (b : Bank) (handle : Nat) : Bank :=
  { b with handles := b.handles ++ [b.setOf handle] }

def lastHandle (b : Bank) : Nat := b.handles.length - 1

def count (b : Bank) (handle : Nat) (what : Count) (times : Nat) : Bank :=
  b.modify handle fun m => m.countTimes what times

def snapshot (b : Bank) (handle : Nat) : Snapshot × Bank :=
  ((b.metrics handle).snapshot.1, b.modify handle fun m => m.snapshot.2)

def render (b : Bank) (handle : Nat) : String :=
  (b.metrics handle).render

end Bank

end TorrentAdmission
