/-!
# The event bus

A bus numbers what is published on it, keeps the newest events for replay, and hands every event to
its readers. Two buffers hold events: the ring of the capacity asked for, from which a new reader is
given what it has missed, and the channel, which the readers share. The channel holds the least power
of two that is not below the capacity; a reader that falls further behind loses the oldest events.
-/

namespace TorrentAdmission

structure Posted (α : Type) where
  id : Nat
  content : α
  deriving DecidableEq, Repr

/-- Appends to a buffer that holds `capacity` entries; the oldest ones make room. -/
def pushBounded (capacity : Nat) (buffer : List α) (entry : α) : List α :=
  (buffer ++ [entry]).drop (buffer.length + 1 - capacity)

/-- The least power of two that is at least `n` and at least `p`, where `p` is a power of two. -/
def powerFrom : (fuel n p : Nat) → Nat
  | 0, _, p => p
  | fuel + 1, n, p => if n ≤ p then p else powerFrom fuel n (2 * p)

/-- The number of events that the channel of a bus of the given capacity holds. -/
def channelCapacity (capacity : Nat) : Nat :=
  powerFrom capacity capacity 1

structure Bus (α : Type) where
  capacity : Nat
  nextId : Nat := 1
  /-- The newest events for replay, the oldest one first. -/
  ring : List (Posted α) := []
  /-- The newest events for readers, the oldest one first. -/
  channel : List (Posted α) := []
  sent : Nat := 0
  holders : Nat := 1
  deriving DecidableEq, Repr

inductive BusError where
  | invalidCapacity (requested : Nat)
  deriving DecidableEq, Repr

def BusError.message : BusError → String
  | .invalidCapacity _ => "event bus capacity must be positive"

namespace Bus

variable {α : Type}

def defaultCapacity : Nat := 1024

def maxCapacity : Nat := 0x7fffffffffffffff

def maxId : Nat := 0xffffffffffffffff

/-- What comes of asking for a bus: a bus, an error, or a crash. -/
inductive Opening (α : Type) where
  | opened (bus : Bus α)
  | refused (error : BusError)
  | crashed

/-- A new bus. A capacity of zero is refused; one that no channel can have is not looked for, and
brings the caller down. -/
def new (capacity : Nat) : Opening α :=
  if capacity = 0 then .refused (.invalidCapacity capacity)
  else if maxCapacity < capacity then .crashed
  else .opened { capacity }

def publish (bus : Bus α) (content : α) : Nat × Bus α :=
  let entry : Posted α := ⟨bus.nextId, content⟩
  (entry.id, { bus with
    nextId := min (bus.nextId + 1) maxId
    ring := pushBounded bus.capacity bus.ring entry
    channel := pushBounded (channelCapacity bus.capacity) bus.channel entry
    sent := bus.sent + 1 })

def lastId? (bus : Bus α) : Option Nat :=
  bus.ring.getLast?.map Posted.id

/-- The events kept for replay whose numbers are above `id`. -/
def backlog (bus : Bus α) (id : Nat) : List (Posted α) :=
  bus.ring.filter fun e => decide (id < e.id)

/-- What the channel still holds of the events sent after the first `position`. -/
def pending (bus : Bus α) (position : Nat) : List (Posted α) :=
  bus.channel.drop (position - (bus.sent - bus.channel.length))

def isOpen (bus : Bus α) : Bool := decide (0 < bus.holders)

def hold (bus : Bus α) : Bus α := { bus with holders := bus.holders + 1 }

def release (bus : Bus α) : Bus α := { bus with holders := bus.holders - 1 }

end Bus

end TorrentAdmission
