import TorrentAdmission.Bus.Reader

/-!
# Exchanges

A bus together with the readers that were opened on it. Readers are known by the order in which they
were opened; one that is closed keeps its number.
-/

namespace TorrentAdmission

abbrev Readers (α : Type) := List (Option (Reader α))

namespace Readers

variable {α : Type}

/-- The reader with this number, unless it is closed. -/
def find? (readers : Readers α) (number : Nat) : Option (Reader α) :=
  (readers[number]?).join

def put (readers : Readers α) (number : Nat) (reader : Reader α) : Readers α :=
  readers.set number (some reader)

def close (readers : Readers α) (number : Nat) : Readers α :=
  readers.set number none

def openCount (readers : Readers α) : Nat :=
  readers.countP Option.isSome

/-- Opens a reader behind the event `last`, or for what comes next. -/
def subscribe (readers : Readers α) (bus : Bus α) (last : Option Nat) : Readers α :=
  readers ++ [some (.subscribe bus last)]

/-- Reads one event; a reader that is closed finds nothing any more. -/
def next (readers : Readers α) (bus : Bus α) (number : Nat) : Reading α × Readers α :=
  match readers.find? number with
  | some reader => ((reader.next bus).1, readers.put number (reader.next bus).2)
  | none => (.closed, readers)

def drain (readers : Readers α) (bus : Bus α) (number : Nat) :
    List (Posted α) × Reading α × Readers α :=
  match readers.find? number with
  | some reader =>
    let (events, ending, reader) := reader.drain bus
    (events, ending, readers.put number reader)
  | none => ([], .closed, readers)

end Readers

structure Exchange (α : Type) where
  bus : Bus α
  readers : Readers α := []
  deriving DecidableEq, Repr

inductive Exchange.Move (α : Type) where
  | publish (content : α)
  | subscribe (last : Option Nat)
  | next (reader : Nat)
  | close (reader : Nat)
  | hold
  | release
  deriving DecidableEq, Repr

namespace Exchange

variable {α : Type}

def publish (x : Exchange α) (content : α) : Nat × Exchange α :=
  let (id, bus) := x.bus.publish content
  (id, { x with bus })

/-- Publishes the same content `n` times; the answer is the last number, or `last` if there is
none. -/
def publishTimes (x : Exchange α) (content : α) (last : Option Nat) : Nat → Option Nat × Exchange α
  | 0 => (last, x)
  | n + 1 => publishTimes (x.publish content).2 content (some (x.publish content).1) n

def subscribe (x : Exchange α) (last : Option Nat) : Exchange α :=
  { x with readers := x.readers.subscribe x.bus last }

def next (x : Exchange α) (reader : Nat) : Reading α × Exchange α :=
  let (reading, readers) := x.readers.next x.bus reader
  (reading, { x with readers })

def drain (x : Exchange α) (reader : Nat) : List (Posted α) × Reading α × Exchange α :=
  let (events, ending, readers) := x.readers.drain x.bus reader
  (events, ending, { x with readers })

def close (x : Exchange α) (reader : Nat) : Exchange α :=
  { x with readers := x.readers.close reader }

def hold (x : Exchange α) : Exchange α := { x with bus := x.bus.hold }

def release (x : Exchange α) : Exchange α := { x with bus := x.bus.release }

def step (x : Exchange α) : Move α → Exchange α
  | .publish content => (x.publish content).2
  | .subscribe last => x.subscribe last
  | .next reader => (x.next reader).2
  | .close reader => x.close reader
  | .hold => x.hold
  | .release => x.release

def run (x : Exchange α) : List (Move α) → Exchange α
  | [] => x
  | m :: r => run (x.step m) r

end Exchange

end TorrentAdmission
