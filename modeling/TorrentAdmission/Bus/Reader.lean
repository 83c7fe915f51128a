import TorrentAdmission.Bus.Basic

/-!
# Readers of a bus

A reader is opened in two steps: it takes its place in the channel, and then it copies from the ring
what it wants to have again. Events published between the two are in both; the reader passes over
those of the channel that it has from the ring.
-/

namespace TorrentAdmission

structure Reader (α : Type) where
  backlog : List (Posted α) := []
  /-- How many events of the channel lie behind the reader. -/
  position : Nat
  /-- The number up to which events of the channel are passed over. -/
  highWater : Nat := 0
  deriving DecidableEq, Repr

inductive Reading (α : Type) where
  | event (entry : Posted α)
  | pending
  | closed
  deriving DecidableEq, Repr

namespace Reader

variable {α : Type}

/-- A reader of everything that is published from now on. -/
def register (bus : Bus α) : Reader α :=
  { position := bus.sent }

/-- Gives `reader` the events that are kept and have numbers above `last`. -/
def replay (reader : Reader α) (bus : Bus α) (last : Nat) : Reader α :=
  let backlog := bus.backlog last
  { reader with backlog, highWater := (backlog.getLast?.map Posted.id).getD 0 }

/-- A reader that starts behind the event `last`, or with what comes next. -/
def subscribe (bus : Bus α) (last : Option Nat) : Reader α :=
  match last with
  | some id => (register bus).replay bus id
  | none => register bus

def next (reader : Reader α) (bus : Bus α) : Reading α × Reader α :=
  match reader.backlog with
  | e :: rest => (.event e, { reader with backlog := rest })
  | [] =>
    match (bus.pending reader.position).dropWhile (fun e => decide (e.id ≤ reader.highWater)) with
    | e :: rest => (.event e, { reader with position := bus.sent - rest.length, highWater := e.id })
    | [] => (if bus.isOpen then .pending else .closed, { reader with position := bus.sent })

/-- The number of events that a reader can read at once, or more. -/
def available (reader : Reader α) (bus : Bus α) : Nat :=
  reader.backlog.length + (bus.pending reader.position).length

/-- Reads up to `fuel` events: those read, and what is found behind them. -/
def take (fuel : Nat) (reader : Reader α) (bus : Bus α) : List (Posted α) × Reading α × Reader α :=
  match fuel with
  | 0 => ([], .pending, reader)
  | fuel + 1 =>
    match reader.next bus with
    | (.event e, reader) =>
      let (events, ending, reader) := take fuel reader bus
      (e :: events, ending, reader)
    | (ending, reader) => ([], ending, reader)

def drain (reader : Reader α) (bus : Bus α) : List (Posted α) × Reading α × Reader α :=
  take (reader.available bus + 1) reader bus

end Reader

end TorrentAdmission
