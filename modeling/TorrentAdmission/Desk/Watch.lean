import TorrentAdmission.Bus.Reader
import TorrentAdmission.Desk.Timeline

/-!
# Watching a submission

Collects from a reader the events of one submission, up to the event that ends it or up to a
deadline, while the clock goes on. The events of other submissions are read and left aside.
-/

namespace TorrentAdmission

/-- What to look for on a reader: the events of one submission, and whether to go on behind the
event that ends it. -/
structure Watch where
  submission : Uuid
  pastEnd : Bool := false

namespace Watch

def keeps (w : Watch) (e : Event) : Bool := e.submission == w.submission

def endsWith (w : Watch) (e : Event) : Bool := w.keeps e && e.isTerminal && !w.pastEnd

/-- What a watch has come to: the events kept, the reader, and whether it is over. -/
structure State where
  kept : List (Posted Event) := []
  reader : Reader Event
  ended : Bool := false

/-- Reads up to `fuel` events while the watch goes on. A closed bus ends it. -/
def read (w : Watch) : (fuel : Nat) → Bus Event → State → State
  | 0, _, s => s
  | fuel + 1, bus, s =>
    match s.reader.next bus with
    | (.pending, reader) => { s with reader }
    | (.closed, reader) => { s with reader, ended := true }
    | (.event e, reader) =>
      let kept := if w.keeps e.content then s.kept ++ [e] else s.kept
      if w.endsWith e.content then { kept, reader, ended := true }
      else read w fuel bus { s with kept, reader }

/-- Reads what there is, and lets things happen, until the watch is over or the instant `deadline`
is reached. The watch sees nothing of what is due at that instant. -/
def follow (w : Watch) : (fuel : Nat) → (deadline : Nat) → State → Desk → State × Desk
  | 0, _, s, d => (s, d)
  | fuel + 1, deadline, s, d =>
    let s := w.read (s.reader.available d.bus + 1) d.bus s
    if s.ended || decide (deadline ≤ d.now) then (s, d)
    else if d.awake ≠ [] then follow w fuel deadline s d.runAwake
    else
      match d.nextInstant? with
      | some t => follow w fuel deadline s (d.moveTo (min t deadline))
      | none => follow w fuel deadline s (d.moveTo deadline)

/-- Watches `reader` for up to `within` milliseconds. Tasks that are awake when the watch ends have
their turns behind its back. -/
def collect (w : Watch) (d : Desk) (reader : Reader Event) (within : Nat) :
    List (Posted Event) × Reader Event × Desk :=
  let (s, d) := w.follow (2 * within + 3) (d.now + within) { reader } d
  (s.kept, s.reader, d.runAwake)

end Watch

end TorrentAdmission
