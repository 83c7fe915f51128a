import TorrentAdmission.Proofs.Bus.Streams

/-!
# What a bus answers

The numbers that a bus gives, the last of them, and the events that it has for replay are a matter of what
has been published on it, whatever else its holders and readers do: `run_answers`.
-/

namespace TorrentAdmission

variable {α : Type}

namespace Bus

variable {bus : Bus α} {contents : List α}

theorem Records.publish_number (records : bus.Records (numbered contents)) (few : contents.length < maxId)
    (content : α) : (bus.publish content).1 = contents.length + 1 := by
  change bus.nextId = _
  rw [records.nextId, length_numbered]
  omega

theorem Records.lastId? (records : bus.Records (numbered contents)) (positive : 0 < bus.capacity) :
    bus.lastId? = if contents.length = 0 then none else some contents.length := by
  rw [Bus.lastId?, records.ring, newest, List.getLast?_drop, length_numbered]
  split
  · rename_i nothing
    rw [if_pos (by omega)]
    rfl
  · rename_i some
    rw [if_neg (by omega)]
    exact Reader.getLast?_numbered (by omega)

theorem Records.backlog (records : bus.Records (numbered contents)) (id : Nat) :
    bus.backlog id = (numbered contents).filter fun e =>
      decide (max id (contents.length - bus.capacity) < e.id ∧ e.id ≤ contents.length) := by
  rw [Reader.backlog_eq_drop records, drop_numbered]
  refine List.filter_congr fun e member => decide_eq_decide.mpr ?_
  exact (and_iff_left (mem_numbered member).2).symm

end Bus

namespace Exchange

/-- Nothing but publishing changes what a bus answers. -/
theorem step_answers (x : Exchange α) {m : Move α} (silent : m.content? = none) :
    (x.step m).bus.ring = x.bus.ring ∧ (x.step m).bus.nextId = x.bus.nextId := by
  cases m with
  | publish content => cases silent
  | _ => exact ⟨rfl, rfl⟩

/-- The holders of a bus publish on it in any order, while readers come and go. Each event gets the next
number, the last number is that of the newest event, and the events kept behind any number are those
published behind it, less those that are older than the capacity allows. All of this changes only when
something is published. -/
theorem run_answers {capacity : Nat} {bus : Bus α} (new : Bus.new capacity = .opened bus) (ms : List (Move α))
    (few : (contents ms).length ≤ Bus.maxId) :
    let x := ({ bus } : Exchange α).run ms
    let n := (contents ms).length
    (∀ before content after, ms = before ++ .publish content :: after →
      ((({ bus } : Exchange α).run before).publish content).1 = (contents before).length + 1) ∧
    x.bus.lastId? = (if n = 0 then none else some n) ∧
    (∀ id, x.bus.backlog id = (numbered (contents ms)).filter fun e =>
      decide (max id (n - capacity) < e.id ∧ e.id ≤ n)) ∧
    ∀ m : Move α, m.content? = none → (x.step m).bus.lastId? = x.bus.lastId? ∧
      (∀ id, (x.step m).bus.backlog id = x.bus.backlog id) ∧
      ∀ content, ((x.step m).publish content).1 = (x.publish content).1 := by
  intro x n
  have records := new_records_numbered new few
  have width : x.bus.capacity = capacity := (run_capacity _ ms).trans (new_capacity new).1
  refine ⟨fun before content after split => ?_, ?_, fun id => ?_, fun m silent => ?_⟩
  · rw [split, contents_append, contents_cons, List.length_append, List.length_append] at few
    change _ + (1 + _) ≤ _ at few
    exact (new_records_numbered new (by omega)).publish_number (by omega) content
  · exact records.lastId? (width.symm ▸ (new_capacity new).2)
  · rw [records.backlog, width]
  · obtain ⟨ring, next⟩ := x.step_answers silent
    refine ⟨?_, fun id => ?_, fun content => next⟩
    · rw [Bus.lastId?, ring, Bus.lastId?]
    · rw [Bus.backlog, ring, Bus.backlog]

end Exchange

namespace Samples

/-- Four events, between which a reader is opened and read, and holders come and go. -/
def amongReaders : List (Exchange.Move Char) :=
  [.publish 'a', .hold, .publish 'b', .subscribe (some 1), .next 0, .publish 'c', .release, .close 0, .publish 'd']

end Samples

namespace Exchange

/-- A bus of three keeps the last three of four events. -/
theorem last_three_answered :
    let x := ({ bus := { capacity := 3 } } : Exchange Char).run Samples.amongReaders
    x.bus.lastId? = some 4 ∧ x.bus.backlog 0 = [⟨2, 'b'⟩, ⟨3, 'c'⟩, ⟨4, 'd'⟩] ∧ x.bus.backlog 3 = [⟨4, 'd'⟩] ∧
      x.bus.backlog 9 = [] := by
  obtain ⟨-, last, backlog, -⟩ := @run_answers Char 3 { capacity := 3 } rfl Samples.amongReaders (by decide)
  exact ⟨last.trans (by decide), (backlog 0).trans (by decide), (backlog 3).trans (by decide),
    (backlog 9).trans (by decide)⟩

end Exchange

end TorrentAdmission
