import TorrentAdmission.Proofs.Bus.Past
import TorrentAdmission.Proofs.Desk.Dossier

/-!
# The history of a desk

The history of a desk leaves out nothing: it holds all events that its bus has published, whether the
bus still keeps them or not, and the counters are what the counts in it come to. The dossiers hold
what the history says of single submissions.
-/

namespace TorrentAdmission

namespace Fact

def event? : Fact → Option Event
  | .published entry => some entry.content
  | _ => none

def call? : Fact → Option Call
  | .called call => some call
  | _ => none

def count? : Fact → Option Count
  | .counted what => some what
  | _ => none

end Fact

namespace Desk

/-- All that has been published, the oldest event first. -/
def posted (d : Desk) : List (Posted Event) :=
  d.history.filterMap fun e =>
    match e.fact with
    | .published entry => some entry
    | _ => none

def counts (d : Desk) : List Count :=
  d.history.filterMap fun e => e.fact.count?

def countsOf (d : Desk) (i : Nat) : List Count :=
  d.history.filterMap fun e => if e.submission = i then e.fact.count? else none

variable {d : Desk} {i : Nat} {s : Submission}

/-! ### The bus -/

theorem edit_posted (found : d.submissions[i]? = some s) (e : Edit) :
    (d.edit i e).posted = d.posted ++
      match e with
      | .announce event => [⟨d.bus.nextId, event⟩]
      | _ => [] := by
  rw [posted, edit_history found, List.filterMap_append, ← posted]
  cases e with
  | count what => cases metered : s.resolver.metered <;> simp [Edit.facts]
  | announce event => cases metered : s.resolver.metered <;> simp [Edit.facts]
  | _ => simp [Edit.facts]

theorem count_bus (d : Desk) (i : Nat) (what : Count) : (d.count i what).bus = d.bus := by
  unfold count
  split
  · split <;> rfl
  · rfl

theorem wake_bus (d : Desk) (i : Nat) : (d.wake i).bus = d.bus := by
  unfold wake
  split <;> rfl

theorem cancelHeld_bus (d : Desk) (i : Nat) : (d.cancelHeld i).bus = d.bus := by
  unfold cancelHeld
  split
  · exact wake_bus _ i
  · rfl

theorem edit_records (d : Desk) (i : Nat) (s : Submission) (e : Edit)
    (found : d.submissions[i]? = some s) (records : d.bus.Records d.posted) :
    (d.edit i e).bus.Records (d.edit i e).posted := by
  rw [edit_posted found]
  cases e with
  | announce event =>
    have sent : (d.edit i (.announce event)).bus = (d.bus.publish event).2 := count_bus _ i _
    rw [sent]
    exact Bus.publish_records records event
  | count what => rw [List.append_nil, edit, count_bus]; exact records
  | wake => rw [List.append_nil, edit, wake_bus]; exact records
  | cancel k => rw [List.append_nil, edit, cancelHeld_bus]; exact records
  | leave => rw [List.append_nil]; exact records.holders _
  | _ => rw [List.append_nil]; exact records

theorem rearranged_records (d e : Desk) (r : Rearranged d e) (records : d.bus.Records d.posted) :
    e.bus.Records e.posted := by
  obtain ⟨holders, same⟩ := r.bus
  have kept : e.posted = d.posted := by rw [posted, history, r.journal]; rfl
  rw [kept, same]
  exact records.holders holders

/-- The history holds all that the bus has published. -/
theorem run_records {capacity : Nat} {bus : Bus Event} (opened : Bus.new capacity = .opened bus)
    (ms : List Move) : ((Desk.new bus).run ms).bus.Records ((Desk.new bus).run ms).posted :=
  run_invariant edit_records rearranged_records _ ms (Bus.new_records opened)

/-! ### The counters -/

theorem count_metrics (found : d.submissions[i]? = some s) (what : Count) :
    (d.count i what).metrics = if s.resolver.metered then d.metrics.count what else d.metrics := by
  unfold count
  rw [found]
  cases metered : s.resolver.metered <;> simp [metered, record]

/-- The counters are what has been counted. -/
def Tallied (d : Desk) : Prop := d.metrics = d.counts.foldl Metrics.count {}

theorem edit_tallied (d : Desk) (i : Nat) (s : Submission) (e : Edit)
    (found : d.submissions[i]? = some s) (tallied : d.Tallied) : (d.edit i e).Tallied := by
  unfold Tallied at *
  rw [counts, edit_history found, List.filterMap_append, ← counts, List.foldl_append, ← tallied]
  cases e with
  | count what =>
    rw [edit, count_metrics found]
    cases metered : s.resolver.metered <;> simp [Edit.facts, Fact.count?]
  | announce event =>
    have kept : ({ d with bus := (d.bus.publish event).2 }.record i
        (.published ⟨d.bus.nextId, event⟩)).submissions[i]? = some s := found
    refine (count_metrics kept (.event event.kind)).trans ?_
    cases metered : s.resolver.metered <;> simp [Edit.facts, Fact.count?, record]
  | wake =>
    simp only [edit, wake]
    split <;> simp [Edit.facts]
  | cancel k =>
    simp only [edit, cancelHeld, cancel, wake]
    split
    · split <;> simp [Edit.facts, update]
    · simp [Edit.facts]
  | _ => simp [edit, report, record, update, unwake, Edit.facts, Fact.count?]

theorem rearranged_tallied (d e : Desk) (r : Rearranged d e) (tallied : d.Tallied) : e.Tallied := by
  unfold Tallied at *
  rw [r.metrics, tallied, counts, counts, history, history, r.journal]

theorem run_tallied (bus : Bus Event) (ms : List Move) : ((Desk.new bus).run ms).Tallied :=
  run_invariant edit_tallied rearranged_tallied _ ms rfl

/-! ### Single submissions -/

theorem eventsOf_contents (d : Desk) (i : Nat) :
    (d.eventsOf i).map Posted.content = (d.chronicle i).filterMap fun p => p.2.event? := by
  rw [eventsOf, chronicle, List.map_filterMap, List.filterMap_filterMap]
  congr
  funext e
  cases fact : e.fact <;> by_cases own : e.submission = i <;> simp [Fact.event?, Fact.unnumbered, own]

theorem callsOf_eq (d : Desk) (i : Nat) :
    d.callsOf i = (d.chronicle i).filterMap fun p => p.2.call? := by
  rw [callsOf, chronicle, List.filterMap_filterMap]
  congr
  funext e
  cases fact : e.fact <;> by_cases own : e.submission = i <;> simp [Fact.call?, Fact.unnumbered, own]

theorem countsOf_eq (d : Desk) (i : Nat) :
    d.countsOf i = (d.chronicle i).filterMap fun p => p.2.count? := by
  rw [countsOf, chronicle, List.filterMap_filterMap]
  congr
  funext e
  cases fact : e.fact <;> by_cases own : e.submission = i <;> simp [Fact.count?, Fact.unnumbered, own]

end Desk

end TorrentAdmission
