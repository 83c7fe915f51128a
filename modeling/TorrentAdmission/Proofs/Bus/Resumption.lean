import TorrentAdmission.Proofs.Bus.Continuity

/-!
# Coming back

A client opens a reader behind the last event it has, reads as long as it likes, closes the reader and
comes back later, behind the event that it has by then. If it comes back before the ring loses what it
needs and keeps up while it reads, then all it ever receives makes up one stretch of what is published:
`run_resumes`. One visit makes such a stretch, and stretches that begin where others end add up.
-/

namespace TorrentAdmission

namespace Exchange

variable {α : Type}

/-- One visit of a client, with what others do before its reader takes its place in the channel, until the
reader has copied what it wants from the ring, and while the reader is open. The client reads in the last
of these. -/
structure Visit (α : Type) where
  before : List (Move α) := []
  amid : List (Move α) := []
  during : List (Move α)

namespace Visit

variable (v : Visit α) (x : Exchange α) (last : Nat)

def contents : List α := Exchange.contents (v.before ++ v.amid ++ v.during)

/-- The exchange when the client has opened its reader behind the event `last`. -/
def opening : Exchange α :=
  let registered := x.run v.before
  let copied := registered.run v.amid
  copied.enlist (.openAcross registered.bus copied.bus (some last))

def reader : Nat := ((x.run v.before).run v.amid).readers.length

def heard : List (Posted α) := (v.opening x last).heard (v.reader x) v.during

def leave : Exchange α := ((v.opening x last).run v.during).close (v.reader x)

/-- The ring has all that the client needs when it comes, and the reader keeps up until it is closed. -/
structure InTime : Prop where
  kept : .close (v.reader x) ∉ v.during
  ring : (v.opening x last).bus.sent ≤ last + x.bus.capacity
  pace : (v.opening x last).KeepsUp (v.reader x) (v.opening x last).bus.sent [] v.during

end Visit

/-- The event behind which a client goes on that came back behind `last` and heard these events. -/
def resumesAt (last : Nat) (heard : List (Posted α)) : Nat := (heard.getLast?.map Posted.id).getD last

/-- All that a client receives in its visits, one after the other. -/
def received (x : Exchange α) (last : Nat) : List (Visit α) → List (Posted α)
  | [] => []
  | v :: rest => v.heard x last ++ received (v.leave x last) (resumesAt last (v.heard x last)) rest

def InTime (x : Exchange α) (last : Nat) : List (Visit α) → Prop
  | [] => True
  | v :: rest => v.InTime x last ∧ InTime (v.leave x last) (resumesAt last (v.heard x last)) rest

variable {x : Exchange α} {last : Nat} {published : List α} {v : Visit α}

theorem resumesAt_stretch {heard : List (Posted α)} (unbroken : heard = stretch published last heard.length) :
    resumesAt last heard = last + heard.length := by
  have reached := lastHeard_stretch unbroken
  unfold lastHeard at reached
  unfold resumesAt
  cases final : heard.getLast? with
  | none =>
    rw [List.getLast?_eq_none_iff.mp final]
    rfl
  | some e =>
    have some : heard.length ≠ 0 := by
      intro none
      rw [List.eq_nil_iff_length_eq_zero.mpr none] at final
      cases final
    rw [final, Option.map_some, Option.getD_some] at reached
    rw [Option.map_some, Option.getD_some]
    omega

theorem origin_of_ring {opened capacity : Nat} (known : last ≤ opened) (ring : opened ≤ last + capacity) :
    (⟨opened, some last, 0⟩ : Session).origin capacity = last := by
  simp only [Session.origin]
  omega

theorem Visit.opening_attends (records : x.bus.Records (numbered published)) (positive : 0 < x.bus.capacity)
    (known : last ≤ published.length)
    (few : (published ++ Exchange.contents v.before ++ Exchange.contents v.amid).length ≤ Bus.maxId) :
    let copied := published ++ Exchange.contents v.before ++ Exchange.contents v.amid
    (v.opening x last).Attends (v.reader x) copied.length (some last) copied [] := by
  intro copied
  have width : ((x.run v.before).run v.amid).bus.capacity = x.bus.capacity :=
    (run_capacity _ v.amid).trans (run_capacity x v.before)
  simp only [List.length_append] at few
  have registered : (x.run v.before).bus.Records (numbered (published ++ Exchange.contents v.before)) :=
    run_records_numbered records (by omega)
  have copies : ((x.run v.before).run v.amid).bus.Records (numbered copied) :=
    run_records_numbered registered (by rw [List.length_append]; omega)
  have place : Reader.register (x.run v.before).bus =
      { position := (published ++ Exchange.contents v.before).length } := by
    rw [Reader.register, registered.published]
  have earlier : (published ++ Exchange.contents v.before).length ≤ copied.length :=
    (List.sublist_append_left _ _).length_le
  -- its place in the channel is older than the copy of the ring, so no event falls between the two
  apply enlist_attends copies
  rw [Reader.openAcross, place]
  exact Reader.replay_follows copies (width.symm ▸ positive) earlier
    (Or.inl (by rw [List.length_append]; omega))

/-- A visit in time yields a stretch of what is published, which begins where the client asked. -/
theorem Visit.InTime.yields (inTime : v.InTime x last) (records : x.bus.Records (numbered published))
    (positive : 0 < x.bus.capacity) (known : last ≤ published.length)
    (few : (published ++ v.contents).length ≤ Bus.maxId) :
    (v.leave x last).bus.Records (numbered (published ++ v.contents)) ∧
      (v.leave x last).bus.capacity = x.bus.capacity ∧
      v.heard x last = stretch (published ++ v.contents) last (v.heard x last).length ∧
      last + (v.heard x last).length ≤ (published ++ v.contents).length := by
  have parts : published ++ v.contents =
      published ++ Exchange.contents v.before ++ Exchange.contents v.amid ++ Exchange.contents v.during := by
    simp [Visit.contents, contents_append]
  have width : (v.opening x last).bus.capacity = x.bus.capacity :=
    (run_capacity _ v.amid).trans (run_capacity x v.before)
  rw [parts] at few ⊢
  rw [List.length_append] at few
  obtain ⟨kept, ring, pace⟩ := inTime
  have attends := Visit.opening_attends (v := v) records positive known (by omega)
  have sent := attends.serves.records.published
  rw [sent] at ring pace
  have goesOn := attends.run kept few pace
  have begins : last ≤ (published ++ Exchange.contents v.before ++ Exchange.contents v.amid).length := by
    simp only [List.length_append]
    omega
  have inside := goesOn.inside
  have unbroken := goesOn.unbroken
  rw [run_capacity, width, origin_of_ring begins ring] at inside unbroken
  exact ⟨goesOn.serves.records, (run_capacity _ v.during).trans width, unbroken, inside⟩

theorem received_stretch {visits : List (Visit α)} (inTime : x.InTime last visits)
    (records : x.bus.Records (numbered published)) (positive : 0 < x.bus.capacity)
    (known : last ≤ published.length)
    (few : (published ++ visits.flatMap Visit.contents).length ≤ Bus.maxId) :
    x.received last visits =
      stretch (published ++ visits.flatMap Visit.contents) last (x.received last visits).length := by
  induction visits generalizing x last published with
  | nil => rfl
  | cons v rest ih =>
    obtain ⟨now, later⟩ := inTime
    rw [List.flatMap_cons, ← List.append_assoc] at few ⊢
    obtain ⟨after, same, unbroken, inside⟩ := now.yields records positive known (by
      rw [List.length_append] at few
      omega)
    -- the next visit begins where this one ends, and both stretches make up one
    have begins := resumesAt_stretch unbroken
    have more := ih later after (same.symm ▸ positive) (by rw [begins]; exact inside) few
    rw [begins] at more
    rw [received, begins, List.length_append, stretch_add, stretch_append inside, ← unbroken, ← more]

/-- A client opens readers one after the other, each one behind the last event it has received so far, and
others publish all the while. If at each opening the ring still has all that comes behind that event, and
no reader is ever behind by more than the channel holds, what the client receives in all its visits is what
was published behind the event it began with, up to the last one received: each event once, in order. -/
theorem run_resumes {capacity : Nat} {bus : Bus α} (new : Bus.new capacity = .opened bus)
    (before : List (Move α)) (last : Nat) (visits : List (Visit α)) (known : last ≤ (contents before).length)
    (few : (contents before ++ visits.flatMap Visit.contents).length ≤ Bus.maxId)
    (inTime : (({ bus } : Exchange α).run before).InTime last visits) :
    let published := contents before ++ visits.flatMap Visit.contents
    let received := (({ bus } : Exchange α).run before).received last visits
    received = stretch published last received.length ∧
      ∀ k e, received[k]? = some e → e.id = last + k + 1 ∧ published[last + k]? = some e.content := by
  intro published received
  have records : (({ bus } : Exchange α).run before).bus.Records (numbered (contents before)) :=
    new_records_numbered new (by rw [List.length_append] at few; omega)
  have width : (({ bus } : Exchange α).run before).bus.capacity = capacity :=
    (run_capacity _ before).trans (new_capacity new).1
  have positive := width.symm ▸ (new_capacity new).2
  have unbroken : received = stretch published last received.length :=
    received_stretch inTime records positive known few
  refine ⟨unbroken, fun k e found => ?_⟩
  rw [unbroken] at found
  exact getElem?_stretch found

end Exchange

namespace Samples

/-- Two visits. The first one reads two of three events; when the second one opens its reader the ring of
three has nothing to spare. -/
def twoVisits : List (Exchange.Visit Char) :=
  [{ amid := [.publish 'e'], during := [.next 0, .publish 'f', .next 0] },
    { before := [.publish 'g'], during := [.next 1, .next 1, .publish 'h', .next 1, .next 1, .next 1] }]

end Samples

namespace Exchange

theorem two_visits_resume :
    (({ bus := { capacity := 3 } } : Exchange Char).run Samples.fourEvents).received 2 Samples.twoVisits =
      [⟨3, 'c'⟩, ⟨4, 'd'⟩, ⟨5, 'e'⟩, ⟨6, 'f'⟩, ⟨7, 'g'⟩, ⟨8, 'h'⟩] := by
  obtain ⟨unbroken, -⟩ := @run_resumes Char 3 { capacity := 3 } rfl Samples.fourEvents 2 Samples.twoVisits
    (by decide) (by decide)
    ⟨⟨by decide, by decide, by decide⟩, ⟨by decide, by decide, by decide⟩, trivial⟩
  exact unbroken.trans (by decide)

end Exchange

end TorrentAdmission
