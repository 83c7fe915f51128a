import TorrentAdmission.Bus.Basic

/-!
# What a bus keeps of its past

A bus that has published some events in their order has numbered them from one on, and keeps the
newest of them in its two buffers: `Bus.Records`. Publishing preserves this.
-/

namespace TorrentAdmission

variable {α : Type}

def newest (n : Nat) (entries : List α) : List α := entries.drop (entries.length - n)

theorem pushBounded_newest (n : Nat) (entries : List α) (entry : α) :
    pushBounded n (newest n entries) entry = newest n (entries ++ [entry]) := by
  unfold pushBounded newest
  rw [List.length_drop, List.length_append, List.length_singleton]
  by_cases full : n ≤ entries.length
  · rw [show entries.length - (entries.length - n) + 1 - n = 1 by omega,
      show entries.length + 1 - n = entries.length - n + 1 by omega, ← List.drop_append_of_le_length (by omega),
      List.drop_drop]
  · rw [show entries.length - n = 0 by omega, List.drop_zero]
    rfl

namespace Bus

/-- The events of `past` are all that have been published on `bus`, the oldest one first. -/
structure Records (bus : Bus α) (past : List (Posted α)) : Prop where
  sent : bus.sent = past.length
  nextId : bus.nextId = min (past.length + 1) maxId
  ids : past.map Posted.id = (List.range past.length).map fun k => min (k + 1) maxId
  ring : bus.ring = newest bus.capacity past
  channel : bus.channel = newest (channelCapacity bus.capacity) past

theorem new_records {capacity : Nat} {bus : Bus α} (opened : Bus.new capacity = .opened bus) :
    bus.Records [] := by
  unfold new at opened
  split at opened
  · cases opened
  · split at opened
    · cases opened
    · cases opened
      exact ⟨rfl, rfl, rfl, by simp [newest], by simp [newest]⟩

theorem publish_records {bus : Bus α} {past : List (Posted α)} (records : bus.Records past)
    (content : α) : (bus.publish content).2.Records (past ++ [⟨bus.nextId, content⟩]) := by
  obtain ⟨sent, nextId, ids, ring, channel⟩ := records
  refine ⟨?_, ?_, ?_, ?_, ?_⟩
  · simp [publish, sent]
  · simp only [publish, nextId, List.length_append, List.length_singleton]
    omega
  · simp [ids, nextId, List.range_succ]
  · simp only [publish, ring]
    exact pushBounded_newest _ _ _
  · simp only [publish, channel]
    exact pushBounded_newest _ _ _

theorem Records.holders {bus : Bus α} {past : List (Posted α)} (records : bus.Records past)
    (holders : Nat) : ({ bus with holders } : Bus α).Records past :=
  ⟨records.sent, records.nextId, records.ids, records.ring, records.channel⟩

/-- As long as the numbers last, each event has a greater one than those before it. -/
theorem Records.increasing {bus : Bus α} {past : List (Posted α)} (records : bus.Records past)
    (few : bus.sent ≤ maxId) : past.Pairwise fun e f => e.id < f.id := by
  rw [← List.pairwise_map (f := Posted.id) (R := (· < ·)), records.ids, List.pairwise_map]
  have enough := records.sent ▸ few
  refine List.Pairwise.imp_of_mem ?_ List.pairwise_lt_range
  intro k l _ inside less
  have := List.mem_range.mp inside
  omega

end Bus

end TorrentAdmission
