import TorrentAdmission.Proofs.Bus.Streams

/-!
# Readers that keep up

A reader that is never behind by more than the channel holds misses nothing. What it has heard is all
that was published from its start on, up to some event, and the one behind that is what it finds next:
`Attends.run`. Its start is the event it asked for, or the oldest one that was kept when it was opened.
-/

namespace TorrentAdmission

variable {α : Type}

/-! ### Stretches of events -/

/-- The first `n` of the events behind the number `start`. -/
def stretch (contents : List α) (start n : Nat) : List (Posted α) :=
  ((numbered contents).drop start).take n

section
variable {contents : List α} {start n : Nat}

theorem length_stretch (contents : List α) (start n : Nat) :
    (stretch contents start n).length = min n (contents.length - start) := by
  rw [stretch, List.length_take, List.length_drop, length_numbered]

theorem stretch_append (inside : start + n ≤ contents.length) (more : List α) :
    stretch (contents ++ more) start n = stretch contents start n := by
  have begins : start ≤ (numbered contents).length := by
    rw [length_numbered]
    omega
  have ends : n ≤ ((numbered contents).drop start).length := by
    rw [List.length_drop, length_numbered]
    omega
  rw [stretch, numbered, List.mapIdx_append, ← numbered, List.drop_append_of_le_length begins,
    List.take_append_of_le_length ends, ← stretch]

theorem drop_numbered_append (inside : start ≤ contents.length) (more : List α) :
    ((numbered contents).drop start).Sublist ((numbered (contents ++ more)).drop start) := by
  have split : numbered (contents ++ more) = numbered contents ++ _ := List.mapIdx_append
  rw [← length_numbered] at inside
  rw [split, List.drop_append_of_le_length inside]
  exact List.sublist_append_left _ _

theorem stretch_add (contents : List α) (start n k : Nat) :
    stretch contents start (n + k) = stretch contents start n ++ stretch contents (start + n) k := by
  rw [stretch, List.take_add, List.drop_drop]
  rfl

theorem stretch_succ {e : Posted α} (found : (numbered contents)[start + n]? = some e) :
    stretch contents start (n + 1) = stretch contents start n ++ [e] := by
  rw [stretch, List.take_add_one, List.getElem?_drop, found]
  rfl

theorem getElem?_stretch {k : Nat} {e : Posted α} (found : (stretch contents start n)[k]? = some e) :
    e.id = start + k + 1 ∧ contents[start + k]? = some e.content := by
  rw [stretch, List.getElem?_take] at found
  split at found
  · rw [List.getElem?_drop, numbered, List.getElem?_mapIdx] at found
    obtain ⟨content, there, rfl⟩ := Option.map_eq_some_iff.mp found
    exact ⟨rfl, there⟩
  · cases found

/-- What was heard without a gap from `start` on ends with the event that it is long enough to reach. -/
theorem lastHeard_stretch {heard : List (Posted α)} (unbroken : heard = stretch contents start heard.length) :
    max start (Exchange.lastHeard heard) = start + heard.length := by
  by_cases none : heard.length = 0
  · rw [List.eq_nil_iff_length_eq_zero.mpr none]
    exact Nat.max_eq_left (Nat.zero_le start)
  · have inside : heard.length - 1 < heard.length := by omega
    have found := List.getElem?_eq_getElem inside
    have id := (getElem?_stretch ((congrArg (·[heard.length - 1]?) unbroken).symm.trans found)).1
    rw [Exchange.lastHeard, List.getLast?_eq_getElem?, found, Option.map_some, Option.getD_some, id]
    omega

end

/-- As long as the numbers last, the past of a bus is what it has published, numbered from one on. -/
theorem Bus.Records.eq_numbered {bus : Bus α} {past : List (Posted α)} (records : bus.Records past)
    (few : bus.sent ≤ Bus.maxId) : past = numbered (past.map Posted.content) := by
  rw [records.sent] at few
  refine List.ext_getElem? fun k => ?_
  rw [numbered, List.getElem?_mapIdx, List.getElem?_map]
  cases found : past[k]? with
  | none => rfl
  | some e =>
    have inside := (List.getElem?_eq_some_iff.mp found).1
    have id := congrArg (·[k]?) records.ids
    simp only [List.getElem?_map, found, Option.map_some, List.getElem?_range inside, Option.some.injEq] at id
    have count : e.id = k + 1 := by omega
    rw [Option.map_some, Option.map_some, ← count]

/-! ### What a reader that keeps up finds -/

namespace Session

/-- The number of the event behind which a reader starts. -/
def origin (t : Session) (capacity : Nat) : Nat :=
  match t.last with
  | some last => min t.opened (max last (t.opened - capacity))
  | none => t.opened

theorem origin_le (t : Session) (capacity : Nat) : t.origin capacity ≤ t.opened := by
  unfold origin
  split
  · exact Nat.min_le_left _ _
  · exact Nat.le_refl _

variable {t : Session} {capacity sent : Nat} {contents : List α} {isOpen : Bool}

theorem awaits_of_pace (pace : sent ≤ max t.opened t.heard + channelCapacity capacity) (id : Nat) :
    t.awaits capacity sent id = decide (max (t.origin capacity) t.heard < id) := by
  -- what the channel has lost by now the reader has heard already, so the width drops out
  obtain ⟨opened, last, heard⟩ := t
  dsimp only at pace
  cases last with
  | none =>
    simp only [awaits, replays, streams, origin, Option.any_none, Bool.false_or, ← Bool.decide_and]
    exact decide_eq_decide.mpr (by omega)
  | some last =>
    simp only [awaits, replays, streams, origin, Option.any_some, ← Bool.decide_and, ← Bool.decide_or]
    exact decide_eq_decide.mpr (by omega)

theorem next_of_pace (pace : contents.length ≤ max t.opened t.heard + channelCapacity capacity) :
    t.next capacity (numbered contents) isOpen =
      match (numbered contents)[max (t.origin capacity) t.heard]? with
      | some e => .event e
      | none => if isOpen then .pending else .closed := by
  have found : (numbered contents).find? (fun e => t.awaits capacity (numbered contents).length e.id) =
      (numbered contents)[max (t.origin capacity) t.heard]? := by
    simp only [length_numbered, awaits_of_pace pace, ← List.head?_filter, ← drop_numbered, List.head?_drop]
  rw [← found]
  rfl

end Session

namespace Exchange

variable {x : Exchange α} {number opened : Nat} {last : Option Nat} {published : List α}
  {past : List (Posted α)} {ms : List (Move α)}

theorem step_sent (x : Exchange α) (m : Move α) :
    (x.step m).bus.sent = x.bus.sent + m.content?.toList.length := by
  cases m <;> rfl

theorem Serves.opened_le (serves : x.Serves number opened last published past) : opened ≤ published.length := by
  obtain ⟨-, ⟨r, -, follows⟩, -⟩ := serves
  exact follows.opened

/-- Reader `number` serves its session and has heard all there is from its start on, without a gap. -/
structure Attends (x : Exchange α) (number opened : Nat) (last : Option Nat) (published : List α)
    (heard : List (Posted α)) : Prop where
  serves : x.Serves number opened last published heard
  unbroken : heard =
    stretch published ((⟨opened, last, 0⟩ : Session).origin x.bus.capacity) heard.length

theorem enlist_attends {r : Reader α} (records : x.bus.Records (numbered published))
    (follows : r.Follows ⟨opened, last, 0⟩ x.bus.capacity published) :
    (x.enlist r).Attends x.readers.length opened last published [] :=
  ⟨enlist_serves records follows, rfl⟩

namespace Attends

theorem inside (attends : x.Attends number opened last published past) :
    (⟨opened, last, 0⟩ : Session).origin x.bus.capacity + past.length ≤ published.length := by
  have origin := Session.origin_le ⟨opened, last, 0⟩ x.bus.capacity
  have known := attends.serves.opened_le
  have length := congrArg List.length attends.unbroken
  rw [length_stretch] at length
  dsimp only at origin
  omega

theorem place (attends : x.Attends number opened last published past) :
    max ((⟨opened, last, lastHeard past⟩ : Session).origin x.bus.capacity) (lastHeard past) =
      (⟨opened, last, 0⟩ : Session).origin x.bus.capacity + past.length :=
  lastHeard_stretch attends.unbroken

theorem next (attends : x.Attends number opened last published past)
    (pace : published.length ≤ max opened (lastHeard past) + channelCapacity x.bus.capacity) :
    (x.next number).1 =
      match (numbered published)[(⟨opened, last, 0⟩ : Session).origin x.bus.capacity + past.length]? with
      | some e => .event e
      | none => if x.bus.isOpen then .pending else .closed := by
  rw [attends.serves.next, Session.next_of_pace pace, attends.place]

theorem read (attends : x.Attends number opened last published past)
    (pace : published.length ≤ max opened (lastHeard past) + channelCapacity x.bus.capacity) :
    (x.step (.next number)).Attends number opened last published (past ++ (x.next number).1.event?.toList) := by
  have reading := attends.next pace
  obtain ⟨serves, unbroken⟩ := attends
  refine ⟨serves.read, ?_⟩
  change _ = stretch published ((⟨opened, last, 0⟩ : Session).origin x.bus.capacity) _
  rw [reading]
  split
  · rename_i e found
    rw [Reading.event?, Option.toList_some, List.length_append, List.length_singleton, stretch_succ found,
      ← unbroken]
  · have silent : (if x.bus.isOpen then (.pending : Reading α) else .closed).event? = none := by
      split <;> rfl
    rw [silent, Option.toList_none, List.append_nil]
    exact unbroken

theorem other (attends : x.Attends number opened last published past) {m : Move α}
    (kept : m ≠ .close number) (other : m ≠ .next number)
    (few : published.length + m.content?.toList.length ≤ Bus.maxId) :
    (x.step m).Attends number opened last (published ++ m.content?.toList) past := by
  have inside := attends.inside
  obtain ⟨serves, unbroken⟩ := attends
  have stepped := serves.step kept few
  rw [heard_other other, List.append_nil] at stepped
  refine ⟨stepped, ?_⟩
  rw [step_capacity, stretch_append inside]
  exact unbroken

/-- A reader that is not behind too far when it is read goes on without a gap, whatever happens. -/
theorem step (attends : x.Attends number opened last published past) {m : Move α}
    (kept : m ≠ .close number) (few : published.length + m.content?.toList.length ≤ Bus.maxId)
    (pace : published.length ≤ max opened (lastHeard past) + channelCapacity x.bus.capacity) :
    (x.step m).Attends number opened last (published ++ m.content?.toList) (past ++ x.heard number [m]) := by
  by_cases own : m = .next number
  · subst own
    rw [heard_next]
    exact (List.append_nil published).symm ▸ attends.read pace
  · rw [heard_other own, List.append_nil]
    exact attends.other kept own few

end Attends

/-! ### Reading to the end -/

theorem Attends.heard_all (attends : x.Attends number opened last published past)
    (none : (numbered published)[(⟨opened, last, 0⟩ : Session).origin x.bus.capacity + past.length]? = none) :
    past = (numbered published).drop ((⟨opened, last, 0⟩ : Session).origin x.bus.capacity) := by
  have short := List.getElem?_eq_none_iff.mp none
  rw [length_numbered] at short
  rw [attends.unbroken, stretch, List.take_of_length_le]
  rw [List.length_drop, length_numbered]
  omega

theorem Attends.closed (attends : x.Attends number opened last published past)
    (pace : published.length ≤ max opened (lastHeard past) + channelCapacity x.bus.capacity)
    (closed : (x.next number).1 = .closed) :
    x.bus.isOpen = false ∧
      past = (numbered published).drop ((⟨opened, last, 0⟩ : Session).origin x.bus.capacity) := by
  rw [attends.next pace] at closed
  split at closed
  · cases closed
  · rename_i none
    refine ⟨?_, attends.heard_all none⟩
    split at closed
    · cases closed
    · rename_i shut
      exact Bool.eq_false_iff.mpr shut

/-- Reading alone never puts a reader behind, and brings it to the end. -/
theorem Attends.reads (attends : x.Attends number opened last published past)
    (pace : published.length ≤ max opened (lastHeard past) + channelCapacity x.bus.capacity) (n : Nat)
    (enough : published.length ≤ (⟨opened, last, 0⟩ : Session).origin x.bus.capacity + past.length + n) :
    let reads := List.replicate n (Move.next number)
    (x.run reads).Attends number opened last published (past ++ x.heard number reads) ∧
      past ++ x.heard number reads =
        (numbered published).drop ((⟨opened, last, 0⟩ : Session).origin x.bus.capacity) ∧
      ((x.run reads).next number).1 = if x.bus.isOpen then .pending else .closed := by
  induction n generalizing x past with
  | zero =>
    have none : (numbered published)[(⟨opened, last, 0⟩ : Session).origin x.bus.capacity + past.length]? =
        none := by
      rw [List.getElem?_eq_none_iff, length_numbered]
      exact enough
    have reading := attends.next pace
    rw [none] at reading
    have silent : past ++ x.heard number (List.replicate 0 (.next number)) = past := List.append_nil past
    dsimp only
    rw [silent]
    exact ⟨attends, attends.heard_all none, reading⟩
  | succ n ih =>
    have place := attends.place
    have found := attends.next pace
    -- a reading that finds an event brings the reader closer; one that finds none shows that it is there
    have goesOn : published.length ≤
          max opened (lastHeard (past ++ (x.next number).1.event?.toList)) + channelCapacity x.bus.capacity ∧
        published.length ≤ (⟨opened, last, 0⟩ : Session).origin x.bus.capacity +
          (past ++ (x.next number).1.event?.toList).length + n := by
      rw [found]
      split
      · rename_i e there
        have id := id_numbered there
        have reached : lastHeard (past ++ [e]) = e.id := by simp [lastHeard]
        simp only [Reading.event?, Option.toList_some, reached, List.length_append, List.length_singleton]
        omega
      · rename_i none
        have short := List.getElem?_eq_none_iff.mp none
        have silent : (if x.bus.isOpen then (.pending : Reading α) else .closed).event? = Option.none := by
          split <;> rfl
        rw [length_numbered] at short
        rw [silent, Option.toList_none, List.append_nil]
        exact ⟨pace, by omega⟩
    have more := ih (attends.read pace) goesOn.1 goesOn.2
    dsimp only at more ⊢
    rw [List.replicate_succ, ← List.singleton_append, heard_append, heard_next, ← List.append_assoc]
    exact more

/-! ### Keeping up -/

/-- Reader `number`, which was opened when there were `opened` events and has heard those of `past`, is at
no point of this run behind by more events than the channel holds. -/
def KeepsUp (x : Exchange α) (number opened : Nat) (past : List (Posted α)) (ms : List (Move α)) : Prop :=
  ∀ n ≤ ms.length, (x.run (ms.take n)).bus.sent ≤
    max opened (lastHeard (past ++ x.heard number (ms.take n))) + channelCapacity x.bus.capacity

instance (x : Exchange α) (number opened : Nat) (past : List (Posted α)) (ms : List (Move α)) :
    Decidable (x.KeepsUp number opened past ms) :=
  inferInstanceAs (Decidable (∀ n ≤ ms.length, _))

theorem KeepsUp.first (keeps : x.KeepsUp number opened past ms) :
    x.bus.sent ≤ max opened (lastHeard past) + channelCapacity x.bus.capacity := by
  have now := keeps 0 (Nat.zero_le _)
  rwa [List.take_zero, heard, readings, List.filterMap_nil, List.append_nil] at now

theorem KeepsUp.rest {m : Move α} (keeps : x.KeepsUp number opened past (m :: ms)) :
    (x.step m).KeepsUp number opened (past ++ x.heard number [m]) ms := by
  intro n within
  have later := keeps (n + 1) (Nat.succ_le_succ within)
  rw [List.take_succ_cons, ← List.singleton_append, heard_append, ← List.append_assoc] at later
  rw [step_capacity]
  exact later

theorem Attends.run (attends : x.Attends number opened last published past) (kept : .close number ∉ ms)
    (few : published.length + (contents ms).length ≤ Bus.maxId) (keeps : x.KeepsUp number opened past ms) :
    (x.run ms).Attends number opened last (published ++ contents ms) (past ++ x.heard number ms) := by
  induction ms generalizing x published past with
  | nil => simpa [contents, heard, readings, Exchange.run] using attends
  | cons m rest ih =>
    rw [contents_cons, List.length_append] at few
    -- each move finds the reader at the pace that the run promises before it
    have pace := keeps.first
    rw [attends.serves.records.published] at pace
    have stepped := attends.step (fun same => kept (same ▸ List.mem_cons_self)) (by omega) pace
    have more := ih stepped (fun member => kept (List.mem_cons_of_mem m member))
      (by rw [List.length_append]; omega) keeps.rest
    rw [contents_cons, ← List.append_assoc, ← List.singleton_append, heard_append, ← List.append_assoc]
    exact more

end Exchange

end TorrentAdmission
