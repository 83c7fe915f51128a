import TorrentAdmission.Bus.Exchange
import TorrentAdmission.Proofs.Bus.Session

/-!
# Streams of events

Any number of readers on a bus, opened and read and closed in any order while others publish. What one
of them hears is what its own session says, whatever the others do: `run_yields_next`.
-/

namespace TorrentAdmission

variable {α : Type}

def Reading.event? : Reading α → Option (Posted α)
  | .event e => some e
  | _ => none

/-! ### Single readers among others -/

namespace Readers

variable {readers : Readers α} {number k : Nat}

theorem find?_put (inside : number < readers.length) (r : Reader α) :
    (readers.put number r).find? k = if number = k then some r else readers.find? k := by
  unfold find? put
  rw [List.getElem?_set, if_pos inside]
  split <;> rfl

theorem find?_close : (readers.close number).find? k = if number = k then none else readers.find? k := by
  unfold find? close
  rw [List.getElem?_set]
  split
  · split <;> rfl
  · rfl

theorem find?_enlist (r : Option (Reader α)) :
    find? (readers ++ [r]) k = if k = readers.length then r else readers.find? k := by
  unfold find?
  rw [List.getElem?_append]
  split
  · rename_i earlier
    rw [if_neg (Nat.ne_of_lt earlier)]
  · rename_i late
    split
    · rename_i newest
      simp [newest]
    · rename_i other
      have beyond : readers.length < k := by omega
      simp [List.getElem?_eq_none (Nat.le_of_lt beyond), List.getElem?_eq_none (l := [r])
        (show [r].length ≤ k - readers.length by simp; omega)]

theorem lt_length_of_find? {r : Reader α} (found : readers.find? number = some r) : number < readers.length := by
  refine Nat.lt_of_not_le fun beyond => ?_
  rw [find?, List.getElem?_eq_none beyond] at found
  cases found

theorem next_reading (readers : Readers α) (bus : Bus α) (number : Nat) :
    (readers.next bus number).1 = ((readers.find? number).map fun r => (r.next bus).1).getD .closed := by
  unfold next
  cases readers.find? number <;> rfl

theorem length_next (readers : Readers α) (bus : Bus α) (number : Nat) :
    (readers.next bus number).2.length = readers.length := by
  unfold next
  split
  · exact List.length_set
  · rfl

theorem find?_next_self (readers : Readers α) (bus : Bus α) (number : Nat) :
    (readers.next bus number).2.find? number = (readers.find? number).map fun r => (r.next bus).2 := by
  unfold next
  cases found : readers.find? number with
  | none => exact found
  | some r => exact (find?_put (lt_length_of_find? found) _).trans (if_pos rfl)

theorem find?_next (readers : Readers α) (bus : Bus α) (other : number ≠ k) :
    (readers.next bus number).2.find? k = readers.find? k := by
  unfold next
  cases found : readers.find? number with
  | none => rfl
  | some r => exact (find?_put (lt_length_of_find? found) _).trans (if_neg other)

end Readers

namespace Exchange

/-! ### What is published and read in a run -/

def Move.content? : Move α → Option α
  | .publish content => some content
  | _ => none

def contents (ms : List (Move α)) : List α := ms.filterMap Move.content?

/-- What is found in a move, with the number of the reader that finds it. -/
def reading? (x : Exchange α) : Move α → Option (Nat × Reading α)
  | .next number => some (number, (x.next number).1)
  | _ => none

def readings (x : Exchange α) : List (Move α) → List (Nat × Reading α)
  | [] => []
  | m :: rest => (x.reading? m).toList ++ readings (x.step m) rest

/-- The events that one of the readers hears in a run. -/
def heard (x : Exchange α) (number : Nat) (ms : List (Move α)) : List (Posted α) :=
  (x.readings ms).filterMap fun found => if found.1 = number then found.2.event? else none

/-- Takes up a reader, which gets the next number. -/
def enlist (x : Exchange α) (reader : Reader α) : Exchange α :=
  { x with readers := x.readers ++ [some reader] }

variable {x y : Exchange α} {number : Nat} {published : List α} {before after ms : List (Move α)}

theorem subscribe_eq_enlist (x : Exchange α) (last : Option Nat) :
    x.subscribe last = x.enlist (.subscribe x.bus last) := rfl

theorem contents_append (ms ns : List (Move α)) : contents (ms ++ ns) = contents ms ++ contents ns :=
  List.filterMap_append

theorem readings_append (x : Exchange α) (ms ns : List (Move α)) :
    x.readings (ms ++ ns) = x.readings ms ++ (x.run ms).readings ns := by
  induction ms generalizing x with
  | nil => rfl
  | cons m rest ih =>
    rw [List.cons_append, readings, readings, ih, List.append_assoc]
    rfl

theorem heard_append (x : Exchange α) (number : Nat) (ms ns : List (Move α)) :
    x.heard number (ms ++ ns) = x.heard number ms ++ (x.run ms).heard number ns := by
  rw [heard, readings_append, List.filterMap_append]
  rfl

theorem heard_next (x : Exchange α) (number : Nat) :
    x.heard number [.next number] = (x.next number).1.event?.toList := by
  simp only [heard, readings, reading?, Option.toList_some, List.append_nil, List.filterMap_cons, if_pos,
    List.filterMap_nil]
  cases (x.next number).1.event? <;> rfl

theorem heard_other {m : Move α} (other : m ≠ .next number) : x.heard number [m] = [] := by
  cases m with
  | next k =>
    have apart : k ≠ number := fun same => other (congrArg Move.next same)
    simp [heard, readings, reading?, apart]
  | _ => rfl

theorem heard_single {m : Move α} {e : Posted α} (member : e ∈ x.heard number [m]) :
    (x.next number).1 = .event e := by
  by_cases own : m = .next number
  · rw [own, heard_next] at member
    cases found : (x.next number).1 with
    | event f =>
      rw [found] at member
      exact congrArg Reading.event (List.mem_singleton.mp member).symm
    | _ =>
      rw [found] at member
      cases member
  · rw [heard_other own] at member
    cases member

/-- A reader stays as it is until it is read or closed. -/
theorem find?_step {m : Move α} (inside : number < x.readers.length) (other : m ≠ .next number)
    (kept : m ≠ .close number) : (x.step m).readers.find? number = x.readers.find? number := by
  cases m with
  | subscribe last =>
    exact (Readers.find?_enlist (some (.subscribe x.bus last))).trans (if_neg (Nat.ne_of_lt inside))
  | next k => exact Readers.find?_next x.readers x.bus fun same => other (congrArg Move.next same)
  | close k => exact Readers.find?_close.trans (if_neg fun same => kept (congrArg Move.close same))
  | _ => rfl

/-! ### The bus -/

theorem step_capacity (x : Exchange α) (m : Move α) : (x.step m).bus.capacity = x.bus.capacity := by
  cases m <;> rfl

theorem run_capacity (x : Exchange α) (ms : List (Move α)) : (x.run ms).bus.capacity = x.bus.capacity := by
  induction ms generalizing x with
  | nil => rfl
  | cons m rest ih => exact (ih _).trans (step_capacity x m)

theorem publish_numbered {bus : Bus α} (records : bus.Records (numbered published)) (content : α)
    (few : published.length < Bus.maxId) :
    (bus.publish content).2.Records (numbered (published ++ [content])) := by
  have next : bus.nextId = published.length + 1 := by
    rw [records.nextId, length_numbered]
    omega
  have more := Bus.publish_records records content
  rwa [next, ← numbered_concat] at more

theorem step_records (records : x.bus.Records (numbered published)) (m : Move α)
    (few : published.length + m.content?.toList.length ≤ Bus.maxId) :
    (x.step m).bus.Records (numbered (published ++ m.content?.toList)) := by
  cases m with
  | publish content => exact publish_numbered records content few
  | hold => exact (List.append_nil published).symm ▸ records.holders _
  | release => exact (List.append_nil published).symm ▸ records.holders _
  | _ => exact (List.append_nil published).symm ▸ records

theorem contents_cons (m : Move α) (rest : List (Move α)) :
    contents (m :: rest) = m.content?.toList ++ contents rest := by
  rw [contents, List.filterMap_cons]
  cases m.content? <;> rfl

theorem run_records_numbered (records : x.bus.Records (numbered published))
    (few : published.length + (contents ms).length ≤ Bus.maxId) :
    (x.run ms).bus.Records (numbered (published ++ contents ms)) := by
  induction ms generalizing x published with
  | nil => simpa [contents, run] using records
  | cons m rest ih =>
    rw [contents_cons, List.length_append] at few
    have stepped := step_records records m (by omega)
    rw [contents_cons, ← List.append_assoc]
    exact ih stepped (by rw [List.length_append]; omega)

theorem new_records_numbered {capacity : Nat} {bus : Bus α} (opened : Bus.new capacity = .opened bus)
    (few : (contents ms).length ≤ Bus.maxId) :
    (({ bus } : Exchange α).run ms).bus.Records (numbered (contents ms)) := by
  have none : ([] : List α).length + (contents ms).length ≤ Bus.maxId := by simpa using few
  exact run_records_numbered (Bus.new_records opened) none

theorem new_capacity {capacity : Nat} {bus : Bus α} (opened : Bus.new capacity = .opened bus) :
    bus.capacity = capacity ∧ 0 < capacity := by
  unfold Bus.new at opened
  split at opened
  · cases opened
  · split at opened
    · cases opened
    · rename_i positive _
      cases opened
      exact ⟨rfl, Nat.pos_of_ne_zero positive⟩

/-! ### One reader in a run -/

/-- The number of the last event that was heard, or zero. -/
def lastHeard (heard : List (Posted α)) : Nat := (heard.getLast?.map Posted.id).getD 0

/-- Reader `number` is in this session and has heard these events, of those published. -/
structure Serves (x : Exchange α) (number : Nat) (opened : Nat) (last : Option Nat) (published : List α)
    (heard : List (Posted α)) : Prop where
  records : x.bus.Records (numbered published)
  reader : ∃ r, x.readers.find? number = some r ∧
    r.Follows ⟨opened, last, lastHeard heard⟩ x.bus.capacity published
  accounts : (⟨opened, last, lastHeard heard⟩ : Session).Accounts x.bus.capacity published heard

variable {opened : Nat} {last : Option Nat} {past : List (Posted α)}

theorem Serves.next (serves : x.Serves number opened last published past) :
    (x.next number).1 =
      (⟨opened, last, lastHeard past⟩ : Session).next x.bus.capacity (numbered published) x.bus.isOpen := by
  obtain ⟨records, ⟨r, found, follows⟩, -⟩ := serves
  rw [Exchange.next, Readers.next_reading, found]
  exact (follows.next records).1

theorem Serves.read (serves : x.Serves number opened last published past) :
    (x.step (.next number)).Serves number opened last published (past ++ (x.next number).1.event?.toList) := by
  have reading := serves.next
  obtain ⟨records, ⟨r, found, follows⟩, accounts⟩ := serves
  have goesOn := (follows.next records).2
  have same : (x.next number).1 = (r.next x.bus).1 := by
    rw [Exchange.next, Readers.next_reading, found]
    rfl
  have there : (x.step (.next number)).readers.find? number = some (r.next x.bus).2 := by
    exact (Readers.find?_next_self x.readers x.bus number).trans (congrArg _ found)
  rw [← same] at goesOn
  cases found : (x.next number).1 with
  | event e =>
    have heard : lastHeard (past ++ [e]) = e.id := by simp [lastHeard]
    rw [found] at goesOn reading
    have more := accounts.hear reading.symm
    refine ⟨records, ⟨_, there, ?_⟩, ?_⟩
    · change Reader.Follows _ ⟨opened, last, lastHeard (past ++ [e])⟩ _ _
      rw [heard]
      exact goesOn
    · change Session.Accounts ⟨opened, last, lastHeard (past ++ [e])⟩ _ _ _
      rw [heard]
      exact more
  | pending =>
    rw [found] at goesOn
    exact (List.append_nil past).symm ▸ ⟨records, ⟨_, there, goesOn⟩, accounts⟩
  | closed =>
    rw [found] at goesOn
    exact (List.append_nil past).symm ▸ ⟨records, ⟨_, there, goesOn⟩, accounts⟩

/-- A reader that has just been taken up serves its session, of which nothing has been heard. -/
theorem enlist_serves {r : Reader α} (records : x.bus.Records (numbered published))
    (follows : r.Follows ⟨opened, last, 0⟩ x.bus.capacity published) :
    (x.enlist r).Serves x.readers.length opened last published [] :=
  ⟨records, ⟨r, (Readers.find?_enlist (some r)).trans (if_pos rfl), follows⟩, Session.accounts_nil opened last⟩

/-- Whatever happens, the session of a reader goes on until it is closed. -/
theorem Serves.step (serves : x.Serves number opened last published past) {m : Move α}
    (kept : m ≠ .close number) (few : published.length + m.content?.toList.length ≤ Bus.maxId) :
    (x.step m).Serves number opened last (published ++ m.content?.toList) (past ++ x.heard number [m]) := by
  by_cases own : m = .next number
  · subst own
    rw [heard_next]
    exact (List.append_nil published).symm ▸ serves.read
  · have records := step_records serves.records m few
    obtain ⟨-, ⟨r, found, follows⟩, accounts⟩ := serves
    have there := find?_step (Readers.lt_length_of_find? found) own kept
    rw [heard_other own, List.append_nil]
    refine ⟨records, ⟨r, there.trans found, ?_⟩, ?_⟩
    · exact (step_capacity x m).symm ▸ follows.publishes m.content?
    · exact (step_capacity x m).symm ▸ accounts.publishes follows.heard m.content?

theorem Serves.run (serves : x.Serves number opened last published past) (kept : .close number ∉ ms)
    (few : published.length + (contents ms).length ≤ Bus.maxId) :
    (x.run ms).Serves number opened last (published ++ contents ms) (past ++ x.heard number ms) := by
  induction ms generalizing x published past with
  | nil => simpa [contents, heard, readings, Exchange.run] using serves
  | cons m rest ih =>
    rw [contents_cons, List.length_append] at few
    have stepped := serves.step (fun same => kept (same ▸ List.mem_cons_self)) (by omega)
    have more := ih stepped (fun member => kept (List.mem_cons_of_mem m member)) (by rw [List.length_append]; omega)
    rw [contents_cons, ← List.append_assoc, ← List.singleton_append, heard_append, ← List.append_assoc]
    exact more

/-- An event that the channel has lost by now is not heard any more. -/
theorem Serves.heard_kept (serves : x.Serves number opened last published past) (kept : .close number ∉ ms)
    (few : published.length + (contents ms).length ≤ Bus.maxId) {e : Posted α} (member : e ∈ x.heard number ms) :
    e.id ≤ opened ∨ published.length < e.id + channelCapacity x.bus.capacity := by
  induction ms generalizing x published past with
  | nil => cases member
  | cons m rest ih =>
    rw [contents_cons, List.length_append] at few
    have stepped := serves.step (fun same => kept (same ▸ List.mem_cons_self)) (by omega)
    rw [← List.singleton_append, heard_append] at member
    rcases List.mem_append.mp member with now | afterwards
    · have reading := heard_single now
      rw [serves.next] at reading
      obtain ⟨known, awaited⟩ := Session.next_eq_event reading
      have inside := mem_numbered known
      obtain ⟨-, wanted⟩ := (Bool.and_eq_true _ _).mp awaited
      rcases (Bool.or_eq_true _ _).mp wanted with replayed | streamed
      · rw [Session.replays, Option.any_eq_true] at replayed
        obtain ⟨_, -, within⟩ := replayed
        exact Or.inl (of_decide_eq_true within).2
      · have live := (of_decide_eq_true streamed).2
        rw [length_numbered] at live
        omega
    · have more := ih stepped (fun member => kept (List.mem_cons_of_mem m member))
        (by rw [List.length_append]; omega) afterwards
      rw [step_capacity, List.length_append] at more
      omega

/-- An event that a reader has to hear is heard already, or no later one is found before it. -/
theorem Serves.catches (serves : x.Serves number opened last published past) {e : Posted α}
    (member : e ∈ numbered published)
    (wanted : (⟨opened, last, lastHeard past⟩ : Session).replays x.bus.capacity e.id = true ∨
      opened < e.id ∧ published.length < e.id + channelCapacity x.bus.capacity) :
    e ∈ past ∨ ∃ f, (x.next number).1 = .event f ∧ f.id ≤ e.id := by
  by_cases unheard : e ∈ past
  · exact Or.inl unheard
  · right
    have inside := mem_numbered member
    have later : lastHeard past < e.id := by
      refine Nat.lt_of_not_le fun before => ?_
      obtain ⟨unkept, lost⟩ := serves.accounts.passed e member before unheard
      rcases wanted with replayed | ⟨live, held⟩
      · rw [replayed] at unkept
        cases unkept
      · exact Nat.not_le_of_lt held (lost live)
    have awaited : (⟨opened, last, lastHeard past⟩ : Session).awaits x.bus.capacity published.length e.id = true := by
      refine (Bool.and_eq_true _ _).mpr ⟨decide_eq_true later, (Bool.or_eq_true _ _).mpr ?_⟩
      exact wanted.imp_right fun live => decide_eq_true ⟨live.1, by omega⟩
    have some : ∃ f, (x.next number).1 = .event f := by
      rw [serves.next, Session.next, length_numbered]
      cases found : (numbered published).find? fun f =>
          (⟨opened, last, lastHeard past⟩ : Session).awaits x.bus.capacity published.length f.id with
      | some f => exact ⟨f, rfl⟩
      | none => exact (List.find?_eq_none.mp found e member awaited).elim
    obtain ⟨f, reading⟩ := some
    refine ⟨f, reading, Nat.le_of_not_lt fun before => ?_⟩
    rw [serves.next] at reading
    rw [Session.next_least reading member before] at awaited
    cases awaited

/-- As long as the ring keeps an event that came after a reader was opened, the reader cannot miss it. -/
theorem Serves.catches_kept (serves : x.Serves number opened last published past) {e : Posted α}
    (kept : e ∈ x.bus.ring) (live : opened < e.id) :
    e ∈ past ∨ ∃ f, (x.next number).1 = .event f ∧ f.id ≤ e.id := by
  obtain ⟨known, newest⟩ := serves.records.mem_ring.mp kept
  have wide := (channelCapacity_least x.bus.capacity).1
  have some := channelCapacity_pos x.bus.capacity
  have inside := mem_numbered known
  exact serves.catches known (Or.inr ⟨live, by omega⟩)

/-- Some readers are opened, read and closed, and things are published. A reader opened in between, and
not closed, always finds next what its session says: the least of the events behind the one it has heard
last that either came before it, were kept, and have been asked for, or came after it and are still in
the channel. So it hears some of the events published, in their order and each one once, and what it
misses of those that came after it is what the channel has lost before it was read. -/
theorem run_yields_next {capacity : Nat} {bus : Bus α} (new : Bus.new capacity = .opened bus)
    (before after : List (Move α)) (last : Option Nat)
    (kept : .close (({ bus } : Exchange α).run before).readers.length ∉ after)
    (few : (contents (before ++ after)).length ≤ Bus.maxId) :
    let x := (({ bus } : Exchange α).run before).subscribe last
    let number := (({ bus } : Exchange α).run before).readers.length
    let y := x.run after
    let heard := x.heard number after
    let past := numbered (contents (before ++ after))
    let t : Session := ⟨(contents before).length, last, lastHeard heard⟩
    (capacity ≤ channelCapacity capacity ∧ (channelCapacity capacity).isPowerOfTwo ∧
      ∀ p : Nat, p.isPowerOfTwo → capacity ≤ p → channelCapacity capacity ≤ p) ∧
    (y.next number).1 = t.next capacity past y.bus.isOpen ∧
    ((∀ e ∈ heard, e ∈ past) ∧ heard.Pairwise fun e f => e.id < f.id) ∧
    (∀ e ∈ past, e.id ≤ t.heard → e ∉ heard → t.replays capacity e.id = false ∧
      (t.opened < e.id → e.id + channelCapacity capacity ≤ past.length)) ∧
    ∀ e ∈ past, t.opened < e.id → e.id + channelCapacity capacity ≤ past.length →
      ∀ later, .close number ∉ later → (contents (before ++ after ++ later)).length ≤ Bus.maxId →
        e ∉ y.heard number later := by
  intro x number y heard past t
  have total : (contents before).length + (contents after).length ≤ Bus.maxId := by
    rwa [← List.length_append, ← contents_append]
  have width : x.bus.capacity = capacity := (run_capacity _ before).trans (new_capacity new).1
  have records : x.bus.Records (numbered (contents before)) := new_records_numbered new (by omega)
  have positive : 0 < x.bus.capacity := width.symm ▸ (new_capacity new).2
  have first : x.Serves number (contents before).length last (contents before) [] :=
    enlist_serves records (Reader.subscribe_follows records positive last)
  have serves : y.Serves number (contents before).length last (contents (before ++ after)) heard := by
    rw [contents_append]
    exact first.run kept total
  have same : y.bus.capacity = capacity := (run_capacity x after).trans width
  have next := serves.next
  have accounts := serves.accounts
  rw [same] at next accounts
  have length : past.length = (contents (before ++ after)).length := length_numbered _
  refine ⟨channelCapacity_least capacity, next, ⟨accounts.known, accounts.ascending⟩, ?_, ?_⟩
  · rw [length]
    exact accounts.passed
  · intro e _ live lost later unclosed enough member
    rw [contents_append (before ++ after), List.length_append] at enough
    have hears := serves.heard_kept unclosed enough member
    rw [same] at hears
    change (contents before).length < e.id at live
    omega

end Exchange

namespace Samples

def fourEvents : List (Exchange.Move Char) :=
  [.publish 'a', .publish 'b', .publish 'c', .publish 'd']

/-- One event is read before six more are published, two afterwards. -/
def fallingBehind : List (Exchange.Move Char) :=
  [.next 0, .publish 'e', .publish 'f', .publish 'g', .publish 'h', .publish 'i', .publish 'j', .next 0, .next 0]

end Samples

namespace Exchange

/-- The reader still has `d` from the ring of three; the channel of four has lost `e` and `f` meanwhile. -/
theorem reader_falls_behind :
    let y := ((({ bus := { capacity := 3 } } : Exchange Char).run Samples.fourEvents).subscribe (some 0)).run
      Samples.fallingBehind
    (y.next 0).1 = .event ⟨7, 'g'⟩ ∧ ⟨5, 'e'⟩ ∉ y.heard 0 [.next 0, .publish 'k', .next 0] := by
  obtain ⟨-, next, -, -, lost⟩ := @run_yields_next Char 3 { capacity := 3 } rfl Samples.fourEvents
    Samples.fallingBehind (some 0) (by decide) (by decide)
  refine ⟨next.trans (by decide), lost _ (by decide) (by decide) (by decide) _ (by decide) (by decide)⟩

end Exchange

end TorrentAdmission
