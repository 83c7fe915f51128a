import TorrentAdmission.Proofs.Bus.Continuity
import TorrentAdmission.Proofs.Desk.Apart
import TorrentAdmission.Proofs.Desk.Ending
import TorrentAdmission.Proofs.Desk.Holders

/-!
# The audience of a desk

Readers on the bus of a desk, while submissions are handed in and resolved there and others publish on the
same bus. A reader that keeps up hears of every submission that comes in after it was opened, and is at its
end when nobody keeps the bus open any more and it has heard all: `run_streams_to_the_end`.
-/

namespace TorrentAdmission

/-! ### What a reader overhears -/

theorem Desk.edit_eventsOf {d : Desk} {k : Nat} {s : Submission} (found : d.submissions[k]? = some s) (i : Nat)
    (e : Edit) : (d.edit k e).eventsOf i = d.eventsOf i ++
      match e with
      | .announce event => if k = i then [⟨d.bus.nextId, event⟩] else []
      | _ => [] := by
  rw [eventsOf, edit_history found, List.filterMap_append, ← eventsOf]
  cases e with
  | count what => cases metered : s.resolver.metered <;> simp [Edit.facts]
  | announce event =>
    cases metered : s.resolver.metered <;> by_cases own : k = i <;> simp [Edit.facts, own]
  | _ => simp [Edit.facts]

namespace Desk

variable {d e : Desk} {readers : Readers Event} {number opened first : Nat} {last : Option Nat}
  {published : List Event} {heard : List (Posted Event)}

/-- Reader `number` has heard all there is from its start on, and what is announced of the submissions from
number `first` on came after it was opened. -/
structure Overheard (d : Desk) (readers : Readers Event) (number opened : Nat) (last : Option Nat) (first : Nat)
    (heard : List (Posted Event)) (published : List Event) : Prop where
  attends : (⟨d.bus, readers⟩ : Exchange Event).Attends number opened last published heard
  announced : ∀ i, first ≤ i → (d.eventsOf i).Sublist ((numbered published).drop opened)

theorem Overheard.holders (overheard : d.Overheard readers number opened last first heard published)
    (bus : ∃ holders, e.bus = { d.bus with holders }) (events : ∀ i, e.eventsOf i = d.eventsOf i) :
    e.Overheard readers number opened last first heard published := by
  obtain ⟨holders, same⟩ := bus
  obtain ⟨⟨⟨records, reader, accounts⟩, unbroken⟩, announced⟩ := overheard
  refine ⟨?_, fun i later => events i ▸ announced i later⟩
  rw [same]
  exact ⟨⟨records.holders holders, reader, accounts⟩, unbroken⟩

theorem Overheard.publish (overheard : d.Overheard readers number opened last first heard published)
    (event : Event) (few : published.length < Bus.maxId) (bus : e.bus = (d.bus.publish event).2)
    (events : ∀ i, e.eventsOf i = d.eventsOf i ∨ e.eventsOf i = d.eventsOf i ++ [⟨d.bus.nextId, event⟩]) :
    e.Overheard readers number opened last first heard (published ++ [event]) := by
  obtain ⟨attends, announced⟩ := overheard
  have more := attends.other (m := .publish event) (by simp) (by simp) few
  have inside := attends.serves.opened_le
  rw [← length_numbered] at inside
  have id : d.bus.nextId = published.length + 1 := by
    rw [attends.serves.records.nextId, length_numbered]
    omega
  refine ⟨?_, fun i later => ?_⟩
  · rw [bus]
    exact more
  · rw [numbered_concat, List.drop_append_of_le_length inside, ← id]
    rcases events i with same | added
    · rw [same]
      exact (announced i later).trans (List.sublist_append_left _ _)
    · rw [added]
      exact (announced i later).append (List.Sublist.refl _)

/-- As long as the numbers last. -/
def Overhears (readers : Readers Event) (number opened : Nat) (last : Option Nat) (first : Nat)
    (heard : List (Posted Event)) (d : Desk) : Prop :=
  d.bus.sent ≤ Bus.maxId → ∃ published, d.Overheard readers number opened last first heard published

theorem edit_bus (d : Desk) (k : Nat) (x : Edit) :
    (∃ event, x = .announce event ∧ (d.edit k x).bus = (d.bus.publish event).2) ∨
      (∀ event, x ≠ .announce event) ∧ ∃ holders, (d.edit k x).bus = { d.bus with holders } := by
  cases x with
  | announce event => exact Or.inl ⟨event, rfl, count_bus _ k _⟩
  | count what => exact Or.inr ⟨by simp, _, count_bus d k what⟩
  | wake => exact Or.inr ⟨by simp, _, wake_bus d k⟩
  | cancel n => exact Or.inr ⟨by simp, _, cancelHeld_bus d n⟩
  | _ => exact Or.inr ⟨by simp, _, rfl⟩

theorem edit_overhears (d : Desk) (k : Nat) (s : Submission) (x : Edit) (found : d.submissions[k]? = some s)
    (overhears : d.Overhears readers number opened last first heard) :
    (d.edit k x).Overhears readers number opened last first heard := by
  have events := fun i => edit_eventsOf found i x
  intro few
  rcases d.edit_bus k x with ⟨event, rfl, bus⟩ | ⟨quiet, holders, bus⟩
  · rw [bus] at few
    change d.bus.sent + 1 ≤ Bus.maxId at few
    obtain ⟨published, overheard⟩ := overhears (by omega)
    have sent := overheard.attends.serves.records.published
    dsimp only at sent
    -- the event goes to the reader whosever it is, and to the events of `k` alone
    refine ⟨published ++ [event], overheard.publish event (by omega) bus fun i => ?_⟩
    rw [events i]
    by_cases own : k = i
    · exact Or.inr (by simp [own])
    · exact Or.inl (by simp [own])
  · rw [bus] at few
    obtain ⟨published, overheard⟩ := overhears few
    refine ⟨published, overheard.holders ⟨holders, bus⟩ fun i => (events i).trans ?_⟩
    cases x with
    | announce event => exact (quiet event rfl).elim
    | _ => exact List.append_nil _

/-- The bus, which has this capacity, keeps the newest of what was published on it, by whomever. -/
def Sends (capacity : Nat) (d : Desk) : Prop :=
  d.bus.capacity = capacity ∧ ∃ past, d.bus.Records past

theorem edit_sends {capacity : Nat} (d : Desk) (k : Nat) (s : Submission) (x : Edit)
    (_ : d.submissions[k]? = some s) (sends : d.Sends capacity) : (d.edit k x).Sends capacity := by
  obtain ⟨width, past, records⟩ := sends
  rcases d.edit_bus k x with ⟨event, -, bus⟩ | ⟨-, holders, bus⟩
  · rw [Sends, bus]
    exact ⟨width, _, Bus.publish_records records event⟩
  · rw [Sends, bus]
    exact ⟨width, _, records.holders holders⟩

theorem rearranged_sends {capacity : Nat} (d e : Desk) (r : Rearranged d e) (sends : d.Sends capacity) :
    e.Sends capacity := by
  obtain ⟨width, past, records⟩ := sends
  obtain ⟨holders, bus⟩ := r.bus
  rw [Sends, bus]
  exact ⟨width, _, records.holders holders⟩

theorem rearranged_overhears (d e : Desk) (r : Rearranged d e)
    (overhears : d.Overhears readers number opened last first heard) :
    e.Overhears readers number opened last first heard := by
  obtain ⟨holders, bus⟩ := r.bus
  intro few
  rw [bus] at few
  obtain ⟨published, overheard⟩ := overhears few
  have silent : ∀ i, e.eventsOf i = d.eventsOf i := fun i => by rw [eventsOf, eventsOf, history, history, r.journal]
  exact ⟨published, overheard.holders ⟨holders, bus⟩ silent⟩

/-- These events tell of each submission that came in as number `first` or later: its acceptance, and behind
it the one end that was announced, which is as its owner hears. None of them comes twice. -/
structure Tells (d : Desk) (first : Nat) (heard : List (Posted Event)) : Prop where
  ascending : heard.Pairwise fun e f => e.id < f.id
  ends : ∀ i s, first ≤ i → d.submissions[i]? = some s →
    ∃ o accepted ended, d.outcome? i = some o ∧ d.eventsOf i = [accepted, ended] ∧
      accepted.content = s.acceptance ∧ ended.content = o.event s.id ∧ [accepted, ended].Sublist heard

end Desk

/-- A desk and the readers that were opened on its bus. -/
structure Hall where
  desk : Desk
  readers : Readers Event := []

/-- What happens in a hall: a move at the desk, something that somebody outside publishes on the bus, or a
reader that is opened, read or closed. -/
inductive Hall.Move where
  | desk (move : TorrentAdmission.Move)
  | publish (event : Event)
  | subscribe (last : Option Nat)
  | next (reader : Nat)
  | close (reader : Nat)

namespace Hall

def new (bus : Bus Event) : Hall := { desk := .new bus }

def exchange (h : Hall) : Exchange Event := ⟨h.desk.bus, h.readers⟩

/-- What happens at the bus and leaves the rest of the desk alone. -/
def aside (h : Hall) (m : Exchange.Move Event) : Hall :=
  ⟨{ h.desk with bus := (h.exchange.step m).bus }, (h.exchange.step m).readers⟩

/-- Nobody publishes from outside unless somebody is there. -/
def step (h : Hall) : Move → Hall
  | .desk move => { h with desk := h.desk.step move }
  | .publish event => if h.desk.outside = 0 then h else h.aside (.publish event)
  | .subscribe last => h.aside (.subscribe last)
  | .next reader => h.aside (.next reader)
  | .close reader => h.aside (.close reader)

def run (h : Hall) : List Move → Hall
  | [] => h
  | m :: rest => run (h.step m) rest

def hears (h : Hall) (number : Nat) : Move → List (Posted Event)
  | .next reader => h.exchange.heard number [.next reader]
  | _ => []

/-- The events that one of the readers hears in a run. -/
def heard (h : Hall) (number : Nat) : List Move → List (Posted Event)
  | [] => []
  | m :: rest => h.hears number m ++ heard (h.step m) number rest

variable {h : Hall} {number opened first : Nat} {last : Option Nat} {published : List Event}
  {past : List (Posted Event)} {ms : List Move}

theorem run_append (h : Hall) (ms ns : List Move) : h.run (ms ++ ns) = (h.run ms).run ns := by
  induction ms generalizing h with
  | nil => rfl
  | cons m rest ih => exact ih (h.step m)

/-! ### The desk -/

def Move.desk? : Move → Option TorrentAdmission.Move
  | .desk move => some move
  | _ => none

theorem aside_alike {d : Desk} (alike : Desk.Alike (fun _ => true) h.desk d) (m : Exchange.Move Event) :
    Desk.Alike (fun _ => true) (h.aside m).desk d :=
  ⟨alike.surroundings, alike.length, alike.records, alike.chronicles, alike.awake⟩

/-- What is published from outside, and who reads, makes no difference to the submissions. -/
theorem run_desk_alike {d : Desk} (alike : Desk.Alike (fun _ => true) h.desk d) (ms : List Move) :
    Desk.Alike (fun _ => true) (h.run ms).desk (d.run (ms.filterMap Move.desk?)) := by
  induction ms generalizing h d with
  | nil => exact alike
  | cons m rest ih =>
    cases m with
    | desk move => exact ih (Desk.step_alike alike (by cases move <;> rfl))
    | publish event =>
      refine ih ?_
      simp only [step]
      split
      · exact alike
      · exact aside_alike alike _
    | subscribe last => exact ih (aside_alike alike _)
    | next reader => exact ih (aside_alike alike _)
    | close reader => exact ih (aside_alike alike _)

theorem run_sound (bus : Bus Event) (ms : List Move) (i : Nat) (s : Submission)
    (found : ((new bus).run ms).desk.submissions[i]? = some s) :
    (Dossier.mk s (((new bus).run ms).desk.chronicle i)).Sound := by
  have alike := run_desk_alike (h := new bus) (Desk.Alike.refl (Desk.new bus)) ms
  rw [alike.records i rfl] at found
  rw [alike.chronicles i rfl]
  exact Desk.run_submissions_sound bus _ i s found

/-! ### The bus -/

theorem run_sends {capacity : Nat} (sends : h.desk.Sends capacity) (ms : List Move) :
    (h.run ms).desk.Sends capacity := by
  induction ms generalizing h with
  | nil => exact sends
  | cons m rest ih =>
    refine ih ?_
    cases m with
    | desk move => exact Desk.step_invariant Desk.edit_sends Desk.rearranged_sends h.desk move sends
    | publish event =>
      simp only [step]
      split
      · exact sends
      · obtain ⟨width, past, records⟩ := sends
        exact ⟨width, _, Bus.publish_records records event⟩
    | subscribe last => exact sends
    | next reader => exact sends
    | close reader => exact sends

theorem run_tended (tended : h.desk.Tended) (ms : List Move) : (h.run ms).desk.Tended := by
  induction ms generalizing h with
  | nil => exact tended
  | cons m rest ih =>
    refine ih ?_
    cases m with
    | desk move => exact Desk.step_tended tended move
    | publish event =>
      simp only [step]
      split <;> exact tended
    | subscribe last => exact tended
    | next reader => exact tended
    | close reader => exact tended

/-! ### What a reader overhears -/

/-- Reader `number`, which was opened when there were `opened` events and has heard those of `past`, is at
no point of this run behind by more events than the channel holds. -/
def KeepsUp (h : Hall) (number opened : Nat) (past : List (Posted Event)) (ms : List Move) : Prop :=
  ∀ n ≤ ms.length, (h.run (ms.take n)).desk.bus.sent ≤
    max opened (Exchange.lastHeard (past ++ h.heard number (ms.take n))) +
      channelCapacity (h.run (ms.take n)).desk.bus.capacity

instance (h : Hall) (number opened : Nat) (past : List (Posted Event)) (ms : List Move) :
    Decidable (h.KeepsUp number opened past ms) :=
  inferInstanceAs (Decidable (∀ n ≤ ms.length, _))

theorem KeepsUp.at_first (keeps : h.KeepsUp number opened past ms) :
    h.desk.bus.sent ≤
      max opened (Exchange.lastHeard past) + channelCapacity h.desk.bus.capacity := by
  have now := keeps 0 (Nat.zero_le _)
  rwa [List.take_zero, heard, List.append_nil] at now

theorem KeepsUp.after {m : Move} (keeps : h.KeepsUp number opened past (m :: ms)) :
    (h.step m).KeepsUp number opened (past ++ h.hears number m) ms := by
  intro n within
  have later := keeps (n + 1) (Nat.succ_le_succ within)
  rwa [List.take_succ_cons, heard, ← List.append_assoc] at later

theorem KeepsUp.at_last (keeps : h.KeepsUp number opened past ms) :
    (h.run ms).desk.bus.sent ≤ max opened (Exchange.lastHeard (past ++ h.heard number ms)) +
      channelCapacity (h.run ms).desk.bus.capacity := by
  have final := keeps ms.length (Nat.le_refl _)
  rwa [List.take_length] at final

theorem aside_overhears {m : Exchange.Move Event} (kept : m ≠ .close number)
    (pace : h.desk.bus.sent ≤ max opened (Exchange.lastHeard past) + channelCapacity h.desk.bus.capacity)
    (overhears : h.desk.Overhears h.readers number opened last first past) :
    (h.aside m).desk.Overhears (h.aside m).readers number opened last first
      (past ++ h.exchange.heard number [m]) := by
  intro few
  have sent : (h.aside m).desk.bus.sent = h.desk.bus.sent + m.content?.toList.length :=
    Exchange.step_sent h.exchange m
  rw [sent] at few
  obtain ⟨published, attends, announced⟩ := overhears (by omega)
  rw [attends.serves.records.published] at few pace
  refine ⟨published ++ m.content?.toList, attends.step kept few pace, fun i later => ?_⟩
  have inside := attends.serves.opened_le
  exact (announced i later).trans (drop_numbered_append inside _)

theorem step_overhears {m : Move} (kept : m ≠ .close number)
    (pace : h.desk.bus.sent ≤ max opened (Exchange.lastHeard past) + channelCapacity h.desk.bus.capacity)
    (overhears : h.desk.Overhears h.readers number opened last first past) :
    (h.step m).desk.Overhears (h.step m).readers number opened last first (past ++ h.hears number m) := by
  have silent : ∀ a : Exchange.Move Event, a ≠ .next number → a ≠ .close number →
      (h.aside a).desk.Overhears (h.aside a).readers number opened last first (past ++ []) := by
    intro a unread unclosed
    have stepped := aside_overhears unclosed pace overhears
    rwa [Exchange.heard_other unread] at stepped
  cases m with
  | desk move =>
    rw [show past ++ h.hears number (.desk move) = past from List.append_nil past]
    exact Desk.step_invariant Desk.edit_overhears Desk.rearranged_overhears h.desk move overhears
  | publish event =>
    simp only [step]
    split
    · rw [show past ++ h.hears number (.publish event) = past from List.append_nil past]
      exact overhears
    · exact silent _ (by simp) (by simp)
  | subscribe last => exact silent _ (by simp) (by simp)
  | next reader => exact aside_overhears (by simp) pace overhears
  | close reader => exact silent _ (by simp) fun same => kept (by cases same; rfl)

/-- A reader that keeps up hears all that is announced of the submissions that come in after it. -/
theorem run_overhears (kept : .close number ∉ ms) (keeps : h.KeepsUp number opened past ms)
    (overhears : h.desk.Overhears h.readers number opened last first past) :
    (h.run ms).desk.Overhears (h.run ms).readers number opened last first (past ++ h.heard number ms) := by
  induction ms generalizing h past with
  | nil => exact (List.append_nil past).symm ▸ overhears
  | cons m rest ih =>
    have stepped := step_overhears (fun same => kept (same ▸ List.mem_cons_self)) keeps.at_first overhears
    have more := ih (fun member => kept (List.mem_cons_of_mem m member)) keeps.after stepped
    rw [List.append_assoc] at more
    exact more

/-! ### The end of a stream -/

/-- What is announced of a submission is announced when it has come in. -/
theorem run_eventsOf_nil (bus : Bus Event) (ms : List Move) {i : Nat}
    (new : ((Hall.new bus).run ms).desk.submissions.length ≤ i) :
    ((Hall.new bus).run ms).desk.eventsOf i = [] := by
  have alike := run_desk_alike (h := Hall.new bus) (Desk.Alike.refl (Desk.new bus)) ms
  rw [alike.length] at new
  rw [← List.map_eq_nil_iff (f := Posted.content), Desk.eventsOf_contents, alike.chronicles i rfl,
    (Desk.run_grounded bus _).chronicle_eq_nil new, List.filterMap_nil]

/-- A reader is opened before anything is announced of the submissions that come in after it. -/
theorem subscribe_overhears {capacity : Nat} {bus : Bus Event} {ms : List Move}
    (sends : ((new bus).run ms).desk.Sends capacity) (positive : 0 < capacity) (last : Option Nat) :
    let h := (new bus).run ms
    (h.step (.subscribe last)).desk.Overhears (h.step (.subscribe last)).readers h.readers.length
      h.desk.bus.sent last h.desk.submissions.length [] := by
  intro h few
  obtain ⟨width, past, records⟩ := sends
  have numbers := records.eq_numbered few
  rw [numbers] at records
  have sent := records.published
  refine ⟨past.map Posted.content, ?_, fun i later => ?_⟩
  · rw [sent]
    exact Exchange.enlist_attends (x := h.exchange) records
      (Reader.subscribe_follows records (width.symm ▸ positive) last)
  · have none : (h.step (.subscribe last)).desk.eventsOf i = [] := run_eventsOf_nil bus ms later
    rw [none]
    exact List.nil_sublist _

theorem run_reads (h : Hall) (number n : Nat) :
    let reads := List.replicate n (Move.next number)
    let aside := List.replicate n (Exchange.Move.next number)
    (h.run reads).desk = h.desk ∧ (h.run reads).exchange = h.exchange.run aside ∧
      h.heard number reads = h.exchange.heard number aside := by
  induction n generalizing h with
  | zero => exact ⟨rfl, rfl, rfl⟩
  | succ n ih =>
    obtain ⟨desk, exchange, heard⟩ := ih (h.step (.next number))
    dsimp only
    rw [List.replicate_succ, List.replicate_succ]
    refine ⟨desk, exchange, ?_⟩
    rw [Hall.heard, heard, ← List.singleton_append, Exchange.heard_append]
    rfl

/-- Whoever has heard all that was published from a reader's start on has heard of the end of each submission
that came in after the reader was opened, once they have all ended. -/
theorem tells_of_all {bus : Bus Event} {ms : List Move} {start : Nat}
    (finished : ∀ s ∈ ((new bus).run ms).desk.submissions, s.task.isFinished = true)
    (announced : ∀ i, first ≤ i →
      (((new bus).run ms).desk.eventsOf i).Sublist ((numbered published).drop opened))
    (earlier : start ≤ opened) : ((new bus).run ms).desk.Tells first ((numbered published).drop start) := by
  refine ⟨(numbered_ascending published).sublist (List.drop_sublist _ _), fun i s later found => ?_⟩
  have sound := run_sound bus ms i s found
  have ended := finished s (List.mem_of_getElem? found)
  rw [Task.isFinished_eq, Option.isSome_iff_exists] at ended
  obtain ⟨o, told⟩ := ended
  have contents := Desk.eventsOf_eq_events sound
  rw [told] at contents
  obtain ⟨accepted, rest, events, acceptance, more⟩ := List.map_eq_cons_iff.mp contents
  obtain ⟨final, rfl, ending⟩ := List.map_eq_singleton_iff.mp more
  refine ⟨o, accepted, final, (Desk.outcome?_of_found found).trans told, events, acceptance, ending, ?_⟩
  have heard := announced i later
  have split : (numbered published).drop opened = ((numbered published).drop start).drop (opened - start) := by
    rw [List.drop_drop, Nat.add_sub_cancel' earlier]
  rw [events, split] at heard
  exact heard.trans (List.drop_sublist _ _)

/-- Submissions are handed in and resolved at a desk, dropped, cancelled, or torn down, their owners and
everybody else outside come and go in any order, and others publish on its bus. A reader is opened, and is
never behind by more than the channel holds. When it comes to its end, nobody is left outside and every task
is finished, and it has heard of each submission that came in after it was opened: its acceptance and, later,
its end. And once nobody is left outside and every task is finished it does come to its end, if only it is
read. -/
theorem run_streams_to_the_end {capacity : Nat} {bus : Bus Event} (opens : Bus.new capacity = .opened bus)
    (before after : List Move) (last : Option Nat)
    (kept : .close ((new bus).run before).readers.length ∉ after)
    (few : ((((new bus).run before).step (.subscribe last)).run after).desk.bus.sent ≤ Bus.maxId)
    (keeps : (((new bus).run before).step (.subscribe last)).KeepsUp ((new bus).run before).readers.length
      ((new bus).run before).desk.bus.sent [] after) :
    let start := (new bus).run before
    let number := start.readers.length
    let g := (start.step (.subscribe last)).run after
    let heard := (start.step (.subscribe last)).heard number after
    let deserted := g.desk.outside = 0 ∧ ∀ s ∈ g.desk.submissions, s.task.isFinished = true
    ((g.exchange.next number).1 = .closed → deserted ∧ g.desk.Tells start.desk.submissions.length heard) ∧
      (deserted → ∃ n,
        let reads := List.replicate n (.next number)
        ((g.run reads).exchange.next number).1 = .closed ∧
          (g.run reads).desk.Tells start.desk.submissions.length (heard ++ g.heard number reads)) := by
  intro start number g heard deserted
  have whole : g = (new bus).run (before ++ .subscribe last :: after) :=
    (run_append (new bus) before (.subscribe last :: after)).symm
  have sends : start.desk.Sends capacity :=
    run_sends ⟨(Exchange.new_capacity opens).1, [], Bus.new_records opens⟩ before
  have tended : g.desk.Tended := by
    rw [whole]
    exact run_tended (Desk.new_tended opens) _
  have overhears : g.desk.Overhears g.readers number start.desk.bus.sent last start.desk.submissions.length heard :=
    run_overhears kept keeps (subscribe_overhears sends (Exchange.new_capacity opens).2 last)
  obtain ⟨published, overheard, announced⟩ := overhears few
  have attends : g.exchange.Attends number start.desk.bus.sent last published heard := overheard
  have pace : published.length ≤
      max start.desk.bus.sent (Exchange.lastHeard heard) + channelCapacity g.exchange.bus.capacity := by
    rw [← attends.serves.records.published]
    exact keeps.at_last
  let origin := (⟨start.desk.bus.sent, last, 0⟩ : Session).origin g.exchange.bus.capacity
  have all : deserted → g.desk.Tells start.desk.submissions.length ((numbered published).drop origin) := by
    intro left
    have earlier : origin ≤ start.desk.bus.sent := Session.origin_le ⟨_, last, 0⟩ _
    have shut := left.2
    rw [whole] at announced shut ⊢
    exact tells_of_all shut announced earlier
  -- the end that the reader finds shows that it has heard all; where all are gone, reading on leads to it
  refine ⟨fun closed => ?_, fun left => ?_⟩
  · obtain ⟨shut, heardAll⟩ := attends.closed pace closed
    have left := tended.isOpen.mp shut
    rw [heardAll]
    exact ⟨left, all left⟩
  · obtain ⟨-, heardAll, ends⟩ := attends.reads pace published.length (by omega)
    obtain ⟨desk, exchange, heard⟩ := run_reads g number published.length
    have shut : g.exchange.bus.isOpen = false := tended.isOpen.mpr left
    refine ⟨published.length, ?_, ?_⟩
    · rw [exchange]
      exact ends.trans (by rw [shut]; rfl)
    · rw [desk, heard]
      exact heardAll ▸ all left

end Hall

namespace Samples

/-- A download that is refused when nobody is left outside. The reader hears of it all. -/
def refusedDownload : List Hall.Move :=
  [.desk (.submit refusing (.ofNat 1) ⟨directUrl, ""⟩), .next 0, .desk .letGo, .desk (.poll 0), .next 0]

end Samples

namespace Hall

theorem refused_download_heard :
    let h := (new { capacity := 2 }).step (.subscribe none)
    (h.run Samples.refusedDownload).desk.Tells 0 (h.heard 0 Samples.refusedDownload) := by
  obtain ⟨closed, -⟩ := @run_streams_to_the_end 2 { capacity := 2 } rfl [] Samples.refusedDownload none
    (by simp [Samples.refusedDownload]) (by decide) (by decide)
  exact (closed rfl).2

end Hall

end TorrentAdmission
