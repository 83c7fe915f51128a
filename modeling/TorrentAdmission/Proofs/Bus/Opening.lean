import TorrentAdmission.Proofs.Bus.Streams

/-!
# Opening a reader in two steps

A reader takes its place in the channel first, and copies what it wants from the ring afterwards; others
may publish in between. Nobody can tell such a reader from one that is opened at once:
`run_subscribes_at_once`.
-/

namespace TorrentAdmission

namespace Exchange

variable {α : Type} {x y : Exchange α} {number : Nat} {published : List α} {ms : List (Move α)}

/-- The exchanges differ at most in one reader, which is in the same session in both unless it is closed. -/
structure Matches (x y : Exchange α) (number : Nat) (published : List α) : Prop where
  bus : x.bus = y.bus
  records : x.bus.Records (numbered published)
  length : x.readers.length = y.readers.length
  inside : number < x.readers.length
  others : ∀ k, k ≠ number → x.readers.find? k = y.readers.find? k
  own : x.readers.find? number = none ∧ y.readers.find? number = none ∨
    ∃ r s t, x.readers.find? number = some r ∧ y.readers.find? number = some s ∧
      r.Follows t x.bus.capacity published ∧ s.Follows t x.bus.capacity published

theorem step_bus (same : x.bus = y.bus) (m : Move α) : (x.step m).bus = (y.step m).bus := by
  cases m with
  | publish content => exact congrArg (fun bus => (bus.publish content).2) same
  | hold => exact congrArg Bus.hold same
  | release => exact congrArg Bus.release same
  | _ => exact same

theorem step_length (same : x.readers.length = y.readers.length) (m : Move α) :
    (x.step m).readers.length = (y.step m).readers.length := by
  cases m with
  | subscribe last => simp [step, subscribe, Readers.subscribe, same]
  | next k => exact (Readers.length_next ..).trans (same.trans (Readers.length_next ..).symm)
  | close k => simp [step, close, Readers.close, same]
  | _ => exact same

theorem length_le_step (x : Exchange α) (m : Move α) : x.readers.length ≤ (x.step m).readers.length := by
  cases m with
  | subscribe last => simp [step, subscribe, Readers.subscribe]
  | next k => exact Nat.le_of_eq (Readers.length_next ..).symm
  | close k => simp [step, close, Readers.close]
  | _ => exact Nat.le_refl _

/-- What becomes of a reader depends on the bus and on the reader alone. -/
theorem step_find? (bus : x.bus = y.bus) (length : x.readers.length = y.readers.length) {k : Nat}
    (same : x.readers.find? k = y.readers.find? k) (m : Move α) :
    (x.step m).readers.find? k = (y.step m).readers.find? k := by
  cases m with
  | subscribe last =>
    refine (Readers.find?_enlist _).trans (Eq.trans ?_ (Readers.find?_enlist _).symm)
    rw [length, same, bus]
  | next j =>
    by_cases own : j = k
    · subst own
      refine (Readers.find?_next_self ..).trans (Eq.trans ?_ (Readers.find?_next_self ..).symm)
      rw [same, bus]
    · exact (Readers.find?_next _ _ own).trans (same.trans (Readers.find?_next _ _ own).symm)
  | close j =>
    refine Readers.find?_close.trans (Eq.trans ?_ Readers.find?_close.symm)
    rw [same]
  | _ => exact same

theorem stays_closed (inside : number < x.readers.length) (closed : x.readers.find? number = none) (m : Move α) :
    (x.step m).readers.find? number = none := by
  by_cases reading : m = .next number
  · subst reading
    exact (Readers.find?_next_self ..).trans (congrArg _ closed)
  · by_cases closing : m = .close number
    · subst closing
      exact Readers.find?_close.trans (if_pos rfl)
    · exact (find?_step inside reading closing).trans closed

theorem Matches.next (sides : x.Matches y number published) (k : Nat) : (x.next k).1 = (y.next k).1 := by
  obtain ⟨bus, records, -, -, others, own⟩ := sides
  rw [Exchange.next, Exchange.next, Readers.next_reading, Readers.next_reading, ← bus]
  by_cases same : k = number
  · subst same
    rcases own with ⟨left, right⟩ | ⟨r, s, t, left, right, follows, copies⟩
    · rw [left, right]
    · have first := (follows.next records).1
      have second := (copies.next records).1
      rw [left, right]
      exact first.trans second.symm
  · rw [others k same]

theorem Matches.reading? (sides : x.Matches y number published) (m : Move α) : x.reading? m = y.reading? m := by
  cases m with
  | next k => exact congrArg (fun reading => some (k, reading)) (sides.next k)
  | _ => rfl

theorem Matches.step (sides : x.Matches y number published) (m : Move α)
    (few : published.length + m.content?.toList.length ≤ Bus.maxId) :
    (x.step m).Matches (y.step m) number (published ++ m.content?.toList) := by
  obtain ⟨bus, records, length, inside, others, own⟩ := sides
  refine ⟨step_bus bus m, step_records records m few, step_length length m,
    Nat.lt_of_lt_of_le inside (length_le_step x m), fun k other => step_find? bus length (others k other) m, ?_⟩
  rcases own with ⟨left, right⟩ | ⟨r, s, t, left, right, follows, copies⟩
  · exact Or.inl ⟨stays_closed inside left m, stays_closed (length ▸ inside) right m⟩
  · by_cases reading : m = .next number
    · subst reading
      obtain ⟨first, goesOn⟩ := follows.next records
      obtain ⟨second, keepsOn⟩ := copies.next records
      have same : (s.next x.bus).1 = (r.next x.bus).1 := second.trans first.symm
      rw [same] at keepsOn
      refine Or.inr ⟨(r.next x.bus).2, (s.next x.bus).2, t.hear (r.next x.bus).1, ?_, ?_, ?_, ?_⟩
      · exact (Readers.find?_next_self ..).trans (congrArg _ left)
      · exact (Readers.find?_next_self ..).trans (by rw [right, ← bus, Option.map_some])
      · exact (List.append_nil published).symm ▸ goesOn
      · exact (List.append_nil published).symm ▸ keepsOn
    · by_cases closing : m = .close number
      · subst closing
        exact Or.inl ⟨Readers.find?_close.trans (if_pos rfl), Readers.find?_close.trans (if_pos rfl)⟩
      · refine Or.inr ⟨r, s, t, ?_, ?_, ?_, ?_⟩
        · exact (find?_step inside reading closing).trans left
        · exact (find?_step (length ▸ inside) reading closing).trans right
        · exact (step_capacity x m).symm ▸ follows.publishes m.content?
        · exact (step_capacity x m).symm ▸ copies.publishes m.content?

theorem Matches.readings (sides : x.Matches y number published)
    (few : published.length + (contents ms).length ≤ Bus.maxId) : x.readings ms = y.readings ms := by
  induction ms generalizing x y published with
  | nil => rfl
  | cons m rest ih =>
    rw [contents_cons, List.length_append] at few
    have stepped := sides.step m (by omega)
    rw [Exchange.readings, Exchange.readings, sides.reading? m,
      ih stepped (by rw [List.length_append]; omega)]

/-- Two readers that start in the same session are one as good as the other. -/
theorem enlist_matches {r s : Reader α} {t : Session} (records : x.bus.Records (numbered published))
    (follows : r.Follows t x.bus.capacity published) (copies : s.Follows t x.bus.capacity published) :
    (x.enlist r).Matches (x.enlist s) x.readers.length published := by
  refine ⟨rfl, records, ?_, ?_, fun k other => ?_, Or.inr ⟨r, s, t, ?_, ?_, follows, copies⟩⟩
  · simp [enlist]
  · simp [enlist]
  · exact (Readers.find?_enlist _).trans (Eq.trans (by rw [if_neg other, if_neg other]) (Readers.find?_enlist _).symm)
  · exact (Readers.find?_enlist _).trans (if_pos rfl)
  · exact (Readers.find?_enlist _).trans (if_pos rfl)

/-! ### The first half alone -/

/-- The move neither is about reader `number` nor takes up another one. -/
def Move.leaves (number : Nat) : Move α → Bool
  | .subscribe _ => false
  | .next k => decide (k ≠ number)
  | .close k => decide (k ≠ number)
  | _ => true

theorem leaves_length (x : Exchange α) {m : Move α} (leaves : m.leaves number = true) :
    (x.step m).readers.length = x.readers.length := by
  cases m with
  | subscribe last => cases leaves
  | next k => exact Readers.length_next ..
  | close k => exact List.length_set
  | _ => rfl

theorem step_enlist (x : Exchange α) (r : Reader α) {m : Move α} (leaves : m.leaves x.readers.length = true) :
    (x.enlist r).step m = (x.step m).enlist r := by
  have apart : ∀ k, k ≠ x.readers.length → Readers.find? (x.readers ++ [some r]) k = x.readers.find? k :=
    fun k other => (Readers.find?_enlist _).trans (if_neg other)
  cases m with
  | subscribe last => cases leaves
  | next k =>
    have other := of_decide_eq_true leaves
    have unread := apart k other
    simp only [step, Exchange.next, enlist, Readers.next, unread]
    cases found : x.readers.find? k with
    | none => rfl
    | some s => simp [Readers.put, List.set_append_left _ _ (Readers.lt_length_of_find? found)]
  | close k =>
    have other := of_decide_eq_true leaves
    by_cases inside : k < x.readers.length
    · simp [step, close, enlist, Readers.close, List.set_append_left _ _ inside]
    · have beyond : (x.readers ++ [some r]).length ≤ k := by
        rw [List.length_append, List.length_singleton]
        omega
      simp only [step, close, enlist, Readers.close, List.set_eq_of_length_le beyond,
        List.set_eq_of_length_le (Nat.le_of_not_lt inside)]
  | _ => rfl

theorem run_enlist (x : Exchange α) (r : Reader α) (leaves : ∀ m ∈ ms, m.leaves x.readers.length = true) :
    (x.enlist r).run ms = (x.run ms).enlist r := by
  induction ms generalizing x with
  | nil => rfl
  | cons m rest ih =>
    have first := leaves m List.mem_cons_self
    have same := leaves_length x first
    rw [run, run, step_enlist x r first]
    exact ih (x.step m) fun n member => same.symm ▸ leaves n (List.mem_cons_of_mem m member)

/-- A reader is opened in two steps, on any bus that is reached, while others go on. If it wants to have
again what came behind an event that was there, everything is read then and later as if it had been opened
at once when it copied the ring; and what the ring kept then it hears. If it only wants what comes, that
is so as if it had been opened at once when it took its place; and while the ring keeps an event that came
afterwards it is not lost. In both cases nothing comes twice or out of order. -/
theorem run_subscribes_at_once {capacity : Nat} {bus : Bus α} (new : Bus.new capacity = .opened bus)
    (before between later : List (Move α))
    (few : (contents (before ++ between ++ later)).length ≤ Bus.maxId) :
    let x := ({ bus } : Exchange α).run before
    let y := x.run between
    let number := y.readers.length
    (∀ last ≤ (contents before).length,
      let z := y.enlist (.openAcross x.bus y.bus (some last))
      z.readings later = (y.subscribe (some last)).readings later ∧
      (.close number ∉ later →
        (z.heard number later).Pairwise (fun e f => e.id < f.id) ∧
        ∀ e ∈ y.bus.ring, last < e.id →
          e ∈ z.heard number later ∨ ∃ f, ((z.run later).next number).1 = .event f ∧ f.id ≤ e.id)) ∧
    ((∀ m ∈ between, m.leaves x.readers.length = true) →
      let z := y.enlist (.openAcross x.bus y.bus none)
      z.readings later = ((x.subscribe none).run between).readings later ∧
      (.close number ∉ later →
        (z.heard number later).Pairwise (fun e f => e.id < f.id) ∧
        ∀ e ∈ (z.run later).bus.ring, (contents before).length < e.id →
          e ∈ z.heard number later ∨ ∃ f, ((z.run later).next number).1 = .event f ∧ f.id ≤ e.id)) := by
  intro x y number
  have total : (contents before).length + (contents between).length + (contents later).length ≤ Bus.maxId := by
    rwa [← List.length_append, ← contents_append, ← List.length_append, ← contents_append]
  have width : y.bus.capacity = capacity :=
    (run_capacity x between).trans ((run_capacity _ before).trans (new_capacity new).1)
  have positive : 0 < y.bus.capacity := width.symm ▸ (new_capacity new).2
  have atFirst : x.bus.Records (numbered (contents before)) := new_records_numbered new (by omega)
  have records : y.bus.Records (numbered (contents (before ++ between))) := by
    rw [contents_append]
    exact run_records_numbered atFirst (by omega)
  have length : (contents (before ++ between)).length = (contents before).length + (contents between).length := by
    rw [contents_append, List.length_append]
  have enough : (contents (before ++ between)).length + (contents later).length ≤ Bus.maxId := by omega
  have registered : Reader.register x.bus = { position := (contents before).length } := by
    rw [Reader.register, atFirst.published]
  refine ⟨?_, ?_⟩
  · intro last known z
    have follows : (Reader.openAcross x.bus y.bus (some last)).Follows
        ⟨(contents (before ++ between)).length, some last, 0⟩ y.bus.capacity (contents (before ++ between)) := by
      rw [Reader.openAcross, registered]
      exact Reader.replay_follows records positive (by omega) (Or.inl known)
    refine ⟨?_, fun unclosed => ?_⟩
    · exact (enlist_matches records follows (Reader.subscribe_follows records positive (some last))).readings enough
    · have serves := (enlist_serves records follows).run unclosed enough
      refine ⟨serves.accounts.ascending, fun e kept wanted => ?_⟩
      obtain ⟨member, newest⟩ := records.mem_ring.mp kept
      have width : (z.run later).bus.capacity = y.bus.capacity := run_capacity z later
      rw [← width] at newest
      refine serves.catches (mem_numbered_append member _) (Or.inl ?_)
      exact Session.replays_of_lt wanted newest (mem_numbered member).2
  · intro leaves z
    have follows : (Reader.openAcross x.bus y.bus none).Follows ⟨(contents before).length, none, 0⟩
        y.bus.capacity (contents (before ++ between)) := by
      rw [Reader.openAcross, registered]
      exact Reader.register_follows (by omega)
    refine ⟨?_, fun unclosed => ?_⟩
    · rw [subscribe_eq_enlist, run_enlist x _ leaves]
      rfl
    · have serves := (enlist_serves records follows).run unclosed enough
      exact ⟨serves.accounts.ascending, fun e kept live => serves.catches_kept kept live⟩

/-- Of the five events that come between the two steps the ring has room for three. -/
theorem reader_opened_amid_events :
    let x := ({ bus := { capacity := 3 } } : Exchange Char).run Samples.fourEvents
    let y := x.run (['e', 'f', 'g', 'h', 'i'].map .publish)
    (y.enlist (.openAcross x.bus y.bus (some 2))).readings [.next 0, .publish 'j', .next 0] =
        (y.subscribe (some 2)).readings [.next 0, .publish 'j', .next 0] ∧
      ⟨8, 'h'⟩ ∈ (y.enlist (.openAcross x.bus y.bus (some 2))).heard 0 [.next 0, .publish 'j', .next 0] ∧
      ((y.enlist (.openAcross x.bus y.bus none)).heard 0 [.next 0, .publish 'j', .next 0]).Pairwise
        fun e f => e.id < f.id := by
  intro x y
  obtain ⟨across, registered⟩ := @run_subscribes_at_once Char 3 { capacity := 3 } rfl Samples.fourEvents
    (['e', 'f', 'g', 'h', 'i'].map .publish) [.next 0, .publish 'j', .next 0] (by decide)
  obtain ⟨same, hears⟩ := across 2 (by decide)
  obtain ⟨-, ascends⟩ := registered (by decide)
  have next : (((y.enlist (.openAcross x.bus y.bus (some 2))).run [.next 0, .publish 'j', .next 0]).next 0).1 =
      .event ⟨9, 'i'⟩ := by
    decide
  refine ⟨same, ?_, (ascends (by decide)).1⟩
  rcases (hears (by decide)).2 ⟨8, 'h'⟩ (by decide) (by decide) with heard | ⟨f, found, before⟩
  · exact heard
  · have last := Reading.event.inj (next.symm.trans found)
    rw [← last] at before
    exact absurd before (by decide)

end Exchange

end TorrentAdmission
