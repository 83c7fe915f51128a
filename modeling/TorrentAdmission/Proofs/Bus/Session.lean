import TorrentAdmission.Bus.Reader
import TorrentAdmission.Proofs.Bus.Past

/-!
# Sessions

What a reader is to hear next is a matter of a few numbers: how many events there were when it was
opened, behind which of them it was to start, which of them it has heard last, and how many there are
by now. `Session.next` says so in terms of these; `Follows.next` shows that a reader, with its copy of
the ring and its place in the channel, keeps to it.
-/

namespace TorrentAdmission

variable {α : Type}

/-! ### The size of the channel -/

theorem isPowerOfTwo_double_le {p q : Nat} (power : p.isPowerOfTwo) (other : q.isPowerOfTwo) (less : p < q) :
    2 * p ≤ q := by
  obtain ⟨a, rfl⟩ := power
  obtain ⟨b, rfl⟩ := other
  have exponents : a + 1 ≤ b := (Nat.pow_lt_pow_iff_right (by decide)).mp less
  have grows := Nat.pow_le_pow_right (n := 2) (by decide) exponents
  rwa [Nat.pow_succ, Nat.mul_comm] at grows

theorem powerFrom_least {fuel n p : Nat} (power : p.isPowerOfTwo) (enough : n ≤ p + fuel) :
    n ≤ powerFrom fuel n p ∧ (powerFrom fuel n p).isPowerOfTwo ∧
      ∀ q : Nat, q.isPowerOfTwo → n ≤ q → p ≤ q → powerFrom fuel n p ≤ q := by
  induction fuel generalizing p with
  | zero => exact ⟨enough, power, fun q _ _ above => above⟩
  | succ fuel ih =>
    unfold powerFrom
    split
    · rename_i reached
      exact ⟨reached, power, fun q _ _ above => above⟩
    · rename_i short
      have positive : 0 < p := by
        obtain ⟨k, rfl⟩ := power
        exact Nat.two_pow_pos k
      have doubled : (2 * p).isPowerOfTwo := by
        obtain ⟨k, rfl⟩ := power
        exact ⟨k + 1, by rw [Nat.pow_succ, Nat.mul_comm]⟩
      obtain ⟨holds, isPower, least⟩ := ih doubled (by omega)
      refine ⟨holds, isPower, fun q other wide _ => least q other wide ?_⟩
      exact isPowerOfTwo_double_le power other (by omega)

/-- The channel holds the least power of two that is not below the capacity. -/
theorem channelCapacity_least (capacity : Nat) :
    capacity ≤ channelCapacity capacity ∧ (channelCapacity capacity).isPowerOfTwo ∧
      ∀ p : Nat, p.isPowerOfTwo → capacity ≤ p → channelCapacity capacity ≤ p := by
  obtain ⟨holds, isPower, least⟩ := @powerFrom_least capacity capacity 1 ⟨0, rfl⟩ (by omega)
  refine ⟨holds, isPower, fun p other wide => least p other wide ?_⟩
  obtain ⟨k, rfl⟩ := other
  exact Nat.two_pow_pos k

theorem channelCapacity_pos (capacity : Nat) : 0 < channelCapacity capacity := by
  obtain ⟨k, same⟩ := (channelCapacity_least capacity).2.1
  rw [same]
  exact Nat.two_pow_pos k

/-! ### Events that have been published -/

/-- The events that a bus makes of these contents, the oldest one first. -/
def numbered (contents : List α) : List (Posted α) :=
  contents.mapIdx fun k content => ⟨k + 1, content⟩

@[simp] theorem length_numbered (contents : List α) : (numbered contents).length = contents.length :=
  List.length_mapIdx

theorem numbered_concat (contents : List α) (content : α) :
    numbered (contents ++ [content]) = numbered contents ++ [⟨contents.length + 1, content⟩] :=
  List.mapIdx_concat

theorem mem_numbered_append {contents : List α} {e : Posted α} (member : e ∈ numbered contents)
    (more : List α) : e ∈ numbered (contents ++ more) := by
  rw [numbered, List.mapIdx_append]
  exact List.mem_append_left _ member

theorem id_numbered {contents : List α} {k : Nat} {e : Posted α} (found : (numbered contents)[k]? = some e) :
    e.id = k + 1 := by
  rw [numbered, List.getElem?_mapIdx] at found
  obtain ⟨content, -, rfl⟩ := Option.map_eq_some_iff.mp found
  rfl

theorem mem_numbered {contents : List α} {e : Posted α} (member : e ∈ numbered contents) :
    0 < e.id ∧ e.id ≤ contents.length := by
  obtain ⟨k, found⟩ := List.mem_iff_getElem?.mp member
  have inside := (List.getElem?_eq_some_iff.mp found).1
  rw [length_numbered] at inside
  have id := id_numbered found
  omega

theorem numbered_ascending (contents : List α) : (numbered contents).Pairwise fun e f => e.id < f.id := by
  refine List.pairwise_iff_getElem.mpr fun i j left right less => ?_
  rw [id_numbered (List.getElem?_eq_getElem left), id_numbered (List.getElem?_eq_getElem right)]
  omega

theorem eq_of_id_numbered {contents : List α} {e f : Posted α} (left : e ∈ numbered contents)
    (right : f ∈ numbered contents) (same : e.id = f.id) : e = f := by
  obtain ⟨i, first⟩ := List.mem_iff_getElem?.mp left
  obtain ⟨j, second⟩ := List.mem_iff_getElem?.mp right
  rw [id_numbered first, id_numbered second] at same
  obtain rfl : i = j := by omega
  exact Option.some.inj (first.symm.trans second)

theorem drop_numbered (contents : List α) (k : Nat) :
    (numbered contents).drop k = (numbered contents).filter fun e => decide (k < e.id) := by
  conv => rhs; rw [← List.take_append_drop k (numbered contents)]
  have early : ((numbered contents).take k).filter (fun e => decide (k < e.id)) = [] := by
    refine List.filter_eq_nil_iff.mpr fun e member => ?_
    obtain ⟨j, inside, found⟩ := List.mem_take_iff_getElem.mp member
    have id := id_numbered (List.getElem?_eq_some_iff.mpr ⟨Nat.lt_of_lt_of_le inside (Nat.min_le_right _ _), found⟩)
    simp only [id, decide_eq_true_eq]
    omega
  have late : ((numbered contents).drop k).filter (fun e => decide (k < e.id)) = (numbered contents).drop k := by
    refine List.filter_eq_self.mpr fun e member => ?_
    obtain ⟨j, found⟩ := List.mem_iff_getElem?.mp member
    rw [List.getElem?_drop] at found
    simp only [id_numbered found, decide_eq_true_eq]
    omega
  rw [List.filter_append, early, late, List.nil_append]

namespace Bus

variable {bus : Bus α} {contents : List α} {past : List (Posted α)}

theorem Records.published (records : bus.Records (numbered contents)) : bus.sent = contents.length := by
  rw [records.sent, length_numbered]

theorem Records.mem_ring (records : bus.Records (numbered contents)) {e : Posted α} :
    e ∈ bus.ring ↔ e ∈ numbered contents ∧ contents.length - bus.capacity < e.id := by
  rw [records.ring, newest, length_numbered, drop_numbered, List.mem_filter, decide_eq_true_eq]

/-- What a place in the channel leaves to be read. -/
theorem Records.pending (records : bus.Records (numbered contents)) (position : Nat) :
    bus.pending position =
      (numbered contents).drop (max position (contents.length - channelCapacity bus.capacity)) := by
  have length : bus.channel.length = contents.length - (contents.length - channelCapacity bus.capacity) := by
    rw [records.channel, newest, List.length_drop, length_numbered]
  rw [Bus.pending, records.published, length, records.channel, newest, length_numbered, List.drop_drop]
  congr 1
  omega

end Bus

/-! ### What a reader is to hear -/

/-- What is settled about a reader by those who look at it from outside. -/
structure Session where
  /-- The number of events that there were when the reader was opened. -/
  opened : Nat
  /-- The event behind which it was to start, if it is to hear of earlier ones at all. -/
  last : Option Nat
  /-- The last event that it has heard, or zero. -/
  heard : Nat := 0
  deriving DecidableEq, Repr

namespace Session

/-- The event was kept for replay when the reader was opened, and is one of those it asked for. -/
def replays (t : Session) (capacity id : Nat) : Bool :=
  t.last.any fun last => decide (max last (t.opened - capacity) < id ∧ id ≤ t.opened)

theorem replays_of_lt {opened last heard capacity id : Nat} (wanted : last < id) (kept : opened - capacity < id)
    (known : id ≤ opened) : (⟨opened, some last, heard⟩ : Session).replays capacity id = true :=
  decide_eq_true ⟨Nat.max_lt.mpr ⟨wanted, kept⟩, known⟩

/-- The event came after the reader was opened, and is still in the channel now that there are `sent`. -/
def streams (t : Session) (capacity sent id : Nat) : Bool :=
  decide (t.opened < id ∧ sent - channelCapacity capacity < id)

def awaits (t : Session) (capacity sent id : Nat) : Bool :=
  decide (t.heard < id) && (t.replays capacity id || t.streams capacity sent id)

/-- The least of the events that the reader awaits. Without one it has to wait, or is at the end. -/
def next (t : Session) (capacity : Nat) (past : List (Posted α)) (isOpen : Bool) : Reading α :=
  match past.find? fun e => t.awaits capacity past.length e.id with
  | some e => .event e
  | none => if isOpen then .pending else .closed

def hear (t : Session) : Reading α → Session
  | .event e => { t with heard := e.id }
  | _ => t

theorem next_eq_event {t : Session} {capacity : Nat} {past : List (Posted α)} {isOpen : Bool} {e : Posted α}
    (next : t.next capacity past isOpen = .event e) : e ∈ past ∧ t.awaits capacity past.length e.id = true := by
  unfold Session.next at next
  split at next
  · rename_i f found
    cases next
    have awaited := List.find?_some (p := fun e : Posted α => t.awaits capacity past.length e.id) found
    exact ⟨List.mem_of_find?_eq_some found, awaited⟩
  · split at next <;> cases next

theorem next_least {t : Session} {capacity : Nat} {contents : List α} {isOpen : Bool} {e f : Posted α}
    (next : t.next capacity (numbered contents) isOpen = .event e) (member : f ∈ numbered contents)
    (earlier : f.id < e.id) : t.awaits capacity contents.length f.id = false := by
  unfold Session.next at next
  split at next
  · rename_i g found
    cases next
    obtain ⟨-, early, late, split, missed⟩ := List.find?_eq_some_iff_append.mp found
    have ascending := numbered_ascending contents
    rw [split] at member ascending
    rcases List.mem_append.mp member with before | behind
    · simpa using missed f before
    · rcases List.mem_cons.mp behind with rfl | after
      · omega
      · have less := List.rel_of_pairwise_cons (List.pairwise_append.mp ascending).2.1 after
        omega
  · split at next <;> cases next

/-- The events heard in a session are some of those published, in their order. Those that it has passed
over were not kept for it, or have been lost by the channel. -/
structure Accounts (t : Session) (capacity : Nat) (contents : List α) (heard : List (Posted α)) : Prop where
  known : ∀ e ∈ heard, e ∈ numbered contents
  ascending : heard.Pairwise fun e f => e.id < f.id
  upTo : ∀ e ∈ heard, e.id ≤ t.heard
  passed : ∀ e ∈ numbered contents, e.id ≤ t.heard → e ∉ heard → t.replays capacity e.id = false ∧
    (t.opened < e.id → e.id + channelCapacity capacity ≤ contents.length)

section
variable {t : Session} {capacity : Nat} {contents : List α} {heard : List (Posted α)}

theorem accounts_nil (opened : Nat) (last : Option Nat) :
    (⟨opened, last, 0⟩ : Session).Accounts capacity contents [] := by
  refine ⟨by simp, .nil, by simp, fun e member before => ?_⟩
  have positive := (mem_numbered member).1
  exact (Nat.not_le_of_lt positive before).elim

theorem Accounts.publish (accounts : t.Accounts capacity contents heard) (known : t.heard ≤ contents.length)
    (content : α) : t.Accounts capacity (contents ++ [content]) heard := by
  obtain ⟨published, ascending, upTo, passed⟩ := accounts
  refine ⟨fun e member => ?_, ascending, upTo, fun e member before missed => ?_⟩
  · rw [numbered_concat]
    exact List.mem_append_left _ (published e member)
  · rw [numbered_concat] at member
    rcases List.mem_append.mp member with old | new
    · obtain ⟨unkept, lost⟩ := passed e old before missed
      refine ⟨unkept, fun live => Nat.le_trans (lost live) ?_⟩
      rw [List.length_append]
      exact Nat.le_add_right _ _
    · obtain rfl := List.mem_singleton.mp new
      dsimp only at before
      omega

theorem Accounts.publishes (accounts : t.Accounts capacity contents heard) (known : t.heard ≤ contents.length)
    (content? : Option α) : t.Accounts capacity (contents ++ content?.toList) heard := by
  cases content? with
  | some content => exact accounts.publish known content
  | none => exact (List.append_nil contents).symm ▸ accounts

theorem Accounts.hear (accounts : t.Accounts capacity contents heard) {isOpen : Bool} {e : Posted α}
    (next : t.next capacity (numbered contents) isOpen = .event e) :
    (t.hear (.event e)).Accounts capacity contents (heard ++ [e]) := by
  obtain ⟨published, ascending, upTo, passed⟩ := accounts
  obtain ⟨member, awaited⟩ := next_eq_event next
  have later : t.heard < e.id := of_decide_eq_true ((Bool.and_eq_true _ _).mp awaited).1
  refine ⟨?_, ?_, ?_, ?_⟩
  · intro f inside
    rcases List.mem_append.mp inside with old | new
    · exact published f old
    · obtain rfl := List.mem_singleton.mp new
      exact member
  · refine List.pairwise_append.mpr ⟨ascending, List.pairwise_singleton _ _, fun f old g new => ?_⟩
    obtain rfl := List.mem_singleton.mp new
    exact Nat.lt_of_le_of_lt (upTo f old) later
  · intro f inside
    change f.id ≤ e.id
    rcases List.mem_append.mp inside with old | new
    · exact Nat.le_of_lt (Nat.lt_of_le_of_lt (upTo f old) later)
    · obtain rfl := List.mem_singleton.mp new
      exact Nat.le_refl _
  · intro f inside before missed
    have unheard : f ∉ heard := fun old => missed (List.mem_append_left _ old)
    by_cases old : f.id ≤ t.heard
    · exact passed f inside old unheard
    -- Between two events that are heard one after the other lie only such as were not awaited.
    · have other : f.id ≠ e.id := by
        intro same
        refine missed (List.mem_append_right _ (List.mem_singleton.mpr ?_))
        exact eq_of_id_numbered inside member same
      have unawaited := next_least next inside (Nat.lt_of_le_of_ne before other)
      rw [awaits, decide_eq_true (Nat.lt_of_not_le old), Bool.true_and, Bool.or_eq_false_iff] at unawaited
      obtain ⟨unkept, unstreamed⟩ := unawaited
      refine ⟨unkept, fun live => ?_⟩
      change t.opened < f.id at live
      have lost : ¬ (t.opened < f.id ∧ contents.length - channelCapacity capacity < f.id) :=
        of_decide_eq_false unstreamed
      have positive := (mem_numbered inside).1
      omega

end

end Session

/-! ### How a reader keeps to it -/

/-- The reader is as it has to be in this session after these contents have been published. -/
structure Reader.Follows (r : Reader α) (t : Session) (capacity : Nat) (contents : List α) : Prop where
  opened : t.opened ≤ contents.length
  heard : t.heard ≤ contents.length
  backlog : r.backlog = (numbered contents).filter fun e =>
    decide (t.heard < e.id) && t.replays capacity e.id
  /-- The channel is read from behind what was there when the reader was opened, or behind what it has
  heard: either its place in the channel or its high water mark sees to that. -/
  position : max r.position r.highWater = max t.opened t.heard

namespace Reader

variable {r : Reader α} {t : Session} {capacity : Nat} {contents : List α} {bus : Bus α}

theorem Follows.publish (follows : r.Follows t capacity contents) (content : α) :
    r.Follows t capacity (contents ++ [content]) := by
  obtain ⟨opened, heard, backlog, position⟩ := follows
  have longer : (contents ++ [content]).length = contents.length + 1 := List.length_append
  have fresh : t.replays capacity (contents.length + 1) = false := by
    rw [Session.replays, Option.any_eq_false]
    intro last _
    simp only [decide_eq_false_iff_not]
    omega
  refine ⟨by omega, by omega, ?_, position⟩
  simp [backlog, numbered_concat, fresh]

theorem Follows.publishes (follows : r.Follows t capacity contents) (content? : Option α) :
    r.Follows t capacity (contents ++ content?.toList) := by
  cases content? with
  | some content => exact follows.publish content
  | none => exact (List.append_nil contents).symm ▸ follows

/-! ### Opening -/

/-- A reader that takes its place in the channel of `first`, and copies what it wants to have again from
the ring of `second`. -/
def openAcross (first second : Bus α) : Option Nat → Reader α
  | some last => (register first).replay second last
  | none => register first

theorem subscribe_eq_openAcross (bus : Bus α) (last : Option Nat) :
    subscribe bus last = openAcross bus bus last := by
  cases last <;> rfl

theorem backlog_eq_drop (records : bus.Records (numbered contents)) (last : Nat) :
    bus.backlog last = (numbered contents).drop (max last (contents.length - bus.capacity)) := by
  rw [Bus.backlog, records.ring, newest, length_numbered, drop_numbered, List.filter_filter, drop_numbered]
  refine List.filter_congr fun e _ => ?_
  rw [← Bool.decide_and]
  exact decide_eq_decide.mpr (by omega)

theorem getLast?_numbered (some : 0 < contents.length) :
    (numbered contents).getLast?.map Posted.id = .some contents.length := by
  have inside : contents.length - 1 < (numbered contents).length := by
    rw [length_numbered]
    omega
  have id := id_numbered (List.getElem?_eq_getElem inside)
  rw [List.getLast?_eq_getElem?, length_numbered, List.getElem?_eq_getElem inside, Option.map_some, id]
  exact congrArg Option.some (Nat.sub_add_cancel some)

/-- A reader that took its place in the channel when there were `registered` events, and copies what it
wants from the ring only now, starts a session that is opened now. -/
theorem replay_follows (records : bus.Records (numbered contents)) (positive : 0 < bus.capacity)
    {registered last : Nat} (earlier : registered ≤ contents.length)
    (known : last ≤ registered ∨ registered = contents.length) :
    (({ position := registered } : Reader α).replay bus last).Follows ⟨contents.length, some last, 0⟩
      bus.capacity contents := by
  have backlog := backlog_eq_drop records last
  refine ⟨Nat.le_refl _, Nat.zero_le _, ?_, ?_⟩
  · change bus.backlog last = _
    rw [backlog, drop_numbered]
    refine List.filter_congr fun e member => ?_
    have inside := mem_numbered member
    simp only [Session.replays, Option.any_some, ← Bool.decide_and]
    exact decide_eq_decide.mpr (by omega)
  · change max registered (((bus.backlog last).getLast?.map Posted.id).getD 0) = max contents.length 0
    rw [backlog, List.getLast?_drop, length_numbered]
    split
    · rename_i none
      simp only [Option.map_none, Option.getD_none]
      omega
    · rename_i some
      rw [getLast?_numbered (by omega), Option.getD_some]
      omega

theorem register_follows {opened : Nat} (earlier : opened ≤ contents.length) :
    ({ position := opened } : Reader α).Follows ⟨opened, none, 0⟩ capacity contents := by
  refine ⟨earlier, Nat.zero_le _, ?_, rfl⟩
  simp [Session.replays]

theorem subscribe_follows (records : bus.Records (numbered contents)) (positive : 0 < bus.capacity)
    (last : Option Nat) :
    (subscribe bus last).Follows ⟨contents.length, last, 0⟩ bus.capacity contents := by
  have registered : register bus = { position := contents.length } := by
    rw [register, records.published]
  cases last with
  | none =>
    rw [subscribe, registered]
    exact register_follows (Nat.le_refl _)
  | some last =>
    rw [subscribe, registered]
    exact replay_follows records positive (Nat.le_refl _) (Or.inr rfl)

/-! ### Reading -/

theorem drop_numbered_cases (contents : List α) (k : Nat) :
    (numbered contents).drop k = [] ∧ contents.length ≤ k ∨
      ∃ e rest, (numbered contents).drop k = e :: rest ∧ e.id = k + 1 ∧ k + 1 + rest.length = contents.length := by
  by_cases inside : k < (numbered contents).length
  · right
    refine ⟨_, _, List.drop_eq_getElem_cons inside, id_numbered (List.getElem?_eq_getElem inside), ?_⟩
    rw [List.length_drop]
    rw [length_numbered] at inside ⊢
    omega
  · left
    refine ⟨List.drop_eq_nil_of_le (Nat.le_of_not_lt inside), ?_⟩
    rw [length_numbered] at inside
    omega

theorem dropWhile_numbered (contents : List α) (k h : Nat) :
    ((numbered contents).drop k).dropWhile (fun e => decide (e.id ≤ h)) = (numbered contents).drop (max k h) := by
  have none : ∀ k, h ≤ k → ((numbered contents).drop k).dropWhile (fun e => decide (e.id ≤ h)) =
      (numbered contents).drop k := by
    intro k above
    rcases drop_numbered_cases contents k with ⟨ends, -⟩ | ⟨e, rest, next, id, -⟩
    · rw [ends]
      rfl
    · rw [next, List.dropWhile_cons_of_neg (by simp only [id, decide_eq_true_eq]; omega)]
  by_cases above : h ≤ k
  · rw [none k above, Nat.max_eq_left above]
  · have below : k ≤ h := by omega
    have split := List.take_append_drop (h - k) ((numbered contents).drop k)
    rw [List.drop_drop, Nat.add_sub_cancel' below] at split
    rw [Nat.max_eq_right below, ← split, List.dropWhile_append_of_pos, none h (Nat.le_refl h)]
    intro e member
    obtain ⟨j, inside, found⟩ := List.mem_take_iff_getElem.mp member
    rw [List.getElem_drop] at found
    have id := id_numbered (List.getElem?_eq_some_iff.mpr ⟨_, found⟩)
    simp only [id, decide_eq_true_eq]
    omega

theorem Follows.next_backlog (follows : r.Follows t capacity contents) {e : Posted α}
    {rest : List (Posted α)} (backlog : r.backlog = e :: rest) (isOpen : Bool) :
    t.next capacity (numbered contents) isOpen = .event e ∧
      ({ r with backlog := rest } : Reader α).Follows { t with heard := e.id } capacity contents := by
  have copied := backlog.symm.trans follows.backlog
  obtain ⟨early, late, split, missed, wanted, -⟩ := List.filter_eq_cons_iff.mp copied.symm
  have ascending := numbered_ascending contents
  obtain ⟨unheard, replayed⟩ := (Bool.and_eq_true _ _).mp wanted
  rw [decide_eq_true_eq] at unheard
  have kept : e.id ≤ t.opened := by
    rw [Session.replays, Option.any_eq_true] at replayed
    obtain ⟨last, -, within⟩ := replayed
    exact (of_decide_eq_true within).2
  refine ⟨?_, ?_⟩
  · have found : (numbered contents).find? (fun e => t.awaits capacity (numbered contents).length e.id) = some e := by
      refine List.find?_eq_some_iff_append.mpr ⟨?_, early, late, split, fun f member => ?_⟩
      · simp [Session.awaits, unheard, replayed]
      · have before : f.id < e.id := by
          rw [split] at ascending
          exact (List.pairwise_append.mp ascending).2.2 f member e List.mem_cons_self
        have unstreamed : t.streams capacity (numbered contents).length f.id = false := by
          simp only [Session.streams, decide_eq_false_iff_not]
          omega
        rw [Session.awaits, unstreamed, Bool.or_false, Bool.eq_false_iff.mpr (missed f member)]
        rfl
    rw [Session.next, found]
  · refine ⟨follows.opened, Nat.le_trans kept follows.opened, ?_, ?_⟩
    · -- What is left of the copy are those of its events that come behind the first one.
      have tail : (e :: rest).filter (fun f => decide (e.id < f.id)) = rest := by
        have copies : (e :: rest).Pairwise fun f g => f.id < g.id := copied ▸ ascending.filter _
        rw [List.filter_cons_of_neg (by simp)]
        exact List.filter_eq_self.mpr fun f member => decide_eq_true (List.rel_of_pairwise_cons copies member)
      change rest = _
      rw [← tail, copied, List.filter_filter]
      refine List.filter_congr fun f _ => ?_
      rw [← Bool.and_assoc, ← Bool.decide_and]
      refine congrArg (· && _) (decide_eq_decide.mpr ⟨And.left, fun behind => ⟨behind, ?_⟩⟩)
      exact Nat.lt_trans unheard behind
    · have position := follows.position
      change max r.position r.highWater = max t.opened e.id
      omega

/-- When the copy has been read the channel is, from behind all that was there or has been heard. -/
theorem Follows.channel (follows : r.Follows t bus.capacity contents) (records : bus.Records (numbered contents)) :
    (bus.pending r.position).dropWhile (fun e => decide (e.id ≤ r.highWater)) =
      (numbered contents).drop (max (max t.opened t.heard) (contents.length - channelCapacity bus.capacity)) := by
  have position := follows.position
  rw [records.pending, dropWhile_numbered]
  congr 1
  omega

theorem Follows.awaits_channel (follows : r.Follows t capacity contents) (backlog : r.backlog = []) :
    (numbered contents).find? (fun e => t.awaits capacity (numbered contents).length e.id) =
      ((numbered contents).drop (max (max t.opened t.heard) (contents.length - channelCapacity capacity))).head? := by
  rw [drop_numbered, List.head?_filter, ← List.head?_filter, ← List.head?_filter]
  congr 1
  refine List.filter_congr fun e member => ?_
  have copied := List.filter_eq_nil_iff.mp (follows.backlog.symm.trans backlog) e member
  rw [length_numbered, Session.awaits, Bool.and_or_distrib_left, Bool.eq_false_iff.mpr copied, Bool.false_or,
    Session.streams, ← Bool.decide_and]
  exact decide_eq_decide.mpr (by omega)

/-- What a reader finds is what its session says, and the session goes on with it. -/
theorem Follows.next (follows : r.Follows t bus.capacity contents) (records : bus.Records (numbered contents)) :
    (r.next bus).1 = t.next bus.capacity (numbered contents) bus.isOpen ∧
      (r.next bus).2.Follows (t.hear (r.next bus).1) bus.capacity contents := by
  cases backlog : r.backlog with
  | cons e rest =>
    obtain ⟨reading, goesOn⟩ := follows.next_backlog backlog bus.isOpen
    simp only [Reader.next, backlog, reading, true_and]
    exact goesOn
  | nil =>
    have unread := follows.channel records
    have awaited := follows.awaits_channel backlog
    have sent := records.published
    have copied := follows.backlog.symm.trans backlog
    simp only [Reader.next, Session.next, backlog, unread, awaited]
    rcases drop_numbered_cases contents (max (max t.opened t.heard)
      (contents.length - channelCapacity bus.capacity)) with ⟨ends, short⟩ | ⟨e, rest, next, id, count⟩
    · rw [ends]
      refine ⟨rfl, ?_⟩
      have same : t.hear (if bus.isOpen then (.pending : Reading α) else .closed) = t := by
        split <;> rfl
      have some := channelCapacity_pos bus.capacity
      obtain ⟨opened, heard, -, position⟩ := follows
      dsimp only
      rw [same]
      refine ⟨opened, heard, copied.symm, ?_⟩
      change max bus.sent r.highWater = _
      omega
    · rw [next]
      refine ⟨rfl, follows.opened, ?_, ?_, ?_⟩
      · change e.id ≤ _
        omega
      · refine (List.filter_eq_nil_iff.mpr fun f member => ?_).symm
        have missed := List.filter_eq_nil_iff.mp copied f member
        intro wanted
        obtain ⟨behind, replayed⟩ := (Bool.and_eq_true _ _).mp wanted
        refine missed ((Bool.and_eq_true _ _).mpr ⟨decide_eq_true ?_, replayed⟩)
        have later : e.id < f.id := of_decide_eq_true behind
        omega
      · change max (bus.sent - rest.length) e.id = max t.opened e.id
        omega

end Reader

end TorrentAdmission
