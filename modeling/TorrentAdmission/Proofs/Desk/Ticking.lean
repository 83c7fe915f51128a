import TorrentAdmission.Proofs.Desk.Clock
import TorrentAdmission.Proofs.Desk.Rest

/-!
# The desk's own clock

The clock of the desk keeps time for every submission: what `advance` and `await` let happen are
ticks. It stops at no instant while a task is awake, and passes over none at which a task wants a turn.
-/

namespace TorrentAdmission

namespace Desk

open Relation (ReflTransGen)

variable {d e : Desk} {i fuel target t : Nat}

/-! ### Turns -/

theorem Tick.alert (tick : Tick i d e) (alert : d.Alert) : e.Alert := by
  cases tick with
  | move m timeless kept => exact step_alert alert m
  | turn k => exact turn_alert alert k
  | pass ms woken asleep stops wakes =>
    have woke : ∀ (ks : List Nat) (f : Desk), f.Alert → (ks.foldl wake f).Alert := by
      intro ks
      induction ks with
      | nil => exact fun f alert => alert
      | cons k rest ih => exact fun f alert => ih _ (step_alert alert (.wake k))
    exact woke woken _ (step_alert alert (.wait ms))

theorem ticks_alert (ticks : ReflTransGen (Tick i) d e) (alert : d.Alert) : e.Alert := by
  induction ticks with
  | refl => exact alert
  | tail _ tick ih => exact tick.alert ih

theorem Tick.now_le (tick : Tick i d e) : d.now ≤ e.now := by
  cases tick with
  | move m timeless kept => exact Nat.le_of_eq (step_now timeless).symm
  | turn k =>
    have same := step_now (d := d.unwake k) (m := .poll k) (by simp)
    exact Nat.le_of_eq same.symm
  | pass ms woken asleep stops wakes =>
    rw [wakes_now]
    exact Nat.le_add_right d.now ms

theorem ticks_now_le (ticks : ReflTransGen (Tick i) d e) : d.now ≤ e.now := by
  induction ticks with
  | refl => exact Nat.le_refl _
  | tail _ tick ih => exact Nat.le_trans ih tick.now_le

theorem takeTurns_ticks (i fuel : Nat) (d : Desk) : ReflTransGen (Tick i) d (takeTurns fuel d) := by
  induction fuel generalizing d with
  | zero => exact .refl
  | succ fuel ih =>
    unfold takeTurns
    split
    · exact .refl
    · exact .head (.turn d _) (ih _)

theorem takeTurns_now (fuel : Nat) (d : Desk) : (takeTurns fuel d).now = d.now := by
  induction fuel generalizing d with
  | zero => rfl
  | succ fuel ih =>
    unfold takeTurns
    split
    · rfl
    · rename_i k rest awake
      exact (ih _).trans (step_now (d := d.unwake k) (m := .poll k) (by simp))

theorem runAwake_ticks (i : Nat) (d : Desk) : ReflTransGen (Tick i) d d.runAwake := takeTurns_ticks i _ d

theorem runAwake_now (d : Desk) : d.runAwake.now = d.now := takeTurns_now _ d

/-! ### From one instant to the next -/

def dueNow (d : Desk) : List Nat :=
  (List.range d.submissions.length).filter fun k =>
    d.submissions[k]?.any fun s => s.task.instants.contains d.now

theorem wakeDue_eq (d : Desk) : d.wakeDue = d.dueNow.foldl wake d := by
  rw [dueNow, List.foldl_filter]
  rfl

theorem mem_dueNow (due : d.now ∈ d.instantsOf i) : i ∈ d.dueNow := by
  cases found : d.submissions[i]? with
  | none => simp [instantsOf, found] at due
  | some s =>
    have inside := (List.getElem?_eq_some_iff.mp found).1
    refine List.mem_filter.mpr ⟨List.mem_range.mpr inside, ?_⟩
    simpa [instantsOf, found] using due

theorem moveTo_now (d : Desk) (t : Nat) : (d.moveTo t).now = max d.now t := by
  rw [moveTo, wakeDue_eq, wakes_now, wait]
  dsimp only
  omega

theorem moveTo_tick (asleep : i ∉ d.awake) (stops : ∀ u ∈ d.instantsOf i, d.now < u → t ≤ u) :
    Tick i d (d.moveTo t) := by
  rw [moveTo, wakeDue_eq]
  refine .pass d (t - d.now) _ asleep ?_ fun due => mem_dueNow due
  intro u wanted later
  have before := stops u wanted later
  omega

/-- At an instant that has been reached tasks are only woken. -/
theorem moveTo_reached (i : Nat) (reached : t ≤ d.now) : ReflTransGen (Tick i) d (d.moveTo t) := by
  have woken : ∀ (ks : List Nat) (f : Desk), ReflTransGen (Tick i) f (ks.foldl wake f) := by
    intro ks
    induction ks with
    | nil => exact fun f => .refl
    | cons k rest ih =>
      intro f
      exact .head (.move f (.wake k) (by simp) (by simp [Move.Drops])) (ih (f.wake k))
  have still : d.wait (t - d.now) = d := by
    rw [Nat.sub_eq_zero_of_le reached]
    rfl
  rw [moveTo, still, wakeDue_eq]
  exact woken _ d

theorem mem_comingInstants : t ∈ d.comingInstants ↔ (∃ k, t ∈ d.instantsOf k) ∧ d.now < t := by
  rw [comingInstants, List.mem_filter, List.mem_flatMap, decide_eq_true_iff]
  refine and_congr_left fun _ => ⟨?_, ?_⟩
  · rintro ⟨s, member, wanted⟩
    obtain ⟨k, found⟩ := List.mem_iff_getElem?.mp member
    exact ⟨k, by rw [instantsOf, found]; exact wanted⟩
  · rintro ⟨k, wanted⟩
    cases found : d.submissions[k]? with
    | none => simp [instantsOf, found] at wanted
    | some s => exact ⟨s, List.mem_of_getElem? found, by simpa [instantsOf, found] using wanted⟩

theorem nextInstant?_lt (next : d.nextInstant? = some t) : d.now < t :=
  (mem_comingInstants.mp (List.min?_eq_some_iff.mp next).1).2

theorem nextInstant?_le {u : Nat} (next : d.nextInstant? = some t) (wanted : u ∈ d.instantsOf i) (later : d.now < u) :
    t ≤ u :=
  (List.min?_eq_some_iff.mp next).2 u (mem_comingInstants.mpr ⟨⟨i, wanted⟩, later⟩)

theorem nextInstant?_isSome {u : Nat} (wanted : u ∈ d.instantsOf i) (later : d.now < u) :
    ∃ t, d.nextInstant? = some t := by
  cases next : d.nextInstant? with
  | some t => exact ⟨t, rfl⟩
  | none =>
    have coming := mem_comingInstants.mpr ⟨⟨i, wanted⟩, later⟩
    rw [List.min?_eq_none_iff.mp next] at coming
    cases coming

/-! ### Time that passes -/

/-- What happens up to an instant are ticks, and then all tasks that are awake have their turns. -/
theorem advanceTo_ticks (i : Nat) (alert : d.Alert) (enough : target ≤ d.now + fuel) :
    ∃ e, ReflTransGen (Tick i) d e ∧ e.now = max d.now target ∧ advanceTo fuel target d = e.runAwake := by
  induction fuel generalizing d with
  | zero => exact ⟨_, moveTo_reached i enough, moveTo_now d target, rfl⟩
  | succ fuel ih =>
    -- The next instant is a millisecond later at least, so the fuel left is enough from there on.
    have turns := runAwake_ticks i d
    have now := runAwake_now d
    have asleep : i ∉ d.runAwake.awake := by
      rw [runAwake_asleep alert]
      exact List.not_mem_nil
    unfold advanceTo
    dsimp only
    cases next : d.runAwake.nextInstant? with
    | none =>
      refine ⟨_, turns.tail (moveTo_tick (t := target) asleep ?_), ?_, rfl⟩
      · intro u wanted later
        obtain ⟨t, some⟩ := nextInstant?_isSome wanted later
        cases next.symm.trans some
      · rw [moveTo_now, now]
    | some t =>
      have later := nextInstant?_lt next
      dsimp only
      split
      · have moved := moveTo_now d.runAwake t
        obtain ⟨e, ticks, reached, same⟩ := ih (d := d.runAwake.moveTo t)
          ((moveTo_tick (i := i) (t := t) asleep fun u => nextInstant?_le next).alert (ticks_alert turns alert)) (by omega)
        refine ⟨e, (turns.tail (moveTo_tick asleep fun u => nextInstant?_le next)).trans ticks, ?_, same⟩
        omega
      · refine ⟨_, turns.tail (moveTo_tick (t := target) asleep ?_), ?_, rfl⟩
        · intro u wanted later
          have first := nextInstant?_le next wanted later
          omega
        · rw [moveTo_now, now]

theorem advance_ticks (i : Nat) (alert : d.Alert) (ms : Nat) : ReflTransGen (Tick i) d (d.advance ms) := by
  obtain ⟨e, ticks, -, same⟩ := advanceTo_ticks i alert (Nat.le_refl (d.now + ms))
  rw [advance, same]
  exact ticks.trans (runAwake_ticks i e)

theorem advance_now (alert : d.Alert) (ms : Nat) : (d.advance ms).now = d.now + ms := by
  obtain ⟨e, -, now, same⟩ := advanceTo_ticks 0 alert (Nat.le_refl (d.now + ms))
  rw [advance, same, runAwake_now]
  omega

theorem advance_asleep (alert : d.Alert) (ms : Nat) : (d.advance ms).awake = [] := by
  obtain ⟨e, ticks, -, same⟩ := advanceTo_ticks 0 alert (Nat.le_refl (d.now + ms))
  rw [advance, same]
  exact runAwake_asleep (ticks_alert ticks alert)

theorem awaitEnd_ticks (i fuel : Nat) (alert : d.Alert) : ReflTransGen (Tick i) d (awaitEnd fuel i d) := by
  induction fuel generalizing d with
  | zero => exact .refl
  | succ fuel ih =>
    have turns := runAwake_ticks i d
    have asleep : i ∉ d.runAwake.awake := by
      rw [runAwake_asleep alert]
      exact List.not_mem_nil
    unfold awaitEnd
    dsimp only
    split
    · split
      · cases next : d.runAwake.nextInstant? with
        | none => exact turns
        | some t =>
          have moved := turns.tail (moveTo_tick (i := i) (t := t) asleep fun u => nextInstant?_le next)
          exact moved.trans (ih (ticks_alert moved alert))
      · exact turns
    · exact .refl

end Desk

end TorrentAdmission
