import TorrentAdmission.Proofs.Desk.Effect
import TorrentAdmission.Proofs.Desk.Rest

/-!
# Who keeps the bus open

The bus of a desk is kept open by those outside and by the tasks that are not finished, each of them once:
`run_tended`. A task gives up its hold in the move that finishes it, whichever way it comes to its end, so
the count of the holders comes out even after every move.
-/

namespace TorrentAdmission

def Submission.isLive (s : Submission) : Bool := !s.task.isFinished

def Edit.isLeave : Edit → Bool
  | .leave => true
  | _ => false

namespace Submission

variable {s : Submission} {i : Nat}

/-- These edits give up the hold on the bus if and only if they finish the task. -/
def Balanced (s : Submission) (i : Nat) (edits : List Edit) : Prop :=
  edits.countP Edit.isLeave + (s.amended i i edits).isLive.toNat = s.isLive.toNat

theorem balanced_of_silent {edits : List Edit} (stays : edits.countP Edit.isLeave = 0)
    (task : (s.amended i i edits).task = s.task) : s.Balanced i edits := by
  rw [Balanced, stays, isLive, task, Nat.zero_add, isLive]

theorem conclusion_leaves (s : Submission) (o : Outcome) : (s.conclusion o).countP Edit.isLeave = 1 := by
  cases o <;> rfl

theorem settlement_leaves (s : Submission) (result : Except Failure (Torrent × Path)) :
    (s.settlement result).countP Edit.isLeave = 1 := by
  rcases result with e | ⟨torrent, path⟩
  · rfl
  · cases path <;> rfl

theorem doing_leaves (s : Submission) (acts : List Act) : (acts.map s.doing).countP Edit.isLeave = 0 := by
  refine List.countP_eq_zero.mpr fun e member => ?_
  obtain ⟨act, -, rfl⟩ := List.mem_map.mp member
  cases act <;> exact Bool.false_ne_true

theorem opening_balanced (s : Submission) (i : Nat) : s.Balanced i s.opening :=
  balanced_of_silent rfl rfl

theorem hearing_balanced (s : Submission) (i : Nat) : s.Balanced i s.hearing := by
  apply balanced_of_silent
  · unfold hearing
    split <;> rfl
  · rw [amended_hearing]

theorem abandonment_balanced (live : s.task.isFinished = false) : s.Balanced i s.abandonment := by
  have leaves : s.abandonment.countP Edit.isLeave = 1 := rfl
  rw [Balanced, leaves, isLive, isLive, abandonment_task, live]
  rfl

theorem conclusion_balanced (live : s.task.isFinished = false) (o : Outcome) :
    s.Balanced i (s.conclusion o) := by
  rw [Balanced, conclusion_leaves, isLive, isLive, conclusion_task, live]
  rfl

theorem turning_balanced (live : s.task.isFinished = false)
    (turn : Turn (Step Progress (Except Failure (Torrent × Path)))) : s.Balanced i (s.turning i turn) := by
  rw [Balanced, turning, List.countP_append, doing_leaves, amended_append, isLive, isLive, live, Nat.zero_add]
  obtain ⟨acts, crash | progress | result⟩ := turn
  · have leaves : s.abandonment.countP Edit.isLeave = 1 := rfl
    rw [followUp, abandonment_task, leaves]
    rfl
  · rw [followUp]
    cases s.isStopped i acts <;> simp [amended, edited, Edit.isLeave, Task.isFinished]
  · rw [followUp]
    dsimp only
    split
    · rw [conclusion_leaves, conclusion_task]
      rfl
    · rw [settlement_leaves, amended_settlement]
      rfl

theorem polling_balanced (s : Submission) (i now : Nat) : s.Balanced i (s.polling i now) := by
  cases finished : s.task.isFinished with
  | true =>
    rw [polling_finished finished]
    exact balanced_of_silent rfl rfl
  | false =>
    cases cancelled : s.cancelled with
    | true =>
      rw [polling_cancelled cancelled finished]
      exact conclusion_balanced finished .cancelled
    | false =>
      obtain ⟨turn, turning⟩ := polling_live cancelled finished i now
      rw [turning]
      exact turning_balanced finished turn

end Submission

namespace Desk

variable {d : Desk} {i k : Nat} {s : Submission}

/-- The tasks that are not finished. -/
def liveCount (d : Desk) : Nat := d.submissions.countP Submission.isLive

/-! ### What edits do to the holders and to the tasks -/

theorem edit_holders (d : Desk) (k : Nat) (x : Edit) :
    (d.edit k x).bus.holders = d.bus.holders - x.isLeave.toNat := by
  cases x with
  | count what => exact congrArg Bus.holders (count_bus d k what)
  | announce event => exact (congrArg Bus.holders (count_bus _ k _)).trans rfl
  | wake => exact congrArg Bus.holders (wake_bus d k)
  | cancel n => exact congrArg Bus.holders (cancelHeld_bus d n)
  | _ => rfl

theorem amend_holders (d : Desk) (k : Nat) (edits : List Edit) :
    (d.amend k edits).bus.holders = d.bus.holders - edits.countP Edit.isLeave := by
  induction edits generalizing d with
  | nil => rfl
  | cons x rest ih =>
    rw [amend_cons, ih, edit_holders, List.countP_cons]
    cases x.isLeave with
    | true =>
      simp
      omega
    | false => simp

theorem update_liveCount (found : d.submissions[k]? = some s) (f : Submission → Submission) :
    (d.update k f).liveCount + s.isLive.toNat = d.liveCount + (f s).isLive.toNat := by
  have changed := countP_modify Submission.isLive f found
  simp only [liveCount, update]
  cases h : s.isLive <;> cases h' : (f s).isLive <;> simp [h, h'] at changed ⊢ <;> exact changed

theorem cancelHeld_liveCount (d : Desk) (n : Nat) : (d.cancelHeld n).liveCount = d.liveCount := by
  cases found : d.submissions[n]? with
  | none => rw [cancelHeld_of_none found]
  | some t =>
    have marked := update_liveCount found ({ · with cancelled := true })
    unfold cancelHeld cancel
    split
    · rw [liveCount, wake_submissions]
      exact Nat.add_right_cancel marked
    · rfl

theorem edit_liveCount (found : d.submissions[k]? = some s) (x : Edit) :
    (d.edit k x).liveCount + s.isLive.toNat = d.liveCount + (s.edited k k x).isLive.toNat := by
  cases x with
  | task task =>
    rw [Submission.edited, if_pos rfl]
    exact update_liveCount found _
  | cancel n =>
    have same : (s.edited k k (.cancel n)).isLive = s.isLive := by
      simp only [Submission.edited]
      split <;> rfl
    rw [same]
    exact congrArg (· + _) (cancelHeld_liveCount d n)
  | _ => simp [edit, liveCount, report, Submission.edited]

theorem amend_liveCount (found : d.submissions[k]? = some s) (edits : List Edit) :
    (d.amend k edits).liveCount + s.isLive.toNat = d.liveCount + (s.amended k k edits).isLive.toNat := by
  induction edits generalizing d s with
  | nil => rfl
  | cons x rest ih =>
    have kept := edit_submissions d k k x
    rw [found, Option.map_some] at kept
    have first := edit_liveCount found x
    have others := ih kept
    change _ = _ + ((s.edited k k x).amended k k rest).isLive.toNat
    rw [amend_cons]
    omega

/-! ### The balance -/

/-- Those outside and the tasks that are not finished hold the bus, and nobody else does. -/
def Tended (d : Desk) : Prop := d.bus.holders = d.outside + d.liveCount

theorem Tended.congr {e : Desk} (tended : d.Tended) (holders : e.bus.holders = d.bus.holders)
    (outside : e.outside = d.outside) (live : e.liveCount = d.liveCount) : e.Tended := by
  rw [Tended, holders, outside, live]
  exact tended

theorem Tended.amend (tended : d.Tended) (found : d.submissions[k]? = some s) {edits : List Edit}
    (balanced : s.Balanced k edits) : (d.amend k edits).Tended := by
  have live := amend_liveCount found edits
  -- a task that gives up its hold is among those that are counted
  have within : s.isLive.toNat ≤ d.liveCount := by
    cases own : s.isLive with
    | false => exact Nat.zero_le _
    | true => exact List.countP_pos_iff.mpr ⟨s, List.mem_of_getElem? found, own⟩
  unfold Tended at tended ⊢
  unfold Submission.Balanced at balanced
  rw [amend_holders, amend_outside]
  omega

theorem Tended.tearDown (tended : d.Tended) (k : Nat) : (d.tearDown k).Tended := by
  cases found : d.submissions[k]? with
  | none => simpa [Desk.tearDown, isLive, found] using tended
  | some s =>
    rw [tearDown_eq_amend found]
    cases finished : s.task.isFinished with
    | true => exact tended
    | false => exact tended.amend found (Submission.abandonment_balanced finished)

theorem Tended.tearDowns (tended : d.Tended) (ks : List Nat) : (ks.foldl Desk.tearDown d).Tended := by
  induction ks generalizing d with
  | nil => exact tended
  | cons k rest ih => exact ih (tended.tearDown k)

theorem Tended.enrol (tended : d.Tended) (fresh : s.isLive = true) : (d.enrol s).Tended := by
  have more : (d.enrol s).liveCount = d.liveCount + 1 := by
    simp [liveCount, Desk.enrol, List.countP_append, fresh]
  unfold Tended at tended ⊢
  rw [more, ← Nat.add_assoc]
  exact congrArg (· + 1) tended

theorem step_tended (tended : d.Tended) (m : Move) : (d.step m).Tended := by
  cases m with
  | submit resolver id request =>
    have accepted : ((d.enrol (d.incoming resolver id request)).amend d.submissions.length
        (d.incoming resolver id request).opening).Tended :=
      (tended.enrol rfl).amend (enrol_submissions d _) (Submission.opening_balanced _ _)
    simp only [step, submit_eq_amend]
    split
    · exact tended
    · split
      · exact accepted
      · exact accepted.tearDown _
  | poll k =>
    cases found : d.submissions[k]? with
    | none => simpa [step, poll, found] using tended
    | some s =>
      rw [step, poll_eq_amend found]
      exact tended.amend found (s.polling_balanced k d.now)
  | wake k =>
    cases found : d.submissions[k]? with
    | none => simpa [step, wake, isLive, found] using tended
    | some s =>
      have balanced : s.Balanced k [.wake] := Submission.balanced_of_silent rfl rfl
      exact tended.amend found balanced
  | cancel k =>
    exact tended.congr (congrArg Bus.holders (cancelHeld_bus d k)) (edit_outside d k (.cancel k))
      (cancelHeld_liveCount d k)
  | release k =>
    cases found : d.submissions[k]? with
    | none =>
      have absent : d.submissions.modify k ({ · with held := false }) = d.submissions :=
        List.modify_eq_self (List.getElem?_eq_none_iff.mp found)
      exact tended.congr rfl rfl (congrArg (List.countP Submission.isLive) absent)
    | some s => exact tended.congr rfl rfl (Nat.add_right_cancel (update_liveCount found _))
  | hear k =>
    cases found : d.submissions[k]? with
    | none => simpa [step, hear, found] using tended
    | some s =>
      rw [step, hear_eq_amend found]
      exact tended.amend found (s.hearing_balanced k)
  | tearDown k => exact tended.tearDown k
  | wait ms => exact tended
  | hold =>
    simp only [step, hold]
    split
    · exact tended
    · change d.bus.holders + 1 = d.outside + 1 + d.liveCount
      rw [tended]
      omega
  | letGo =>
    simp only [step, letGo]
    split
    · exact tended
    · change d.bus.holders - 1 = d.outside - 1 + d.liveCount
      rw [tended]
      omega
  | shutDown => exact Tended.tearDowns (d := { d with running := false }) tended _

theorem run_tended (tended : d.Tended) (ms : List Move) : (d.run ms).Tended := by
  induction ms generalizing d with
  | nil => exact tended
  | cons m rest ih => exact ih (step_tended tended m)

theorem new_tended {capacity : Nat} {bus : Bus Event} (opened : Bus.new capacity = .opened bus) :
    (Desk.new bus).Tended := by
  unfold Bus.new at opened
  split at opened
  · cases opened
  · split at opened
    · cases opened
    · cases opened
      rfl

/-- The bus is open as long as anybody is there outside or a task is not finished. -/
theorem Tended.isOpen (tended : d.Tended) :
    d.bus.isOpen = false ↔ d.outside = 0 ∧ ∀ s ∈ d.submissions, s.task.isFinished = true := by
  have finished : d.liveCount = 0 ↔ ∀ s ∈ d.submissions, s.task.isFinished = true := by
    rw [liveCount, List.countP_eq_zero]
    simp [Submission.isLive]
  rw [Bus.isOpen, decide_eq_false_iff_not, ← finished, tended]
  omega

end Desk

end TorrentAdmission
