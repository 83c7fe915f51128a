import TorrentAdmission.Desk.Timeline
import TorrentAdmission.Proofs.Desk.Effect
import TorrentAdmission.Proofs.Desk.Awake

/-!
# Rest

A task that has not begun, or that has yet to notice a cancellation, is awake. A turn puts a task to
sleep, and wakes another one only by cancelling it, which happens to a submission once. So there is an
end to the turns that tasks have at one instant, and then all of them are asleep.
-/

namespace TorrentAdmission

/-- The task must have a turn at once. -/
def Submission.Urgent (s : Submission) : Prop := s.task = .fresh ∨ s.cancelled = true

/-- A turn leaves a submission to wait, or ends it. -/
theorem Submission.turning_ends (s : Submission) (i : Nat)
    (turn : Turn (Step Progress (Except Failure (Torrent × Path)))) :
    (∃ progress, turn.result = .ok (.waiting progress)) ∨
      (s.amended i i (s.turning i turn)).task.isFinished = true := by
  obtain ⟨acts, crash | progress | result⟩ := turn
  · right
    rw [turning, amended_append, followUp, abandonment_task]
    rfl
  · exact Or.inl ⟨progress, rfl⟩
  · right
    rw [turning, amended_append, followUp]
    dsimp only
    split
    · rw [conclusion_task]
      rfl
    · rw [amended_settlement]
      rfl

namespace Desk

variable {d : Desk} {i k : Nat} {s : Submission} {P : Submission → Prop}

/-! ### Who has to be awake -/

/-- Submission `i` is awake if it is one of these and not finished. -/
def Rouses (d : Desk) (P : Submission → Prop) (i : Nat) : Prop :=
  ∀ s, d.submissions[i]? = some s → s.task.isFinished = false → P s → i ∈ d.awake

theorem edit_rouses (rouses : d.Rouses P i) {x : Edit}
    (other : k = i → x ≠ .unwake ∧ ∀ task, x ≠ .task task) : (d.edit k x).Rouses P i := by
  intro t found live urgent
  rw [edit_submissions] at found
  obtain ⟨s, there, rfl⟩ := Option.map_eq_some_iff.mp found
  have stays : s.edited k i x = s → i ∈ (d.edit k x).awake := by
    intro same
    rw [same] at live urgent
    exact edit_stays_awake (rouses s there live urgent) fun own => (other own).1
  cases x with
  | cancel n =>
    by_cases marked : n = i ∧ s.held = true
    · obtain ⟨rfl, held⟩ := marked
      apply cancelHeld_wakes there held
      simpa [Submission.edited, held] using live
    · apply stays
      simpa [Submission.edited] using fun own held => (marked ⟨own, held⟩).elim
  | task task =>
    by_cases own : k = i
    · exact ((other own).2 task rfl).elim
    · exact stays (if_neg own)
  | _ => exact stays rfl

theorem amend_rouses (rouses : d.Rouses P i) (edits : List Edit)
    (other : k = i → ∀ x ∈ edits, x ≠ .unwake ∧ ∀ task, x ≠ .task task) : (d.amend k edits).Rouses P i := by
  induction edits generalizing d with
  | nil => exact rouses
  | cons x rest ih =>
    refine ih (edit_rouses rouses fun own => other own x List.mem_cons_self) ?_
    exact fun own y member => other own y (List.mem_cons_of_mem x member)

theorem doing_rouses (rouses : d.Rouses P i) (s : Submission) (acts : List Act) :
    (d.amend k (acts.map s.doing)).Rouses P i := by
  refine amend_rouses rouses _ fun _ x member => ?_
  obtain ⟨act, -, rfl⟩ := List.mem_map.mp member
  cases act <;> simp [Submission.doing]

/-- After its turn a task must have another one at once only if it was cancelled meanwhile. -/
theorem poll_rouses (d : Desk) (i : Nat) : (d.poll i).Rouses Submission.Urgent i := by
  intro t found live urgent
  cases there : d.submissions[i]? with
  | none =>
    have absent : (d.poll i).submissions[i]? = none := by simp [poll, there]
    cases absent.symm.trans found
  | some s =>
    rw [poll_eq_amend there] at found ⊢
    rw [amend_submissions, there, Option.map_some] at found
    obtain rfl := Option.some.inj found
    have finishes : (s.amended i i (s.polling i d.now)).task.isFinished = true → i ∈
        (d.amend i (s.polling i d.now)).awake := fun finished => by cases live.symm.trans finished
    cases ended : s.task.isFinished with
    | true => exact finishes (by rw [s.polling_finished ended]; exact ended)
    | false =>
      cases cancelled : s.cancelled with
      | true =>
        apply finishes
        rw [s.polling_cancelled cancelled ended, Submission.conclusion_task]
        rfl
      | false =>
        obtain ⟨turn, turning⟩ := Submission.polling_live cancelled ended i d.now
        rw [turning] at finishes live urgent ⊢
        rcases s.turning_ends i turn with ⟨progress, waits⟩ | final
        · rw [Submission.turning, Submission.followUp, waits] at urgent ⊢
          rw [Submission.amended_append, Submission.amended_doing] at urgent
          cases stopped : s.isStopped i turn.acts with
          | true =>
            rw [if_pos rfl, amend_append, amend_append]
            apply mem_awake_wake
            rw [isLive, amend_submissions, amend_submissions, there]
            simp [Submission.amended, Submission.edited, Task.isFinished]
          | false => simp [Submission.Urgent, Submission.amended, Submission.edited, stopped] at urgent
        · exact finishes final

theorem poll_rouses_other (rouses : d.Rouses P i) (other : k ≠ i) : (d.poll k).Rouses P i := by
  cases there : d.submissions[k]? with
  | none => simpa [poll, there] using rouses
  | some s =>
    rw [poll_eq_amend there]
    exact amend_rouses rouses _ fun same => (other same).elim

theorem tearDown_rouses (rouses : d.Rouses Submission.Urgent i) (k : Nat) :
    (d.tearDown k).Rouses Submission.Urgent i := by
  cases there : d.submissions[k]? with
  | none => simpa [tearDown, isLive, there] using rouses
  | some s =>
    rw [tearDown_eq_amend there]
    by_cases own : k = i
    · subst own
      split
      · exact rouses
      · intro t found live urgent
        rw [amend_submissions, there, Option.map_some] at found
        obtain rfl := Option.some.inj found
        rw [Submission.abandonment_task] at live
        cases live
    · exact amend_rouses rouses _ fun same => (own same).elim

/-- Every task that must have a turn at once is awake. -/
def Alert (d : Desk) : Prop := ∀ i, d.Rouses Submission.Urgent i

theorem new_alert (bus : Bus Event) : (Desk.new bus).Alert := by
  intro i s found
  simp [new] at found

/-- A desk at which the same submissions wait for their turns, and at which those that are urgent were so before. -/
theorem Alert.congr {e : Desk} (alert : d.Alert) (awake : e.awake = d.awake)
    (urgent : ∀ (i : Nat) (t : Submission), e.submissions[i]? = some t →
      ∃ s : Submission, d.submissions[i]? = some s ∧ s.task = t.task ∧ s.cancelled = t.cancelled) : e.Alert := by
  intro i t found live now
  obtain ⟨s, there, task, cancelled⟩ := urgent i t found
  rw [awake]
  refine alert i s there (by rw [task, live]) ?_
  rw [Submission.Urgent, task, cancelled]
  exact now

theorem enrol_alert (alert : d.Alert) (s : Submission) : (d.enrol s).Alert := by
  intro i t found live urgent
  by_cases earlier : i < d.submissions.length
  · rw [enrol, List.getElem?_append_left earlier] at found
    exact List.mem_append_left _ (alert i t found live urgent)
  · have inside := (List.getElem?_eq_some_iff.mp found).1
    simp only [enrol, List.length_append, List.length_singleton] at inside
    refine List.mem_append_right _ (List.mem_singleton.mpr ?_)
    omega

theorem step_alert (alert : d.Alert) (m : Move) : (d.step m).Alert := by
  have amended : ∀ (e : Desk) (k : Nat) (edits : List Edit), e.Alert →
      (∀ x ∈ edits, x ≠ .unwake ∧ ∀ task, x ≠ .task task) → (e.amend k edits).Alert :=
    fun e k edits alert others i => amend_rouses (alert i) edits fun _ => others
  have tornDown : ∀ (e : Desk) (ks : List Nat), e.Alert → (ks.foldl tearDown e).Alert := by
    intro e ks alert
    induction ks generalizing e with
    | nil => exact alert
    | cons k rest ih => exact ih _ fun i => tearDown_rouses (alert i) k
  cases m with
  | submit resolver id request =>
    have accepted := amended (d.enrol (d.incoming resolver id request)) d.submissions.length
      (d.incoming resolver id request).opening (enrol_alert alert _) (by simp [Submission.opening])
    simp only [step, submit_eq_amend]
    split
    · exact alert
    · split
      · exact accepted
      · exact fun i => tearDown_rouses (accepted i) _
  | poll k =>
    intro i
    by_cases own : k = i
    · subst own
      exact poll_rouses d k
    · exact poll_rouses_other (alert i) own
  | wake k => exact amended d k [.wake] alert (by simp)
  | cancel k => exact amended d k [.cancel k] alert (by simp)
  | release k =>
    refine alert.congr rfl fun i t found => ?_
    rw [step, release, update_submissions] at found
    obtain ⟨s, there, rfl⟩ := Option.map_eq_some_iff.mp found
    refine ⟨s, there, ?_⟩
    split <;> exact ⟨rfl, rfl⟩
  | hear k =>
    cases there : d.submissions[k]? with
    | none => simpa [step, hear, there] using alert
    | some s =>
      rw [step, hear_eq_amend there]
      apply amended d k _ alert
      unfold Submission.hearing
      split <;> simp
  | tearDown k => exact fun i => tearDown_rouses (alert i) k
  | wait ms => exact alert.congr rfl fun i t found => ⟨t, found, rfl, rfl⟩
  | hold =>
    simp only [step, hold]
    split
    · exact alert
    · exact alert.congr rfl fun i t found => ⟨t, found, rfl, rfl⟩
  | letGo =>
    simp only [step, letGo]
    split
    · exact alert
    · exact alert.congr rfl fun i t found => ⟨t, found, rfl, rfl⟩
  | shutDown => exact tornDown _ _ (alert.congr rfl fun i t found => ⟨t, found, rfl, rfl⟩)

theorem run_alert (alert : d.Alert) (ms : List Move) : (d.run ms).Alert := by
  induction ms generalizing d with
  | nil => exact alert
  | cons m rest ih => exact ih (step_alert alert m)

theorem turn_alert (alert : d.Alert) (k : Nat) : ((d.unwake k).poll k).Alert := by
  intro i
  by_cases own : k = i
  · subst own
    exact poll_rouses _ k
  · refine poll_rouses_other (fun s found live urgent => ?_) own
    simpa [unwake, Ne.symm own] using alert i s found live urgent

/-! ### Turns come to an end -/

/-- The turns that tasks may have until all are asleep. -/
def stir (d : Desk) : Nat :=
  d.awake.length + d.submissions.countP fun s => !s.cancelled

theorem unwake_stir (awake : k ∈ d.awake) : (d.unwake k).stir < d.stir := by
  refine Nat.add_lt_add_right ?_ _
  exact List.length_filter_lt_length_iff_exists.mpr ⟨k, awake, by simp⟩

theorem wake_stir (d : Desk) (k : Nat) : (d.wake k).stir ≤ d.stir + 1 := by
  unfold wake
  split
  · simp only [stir, List.length_append, List.length_singleton]
    omega
  · exact Nat.le_succ _

theorem wake_of_awake (awake : d.isLive k = true → k ∈ d.awake) : d.wake k = d := by
  refine if_neg fun asleep => ?_
  obtain ⟨live, absent⟩ := (Bool.and_eq_true _ _).mp asleep
  simp [awake live] at absent

theorem countP_modify {α : Type} (p : α → Bool) (f : α → α) {l : List α} {a : α} (found : l[k]? = some a) :
    (l.modify k f).countP p + (if p a then 1 else 0) = l.countP p + if p (f a) then 1 else 0 := by
  induction l generalizing k with
  | nil => cases found
  | cons b rest ih =>
    cases k with
    | zero =>
      obtain rfl : b = a := Option.some.inj found
      simp only [List.modify_zero_cons, List.countP_cons]
      omega
    | succ n =>
      have tail := ih found
      simp only [List.modify_succ_cons, List.countP_cons]
      omega

theorem amend_stir (found : d.submissions[k]? = some s) (edits : List Edit)
    (calm : ∀ x ∈ edits, x ≠ .wake ∧ ∀ n, x ≠ .cancel n) : (d.amend k edits).stir ≤ d.stir := by
  induction edits generalizing d s with
  | nil => exact Nat.le_refl _
  | cons x rest ih =>
    have kept := edit_submissions d k k x
    rw [found, Option.map_some] at kept
    refine Nat.le_trans (ih kept fun y member => calm y (List.mem_cons_of_mem x member)) ?_
    obtain ⟨quiet, uncancelling⟩ := calm x List.mem_cons_self
    cases x with
    | wake => exact (quiet rfl).elim
    | cancel n => exact (uncancelling n rfl).elim
    | unwake => exact Nat.add_le_add_right (List.length_filter_le _ _) _
    | count what => simp [edit, stir, count_awake]
    | announce event => simp [edit, stir, announce, count_awake, record]
    | task task =>
      have same := countP_modify (fun s => !s.cancelled) ({ · with task }) found
      exact Nat.add_le_add_left (Nat.le_of_eq (Nat.add_right_cancel same)) _
    | _ => exact Nat.le_refl _

/-- A cancellation that wakes a task is the first one of its submission. -/
theorem cancelHeld_stir (heeding : ∀ n, d.Rouses (·.cancelled = true) n) (k : Nat) :
    (d.cancelHeld k).stir ≤ d.stir := by
  cases found : d.submissions[k]? with
  | none => exact Nat.le_of_eq (congrArg stir (cancelHeld_of_none found))
  | some s =>
    have marked := countP_modify (fun s => !s.cancelled) ({ · with cancelled := true }) found
    simp only [cancelHeld, cancel, found, Option.any_some]
    split
    · cases cancelled : s.cancelled with
      | false =>
        rw [cancelled] at marked
        apply Nat.le_trans (wake_stir _ k)
        change d.awake.length + _ + 1 ≤ d.awake.length + _
        exact Nat.add_le_add_left (Nat.le_of_eq marked) _
      | true =>
        rw [cancelled] at marked
        have awake : (d.update k ({ · with cancelled := true })).isLive k = true → k ∈ d.awake := by
          intro live
          rw [update_isLive] at live
          exact heeding k s found (by simpa [isLive, found] using live) cancelled
        rw [wake_of_awake awake]
        exact Nat.add_le_add_left (Nat.le_of_eq marked) _
    · exact Nat.le_refl _

theorem doing_stir (heeding : ∀ n, d.Rouses (·.cancelled = true) n) (s : Submission) (acts : List Act) :
    (d.amend k (acts.map s.doing)).stir ≤ d.stir := by
  induction acts generalizing d with
  | nil => exact Nat.le_refl _
  | cons act rest ih =>
    have kept : ∀ n, (d.amend k ([act].map s.doing)).Rouses (·.cancelled = true) n := fun n =>
      doing_rouses (heeding n) s [act]
    apply Nat.le_trans (ih kept)
    cases act with
    | cancel n => exact cancelHeld_stir heeding n
    | _ => exact Nat.le_refl _

theorem conclusion_calm (s : Submission) (o : Outcome) :
    ∀ x ∈ s.conclusion o, x ≠ .wake ∧ ∀ n, x ≠ .cancel n := by
  cases o <;> simp [Submission.conclusion, Submission.closing, Submission.retiring]

theorem followUp_stir (found : d.submissions[k]? = some s) (t : Submission)
    (turn : Turn (Step Progress (Except Failure (Torrent × Path))))
    (heeds : t.isStopped k turn.acts = true → k ∈ d.awake) : (d.amend k (t.followUp k turn)).stir ≤ d.stir := by
  obtain ⟨acts, result⟩ := turn
  unfold Submission.followUp
  rcases result with crash | progress | result
  · apply amend_stir found _
    simp [Submission.abandonment, Submission.closing, Submission.retiring]
  · dsimp only
    split
    · rename_i stopped
      rw [amend_append]
      refine Nat.le_trans (wake_stir _ k) (Nat.le_trans (unwake_stir ?_) ?_)
      · exact heeds stopped
      · exact amend_stir found [.task (.resolving progress)] (by simp)
    · exact amend_stir found _ (by simp)
  · dsimp only
    split
    · exact amend_stir found _ (conclusion_calm t _)
    · apply amend_stir found _
      rcases result with e | ⟨torrent, path⟩
      · simpa [Submission.settlement] using conclusion_calm t (.failed e)
      · cases path <;> simpa [Submission.settlement] using conclusion_calm t (.resolved torrent)

theorem turn_stir (alert : d.Alert) (awake : k ∈ d.awake) : ((d.unwake k).poll k).stir < d.stir := by
  refine Nat.lt_of_le_of_lt ?_ (unwake_stir awake)
  cases found : d.submissions[k]? with
  | none => simp [poll, found]
  | some s =>
    have same : (d.unwake k).submissions[k]? = some s := found
    rw [poll_eq_amend same]
    cases ended : s.task.isFinished with
    | true => rw [s.polling_finished ended]; exact Nat.le_refl _
    | false =>
      cases cancelled : s.cancelled with
      | true => rw [s.polling_cancelled cancelled ended]; exact amend_stir same _ (conclusion_calm s _)
      | false =>
        obtain ⟨turn, turning⟩ := Submission.polling_live cancelled ended k (d.unwake k).now
        -- The task itself may be urgent and is asleep now, but it is not cancelled yet.
        have heeding : ∀ n, (d.unwake k).Rouses (·.cancelled = true) n := by
          intro n t there live marked
          have apart : n ≠ k := by
            rintro rfl
            obtain rfl := Option.some.inj (same.symm.trans there)
            cases cancelled.symm.trans marked
          simpa [unwake, apart] using alert n t there live (Or.inr marked)
        have kept := amend_submissions (d.unwake k) k k (turn.acts.map s.doing)
        rw [same, Option.map_some, Submission.amended_doing] at kept
        rw [turning, Submission.turning, amend_append]
        refine Nat.le_trans (followUp_stir kept s turn fun stopped => ?_) (doing_stir heeding s turn.acts)
        exact doing_rouses (heeding k) s turn.acts _ kept ended stopped

/-! ### Turns one after another -/

variable {fuel : Nat}

theorem takeTurns_asleep (alert : d.Alert) (enough : d.stir ≤ fuel) : (takeTurns fuel d).awake = [] := by
  induction fuel generalizing d with
  | zero =>
    have none : d.awake.length ≤ 0 := Nat.le_trans (Nat.le_add_right _ _) enough
    exact List.eq_nil_of_length_eq_zero (Nat.eq_zero_of_le_zero none)
  | succ fuel ih =>
    cases awake : d.awake with
    | nil => simp [takeTurns, awake]
    | cons k rest =>
      have less := turn_stir (k := k) alert (by rw [awake]; exact List.mem_cons_self)
      simp only [takeTurns, awake]
      exact ih (turn_alert alert k) (by omega)

/-- When the tasks that are awake have had their turns, all are asleep. -/
theorem runAwake_asleep (alert : d.Alert) : d.runAwake.awake = [] :=
  takeTurns_asleep alert (Nat.add_le_add_left List.countP_le_length _)

end Desk

end TorrentAdmission
