import TorrentAdmission.Proofs.Desk.Dossier

/-!
# Who is awake

A task that has been woken stays awake until it has its turn or is dropped, whatever happens to the
others. A cancellation wakes the task it is for.
-/

namespace TorrentAdmission

namespace Desk

variable {d : Desk} {i k : Nat} {s : Submission} {ms : List Move}

theorem count_awake (d : Desk) (i : Nat) (what : Count) : (d.count i what).awake = d.awake := by
  unfold count
  split
  · split <;> rfl
  · rfl

theorem update_isLive (d : Desk) (k i : Nat) : (d.update k ({ · with cancelled := true })).isLive i = d.isLive i := by
  simp only [isLive, update_submissions]
  cases d.submissions[i]? with
  | none => rfl
  | some s => by_cases own : k = i <;> simp [own]

theorem mem_awake_wake (live : d.isLive i = true) : i ∈ (d.wake i).awake := by
  unfold wake
  split
  · exact List.mem_append_right _ (List.mem_singleton_self i)
  · rename_i already
    simpa [live] using already

theorem edit_stays_awake (awake : i ∈ d.awake) {x : Edit} (other : k = i → x ≠ .unwake) :
    i ∈ (d.edit k x).awake := by
  have woken : ∀ e : Desk, i ∈ e.awake → ∀ n, i ∈ (e.wake n).awake := by
    intro e member n
    unfold wake
    split
    · exact List.mem_append_left _ member
    · exact member
  cases x with
  | count what => simpa [edit, count_awake] using awake
  | announce event => simpa [edit, announce, count_awake, record] using awake
  | wake => exact woken d awake k
  | unwake =>
    have apart : i ≠ k := fun same => other same.symm rfl
    simpa [edit, unwake, apart] using awake
  | cancel n =>
    simp only [edit, cancelHeld, cancel]
    split
    · exact woken (d.update n _) awake n
    · exact awake
  | _ => exact awake

theorem amend_stays_awake (awake : i ∈ d.awake) (edits : List Edit)
    (other : k = i → Edit.unwake ∉ edits) : i ∈ (d.amend k edits).awake := by
  induction edits generalizing d with
  | nil => exact awake
  | cons x rest ih =>
    refine ih (edit_stays_awake awake ?_) ?_
    · rintro same rfl
      exact other same List.mem_cons_self
    · intro same member
      exact other same (List.mem_cons_of_mem x member)

/-- A task that is to have a turn has it or is dropped, or is still to have it. -/
theorem step_stays_awake (found : d.submissions[i]? = some s) (awake : i ∈ d.awake) {m : Move}
    (other : m ≠ .poll i) (kept : ¬ m.Drops i) : i ∈ (d.step m).awake := by
  have tornDown : ∀ e : Desk, i ∈ e.awake → ∀ n, n ≠ i → i ∈ (e.tearDown n).awake := by
    intro e member n apart
    cases there : e.submissions[n]? with
    | none => simpa [tearDown, isLive, there] using member
    | some t =>
      rw [tearDown_eq_amend there]
      exact amend_stays_awake member _ fun same => (apart same).elim
  cases m with
  | submit resolver id request =>
    have inside := (List.getElem?_eq_some_iff.mp found).1
    have enrolled : i ∈ (d.enrol (d.incoming resolver id request)).awake := List.mem_append_left _ awake
    have accepted := amend_stays_awake (k := d.submissions.length) enrolled
      (d.incoming resolver id request).opening (by simp [Submission.opening])
    simp only [step, submit_eq_amend]
    split
    · exact awake
    · split
      · exact accepted
      · exact tornDown _ accepted _ (by omega)
  | poll n =>
    have apart : n ≠ i := fun same => other (same ▸ rfl)
    cases there : d.submissions[n]? with
    | none => simpa [step, poll, there] using awake
    | some t =>
      rw [step, poll_eq_amend there]
      exact amend_stays_awake awake _ fun same => (apart same).elim
  | wake n => exact edit_stays_awake (x := .wake) awake (by simp)
  | cancel n => exact edit_stays_awake (k := n) (x := .cancel n) awake (by simp)
  | release n => exact awake
  | hear n =>
    cases there : d.submissions[n]? with
    | none => simpa [step, hear, there] using awake
    | some t =>
      rw [step, hear_eq_amend there]
      refine amend_stays_awake awake _ fun _ => ?_
      unfold Submission.hearing
      split <;> simp
  | tearDown n => exact tornDown d awake n fun same => kept (Or.inl (same ▸ rfl))
  | wait ms => exact awake
  | hold =>
    simp only [step, hold]
    split <;> exact awake
  | letGo =>
    simp only [step, letGo]
    split <;> exact awake
  | shutDown => exact (kept (Or.inr rfl)).elim

theorem run_stays_awake (found : d.submissions[i]? = some s) (awake : i ∈ d.awake)
    (other : Move.poll i ∉ ms) (kept : ∀ m ∈ ms, ¬ m.Drops i) : i ∈ (d.run ms).awake := by
  induction ms generalizing d s with
  | nil => exact awake
  | cons m rest ih =>
    obtain ⟨t, there, -⟩ := run_terms found [m]
    refine ih there (step_stays_awake found awake ?_ (kept m List.mem_cons_self)) ?_ ?_
    · rintro rfl
      exact other List.mem_cons_self
    · exact fun member => other (List.mem_cons_of_mem m member)
    · exact fun n member => kept n (List.mem_cons_of_mem m member)

theorem cancelHeld_wakes (found : d.submissions[i]? = some s) (held : s.held = true)
    (live : s.task.isFinished = false) : i ∈ (d.cancelHeld i).awake := by
  simp only [cancelHeld, cancel, found, Option.any_some, held, if_true]
  apply mem_awake_wake
  rw [update_isLive]
  simp [isLive, found, live]

end Desk

end TorrentAdmission
