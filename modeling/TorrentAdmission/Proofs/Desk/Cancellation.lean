import TorrentAdmission.Proofs.Desk.Apart
import TorrentAdmission.Proofs.Desk.Ending

/-!
# Cancellations

A submission that is cancelled before its task has come to an end is doomed: the next turn of the task
ends it as cancelled, whatever is due by then, and nothing is asked of the backend any more. If the task
has come to an end, the cancellation leaves a mark that nothing looks at. `run_cancels` states both,
and that no other submission notices either.
-/

namespace TorrentAdmission

/-! ### Cancelled before the end -/

def Count.isWinner : Count → Bool
  | .winner _ => true
  | _ => false

/-- The submission has been cancelled in time. It makes no calls besides `calls`. -/
structure Dossier.Doomed (calls : List Call) (x : Dossier) : Prop where
  cancelled : x.submission.cancelled = true
  calls : x.calls = calls
  task : x.submission.task.isFinished = false ∨ x.submission.task = .settled .cancelled

namespace Dossier

variable {x y : Dossier} {i now : Nat} {calls : List Call} {m : Move}

theorem Doomed.polled (doomed : x.Doomed calls) (i now : Nat) :
    (x.amend i now (x.submission.polling i now)).Doomed calls ∧
      (x.amend i now (x.submission.polling i now)).submission.task = .settled .cancelled := by
  obtain ⟨cancelled, called, live | ended⟩ := doomed
  · have gains := x.amend_gains i now (x.submission.conclusion .cancelled)
    rw [Submission.polling_cancelled cancelled live]
    refine ⟨⟨?_, ?_, Or.inr ?_⟩, ?_⟩
    · rw [amend, Submission.amended_conclusion, cancelled]
    · rw [gains.calls, Submission.conclusion_call, List.append_nil, called]
    · rw [amend, Submission.amended_conclusion]
    · rw [amend, Submission.amended_conclusion]
  · rw [Submission.polling_finished (by rw [ended]; rfl), amend_nil]
    exact ⟨⟨cancelled, called, Or.inr ended⟩, ended⟩

/-- No path is counted for a doomed submission. -/
theorem Doomed.winners (doomed : x.Doomed calls) (sound : x.Sound) : x.counts.filter Count.isWinner = [] := by
  have ends : x.submission.task.outcome? = none ∨ x.submission.task.outcome? = some .cancelled := by
    rcases doomed.task with unfinished | settled
    · exact Or.inl (Task.outcome?_eq_none unfinished)
    · right
      rw [settled]
      rfl
  rw [sound.counts]
  split
  · rcases ends with none | cancelled
    · rw [none]
      rfl
    · rw [cancelled]
      rfl
  · rfl

theorem Step.doomed (step : x.Step m i now y) (kept : ¬ m.Drops i) (doomed : x.Doomed calls) :
    y.Doomed calls := by
  cases step with
  | kept => exact doomed
  | cancelled held => exact ⟨rfl, doomed.calls, doomed.task⟩
  | released move => exact ⟨doomed.cancelled, doomed.calls, doomed.task⟩
  | heard move =>
    have silent : x.submission.hearing = [] := by
      unfold Submission.hearing
      rcases doomed.task with live | ended
      · split
        · rename_i aborted
          rw [aborted] at live
          cases live
        · rfl
      · rw [ended]
    rw [silent, amend_nil]
    exact doomed
  | polled move => exact (doomed.polled i now).1
  | dropped move live => exact (kept move).elim

/-- A task that has no turn and is not dropped does not end. -/
theorem Step.live (step : x.Step m i now y) (kept : ¬ m.Drops i) (other : m ≠ .poll i)
    (live : x.submission.task.isFinished = false) : y.submission.task.isFinished = false := by
  cases step with
  | kept => exact live
  | cancelled held => exact live
  | released move => exact live
  | heard move => rwa [amend, Submission.amended_hearing]
  | polled move => exact (other move).elim
  | dropped move _ => exact (kept move).elim

end Dossier

namespace Desk

variable {d : Desk} {i k : Nat} {s : Submission} {x : Dossier} {calls : List Call} {ms : List Move}

theorem cancelHeld_own (opened : d.dossier? i = some x) (held : x.submission.held = true) :
    (d.cancelHeld i).dossier? i = some ⟨{ x.submission with cancelled := true }, x.past⟩ := by
  obtain ⟨found, past⟩ := dossier?_eq_some.mp opened
  rw [dossier?_eq_some, cancelHeld_submissions, found, chronicle, cancelHeld_history]
  exact ⟨by simp [Submission.edited, held], past⟩

/-- What becomes of a doomed submission: it has ended as cancelled if its task has had a turn. -/
theorem run_doomed (opened : d.dossier? i = some x) (doomed : x.Doomed calls)
    (live : x.submission.task.isFinished = false) (kept : ∀ m ∈ ms, ¬ m.Drops i) :
    ∃ y, (d.run ms).dossier? i = some y ∧ y.Doomed calls ∧
      (Move.poll i ∈ ms → y.submission.task = .settled .cancelled) ∧
      (Move.poll i ∉ ms → y.submission.task.isFinished = false) := by
  by_cases turn : Move.poll i ∈ ms
  -- The first turn ends it, up to there it is doomed and from there on finished.
  · obtain ⟨early, late, rfl⟩ := List.append_of_mem turn
    obtain ⟨w, first, still⟩ := run_keeps (P := (·.Doomed calls)) early
      (fun m member _ _ _ step => step.doomed (kept m (List.mem_append_left _ member))) opened doomed
    obtain ⟨ends, settled⟩ := still.polled i (d.run early).now
    obtain ⟨y, last, stays, same⟩ := run_keeps
      (P := fun y => y.Doomed calls ∧ y.submission.task = .settled .cancelled) late
      (fun m member _ _ _ step h =>
        ⟨step.doomed (kept m (List.mem_append_right _ (List.mem_cons_of_mem _ member))) h.1,
          (step.finished (by rw [h.2]; rfl)).trans h.2⟩)
      (poll_dossier first) ⟨ends, settled⟩
    refine ⟨y, ?_, stays, fun _ => same, fun none => (none turn).elim⟩
    rw [run_append]
    exact last
  · obtain ⟨y, last, still, waiting⟩ := run_keeps
      (P := fun y => y.Doomed calls ∧ y.submission.task.isFinished = false) ms
      (fun m member _ _ _ step h =>
        ⟨step.doomed (kept m member) h.1,
          step.live (kept m member) (fun same => turn (same ▸ member)) h.2⟩)
      opened ⟨doomed, live⟩
    exact ⟨y, last, still, fun some => (turn some).elim, fun _ => waiting⟩

/-! ### Cancelled after the end -/

/-- Marks submission `i` as cancelled and wakes nobody. -/
def mark (d : Desk) (i : Nat) : Desk := d.update i ({ · with cancelled := true })

theorem update_comm (d : Desk) (i k : Nat) {f g : Submission → Submission} (commute : ∀ s, f (g s) = g (f s)) :
    (d.update i g).update k f = (d.update k f).update i g := by
  unfold update
  congr 1
  by_cases own : i = k
  · subst own
    rw [List.modify_modify_eq, List.modify_modify_eq]
    exact congrArg (d.submissions.modify i) (funext commute)
  · exact List.modify_modify_ne _ _ _ own

theorem modify_append {i : Nat} (inside : i < d.submissions.length) (t : Submission) (f : Submission → Submission) :
    (d.submissions ++ [t]).modify i f = d.submissions.modify i f ++ [t] := by
  refine List.ext_getElem? fun k => ?_
  simp only [List.getElem?_modify, List.getElem?_append, List.length_modify]
  by_cases old : k < d.submissions.length
  · simp only [if_pos old]
  · have other : i ≠ k := by omega
    simp only [if_neg old, if_neg other, id_map']

theorem mark_awake (d : Desk) (i : Nat) : (d.mark i).awake = d.awake := rfl

theorem mark_outside (d : Desk) (i : Nat) : (d.mark i).outside = d.outside := rfl

theorem mark_length (d : Desk) (i : Nat) : (d.mark i).submissions.length = d.submissions.length :=
  List.length_modify ..

theorem mark_submissions (d : Desk) (i k : Nat) : (d.mark i).submissions[k]? =
    d.submissions[k]?.map fun s => if i = k then { s with cancelled := true } else s :=
  update_submissions d i k _

theorem mark_isLive (d : Desk) (i k : Nat) : (d.mark i).isLive k = d.isLive k := update_isLive d i k

theorem mark_update (d : Desk) (i k : Nat) (f : Submission → Submission)
    (commute : ∀ s : Submission, f { s with cancelled := true } = { f s with cancelled := true }) :
    (d.mark i).update k f = (d.update k f).mark i :=
  update_comm d i k commute

theorem mark_wake (d : Desk) (i k : Nat) : (d.mark i).wake k = (d.wake k).mark i := by
  simp only [wake, mark_isLive, mark_awake]
  split <;> rfl

theorem mark_count (d : Desk) (i k : Nat) (what : Count) :
    (d.mark i).count k what = (d.count k what).mark i := by
  simp only [count, mark_submissions]
  cases d.submissions[k]? with
  | none => rfl
  | some s =>
    have metered : (if i = k then { s with cancelled := true } else s).resolver = s.resolver := by
      split <;> rfl
    simp only [Option.map_some, metered]
    split <;> rfl

theorem mark_edit (d : Desk) (i k : Nat) (x : Edit) : (d.mark i).edit k x = (d.edit k x).mark i := by
  cases x with
  | count what => exact mark_count d i k what
  | announce event =>
    exact mark_count ({ d with bus := (d.bus.publish event).2 }.record k (.published ⟨d.bus.nextId, event⟩))
      i k _
  | task task => exact mark_update d i k _ fun _ => rfl
  | wake => exact mark_wake d i k
  | cancel n =>
    have held : (d.mark i).submissions[n]?.any (·.held) = d.submissions[n]?.any (·.held) := by
      rw [mark_submissions]
      cases d.submissions[n]? with
      | none => rfl
      | some s => by_cases own : i = n <;> simp [own]
    simp only [edit, cancelHeld, cancel, held]
    split
    · rw [mark_update d i n _ fun _ => rfl, mark_wake]
    · rfl
  | _ => rfl

theorem mark_amend (d : Desk) (i k : Nat) (edits : List Edit) :
    (d.mark i).amend k edits = (d.amend k edits).mark i := by
  induction edits generalizing d with
  | nil => rfl
  | cons x rest ih => rw [amend_cons, amend_cons, mark_edit, ih]

theorem mark_tearDown (d : Desk) (i k : Nat) : (d.mark i).tearDown k = (d.tearDown k).mark i := by
  cases found : d.submissions[k]? with
  | none =>
    have absent : d.isLive k = false := by simp [isLive, found]
    simp [tearDown, mark_isLive, absent]
  | some s =>
    have marked := mark_submissions d i k
    rw [found, Option.map_some] at marked
    rw [tearDown_eq_amend found, tearDown_eq_amend marked, mark_amend]
    split <;> rfl

theorem mark_tearDowns (d : Desk) (i : Nat) (ks : List Nat) :
    ks.foldl tearDown (d.mark i) = (ks.foldl tearDown d).mark i := by
  induction ks generalizing d with
  | nil => rfl
  | cons k rest ih => rw [List.foldl_cons, List.foldl_cons, mark_tearDown, ih]

theorem mark_enrol (found : d.submissions[i]? = some s) (t : Submission) :
    (d.mark i).enrol t = (d.enrol t).mark i := by
  have inside := (List.getElem?_eq_some_iff.mp found).1
  have appended := modify_append inside t ({ · with cancelled := true })
  simp only [mark, update, enrol, appended, List.length_modify]

/-- Nothing that happens at a desk looks at the mark of a submission that has ended. -/
theorem mark_step (found : d.submissions[i]? = some s) (finished : s.task.isFinished = true) (m : Move) :
    (d.mark i).step m = (d.step m).mark i := by
  cases m with
  | submit resolver id request =>
    have incoming : (d.mark i).incoming resolver id request = d.incoming resolver id request := rfl
    have running : (d.mark i).running = d.running := rfl
    simp only [step, submit_eq_amend, incoming, mark_length, mark_outside, running, mark_enrol found,
      mark_amend, mark_tearDown]
    split
    · rfl
    · split <;> rfl
  | poll k =>
    cases there : d.submissions[k]? with
    | none => simp [step, poll, mark_submissions, there]
    | some t =>
      have marked := mark_submissions d i k
      rw [there, Option.map_some] at marked
      have edits : (if i = k then { t with cancelled := true } else t).polling k d.now = t.polling k d.now := by
        split
        · rename_i own
          subst own
          obtain rfl := Option.some.inj (found.symm.trans there)
          rw [Submission.polling_finished finished, Submission.polling_finished (s := { s with cancelled := true }) finished]
        · rfl
      rw [step, step, poll_eq_amend there, poll_eq_amend marked, ← mark_amend]
      exact congrArg ((d.mark i).amend k) edits
  | wake k => exact mark_edit d i k .wake
  | cancel k => exact mark_edit d i k (.cancel k)
  | release k => exact mark_update d i k _ fun _ => rfl
  | hear k =>
    cases there : d.submissions[k]? with
    | none => simp [step, hear, mark_submissions, there]
    | some t =>
      have marked := mark_submissions d i k
      rw [there, Option.map_some] at marked
      rw [step, step, hear_eq_amend there, hear_eq_amend marked, ← mark_amend]
      split <;> rfl
  | tearDown k => exact mark_tearDown d i k
  | wait ms => rfl
  | hold =>
    have outside := mark_outside d i
    simp only [step, hold]
    by_cases shut : d.outside = 0
    · rw [if_pos shut, if_pos (outside.trans shut)]
    · rw [if_neg shut, if_neg (outside.symm ▸ shut)]
      rfl
  | letGo =>
    have outside := mark_outside d i
    simp only [step, letGo]
    by_cases shut : d.outside = 0
    · rw [if_pos shut, if_pos (outside.trans shut)]
    · rw [if_neg shut, if_neg (outside.symm ▸ shut)]
      rfl
  | shutDown =>
    simp only [step, shutDown, mark_length]
    exact mark_tearDowns { d with running := false } i _

theorem mark_run (found : d.submissions[i]? = some s) (finished : s.task.isFinished = true) (ms : List Move) :
    (d.mark i).run ms = (d.run ms).mark i := by
  induction ms generalizing d s with
  | nil => rfl
  | cons m rest ih =>
    obtain ⟨x, after, step⟩ := step_dossier m (dossier?_of_found found)
    have still : x.submission.task.isFinished = true := by rw [step.finished finished, finished]
    rw [run, run, mark_step found finished]
    exact ih (dossier?_eq_some.mp after).1 still

theorem cancelHeld_finished (found : d.submissions[i]? = some s) (held : s.held = true)
    (finished : s.task.isFinished = true) : d.cancelHeld i = d.mark i := by
  have ended : (d.update i ({ · with cancelled := true })).isLive i = false := by
    rw [update_isLive]
    simp [isLive, found, finished]
  simp only [cancelHeld, cancel, found, Option.any_some, held, if_true, wake, ended, Bool.false_and]
  rfl

/-! ### Both -/

section
variable {bus : Bus Event} {before after : List Move}

theorem run_cancels_live (found : ((Desk.new bus).run before).submissions[i]? = some s)
    (held : s.held = true) (live : s.task.isFinished = false) (kept : ∀ m ∈ after, ¬ m.Drops i) :
    let d := (Desk.new bus).run before
    let e := (d.step (.cancel i)).run after
    e.callsOf i = d.callsOf i ∧ (s.task = .fresh → e.callsOf i = []) ∧
    (e.countsOf i).filter Count.isWinner = [] ∧
    (Move.poll i ∉ after → i ∈ e.awake ∧ e.outcome? i = none ∧
      (e.eventsOf i).map Posted.content = [s.acceptance]) ∧
    (Move.poll i ∈ after → e.outcome? i = some .cancelled ∧
      (e.eventsOf i).map Posted.content = [s.acceptance, .cancelled s.id]) := by
  intro d e
  have opened := dossier?_of_found found
  have marked := cancelHeld_own opened held
  obtain ⟨⟨t, past⟩, last, doomed, ended, waiting⟩ :=
    run_doomed marked ⟨rfl, rfl, Or.inl live⟩ live kept
  obtain ⟨there, rfl⟩ := dossier?_eq_some.mp last
  change e.submissions[i]? = some t at there
  have terms : t.terms = s.terms := by
    obtain ⟨u, same, terms⟩ := run_terms found (.cancel i :: after)
    obtain rfl := Option.some.inj (there.symm.trans same)
    exact terms
  have whole : e = (Desk.new bus).run (before ++ .cancel i :: after) :=
    (run_append (Desk.new bus) before (.cancel i :: after)).symm
  have sound : (Dossier.mk t (e.chronicle i)).Sound :=
    run_sound bus (before ++ .cancel i :: after) i _ (by rw [← whole]; exact last)
  have announced := eventsOf_eq_events sound
  rw [Submission.acceptance_of_terms terms, Submission.id_of_terms terms] at announced
  have calls : e.callsOf i = d.callsOf i := by
    rw [callsOf_eq, callsOf_eq]
    exact doomed.calls
  refine ⟨calls, ?_, ?_, ?_, ?_⟩
  · intro fresh
    rw [calls, callsOf_eq]
    exact (run_submissions_sound bus before i s found).unstarted fresh
  · rw [countsOf_eq]
    exact doomed.winners sound
  · intro unpolled
    have outcome : t.task.outcome? = none := Task.outcome?_eq_none (waiting unpolled)
    refine ⟨?_, (outcome?_of_found there).trans outcome, ?_⟩
    · exact run_stays_awake (dossier?_eq_some.mp marked).1 (cancelHeld_wakes found held live) unpolled kept
    · rw [announced, outcome]
      rfl
  · intro polled
    have outcome : t.task.outcome? = some .cancelled := by
      rw [show t.task = .settled .cancelled from ended polled]
      rfl
    refine ⟨(outcome?_of_found there).trans outcome, ?_⟩
    rw [announced, outcome]
    rfl

theorem run_cancels_finished {d : Desk} (found : d.submissions[i]? = some s) (held : s.held = true)
    (finished : s.task.isFinished = true) :
    (d.step (.cancel i)).run after = (d.run after).mark i := by
  rw [step, cancelHeld_finished found held finished]
  exact mark_run found finished after

theorem run_cancels_apart (found : ((Desk.new bus).run before).submissions[i]? = some s)
    (spares : s.resolver.backend.Spares (· = i) s.id) {instead : List Move}
    (same : instead.filter (·.shown (· != i)) = after.filter (·.shown (· != i))) :
    Alike (· != i) ((((Desk.new bus).run before).step (.cancel i)).run after)
      (((Desk.new bus).run before).run instead) := by
  have hidden : (fun k => (k != i) = false) = (· = i) := by
    funext k
    simp
  have known : ∀ ms k t, (k != i) = false → ((Desk.new bus).run (before ++ ms)).submissions[k]? = some t →
      t.resolver.backend.Spares (fun k => (k != i) = false) t.id := by
    intro ms k t own there
    obtain rfl : k = i := by simpa using own
    rw [run_append] at there
    obtain ⟨u, last, terms⟩ := run_terms found ms
    obtain rfl := Option.some.inj (there.symm.trans last)
    rw [hidden, Submission.resolver_of_terms terms, Submission.id_of_terms terms]
    exact spares
  have left := run_alike (known (.cancel i :: after)) (Alike.refl _)
  have right := run_alike (known instead) (Alike.refl _)
  have unseen : (Move.cancel i).shown (· != i) = false := by simp [Move.shown]
  rw [List.filter_cons_of_neg (by simp [unseen]), ← same, run_append] at left
  rw [run_append] at right
  exact left.trans right.symm

end

/-- An owner cancels a submission after any moves. If its task is not finished, no call is made for it
any more and no winning path is counted; its task is to have a turn, and with that turn it ends as
cancelled, whatever else is due. If its task is finished, all goes on as without the cancellation, but for
the mark. In both cases the other submissions are as they would be after any moves that differ only in
those that concern this one, as long as no answer to its own calls cancels another. -/
theorem run_cancels (bus : Bus Event) (before after : List Move) (i : Nat) (s : Submission)
    (found : ((Desk.new bus).run before).submissions[i]? = some s) (held : s.held = true) :
    let d := (Desk.new bus).run before
    let e := (d.step (.cancel i)).run after
    (s.task.isFinished = false → (∀ m ∈ after, ¬ m.Drops i) →
      e.callsOf i = d.callsOf i ∧ (s.task = .fresh → e.callsOf i = []) ∧
      (e.countsOf i).filter Count.isWinner = [] ∧
      (Move.poll i ∉ after → i ∈ e.awake ∧ e.outcome? i = none ∧
        (e.eventsOf i).map Posted.content = [s.acceptance]) ∧
      (Move.poll i ∈ after → e.outcome? i = some .cancelled ∧
        (e.eventsOf i).map Posted.content = [s.acceptance, .cancelled s.id])) ∧
    (s.task.isFinished = true →
      e = (d.run after).mark i ∧ e.journal = (d.run after).journal ∧ e.bus = (d.run after).bus ∧
      e.metrics = (d.run after).metrics ∧ e.awake = (d.run after).awake ∧
      ∀ k, e.outcome? k = (d.run after).outcome? k) ∧
    (s.resolver.backend.Spares (· = i) s.id → ∀ instead : List Move,
      instead.filter (·.shown (· != i)) = after.filter (·.shown (· != i)) →
      e.awake.filter (· != i) = (d.run instead).awake.filter (· != i) ∧
      ∀ k, k ≠ i → e.dossier? k = (d.run instead).dossier? k) := by
  intro d e
  refine ⟨run_cancels_live found held, ?_, ?_⟩
  · intro finished
    have marked : e = (d.run after).mark i := run_cancels_finished found held finished
    rw [marked]
    refine ⟨rfl, rfl, rfl, rfl, rfl, fun k => ?_⟩
    rw [outcome?, outcome?, mark_submissions]
    cases (d.run after).submissions[k]? with
    | none => rfl
    | some t => by_cases own : i = k <;> simp [own]
  · intro spares instead same
    have alike := run_cancels_apart found spares same
    refine ⟨alike.awake, fun k other => ?_⟩
    have shown : (k != i) = true := by simpa using other
    rw [dossier?, dossier?]
    exact congrArg₂ (fun record past => Option.map (Dossier.mk · past) record) (alike.records k shown)
      (alike.chronicles k shown)

/-- A download that would be refused in the turn in which it is found to be cancelled. -/
theorem refused_download_cancelled :
    ((((Desk.new { capacity := 2 }).run [.submit Samples.refusing (.ofNat 1) ⟨Samples.directUrl, ""⟩]).step
      (.cancel 0)).run [.wait 5, .poll 0]).outcome? 0 = some .cancelled := by
  obtain ⟨live, -, -⟩ := run_cancels { capacity := 2 }
    [.submit Samples.refusing (.ofNat 1) ⟨Samples.directUrl, ""⟩] [.wait 5, .poll 0] 0 _ rfl rfl
  obtain ⟨-, -, -, -, ended⟩ := live rfl (by simp [Move.Drops])
  exact (ended (by simp)).1

end Desk

end TorrentAdmission
