import TorrentAdmission.Proofs.Desk.Cancellation

/-!
# Cancelled submissions that are dropped

What ends the submission of a dropped task takes no notice of a cancellation. So it depends on the turns
of the task how a cancelled submission ends: as cancelled if there is a turn between the cancellation and
the drop, as aborted if there is none.
-/

namespace TorrentAdmission

/-! ### No more calls -/

namespace Submission

variable (s : Submission)

theorem abandonment_call : s.abandonment.filterMap Edit.call? = [] := rfl

theorem hearing_call : s.hearing.filterMap Edit.call? = [] := by
  unfold hearing
  split <;> rfl

end Submission

namespace Dossier

variable {x y : Dossier} {i now : Nat} {calls : List Call} {m : Move}

/-- The submission is cancelled or at its end, and `calls` are all the calls made for it. -/
structure Spent (calls : List Call) (x : Dossier) : Prop where
  ended : x.submission.cancelled = true ∨ x.submission.task.isFinished = true
  calls : x.calls = calls

theorem amend_spent {edits : List Edit} (silent : edits.filterMap Edit.call? = []) (called : x.calls = calls) :
    (x.amend i now edits).calls = calls := by
  rw [(x.amend_gains i now edits).calls, silent, List.append_nil, called]

/-- A submission that is spent asks nothing of the backend. -/
theorem Step.spent (step : x.Step m i now y) (spent : x.Spent calls) : y.Spent calls := by
  obtain ⟨ended, called⟩ := spent
  refine ⟨ended.imp step.stays_cancelled fun finished => by rw [step.finished finished, finished], ?_⟩
  cases step with
  | kept => exact called
  | cancelled held => exact called
  | released move => exact called
  | heard move => exact amend_spent x.submission.hearing_call called
  | polled move =>
    apply amend_spent _ called
    cases live : x.submission.task.isFinished with
    | true => rw [Submission.polling_finished live, List.filterMap_nil]
    | false =>
      -- a turn that finds the cancellation ends the submission without a look at its calls
      have cancelled := ended.resolve_right (by rw [live]; exact Bool.false_ne_true)
      rw [Submission.polling_cancelled cancelled live, Submission.conclusion_call]
  | dropped move live => exact amend_spent x.submission.abandonment_call called

end Dossier

namespace Desk

variable {d : Desk} {i : Nat} {s t : Submission} {x : Dossier} {calls : List Call} {o : Outcome}

theorem run_spent (opened : d.dossier? i = some x) (spent : x.Spent calls) (ms : List Move) :
    (d.run ms).callsOf i = calls := by
  obtain ⟨y, last, same⟩ := run_keeps (P := (·.Spent calls)) ms
    (fun m _ now x y step spent => step.spent spent) opened spent
  rw [callsOf_eq, (dossier?_eq_some.mp last).2]
  exact same.calls

/-! ### Dropped after a cancellation -/

theorem ended_shows (sound : (Dossier.mk t (d.chronicle i)).Sound) (same : t.terms = s.terms)
    (ended : t.task.outcome? = some o) :
    (d.eventsOf i).map Posted.content = [s.acceptance, o.event s.id] ∧
      (d.countsOf i).filter Count.isOutcome = if s.resolver.metered then [.outcome o.label] else [] := by
  have announced := eventsOf_eq_events sound
  rw [ended, Submission.acceptance_of_terms same, Submission.id_of_terms same] at announced
  have counted : d.countsOf i = if t.resolver.metered then t.firstCounts ++ t.lastCounts o else [] := by
    rw [countsOf_eq]
    refine sound.counts.trans ?_
    rw [ended]
    rfl
  refine ⟨announced, ?_⟩
  rw [counted, Submission.resolver_of_terms same]
  split
  · rw [List.filter_append, Submission.firstCounts_filter]
    exact t.lastCounts_filter o
  · rfl

/-- A cancelled submission whose task is dropped has ended as cancelled if its task has had a turn in
between, and as aborted otherwise. -/
theorem run_drops_doomed {between : List Move} {drop : Move} (opened : d.dossier? i = some x)
    (cancelled : x.submission.cancelled = true) (live : x.submission.task.isFinished = false)
    (kept : ∀ m ∈ between, ¬ m.Drops i) (drops : drop.Drops i) :
    (Move.poll i ∈ between → (d.run (between ++ [drop])).outcome? i = some .cancelled) ∧
      (Move.poll i ∉ between → (d.run (between ++ [drop])).outcome? i = some (.failed .aborted)) := by
  obtain ⟨y, last, -, ended, waiting⟩ := run_doomed opened ⟨cancelled, rfl, Or.inl live⟩ live kept
  have dropped := drop_dossier drops last
  rw [run_append, run, run, outcome?_of_found (dossier?_eq_some.mp dropped).1]
  constructor
  · intro polled
    have finished : y.submission.task.isFinished = true := by rw [ended polled]; rfl
    rw [Dossier.dropped, if_pos finished, ended polled]
    rfl
  · intro unpolled
    rw [Dossier.dropped, if_neg (Bool.eq_false_iff.mp (waiting unpolled)), Dossier.amend,
      Submission.abandonment_task]
    rfl

/-- A submission is cancelled before it has ended, by whomever, and then its task is dropped. If the task
has had a turn in between, the one event that ends the submission says that it was cancelled, and so does
the outcome that is counted. If it has had none, the event says that the submission failed because its
task was aborted, and a failure is counted. No call is made for it any more, whatever follows. -/
theorem run_drops_cancelled (bus : Bus Event) (before between after : List Move) (i : Nat) (s : Submission)
    (drop : Move) (found : ((Desk.new bus).run before).submissions[i]? = some s)
    (cancelled : s.cancelled = true) (live : s.task.isFinished = false)
    (kept : ∀ m ∈ between, ¬ m.Drops i) (drops : drop.Drops i) :
    let d := (Desk.new bus).run before
    let e := d.run (between ++ drop :: after)
    let shows : Outcome → Prop := fun o =>
      e.outcome? i = some o ∧ (e.eventsOf i).map Posted.content = [s.acceptance, o.event s.id] ∧
        (e.countsOf i).filter Count.isOutcome = if s.resolver.metered then [.outcome o.label] else []
    (Move.poll i ∈ between → shows .cancelled) ∧
      (Move.poll i ∉ between → shows (.failed .aborted)) ∧
      e.isCancelled i = true ∧ e.callsOf i = d.callsOf i := by
  intro d e shows
  have opened := dossier?_of_found found
  have parts : e = (d.run (between ++ [drop])).run after := by
    rw [← run_append, List.append_assoc]
    rfl
  have whole : e = (Desk.new bus).run (before ++ (between ++ drop :: after)) :=
    (run_append (Desk.new bus) before _).symm
  obtain ⟨⟨t, past⟩, last, same, marked⟩ := run_keeps
    (P := fun x => x.submission.terms = s.terms ∧ x.submission.cancelled = true) (between ++ drop :: after)
    (fun m _ now x y step h => ⟨step.terms.trans h.1, step.stays_cancelled h.2⟩) opened ⟨rfl, cancelled⟩
  obtain ⟨there, rfl⟩ := dossier?_eq_some.mp last
  have sound : (Dossier.mk t (e.chronicle i)).Sound :=
    run_sound bus (before ++ (between ++ drop :: after)) i _ (by rw [← whole]; exact last)
  -- nothing that follows the drop changes the outcome, so it is told as it stands there
  have told : ∀ o, (d.run (between ++ [drop])).outcome? i = some o → shows o := by
    intro o known
    have lasting : e.outcome? i = some o := by
      rw [parts]
      exact run_outcome known after
    exact ⟨lasting, ended_shows sound same ((outcome?_of_found there).symm.trans lasting)⟩
  obtain ⟨polled, unpolled⟩ := run_drops_doomed opened cancelled live kept drops
  refine ⟨fun turn => told _ (polled turn), fun none => told _ (unpolled none), ?_, ?_⟩
  · rw [isCancelled, there]
    exact marked
  · rw [run_spent opened ⟨Or.inl cancelled, rfl⟩, callsOf_eq]
    rfl

end Desk

namespace Samples

/-- A download that is cancelled before its first turn. -/
def cancelledDownload : List Move :=
  [.submit refusing (.ofNat 1) ⟨directUrl, ""⟩, .cancel 0]

end Samples

namespace Desk

theorem cancelled_download_dropped :
    ((((Desk.new { capacity := 2 }).run Samples.cancelledDownload).run [.shutDown]).eventsOf 0).map
        Posted.content =
      [.accepted (.ofNat 1) Samples.directUrl none,
        .failed (.ofNat 1) none "resolution task aborted"] := by
  obtain ⟨-, unpolled, -⟩ := run_drops_cancelled { capacity := 2 } Samples.cancelledDownload [] [] 0 _
    .shutDown rfl rfl rfl (by simp) (Or.inr rfl)
  exact (unpolled (by simp)).2.1

/-- A cancellation does not make sure that the submission ends as cancelled. -/
theorem cancelled_before_drop_not_told :
    ¬ ∀ (bus : Bus Event) (before between : List Move) (i : Nat) (s : Submission) (drop : Move),
      ((Desk.new bus).run before).submissions[i]? = some s → s.cancelled = true →
      s.task.isFinished = false → Move.poll i ∉ between → (∀ m ∈ between, ¬ m.Drops i) → drop.Drops i →
      ∃ last, (((Desk.new bus).run (before ++ between ++ [drop])).eventsOf i).getLast? = some last ∧
        last.content = .cancelled s.id := by
  intro told
  obtain ⟨last, shown, content⟩ := told { capacity := 2 } Samples.cancelledDownload [] 0 _ .shutDown
    rfl rfl rfl (by simp) (by simp) (Or.inr rfl)
  have aborted : last = ⟨2, .failed (.ofNat 1) none "resolution task aborted"⟩ :=
    (Option.some.inj shown).symm
  rw [aborted] at content
  cases content

end Desk

end TorrentAdmission
