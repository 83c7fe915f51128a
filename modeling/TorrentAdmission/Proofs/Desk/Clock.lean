import Mathlib.Logic.Relation
import TorrentAdmission.Proofs.Desk.Awake
import TorrentAdmission.Proofs.Desk.Ending
import TorrentAdmission.Proofs.Resolution.Punctuality

/-!
# Under a clock

A clock keeps time for a submission if time passes only while its task is asleep, never beyond an
instant at which the task wants a turn, and the task is woken when such an instant has come. Then the
submission ends as the timetable of its lookup says, whatever happens to the others meanwhile.
-/

namespace TorrentAdmission

def Verdict.outcome : Verdict (Torrent × Path) → Outcome
  | .success (torrent, _) => .resolved torrent
  | .failure e => .failed e
  | .crash => .failed .aborted

namespace Desk

/-- The instants at which the task of submission `i` wants a turn. -/
def instantsOf (d : Desk) (i : Nat) : List Nat := d.submissions[i]?.elim [] fun s => s.task.instants

/-- Something that happens at a desk whose clock keeps time for submission `i`. -/
inductive Tick (i : Nat) : Desk → Desk → Prop where
  /-- A move that takes no time and does not drop the task of `i`. -/
  | move (d : Desk) (m : Move) (timeless : ∀ ms, m ≠ .wait ms) (kept : ¬ m.Drops i) : Tick i d (d.step m)
  | turn (d : Desk) (k : Nat) : Tick i d ((d.unwake k).poll k)
  | pass (d : Desk) (ms : Nat) (woken : List Nat) (asleep : i ∉ d.awake)
      (stops : ∀ t ∈ d.instantsOf i, d.now < t → d.now + ms ≤ t)
      (wakes : d.now + ms ∈ d.instantsOf i → i ∈ woken) :
      Tick i d (woken.foldl wake (d.wait ms))

/-- When the end of submission `i` was announced, and how. -/
def endsOf (d : Desk) (i : Nat) : List (Nat × Event) :=
  d.history.filterMap fun e =>
    match e.fact with
    | .published entry =>
      if e.submission = i ∧ entry.content.isTerminal then some (e.instant, entry.content) else none
    | _ => none

end Desk

def Fact.ending? (fact : Fact) : Option Event :=
  fact.event?.filter Event.isTerminal

namespace Dossier

def ends (x : Dossier) : List (Nat × Event) :=
  x.past.filterMap fun p => p.2.ending?.map (p.1, ·)

theorem ends_events (x : Dossier) : x.ends.map Prod.snd = x.events.filter Event.isTerminal := by
  rw [ends, events, List.map_filterMap, List.filter_filterMap]
  refine List.filterMap_congr fun p _ => ?_
  rw [Option.map_map]
  exact Option.map_id'

theorem amend_ends (x : Dossier) (i now : Nat) (edits : List Edit) :
    (x.amend i now edits).ends =
      x.ends ++ ((edits.filterMap Edit.event?).filter Event.isTerminal).map (now, ·) := by
  rw [← x.submission.facts_event, List.filter_filterMap, List.map_filterMap]
  simp only [ends, amend, List.filterMap_append, List.filterMap_map]
  rfl

/-- A dossier agrees with an ending that is due: the submission has ended so, or waits for it, or its
first turn is to come now, or it has been cancelled. -/
inductive Abides (due : Ending (Torrent × Path)) (now : Nat) (awake : Prop) (x : Dossier) : Prop where
  | cancelled (cancelled : x.submission.cancelled = true)
  | fresh (task : x.submission.task = .fresh)
      (ending : (x.submission.lookup now).ending x.submission.source = due) (woken : awake)
      (unended : x.ends = [])
  | waits (progress : Progress) (task : x.submission.task = .resolving progress)
      (ending : (x.submission.lookup now).progressEnding x.submission.source progress = due)
      (timely : progress.Timely now) (asleep : ¬ awake → progress.Waits now) (unended : x.ends = [])
  | ended (task : x.submission.task.outcome? = some due.verdict.outcome)
      (ends : x.ends = [(due.instant, due.verdict.outcome.event x.submission.id)])
      (reached : due.instant ≤ now)

end Dossier

namespace Dossier

variable {x : Dossier} {i now : Nat} {due : Ending (Torrent × Path)}

/-- Edits with which the submission ends now, as was due. -/
theorem ending_abides (unended : x.ends = []) {edits : List Edit} {verdict : Verdict (Torrent × Path)}
    (task : (x.submission.amended i i edits).task.outcome? = some verdict.outcome)
    (event : edits.filterMap Edit.event? = [verdict.outcome.event x.submission.id]) (awake : Prop) :
    (x.amend i now edits).Abides ⟨now, verdict⟩ now awake := by
  have same : (x.amend i now edits).submission.id = x.submission.id :=
    Submission.id_of_terms (x.submission.amended_terms i i edits)
  refine .ended task ?_ (Nat.le_refl now)
  rw [amend_ends, unended, event, same]
  simp [Outcome.event_isTerminal]

theorem turning_abides (unended : x.ends = [])
    {turn : Turn (TorrentAdmission.Step Progress (Except Failure (Torrent × Path)))}
    (shown : due.Shows now
      (fun progress => (x.submission.lookup now).progressEnding x.submission.source progress = due ∧
        progress.Waits now) turn.result) (awake : Prop) :
    (x.amend i now (x.submission.turning i turn)).Abides due now awake := by
  obtain ⟨acts, result⟩ := turn
  cases stopped : x.submission.isStopped i acts with
  | true =>
    refine .cancelled ?_
    rw [amend, Submission.turning, Submission.amended_append, Submission.amended_doing]
    exact Submission.amended_cancelled stopped i i _
  | false =>
    have settles : ∀ (result : Except Failure (Torrent × Path)) (verdict : Verdict (Torrent × Path)),
        due = ⟨now, verdict⟩ → verdict.outcome = .of result →
        (x.amend i now (x.submission.turning i ⟨acts, .ok (.done result)⟩)).Abides due now awake := by
      intro result verdict same outcome
      have follows : x.submission.followUp i ⟨acts, .ok (.done result)⟩ = x.submission.settlement result := by
        rw [Submission.followUp, stopped]
        rfl
      rw [same, Submission.turning, follows]
      refine ending_abides unended ?_ ?_ awake
      · rw [Submission.amended_append, Submission.amended_settlement, outcome]
        rfl
      · rw [List.filterMap_append, Submission.doing_event, Submission.settlement_event, outcome]
        rfl
    rcases result with crash | progress | e | ⟨torrent, path⟩
    · obtain rfl : due = ⟨now, .crash⟩ := shown
      refine ending_abides unended ?_ ?_ awake
      · rw [Submission.turning, Submission.amended_append]
        exact congrArg Task.outcome? (x.submission.abandonment_task _ i)
      · rw [Submission.turning, List.filterMap_append, Submission.doing_event]
        rfl
    · obtain ⟨ending, waits⟩ := shown
      have terms := x.submission.amended_terms i i (x.submission.turning i ⟨acts, .ok (.waiting progress)⟩)
      refine .waits progress ?_ ?_ ⟨waits.1, fun t member => Nat.le_of_lt (waits.2 t member)⟩ (fun _ => waits) ?_
      · rw [amend, Submission.turning, Submission.amended_append, Submission.followUp, stopped]
        simp [Submission.amended, Submission.edited]
      · rw [amend, Submission.lookup_of_terms terms, Submission.source_of_terms terms]
        exact ending
      · rw [amend_ends, unended, Submission.turning, List.filterMap_append, Submission.doing_event,
          Submission.followUp, stopped]
        rfl
    · exact settles (.error e) (.failure e) shown rfl
    · exact settles (.ok (torrent, path)) (.success (torrent, path)) shown rfl

theorem first_abides (fresh : x.submission.task = .fresh) (unended : x.ends = []) (awake : Prop) :
    (x.amend i now (x.submission.polling i now)).Abides
      ((x.submission.lookup now).ending x.submission.source) now awake := by
  cases cancelled : x.submission.cancelled with
  | true => exact .cancelled (Submission.amended_cancelled cancelled i i _)
  | false =>
    have polling : x.submission.polling i now = x.submission.turning i
        ((x.submission.lookup now).start x.submission.source) := by
      simp only [Submission.polling, Submission.turn?, fresh, cancelled]
      rfl
    rw [polling]
    exact turning_abides unended ((x.submission.lookup now).start_shows x.submission.source) awake

theorem polling_abides {before : Prop} (abides : x.Abides due now before) (awake : Prop) :
    (x.amend i now (x.submission.polling i now)).Abides due now awake := by
  cases abides with
  | cancelled cancelled => exact .cancelled (Submission.amended_cancelled cancelled i i _)
  | fresh task ending woken unended =>
    rw [← ending]
    exact first_abides task unended awake
  | waits progress task ending timely asleep unended =>
    cases cancelled : x.submission.cancelled with
    | true => exact .cancelled (Submission.amended_cancelled cancelled i i _)
    | false =>
      have shown := (x.submission.lookup now).resume_shows x.submission.source timely
      rw [ending] at shown
      have polling : x.submission.polling i now = x.submission.turning i
          ((x.submission.lookup now).resume x.submission.source progress) := by
        simp only [Submission.polling, Submission.turn?, task, cancelled]
        rfl
      rw [polling]
      exact turning_abides unended shown awake
  | ended task ends reached =>
    have finished : x.submission.task.isFinished = true := by
      rw [Task.isFinished_eq, task]
      rfl
    rw [Submission.polling_finished finished, amend_nil]
    exact .ended task ends reached

theorem Abides.imp {before after : Prop} (abides : x.Abides due now before) (stays : before → after) :
    x.Abides due now after := by
  cases abides with
  | cancelled already => exact .cancelled already
  | fresh task ending woken unended => exact .fresh task ending (stays woken) unended
  | waits progress task ending timely asleep unended =>
    exact .waits progress task ending timely (fun none => asleep fun some => none (stays some)) unended
  | ended task ends reached => exact .ended task ends reached

/-- What happens besides the turns of a submission does not make it disagree with its ending. -/
theorem Step.abides {m : Move} {y : Dossier} (step : x.Step m i now y) (kept : ¬ m.Drops i)
    (other : m ≠ .poll i) {awake : Prop} (abides : x.Abides due now awake) : y.Abides due now awake := by
  have same : ∀ z : Dossier, z.submission.task = x.submission.task → z.submission.terms = x.submission.terms →
      z.submission.cancelled = x.submission.cancelled → z.ends = x.ends → z.Abides due now awake := by
    intro z task terms cancelled ends
    cases abides with
    | cancelled already => exact .cancelled (cancelled.trans already)
    | fresh fresh ending woken unended =>
      refine .fresh (task.trans fresh) ?_ woken (ends.trans unended)
      rw [Submission.lookup_of_terms terms, Submission.source_of_terms terms]
      exact ending
    | waits progress waiting ending timely asleep unended =>
      refine .waits progress (task.trans waiting) ?_ timely asleep (ends.trans unended)
      rw [Submission.lookup_of_terms terms, Submission.source_of_terms terms]
      exact ending
    | ended outcome announced reached =>
      refine .ended (by rw [task, outcome]) ?_ reached
      rw [ends, announced, Submission.id_of_terms terms]
  cases step with
  | kept => exact same x rfl rfl rfl rfl
  | cancelled held => exact .cancelled rfl
  | released move => exact same _ rfl rfl rfl rfl
  | heard move =>
    have record : (x.amend i now x.submission.hearing).submission = x.submission :=
      x.submission.amended_hearing _ i i
    refine same _ (by rw [record]) (by rw [record]) (by rw [record]) ?_
    rw [amend_ends]
    unfold Submission.hearing
    split <;> simp [Edit.event?]
  | polled move => exact (other move).elim
  | dropped move live => exact (kept move).elim

end Dossier

namespace Desk

variable {d e : Desk} {i k : Nat} {s : Submission} {x : Dossier} {due : Ending (Torrent × Path)}

def Abides (d : Desk) (i : Nat) (due : Ending (Torrent × Path)) : Prop :=
  ∃ x, d.dossier? i = some x ∧ x.Abides due d.now (i ∈ d.awake)

theorem step_abides (abides : d.Abides i due) {m : Move} (timeless : ∀ ms, m ≠ .wait ms)
    (kept : ¬ m.Drops i) : (d.step m).Abides i due := by
  obtain ⟨x, opened, agrees⟩ := abides
  by_cases own : m = .poll i
  · subst own
    refine ⟨_, poll_dossier opened, ?_⟩
    rw [step_now timeless]
    exact Dossier.polling_abides agrees _
  · obtain ⟨y, after, moved⟩ := step_dossier m opened
    refine ⟨y, after, ?_⟩
    rw [step_now timeless]
    exact (moved.abides kept own agrees).imp fun awake =>
      step_stays_awake (dossier?_eq_some.mp opened).1 awake own kept

theorem turn_abides (abides : d.Abides i due) (k : Nat) : ((d.unwake k).poll k).Abides i due := by
  obtain ⟨x, opened, agrees⟩ := abides
  by_cases own : k = i
  · subst own
    have before : (d.unwake k).dossier? k = some x := opened
    refine ⟨_, poll_dossier before, ?_⟩
    have now : ((d.unwake k).poll k).now = d.now := step_now (d := d.unwake k) (m := .poll k) (by simp)
    rw [now]
    exact Dossier.polling_abides agrees _
  · refine step_abides (d := d.unwake k) (m := .poll k) ⟨x, opened, ?_⟩ (by simp) (by simp [Move.Drops])
    have stays : i ∈ d.awake → i ∈ (d.unwake k).awake := by
      intro awake
      simpa [unwake, Ne.symm own] using awake
    exact agrees.imp stays

theorem wakes_submissions (d : Desk) (ks : List Nat) : (ks.foldl wake d).submissions = d.submissions := by
  induction ks generalizing d with
  | nil => rfl
  | cons k rest ih => rw [List.foldl_cons, ih, wake_submissions]

theorem wakes_history (d : Desk) (ks : List Nat) : (ks.foldl wake d).history = d.history := by
  induction ks generalizing d with
  | nil => rfl
  | cons k rest ih =>
    rw [List.foldl_cons, ih, wake]
    split <;> rfl

theorem wakes_now (d : Desk) (ks : List Nat) : (ks.foldl wake d).now = d.now := by
  induction ks generalizing d with
  | nil => rfl
  | cons k rest ih => exact (ih _).trans (edit_now d k .wake)

theorem pass_dossier (d : Desk) (k ms : Nat) (woken : List Nat) :
    (woken.foldl wake (d.wait ms)).dossier? k = d.dossier? k :=
  dossier?_congr (by rw [wakes_submissions]; rfl) (by rw [wakes_history]; rfl)

theorem wakes_awake {ks : List Nat} (live : d.isLive i = true) (woken : i ∈ d.awake ∨ i ∈ ks) :
    i ∈ (ks.foldl wake d).awake := by
  induction ks generalizing d with
  | nil => exact woken.resolve_right List.not_mem_nil
  | cons k rest ih =>
    have still : (d.wake k).isLive i = true := by rw [isLive, wake_submissions]; exact live
    apply ih still
    rcases woken with awake | member
    · exact Or.inl (edit_stays_awake (x := .wake) awake (by simp))
    · rcases List.mem_cons.mp member with rfl | later
      · exact Or.inl (mem_awake_wake live)
      · exact Or.inr later

theorem dues_wanted (found : d.submissions[i]? = some s) {progress : Progress}
    (task : s.task = .resolving progress) : progress.dues ⊆ d.instantsOf i := by
  intro t member
  rw [instantsOf, found]
  change t ∈ s.task.instants
  rw [task]
  exact progress.dues_subset member

theorem pass_abides (abides : d.Abides i due) {ms : Nat} {woken : List Nat} (asleep : i ∉ d.awake)
    (stops : ∀ t ∈ d.instantsOf i, d.now < t → d.now + ms ≤ t)
    (wakes : d.now + ms ∈ d.instantsOf i → i ∈ woken) : (woken.foldl wake (d.wait ms)).Abides i due := by
  obtain ⟨x, opened, agrees⟩ := abides
  have found := (dossier?_eq_some.mp opened).1
  refine ⟨x, (pass_dossier d i ms woken).trans opened, ?_⟩
  rw [wakes_now]
  change x.Abides due (d.now + ms) _
  cases agrees with
  | cancelled cancelled => exact .cancelled cancelled
  | fresh task ending woken unended => exact (asleep woken).elim
  | waits progress task ending timely waiting unended =>
    obtain ⟨some, early⟩ := waiting asleep
    have wanted := dues_wanted found task
    -- The clock stops where a call ends, and if it does the task is awake again.
    have within : ∀ t ∈ progress.dues, d.now + ms ≤ t := fun t member =>
      stops t (wanted member) (early t member)
    refine .waits progress task ending ⟨some, within⟩ ?_ unended
    intro sleeping
    refine ⟨some, fun t member => Nat.lt_of_le_of_ne (within t member) ?_⟩
    rintro rfl
    refine sleeping (wakes_awake ?_ (Or.inr (wakes (wanted member))))
    change d.isLive i = true
    simp [isLive, found, task, Task.isFinished]
  | ended task ends reached => exact .ended task ends (by omega)

theorem Tick.dossier (tick : Tick i d e) (opened : d.dossier? k = some x) :
    ∃ m now y, e.dossier? k = some y ∧ x.Step m k now y := by
  cases tick with
  | move m timeless kept =>
    obtain ⟨y, after, step⟩ := step_dossier m opened
    exact ⟨m, _, y, after, step⟩
  | turn n =>
    obtain ⟨y, after, step⟩ := step_dossier (d := d.unwake n) (.poll n) opened
    exact ⟨_, _, y, after, step⟩
  | pass ms woken asleep stops wakes =>
    exact ⟨.wait ms, d.now, x, (pass_dossier d k ms woken).trans opened, .kept⟩

/-- What every step keeps true of a dossier, ticks keep true of it. -/
theorem ticks_keep {P : Dossier → Prop} (step : ∀ m now x y, Dossier.Step m k now x y → P x → P y)
    (ticks : Relation.ReflTransGen (Tick i) d e) (opened : d.dossier? k = some x) (h : P x) :
    ∃ y, e.dossier? k = some y ∧ P y := by
  induction ticks with
  | refl => exact ⟨x, opened, h⟩
  | tail _ tick ih =>
    obtain ⟨y, before, kept⟩ := ih
    obtain ⟨m, now, z, after, moved⟩ := tick.dossier before
    exact ⟨z, after, step m now y z moved kept⟩

/-- A submission whose clock is kept agrees with its ending at all times. -/
theorem ticks_abide (ticks : Relation.ReflTransGen (Tick i) d e) (abides : d.Abides i due) :
    e.Abides i due := by
  induction ticks with
  | refl => exact abides
  | tail _ tick ih =>
    cases tick with
    | move m timeless kept => exact step_abides ih timeless kept
    | turn k => exact turn_abides ih k
    | pass ms woken asleep stops wakes => exact pass_abides ih asleep stops wakes

end Desk

end TorrentAdmission
