import TorrentAdmission.Proofs.Desk.Ticking
import TorrentAdmission.Proofs.Resolution.Trail

/-!
# The course of a submission

Under a clock that is kept for a submission, its past at any instant is settled by the trail of its lookup
and by its cancellation, if it is cancelled: `Dossier.Tracks` says how. So two courses that begin alike, and
in which the submission is cancelled at the same instant, come to the same: `Dossier.Tracks.agree`.
-/

namespace TorrentAdmission

/-! ### What is called and told, and when -/

namespace Submission

variable (s : Submission)

theorem doing_call (acts : List Act) : (acts.map s.doing).filterMap Edit.call? = acts.filterMap Act.call? := by
  rw [List.filterMap_map]
  refine List.filterMap_congr fun act _ => ?_
  cases act <;> rfl

theorem settlement_call (result : Except Failure (Torrent × Path)) :
    (s.settlement result).filterMap Edit.call? = [] := by
  rcases result with e | ⟨torrent, path⟩
  · rfl
  · cases path <;> rfl

variable (i : Nat) (turn : Turn (Step Progress (Except Failure (Torrent × Path))))

theorem followUp_call : (s.followUp i turn).filterMap Edit.call? = [] := by
  unfold followUp
  obtain ⟨acts, crash | progress | result⟩ := turn
  · rfl
  · dsimp only
    split <;> rfl
  · dsimp only
    split
    · exact s.conclusion_call .cancelled
    · exact s.settlement_call result

/-- All calls of a turn are among its acts. -/
theorem turning_call : (s.turning i turn).filterMap Edit.call? = turn.acts.filterMap Act.call? := by
  rw [turning, List.filterMap_append, doing_call, followUp_call, List.append_nil]

/-- All events of a turn are in what follows from its acts. -/
theorem turning_event : (s.turning i turn).filterMap Edit.event? = (s.followUp i turn).filterMap Edit.event? := by
  rw [turning, List.filterMap_append, doing_event, List.nil_append]

variable {s i} {acts : List Act} {result : Except Failure (Torrent × Path)}

theorem followUp_stopped (stopped : s.isStopped i acts = true) :
    s.followUp i ⟨acts, .ok (.done result)⟩ = s.conclusion .cancelled := by
  rw [followUp, stopped]
  rfl

theorem followUp_settled (goesOn : s.isStopped i acts = false) :
    s.followUp i ⟨acts, .ok (.done result)⟩ = s.settlement result := by
  rw [followUp, goesOn]
  rfl

variable (s i acts)

theorem turning_waiting (progress : Progress) : s.amended i i (s.turning i ⟨acts, .ok (.waiting progress)⟩) =
    { s with task := .resolving progress, cancelled := s.isStopped i acts } := by
  rw [turning, amended_append, amended_doing, followUp]
  cases s.isStopped i acts <;> simp [amended, edited]

end Submission

namespace Dossier

def called (x : Dossier) : List (Nat × Call) := x.past.filterMap fun p => p.2.call?.map (p.1, ·)

def told (x : Dossier) : List (Nat × Event) := x.past.filterMap fun p => p.2.event?.map (p.1, ·)

variable (x : Dossier) (i now : Nat) (edits : List Edit)

theorem amend_called : (x.amend i now edits).called = x.called ++ (edits.filterMap Edit.call?).map (now, ·) := by
  rw [← x.submission.facts_call, List.map_filterMap]
  simp only [called, amend, List.filterMap_append, List.filterMap_map]
  rfl

theorem amend_told : (x.amend i now edits).told = x.told ++ (edits.filterMap Edit.event?).map (now, ·) := by
  rw [← x.submission.facts_event, List.map_filterMap]
  simp only [told, amend, List.filterMap_append, List.filterMap_map]
  rfl

end Dossier

/-! ### The course, instant by instant -/

def Trail.outcome? (t : Trail) : Option Outcome :=
  match t.stage with
  | .ok (.waiting _) => none
  | .ok (.done result) => some (.of result)
  | .error _ => some (.failed .aborted)

theorem Trail.outcome?_isSome (t : Trail) : t.outcome?.isSome = t.isOver := by
  obtain ⟨calls, crash | progress | result⟩ := t <;> rfl

namespace Submission

/-- How far the lookup of the submission comes in `n` milliseconds if it begins at the instant `since`. -/
def trail (s : Submission) (since n : Nat) : Trail := (s.lookup since).trail s.source n

/-- What it has called before its turn after `n` milliseconds. -/
def callsBefore (s : Submission) (since n : Nat) : List (Nat × Call) := (s.lookup since).callsBefore s.source n

def due (s : Submission) (since : Nat) : Nat := ((s.lookup since).ending s.source).instant

theorem live_of_turn {s : Submission} {now : Nat}
    {turn : Turn (Step Progress (Except Failure (Torrent × Path)))} (next : s.turn? now = some turn) :
    s.task.isFinished = false := by
  unfold turn? at next
  cases task : s.task with
  | fresh => rfl
  | resolving progress => rfl
  | settled o => rw [task] at next; cases next
  | aborted => rw [task] at next; cases next

theorem undue_of_waiting {s : Submission} {since n : Nat} {progress : Progress}
    (waiting : (s.trail since n).stage = .ok (.waiting progress)) : since + n < s.due since := by
  refine Nat.lt_of_not_le fun overdue => ?_
  have complete := ((s.lookup since).trail_isOver s.source n).mpr overdue
  rw [Trail.isOver, show ((s.lookup since).trail s.source n).stage = _ from waiting] at complete
  cases complete

theorem trail_isOver (s : Submission) (since n : Nat) : (s.trail since n).isOver = true ↔ s.due since ≤ since + n :=
  (s.lookup since).trail_isOver s.source n

end Submission

/-- The task is to begin, or a call that it waits for has come to its end. -/
def Task.isDue (now : Nat) : Task → Bool
  | .fresh => true
  | .resolving progress => progress.dues.any fun t => decide (t ≤ now)
  | .settled _ => false
  | .aborted => false

theorem Task.isDue_of_waits {now : Nat} {progress : Progress} (waits : progress.Waits now) :
    (Task.resolving progress).isDue now = false := by
  simpa [isDue] using waits.2

/-- When a submission was cancelled. At the instant at which something is due for its task, that is either
before the task has its turn or after. -/
structure Cancellation where
  instant : Nat
  early : Bool

/-- The past of a submission that was accepted as `s` at the instant `since`: it is to have a turn now, or
waits for one, or has come to the end of its trail; or it has been cancelled before that, and is to have
the turn that ends it or has had it. -/
inductive Dossier.Tracks (s : Submission) (since now : Nat) (awake : Prop) (x : Dossier) : Option Cancellation → Prop
  | due (n : Nat) (reached : now = since + n) (uncancelled : x.submission.cancelled = false) (woken : awake)
      (due : x.submission.task.isDue now = true)
      (turn : Turn (TorrentAdmission.Step Progress (Except Failure (Torrent × Path))))
      (next : x.submission.turn? now = some turn)
      (trail : s.trail since n = ⟨x.called ++ turn.callsAt now, turn.result⟩)
      (calls : x.called = s.callsBefore since n) (told : x.told = [(since, s.acceptance)])
      (undue : now ≤ s.due since) : Tracks s since now awake x none
  | waits (n : Nat) (reached : now = since + n) (uncancelled : x.submission.cancelled = false) (progress : Progress)
      (task : x.submission.task = .resolving progress)
      (stage : (s.trail since n).stage = .ok (.waiting progress)) (calls : x.called = (s.trail since n).calls)
      (told : x.told = [(since, s.acceptance)]) : Tracks s since now awake x none
  | ended {c : Option Cancellation} (n : Nat) (reached : since + n ≤ now) (complete : s.due since ≤ since + n)
      (o : Outcome) (task : x.submission.task.outcome? = some o) (outcome : (s.trail since n).outcome? = some o)
      (calls : x.called = (s.trail since n).calls)
      (told : x.told = [(since, s.acceptance), (s.due since, o.event s.id)])
      (late : ∀ k, c = some k → s.due since ≤ k.instant) : Tracks s since now awake x c
  | doomed (n : Nat) (early : Bool) (reached : now = since + n) (cancelled : x.submission.cancelled = true)
      (live : x.submission.task.isFinished = false) (woken : awake)
      (calls : x.called = if early then s.callsBefore since n else (s.trail since n).calls)
      (told : x.told = [(since, s.acceptance)]) (undue : now ≤ s.due since) :
      Tracks s since now awake x (some ⟨now, early⟩)
  | stopped (n : Nat) (k : Cancellation) (reached : k.instant = since + n) (past : k.instant ≤ now)
      (task : x.submission.task = .settled .cancelled)
      (calls : x.called = if k.early then s.callsBefore since n else (s.trail since n).calls)
      (told : x.told = [(since, s.acceptance), (k.instant, .cancelled s.id)]) (undue : k.instant ≤ s.due since) :
      Tracks s since now awake x (some k)

namespace Dossier

variable {s : Submission} {since now i : Nat} {awake after : Prop} {x y : Dossier}
  {c : Option Cancellation}

/-- When the submission was cancelled, if it was: earlier, or else now. -/
def cancelledBy (c : Option Cancellation) (x : Dossier) (now : Nat) : Option Cancellation :=
  c.or (if x.submission.cancelled then some ⟨now, x.submission.task.isDue now⟩ else none)

theorem cancelledBy_none (uncancelled : x.submission.cancelled = false) (now : Nat) :
    cancelledBy none x now = none := by
  simp [cancelledBy, uncancelled]

theorem cancelledBy_now (cancelled : x.submission.cancelled = true) {early : Bool}
    (due : x.submission.task.isDue now = early) : cancelledBy none x now = some ⟨now, early⟩ := by
  simp [cancelledBy, cancelled, due]

/-- The turn in which the trail comes to its end. -/
theorem ending_tracks {n : Nat} (reached : now = since + n) {edits : List Edit} {o : Outcome}
    (outcome : (s.trail since n).outcome? = some o) (undue : now ≤ s.due since)
    (id : x.submission.id = s.id) (told : x.told = [(since, s.acceptance)])
    (calls : (x.amend i now edits).called = (s.trail since n).calls)
    (task : (x.amend i now edits).submission.task.outcome? = some o)
    (event : edits.filterMap Edit.event? = [o.event x.submission.id]) :
    (x.amend i now edits).Tracks s since now after (cancelledBy none (x.amend i now edits) now) := by
  have complete : s.due since ≤ since + n := by
    rw [← s.trail_isOver, ← Trail.outcome?_isSome, outcome]
    rfl
  have same : s.due since = now := Nat.le_antisymm (reached ▸ complete) undue
  refine .ended n (Nat.le_of_eq reached.symm) complete o task outcome calls ?_ ?_
  · rw [amend_told, told, event, id, same]
    rfl
  · intro k cancelled
    have now : now = k.instant := by
      unfold cancelledBy at cancelled
      split at cancelled
      · exact congrArg Cancellation.instant (Option.some.inj cancelled)
      · cases cancelled
    exact Nat.le_of_eq (same.trans now)

section
variable {n : Nat} {turn : Turn (TorrentAdmission.Step Progress (Except Failure (Torrent × Path)))}

theorem turning_called (trail : s.trail since n = ⟨x.called ++ turn.callsAt now, turn.result⟩) :
    (x.amend i now (x.submission.turning i turn)).called = (s.trail since n).calls := by
  rw [amend_called, Submission.turning_call, trail]
  rfl

theorem waiting_tracks (reached : now = since + n) {acts : List Act} {progress : Progress}
    (stage : (s.trail since n).stage = .ok (.waiting progress))
    (calls : (x.amend i now (x.submission.turning i ⟨acts, .ok (.waiting progress)⟩)).called = (s.trail since n).calls)
    (told : x.told = [(since, s.acceptance)]) (undue : now ≤ s.due since)
    (woken : (x.amend i now (x.submission.turning i ⟨acts, .ok (.waiting progress)⟩)).submission.cancelled = true →
      after) :
    (x.amend i now (x.submission.turning i ⟨acts, .ok (.waiting progress)⟩)).Tracks s since now after
      (cancelledBy none (x.amend i now (x.submission.turning i ⟨acts, .ok (.waiting progress)⟩)) now) := by
  have record := x.submission.turning_waiting i acts progress
  have quiet : (x.amend i now (x.submission.turning i ⟨acts, .ok (.waiting progress)⟩)).told =
      [(since, s.acceptance)] := by
    rw [amend_told, Submission.turning_event, told, Submission.followUp]
    cases x.submission.isStopped i acts <;> rfl
  cases stopped : x.submission.isStopped i acts with
  | true =>
    have cancelled := (congrArg Submission.cancelled record).trans stopped
    have waits : progress.Waits now := reached ▸ Lookup.trail_waits stage
    rw [cancelledBy_now cancelled ((congrArg (·.task.isDue now) record).trans (Task.isDue_of_waits waits))]
    exact .doomed n false reached cancelled (congrArg (·.task.isFinished) record) (woken cancelled) calls quiet undue
  | false =>
    have still := (congrArg Submission.cancelled record).trans stopped
    rw [cancelledBy_none still]
    exact .waits n reached still progress (congrArg Submission.task record) stage calls quiet

/-- A turn in which the submission is cancelled makes the same calls, but its result does not count. -/
theorem stopping_tracks (reached : now = since + n) (terms : x.submission.terms = s.terms) {acts : List Act}
    {result : Except Failure (Torrent × Path)} (stopped : x.submission.isStopped i acts = true)
    (calls : (x.amend i now (x.submission.turning i ⟨acts, .ok (.done result)⟩)).called = (s.trail since n).calls)
    (told : x.told = [(since, s.acceptance)]) (undue : now ≤ s.due since) :
    (x.amend i now (x.submission.turning i ⟨acts, .ok (.done result)⟩)).Tracks s since now after
      (cancelledBy none (x.amend i now (x.submission.turning i ⟨acts, .ok (.done result)⟩)) now) := by
  have follows : x.submission.followUp i ⟨acts, .ok (.done result)⟩ = x.submission.conclusion .cancelled :=
    Submission.followUp_stopped stopped
  have record : (x.amend i now (x.submission.turning i ⟨acts, .ok (.done result)⟩)).submission =
      { x.submission with task := .settled .cancelled, cancelled := true } := by
    rw [amend, Submission.turning, Submission.amended_append, Submission.amended_doing, follows,
      Submission.amended_conclusion, stopped]
  rw [cancelledBy_now (congrArg Submission.cancelled record) (congrArg (·.task.isDue now) record)]
  refine .stopped n _ reached (Nat.le_refl now) (congrArg Submission.task record) calls ?_ undue
  rw [amend_told, Submission.turning_event, follows, Submission.conclusion_event, told, Submission.id_of_terms terms]
  rfl

theorem turning_tracks (reached : now = since + n) (terms : x.submission.terms = s.terms)
    (trail : s.trail since n = ⟨x.called ++ turn.callsAt now, turn.result⟩)
    (told : x.told = [(since, s.acceptance)]) (undue : now ≤ s.due since)
    (woken : (x.amend i now (x.submission.turning i turn)).submission.task.isFinished = false →
      (x.amend i now (x.submission.turning i turn)).submission.cancelled = true → after) :
    (x.amend i now (x.submission.turning i turn)).Tracks s since now after
      (cancelledBy none (x.amend i now (x.submission.turning i turn)) now) := by
  have id := Submission.id_of_terms terms
  have calls := turning_called (i := i) trail
  have events := x.submission.turning_event i turn
  obtain ⟨acts, crash | progress | result⟩ := turn
  · refine ending_tracks reached (o := .failed .aborted) ?_ undue id told calls ?_ events
    · rw [trail]
      rfl
    · rw [amend, Submission.turning, Submission.amended_append]
      exact congrArg Task.outcome? (x.submission.abandonment_task _ i)
  · exact waiting_tracks reached (congrArg Trail.stage trail) calls told undue
      (woken (congrArg (·.task.isFinished) (x.submission.turning_waiting i acts progress)))
  · cases stopped : x.submission.isStopped i acts with
    | true => exact stopping_tracks reached terms stopped calls told undue
    | false =>
      have follows : x.submission.followUp i ⟨acts, .ok (.done result)⟩ = x.submission.settlement result :=
        Submission.followUp_settled stopped
      rw [follows] at events
      refine ending_tracks reached (o := .of result) ?_ undue id told calls ?_
        (events.trans (x.submission.settlement_event result))
      · rw [trail]
        rfl
      · rw [amend, Submission.turning, Submission.amended_append, follows, Submission.amended_settlement]
        rfl

end

theorem Tracks.imp (tracks : x.Tracks s since now awake c)
    (stays : x.submission.task.isFinished = false → awake → after) : x.Tracks s since now after c := by
  cases tracks with
  | due n reached uncancelled woken due turn next trail calls told undue =>
    exact .due n reached uncancelled (stays (Submission.live_of_turn next) woken) due turn next trail calls told undue
  | waits n reached uncancelled progress task stage calls told =>
    exact .waits n reached uncancelled progress task stage calls told
  | ended n reached complete o task outcome calls told late =>
    exact .ended n reached complete o task outcome calls told late
  | doomed n early reached cancelled live woken calls told undue =>
    exact .doomed n early reached cancelled live (stays live woken) calls told undue
  | stopped n k reached past task calls told undue => exact .stopped n k reached past task calls told undue

theorem Tracks.congr (tracks : x.Tracks s since now awake c) (task : y.submission.task = x.submission.task)
    (terms : y.submission.terms = x.submission.terms) (cancelled : y.submission.cancelled = x.submission.cancelled)
    (called : y.called = x.called) (told : y.told = x.told) : y.Tracks s since now awake c := by
  have turns : y.submission.turn? now = x.submission.turn? now := by
    rw [Submission.turn?, Submission.turn?, task, Submission.lookup_of_terms terms, Submission.source_of_terms terms]
  cases tracks with
  | due n reached uncancelled woken due turn next trail calls announced undue =>
    refine .due n reached (cancelled.trans uncancelled) woken (by rwa [task]) turn (turns.trans next) ?_
      (called.trans calls) (told.trans announced) undue
    rwa [called]
  | waits n reached uncancelled progress waiting stage calls announced =>
    exact .waits n reached (cancelled.trans uncancelled) progress (task.trans waiting) stage (called.trans calls)
      (told.trans announced)
  | ended n reached complete o outcome known calls announced late =>
    exact .ended n reached complete o (by rw [task, outcome]) known (called.trans calls) (told.trans announced) late
  | doomed n early reached already live woken calls announced undue =>
    exact .doomed n early reached (cancelled.trans already) (by rwa [task]) woken (called.trans calls)
      (told.trans announced) undue
  | stopped n k reached past settled calls announced undue =>
    exact .stopped n k reached past (task.trans settled) (called.trans calls) (told.trans announced) undue

/-- To look for a cancellation again makes no difference. -/
theorem Tracks.relabel (tracks : x.Tracks s since now awake c) :
    x.Tracks s since now awake (cancelledBy c x now) := by
  cases tracks with
  | due n reached uncancelled woken due turn next trail calls told undue =>
    rw [cancelledBy_none uncancelled]
    exact .due n reached uncancelled woken due turn next trail calls told undue
  | waits n reached uncancelled progress task stage calls told =>
    rw [cancelledBy_none uncancelled]
    exact .waits n reached uncancelled progress task stage calls told
  | ended n reached complete o task outcome calls told late =>
    refine .ended n reached complete o task outcome calls told fun k cancelled => ?_
    rcases Option.or_eq_some_iff.mp cancelled with before | ⟨-, current⟩
    · exact late k before
    · split at current
      · have same : now = k.instant := congrArg Cancellation.instant (Option.some.inj current)
        omega
      · cases current
  | doomed n early reached cancelled live woken calls told undue =>
    exact .doomed n early reached cancelled live woken calls told undue
  | stopped n k reached past task calls told undue => exact .stopped n k reached past task calls told undue

theorem finished_of_outcome {task : Task} {o : Outcome} (ended : task.outcome? = some o) : task.isFinished = true := by
  rw [Task.isFinished_eq, ended]
  rfl

theorem polling_tracks (tracks : x.Tracks s since now awake c) (terms : x.submission.terms = s.terms)
    (woken : (x.amend i now (x.submission.polling i now)).submission.task.isFinished = false →
      (x.amend i now (x.submission.polling i now)).submission.cancelled = true → after) :
    (x.amend i now (x.submission.polling i now)).Tracks s since now after
      (cancelledBy c (x.amend i now (x.submission.polling i now)) now) := by
  cases tracks with
  | due n reached uncancelled _ _ turn next trail calls told undue =>
    have polling : x.submission.polling i now = x.submission.turning i turn := by
      simp only [Submission.polling, next, uncancelled]
      rfl
    rw [polling] at woken ⊢
    exact turning_tracks reached terms trail told undue woken
  | waits n reached uncancelled progress task stage calls told =>
    -- The task may have been woken for nothing.
    have waits : progress.Waits now := reached ▸ Lookup.trail_waits stage
    have polling : x.submission.polling i now = [.task (.resolving progress), .unwake] := by
      have idle : (x.submission.lookup now).resume x.submission.source progress = pure (.waiting progress) :=
        Lookup.resume_idle waits
      simp only [Submission.polling, Submission.turn?, task, uncancelled, idle]
      simp [Submission.turning, Submission.followUp, Submission.isStopped, uncancelled, pure]
    have same : (x.amend i now (x.submission.polling i now)).Tracks s since now after none := by
      rw [polling]
      refine .waits n reached ?_ progress ?_ stage ?_ ?_
      · simpa [amend, Submission.amended, Submission.edited] using uncancelled
      · simp [amend, Submission.amended, Submission.edited]
      · rw [amend_called]
        exact (List.append_nil _).trans calls
      · rw [amend_told]
        exact (List.append_nil _).trans told
    exact same.relabel
  | ended n reached complete o task outcome calls told late =>
    rw [Submission.polling_finished (finished_of_outcome task), amend_nil]
    exact (Tracks.ended n reached complete o task outcome calls told late).relabel
  | doomed n early reached cancelled live _ calls told undue =>
    rw [Submission.polling_cancelled cancelled live]
    refine .stopped n ⟨now, early⟩ reached (Nat.le_refl now) ?_ ?_ ?_ undue
    · rw [amend, Submission.conclusion_task]
    · rw [amend_called, Submission.conclusion_call]
      exact (List.append_nil x.called).trans calls
    · rw [amend_told, Submission.conclusion_event, told, Submission.id_of_terms terms]
      rfl
  | stopped n k reached past task calls told undue =>
    rw [Submission.polling_finished (by rw [task]; rfl), amend_nil]
    exact .stopped n k reached past task calls told undue

theorem Step.tracks {m : Move} (step : x.Step m i now y) (kept : m.Drops i → x.submission.task.isFinished = true)
    (other : m ≠ .poll i) (tracks : x.Tracks s since now awake c)
    (woken : y.submission.task.isFinished = false → y.submission.cancelled = true → awake) :
    y.Tracks s since now awake (cancelledBy c y now) := by
  cases step with
  | kept => exact tracks.relabel
  | released move =>
    exact (tracks.congr (y := ⟨{ x.submission with held := false }, x.past⟩) rfl rfl rfl rfl rfl).relabel
  | heard move =>
    have record : (x.amend i now x.submission.hearing).submission = x.submission :=
      x.submission.amended_hearing _ i i
    refine (tracks.congr (by rw [record]) (by rw [record]) (by rw [record]) ?_ ?_).relabel
    · rw [amend_called]
      unfold Submission.hearing
      split <;> exact List.append_nil _
    · rw [amend_told]
      unfold Submission.hearing
      split <;> exact List.append_nil _
  | polled move => exact (other move).elim
  | dropped move live =>
    rw [kept move] at live
    cases live
  | cancelled held =>
    cases tracks with
    | due n reached uncancelled sooner due turn next trail calls told undue =>
      have live : x.submission.task.isFinished = false := Submission.live_of_turn next
      rw [cancelledBy_now (x := ⟨{ x.submission with cancelled := true }, x.past⟩) rfl due]
      exact .doomed n true reached rfl live (woken live rfl) calls told undue
    | waits n reached uncancelled progress task stage calls told =>
      have live : x.submission.task.isFinished = false := by
        rw [task]
        rfl
      have undue : now ≤ s.due since := reached ▸ Nat.le_of_lt (Submission.undue_of_waiting stage)
      have rests : x.submission.task.isDue now = false := by
        rw [task, reached]
        exact Task.isDue_of_waits (Lookup.trail_waits stage)
      rw [cancelledBy_now (x := ⟨{ x.submission with cancelled := true }, x.past⟩) rfl rests]
      exact .doomed n false reached rfl live (woken live rfl) calls told undue
    | ended n reached complete o task outcome calls told late =>
      exact (Tracks.ended (x := ⟨{ x.submission with cancelled := true }, x.past⟩) n reached complete o task outcome
        calls told late).relabel
    | doomed n early reached already live sooner calls told undue =>
      exact .doomed n early reached rfl live sooner calls told undue
    | stopped n k reached past task calls told undue => exact .stopped n k reached past task calls told undue

theorem Tracks.pass (tracks : x.Tracks s since now awake c) (terms : x.submission.terms = s.terms) {ms : Nat}
    (asleep : ¬ awake) (stops : ∀ t ∈ x.submission.task.instants, now < t → now + ms ≤ t)
    (wakes : x.submission.task.isFinished = false → now + ms ∈ x.submission.task.instants → after) :
    x.Tracks s since (now + ms) after c := by
  cases tracks with
  | due n reached uncancelled woken => exact (asleep woken).elim
  | doomed n early reached cancelled live woken => exact (asleep woken).elim
  | ended n reached complete o task outcome calls told late =>
    exact .ended n (by omega) complete o task outcome calls told late
  | stopped n k reached past task calls told undue =>
    exact .stopped n k reached (by omega) task calls told undue
  | waits n reached uncancelled progress task stage calls told =>
    obtain ⟨some, early⟩ : progress.Waits now := reached ▸ Lookup.trail_waits stage
    have wanted : progress.dues ⊆ x.submission.task.instants := by
      rw [task]
      exact progress.dues_subset
    have within : ∀ t ∈ progress.dues, now + ms ≤ t := fun t member => stops t (wanted member) (early t member)
    -- Up to that instant the trail is idle. If a call ends then, the turn of that instant is the next of the trail.
    by_cases due : now + ms ∈ progress.dues
    · obtain ⟨m, rfl⟩ : ∃ m, ms = m + 1 := Nat.exists_eq_succ_of_ne_zero fun none => by
        have later := early _ due
        omega
      have idle : s.trail since (n + m) = s.trail since n := by
        refine Lookup.trail_idle stage (Nat.le_add_right n m) ⟨some, fun t member => ?_⟩
        have later := within t member
        change since + (n + m) < t
        omega
      have stays : (s.trail since (n + m)).stage = .ok (.waiting progress) := idle ▸ stage
      have turn := Lookup.trail_waiting stays
      have instant : now + (m + 1) = since + (n + m + 1) := by omega
      refine .due (n + m + 1) instant uncancelled (wakes (by rw [task]; rfl) (wanted due)) ?_
        ((x.submission.lookup (now + (m + 1))).resume x.submission.source progress) ?_ ?_ ?_ told ?_
      · rw [task]
        exact List.any_eq_true.mpr ⟨_, due, decide_eq_true (Nat.le_refl _)⟩
      · rw [Submission.turn?, task]
      · have called : (s.trail since (n + m)).calls = x.called := (congrArg Trail.calls idle).trans calls.symm
        rw [Submission.lookup_of_terms terms, Submission.source_of_terms terms, instant, ← called]
        exact turn
      · exact calls.trans (congrArg Trail.calls idle).symm
      · have undue := Submission.undue_of_waiting stays
        omega
    · have idle : s.trail since (n + ms) = s.trail since n := by
        refine Lookup.trail_idle stage (Nat.le_add_right n ms) ⟨some, fun t member => ?_⟩
        have later := Nat.lt_of_le_of_ne (within t member) fun same => due (same ▸ member)
        change since + (n + ms) < t
        omega
      refine .waits (n + ms) (by omega) uncancelled progress task ?_ ?_ told
      · rw [idle]
        exact stage
      · rw [idle]
        exact calls

theorem opened_tracks (fresh : s.task = .fresh) (uncancelled : s.cancelled = false) (woken : awake) :
    (opened s now).Tracks s now now awake none := by
  have calls : (opened s now).called = [] := by
    simp only [called, opened, List.filterMap_map, Function.comp_def]
    rw [← List.map_filterMap, s.facts_call]
    rfl
  have told : (opened s now).told = [(now, s.acceptance)] := by
    simp only [told, opened, List.filterMap_map, Function.comp_def]
    rw [← List.map_filterMap, s.facts_event]
    rfl
  refine .due 0 rfl uncancelled woken ?_ ((s.lookup now).start s.source) ?_ ?_ calls told
    ((s.lookup now).now_le_ending s.source)
  · change s.task.isDue now = true
    rw [fresh]
    rfl
  · change s.turn? now = _
    rw [Submission.turn?, fresh]
  · rw [calls]
    rfl

/-! ### Courses that begin alike -/

theorem trail_agree {n m : Nat} (left : s.due since ≤ since + n) (right : s.due since ≤ since + m) :
    s.trail since n = s.trail since m := by
  rcases Nat.le_total n m with before | before
  · exact (Lookup.trail_stays ((s.trail_isOver since n).mpr left) before).symm
  · exact Lookup.trail_stays ((s.trail_isOver since m).mpr right) before

/-- Whether it was cancelled before the turn of that instant or after, the calls of other instants are made. -/
theorem calls_apart (n : Nat) {t : Nat} (other : t ≠ since + n) :
    ∀ early late : Bool, callsAt (if early then s.callsBefore since n else (s.trail since n).calls) t =
      callsAt (if late then s.callsBefore since n else (s.trail since n).calls) t := by
  have same : callsAt (s.trail since n).calls t = callsAt (s.callsBefore since n) t :=
    (s.lookup since).trail_callsAt s.source n other
  rintro (- | -) (- | -)
  · rfl
  · exact same
  · exact same.symm
  · rfl

/-- Two pasts of one submission that is cancelled at the same instant, if at all, and not just when its
lookup is to end, come to the same when it has nothing to do at present. The calls are the same too, except
for those of the instant at which it was cancelled, if that was before the turn that it was to have then in
one past, and after it in the other. -/
theorem Tracks.agree {k : Option Cancellation} (first : x.Tracks s since now awake c)
    (second : y.Tracks s since now after k) (asleep : ¬ awake) (resting : ¬ after)
    (same : c.map Cancellation.instant = k.map Cancellation.instant)
    (apart : c.map Cancellation.instant ≠ some (s.due since)) :
    x.submission.task.outcome? = y.submission.task.outcome? ∧ x.told = y.told ∧ (c = k → x.called = y.called) ∧
      ∀ t, c.map Cancellation.instant ≠ some t → callsAt x.called t = callsAt y.called t := by
  have alike : x.called = y.called → (c = k → x.called = y.called) ∧
      ∀ t, c.map Cancellation.instant ≠ some t → callsAt x.called t = callsAt y.called t :=
    fun calls => ⟨fun _ => calls, fun t _ => by rw [calls]⟩
  cases first with
  | due n reached uncancelled woken => exact (asleep woken).elim
  | doomed n early reached cancelled live woken => exact (asleep woken).elim
  | waits n reached uncancelled progress task stage calls told =>
    have undue := Submission.undue_of_waiting stage
    cases second with
    | due m there still woken => exact (resting woken).elim
    | waits m there still other waiting goesOn called announced =>
      obtain rfl : n = m := by omega
      exact ⟨by rw [task, waiting]; rfl, told.trans announced.symm, alike (calls.trans called.symm)⟩
    | ended m there complete => omega
    | doomed m early there cancelled live woken => cases same
    | stopped m k there => cases same
  | ended n reached complete o task outcome calls told late =>
    cases second with
    | due m there uncancelled woken => exact (resting woken).elim
    | doomed m early there cancelled live woken => exact (resting woken).elim
    | waits m there uncancelled progress waiting stage =>
      have undue := Submission.undue_of_waiting stage
      omega
    | ended m there ends p settled known called announced =>
      have trails : s.trail since n = s.trail since m := trail_agree complete ends
      obtain rfl : o = p := by
        rw [trails, known] at outcome
        exact (Option.some.inj outcome).symm
      refine ⟨task.trans settled.symm, told.trans announced.symm, alike ?_⟩
      rw [calls, called, trails]
    | stopped m k there past settled called announced undue =>
      obtain ⟨j, rfl, at_once⟩ := Option.map_eq_some_iff.mp same
      have again := late j rfl
      exact (apart (same.trans (congrArg some (Nat.le_antisymm undue (at_once ▸ again))))).elim
  | stopped n j reached past task calls told undue =>
    cases second with
    | due m there uncancelled woken => exact (resting woken).elim
    | waits m there uncancelled progress waiting stage => cases same
    | doomed m early there cancelled live woken => exact (resting woken).elim
    | ended m there complete o settled outcome called announced late =>
      obtain ⟨k, rfl, at_once⟩ := Option.map_eq_some_iff.mp same.symm
      have again := late k rfl
      exact (apart (congrArg some (Nat.le_antisymm undue (at_once ▸ again)))).elim
    | stopped m k there before settled called announced =>
      have instant : j.instant = k.instant := Option.some.inj same
      obtain rfl : n = m := by omega
      refine ⟨by rw [task, settled], by rw [told, announced, instant], fun whole => ?_, fun t other => ?_⟩
      · rw [calls, called, Option.some.inj whole]
      · rw [calls, called]
        refine calls_apart n (fun now => other ?_) j.early k.early
        exact congrArg some (reached.trans now.symm)

end Dossier

namespace Desk

def isDue (d : Desk) (i : Nat) : Bool := d.submissions[i]?.any fun s => s.task.isDue d.now

/-- When submission `i` was cancelled: as is known from before, or else now if it is cancelled. -/
def cancelledBy (c : Option Cancellation) (d : Desk) (i : Nat) : Option Cancellation :=
  c.or (if d.isCancelled i then some ⟨d.now, d.isDue i⟩ else none)

/-- What may happen at a desk after `d₀` whose clock keeps time for submission `i`, with the cancellation of
the submission if it has been cancelled. When its task is over it may be dropped. -/
inductive Course (i : Nat) (d₀ : Desk) : Option Cancellation → Desk → Prop
  | begins : Course i d₀ none d₀
  | ticks {c : Option Cancellation} {d e : Desk} (course : Course i d₀ c d) (tick : Tick i d e) :
      Course i d₀ (cancelledBy c e i) e
  | drops {c : Option Cancellation} {d : Desk} (course : Course i d₀ c d) (m : Move) (drops : m.Drops i)
      (complete : d.isLive i = false) :
      Course i d₀ (cancelledBy c (d.step m) i) (d.step m)

/-- Submission `i`, which was accepted as `s` at the instant `since`, is on its track. -/
def Tracks (d : Desk) (i : Nat) (s : Submission) (since : Nat) (c : Option Cancellation) : Prop :=
  ∃ x, d.dossier? i = some x ∧ x.submission.terms = s.terms ∧ x.Tracks s since d.now (i ∈ d.awake) c

variable {d e : Desk} {i k since : Nat} {s : Submission} {c : Option Cancellation} {x : Dossier}

theorem isCancelled_of_dossier (opened : d.dossier? i = some x) : d.isCancelled i = x.submission.cancelled := by
  rw [isCancelled, (dossier?_eq_some.mp opened).1]
  rfl

theorem isLive_of_dossier (opened : d.dossier? i = some x) : d.isLive i = !x.submission.task.isFinished := by
  rw [isLive, (dossier?_eq_some.mp opened).1]
  rfl

theorem Alert.wakes (alert : d.Alert) (opened : d.dossier? i = some x) (live : x.submission.task.isFinished = false)
    (cancelled : x.submission.cancelled = true) : i ∈ d.awake :=
  alert i _ (dossier?_eq_some.mp opened).1 live (Or.inr cancelled)

theorem cancelledBy_of_dossier (opened : d.dossier? i = some x) (c : Option Cancellation) :
    cancelledBy c d i = x.cancelledBy c d.now := by
  rw [cancelledBy, Dossier.cancelledBy, isCancelled_of_dossier opened, isDue, (dossier?_eq_some.mp opened).1]
  rfl

theorem poll_tracks (opened : d.dossier? i = some x) (terms : x.submission.terms = s.terms) {awake : Prop}
    (tracked : x.Tracks s since d.now awake c) (alert : (d.poll i).Alert) :
    (d.poll i).Tracks i s since (cancelledBy c (d.poll i) i) := by
  have after : (d.poll i).dossier? i = _ := poll_dossier opened
  have now : (d.poll i).now = d.now := step_now (m := .poll i) (by simp)
  refine ⟨_, after, (x.submission.amended_terms i i _).trans terms, ?_⟩
  rw [cancelledBy_of_dossier after, now]
  exact Dossier.polling_tracks tracked terms fun live cancelled => alert.wakes after live cancelled

theorem step_tracks (tracks : d.Tracks i s since c) {m : Move} (alert : (d.step m).Alert)
    (timeless : ∀ ms, m ≠ .wait ms) (kept : m.Drops i → d.isLive i = false) :
    (d.step m).Tracks i s since (cancelledBy c (d.step m) i) := by
  obtain ⟨x, opened, terms, tracked⟩ := tracks
  by_cases own : m = .poll i
  · subst own
    exact poll_tracks opened terms tracked alert
  · obtain ⟨y, after, moved⟩ := step_dossier m opened
    have finished : m.Drops i → x.submission.task.isFinished = true := by
      intro drops
      simpa [isLive_of_dossier opened] using kept drops
    refine ⟨y, after, moved.terms.trans terms, ?_⟩
    rw [cancelledBy_of_dossier after, step_now timeless]
    refine moved.tracks finished own (tracked.imp fun live awake => ?_)
      fun live cancelled => alert.wakes after live cancelled
    refine step_stays_awake (dossier?_eq_some.mp opened).1 awake own fun drops => ?_
    rw [finished drops] at live
    cases live

theorem turn_tracks (tracks : d.Tracks i s since c) (alert : ((d.unwake k).poll k).Alert) :
    ((d.unwake k).poll k).Tracks i s since (cancelledBy c ((d.unwake k).poll k) i) := by
  obtain ⟨x, opened, terms, tracked⟩ := tracks
  by_cases own : k = i
  · subst own
    exact poll_tracks (d := d.unwake k) opened terms tracked alert
  · refine step_tracks (d := d.unwake k) (m := .poll k) ⟨x, opened, terms, tracked.imp fun _ awake => ?_⟩ alert
      (by simp) (by simp [Move.Drops])
    simpa [unwake, Ne.symm own] using awake

theorem pass_tracks (tracks : d.Tracks i s since c) {ms : Nat} {woken : List Nat} (asleep : i ∉ d.awake)
    (stops : ∀ t ∈ d.instantsOf i, d.now < t → d.now + ms ≤ t)
    (wakes : d.now + ms ∈ d.instantsOf i → i ∈ woken) :
    (woken.foldl wake (d.wait ms)).Tracks i s since (cancelledBy c (woken.foldl wake (d.wait ms)) i) := by
  obtain ⟨x, opened, terms, tracked⟩ := tracks
  have after := (pass_dossier d i ms woken).trans opened
  have instants : d.instantsOf i = x.submission.task.instants := by
    rw [instantsOf, (dossier?_eq_some.mp opened).1]
    rfl
  rw [instants] at stops wakes
  refine ⟨x, after, terms, ?_⟩
  rw [cancelledBy_of_dossier after, wakes_now]
  refine (tracked.pass terms asleep stops fun live wanted => ?_).relabel
  refine wakes_awake ?_ (Or.inr (wakes wanted))
  change d.isLive i = true
  rw [isLive_of_dossier opened, live]
  rfl

/-- A submission is on its track throughout its course. -/
theorem Course.tracks {d₀ : Desk} (course : Course i d₀ c d) (alert : d₀.Alert) (begins : d₀.Tracks i s since none) :
    d.Alert ∧ d.Tracks i s since c := by
  induction course with
  | begins => exact ⟨alert, begins⟩
  | ticks course tick ih =>
    obtain ⟨vigilant, tracks⟩ := ih
    have still := tick.alert vigilant
    refine ⟨still, ?_⟩
    cases tick with
    | move m timeless kept => exact step_tracks tracks still timeless fun drops => (kept drops).elim
    | turn k => exact turn_tracks tracks still
    | pass ms woken asleep stops wakes => exact pass_tracks tracks asleep stops wakes
  | drops course m drops complete ih =>
    obtain ⟨vigilant, tracks⟩ := ih
    have still := step_alert vigilant m
    refine ⟨still, step_tracks tracks still ?_ fun _ => complete⟩
    rcases drops with rfl | rfl <;> simp

end Desk

end TorrentAdmission
