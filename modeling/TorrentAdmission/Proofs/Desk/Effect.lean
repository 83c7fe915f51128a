import TorrentAdmission.Proofs.Desk.History
import TorrentAdmission.Proofs.Resolution.Delivery

/-!
# What a step of a dossier comes to

A step of a dossier leaves the task as it is, or lets it wait, or ends it: `Dossier.Step.effect` says
which events, calls and counts each of these adds. The event, the counts and the outcome that the
owner hears are those of one and the same end, whichever way the task came to it.
-/

namespace TorrentAdmission

/-! ### What edits announce, call and count -/

namespace Edit

def event? : Edit → Option Event
  | .announce event => some event
  | _ => none

def call? : Edit → Option Call
  | .call c => some c
  | _ => none

def counts : Edit → List Count
  | .count what => [what]
  | .announce event => [.event event.kind]
  | _ => []

theorem facts_event (e : Edit) (metered : Bool) :
    (e.facts 0 metered).filterMap Fact.event? = e.event?.toList := by
  cases e <;> cases metered <;> rfl

theorem facts_call (e : Edit) (metered : Bool) :
    (e.facts 0 metered).filterMap Fact.call? = e.call?.toList := by
  cases e <;> cases metered <;> rfl

theorem facts_count (e : Edit) (metered : Bool) :
    (e.facts 0 metered).filterMap Fact.count? = if metered then e.counts else [] := by
  cases e <;> cases metered <;> rfl

end Edit

namespace Submission

variable (s : Submission)

theorem facts_event (edits : List Edit) :
    (s.facts edits).filterMap Fact.event? = edits.filterMap Edit.event? := by
  induction edits with
  | nil => rfl
  | cons e rest ih =>
    rw [facts, List.flatMap_cons, List.filterMap_append, ← facts, ih, e.facts_event, List.filterMap_cons]
    cases e.event? <;> rfl

theorem facts_call (edits : List Edit) :
    (s.facts edits).filterMap Fact.call? = edits.filterMap Edit.call? := by
  induction edits with
  | nil => rfl
  | cons e rest ih =>
    rw [facts, List.flatMap_cons, List.filterMap_append, ← facts, ih, e.facts_call, List.filterMap_cons]
    cases e.call? <;> rfl

theorem facts_count (edits : List Edit) :
    (s.facts edits).filterMap Fact.count? =
      if s.resolver.metered then edits.flatMap Edit.counts else [] := by
  induction edits with
  | nil => cases s.resolver.metered <;> rfl
  | cons e rest ih =>
    rw [facts, List.flatMap_cons, List.filterMap_append, ← facts, ih, e.facts_count]
    cases s.resolver.metered <;> simp

end Submission

namespace Dossier

def events (x : Dossier) : List Event := x.past.filterMap fun p => p.2.event?

def calls (x : Dossier) : List Call := x.past.filterMap fun p => p.2.call?

def counts (x : Dossier) : List Count := x.past.filterMap fun p => p.2.count?

/-- `y` goes on from `x` with these events and calls, and with these counts if the resolver is
metered. -/
structure Gains (x y : Dossier) (events : List Event) (calls : List Call) (counts : List Count) :
    Prop where
  terms : y.submission.terms = x.submission.terms
  events : y.events = x.events ++ events
  calls : y.calls = x.calls ++ calls
  counts : y.counts = x.counts ++ if x.submission.resolver.metered then counts else []

theorem amend_gains (x : Dossier) (i now : Nat) (edits : List Edit) :
    x.Gains (x.amend i now edits) (edits.filterMap Edit.event?) (edits.filterMap Edit.call?)
      (edits.flatMap Edit.counts) where
  terms := x.submission.amended_terms i i edits
  events := by
    rw [← x.submission.facts_event]
    unfold events amend
    rw [List.filterMap_append, List.filterMap_map]
    rfl
  calls := by
    rw [← x.submission.facts_call]
    unfold calls amend
    rw [List.filterMap_append, List.filterMap_map]
    rfl
  counts := by
    rw [← x.submission.facts_count]
    unfold counts amend
    rw [List.filterMap_append, List.filterMap_map]
    rfl

end Dossier

/-! ### How a submission ends -/

/-- The paths that are counted when a submission of this source ends. -/
def Outcome.winners (source : Source) : Outcome → List Count
  | .resolved t =>
    match source.kind, t.key with
    | .direct, _ => []
    | .magnet, .submission _ => [.winner Path.primary.label]
    | .magnet, .infoHash _ => [.winner Path.prefetch.label]
  | _ => []

def Outcome.of : Except Failure (Torrent × Path) → Outcome
  | .ok (torrent, _) => .resolved torrent
  | .error e => .failed e

def Submission.lastCounts (s : Submission) (o : Outcome) : List Count :=
  o.winners s.source ++ [.event (o.event s.id).kind, .outcome o.label]

namespace Submission

variable (s t : Submission) (i : Nat)

theorem amended_conclusion (o : Outcome) :
    t.amended i i (s.conclusion o) = { t with task := .settled o } := by
  cases o <;> simp [conclusion, closing, retiring, amended, edited]

theorem conclusion_task (o : Outcome) : (t.amended i i (s.conclusion o)).task = .settled o := by
  rw [amended_conclusion]

theorem abandonment_task : (t.amended i i s.abandonment).task = .aborted := by
  simp [abandonment, closing, retiring, amended, edited]

theorem conclusion_event (o : Outcome) : (s.conclusion o).filterMap Edit.event? = [o.event s.id] := by
  cases o <;> rfl

theorem conclusion_call (o : Outcome) : (s.conclusion o).filterMap Edit.call? = [] := by
  cases o <;> rfl

theorem conclusion_count (o : Outcome) :
    (s.conclusion o).flatMap Edit.counts = [.event (o.event s.id).kind, .outcome o.label] := by
  cases o <;> rfl

theorem doing_event (acts : List Act) : (acts.map s.doing).filterMap Edit.event? = [] := by
  refine List.filterMap_eq_nil_iff.mpr fun e member => ?_
  obtain ⟨act, -, rfl⟩ := List.mem_map.mp member
  cases act <;> rfl

theorem doing_count (acts : List Act) : (acts.map s.doing).flatMap Edit.counts = [] := by
  refine List.flatMap_eq_nil_iff.mpr fun e member => ?_
  obtain ⟨act, -, rfl⟩ := List.mem_map.mp member
  cases act <;> rfl

theorem amended_settlement (result : Except Failure (Torrent × Path)) :
    t.amended i i (s.settlement result) = { t with task := .settled (.of result) } := by
  rcases result with e | ⟨torrent, path⟩
  · exact s.amended_conclusion t i (.failed e)
  · cases path <;> exact s.amended_conclusion t i (.resolved torrent)

theorem settlement_event (result : Except Failure (Torrent × Path)) :
    (s.settlement result).filterMap Edit.event? = [(Outcome.of result).event s.id] := by
  rcases result with e | ⟨torrent, path⟩
  · rfl
  · cases path <;> rfl

/-- A result that a lookup comes to is counted by its outcome, and by the path that led to it. -/
theorem settlement_count {now : Nat} {result : Except Failure (Torrent × Path)}
    (goes : (s.lookup now).Goes s.source (.done result)) :
    (s.settlement result).flatMap Edit.counts = s.lastCounts (.of result) := by
  rcases result with e | ⟨torrent, path⟩
  · rfl
  · obtain ⟨named, leads⟩ := goes
    cases path with
    | direct => simp only [lastCounts, Outcome.of, Outcome.winners, leads.1]; rfl
    | primary => simp only [lastCounts, Outcome.of, Outcome.winners, leads.1, leads.2]; rfl
    | prefetch =>
      obtain ⟨kind, hash, key⟩ := leads
      simp only [lastCounts, Outcome.of, Outcome.winners, kind, key]
      rfl

theorem settlement_named {now : Nat} {result : Except Failure (Torrent × Path)}
    (goes : (s.lookup now).Goes s.source (.done result)) {torrent : Torrent}
    (resolved : Outcome.of result = .resolved torrent) : torrent.Named := by
  rcases result with e | ⟨found, path⟩
  · cases resolved
  · cases resolved
    exact goes.1

end Submission

namespace Dossier

inductive Effect (x y : Dossier) : Prop where
  | still (task : y.submission.task = x.submission.task) (gains : x.Gains y [] [] [])
  | waits (live : x.submission.task.isFinished = false) (progress : Progress)
      (task : y.submission.task = .resolving progress) (fits : progress.Fits x.submission.source)
      (calls : List Call) (gains : x.Gains y [] calls [])
  | ends (live : x.submission.task.isFinished = false) (o : Outcome)
      (task : y.submission.task.outcome? = some o) (named : ∀ t, o = .resolved t → t.Named)
      (calls : List Call)
      (gains : x.Gains y [o.event x.submission.id] calls (x.submission.lastCounts o))

theorem amend_nil_effect (x : Dossier) (i now : Nat) {edits : List Edit} (silent : edits = []) :
    x.Effect (x.amend i now edits) := by
  subst silent
  exact .still rfl (x.amend_gains i now [])

theorem conclude_effect (x : Dossier) (i now : Nat) (live : x.submission.task.isFinished = false)
    (acts : List Act) :
    x.Effect (x.amend i now (acts.map x.submission.doing ++ x.submission.conclusion .cancelled)) := by
  have gains := x.amend_gains i now (acts.map x.submission.doing ++ x.submission.conclusion .cancelled)
  rw [List.filterMap_append, List.flatMap_append, Submission.doing_event, Submission.doing_count,
    Submission.conclusion_event, Submission.conclusion_count] at gains
  refine .ends live .cancelled ?_ (fun _ same => nomatch same) _ gains
  rw [amend, Submission.amended_append, Submission.conclusion_task]
  rfl

/-- Edits that abandon a submission, after acts of a last turn. -/
theorem abandon_effect (x : Dossier) (i now : Nat) (live : x.submission.task.isFinished = false)
    (acts : List Act) :
    x.Effect (x.amend i now (acts.map x.submission.doing ++ x.submission.abandonment)) := by
  have gains := x.amend_gains i now (acts.map x.submission.doing ++ x.submission.abandonment)
  rw [List.filterMap_append, List.flatMap_append, Submission.doing_event, Submission.doing_count] at gains
  refine .ends live (.failed .aborted) ?_ (fun _ same => nomatch same) _ gains
  rw [amend, Submission.amended_append, Submission.abandonment_task]
  rfl

theorem turning_effect (x : Dossier) (i now : Nat) (live : x.submission.task.isFinished = false)
    {turn : Turn (TorrentAdmission.Step Progress (Except Failure (Torrent × Path)))}
    (yields : turn.Yields ((x.submission.lookup now).Goes x.submission.source)) :
    x.Effect (x.amend i now (x.submission.turning i turn)) := by
  obtain ⟨acts, result⟩ := turn
  unfold Submission.turning Submission.followUp
  rcases result with crash | progress | result
  · exact x.abandon_effect i now live acts
  · have gains := x.amend_gains i now (acts.map x.submission.doing ++
      ([.task (.resolving progress), .unwake] ++ if x.submission.isStopped i acts then [.wake] else []))
    rw [List.filterMap_append, List.flatMap_append, Submission.doing_event, Submission.doing_count] at gains
    refine .waits live progress ?_ (yields _ rfl) _
      ⟨gains.terms, gains.events.trans ?_, gains.calls, gains.counts.trans ?_⟩
    · rw [amend, Submission.amended_append]
      cases x.submission.isStopped i acts <;> simp [Submission.amended, Submission.edited]
    · cases x.submission.isStopped i acts <;> rfl
    · cases x.submission.isStopped i acts <;> rfl
  · dsimp only
    by_cases stopped : x.submission.isStopped i acts = true
    · rw [if_pos stopped]
      exact x.conclude_effect i now live acts
    · rw [if_neg stopped]
      have goes := yields _ rfl
      have gains := x.amend_gains i now (acts.map x.submission.doing ++ x.submission.settlement result)
      rw [List.filterMap_append, List.flatMap_append, Submission.doing_event, Submission.doing_count,
        Submission.settlement_event, Submission.settlement_count _ goes] at gains
      refine .ends live (.of result) ?_ (fun _ => Submission.settlement_named _ goes) _ gains
      rw [amend, Submission.amended_append, Submission.amended_settlement]
      rfl

theorem polling_effect (x : Dossier) (i now : Nat)
    (fits : ∀ progress, x.submission.task = .resolving progress → progress.Fits x.submission.source) :
    x.Effect (x.amend i now (x.submission.polling i now)) := by
  have silent : x.submission.turn? now = none → x.Effect (x.amend i now (x.submission.polling i now)) := by
    intro idle
    exact x.amend_nil_effect i now (by simp [Submission.polling, idle])
  have goes : ∀ turn, x.submission.turn? now = some turn → x.submission.task.isFinished = false →
      turn.Yields ((x.submission.lookup now).Goes x.submission.source) →
      x.Effect (x.amend i now (x.submission.polling i now)) := by
    intro turn due live yields
    unfold Submission.polling
    rw [due]
    dsimp only
    split
    · exact x.conclude_effect i now live []
    · exact x.turning_effect i now live yields
  cases task : x.submission.task with
  | fresh => exact goes _ (by rw [Submission.turn?, task]) (by rw [task]; rfl) (Lookup.start_yields _ _)
  | resolving progress =>
    exact goes _ (by rw [Submission.turn?, task]) (by rw [task]; rfl) (Lookup.resume_yields _ (fits _ task))
  | settled o => exact silent (by rw [Submission.turn?, task])
  | aborted => exact silent (by rw [Submission.turn?, task])

/-- Every step of a dossier leaves the task as it is, lets it wait, or ends it. -/
theorem Step.effect {m : Move} {i now : Nat} {x y : Dossier} (step : x.Step m i now y)
    (fits : ∀ progress, x.submission.task = .resolving progress → progress.Fits x.submission.source) :
    x.Effect y := by
  have quiet : ∀ s : Submission, s.task = x.submission.task → s.terms = x.submission.terms →
      x.Effect ⟨s, x.past⟩ := by
    intro s task terms
    refine .still task ⟨terms, ?_, ?_, ?_⟩ <;> simp [events, calls, counts]
  cases step with
  | kept => exact quiet x.submission rfl rfl
  | cancelled held => exact quiet _ rfl rfl
  | released move => exact quiet _ rfl rfl
  | heard move =>
    have gains := x.amend_gains i now x.submission.hearing
    cases task : x.submission.task <;> simp only [Submission.hearing, task] at gains ⊢ <;>
      exact .still rfl gains
  | polled move => exact x.polling_effect i now fits
  | dropped move live => exact x.abandon_effect i now live []

end Dossier

end TorrentAdmission
