import Mathlib.Algebra.BigOperators.Group.Finset.Piecewise
import TorrentAdmission.Proofs.Desk.Ending
import TorrentAdmission.Proofs.Metrics.Tally

/-!
# The balance of the counters

Counters are kept one by one while submissions go on side by side, but they can be told from the
submissions: each of those that are counted has its part in them, which depends on where its task stands
(`Dossier.Sound`). `run_balances` adds these parts up.
-/

namespace TorrentAdmission

/-! ### Keys -/

namespace Submission

variable {s : Submission} {i now : Nat} {t : Torrent}

/-- A torrent to which a turn resolves its submission has been found on some path. -/
theorem turning_leads {turn : Turn (Step Progress (Except Failure (Torrent × Path)))}
    (yields : turn.Yields ((s.lookup now).Goes s.source))
    (resolved : (s.amended i i (s.turning i turn)).task.outcome? = some (.resolved t)) :
    ∃ path : Path, path.Leads s.source s.id t := by
  obtain ⟨acts, result⟩ := turn
  rw [turning, followUp, amended_append] at resolved
  rcases result with crash | progress | result
  · rw [abandonment_task] at resolved
    cases resolved
  · have waits : ∀ u : Submission, (u.amended i i ([.task (.resolving progress), .unwake] ++
        if s.isStopped i acts then [.wake] else [])).task = .resolving progress := by
      intro u
      cases s.isStopped i acts <;> simp [amended, edited]
    rw [waits] at resolved
    cases resolved
  · dsimp only at resolved
    split at resolved
    · rw [conclusion_task] at resolved
      cases resolved
    · rw [amended_settlement] at resolved
      rcases result with e | ⟨found, path⟩
      · cases resolved
      · cases resolved
        exact ⟨path, yields _ rfl⟩

theorem turn_yields {turn : Turn (Step Progress (Except Failure (Torrent × Path)))}
    (fits : ∀ progress, s.task = .resolving progress → progress.Fits s.source) (due : s.turn? now = some turn) :
    turn.Yields ((s.lookup now).Goes s.source) := by
  unfold turn? at due
  cases task : s.task with
  | fresh =>
    rw [task] at due
    cases due
    exact Lookup.start_yields _ _
  | resolving progress =>
    rw [task] at due
    cases due
    exact Lookup.resume_yields _ (fits progress task)
  | settled o => rw [task] at due; cases due
  | aborted => rw [task] at due; cases due

end Submission

namespace Dossier

/-- If the submission has been resolved, the torrent has been found on some path. -/
def Led (x : Dossier) : Prop :=
  ∀ t, x.submission.task.outcome? = some (.resolved t) →
    ∃ path : Path, path.Leads x.submission.source x.submission.id t

theorem Step.led {m : Move} {i now : Nat} {x y : Dossier} (step : x.Step m i now y)
    (fits : ∀ progress, x.submission.task = .resolving progress → progress.Fits x.submission.source)
    (led : x.Led) : y.Led := by
  intro t resolved
  have terms := step.terms
  rw [Submission.source_of_terms terms, Submission.id_of_terms terms]
  cases step with
  | kept => exact led t resolved
  | cancelled held => exact led t resolved
  | released move => exact led t resolved
  | heard move =>
    simp only [amend, Submission.amended_hearing] at resolved
    exact led t resolved
  | polled move =>
    simp only [amend, Submission.polling] at resolved
    cases due : x.submission.turn? now with
    | none =>
      rw [due] at resolved
      exact led t resolved
    | some turn =>
      simp only [due] at resolved
      split at resolved
      · rw [Submission.conclusion_task] at resolved
        cases resolved
      · exact Submission.turning_leads (Submission.turn_yields fits due) resolved
  | dropped move live =>
    simp only [amend, Submission.abandonment_task] at resolved
    cases resolved

end Dossier

namespace Desk

theorem run_led (bus : Bus Event) (ms : List Move) (i : Nat) (x : Dossier)
    (opened : ((Desk.new bus).run ms).dossier? i = some x) : x.Sound ∧ x.Led := by
  refine run_dossier (P := fun _ x => x.Sound ∧ x.Led) ?_ ?_ bus ms i x opened
  · intro _ now s fresh _
    refine ⟨Dossier.opened_sound s now fresh, fun t resolved => ?_⟩
    rw [Dossier.opened, fresh] at resolved
    cases resolved
  · rintro _ _ _ _ _ step ⟨sound, led⟩
    exact ⟨(step.effect sound.fits).sound sound, step.led sound.fits led⟩

/-! ### Adding up over submissions -/

/-- How many of the submissions that are counted have a property. -/
def census (d : Desk) (p : Nat → Submission → Bool) : Nat :=
  ((Finset.range d.submissions.length).filter fun i =>
    d.submissions[i]?.any (fun s => s.resolver.metered && p i s) = true).card

variable {d : Desk}

theorem census_congr {p q : Nat → Submission → Bool}
    (same : ∀ i s, d.submissions[i]? = some s → p i s = q i s) : d.census p = d.census q := by
  refine congrArg Finset.card (Finset.filter_congr fun i _ => ?_)
  cases found : d.submissions[i]? with
  | none => rfl
  | some s => simp only [Option.any_some, same i s found]

theorem census_compl (d : Desk) (p : Nat → Submission → Bool) :
    d.census p + d.census (fun i s => !p i s) = d.census fun _ _ => true := by
  simp only [census, Finset.card_filter, ← Finset.sum_add_distrib]
  refine Finset.sum_congr rfl fun i _ => ?_
  cases d.submissions[i]? with
  | none => rfl
  | some s => cases metered : s.resolver.metered <;> cases same : p i s <;> simp [metered, same]

/-- What the entries of a history come to is the sum of what they come to for each submission. -/
theorem countP_eq_sum {β : Type} {entries : List Entry} {n : Nat} (grounded : ∀ e ∈ entries, e.submission < n)
    (f : Entry → Option β) (p : β → Bool) :
    (entries.filterMap f).countP p = ∑ i ∈ Finset.range n,
      (entries.filterMap fun e => if e.submission = i then f e else none).countP p := by
  induction entries with
  | nil => simp
  | cons e rest ih =>
    have head : ∀ g : Entry → Option β,
        ((e :: rest).filterMap g).countP p = (rest.filterMap g).countP p + (g e).toList.countP p := by
      intro g
      rw [List.filterMap_cons]
      cases g e with
      | none => rfl
      | some b => simp [List.countP_cons]
    have own : ∀ i, (if e.submission = i then f e else none).toList.countP p =
        if e.submission = i then (f e).toList.countP p else 0 := by
      intro i
      split <;> rfl
    simp only [head, own, Finset.sum_add_distrib, Finset.sum_ite_eq]
    rw [ih fun other member => grounded other (List.mem_cons_of_mem e member),
      if_pos (Finset.mem_range.mpr (grounded e List.mem_cons_self))]

theorem countP_eq_census {β : Type} (grounded : d.Grounded) {f : Entry → Option β} {p : β → Bool}
    {q : Nat → Submission → Bool}
    (each : ∀ i s, d.submissions[i]? = some s →
      (d.history.filterMap fun e => if e.submission = i then f e else none).countP p =
        if s.resolver.metered && q i s then 1 else 0) :
    (d.history.filterMap f).countP p = d.census q := by
  rw [countP_eq_sum grounded, census, Finset.card_filter]
  refine Finset.sum_congr rfl fun i inside => ?_
  have found := List.getElem?_eq_getElem (Finset.mem_range.mp inside)
  rw [each i _ found, found]
  rfl

end Desk

/-! ### What one submission contributes -/

theorem SourceKind.label_inj {k l : SourceKind} : k.label = l.label ↔ k = l := by
  cases k <;> cases l <;> decide

namespace Submission

/-- All that is counted for a submission whose task stands where it does. -/
def tally (s : Submission) : List Count :=
  s.firstCounts ++ s.task.outcome?.elim [] s.lastCounts

variable (s : Submission)

theorem source_kind : s.source.kind = SourceKind.of s.request.source := by
  unfold source Request.route
  split <;> simp only [Source.kind, *]

theorem winners_labels {label? : Count → Option String} (other : ∀ path, label? (.winner path) = none)
    (source : Source) (o : Outcome) : (o.winners source).filterMap label? = [] := by
  refine List.filterMap_eq_nil_iff.mpr fun what member => ?_
  unfold Outcome.winners at member
  split at member
  · split at member
    · cases member
    · rw [List.mem_singleton.mp member, other]
    · rw [List.mem_singleton.mp member, other]
  · cases member

theorem tally_labels {label? : Count → Option String} (other : ∀ path, label? (.winner path) = none) :
    s.tally.filterMap label? = s.firstCounts.filterMap label? ++
      (s.task.outcome?.elim [] fun o => [.event (o.event s.id).kind, .outcome o.label]).filterMap label? := by
  rw [tally, List.filterMap_append]
  cases s.task.outcome? with
  | none => rfl
  | some o => rw [Option.elim_some, Option.elim_some, lastCounts, List.filterMap_append, winners_labels other]; rfl

theorem tally_submissions : s.tally.filterMap Count.submissionLabel? = [s.source.kind.label] := by
  rw [tally_labels s fun _ => rfl]
  cases s.task.outcome? <;> rfl

theorem tally_outcomes :
    s.tally.filterMap Count.outcomeLabel? = (s.task.outcome?.map Outcome.label).toList := by
  rw [tally_labels s fun _ => rfl]
  cases s.task.outcome? <;> rfl

theorem tally_events : s.tally.filterMap Count.eventLabel? =
    s.acceptance.kind :: (s.task.outcome?.map fun o => (o.event s.id).kind).toList := by
  rw [tally_labels s fun _ => rfl]
  cases s.task.outcome? <;> rfl

theorem tally_winners : s.tally.filterMap Count.winnerLabel? =
    (s.task.outcome?.elim [] (Outcome.winners s.source)).filterMap Count.winnerLabel? := by
  rw [tally, List.filterMap_append]
  cases s.task.outcome? with
  | none => rfl
  | some o => rw [Option.elim_some, Option.elim_some, lastCounts, List.filterMap_append]; exact List.append_nil _

end Submission

namespace Desk

/-- What is known of a desk after a run that its counters depend on. -/
structure Audited (d : Desk) : Prop where
  grounded : d.Grounded
  sound : ∀ i s, d.submissions[i]? = some s → (Dossier.mk s (d.chronicle i)).Sound
  led : ∀ i s, d.submissions[i]? = some s → (Dossier.mk s (d.chronicle i)).Led
  tallies : d.metrics.Tallies d.counts

theorem run_audited (bus : Bus Event) (ms : List Move) : ((Desk.new bus).run ms).Audited := by
  refine ⟨run_grounded bus ms, run_submissions_sound bus ms, fun i s found => ?_, ?_⟩
  · exact (run_led bus ms i _ (dossier?_of_found found)).2
  · rw [run_tallied bus ms]
    exact Metrics.tallies _

variable {d : Desk}

theorem Audited.countP_labels (audited : d.Audited) {label? : Count → Option String} {p : String → Bool}
    {q : Nat → Submission → Bool}
    (each : ∀ i s, d.submissions[i]? = some s → (s.tally.filterMap label?).countP p = if q i s then 1 else 0) :
    (d.counts.filterMap label?).countP p = d.census q := by
  rw [counts, List.filterMap_filterMap]
  refine countP_eq_census audited.grounded fun i s found => ?_
  have own : (d.history.filterMap fun e => if e.submission = i then e.fact.count?.bind label? else none) =
      (d.countsOf i).filterMap label? := by
    rw [countsOf, List.filterMap_filterMap]
    congr 1
    funext e
    split <;> rfl
  have counted : d.countsOf i = if s.resolver.metered then s.tally else [] :=
    (countsOf_eq d i).trans (audited.sound i s found).counts
  rw [own, counted]
  cases s.resolver.metered with
  | false => rfl
  | true => simpa using each i s found

/-- The events that have been published about submissions that are counted. -/
def meteredEvents (d : Desk) : List Event :=
  d.history.filterMap fun e =>
    if d.submissions[e.submission]?.any (·.resolver.metered) then e.fact.event? else none

theorem Audited.countP_events (audited : d.Audited) {p : Event → Bool} {q : Nat → Submission → Bool}
    (each : ∀ i s, d.submissions[i]? = some s →
      (s.acceptance :: (s.task.outcome?.map (·.event s.id)).toList).countP p = if q i s then 1 else 0) :
    d.meteredEvents.countP p = d.census q := by
  refine countP_eq_census audited.grounded fun i s found => ?_
  have own : (d.history.filterMap fun e => if e.submission = i then
        (if d.submissions[e.submission]?.any (·.resolver.metered) then e.fact.event? else none) else none) =
      if s.resolver.metered then (d.eventsOf i).map Posted.content else [] := by
    cases metered : s.resolver.metered with
    | false =>
      refine List.filterMap_eq_nil_iff.mpr fun e _ => ?_
      split
      · rename_i own
        simp [own, found, metered]
      · rfl
    | true =>
      rw [eventsOf, List.map_filterMap, if_pos rfl]
      refine List.filterMap_congr fun e _ => ?_
      by_cases own : e.submission = i
      · cases fact : e.fact <;> simp [own, found, metered, Fact.event?]
      · cases fact : e.fact <;> simp [own]
  rw [own, eventsOf_eq_events (audited.sound i s found)]
  cases s.resolver.metered with
  | false => rfl
  | true => simpa using each i s found

/-! ### The balance -/

end Desk

def TorrentKey.isInfoHash : TorrentKey → Bool
  | .submission _ => false
  | .infoHash _ => true

/-- The event announces, as an addition for this submission, a torrent with this key. -/
def Event.adds (submission : Uuid) (key : TorrentKey) : Event → Bool
  | .added id torrent _ => id = submission && torrent = key.render
  | _ => false

/-- An outcome goes by one name among the outcomes and another one among the events. -/
theorem Outcome.kind_iff_label (o : Outcome) (submission : Uuid) {names : String × String}
    (paired : names ∈ [("resolved", "add"), ("failed", "add_failed"), ("cancelled", "add_cancelled")]) :
    (o.event submission).kind = names.2 ↔ o.label = names.1 := by
  simp only [List.mem_cons, List.not_mem_nil, or_false] at paired
  rcases paired with rfl | rfl | rfl <;> cases o <;> simp [event, Event.kind, label]

namespace Desk

variable {d : Desk}

/-- The key of the torrent that submission `i` has been resolved to, if it has been announced under it. -/
def announcedKey? (d : Desk) (i : Nat) (s : Submission) : Option TorrentKey :=
  match s.task.outcome? with
  | some (.resolved t) => if (d.eventsOf i).any (·.content.adds s.id t.key) then some t.key else none
  | _ => none

theorem announcedKey?_eq {i : Nat} {s : Submission} (sound : (Dossier.mk s (d.chronicle i)).Sound) :
    d.announcedKey? i s = s.task.outcome?.bind fun
      | .resolved t => some t.key
      | _ => none := by
  have announced := eventsOf_eq_events sound
  unfold announcedKey?
  cases ended : s.task.outcome? with
  | none => rfl
  | some o =>
    cases o with
    | resolved t =>
      rw [ended] at announced
      have told : (d.eventsOf i).any (·.content.adds s.id t.key) = true := by
        obtain ⟨first, rest, events, -, more⟩ := List.map_eq_cons_iff.mp announced
        obtain ⟨last, rfl, added⟩ := List.map_eq_singleton_iff.mp more
        simp [events, added, Outcome.event, Event.adds]
      exact if_pos told
    | _ => rfl

theorem Audited.submissions_count (audited : d.Audited) (label : String) :
    d.metrics.submissions.count label = d.census fun _ s => s.source.kind.label = label := by
  rw [audited.tallies.submissions.counts]
  refine audited.countP_labels fun i s _ => ?_
  rw [s.tally_submissions, List.countP_singleton]
  simp

theorem Audited.submissions_total (audited : d.Audited) :
    d.metrics.submissions.total = d.census fun _ _ => true := by
  rw [audited.tallies.submissions.total, ← List.countP_true]
  refine audited.countP_labels fun i s _ => ?_
  rw [s.tally_submissions]
  rfl

theorem Audited.outcomes_count (audited : d.Audited) (label : String) :
    d.metrics.outcomes.count label = d.census fun _ s => s.task.outcome?.any (·.label = label) := by
  rw [audited.tallies.outcomes.counts]
  refine audited.countP_labels fun i s _ => ?_
  rw [s.tally_outcomes]
  cases s.task.outcome? <;> simp [List.countP_singleton]

theorem Audited.outcomes_total (audited : d.Audited) :
    d.metrics.outcomes.total = d.census fun _ s => s.task.isFinished := by
  rw [audited.tallies.outcomes.total, ← List.countP_true]
  refine audited.countP_labels fun i s _ => ?_
  rw [s.tally_outcomes, Task.isFinished_eq]
  cases s.task.outcome? <;> rfl

theorem Audited.events_accepting (audited : d.Audited) :
    d.metrics.events.count "beforeadd" = d.census fun _ _ => true := by
  rw [audited.tallies.events.counts]
  refine audited.countP_labels fun i s _ => ?_
  rw [s.tally_events]
  cases s.task.outcome? with
  | none => rfl
  | some o => cases o <;> rfl

/-- Events that end submissions are counted as such. -/
theorem Audited.events_ending (audited : d.Audited) {kind : String} (ending : kind ≠ "beforeadd") :
    d.metrics.events.count kind = d.census fun _ s => s.task.outcome?.any fun o => (o.event s.id).kind = kind := by
  rw [audited.tallies.events.counts]
  refine audited.countP_labels fun i s _ => ?_
  have accepting : ¬ (s.acceptance.kind == kind) = true := fun same => ending (eq_of_beq same).symm
  rw [s.tally_events, List.countP_cons, if_neg accepting, Nat.add_zero]
  cases s.task.outcome? <;> simp [List.countP_singleton]

theorem Audited.published_ending (audited : d.Audited) {kind : String} (ending : kind ≠ "beforeadd") :
    d.meteredEvents.countP (fun e => e.kind = kind) =
      d.census fun _ s => s.task.outcome?.any fun o => (o.event s.id).kind = kind := by
  refine audited.countP_events fun i s _ => ?_
  have accepting : ¬ decide (s.acceptance.kind = kind) = true := fun same => ending (of_decide_eq_true same).symm
  rw [List.countP_cons, if_neg accepting, Nat.add_zero]
  cases s.task.outcome? <;> simp [List.countP_singleton]

theorem Audited.winners_count (audited : d.Audited) (path : Path) (magnet : path ≠ .direct) :
    d.metrics.winners.count path.label = d.census fun i s => s.source.kind = .magnet &&
      (match path with
        | .prefetch => (d.announcedKey? i s).any TorrentKey.isInfoHash
        | _ => d.announcedKey? i s = some (.submission s.id)) := by
  rw [audited.tallies.winners.counts]
  refine audited.countP_labels fun i s found => ?_
  rw [s.tally_winners, announcedKey?_eq (audited.sound i s found)]
  cases ended : s.task.outcome? with
  | none => cases path <;> simp
  | some o =>
    cases o with
    | resolved t =>
      obtain ⟨found, -, leads⟩ := audited.led i s found t ended
      cases found with
      | direct => simp [Outcome.winners, leads.1]
      | primary =>
        obtain ⟨kind, key⟩ := leads
        cases path with
        | direct => exact (magnet rfl).elim
        | primary => simp [Outcome.winners, kind, key, Count.winnerLabel?]
        | prefetch => simp [Outcome.winners, kind, key, Count.winnerLabel?, Path.label, TorrentKey.isInfoHash]
      | prefetch =>
        obtain ⟨kind, hash, key⟩ := leads
        cases path with
        | direct => exact (magnet rfl).elim
        | primary => simp [Outcome.winners, kind, key, Count.winnerLabel?, Path.label]
        | prefetch => simp [Outcome.winners, kind, key, Count.winnerLabel?, TorrentKey.isInfoHash]
    | _ => cases path <;> simp [Outcome.winners]

theorem eventsOf_terminal {i : Nat} {s : Submission} (sound : (Dossier.mk s (d.chronicle i)).Sound) :
    (d.eventsOf i).any (·.content.isTerminal) = s.task.isFinished := by
  have announced := congrArg (List.any · Event.isTerminal) (eventsOf_eq_events sound)
  rw [List.any_map] at announced
  refine announced.trans ?_
  rw [Task.isFinished_eq]
  cases s.task.outcome? with
  | none => rfl
  | some o => simp [Outcome.event_isTerminal]

/-- Submissions go on at resolvers of which some are counted. At every moment the counters tell of these:
the number under way is that of the submissions that have not been ended by an event, and what has been
accepted less what has come to an outcome; the submissions are counted by what their texts are taken for;
events are counted as they are published, one that accepts for each submission and one that ends it with
the outcome of the same name; and the winning path of a magnet link is the one that goes with the key it
was announced under. -/
theorem run_balances (bus : Bus Event) (ms : List Move) :
    let d := (Desk.new bus).run ms
    let m := d.metrics
    m.inFlight = d.census (fun i _ => !(d.eventsOf i).any (·.content.isTerminal)) ∧
    m.inFlight = (m.submissions.total : Int) - m.outcomes.total ∧ 0 ≤ m.inFlight ∧
    (∀ kind : SourceKind,
      m.submissions.count kind.label = d.census fun _ s => SourceKind.of s.request.source = kind) ∧
    m.events.count "beforeadd" = d.census (fun _ _ => true) ∧
    (∀ ending ∈ [("resolved", "add"), ("failed", "add_failed"), ("cancelled", "add_cancelled")],
      m.events.count ending.2 = m.outcomes.count ending.1 ∧
      m.events.count ending.2 = d.meteredEvents.countP fun e => e.kind = ending.2) ∧
    m.winners.count Path.primary.label = d.census (fun i s =>
      SourceKind.of s.request.source = .magnet && d.announcedKey? i s = some (.submission s.id)) ∧
    m.winners.count Path.prefetch.label = d.census (fun i s =>
      SourceKind.of s.request.source = .magnet && (d.announcedKey? i s).any TorrentKey.isInfoHash) := by
  intro d m
  have audited : d.Audited := run_audited bus ms
  have inFlight : m.inFlight = (m.submissions.total : Int) - m.outcomes.total := audited.tallies.inFlight
  have total : m.outcomes.total + d.census (fun _ s => !s.task.isFinished) = m.submissions.total := by
    rw [audited.outcomes_total, audited.submissions_total]
    exact d.census_compl _
  refine ⟨?_, inFlight, by omega, fun kind => ?_, audited.events_accepting, fun ending member => ?_, ?_, ?_⟩
  · have unended : d.census (fun i _ => !(d.eventsOf i).any (·.content.isTerminal)) =
        d.census fun _ s => !s.task.isFinished := by
      refine census_congr fun i s found => congrArg (!·) ?_
      exact eventsOf_terminal (audited.sound i s found)
    rw [unended]
    omega
  · rw [audited.submissions_count]
    refine census_congr fun i s _ => decide_eq_decide.mpr ?_
    rw [← s.source_kind]
    exact SourceKind.label_inj
  · have other : ending.2 ≠ "beforeadd" := by
      simp only [List.mem_cons, List.not_mem_nil, or_false] at member
      rcases member with rfl | rfl | rfl <;> decide
    rw [audited.published_ending other, audited.events_ending other, audited.outcomes_count]
    refine ⟨census_congr fun i s _ => ?_, rfl⟩
    cases s.task.outcome? with
    | none => rfl
    | some o => exact decide_eq_decide.mpr (o.kind_iff_label s.id member)
  · rw [audited.winners_count .primary (by decide)]
    exact census_congr fun i s _ => by rw [s.source_kind]
  · rw [audited.winners_count .prefetch (by decide)]
    exact census_congr fun i s _ => by rw [s.source_kind]

end Desk

end TorrentAdmission
