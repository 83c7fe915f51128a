import Mathlib.Data.List.Basic
import TorrentAdmission.Desk.Timeline
import TorrentAdmission.Proofs.Desk.Effect
import TorrentAdmission.Samples

/-!
# How submissions end

After every run the past of a submission is determined by where its task stands: it was accepted once,
and if its task is finished it was ended once, by the event, the counts and the outcome that belong
together. `run_sound` is the invariant; `run_announces_each_end_once` reads it off the numbered events
of the bus, `run_tells_one_outcome` off what the owner hears, what is announced and what is counted.
-/

namespace TorrentAdmission

/-! ### What a submission's terms determine -/

namespace Submission

variable {s t : Submission}

/-- What is counted when a submission is accepted. -/
def firstCounts (s : Submission) : List Count :=
  [.submission s.source.kind.label, .event s.acceptance.kind]

theorem firstCounts_of_terms (same : s.terms = t.terms) : s.firstCounts = t.firstCounts := by
  rw [firstCounts, firstCounts, source_of_terms same, acceptance_of_terms same]

theorem lastCounts_of_terms (same : s.terms = t.terms) : s.lastCounts = t.lastCounts := by
  funext o
  rw [lastCounts, lastCounts, source_of_terms same, id_of_terms same]

end Submission

theorem Task.isFinished_eq (task : Task) : task.isFinished = task.outcome?.isSome := by
  cases task <;> rfl

theorem Task.outcome?_eq_none {task : Task} (live : task.isFinished = false) : task.outcome? = none := by
  rwa [isFinished_eq, Option.isSome_eq_false_iff, Option.isNone_iff_eq_none] at live

namespace Dossier

/-- Where the task of a submission stands determines what has been announced and counted. -/
structure Sound (x : Dossier) : Prop where
  fits : ∀ progress, x.submission.task = .resolving progress → progress.Fits x.submission.source
  named : ∀ t, x.submission.task.outcome? = some (.resolved t) → t.Named
  unstarted : x.submission.task = .fresh → x.calls = []
  events : x.events =
    x.submission.acceptance :: (x.submission.task.outcome?.map (·.event x.submission.id)).toList
  counts : x.counts =
    if x.submission.resolver.metered then
      x.submission.firstCounts ++ x.submission.task.outcome?.elim [] x.submission.lastCounts
    else []

theorem opened_sound (s : Submission) (now : Nat) (fresh : s.task = .fresh) : (opened s now).Sound := by
  refine ⟨?_, ?_, ?_, ?_, ?_⟩
  · intro progress resolving
    cases fresh.symm.trans resolving
  · intro t resolved
    rw [opened, fresh] at resolved
    cases resolved
  · intro _
    simp only [opened, calls, List.filterMap_map, Function.comp_def]
    exact s.facts_call s.opening
  · simp only [opened, events, List.filterMap_map, Function.comp_def, fresh]
    exact s.facts_event s.opening
  · simp only [opened, counts, List.filterMap_map, Function.comp_def, fresh]
    exact s.facts_count s.opening

theorem Effect.sound {x y : Dossier} (effect : x.Effect y) (sound : x.Sound) : y.Sound := by
  obtain ⟨fits, named, unstarted, events, counts⟩ := sound
  cases effect with
  | still task gains =>
    obtain ⟨terms, moreEvents, moreCalls, moreCounts⟩ := gains
    have source := Submission.source_of_terms terms
    refine ⟨?_, ?_, ?_, ?_, ?_⟩
    · rwa [task, source]
    · rwa [task]
    · rwa [task, moreCalls, List.append_nil]
    · rw [moreEvents, List.append_nil, events, task, Submission.acceptance_of_terms terms,
        Submission.id_of_terms terms]
    · rw [moreCounts, ite_self, List.append_nil, counts, task, Submission.resolver_of_terms terms,
        Submission.firstCounts_of_terms terms, Submission.lastCounts_of_terms terms]
  | waits live progress task fitting called gains =>
    obtain ⟨terms, moreEvents, moreCalls, moreCounts⟩ := gains
    have source := Submission.source_of_terms terms
    refine ⟨?_, ?_, ?_, ?_, ?_⟩
    · intro other resolving
      cases task.symm.trans resolving
      rwa [source]
    · rw [task]
      simp [Task.outcome?]
    · rw [task]
      simp
    · rw [moreEvents, List.append_nil, events, Task.outcome?_eq_none live, task, Submission.acceptance_of_terms terms]
      rfl
    · rw [moreCounts, ite_self, List.append_nil, counts, Task.outcome?_eq_none live, task,
        Submission.resolver_of_terms terms, Submission.firstCounts_of_terms terms]
      rfl
  | ends live o task naming called gains =>
    obtain ⟨terms, moreEvents, moreCalls, moreCounts⟩ := gains
    refine ⟨?_, ?_, ?_, ?_, ?_⟩
    · intro progress resolving
      rw [resolving] at task
      cases task
    · intro t resolved
      exact naming t (Option.some.inj (task.symm.trans resolved))
    · intro fresh
      rw [fresh] at task
      cases task
    · rw [moreEvents, events, Task.outcome?_eq_none live, task, Submission.acceptance_of_terms terms,
        Submission.id_of_terms terms]
      rfl
    · rw [moreCounts, counts, Task.outcome?_eq_none live, task, Submission.resolver_of_terms terms,
        Submission.firstCounts_of_terms terms, Submission.lastCounts_of_terms terms]
      split <;> simp

/-- A finished task stays as it is. -/
theorem Step.finished {m : Move} {i now : Nat} {x y : Dossier} (step : x.Step m i now y)
    (finished : x.submission.task.isFinished = true) : y.submission.task = x.submission.task := by
  have fits : ∀ progress, x.submission.task = .resolving progress → progress.Fits x.submission.source := by
    intro progress resolving
    rw [resolving] at finished
    cases finished
  cases step.effect fits with
  | still task gains => exact task
  | waits live => rw [live] at finished; cases finished
  | ends live => rw [live] at finished; cases finished

end Dossier

namespace Desk

/-- Every dossier is sound after every run. -/
theorem run_sound (bus : Bus Event) (ms : List Move) (i : Nat) (x : Dossier)
    (opened : ((Desk.new bus).run ms).dossier? i = some x) : x.Sound :=
  run_dossier (P := fun _ x => x.Sound) (fun _ now s fresh _ => Dossier.opened_sound s now fresh)
    (fun _ _ _ _ _ step sound => (step.effect sound.fits).sound sound) bus ms i x opened

/-! ### Events by the id they carry -/

variable {d : Desk} {i : Nat} {s : Submission}

theorem dossier?_of_found (found : d.submissions[i]? = some s) :
    d.dossier? i = some ⟨s, d.chronicle i⟩ :=
  dossier?_eq_some.mpr ⟨found, rfl⟩

/-- The events of a submission, by its number, are those of its dossier. -/
theorem eventsOf_eq_events
    (sound : (Dossier.mk s (d.chronicle i)).Sound) :
    (d.eventsOf i).map Posted.content = s.acceptance :: (s.task.outcome?.map (·.event s.id)).toList :=
  (eventsOf_contents d i).trans sound.events

theorem eventsOf_submission
    (sound : (Dossier.mk s (d.chronicle i)).Sound) :
    ∀ e ∈ d.eventsOf i, e.content.submission = s.id := by
  intro e member
  have content : e.content ∈ (d.eventsOf i).map Posted.content := List.mem_map_of_mem member
  rw [eventsOf_eq_events sound] at content
  rcases List.mem_cons.mp content with first | last
  · rw [first]
    rfl
  · obtain ⟨o, -, same⟩ := Option.map_eq_some_iff.mp (Option.mem_toList.mp last)
    rw [← same, Outcome.event_submission]

/-- Where the ids of submissions are distinct, the events that carry an id are those of the submission
that has it. -/
theorem posted_filter (grounded : d.Grounded)
    (sound : ∀ k t, d.submissions[k]? = some t → (Dossier.mk t (d.chronicle k)).Sound)
    (distinct : (d.submissions.map Submission.id).Nodup) (found : d.submissions[i]? = some s) :
    d.posted.filter (fun e => e.content.submission = s.id) = d.eventsOf i := by
  have carried : ∀ entry ∈ d.history, ∀ e, entry.fact = .published e →
      (e.content.submission = s.id ↔ entry.submission = i) := by
    intro entry member e published
    have inside := grounded entry member
    have other := List.getElem?_eq_getElem inside
    generalize d.submissions[entry.submission] = t at other
    have own : e ∈ d.eventsOf entry.submission :=
      List.mem_filterMap.mpr ⟨entry, member, by simp [published]⟩
    rw [eventsOf_submission (sound _ t other) e own]
    constructor
    · intro same
      refine (List.getElem?_inj (by simpa using inside) distinct).mp ?_
      rw [List.getElem?_map, List.getElem?_map, other, found, Option.map_some, Option.map_some, same]
    · intro same
      rw [same, found] at other
      rw [Option.some.inj other]
  rw [posted, eventsOf, List.filter_filterMap]
  refine List.filterMap_congr fun entry member => ?_
  cases fact : entry.fact with
  | published e =>
    have iff := carried entry member e fact
    by_cases own : entry.submission = i <;> simp [Option.filter, iff, own]
  | _ => rfl

theorem run_submissions_sound (bus : Bus Event) (ms : List Move) (i : Nat) (s : Submission)
    (found : ((Desk.new bus).run ms).submissions[i]? = some s) :
    (Dossier.mk s (((Desk.new bus).run ms).chronicle i)).Sound :=
  run_sound bus ms i _ (dossier?_of_found found)

theorem eventsOf_sublist (d : Desk) (i : Nat) : (d.eventsOf i).Sublist d.posted := by
  unfold eventsOf posted
  induction d.history with
  | nil => exact .slnil
  | cons entry rest ih =>
    rcases entry with ⟨instant, k, e | call | notice | what⟩
    · by_cases own : k = i
      · simpa [own] using ih
      · simpa [own] using ih.cons e
    · exact ih
    · exact ih
    · exact ih

/-- What is announced of a submission, with the numbers of the events: its acceptance, and behind it
its end if its task is finished. -/
theorem eventsOf_shape (increasing : d.posted.Pairwise fun e f => e.id < f.id)
    (sound : (Dossier.mk s (d.chronicle i)).Sound) :
    ∃ first, first.content = s.acceptance ∧
      if s.task.isFinished then
        ∃ last, last.content.isTerminal = true ∧ first.id < last.id ∧ d.eventsOf i = [first, last]
      else d.eventsOf i = [first] := by
  have contents := eventsOf_eq_events sound
  have numbered := increasing.sublist (eventsOf_sublist d i)
  rw [Task.isFinished_eq]
  cases ended : s.task.outcome? with
  | none =>
    rw [ended] at contents
    obtain ⟨first, events, head⟩ := List.map_eq_singleton_iff.mp contents
    exact ⟨first, head, events⟩
  | some o =>
    rw [ended] at contents
    obtain ⟨first, rest, events, head, more⟩ := List.map_eq_cons_iff.mp contents
    obtain ⟨last, rfl, tail⟩ := List.map_eq_singleton_iff.mp more
    rw [events] at numbered
    refine ⟨first, head, last, ?_, ?_, events⟩
    · rw [tail, Outcome.event_isTerminal]
    · exact List.rel_of_pairwise_cons numbered (List.mem_singleton_self last)

theorem mem_posted_of_eventsOf {e : Posted Event} (member : e ∈ d.eventsOf i) : e ∈ d.posted :=
  (eventsOf_sublist d i).subset member

/-- When a request has been handed in, its acceptance has been announced. -/
theorem submit_announces (grounded : d.Grounded) (isOpen : d.outside ≠ 0) (resolver : Resolver)
    (id : Uuid) (request : Request) :
    ∃ s, (d.submit resolver id request).submissions[d.submissions.length]? = some s ∧
      s.terms = (id, request, resolver) ∧
      ∃ first ∈ (d.submit resolver id request).posted, first.content = s.acceptance := by
  obtain ⟨x, opened, terms, sound⟩ : ∃ x : Dossier,
      (d.submit resolver id request).dossier? d.submissions.length = some x ∧
        x.submission.terms = (id, request, resolver) ∧ x.Sound := by
    have fresh := Dossier.opened_sound (d.incoming resolver id request) d.now rfl
    refine ⟨_, submit_opened grounded isOpen resolver id request, ?_⟩
    split
    · exact ⟨rfl, fresh⟩
    · have dropped := Dossier.step_dropped (m := .tearDown d.submissions.length) (Or.inl rfl)
        (Dossier.opened (d.incoming resolver id request) d.now) d.now
      exact ⟨Submission.amended_terms .., (dropped.effect fresh.fits).sound fresh⟩
  obtain ⟨s, past⟩ := x
  obtain ⟨found, rfl⟩ := dossier?_eq_some.mp opened
  refine ⟨s, found, terms, ?_⟩
  obtain ⟨first, rest, events, head, -⟩ := List.map_eq_cons_iff.mp (eventsOf_eq_events sound)
  exact ⟨first, mem_posted_of_eventsOf (events ▸ List.mem_cons_self), head⟩

theorem drops_ends {m : Move} (drops : m.Drops i) : (d.step m).isLive i = false := by
  cases found : d.submissions[i]? with
  | none =>
    have absent : (d.step m).submissions[i]? = none := by
      apply step_absent found m
      rcases drops with rfl | rfl <;> simp
    simp [isLive, absent]
  | some s =>
    have dropped := drop_dossier drops (dossier?_of_found found)
    simp [isLive, (dossier?_eq_some.mp dropped).1, Dossier.dropped_isFinished]

/-- After every run of any submissions, the events published under the id of a submission are its
acceptance and, with a greater number, one event that ends it. The latter is there if and only if the
task is finished, as it is from the moment it is dropped; the former is there as soon as the request has
been handed in. -/
theorem run_announces_each_end_once {capacity : Nat} {bus : Bus Event}
    (opened : Bus.new capacity = .opened bus) (ms : List Move)
    (few : ((Desk.new bus).run ms).bus.sent ≤ Bus.maxId)
    (distinct : (((Desk.new bus).run ms).submissions.map Submission.id).Nodup) :
    let d := (Desk.new bus).run ms
    d.bus.Records d.posted ∧
    (∀ (i : Nat) (s : Submission), d.submissions[i]? = some s →
      ∃ first, first.content = s.acceptance ∧
        if s.task.isFinished then
          ∃ last, last.content.isTerminal = true ∧ first.id < last.id ∧
            d.posted.filter (fun e => e.content.submission = s.id) = [first, last]
        else d.posted.filter (fun e => e.content.submission = s.id) = [first]) ∧
    (∀ (i : Nat) (m : Move), m.Drops i → (d.step m).isLive i = false) ∧
    ∀ (resolver : Resolver) (id : Uuid) (request : Request), d.outside ≠ 0 →
      ∃ s, (d.submit resolver id request).submissions[d.submissions.length]? = some s ∧
        s.terms = (id, request, resolver) ∧
        ∃ first ∈ (d.submit resolver id request).posted, first.content = s.acceptance := by
  have records := run_records opened ms
  have sound := run_submissions_sound bus ms
  refine ⟨records, ?_, fun i m => drops_ends, fun resolver id request isOpen => ?_⟩
  · intro i s found
    rw [posted_filter (run_grounded bus ms) sound distinct found]
    exact eventsOf_shape (records.increasing few) (sound i s found)
  · exact submit_announces (run_grounded bus ms) isOpen resolver id request

end Desk

namespace Samples

def refusing : Resolver where
  backend := .scripted none none none none

/-- Two downloads. The first one is refused, the other one is dropped before its first turn. -/
def twoDownloads : List Move :=
  [.submit refusing (.ofNat 1) ⟨directUrl, ""⟩, .submit refusing (.ofNat 2) ⟨directUrl, cookies⟩,
    .poll 0, .tearDown 1]

end Samples

namespace Desk

theorem two_downloads_announced :
    ∃ first last, first.id < last.id ∧
      ((Desk.new { capacity := 2 }).run Samples.twoDownloads).posted.filter
        (fun e => e.content.submission = .ofNat 2) = [first, last] := by
  obtain ⟨-, ended, -⟩ := @run_announces_each_end_once 2 { capacity := 2 } rfl Samples.twoDownloads
    (by decide) (by decide)
  obtain ⟨first, -, last, -, less, events⟩ := ended 1 _ rfl
  exact ⟨first, last, less, events⟩

end Desk

/-! ### One outcome, told three times -/

def Count.isOutcome : Count → Bool
  | .outcome _ => true
  | _ => false

theorem Submission.firstCounts_filter (s : Submission) : s.firstCounts.filter Count.isOutcome = [] := rfl

theorem Submission.lastCounts_filter (s : Submission) (o : Outcome) :
    (s.lastCounts o).filter Count.isOutcome = [.outcome o.label] := by
  rw [lastCounts, List.filter_append]
  cases o with
  | resolved t =>
    unfold Outcome.winners
    split
    all_goals
      split <;> rfl
  | _ => rfl

namespace Desk

variable {d : Desk} {i : Nat} {s : Submission} {o : Outcome}

theorem outcome?_of_found (found : d.submissions[i]? = some s) : d.outcome? i = s.task.outcome? := by
  simp [outcome?, found]

/-- The owner of a submission that has ended need not wait. -/
theorem await_outcome (known : d.outcome? i = some o) : (d.await i).1 = some o := by
  obtain ⟨s, found, ended⟩ := Option.bind_eq_some_iff.mp known
  have released : (d.release i).submissions[i]? = some { s with held := false } := by
    simp [release, update_submissions, found]
  have finished : (d.release i).isLive i = false := by
    simp [isLive, released, Task.isFinished_eq, ended]
  simp [await, awaitEnd, finished, outcome?, released, ended]

theorem run_outcome (known : d.outcome? i = some o) (ms : List Move) : (d.run ms).outcome? i = some o := by
  obtain ⟨s, found, ended⟩ := Option.bind_eq_some_iff.mp known
  have kept : ∀ m ∈ ms, ∀ now x y, Dossier.Step m i now x y → x.submission.task = s.task →
      y.submission.task = s.task := by
    intro m _ now x y step same
    rw [← same]
    apply step.finished
    rw [same, Task.isFinished_eq, ended]
    rfl
  obtain ⟨y, after, same⟩ := run_keeps ms kept (dossier?_of_found found) rfl
  rw [outcome?_of_found (dossier?_eq_some.mp after).1, same, ended]

/-- Whatever way a task came to its end, the outcome that the owner hears then and later, the one event
that ends the submission and the count of its end tell the same. -/
theorem run_tells_one_outcome (bus : Bus Event) (ms : List Move) (i : Nat) (s : Submission)
    (found : ((Desk.new bus).run ms).submissions[i]? = some s) (ended : s.task.isFinished = true) :
    let d := (Desk.new bus).run ms
    ∃ o : Outcome, (∀ more, ((d.run more).await i).1 = some o) ∧
      (d.eventsOf i).map Posted.content = [s.acceptance, o.event s.id] ∧
      (∀ e ∈ d.eventsOf i, e.content.submission = s.id) ∧
      (d.countsOf i).filter Count.isOutcome = (if s.resolver.metered then [.outcome o.label] else []) ∧
      d.metrics = d.counts.foldl Metrics.count {} ∧
      match (motive := Outcome → Prop) o with
      | .resolved t =>
        o.event s.id = .added s.id t.key.render t.info ∧
          t.info.get? "filename" = some (.string t.filename) ∧ o.label = "resolved"
      | .failed e =>
        o.event s.id = .failed s.id (e.operation?.map Operation.wireName) e.message ∧ o.label = "failed"
      | .cancelled => o.event s.id = .cancelled s.id ∧ o.label = "cancelled" := by
  have sound := run_submissions_sound bus ms i s found
  rw [Task.isFinished_eq, Option.isSome_iff_exists] at ended
  obtain ⟨o, told⟩ := ended
  have known := (outcome?_of_found found).trans told
  have announced := eventsOf_eq_events sound
  rw [told] at announced
  refine ⟨o, fun more => await_outcome (run_outcome known more), announced, eventsOf_submission sound,
    ?_, run_tallied bus ms, ?_⟩
  · rw [countsOf_eq]
    refine (congrArg (List.filter Count.isOutcome) sound.counts).trans ?_
    rw [told]
    split
    · rw [List.filter_append, Submission.firstCounts_filter]
      exact s.lastCounts_filter o
    · rfl
  · cases o with
    | resolved t => exact ⟨rfl, sound.named t told, rfl⟩
    | failed e => exact ⟨rfl, rfl⟩
    | cancelled => exact ⟨rfl, rfl⟩

theorem dropped_download_told :
    ∃ o : Outcome, (((Desk.new { capacity := 2 }).run Samples.twoDownloads).await 1).1 = some o ∧
      (((Desk.new { capacity := 2 }).run Samples.twoDownloads).countsOf 1).filter Count.isOutcome =
        [.outcome o.label] := by
  obtain ⟨o, heard, -, -, counted, -⟩ :=
    run_tells_one_outcome { capacity := 2 } Samples.twoDownloads 1 _ rfl rfl
  exact ⟨o, heard [], counted⟩

end Desk

end TorrentAdmission
