import TorrentAdmission.Proofs.Desk.Cookies
import TorrentAdmission.Proofs.Desk.Independence

/-!
# Cookies are told to nobody

Two desks differ in the cookies of one submission, and the backend that works on it does not look at them. Then
they go on in lockstep, with clock and all: `cookies_lockstep`. Only the call for the download differs, and there
is one such call at most, for a torrent file, and none for a magnet link.
-/

namespace TorrentAdmission

namespace Desk

variable {d e : Desk} {i k : Nat} {c : String}

/-! ### All that happens -/

/-- The clock does not look at cookies. -/
theorem withCookies_same (d : Desk) (i : Nat) (c : String) : SameToClock d (d.withCookies i c) := by
  refine ⟨rfl, rfl, rfl, List.ext_getElem? fun k => ?_⟩
  rw [List.getElem?_map, List.getElem?_map, withCookies_submissions, Option.map_map]
  refine congrArg (Option.map · _) (funext fun s => ?_)
  rw [Function.comp_apply]
  split <;> rfl

/-- `e` is `d` with other cookies in submission `i`, at which its backend does not look. -/
structure SameSaveCookies (i : Nat) (c : String) (d e : Desk) : Prop where
  ignores : d.IgnoresCookies i
  same : e = d.withCookies i c

theorem cookies_lockstep (i : Nat) (c : String) : Lockstep (SameSaveCookies i c) := by
  refine ⟨?_, ?_, ?_, ?_⟩
  · rintro d _ ⟨ignores, rfl⟩ m
    exact ⟨ignores.step m, withCookies_step ignores c m⟩
  · rintro d _ ⟨ignores, rfl⟩ k
    exact ⟨ignores, rfl⟩
  · rintro d _ ⟨ignores, rfl⟩
    exact ⟨ignores, rfl⟩
  · rintro d _ ⟨-, rfl⟩
    exact withCookies_same d i c

theorem enrol_withCookies (grounded : d.Grounded) (s : Submission) (c : String) :
    d.enrol (s.withCookies c) = (d.enrol s).withCookies d.submissions.length c := by
  have others : d.journal.map (Entry.withCookies d.submissions.length c) = d.journal := by
    refine (List.map_congr_left fun entry member => ?_).trans (List.map_id d.journal)
    have before := grounded entry (List.mem_reverse.mpr member)
    exact Entry.withCookies_other (Nat.ne_of_lt before) c
  have last : (d.submissions ++ [s]).modify d.submissions.length (Submission.withCookies c) =
      d.submissions ++ [s.withCookies c] := by
    rw [List.modify_eq_take_cons_drop (by simp)]
    simp
  simp only [withCookies, update, enrol, last, others]

/-- A request handed in with other cookies makes a desk that is the same save for them. -/
theorem submit_withCookies (grounded : d.Grounded) (isOpen : d.outside ≠ 0) (resolver : Resolver) (id : Uuid)
    (request : Request) (ignores : resolver.backend.IgnoresCookies) (c : String) :
    SameSaveCookies d.submissions.length c (d.submit resolver id request)
      (d.submit resolver id (request.withCookies c)) := by
  refine ⟨?_, ?_⟩
  · obtain ⟨s, found, terms, -⟩ := submit_announces grounded isOpen resolver id request
    have own : s.resolver = resolver := congrArg (fun terms => terms.2.2) terms
    exact ⟨s, found, own ▸ ignores⟩
  · have incoming : d.incoming resolver id (request.withCookies c) =
        (d.incoming resolver id request).withCookies c := rfl
    have opened := withCookies_amend (c := c) (d.enrol (d.incoming resolver id request)) d.submissions.length
      d.submissions.length (d.incoming resolver id request).opening
    rw [if_pos rfl, Edit.map_withCookies rfl, ← enrol_withCookies grounded] at opened
    simp only [submit_eq_amend, if_neg isOpen, incoming, Submission.opening_withCookies, opened, withCookies_tearDown]
    split <;> rfl

end Desk

/-! ### The one download -/

namespace Submission

variable {s : Submission} {now : Nat} {turn : Turn (Step Progress (Except Failure (Torrent × Path)))}

theorem turning_begun (s : Submission) (i : Nat) (turn : Turn (Step Progress (Except Failure (Torrent × Path)))) :
    (s.amended i i (s.turning i turn)).task ≠ .fresh := by
  obtain ⟨acts, crash | progress | result⟩ := turn
  · rw [turning, amended_append, followUp, abandonment_task]
    simp
  · rw [turning_waiting]
    simp
  · rw [turning, amended_append]
    cases stopped : s.isStopped i acts with
    | true =>
      rw [followUp_stopped stopped, conclusion_task]
      simp
    | false =>
      rw [followUp_settled stopped, amended_settlement]
      simp

theorem turn?_fresh (fresh : s.task = .fresh) (due : s.turn? now = some turn) :
    turn = (s.lookup now).start s.source := by
  rw [turn?, fresh] at due
  exact (Option.some.inj due).symm

/-- A task that has had its first turn makes no downloads. -/
theorem turn?_begun (begun : s.task ≠ .fresh) (due : s.turn? now = some turn) :
    ∀ call ∈ turn.calls, call.isDownload = false := by
  unfold turn? at due
  cases task : s.task with
  | fresh => exact (begun task).elim
  | resolving progress =>
    rw [task] at due
    obtain rfl := Option.some.inj due
    exact ((s.lookup now).resume_cookieless s.source progress).calls
  | settled o => simp [task] at due
  | aborted => simp [task] at due

end Submission

namespace Dossier

variable {x y : Dossier} {i now : Nat} {m : Move} {url c : String}

/-- A step makes no calls, or it makes those of a turn. -/
theorem Step.asks (step : x.Step m i now y) :
    (y.calls = x.calls ∧ (y.submission.task = x.submission.task ∨ y.submission.task.isFinished = true)) ∨
      ∃ turn, x.submission.turn? now = some turn ∧ y.calls = x.calls ++ turn.calls ∧ y.submission.task ≠ .fresh := by
  cases step with
  | kept => exact Or.inl ⟨rfl, Or.inl rfl⟩
  | cancelled held => exact Or.inl ⟨rfl, Or.inl rfl⟩
  | released move => exact Or.inl ⟨rfl, Or.inl rfl⟩
  | heard move =>
    refine Or.inl ⟨amend_spent x.submission.hearing_call rfl, Or.inl ?_⟩
    rw [amend, Submission.amended_hearing]
  | dropped move live =>
    refine Or.inl ⟨amend_spent x.submission.abandonment_call rfl, Or.inr ?_⟩
    rw [amend, Submission.abandonment_task]
    rfl
  | polled move =>
    cases due : x.submission.turn? now with
    | none =>
      have silent : x.submission.polling i now = [] := by rw [Submission.polling, due]
      rw [silent, amend_nil]
      exact Or.inl ⟨rfl, Or.inl rfl⟩
    | some turn =>
      cases cancelled : x.submission.cancelled with
      | true =>
        have ends : x.submission.polling i now = x.submission.conclusion .cancelled := by
          simp only [Submission.polling, due, cancelled, if_true]
        rw [ends]
        refine Or.inl ⟨amend_spent (x.submission.conclusion_call .cancelled) rfl, Or.inr ?_⟩
        rw [amend, Submission.conclusion_task]
        rfl
      | false =>
        have turns : x.submission.polling i now = x.submission.turning i turn := by
          simp only [Submission.polling, due, cancelled, Bool.false_eq_true, if_false]
        rw [turns]
        refine Or.inr ⟨turn, rfl, ?_, x.submission.turning_begun i turn⟩
        rw [(x.amend_gains i now _).calls, Submission.turning_call]
        rfl

/-- For a torrent file there is one download, and it is the first call. -/
inductive Downloads (url c : String) (x : Dossier) : Prop where
  | unasked (calls : x.calls = []) (idle : ∀ progress, x.submission.task ≠ .resolving progress)
  | asked (rest : List Call) (calls : x.calls = .download url c :: rest)
      (others : ∀ call ∈ rest, call.isDownload = false) (begun : x.submission.task ≠ .fresh)

theorem Step.downloads (step : x.Step m i now y) (source : x.submission.source = .direct url c)
    (downloads : x.Downloads url c) : y.Downloads url c := by
  rcases step.asks with ⟨same, task⟩ | ⟨turn, due, more, begun⟩
  · cases downloads with
    | unasked calls idle =>
      refine .unasked (same.trans calls) fun progress resolving => ?_
      rcases task with kept | finished
      · exact idle progress (kept.symm.trans resolving)
      · rw [resolving] at finished
        cases finished
    | asked rest calls others begun =>
      refine .asked rest (same.trans calls) others fun fresh => ?_
      rcases task with kept | finished
      · exact begun (kept.symm.trans fresh)
      · rw [fresh] at finished
        cases finished
  · cases downloads with
    | unasked calls idle =>
      -- a task that has a turn and has not asked for anything has its first one
      have fresh : x.submission.task = .fresh := by
        cases task : x.submission.task with
        | fresh => rfl
        | resolving progress => exact (idle progress task).elim
        | settled o => simp [Submission.turn?, task] at due
        | aborted => simp [Submission.turn?, task] at due
      obtain ⟨rest, made, others⟩ := (x.submission.lookup now).start_direct_calls url c
      rw [Submission.turn?_fresh fresh due, source, calls, made] at more
      exact .asked rest more others begun
    | asked rest calls others had =>
      rw [calls, List.cons_append] at more
      refine .asked (rest ++ turn.calls) more ?_ begun
      intro call member
      rcases List.mem_append.mp member with early | late
      · exact others call early
      · exact Submission.turn?_begun had due call late

/-- For a magnet link there is no download. -/
theorem Step.stays_cookieless (step : x.Step m i now y) (source : x.submission.source = .magnet url)
    (cookieless : ∀ call ∈ x.calls, call.isDownload = false) : ∀ call ∈ y.calls, call.isDownload = false := by
  rcases step.asks with ⟨same, -⟩ | ⟨turn, due, more, -⟩
  · rwa [same]
  · have made : ∀ call ∈ turn.calls, call.isDownload = false := by
      by_cases fresh : x.submission.task = .fresh
      · rw [Submission.turn?_fresh fresh due, source]
        exact ((x.submission.lookup now).startMagnet_cookieless url).calls
      · exact Submission.turn?_begun fresh due
    intro call member
    rw [more] at member
    rcases List.mem_append.mp member with early | late
    · exact cookieless call early
    · exact made call late

end Dossier

namespace Desk

variable {d e : Desk} {i k : Nat} {c : String}

theorem submit_unasked (grounded : d.Grounded) (isOpen : d.outside ≠ 0) (resolver : Resolver) (id : Uuid)
    (request : Request) :
    ∃ x, (d.submit resolver id request).dossier? d.submissions.length = some x ∧
      x.submission.terms = (id, request, resolver) ∧ x.calls = [] ∧
      ∀ progress, x.submission.task ≠ .resolving progress := by
  have uncalled := Dossier.opened_calls (d.incoming resolver id request) d.now
  refine ⟨_, submit_opened grounded isOpen resolver id request, ?_⟩
  split
  · exact ⟨rfl, uncalled, fun progress same => Task.noConfusion same⟩
  · refine ⟨Submission.amended_terms .., Dossier.amend_spent (Submission.abandonment_call _) uncalled, ?_⟩
    intro progress
    change ((d.incoming resolver id request).amended _ _ (d.incoming resolver id request).abandonment).task ≠ _
    rw [Submission.abandonment_task]
    simp

/-! ### What is seen -/

/-- What is read off the history without a look at the calls is the same. -/
theorem withCookies_filterMap {β : Type} (read : Entry → Option β)
    (blind : ∀ entry call, entry.fact = .called call → read entry = none) (d : Desk) (i : Nat) (c : String) :
    (d.withCookies i c).history.filterMap read = d.history.filterMap read := by
  rw [withCookies_history, List.filterMap_map]
  refine List.filterMap_congr fun entry _ => ?_
  rw [Function.comp_apply]
  by_cases about : entry.submission = i
  · rw [Entry.withCookies_own about]
    obtain ⟨instant, k, fact⟩ := entry
    cases fact with
    | called call => exact (blind _ (call.withCookies c) rfl).trans (blind _ call rfl).symm
    | _ => rfl
  · rw [Entry.withCookies_other about]

theorem withCookies_eventsOf (d : Desk) (i k : Nat) (c : String) : (d.withCookies i c).eventsOf k = d.eventsOf k :=
  withCookies_filterMap _ (fun _ _ recorded => by rw [recorded]) d i c

theorem withCookies_endsOf (d : Desk) (i k : Nat) (c : String) : (d.withCookies i c).endsOf k = d.endsOf k :=
  withCookies_filterMap _ (fun _ _ recorded => by rw [recorded]) d i c

theorem withCookies_callsOf (d : Desk) (i k : Nat) (c : String) : (d.withCookies i c).callsOf k =
    if k = i then (d.callsOf k).map (Call.withCookies c) else d.callsOf k := by
  rw [callsOf, callsOf, withCookies_history, List.filterMap_map]
  by_cases own : k = i
  · subst own
    rw [if_pos rfl, List.map_filterMap]
    refine List.filterMap_congr fun entry _ => ?_
    rw [Function.comp_apply]
    by_cases about : entry.submission = k
    · rw [Entry.withCookies_own about]
      cases recorded : entry.fact <;> simp [Fact.withCookies, about]
    · rw [Entry.withCookies_other about]
      cases entry.fact <;> simp [about]
  · rw [if_neg own]
    refine List.filterMap_congr fun entry _ => ?_
    rw [Function.comp_apply]
    by_cases about : entry.submission = i
    · have other : entry.submission ≠ k := fun same => own (same.symm.trans about)
      rw [Entry.withCookies_own about]
      cases recorded : entry.fact <;> simp [Fact.withCookies, other]
    · rw [Entry.withCookies_other about]

/-- For a torrent file a run makes one download at most, which comes before all other calls; for a magnet link it
makes none. -/
theorem undergo_downloads (grounded : d.Grounded) (isOpen : d.outside ≠ 0) (resolver : Resolver) (id : Uuid)
    (request : Request) (after : List Happening) :
    let calls := ((d.submit resolver id request).undergo after).callsOf d.submissions.length
    match SourceKind.of request.source with
    | .magnet => ∀ call ∈ calls, call.isDownload = false
    | .direct => calls = [] ∨ ∃ rest, calls = .download request.source request.cookies :: rest ∧
        ∀ call ∈ rest, call.isDownload = false := by
  intro calls
  obtain ⟨x, opened, terms, uncalled, idle⟩ := submit_unasked grounded isOpen resolver id request
  have source : x.submission.source = request.route := congrArg (fun terms => terms.2.1.route) terms
  have made : ∀ y, ((d.submit resolver id request).undergo after).dossier? d.submissions.length = some y →
      calls = y.calls := by
    intro y last
    change Desk.callsOf _ _ = _
    rw [callsOf_eq, (dossier?_eq_some.mp last).2]
    rfl
  rw [Request.route] at source
  cases kind : SourceKind.of request.source with
  | magnet =>
    rw [kind] at source
    obtain ⟨y, last, -, cookieless⟩ := undergo_dossier
      (P := fun x => x.submission.source = .magnet request.source ∧ ∀ call ∈ x.calls, call.isDownload = false)
      (fun m now x y step h => ⟨(Submission.source_of_terms step.terms).trans h.1, step.stays_cookieless h.1 h.2⟩)
      after opened ⟨source, by simp [uncalled]⟩
    rwa [made y last]
  | direct =>
    rw [kind] at source
    obtain ⟨y, last, -, downloads⟩ := undergo_dossier
      (P := fun x => x.submission.source = .direct request.source request.cookies ∧
        x.Downloads request.source request.cookies)
      (fun m now x y step h => ⟨(Submission.source_of_terms step.terms).trans h.1, step.downloads h.1 h.2⟩)
      after opened ⟨source, .unasked uncalled idle⟩
    rw [made y last]
    cases downloads with
    | unasked none idle => exact Or.inl none
    | asked rest first others begun => exact Or.inr ⟨rest, first, others⟩

/-- Two runs differ in nothing but the cookies of one submission, and the backend that works on it does not look
at them. Then all that is announced, reported and counted is the same at the same instants, and every submission
ends alike; and the calls are the same but for the cookies in the one download that is made for it, if it is for
a torrent file. -/
theorem undergo_cookies (bus : Bus Event) (before after : List Happening) (resolver : Resolver) (id : Uuid)
    (request : Request) (other : String) (isOpen : ((Desk.new bus).undergo before).outside ≠ 0)
    (ignores : resolver.backend.IgnoresCookies) :
    let d := (Desk.new bus).undergo before
    let i := d.submissions.length
    let e := (d.submit resolver id request).undergo after
    let f := (d.submit resolver id (request.withCookies other)).undergo after
    f.history = e.history.map (Entry.withCookies i other) ∧
    f.bus = e.bus ∧ f.metrics = e.metrics ∧ f.now = e.now ∧ f.awake = e.awake ∧
    (∀ k, f.eventsOf k = e.eventsOf k ∧ f.endsOf k = e.endsOf k ∧ f.outcome? k = e.outcome? k ∧
      (f.await k).1 = (e.await k).1) ∧
    (∀ k, k ≠ i → f.callsOf k = e.callsOf k) ∧
    match SourceKind.of request.source with
    | .magnet => f.callsOf i = e.callsOf i
    | .direct =>
      (e.callsOf i = [] ∧ f.callsOf i = []) ∨
        ∃ rest, e.callsOf i = .download request.source request.cookies :: rest ∧
          f.callsOf i = .download request.source other :: rest ∧ ∀ call ∈ rest, call.isDownload = false := by
  intro d i e f
  have grounded := undergo_grounded bus before
  have alike : SameSaveCookies i other e f := (cookies_lockstep i other).undergo
    (submit_withCookies grounded isOpen resolver id request ignores other) after
  have same := alike.same
  have view := withCookies_same e i other
  rw [← same] at view
  have calls : f.callsOf i = (e.callsOf i).map (Call.withCookies other) := by
    rw [same, withCookies_callsOf, if_pos rfl]
  have downloads := undergo_downloads grounded isOpen resolver id request after
  refine ⟨?_, view.bus, ?_, view.now, view.awake, fun k => ⟨?_, ?_, view.outcome? k, ?_⟩, fun k apart => ?_, ?_⟩
  · rw [same, withCookies_history]
  · rw [same]
    rfl
  · rw [same, withCookies_eventsOf]
  · rw [same, withCookies_endsOf]
  · exact ((cookies_lockstep i other).await alike k).1
  · rw [same, withCookies_callsOf, if_neg apart]
  · rw [calls]
    cases kind : SourceKind.of request.source with
    | magnet =>
      simp only [kind] at downloads
      exact Call.map_withCookies downloads other
    | direct =>
      simp only [kind] at downloads
      rcases downloads with none | ⟨rest, made, others⟩
      · exact Or.inl ⟨none, congrArg _ none⟩
      · refine Or.inr ⟨rest, made, ?_, others⟩
        rw [made, List.map_cons, Call.map_withCookies others]
        rfl

/-- A download of which the file is described in the end, with cookies and without. -/
theorem described_download_discreet :
    let d := Desk.new { capacity := 2 }
    let e := (d.submit Samples.describing (.ofNat 1) Samples.download).undergo [.advance 8]
    let f := (d.submit Samples.describing (.ofNat 1) (Samples.download.withCookies Samples.cookies)).undergo [.advance 8]
    f.bus = e.bus ∧ f.metrics = e.metrics ∧ f.outcome? 0 = e.outcome? 0 ∧
      ∃ rest, f.callsOf 0 = .download Samples.directUrl Samples.cookies :: rest ∧
        e.callsOf 0 = .download Samples.directUrl "" :: rest ∧ rest ≠ [] := by
  intro d e f
  obtain ⟨-, bus, metrics, -, -, told, -, calls⟩ := undergo_cookies { capacity := 2 } [] [.advance 8]
    Samples.describing (.ofNat 1) Samples.download Samples.cookies (by decide) (fun _ _ _ _ => rfl)
  have direct : SourceKind.of Samples.download.source = .direct := by decide +kernel
  have made : e.callsOf 0 = [.download Samples.directUrl "", .torrentInfo (.file Samples.filename)] := by decide +kernel
  simp only [direct] at calls
  refine ⟨bus, metrics, (told 0).2.2.1, ?_⟩
  rcases calls with ⟨none, -⟩ | ⟨rest, first, second, -⟩
  · cases made.symm.trans none
  · refine ⟨rest, second, first, ?_⟩
    obtain rfl := (List.cons.inj (made.symm.trans first)).2
    exact List.cons_ne_nil _ _

end Desk

end TorrentAdmission
