import TorrentAdmission.Proofs.Desk.Alone
import TorrentAdmission.Proofs.Desk.Settling

/-!
# Submissions do not interfere

What the backend is asked for a submission, what is announced of it and how it ends, and when, is the same
as if it were the only one. `run_isolates` says so of every course of a submission: its clock is kept, its
task is not dropped before the end, and the others may do whatever they like.
-/

namespace TorrentAdmission

/-- What concerns one submission of all that has happened at a desk: the calls made for it and its events, with
their instants, of which the last one is that of its end; and how it ended. -/
structure Projection where
  calls : List (Nat × Call)
  events : List (Nat × Event)
  outcome : Option Outcome

namespace Desk

open Relation (ReflTransGen)

def projection (d : Desk) (i : Nat) : Projection where
  calls := d.history.filterMap fun e =>
    match e.fact with
    | .called call => if e.submission = i then some (e.instant, call) else none
    | _ => none
  events := d.history.filterMap fun e =>
    match e.fact with
    | .published entry => if e.submission = i then some (e.instant, entry.content) else none
    | _ => none
  outcome := d.outcome? i

variable {d e d₀ : Desk} {i : Nat} {s : Submission} {x : Dossier} {c : Option Cancellation}

theorem projection_of_dossier (opened : d.dossier? i = some x) :
    d.projection i = ⟨x.called, x.told, x.submission.task.outcome?⟩ := by
  obtain ⟨found, past⟩ := dossier?_eq_some.mp opened
  rw [projection, outcome?_of_found found, Dossier.called, Dossier.told, ← past, chronicle, List.filterMap_filterMap,
    List.filterMap_filterMap]
  congr
  · funext entry
    cases fact : entry.fact <;> by_cases own : entry.submission = i <;> simp [Fact.call?, Fact.unnumbered, own]
  · funext entry
    cases fact : entry.fact <;> by_cases own : entry.submission = i <;> simp [Fact.event?, Fact.unnumbered, own]

theorem Twin.projection (twin : Twin i d e) : e.projection 0 = d.projection i := by
  obtain ⟨x, opened, alone⟩ := twin.dossier
  rw [projection_of_dossier opened, projection_of_dossier alone, ← x.submission.task.renumber_outcome? (only i)]
  rfl

/-- A course on which the submission has not been cancelled goes on so for as long as it is not. -/
theorem Course.undisturbed (course : Course i d₀ none d) (found : d.submissions[i]? = some s)
    (ticks : ReflTransGen (Tick i) d e) (uncancelled : e.isCancelled i = false) : Course i d₀ none e := by
  induction ticks with
  | refl => exact course
  | tail before tick ih =>
    obtain ⟨t, there, -⟩ := ticks_terms before found
    obtain ⟨u, after, -⟩ := ticks_terms (.single tick) there
    have early := ticks_uncancelled (.single tick) there after (by simpa [isCancelled, after] using uncancelled)
    have goesOn := (ih (by simpa [isCancelled, there] using early)).ticks tick
    rwa [Desk.cancelledBy, uncancelled] at goesOn

/-! ### The two desks -/

/-- The desk at which a submission is the only one, handed in at the instant `now`. -/
def solo (bus : Bus Event) (now : Nat) (resolver : Resolver) (id : Uuid) (request : Request) : Desk :=
  (Desk.new bus).run [.wait now, .submit resolver id request]

section
variable (bus : Bus Event) (resolver : Resolver) (id : Uuid) (request : Request)

theorem solo_alert (now : Nat) : (solo bus now resolver id request).Alert := run_alert (new_alert bus) _

theorem solo_dossier (now : Nat) : (solo bus now resolver id request).dossier? 0 =
    some (.opened { id, request, resolver } now) := by
  have opened := submit_opened (run_grounded bus [.wait now]) Nat.one_ne_zero resolver id request
  have begun : ((Desk.new bus).run [.wait now]).now = now := Nat.zero_add now
  rw [begun] at opened
  exact opened

theorem solo_now (now : Nat) : (solo bus now resolver id request).now = now := by
  have still := step_now (d := (Desk.new bus).wait now) (m := .submit resolver id request) (by simp)
  exact still.trans (Nat.zero_add now)

theorem solo_length (now : Nat) : (solo bus now resolver id request).submissions.length = 1 := by
  change (((Desk.new bus).wait now).submit resolver id request).submissions.length = 1
  have isOpen : ((Desk.new bus).wait now).outside ≠ 0 := Nat.one_ne_zero
  rw [submit_eq_amend, if_neg isOpen]
  exact amend_length _ _ _

variable {bus resolver id request}

/-- A submission that is handed in at a desk is handed in where it is the only one. -/
theorem submit_twin (grounded : d.Grounded) (alert : d.Alert) (isOpen : d.outside ≠ 0) (running : d.running = true) :
    Twin d.submissions.length (d.submit resolver id request)
      (solo bus d.now (resolver.alone d.submissions.length) id request) := by
  have opened := submit_opened grounded isOpen resolver id request
  have begins : d.incoming resolver id request = { id, request, resolver } := by
    rw [incoming, running]
  simp only [running, if_true, begins] at opened
  have still : (d.submit resolver id request).now = d.now := step_now (m := .submit resolver id request) (by simp)
  refine ⟨(solo_now ..).trans still.symm, ⟨_, opened, solo_dossier ..⟩, solo_length .., fun _ => ?_⟩
  refine ⟨by rw [isLive_of_dossier opened]; rfl, ?_⟩
  exact step_alert alert (.submit resolver id request) _ _ (dossier?_eq_some.mp opened).1 rfl (Or.inl rfl)

end

/-- A submission is handed in at a desk where there are others. What becomes of it can become of it where it is
the only one, handed in at the same instant and cancelled at the same instant, if at all. And if it is not
cancelled just when its resolution is to be complete, nothing else can become of it there: the same is announced
of it at the same instants, it ends alike, and the same calls are made for it at the same instants. Where it is
cancelled at an instant at which it is to have a turn, the calls of that turn are made or not as it is cancelled
after the turn or before, so they are the same if that is on the same side of it. -/
theorem run_isolates (bus alone : Bus Event) (before : List Move) (resolver : Resolver) (id : Uuid) (request : Request)
    (isOpen : ((Desk.new bus).run before).outside ≠ 0) (running : ((Desk.new bus).run before).running = true)
    {c : Option Cancellation} {e : Desk}
    (course : Course ((Desk.new bus).run before).submissions.length
      (((Desk.new bus).run before).submit resolver id request) c e) :
    let d := (Desk.new bus).run before
    let i := d.submissions.length
    let first := solo alone d.now (resolver.alone i) id request
    (∃ f, Course 0 first c f ∧ f.submissions.length = 1 ∧ f.now = e.now ∧ (i ∉ e.awake → 0 ∉ f.awake) ∧
      f.projection 0 = e.projection i) ∧
    (i ∉ e.awake → c.map Cancellation.instant ≠ some ((d.incoming resolver id request).due d.now) →
      ∀ k f, Course 0 first k f → f.now = e.now → 0 ∉ f.awake →
        k.map Cancellation.instant = c.map Cancellation.instant →
          (f.projection 0).events = (e.projection i).events ∧ (f.projection 0).outcome = (e.projection i).outcome ∧
          (∀ t, c.map Cancellation.instant ≠ some t →
            callsAt (f.projection 0).calls t = callsAt (e.projection i).calls t) ∧
          (k = c → f.projection 0 = e.projection i)) := by
  intro d i first
  have grounded := run_grounded bus before
  have alert := run_alert (new_alert bus) before
  have opened : first.dossier? 0 = some (.opened { id, request, resolver := resolver.alone i } d.now) := solo_dossier ..
  obtain ⟨-, f, beside, twin⟩ := course.twin (step_alert alert (.submit resolver id request))
    (submit_twin grounded alert isOpen running) (isCancelled_of_dossier opened)
  have rests : i ∉ e.awake → 0 ∉ f.awake := fun asleep awake => asleep (twin.awake awake).2
  refine ⟨⟨f, beside, twin.single, twin.now, rests, twin.projection⟩, ?_⟩
  intro asleep apart k g other now resting same
  have vigilant : first.Alert := solo_alert alone (resolver.alone i) id request d.now
  have begins : first.Tracks 0 { id, request, resolver := resolver.alone i } d.now none := by
    refine ⟨_, opened, rfl, ?_⟩
    rw [show first.now = d.now from solo_now ..]
    exact Dossier.opened_tracks rfl rfl (vigilant 0 _ (dossier?_eq_some.mp opened).1 rfl (Or.inl rfl))
  obtain ⟨-, x, left, -, first⟩ := beside.tracks vigilant begins
  obtain ⟨-, y, right, -, second⟩ := other.tracks vigilant begins
  rw [twin.now] at first
  rw [now] at second
  have due : Submission.due { id, request, resolver := resolver.alone i } d.now =
      (d.incoming resolver id request).due d.now :=
    congrArg Ending.instant (((d.incoming resolver id request).lookup d.now).renumber_ending (only i) _)
  obtain ⟨outcome, told, called, elsewhere⟩ := second.agree first resting (rests asleep) same (by rwa [same, due])
  rw [← twin.projection, projection_of_dossier left, projection_of_dossier right]
  exact ⟨told, outcome, fun t other => elsewhere t (by rwa [same]), fun whole => by rw [called whole, told, outcome]⟩

end Desk

namespace Samples

/-- A resolver whose backend takes five milliseconds for a download and three to describe it. -/
def describing : Resolver where
  backend := .scripted none none (some { reply := .ok filename, after := 5 })
    (some { reply := .ok (info filename), after := 3 })
  limits := { call := 20, prefetch := 10 }

/-- A download as it is entered. -/
def download : Request := ⟨directUrl, ""⟩

end Samples

namespace Desk

/-- The second of two downloads goes as it does alone, though the first one is torn down meanwhile. -/
theorem second_download_isolated :
    let d := (Desk.new { capacity := 2 }).run [.submit Samples.describing (.ofNat 1) Samples.download]
    let e := ((d.submit Samples.describing (.ofNat 2) Samples.download).tearDown 0).advance 8
    let f := (solo { capacity := 2 } 0 (Samples.describing.alone 1) (.ofNat 2) Samples.download).advance 8
    f.projection 0 = e.projection 1 ∧
      (f.projection 0).calls =
        [(0, .download Samples.directUrl ""), (5, .torrentInfo (.file Samples.filename))] := by
  intro d e f
  let d₀ := d.submit Samples.describing (.ofNat 2) Samples.download
  let f₀ := solo { capacity := 2 } 0 (Samples.describing.alone 1) (.ofNat 2) Samples.download
  have alert : (d₀.tearDown 0).Alert :=
    run_alert (new_alert _) [.submit Samples.describing (.ofNat 1) Samples.download,
      .submit Samples.describing (.ofNat 2) Samples.download, .tearDown 0]
  have vigilant : f₀.Alert := solo_alert _ _ _ _ _
  have course : Course 1 d₀ none e := by
    refine Course.undisturbed .begins rfl (.head (.move d₀ (.tearDown 0) (by simp) (by simp [Move.Drops])) ?_)
      (by decide +kernel)
    exact advance_ticks 1 alert 8
  have beside : Course 0 f₀ none f :=
    Course.undisturbed .begins rfl (advance_ticks 0 vigilant 8) (by decide +kernel)
  obtain ⟨-, same⟩ := run_isolates { capacity := 2 } { capacity := 2 }
    [.submit Samples.describing (.ofNat 1) Samples.download] Samples.describing (.ofNat 2) Samples.download
    (by decide +kernel) (by decide +kernel) course
  have asleep : 1 ∉ e.awake := by
    rw [show e.awake = [] from advance_asleep alert 8]
    exact List.not_mem_nil
  have resting : 0 ∉ f.awake := by
    rw [show f.awake = [] from advance_asleep vigilant 8]
    exact List.not_mem_nil
  have now : f.now = e.now := (advance_now vigilant 8).trans (advance_now alert 8).symm
  obtain ⟨-, -, -, whole⟩ := same asleep (by simp) none f beside now resting rfl
  exact ⟨whole rfl, by decide +kernel⟩

end Desk

end TorrentAdmission
