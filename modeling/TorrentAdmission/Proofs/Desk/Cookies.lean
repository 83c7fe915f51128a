import TorrentAdmission.Proofs.Desk.Calling
import TorrentAdmission.Proofs.Desk.Happening
import TorrentAdmission.Proofs.Resolution.Cookies

/-!
# Cookies at a desk

Where a backend answers without a look at the cookies, a desk at which one submission has been handed in with
other cookies stays the same desk save for them: every move keeps it so, and all that happens does. The cookies
are seen in one place, the download for that submission.
-/

namespace TorrentAdmission

/-! ### The turns of a submission -/

namespace Request

variable (c : String) (r : Request)

theorem kind_withCookies : (r.withCookies c).route.kind = r.route.kind := by
  unfold route withCookies
  cases SourceKind.of r.source <;> rfl

theorem text_withCookies : (r.withCookies c).route.text = r.route.text := by
  unfold route withCookies
  cases SourceKind.of r.source <;> rfl

theorem link?_withCookies : (r.withCookies c).route.link? = r.route.link? := by
  unfold route withCookies
  cases SourceKind.of r.source <;> rfl

end Request

namespace Edit

def withCookies (c : String) : Edit → Edit
  | .call made => .call (made.withCookies c)
  | edit => edit

theorem map_withCookies {edits : List Edit} (silent : edits.filterMap Edit.call? = []) (c : String) :
    edits.map (withCookies c) = edits := by
  refine (List.map_congr_left fun e member => ?_).trans (List.map_id edits)
  have uncalled := List.filterMap_eq_nil_iff.mp silent e member
  cases e with
  | call made => cases uncalled
  | _ => rfl

end Edit

namespace Submission

def withCookies (c : String) (s : Submission) : Submission := { s with request := s.request.withCookies c }

variable (c : String) (s : Submission)

theorem span_withCookies : (s.withCookies c).span = s.span := by
  have kind : (s.withCookies c).source.kind = s.source.kind := s.request.kind_withCookies c
  have link : (s.withCookies c).source.link? = s.source.link? := s.request.link?_withCookies c
  rw [span, kind, link]
  rfl

theorem opening_withCookies : (s.withCookies c).opening = s.opening := by
  have kind : (s.withCookies c).source.kind = s.source.kind := s.request.kind_withCookies c
  have link : (s.withCookies c).source.link? = s.source.link? := s.request.link?_withCookies c
  rw [opening, opening, acceptance, acceptance, kind, link]
  rfl

theorem conclusion_withCookies (o : Outcome) : (s.withCookies c).conclusion o = s.conclusion o := by
  have closing : (s.withCookies c).closing o = s.closing o := by
    simp only [closing, span_withCookies]
    rfl
  rw [conclusion, conclusion, closing]

theorem abandonment_withCookies : (s.withCookies c).abandonment = s.abandonment := by
  rw [abandonment, abandonment, span_withCookies]
  rfl

theorem settlement_withCookies (result : Except Failure (Torrent × Path)) :
    (s.withCookies c).settlement result = s.settlement result := by
  simp only [settlement, span_withCookies, conclusion_withCookies]

theorem doing_withCookies (act : Act) :
    (s.withCookies c).doing (act.withCookies c) = (s.doing act).withCookies c := by
  cases act with
  | call made => rfl
  | note notice =>
    change Edit.report { notice with span := some (s.withCookies c).span } = .report { notice with span := some s.span }
    rw [span_withCookies]
  | cancel k => rfl

theorem isStopped_withCookies (i : Nat) (acts : List Act) :
    (s.withCookies c).isStopped i (acts.map (Act.withCookies c)) = s.isStopped i acts := by
  have same : (acts.map (Act.withCookies c)).contains (.cancel i) = acts.contains (.cancel i) := by
    induction acts with
    | nil => rfl
    | cons act rest ih =>
      rw [List.map_cons, List.contains_cons, List.contains_cons, ih]
      cases act <;> rfl
  rw [isStopped, same]
  rfl

theorem followUp_withCookies (i : Nat) (turn : Turn (Step Progress (Except Failure (Torrent × Path)))) :
    (s.withCookies c).followUp i (turn.withCookies c) = s.followUp i turn := by
  obtain ⟨acts, crash | progress | result⟩ := turn
  · exact s.abandonment_withCookies c
  · simp only [followUp, Turn.withCookies, isStopped_withCookies]
  · simp only [followUp, Turn.withCookies, isStopped_withCookies, conclusion_withCookies, settlement_withCookies]

theorem turning_withCookies (i : Nat) (turn : Turn (Step Progress (Except Failure (Torrent × Path)))) :
    (s.withCookies c).turning i (turn.withCookies c) = (s.turning i turn).map (Edit.withCookies c) := by
  have acts : (turn.acts.map (Act.withCookies c)).map (s.withCookies c).doing =
      (turn.acts.map s.doing).map (Edit.withCookies c) := by
    rw [List.map_map, List.map_map]
    exact List.map_congr_left fun act _ => s.doing_withCookies c act
  rw [turning, turning, followUp_withCookies, List.map_append, Edit.map_withCookies (s.followUp_call i turn), ← acts]
  rfl

variable {s}

theorem turn?_withCookies (ignores : s.resolver.backend.IgnoresCookies) (now : Nat) :
    (s.withCookies c).turn? now = (s.turn? now).map (Turn.withCookies c) := by
  have lookup : (s.withCookies c).lookup now = s.lookup now := rfl
  unfold turn?
  cases task : s.task with
  | fresh =>
    have fresh : (s.withCookies c).task = .fresh := task
    simp only [fresh, lookup, Option.map_some]
    exact congrArg some ((s.lookup now).start_cookies ignores s.request c)
  | resolving progress =>
    have resolving : (s.withCookies c).task = .resolving progress := task
    have text : (s.withCookies c).source.text = s.source.text := s.request.text_withCookies c
    have same : (s.lookup now).resume (s.withCookies c).source progress = (s.lookup now).resume s.source progress := by
      cases progress with
      | direct state => rfl
      | magnet race => rw [Lookup.resume, Lookup.resume, text]
    simp only [resolving, lookup, Option.map_some]
    rw [same, (s.lookup now).resume_cookieless s.source progress c]
  | settled o =>
    have settled : (s.withCookies c).task = .settled o := task
    simp only [settled, Option.map_none]
  | aborted =>
    have aborted : (s.withCookies c).task = .aborted := task
    simp only [aborted, Option.map_none]

theorem polling_withCookies (ignores : s.resolver.backend.IgnoresCookies) (i now : Nat) :
    (s.withCookies c).polling i now = (s.polling i now).map (Edit.withCookies c) := by
  have cancelled : (s.withCookies c).cancelled = s.cancelled := rfl
  rw [polling, polling, turn?_withCookies c ignores, cancelled]
  cases s.turn? now with
  | none => rfl
  | some turn =>
    change (if s.cancelled then (s.withCookies c).conclusion .cancelled
        else (s.withCookies c).turning i (turn.withCookies c)) =
      (if s.cancelled then s.conclusion .cancelled else s.turning i turn).map (Edit.withCookies c)
    split
    · rw [conclusion_withCookies, Edit.map_withCookies (s.conclusion_call .cancelled)]
    · exact s.turning_withCookies c i turn

end Submission

/-! ### The desk -/

def Fact.withCookies (c : String) : Fact → Fact
  | .called call => .called (call.withCookies c)
  | fact => fact

def Entry.withCookies (i : Nat) (c : String) (e : Entry) : Entry :=
  { e with fact := if e.submission = i then e.fact.withCookies c else e.fact }

theorem Entry.withCookies_own {e : Entry} {i : Nat} (own : e.submission = i) (c : String) :
    e.withCookies i c = { e with fact := e.fact.withCookies c } := by
  rw [withCookies, if_pos own]

theorem Entry.withCookies_other {e : Entry} {i : Nat} (other : e.submission ≠ i) (c : String) :
    e.withCookies i c = e := by
  rw [withCookies, if_neg other]

namespace Desk

/-- The desk as it is if submission `i` has been handed in with the cookies `c`. -/
def withCookies (d : Desk) (i : Nat) (c : String) : Desk :=
  { d.update i (Submission.withCookies c) with journal := d.journal.map (Entry.withCookies i c) }

def IgnoresCookies (d : Desk) (i : Nat) : Prop :=
  ∃ s, d.submissions[i]? = some s ∧ s.resolver.backend.IgnoresCookies

variable {d e : Desk} {i k : Nat} {c : String} {s : Submission}

theorem withCookies_history (d : Desk) (i : Nat) (c : String) :
    (d.withCookies i c).history = d.history.map (Entry.withCookies i c) :=
  List.map_reverse.symm

theorem withCookies_submissions (d : Desk) (i : Nat) (c : String) (k : Nat) : (d.withCookies i c).submissions[k]? =
    d.submissions[k]?.map fun s => if i = k then s.withCookies c else s :=
  update_submissions d i k _

theorem withCookies_length (d : Desk) (i : Nat) (c : String) :
    (d.withCookies i c).submissions.length = d.submissions.length :=
  List.length_modify ..

theorem withCookies_any (p : Submission → Bool) (blind : ∀ s, p (s.withCookies c) = p s) (d : Desk) (i k : Nat) :
    (d.withCookies i c).submissions[k]?.any p = d.submissions[k]?.any p := by
  rw [withCookies_submissions]
  cases d.submissions[k]? with
  | none => rfl
  | some s =>
    change p (if i = k then s.withCookies c else s) = p s
    split
    · exact blind s
    · rfl

theorem withCookies_isLive (d : Desk) (i k : Nat) : (d.withCookies i c).isLive k = d.isLive k :=
  withCookies_any _ (fun _ => rfl) d i k

theorem withCookies_update (d : Desk) (i k : Nat) {f : Submission → Submission}
    (commute : ∀ s, f (s.withCookies c) = (f s).withCookies c) :
    (d.withCookies i c).update k f = (d.update k f).withCookies i c := by
  have same := congrArg Desk.submissions (update_comm d i k commute)
  exact congrArg (fun submissions => { d with submissions, journal := d.journal.map (Entry.withCookies i c) }) same

theorem withCookies_wake (d : Desk) (i k : Nat) : (d.withCookies i c).wake k = (d.wake k).withCookies i c := by
  have awake : (d.withCookies i c).awake = d.awake := rfl
  simp only [wake, withCookies_isLive, awake]
  split <;> rfl

/-! ### Edits -/

theorem withCookies_record (d : Desk) (i k : Nat) (c : String) (fact : Fact) :
    (d.withCookies i c).record k (if k = i then fact.withCookies c else fact) = (d.record k fact).withCookies i c :=
  rfl

theorem withCookies_record_silent (d : Desk) (i k : Nat) {fact : Fact} (silent : fact.withCookies c = fact) :
    (d.withCookies i c).record k fact = (d.record k fact).withCookies i c := by
  rw [← withCookies_record, silent, ite_self]

theorem withCookies_count (d : Desk) (i k : Nat) (what : Count) :
    (d.withCookies i c).count k what = (d.count k what).withCookies i c := by
  simp only [count, withCookies_submissions]
  cases d.submissions[k]? with
  | none => rfl
  | some s =>
    have resolver : (if i = k then s.withCookies c else s).resolver = s.resolver := by
      split <;> rfl
    simp only [Option.map_some, resolver]
    split
    · exact withCookies_record_silent { d with metrics := d.metrics.count what } i k rfl
    · rfl

theorem withCookies_announce (d : Desk) (i k : Nat) (event : Event) :
    (d.withCookies i c).announce k event = (d.announce k event).withCookies i c := by
  let sent : Desk := { d with bus := (d.bus.publish event).2 }
  have published : (sent.withCookies i c).record k (.published ⟨d.bus.nextId, event⟩) =
      (sent.record k (.published ⟨d.bus.nextId, event⟩)).withCookies i c := withCookies_record_silent sent i k rfl
  exact (congrArg (count · k (.event event.kind)) published).trans (withCookies_count _ i k _)

theorem withCookies_cancelHeld (d : Desk) (i k : Nat) :
    (d.withCookies i c).cancelHeld k = (d.cancelHeld k).withCookies i c := by
  have held := withCookies_any (c := c) Submission.held (fun _ => rfl) d i k
  have marked : (d.withCookies i c).mark k = (d.mark k).withCookies i c := withCookies_update d i k fun _ => rfl
  change (if (d.withCookies i c).submissions[k]?.any Submission.held then ((d.withCookies i c).mark k).wake k else _) = _
  rw [held, marked, withCookies_wake]
  exact (apply_ite (withCookies · i c) _ _ _).symm

/-- The cookies are in the call that is recorded for submission `i` itself, and in no other edit. -/
theorem withCookies_edit (d : Desk) (i k : Nat) (x : Edit) :
    (d.withCookies i c).edit k (if k = i then x.withCookies c else x) = (d.edit k x).withCookies i c := by
  have silent : ∀ y : Edit, y.withCookies c = y → (d.withCookies i c).edit k y = (d.edit k y).withCookies i c →
      (d.withCookies i c).edit k (if k = i then y.withCookies c else y) = (d.edit k y).withCookies i c := by
    intro y same kept
    rwa [same, ite_self]
  cases x with
  | call made =>
    have recorded := withCookies_record d i k c (.called made)
    by_cases own : k = i
    · rw [if_pos own] at recorded ⊢
      exact recorded
    · rw [if_neg own] at recorded ⊢
      exact recorded
  | report notice => exact silent _ rfl (withCookies_record_silent d i k rfl)
  | count what => exact silent _ rfl (withCookies_count d i k what)
  | announce event => exact silent _ rfl (withCookies_announce d i k event)
  | task task => exact silent _ rfl (withCookies_update d i k fun _ => rfl)
  | wake => exact silent _ rfl (withCookies_wake d i k)
  | cancel n => exact silent _ rfl (withCookies_cancelHeld d i n)
  | unwake => exact silent _ rfl rfl
  | leave => exact silent _ rfl rfl

theorem withCookies_amend (d : Desk) (i k : Nat) (edits : List Edit) :
    (d.withCookies i c).amend k (if k = i then edits.map (Edit.withCookies c) else edits) =
      (d.amend k edits).withCookies i c := by
  induction edits generalizing d with
  | nil =>
    rw [List.map_nil, ite_self]
    rfl
  | cons x rest ih =>
    rw [amend_cons, ← ih, ← withCookies_edit]
    split <;> rfl

/-- Edits that are made out of the record of a submission. -/
theorem withCookies_amends {F : Submission → List Edit} (found : d.submissions[k]? = some s)
    (own : k = i → F (s.withCookies c) = (F s).map (Edit.withCookies c)) :
    ∃ t, (d.withCookies i c).submissions[k]? = some t ∧
      (d.withCookies i c).amend k (F t) = (d.amend k (F s)).withCookies i c := by
  refine ⟨if i = k then s.withCookies c else s, by rw [withCookies_submissions, found]; rfl, ?_⟩
  rw [← withCookies_amend]
  by_cases same : k = i
  · rw [if_pos same, if_pos same.symm, own same]
  · rw [if_neg same, if_neg (Ne.symm same)]

/-! ### Moves -/

theorem withCookies_tearDown (d : Desk) (i k : Nat) (c : String) :
    (d.withCookies i c).tearDown k = (d.tearDown k).withCookies i c := by
  cases found : d.submissions[k]? with
  | none =>
    have absent : d.isLive k = false := by simp [isLive, found]
    simp [tearDown, withCookies_isLive, absent]
  | some s =>
    have silent : (if (s.withCookies c).task.isFinished then [] else (s.withCookies c).abandonment) =
        (if s.task.isFinished then [] else s.abandonment).map (Edit.withCookies c) := by
      rw [Submission.abandonment_withCookies]
      change (if s.task.isFinished then [] else s.abandonment) = _
      split
      · rfl
      · rw [Edit.map_withCookies s.abandonment_call]
    obtain ⟨t, there, same⟩ := withCookies_amends (i := i) (c := c)
      (F := fun s => if s.task.isFinished then [] else s.abandonment) found fun _ => silent
    rw [tearDown_eq_amend there, tearDown_eq_amend found, same]

theorem withCookies_tearDowns (d : Desk) (i : Nat) (c : String) (ks : List Nat) :
    ks.foldl tearDown (d.withCookies i c) = (ks.foldl tearDown d).withCookies i c := by
  induction ks generalizing d with
  | nil => rfl
  | cons k rest ih => rw [List.foldl_cons, List.foldl_cons, withCookies_tearDown, ih]

theorem withCookies_enrol (inside : i < d.submissions.length) (t : Submission) :
    (d.withCookies i c).enrol t = (d.enrol t).withCookies i c := by
  have appended := modify_append inside t (Submission.withCookies c)
  simp only [withCookies, update, enrol, appended, List.length_modify]

theorem withCookies_submit (inside : i < d.submissions.length) (resolver : Resolver) (id : Uuid) (request : Request) :
    (d.withCookies i c).submit resolver id request = (d.submit resolver id request).withCookies i c := by
  have incoming : (d.withCookies i c).incoming resolver id request = d.incoming resolver id request := rfl
  have opened := withCookies_amend (c := c) (d.enrol (d.incoming resolver id request)) i d.submissions.length
    (d.incoming resolver id request).opening
  rw [if_neg (Nat.ne_of_gt inside), ← withCookies_enrol inside] at opened
  have outside : (d.withCookies i c).outside = d.outside := rfl
  have running : (d.withCookies i c).running = d.running := rfl
  simp only [submit_eq_amend, incoming, withCookies_length, outside, running, opened, withCookies_tearDown]
  split
  · rfl
  · split <;> rfl

theorem IgnoresCookies.inside (ignores : d.IgnoresCookies i) : i < d.submissions.length := by
  obtain ⟨s, found, -⟩ := ignores
  exact (List.getElem?_eq_some_iff.mp found).1

theorem IgnoresCookies.step (ignores : d.IgnoresCookies i) (m : Move) : (d.step m).IgnoresCookies i := by
  obtain ⟨s, found, blind⟩ := ignores
  obtain ⟨t, there, terms⟩ := run_terms found [m]
  refine ⟨t, there, ?_⟩
  rwa [Submission.resolver_of_terms terms]

theorem withCookies_poll (ignores : d.IgnoresCookies i) (k : Nat) (c : String) :
    (d.withCookies i c).poll k = (d.poll k).withCookies i c := by
  cases found : d.submissions[k]? with
  | none => simp [poll, withCookies_submissions, found]
  | some s =>
    have own : k = i → (s.withCookies c).polling k d.now = (s.polling k d.now).map (Edit.withCookies c) := by
      rintro rfl
      obtain ⟨t, there, blind⟩ := ignores
      obtain rfl := Option.some.inj (found.symm.trans there)
      exact Submission.polling_withCookies c blind k d.now
    obtain ⟨t, there, same⟩ := withCookies_amends (F := fun s => s.polling k d.now) found own
    rw [poll_eq_amend there, poll_eq_amend found]
    exact same

/-- A move is the same whatever the cookies are, save for what it does with them. -/
theorem withCookies_step (ignores : d.IgnoresCookies i) (c : String) (m : Move) :
    (d.withCookies i c).step m = (d.step m).withCookies i c := by
  have outside : (d.withCookies i c).outside = d.outside := rfl
  cases m with
  | submit resolver id request => exact withCookies_submit ignores.inside resolver id request
  | poll k => exact withCookies_poll ignores k c
  | wake k => exact withCookies_wake d i k
  | cancel k => exact withCookies_cancelHeld d i k
  | release k => exact withCookies_update d i k fun _ => rfl
  | hear k =>
    cases found : d.submissions[k]? with
    | none => simp [step, hear, withCookies_submissions, found]
    | some s =>
      have own : (s.withCookies c).hearing = s.hearing.map (Edit.withCookies c) :=
        (Edit.map_withCookies s.hearing_call c).symm
      obtain ⟨t, there, same⟩ := withCookies_amends (i := i) (F := Submission.hearing) found fun _ => own
      rw [step, step, hear_eq_amend there, hear_eq_amend found, same]
  | tearDown k => exact withCookies_tearDown d i k c
  | wait ms => rfl
  | hold =>
    simp only [step, hold, outside]
    split <;> rfl
  | letGo =>
    simp only [step, letGo, outside]
    split <;> rfl
  | shutDown =>
    rw [step, step, shutDown, withCookies_length]
    exact withCookies_tearDowns { d with running := false } i c _

end Desk

end TorrentAdmission
