import TorrentAdmission.Desk.Step

/-!
# Edits

Every move at a desk comes down to small edits made on behalf of one submission. The edits of a turn
depend on the record of that submission and on the instant, and on nothing else: `poll_eq_amend`.
What edits do to the records of submissions and to the desk's past is said here once.
-/

namespace TorrentAdmission

/-- The smallest changes that moves are made of. -/
inductive Edit where
  | call (call : Call)
  | report (notice : Notice)
  | count (what : Count)
  | announce (event : Event)
  /-- The task of the submission comes to another state. -/
  | task (task : Task)
  | wake
  | unwake
  /-- The task no longer keeps the bus open. -/
  | leave
  | cancel (submission : Nat)

namespace Desk

def edit (d : Desk) (i : Nat) : Edit → Desk
  | .call call => d.record i (.called call)
  | .report notice => d.report i notice
  | .count what => d.count i what
  | .announce event => d.announce i event
  | .task task => d.update i ({ · with task })
  | .wake => d.wake i
  | .unwake => d.unwake i
  | .leave => { d with bus := d.bus.release }
  | .cancel k => d.cancelHeld k

def amend (d : Desk) (i : Nat) (edits : List Edit) : Desk :=
  edits.foldl (fun d e => d.edit i e) d

theorem amend_cons (d : Desk) (i : Nat) (e : Edit) (edits : List Edit) :
    d.amend i (e :: edits) = (d.edit i e).amend i edits := rfl

theorem amend_append (d : Desk) (i : Nat) (edits more : List Edit) :
    d.amend i (edits ++ more) = (d.amend i edits).amend i more :=
  List.foldl_append

end Desk

/-! ### The edits of moves -/

namespace Submission

def closing (s : Submission) (outcome : Outcome) : List Edit :=
  (match outcome with
    | .cancelled => [.report { topic := .cancelled, span := some s.span }]
    | _ => []) ++
  [.announce (outcome.event s.id), .count (.outcome outcome.label)]

/-- The edits that leave a submission with a finished task. -/
def retiring (task : Task) : List Edit := [.task task, .unwake, .leave]

def conclusion (s : Submission) (outcome : Outcome) : List Edit :=
  s.closing outcome ++ retiring (.settled outcome)

/-- The edits that end a submission whose task came to no end of its own. -/
def abandonment (s : Submission) : List Edit :=
  .report { topic := .dropped, fields := [("correlation_id", .shown s.id.render)], span := some s.span } ::
    (s.closing (.failed .aborted) ++ retiring .aborted)

/-- The edits with which the owner hears of a task that came to no end of its own. -/
def hearing (s : Submission) : List Edit :=
  match s.task with
  | .aborted => [.report { topic := .aborted, fields := [("correlation_id", .shown s.id.render)] }]
  | _ => []

def opening (s : Submission) : List Edit :=
  [.count (.submission s.source.kind.label),
    .report { topic := .accepted, fields := [("correlation_id", .shown s.id.render),
      ("source_kind", .text s.source.kind.label)] },
    .announce s.acceptance]

def doing (s : Submission) : Act → Edit
  | .call call => .call call
  | .note notice => .report { notice with span := some s.span }
  | .cancel k => .cancel k

def settlement (s : Submission) : Except Failure (Torrent × Path) → List Edit
  | .ok (torrent, path) =>
    (match path with
      | .direct => []
      | _ => [.count (.winner path.label)]) ++
    .report { topic := .resolved,
              fields := [("torrent_id", .shown torrent.key.render)] ++
                optionalText "name" torrent.name? ++ [("path", .text path.label)],
              span := some s.span } :: s.conclusion (.resolved torrent)
  | .error e =>
    .report { topic := .failed,
              fields := [("error", .shown e.message)] ++
                optionalText "operation" (e.operation?.map Operation.wireName),
              span := some s.span } :: s.conclusion (.failed e)

/-- Submission `i` is cancelled when a turn with these acts is over. -/
def isStopped (s : Submission) (i : Nat) (acts : List Act) : Bool :=
  s.cancelled || (s.held && acts.contains (.cancel i))

def followUp (s : Submission) (i : Nat)
    (turn : Turn (Step Progress (Except Failure (Torrent × Path)))) : List Edit :=
  match turn.result with
  | .error _ => s.abandonment
  | .ok (.waiting progress) =>
    [.task (.resolving progress), .unwake] ++ (if s.isStopped i turn.acts then [.wake] else [])
  | .ok (.done result) =>
    if s.isStopped i turn.acts then s.conclusion .cancelled else s.settlement result

def turning (s : Submission) (i : Nat)
    (turn : Turn (Step Progress (Except Failure (Torrent × Path)))) : List Edit :=
  turn.acts.map s.doing ++ s.followUp i turn

/-- What the lookup of a submission does in a turn at the instant `now`, unless it is over. -/
def turn? (s : Submission) (now : Nat) :
    Option (Turn (Step Progress (Except Failure (Torrent × Path)))) :=
  match s.task with
  | .fresh => some ((s.lookup now).start s.source)
  | .resolving progress => some ((s.lookup now).resume s.source progress)
  | .settled _ => none
  | .aborted => none

def polling (s : Submission) (i now : Nat) : List Edit :=
  match s.turn? now with
  | none => []
  | some turn => if s.cancelled then s.conclusion .cancelled else s.turning i turn

theorem polling_cancelled {s : Submission} (cancelled : s.cancelled = true)
    (live : s.task.isFinished = false) (i now : Nat) : s.polling i now = s.conclusion .cancelled := by
  unfold polling turn?
  cases task : s.task with
  | fresh => simp [cancelled]
  | resolving progress => simp [cancelled]
  | settled o => rw [task] at live; cases live
  | aborted => rw [task] at live; cases live

theorem polling_finished {s : Submission} (finished : s.task.isFinished = true) (i now : Nat) :
    s.polling i now = [] := by
  unfold polling turn?
  cases task : s.task with
  | fresh => rw [task] at finished; cases finished
  | resolving progress => rw [task] at finished; cases finished
  | settled o => rfl
  | aborted => rfl

theorem polling_live {s : Submission} (uncancelled : s.cancelled = false)
    (live : s.task.isFinished = false) (i now : Nat) : ∃ turn, s.polling i now = s.turning i turn := by
  unfold polling turn?
  cases task : s.task with
  | fresh => exact ⟨_, by simp only [uncancelled]; rfl⟩
  | resolving progress => exact ⟨_, by simp only [uncancelled]; rfl⟩
  | settled o => rw [task] at live; cases live
  | aborted => rw [task] at live; cases live

end Submission

/-- What an edit adds to the past, where the next event has the number `number` and the submission's
resolver is metered or not. -/
def Edit.facts (number : Nat) (metered : Bool) : Edit → List Fact
  | .call c => [.called c]
  | .report notice => [.noted notice]
  | .count what => if metered then [.counted what] else []
  | .announce event =>
    .published ⟨number, event⟩ :: (if metered then [.counted (.event event.kind)] else [])
  | _ => []

/-! ### What edits do to records -/

namespace Submission

/-- What an edit made on behalf of submission `i` leaves of the record of submission `j`. -/
def edited (i j : Nat) (s : Submission) : Edit → Submission
  | .task task => if i = j then { s with task } else s
  | .cancel k => if k = j && s.held then { s with cancelled := true } else s
  | _ => s

def amended (i j : Nat) (s : Submission) (edits : List Edit) : Submission :=
  edits.foldl (edited i j) s

/-- What never changes about a submission. -/
def terms (s : Submission) : Uuid × Request × Resolver := (s.id, s.request, s.resolver)

section
variable {s t : Submission}

theorem id_of_terms (same : s.terms = t.terms) : s.id = t.id := congrArg Prod.fst same

theorem source_of_terms (same : s.terms = t.terms) : s.source = t.source :=
  congrArg (fun terms => terms.2.1.route) same

theorem resolver_of_terms (same : s.terms = t.terms) : s.resolver = t.resolver :=
  congrArg (fun terms => terms.2.2) same

theorem lookup_of_terms (same : s.terms = t.terms) (now : Nat) : s.lookup now = t.lookup now := by
  rw [lookup, lookup, id_of_terms same, resolver_of_terms same]

theorem acceptance_of_terms (same : s.terms = t.terms) : s.acceptance = t.acceptance := by
  have request : s.request = t.request := congrArg (fun terms => terms.2.1) same
  rw [acceptance, acceptance, id_of_terms same, source_of_terms same, request]

end

theorem edited_terms (i j : Nat) (s : Submission) (e : Edit) : (s.edited i j e).terms = s.terms := by
  cases e with
  | task task =>
    simp only [edited]
    split <;> rfl
  | cancel k =>
    simp only [edited]
    split <;> rfl
  | _ => rfl

theorem amended_terms (i j : Nat) (s : Submission) (edits : List Edit) :
    (s.amended i j edits).terms = s.terms := by
  induction edits generalizing s with
  | nil => rfl
  | cons e rest ih => exact (ih _).trans (s.edited_terms i j e)

theorem amended_append (i j : Nat) (s : Submission) (edits more : List Edit) :
    s.amended i j (edits ++ more) = (s.amended i j edits).amended i j more :=
  List.foldl_append

theorem edited_cancelled {s : Submission} (cancelled : s.cancelled = true) (i j : Nat) (e : Edit) :
    (s.edited i j e).cancelled = true := by
  cases e with
  | task task =>
    simp only [edited]
    split <;> exact cancelled
  | cancel k =>
    simp only [edited]
    split
    · rfl
    · exact cancelled
  | _ => exact cancelled

theorem amended_cancelled {s : Submission} (cancelled : s.cancelled = true) (i j : Nat) (edits : List Edit) :
    (s.amended i j edits).cancelled = true := by
  induction edits generalizing s with
  | nil => exact cancelled
  | cons e rest ih => exact ih (edited_cancelled cancelled i j e)

theorem amended_hearing (s t : Submission) (i j : Nat) : t.amended i j s.hearing = t := by
  unfold hearing
  split <;> rfl

theorem edited_doing (t s : Submission) (i : Nat) (act : Act) :
    s.edited i i (t.doing act) = { s with cancelled := s.isStopped i [act] } := by
  cases act with
  | cancel k =>
    by_cases own : i = k
    · subst own
      rcases s with ⟨_, _, _, _, _, held⟩
      cases held <;> simp [doing, edited, isStopped]
    · simp [doing, edited, isStopped, own, Ne.symm own]
  | _ => simp [doing, edited, isStopped]

/-- The acts of a turn touch the record of their own submission only by cancelling it. -/
theorem amended_doing (t s : Submission) (i : Nat) (acts : List Act) :
    s.amended i i (acts.map t.doing) = { s with cancelled := s.isStopped i acts } := by
  induction acts generalizing s with
  | nil => simp [amended, isStopped]
  | cons act rest ih =>
    have head := edited_doing t s i act
    rw [List.map_cons, amended, List.foldl_cons, head]
    refine (ih _).trans ?_
    cases held : s.held <;> simp [isStopped, held, Bool.or_assoc]

end Submission

namespace Desk

@[simp] theorem record_submissions (d : Desk) (i : Nat) (fact : Fact) :
    (d.record i fact).submissions = d.submissions := rfl

@[simp] theorem count_submissions (d : Desk) (i : Nat) (what : Count) :
    (d.count i what).submissions = d.submissions := by
  unfold count
  split
  · split <;> rfl
  · rfl

@[simp] theorem announce_submissions (d : Desk) (i : Nat) (event : Event) :
    (d.announce i event).submissions = d.submissions := by
  simp [announce]

@[simp] theorem wake_submissions (d : Desk) (i : Nat) : (d.wake i).submissions = d.submissions := by
  unfold wake
  split <;> rfl

@[simp] theorem unwake_submissions (d : Desk) (i : Nat) : (d.unwake i).submissions = d.submissions := rfl

theorem update_submissions (d : Desk) (i j : Nat) (f : Submission → Submission) :
    (d.update i f).submissions[j]? = d.submissions[j]?.map fun s => if i = j then f s else s := by
  simp only [update, List.getElem?_modify]
  cases d.submissions[j]? <;> simp

theorem cancelHeld_submissions (d : Desk) (k j : Nat) :
    (d.cancelHeld k).submissions[j]? = d.submissions[j]?.map (·.edited k j (.cancel k)) := by
  unfold cancelHeld cancel
  by_cases same : k = j
  · subst same
    cases found : d.submissions[k]? with
    | none => simp [found]
    | some s => cases held : s.held <;> simp [found, held, update_submissions, Submission.edited]
  · split
    · simp [update_submissions, same, Submission.edited]
    · simp [same, Submission.edited]

theorem edit_submissions (d : Desk) (i j : Nat) (e : Edit) :
    (d.edit i e).submissions[j]? = d.submissions[j]?.map (·.edited i j e) := by
  cases e with
  | task task => exact update_submissions d i j _
  | cancel k => simpa [edit, Submission.edited] using cancelHeld_submissions d k j
  | _ => simp [edit, report, Submission.edited]

theorem amend_submissions (d : Desk) (i j : Nat) (edits : List Edit) :
    (d.amend i edits).submissions[j]? = d.submissions[j]?.map (·.amended i j edits) := by
  induction edits generalizing d with
  | nil => simp [amend, Submission.amended]
  | cons e rest ih =>
    rw [amend_cons, ih, edit_submissions, Option.map_map]
    rfl

/-! ### Moves as edits -/

variable {d : Desk} {i : Nat} {s : Submission}

theorem reportWithin_eq (found : d.submissions[i]? = some s) (notice : Notice) :
    d.reportWithin i notice = d.edit i (.report { notice with span := some s.span }) := by
  simp [reportWithin, edit, found]

theorem finish_eq_amend (found : d.submissions[i]? = some s) (o : Outcome) :
    d.finish i o = d.amend i (s.closing o) := by
  unfold finish
  rw [found]
  cases o with
  | cancelled => simp only [reportWithin_eq found]; rfl
  | _ => rfl

theorem conclude_eq_amend (found : d.submissions[i]? = some s) (o : Outcome) :
    d.conclude i o = d.amend i (s.conclusion o) := by
  rw [Submission.conclusion, amend_append, ← finish_eq_amend found]
  rfl

theorem abandon_eq_amend (found : d.submissions[i]? = some s) :
    d.abandon i = d.amend i s.abandonment := by
  unfold abandon
  rw [found]
  simp only [reportWithin_eq found]
  rw [finish_eq_amend (s := s) (by simp [edit, report, found]), Submission.abandonment, amend_cons, amend_append]
  rfl

theorem settle_eq_amend (found : d.submissions[i]? = some s)
    (result : Except Failure (Torrent × Path)) : d.settle i result = d.amend i (s.settlement result) := by
  cases result with
  | error e =>
    simp only [settle, reportWithin_eq found]
    rw [conclude_eq_amend (s := s) (by simp [edit, report, found])]
    rfl
  | ok delivered =>
    obtain ⟨torrent, path⟩ := delivered
    have counted : (d.count i (.winner path.label)).submissions[i]? = some s := by simp [found]
    cases path <;>
      simp only [settle, reportWithin_eq found, reportWithin_eq counted] <;>
      rw [conclude_eq_amend (s := s) (by simp [edit, report, found])] <;> rfl

theorem perform_eq_amend (found : d.submissions[i]? = some s) (acts : List Act) :
    d.perform i acts = d.amend i (acts.map s.doing) := by
  suffices general : ∀ (d : Desk) (t : Submission), d.submissions[i]? = some t → t.span = s.span →
      d.perform i acts = d.amend i (acts.map s.doing) from general d s found rfl
  induction acts with
  | nil => intro d t _ _; rfl
  | cons act rest ih =>
    intro d t found same
    have kept := edit_submissions d i i (s.doing act)
    rw [found, Option.map_some, Submission.edited_doing] at kept
    have done : d.perform i (act :: rest) = (d.edit i (s.doing act)).perform i rest := by
      cases act with
      | note notice => simp only [perform, reportWithin_eq found, same, Submission.doing]
      | _ => rfl
    rw [done, ih _ _ kept same, List.map_cons, amend_cons]

theorem afterTurn_eq_amend (found : d.submissions[i]? = some s)
    (turn : Turn (Step Progress (Except Failure (Torrent × Path)))) :
    d.afterTurn i turn = d.amend i (s.turning i turn) := by
  have kept := amend_submissions d i i (turn.acts.map s.doing)
  rw [found, Option.map_some, Submission.amended_doing] at kept
  rw [← perform_eq_amend found] at kept
  have stopped : (d.perform i turn.acts).isCancelled i = s.isStopped i turn.acts := by
    simp [isCancelled, kept]
  -- The acts leave the record as it is but for the mark, so what follows is settled before they are made.
  rw [Submission.turning, amend_append, ← perform_eq_amend found]
  unfold afterTurn Submission.followUp
  generalize d.perform i turn.acts = e at kept stopped ⊢
  rcases turn with ⟨acts, crash | progress | result⟩
  · exact (abandon_eq_amend kept :)
  · have flag : ((e.update i ({ · with task := .resolving progress })).unwake i).isCancelled i =
        s.isStopped i acts := by
      simp [isCancelled, update_submissions, kept]
    simp only [suspend, flag]
    cases s.isStopped i acts <;> rfl
  · simp only [stopped]
    cases s.isStopped i acts with
    | false => exact (settle_eq_amend kept result :)
    | true => exact (conclude_eq_amend kept .cancelled :)

/-- A turn is a list of edits that the submission's own record and the instant determine. -/
theorem poll_eq_amend (found : d.submissions[i]? = some s) :
    d.poll i = d.amend i (s.polling i d.now) := by
  simp only [poll, Submission.polling, Submission.turn?, found]
  cases s.task with
  | fresh =>
    cases s.cancelled with
    | false => exact afterTurn_eq_amend found _
    | true => exact conclude_eq_amend found .cancelled
  | resolving progress =>
    cases s.cancelled with
    | false => exact afterTurn_eq_amend found _
    | true => exact conclude_eq_amend found .cancelled
  | settled _ => rfl
  | aborted => rfl

theorem tearDown_eq_amend (found : d.submissions[i]? = some s) :
    d.tearDown i = d.amend i (if s.task.isFinished then [] else s.abandonment) := by
  have live : d.isLive i = !s.task.isFinished := by simp [isLive, found]
  unfold tearDown
  rw [live]
  cases s.task.isFinished with
  | false => exact abandon_eq_amend found
  | true => rfl

theorem hear_eq_amend (found : d.submissions[i]? = some s) :
    d.hear i = d.amend i s.hearing := by
  simp only [hear, Submission.hearing, found]
  cases s.task <;> rfl

/-! ### What edits leave alone -/

/-- The instant, and who is there outside the tasks. -/
def surroundings (d : Desk) : Nat × Bool × Nat := (d.now, d.running, d.outside)

theorem count_surroundings (d : Desk) (i : Nat) (what : Count) :
    (d.count i what).surroundings = d.surroundings := by
  unfold count
  split
  · split <;> rfl
  · rfl

theorem wake_surroundings (d : Desk) (i : Nat) : (d.wake i).surroundings = d.surroundings := by
  unfold wake
  split <;> rfl

theorem edit_surroundings (d : Desk) (i : Nat) (e : Edit) :
    (d.edit i e).surroundings = d.surroundings := by
  cases e with
  | count what => exact count_surroundings d i what
  | announce event => exact count_surroundings _ i _
  | wake => exact wake_surroundings d i
  | cancel k =>
    simp only [edit, cancelHeld]
    split
    · exact wake_surroundings _ k
    · rfl
  | _ => rfl

theorem amend_surroundings (d : Desk) (i : Nat) (edits : List Edit) :
    (d.amend i edits).surroundings = d.surroundings := by
  induction edits generalizing d with
  | nil => rfl
  | cons e rest ih => rw [amend_cons, ih, edit_surroundings]

theorem amend_now (d : Desk) (i : Nat) (edits : List Edit) : (d.amend i edits).now = d.now :=
  congrArg Prod.fst (amend_surroundings d i edits)

theorem edit_now (d : Desk) (i : Nat) (e : Edit) : (d.edit i e).now = d.now :=
  congrArg Prod.fst (edit_surroundings d i e)

theorem amend_outside (d : Desk) (i : Nat) (edits : List Edit) : (d.amend i edits).outside = d.outside :=
  congrArg (fun around => around.2.2) (amend_surroundings d i edits)

theorem edit_outside (d : Desk) (i : Nat) (e : Edit) : (d.edit i e).outside = d.outside :=
  congrArg (fun around => around.2.2) (edit_surroundings d i e)

/-! ### What edits add to the past -/

theorem record_history (d : Desk) (i : Nat) (fact : Fact) :
    (d.record i fact).history = d.history ++ [⟨d.now, i, fact⟩] := by
  simp [history, record]

theorem count_history (found : d.submissions[i]? = some s) (what : Count) :
    (d.count i what).history =
      d.history ++ (if s.resolver.metered then [⟨d.now, i, .counted what⟩] else []) := by
  unfold count
  rw [found]
  cases metered : s.resolver.metered with
  | false => simp [metered]
  | true => simp [metered, record, history]

theorem cancelHeld_history (d : Desk) (k : Nat) : (d.cancelHeld k).history = d.history := by
  unfold cancelHeld cancel wake
  split
  · split <;> rfl
  · rfl

theorem edit_history (found : d.submissions[i]? = some s) (e : Edit) :
    (d.edit i e).history =
      d.history ++ (e.facts d.bus.nextId s.resolver.metered).map (⟨d.now, i, ·⟩) := by
  cases e with
  | call call => exact record_history d i _
  | report notice => exact record_history d i _
  | count what =>
    rw [edit, count_history found]
    cases metered : s.resolver.metered <;> simp [Edit.facts]
  | announce event =>
    have kept : ({ d with bus := (d.bus.publish event).2 }.record i
        (.published ⟨d.bus.nextId, event⟩)).submissions[i]? = some s := found
    refine (count_history kept _).trans ?_
    rw [record_history]
    cases metered : s.resolver.metered <;> simp [Edit.facts, history, record]
  | cancel k => simpa [edit, Edit.facts] using cancelHeld_history d k
  | wake =>
    simp only [edit, wake, Edit.facts]
    split <;> simp [history]
  | _ => simp [edit, Edit.facts, history, update, unwake]

/-! ### Submissions that come in -/

/-- Takes up a submission whose task is to have a turn. -/
def enrol (d : Desk) (s : Submission) : Desk :=
  { d with
    submissions := d.submissions ++ [s]
    awake := d.awake ++ [d.submissions.length]
    bus := d.bus.hold }

theorem enrol_submissions (d : Desk) (s : Submission) :
    (d.enrol s).submissions[d.submissions.length]? = some s := by
  simp [enrol]

def incoming (d : Desk) (resolver : Resolver) (id : Uuid) (request : Request) : Submission :=
  { id, request, resolver, held := d.running }

theorem submit_eq_amend (d : Desk) (resolver : Resolver) (id : Uuid) (request : Request) :
    d.submit resolver id request =
      if d.outside = 0 then d
      else
        let s := d.incoming resolver id request
        let e := (d.enrol s).amend d.submissions.length s.opening
        if d.running then e else e.tearDown d.submissions.length := by
  have running := congrArg (·.2.1)
    (amend_surroundings (d.enrol (d.incoming resolver id request)) d.submissions.length
      (d.incoming resolver id request).opening)
  have goesOn : ∀ e : Desk, e.running = d.running →
      (if e.running then e else e.tearDown d.submissions.length) =
        if d.running then e else e.tearDown d.submissions.length := by
    intro e same
    rw [same]
  unfold submit
  split
  · rfl
  · exact goesOn _ running

/-! ### Properties that moves keep -/

/-- Nothing was added to the past, and no submission was lost. -/
structure Rearranged (d e : Desk) : Prop where
  journal : e.journal = d.journal
  metrics : e.metrics = d.metrics
  bus : ∃ holders, e.bus = { d.bus with holders }
  submissions : d.submissions.length ≤ e.submissions.length

theorem cancelHeld_of_none (absent : d.submissions[i]? = none) : d.cancelHeld i = d := by
  simp [cancelHeld, absent]

section
variable {P : Desk → Prop}
  (edited : ∀ d i s e, d.submissions[i]? = some s → P d → P (d.edit i e))
  (rearranged : ∀ d e, Rearranged d e → P d → P e)

include edited in
theorem amend_invariant (found : d.submissions[i]? = some s) (edits : List Edit) (h : P d) :
    P (d.amend i edits) := by
  induction edits generalizing d s with
  | nil => exact h
  | cons e rest ih =>
    have kept := edit_submissions d i i e
    rw [found, Option.map_some] at kept
    exact ih kept (edited d i s e found h)

include edited in
theorem tearDown_invariant (d : Desk) (i : Nat) (h : P d) : P (d.tearDown i) := by
  cases found : d.submissions[i]? with
  | none => simpa [tearDown, isLive, found] using h
  | some s =>
    rw [tearDown_eq_amend found]
    exact amend_invariant edited found _ h

include edited in
theorem tearDowns_invariant (d : Desk) (is : List Nat) (h : P d) : P (is.foldl tearDown d) := by
  induction is generalizing d with
  | nil => exact h
  | cons i rest ih => exact ih _ (tearDown_invariant edited d i h)

include edited rearranged in
/-- What edits and rearrangements keep, moves keep. -/
theorem step_invariant (d : Desk) (m : Move) (h : P d) : P (d.step m) := by
  cases m with
  | submit resolver id request =>
    have enrolled : P (d.enrol (d.incoming resolver id request)) :=
      rearranged d _ ⟨rfl, rfl, ⟨_, rfl⟩, by simp [enrol]⟩ h
    have opened := amend_invariant edited (enrol_submissions d _)
      (d.incoming resolver id request).opening enrolled
    simp only [step, submit_eq_amend]
    split
    · exact h
    · split
      · exact opened
      · exact tearDown_invariant edited _ _ opened
  | poll i =>
    cases found : d.submissions[i]? with
    | none => simpa [step, poll, found] using h
    | some s =>
      simp only [step, poll_eq_amend found]
      exact amend_invariant edited found _ h
  | wake i =>
    cases found : d.submissions[i]? with
    | none => simpa [step, wake, isLive, found] using h
    | some s => exact edited d i s .wake found h
  | cancel i =>
    cases found : d.submissions[i]? with
    | none => simpa [step, cancelHeld_of_none found] using h
    | some s => exact edited d i s (.cancel i) found h
  | release i => exact rearranged d _ ⟨rfl, rfl, ⟨_, rfl⟩, by simp [step, release, update]⟩ h
  | hear i =>
    cases found : d.submissions[i]? with
    | none => simpa [step, hear, found] using h
    | some s =>
      simp only [step, hear_eq_amend found]
      exact amend_invariant edited found _ h
  | tearDown i => exact tearDown_invariant edited d i h
  | wait ms => exact rearranged d _ ⟨rfl, rfl, ⟨_, rfl⟩, Nat.le_refl _⟩ h
  | hold =>
    refine rearranged d _ ?_ h
    simp only [step, hold]
    split <;> exact ⟨rfl, rfl, ⟨_, rfl⟩, Nat.le_refl _⟩
  | letGo =>
    refine rearranged d _ ?_ h
    simp only [step, letGo]
    split <;> exact ⟨rfl, rfl, ⟨_, rfl⟩, Nat.le_refl _⟩
  | shutDown => exact tearDowns_invariant edited _ _ (rearranged d _ ⟨rfl, rfl, ⟨_, rfl⟩, Nat.le_refl _⟩ h)

include edited rearranged in
theorem run_invariant (d : Desk) (ms : List Move) (h : P d) : P (d.run ms) := by
  induction ms generalizing d with
  | nil => exact h
  | cons m rest ih => exact ih _ (step_invariant edited rearranged d m h)

end

end Desk

end TorrentAdmission
