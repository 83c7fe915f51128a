import TorrentAdmission.Proofs.Desk.Abandonment
import TorrentAdmission.Proofs.Desk.Settling
import TorrentAdmission.Proofs.Desk.Course
import TorrentAdmission.Proofs.Resolution.Calls

/-!
# The calls for a submission

A submission asks the backend only in the turns that its task has before it is cancelled or its task is
dropped. So in every run its calls are those of a lookup that has its turns at the same instants:
`Desk.run_calls`.
-/

namespace TorrentAdmission

namespace Move

instance (m : Move) (i : Nat) : Decidable (m.Drops i) :=
  match m with
  | .tearDown k => decidable_of_iff (k = i) (by simp [Drops])
  | .shutDown => .isTrue (Or.inr rfl)
  | .submit .. | .poll _ | .wake _ | .cancel _ | .release _ | .hear _ | .wait _ | .hold | .letGo =>
    .isFalse (by simp [Drops])

/-- The instants of the turns that a move at the instant `now` gives to the task of submission `i`. -/
def turns (i now : Nat) : Move → List Nat
  | .poll k => if k = i then [now] else []
  | _ => []

theorem turns_other {m : Move} {i : Nat} (other : m ≠ .poll i) (now : Nat) : m.turns i now = [] := by
  cases m with
  | poll k => exact if_neg fun same => other (congrArg poll same)
  | _ => rfl

end Move

/-- The instants of the turns that the task of submission `i` has in a run, up to the move with which the
submission is cancelled or its task dropped. -/
def Desk.turnsOf (d : Desk) (i : Nat) : List Move → List Nat
  | [] => []
  | m :: rest =>
    if d.isCancelled i = true ∨ m.Drops i then [] else m.turns i d.now ++ (d.step m).turnsOf i rest

/-! ### Calls still to be made -/

namespace Submission

/-- The calls that are made for a submission whose task is still to have turns at these instants. -/
def callsAhead (s : Submission) (turns : List Nat) : List Call :=
  match s.task with
  | .fresh => (s.lookup 0).callsIn s.source turns
  | .resolving progress => (s.lookup 0).callsFrom s.source turns progress
  | .settled _ => []
  | .aborted => []

variable {s t : Submission}

theorem callsAhead_nil (s : Submission) : s.callsAhead [] = [] := by
  unfold callsAhead
  split <;> rfl

theorem callsAhead_finished (finished : s.task.isFinished = true) (turns : List Nat) : s.callsAhead turns = [] := by
  unfold callsAhead
  split
  · rename_i task
    rw [task] at finished
    cases finished
  · rename_i task
    rw [task] at finished
    cases finished
  · rfl
  · rfl

theorem callsAhead_congr (task : t.task = s.task) (terms : t.terms = s.terms) (turns : List Nat) :
    t.callsAhead turns = s.callsAhead turns := by
  rw [callsAhead, callsAhead, task, lookup_of_terms terms, source_of_terms terms]

theorem turn?_of_live (live : s.task.isFinished = false) (now : Nat) : ∃ turn, s.turn? now = some turn := by
  unfold turn?
  cases task : s.task with
  | fresh => exact ⟨_, rfl⟩
  | resolving progress => exact ⟨_, rfl⟩
  | settled o => rw [task] at live; cases live
  | aborted => rw [task] at live; cases live

theorem callsAhead_turn {now : Nat} {turn : Turn (Step Progress (Except Failure (Torrent × Path)))}
    (next : s.turn? now = some turn) (rest : List Nat) :
    s.callsAhead (now :: rest) = turn.callsThen ((s.lookup 0).callsFrom s.source rest) := by
  unfold turn? at next
  cases task : s.task with
  | fresh =>
    simp only [task, Option.some.injEq] at next
    simp only [callsAhead, task, ← next]
    rfl
  | resolving progress =>
    simp only [task, Option.some.injEq] at next
    simp only [callsAhead, task, ← next]
    rfl
  | settled o => simp [task] at next
  | aborted => simp [task] at next

theorem turning_callsAhead (i : Nat) (turn : Turn (Step Progress (Except Failure (Torrent × Path))))
    (rest : List Nat) : turn.calls ++ (s.amended i i (s.turning i turn)).callsAhead rest =
      turn.callsThen ((s.lookup 0).callsFrom s.source rest) := by
  rw [Turn.callsThen]
  congr 1
  obtain ⟨acts, crash | progress | result⟩ := turn
  · refine callsAhead_finished ?_ rest
    rw [turning, amended_append]
    exact congrArg Task.isFinished (s.abandonment_task _ i)
  · rw [turning_waiting]
    rfl
  · refine callsAhead_finished ?_ rest
    cases stopped : s.isStopped i acts with
    | true =>
      rw [turning, amended_append, followUp_stopped stopped]
      exact congrArg Task.isFinished (s.conclusion_task _ i .cancelled)
    | false =>
      rw [turning, amended_append, followUp_settled stopped, amended_settlement]
      rfl

end Submission

namespace Dossier

variable {x y : Dossier} {i now : Nat} {m : Move}

theorem opened_calls (s : Submission) (now : Nat) : (opened s now).calls = [] := by
  rw [calls, opened, List.filterMap_map]
  exact s.facts_call s.opening

theorem Step.leaves_calls (step : x.Step m i now y) (turnless : m ≠ .poll i) (keeps : ¬ m.Drops i) :
    y.calls = x.calls ∧ ∀ turns, y.submission.callsAhead turns = x.submission.callsAhead turns := by
  cases step with
  | kept => exact ⟨rfl, fun _ => rfl⟩
  | cancelled held => exact ⟨rfl, Submission.callsAhead_congr rfl rfl⟩
  | released move => exact ⟨rfl, Submission.callsAhead_congr rfl rfl⟩
  | heard move =>
    refine ⟨amend_spent x.submission.hearing_call rfl, fun turns => ?_⟩
    rw [amend, Submission.amended_hearing]
  | polled move => exact absurd move turnless
  | dropped move live => exact absurd move keeps

/-- A turn makes the first of the calls that are still to be made. -/
theorem polling_calls (uncancelled : x.submission.cancelled = false)
    (live : x.submission.task.isFinished = false) (rest : List Nat) :
    let y := x.amend i now (x.submission.polling i now)
    y.calls ++ y.submission.callsAhead rest = x.calls ++ x.submission.callsAhead (now :: rest) := by
  intro y
  obtain ⟨turn, next⟩ := Submission.turn?_of_live live now
  have polling : x.submission.polling i now = x.submission.turning i turn := by
    simp [Submission.polling, next, uncancelled]
  have called : y.calls = x.calls ++ turn.calls := by
    rw [Turn.calls, ← x.submission.turning_call i turn, ← polling]
    exact (x.amend_gains i now _).calls
  rw [called, List.append_assoc, Submission.callsAhead_turn next, ← x.submission.turning_callsAhead i, ← polling]
  rfl

end Dossier

namespace Desk

variable {d : Desk} {i : Nat} {x : Dossier}

/-- The calls for a submission are those of a lookup that has the same turns. -/
theorem run_calls (opened : d.dossier? i = some x) (ms : List Move) :
    (d.run ms).callsOf i = x.calls ++ x.submission.callsAhead (d.turnsOf i ms) := by
  -- what the record says is still ahead shrinks by what the history gains, move by move
  induction ms generalizing d x with
  | nil =>
    rw [turnsOf, Submission.callsAhead_nil, List.append_nil, callsOf_eq, run, (dossier?_eq_some.mp opened).2]
    rfl
  | cons m rest ih =>
    cases finished : x.submission.task.isFinished with
    | true =>
      rw [Submission.callsAhead_finished finished, List.append_nil]
      exact run_spent opened ⟨Or.inr finished, rfl⟩ (m :: rest)
    | false =>
      cases cancelled : x.submission.cancelled with
      | true =>
        have marked := (isCancelled_of_dossier opened).trans cancelled
        rw [turnsOf, if_pos (Or.inl marked), Submission.callsAhead_nil, List.append_nil]
        exact run_spent opened ⟨Or.inl cancelled, rfl⟩ (m :: rest)
      | false =>
        have unmarked : d.isCancelled i ≠ true := by
          rw [isCancelled_of_dossier opened, cancelled]
          exact Bool.false_ne_true
        by_cases drops : m.Drops i
        · rw [turnsOf, if_pos (Or.inr drops), Submission.callsAhead_nil, List.append_nil]
          refine run_spent (drop_dossier drops opened) ⟨Or.inr (x.dropped_isFinished i d.now), ?_⟩ rest
          rw [Dossier.dropped, if_neg (Bool.eq_false_iff.mp finished)]
          exact Dossier.amend_spent x.submission.abandonment_call rfl
        · rw [run, turnsOf, if_neg (not_or.mpr ⟨unmarked, drops⟩)]
          by_cases polled : m = .poll i
          · subst polled
            rw [ih (poll_dossier opened), Move.turns, if_pos rfl]
            exact Dossier.polling_calls cancelled finished _
          · obtain ⟨y, after, step⟩ := step_dossier m opened
            obtain ⟨calls, ahead⟩ := step.leaves_calls polled drops
            rw [ih after, calls, ahead, Move.turns_other polled, List.nil_append]

/-! ### The instants of the turns -/

theorem now_le_step (d : Desk) (m : Move) : d.now ≤ (d.step m).now := by
  by_cases waits : ∃ ms, m = .wait ms
  · obtain ⟨ms, rfl⟩ := waits
    exact Nat.le_add_right d.now ms
  · exact Nat.le_of_eq (step_now fun ms same => waits ⟨ms, same⟩).symm

theorem turnsOf_ascending (d : Desk) (i : Nat) (ms : List Move) :
    (∀ t ∈ d.turnsOf i ms, d.now ≤ t) ∧ (d.turnsOf i ms).Pairwise (· ≤ ·) := by
  induction ms generalizing d with
  | nil => exact ⟨(fun _ member => nomatch member), .nil⟩
  | cons m rest ih =>
    obtain ⟨later, ascending⟩ := ih (d.step m)
    have after : ∀ t ∈ (d.step m).turnsOf i rest, d.now ≤ t :=
      fun t member => Nat.le_trans (d.now_le_step m) (later t member)
    rw [turnsOf]
    split
    · exact ⟨(fun _ member => nomatch member), .nil⟩
    · by_cases polled : m = .poll i
      · rw [polled, Move.turns, if_pos rfl, ← polled]
        refine ⟨fun t member => ?_, List.pairwise_cons.mpr ⟨after, ascending⟩⟩
        rcases List.mem_cons.mp member with rfl | member
        · exact Nat.le_refl _
        · exact after t member
      · rw [Move.turns_other polled, List.nil_append]
        exact ⟨after, ascending⟩

/-! ### The calls of every run -/

/-- The instants of the turns that the task of a submission has that is handed in now. -/
def turnsOfNext (d : Desk) (resolver : Resolver) (id : Uuid) (request : Request) (ms : List Move) : List Nat :=
  if d.running then (d.submit resolver id request).turnsOf d.submissions.length ms else []

theorem turnsOfNext_ascending (d : Desk) (resolver : Resolver) (id : Uuid) (request : Request) (ms : List Move) :
    (d.turnsOfNext resolver id request ms).Pairwise (· ≤ ·) := by
  unfold turnsOfNext
  split
  · exact (turnsOf_ascending _ _ ms).2
  · exact .nil

theorem submit_calls (grounded : d.Grounded) (isOpen : d.outside ≠ 0) (resolver : Resolver) (id : Uuid)
    (request : Request) (ms : List Move) :
    ((d.submit resolver id request).run ms).callsOf d.submissions.length =
      ((d.incoming resolver id request).lookup 0).callsIn request.route (d.turnsOfNext resolver id request ms) := by
  let x := Dossier.opened (d.incoming resolver id request) d.now
  have opened := submit_opened grounded isOpen resolver id request
  have uncalled : x.calls = [] := Dossier.opened_calls _ _
  unfold turnsOfNext
  split
  · rename_i running
    rw [run_calls (opened.trans (congrArg some (if_pos running))) ms]
    exact (congrArg (· ++ _) uncalled).trans (List.nil_append _)
  · rename_i stopped
    have torn := opened.trans (congrArg some (if_neg stopped))
    have silent : (x.dropped d.submissions.length d.now).calls = [] :=
      Dossier.amend_spent (Submission.abandonment_call _) uncalled
    exact run_spent torn ⟨Or.inr (x.dropped_isFinished _ _), silent⟩ ms

/-- The calls for a submission are those that its kind of source asks for, with its text and its cookies as
they were handed in, whatever the backend answers and whatever else happens. As the run may end with any
move, this also says in which turn a call is made. A turn counts if it comes before the submission is
cancelled and before its task is dropped. Where there is a turn at the deadline of a call, its answer is
heard exactly if it comes by then and there is a turn to hear it. -/
theorem run_calls_in_order (bus : Bus Event) (before after : List Move) (resolver : Resolver) (id : Uuid)
    (request : Request) (isOpen : ((Desk.new bus).run before).outside ≠ 0) :
    let d := (Desk.new bus).run before
    let turns := d.turnsOfNext resolver id request after
    let calls := ((d.submit resolver id request).run after).callsOf d.submissions.length
    (match SourceKind.of request.source with
      | .direct =>
        resolver.backend.DirectCalls resolver.limits id request.source request.cookies turns calls
      | .magnet => resolver.backend.MagnetCalls resolver.limits id request.source turns calls) ∧
      ∀ {α : Type} (a : Attempt α), a.Prompt turns →
        (a.Heard turns ↔ a.script.after ≤ a.limit ∧ ∃ n ∈ turns, a.since + a.script.after ≤ n) := by
  intro d turns calls
  have made : calls = ((d.incoming resolver id request).lookup 0).callsIn request.route turns :=
    submit_calls (run_grounded bus before) isOpen resolver id request after
  refine ⟨?_, fun a prompt => Attempt.heard_of_prompt (d.turnsOfNext_ascending resolver id request after) prompt⟩
  rw [made, Request.route]
  cases SourceKind.of request.source with
  | direct => exact Lookup.callsIn_direct _ request.source request.cookies turns
  | magnet => exact Lookup.callsIn_magnet _ request.source turns

/-- The metadata are there in a turn five milliseconds after the first one, and the link has not been
described by then. -/
theorem prefetched_magnet_called :
    let d := (Desk.new { capacity := 2 }).submit Samples.prefetching (.ofNat 1) ⟨Samples.magnetUri, ""⟩
    (d.run [.poll 0, .wait 5, .poll 0]).callsOf 0 =
      [.magnetInfo Samples.magnetUri, .prefetch Samples.magnetUri, .torrentInfo (.metadata [0])] := by
  intro d
  obtain ⟨made, -⟩ := run_calls_in_order { capacity := 2 } [] [.poll 0, .wait 5, .poll 0] Samples.prefetching
    (.ofNat 1) ⟨Samples.magnetUri, ""⟩ (by decide)
  have magnet : SourceKind.of Samples.magnetUri = .magnet := by decide +kernel
  have turns : (Desk.new { capacity := 2 }).turnsOfNext Samples.prefetching (.ofNat 1) ⟨Samples.magnetUri, ""⟩
      [.poll 0, .wait 5, .poll 0] = [0, 5] := by decide +kernel
  simp only [run, magnet, turns] at made
  obtain ⟨-, goesOn⟩ := made
  have sound : ∀ turns, ¬ Attempt.Crashes
      ⟨0, 20, Samples.prefetching.backend.magnetInfo (.ofNat 1) Samples.magnetUri⟩ turns := by
    rintro turns ⟨⟨detail, reply⟩, -⟩
    cases reply
  obtain ⟨-, exactly⟩ := goesOn (sound [0])
  refine (exactly [0]).mpr ⟨⟨⟨Samples.infoHash, "AA=="⟩, rfl, ?_⟩, [0], 5, [], rfl, ?_, ?_, ?_⟩
  · exact Prefetched.usable_iff.mpr ⟨⟨⟨Samples.infoHash⟩, by decide +kernel⟩, by decide +kernel⟩
  · exact ⟨by decide, by decide⟩
  · rintro ⟨⟨value, reply⟩, -⟩
    cases reply
  · exact sound _

end Desk

end TorrentAdmission
