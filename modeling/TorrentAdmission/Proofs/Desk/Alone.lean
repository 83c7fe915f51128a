import TorrentAdmission.Proofs.Desk.Cancellation
import TorrentAdmission.Proofs.Desk.Course
import TorrentAdmission.Proofs.Resolution.Renumbering

/-!
# A submission on its own

What happens to one submission at a desk can happen to it at a desk where it is the only one, with the
same facts at the same instants. What the others do there is left out, and if one of them has it
cancelled, its owner does that by itself.
-/

namespace TorrentAdmission

/-- Submission `i` goes by the number 0, and there is no other one. -/
def only (i k : Nat) : Option Nat := if k = i then some 0 else none

theorem only_self (i : Nat) : only i i = some 0 := if_pos rfl

/-- A resolver with the same answers at the same time. When an answer has submission `i` cancelled, that is now
the only one there; those that have others cancelled have none cancelled any more. -/
def Resolver.alone (r : Resolver) (i : Nat) : Resolver := { r with backend := r.backend.renumber (only i) }

def Task.renumber (f : Nat → Option Nat) : Task → Task
  | .resolving progress => .resolving (progress.renumber f)
  | task => task

namespace Task

variable (f : Nat → Option Nat) (task : Task)

theorem renumber_isFinished : (task.renumber f).isFinished = task.isFinished := by
  cases task <;> rfl

theorem renumber_outcome? : (task.renumber f).outcome? = task.outcome? := by
  cases task <;> rfl

theorem renumber_instants : (task.renumber f).instants = task.instants := by
  cases task with
  | resolving progress => exact progress.renumber_instants f
  | _ => rfl

theorem renumber_isDue (now : Nat) : (task.renumber f).isDue now = task.isDue now := by
  cases task with
  | resolving progress => exact congrArg (·.any fun t => decide (t ≤ now)) (progress.renumber_dues f)
  | _ => rfl

end Task

/-! ### Edits -/

/-- What is left of an edit made on behalf of submission `i` when no other one is there. -/
def Edit.alone (i : Nat) : Edit → Option Edit
  | .cancel k => (only i k).map .cancel
  | .task state => some (.task (state.renumber (only i)))
  | other => some other

theorem Edit.alone_own (i : Nat) : Edit.alone i (.cancel i) = some (.cancel 0) := by
  rw [alone, only_self, Option.map_some]

theorem Edit.alone_other {i k : Nat} (other : k ≠ i) : Edit.alone i (.cancel k) = none := by
  rw [alone, only, if_neg other, Option.map_none]

namespace Submission

def alone (s : Submission) (i : Nat) : Submission :=
  { s with resolver := s.resolver.alone i, task := s.task.renumber (only i) }

variable (s : Submission) (i now : Nat)

theorem alone_turn? : (s.alone i).turn? now =
    (s.turn? now).map (Turn.renumber (only i) (Step.map (Progress.renumber (only i)))) := by
  unfold turn?
  cases task : s.task with
  | fresh =>
    rw [alone, task]
    exact congrArg some ((s.lookup now).renumber_start (only i) s.source).symm
  | resolving progress =>
    rw [alone, task]
    exact congrArg some ((s.lookup now).renumber_resume (only i) s.source progress).symm
  | settled o =>
    rw [alone, task]
    rfl
  | aborted =>
    rw [alone, task]
    rfl

theorem alone_isStopped (acts : List Act) :
    (s.alone i).isStopped 0 (acts.filterMap (Act.renumber (only i))) = s.isStopped i acts := by
  have member : Act.cancel 0 ∈ acts.filterMap (Act.renumber (only i)) ↔ Act.cancel i ∈ acts := by
    rw [List.mem_filterMap]
    refine ⟨?_, fun own => ⟨_, own, by simp [Act.renumber, only_self]⟩⟩
    rintro ⟨act, there, same⟩
    cases act with
    | cancel k =>
      obtain ⟨n, kept, -⟩ := Option.map_eq_some_iff.mp same
      obtain rfl : k = i := by
        by_contra other
        simp [only, other] at kept
      exact there
    | _ => cases same
  have contains : (acts.filterMap (Act.renumber (only i))).contains (.cancel 0) = acts.contains (.cancel i) := by
    rw [Bool.eq_iff_iff, List.contains_iff_mem, List.contains_iff_mem, member]
  rw [isStopped, isStopped, contains]
  rfl

theorem alone_doing (acts : List Act) : (acts.filterMap (Act.renumber (only i))).map (s.alone i).doing =
    (acts.map s.doing).filterMap (Edit.alone i) := by
  rw [List.map_filterMap, List.filterMap_map]
  refine List.filterMap_congr fun act _ => ?_
  cases act with
  | cancel k =>
    rw [Act.renumber, Option.map_map]
    rfl
  | _ => rfl

theorem alone_conclusion (o : Outcome) : (s.alone i).conclusion o = (s.conclusion o).filterMap (Edit.alone i) := by
  cases o <;> rfl

theorem alone_settlement (result : Except Failure (Torrent × Path)) :
    (s.alone i).settlement result = (s.settlement result).filterMap (Edit.alone i) := by
  rcases result with e | ⟨torrent, path⟩
  · rfl
  · cases path <;> rfl

theorem alone_turning (turn : Turn (Step Progress (Except Failure (Torrent × Path)))) :
    (s.alone i).turning 0 (turn.renumber (only i) (Step.map (Progress.renumber (only i)))) =
      (s.turning i turn).filterMap (Edit.alone i) := by
  obtain ⟨acts, result⟩ := turn
  have stopped := s.alone_isStopped i acts
  have follows : (s.alone i).followUp 0
      (Turn.renumber (only i) (Step.map (Progress.renumber (only i))) ⟨acts, result⟩) =
        (s.followUp i ⟨acts, result⟩).filterMap (Edit.alone i) := by
    unfold followUp
    rcases result with crash | progress | result
    · rfl
    · simp only [Turn.renumber, Except.map, Step.map, stopped]
      cases s.isStopped i acts <;> rfl
    · simp only [Turn.renumber, Except.map, Step.map, stopped]
      cases s.isStopped i acts with
      | false => exact s.alone_settlement i result
      | true => exact s.alone_conclusion i .cancelled
  rw [turning, turning, follows, List.filterMap_append, ← s.alone_doing]
  rfl

/-- A turn comes to the same, except that it has no other submission cancelled. -/
theorem alone_polling : (s.alone i).polling 0 now = (s.polling i now).filterMap (Edit.alone i) := by
  unfold polling
  rw [alone_turn?]
  cases s.turn? now with
  | none => rfl
  | some turn =>
    change (if s.cancelled then _ else _) = _
    cases cancelled : s.cancelled with
    | true => simpa [cancelled] using s.alone_conclusion i .cancelled
    | false => simpa [cancelled] using s.alone_turning i turn

theorem alone_hearing : (s.alone i).hearing = s.hearing.filterMap (Edit.alone i) := by
  rcases s with ⟨id, request, resolver, fresh | progress | o | _, cancelled, held⟩ <;> rfl

theorem alone_amended (edits : List Edit) :
    (s.alone i).amended 0 0 (edits.filterMap (Edit.alone i)) = (s.amended i i edits).alone i := by
  induction edits generalizing s with
  | nil => rfl
  | cons e rest ih =>
    refine Eq.trans ?_ (ih (s.edited i i e))
    cases e with
    | task task =>
      rw [edited, if_pos rfl]
      rfl
    | cancel k =>
      by_cases own : k = i
      · subst own
        rw [List.filterMap_cons_some (Edit.alone_own k), edited]
        simp only [amended, List.foldl_cons, edited]
        cases held : s.held <;> simp [alone, held]
      · rw [List.filterMap_cons_none (Edit.alone_other own), edited]
        simp [own]
    | _ => rfl

theorem alone_facts (edits : List Edit) : (s.alone i).facts (edits.filterMap (Edit.alone i)) = s.facts edits := by
  induction edits with
  | nil => rfl
  | cons e rest ih =>
    have more : s.facts (e :: rest) = e.facts 0 s.resolver.metered ++ s.facts rest := List.flatMap_cons
    rw [more, ← ih]
    cases e with
    | cancel k =>
      by_cases own : k = i
      · subst own
        rw [List.filterMap_cons_some (Edit.alone_own k)]
        rfl
      · rw [List.filterMap_cons_none (Edit.alone_other own)]
        rfl
    | _ => rfl

end Submission

/-! ### Dossiers -/

namespace Dossier

def alone (x : Dossier) (i : Nat) : Dossier := ⟨x.submission.alone i, x.past⟩

variable (x : Dossier) (i now : Nat)

theorem alone_amend (edits : List Edit) :
    (x.amend i now edits).alone i = (x.alone i).amend 0 now (edits.filterMap (Edit.alone i)) := by
  simp only [alone, amend, Submission.alone_amended, Submission.alone_facts]

theorem alone_cancelledBy (c : Option Cancellation) : (x.alone i).cancelledBy c now = x.cancelledBy c now := by
  rw [cancelledBy, cancelledBy, ← x.submission.task.renumber_isDue (only i)]
  rfl

end Dossier

/-! ### Desks -/

namespace Desk

variable {d e f : Desk} {i k : Nat} {x : Dossier} {m : Move} {c : Option Cancellation}

/-- All that has happened to submission `i` at the desk `d` has happened to the only submission at the
desk `e`, which has no turn to come if `i` has none. -/
structure Twin (i : Nat) (d e : Desk) : Prop where
  now : e.now = d.now
  dossier : ∃ x, d.dossier? i = some x ∧ e.dossier? 0 = some (x.alone i)
  single : e.submissions.length = 1
  awake : 0 ∈ e.awake → d.isLive i = true ∧ i ∈ d.awake

theorem amend_length (d : Desk) (k : Nat) (edits : List Edit) :
    (d.amend k edits).submissions.length = d.submissions.length := by
  induction edits generalizing d with
  | nil => rfl
  | cons x rest ih => rw [amend_cons, ih, edit_length]

theorem retiring_asleep (d : Desk) (k : Nat) (edits : List Edit) (task : Task) :
    k ∉ (d.amend k (edits ++ Submission.retiring task)).awake := by
  rw [amend_append]
  simp [amend, Submission.retiring, edit, unwake]

theorem conclusion_asleep (d : Desk) (k : Nat) (edits : List Edit) (s : Submission) (o : Outcome) :
    k ∉ (d.amend k (edits ++ s.conclusion o)).awake := by
  rw [Submission.conclusion, ← List.append_assoc]
  exact retiring_asleep d k _ _

/-- A task that is awake again after its turn goes on, and was cancelled in it. -/
theorem turn_sleeps (asleep : k ∉ d.awake) (awake : k ∈ (d.poll k).awake) :
    (d.poll k).isLive k = true ∧ (d.poll k).isCancelled k = true := by
  cases found : d.submissions[k]? with
  | none =>
    rw [poll, found] at awake
    exact (asleep awake).elim
  | some s =>
    rw [poll_eq_amend found] at awake ⊢
    have record := amend_submissions d k k (s.polling k d.now)
    rw [found, Option.map_some] at record
    rw [isLive, isCancelled, record, Option.any_some, Option.any_some]
    cases ended : s.task.isFinished with
    | true =>
      rw [s.polling_finished ended] at awake
      exact (asleep awake).elim
    | false =>
      cases cancelled : s.cancelled with
      | true =>
        rw [s.polling_cancelled cancelled ended] at awake
        exact (conclusion_asleep d k [] s .cancelled awake).elim
      | false =>
        obtain ⟨⟨acts, result⟩, turning⟩ := Submission.polling_live cancelled ended k d.now
        rw [turning, Submission.turning] at awake ⊢
        unfold Submission.followUp at awake ⊢
        rcases result with crash | progress | result
        · exact (retiring_asleep d k (_ ++ _ :: s.closing _) _ (by simpa [Submission.abandonment] using awake)).elim
        · rw [Submission.amended_append, Submission.amended_doing]
          cases stopped : s.isStopped k acts with
          | true => simp [Submission.amended, Submission.edited, Task.isFinished]
          | false =>
            simp only [stopped, amend_append] at awake
            simp [amend, edit, unwake] at awake
        · dsimp only at awake
          split at awake
          · exact (conclusion_asleep d k _ s .cancelled awake).elim
          · rcases result with e | ⟨torrent, path⟩
            · exact (conclusion_asleep d k (_ ++ [_]) s (.failed e)
                (by simpa [Submission.settlement] using awake)).elim
            · exact (conclusion_asleep d k (_ ++ (_ ++ [_])) s (.resolved torrent)
                (by simpa [Submission.settlement] using awake)).elim

theorem poll_twin (now : e.now = d.now) (opened : d.dossier? i = some x) (alone : e.dossier? 0 = some (x.alone i))
    (single : e.submissions.length = 1) (alert : (d.poll i).Alert) : Twin i (d.poll i) ((e.unwake 0).poll 0) := by
  have before : (e.unwake 0).dossier? 0 = some (x.alone i) := alone
  have after : (d.poll i).dossier? i = some (x.amend i d.now (x.submission.polling i d.now)) := poll_dossier opened
  have same : ((e.unwake 0).poll 0).dossier? 0 =
      some ((x.amend i d.now (x.submission.polling i d.now)).alone i) := by
    rw [Dossier.alone_amend, ← Submission.alone_polling, ← now]
    exact poll_dossier before
  refine ⟨?_, ⟨_, after, same⟩, ?_, fun awake => ?_⟩
  · have still := step_now (d := d) (m := .poll i) (by simp)
    exact (step_now (d := e.unwake 0) (m := .poll 0) (by simp)).trans (now.trans still.symm)
  · rw [poll_eq_amend (dossier?_eq_some.mp before).1, amend_length]
    exact single
  · obtain ⟨live, cancelled⟩ := turn_sleeps (by simp [unwake]) awake
    rw [isLive_of_dossier same, Dossier.alone, Submission.alone, Task.renumber_isFinished] at live
    rw [isCancelled_of_dossier same] at cancelled
    exact ⟨by rw [isLive_of_dossier after, live], alert.wakes after (by simpa using live) cancelled⟩

/-- What else happens to the submission can happen to it where it is the only one, unless nothing does. -/
theorem step_twin (twin : Twin i d e) (timeless : ∀ ms, m ≠ .wait ms) (other : m ≠ .poll i)
    (kept : m.Drops i → d.isLive i = false) (alert : (d.step m).Alert) :
    ∃ f, (f = e ∨ Tick 0 e f) ∧ Twin i (d.step m) f := by
  obtain ⟨x, opened, alone⟩ := twin.dossier
  obtain ⟨y, after, moved⟩ := step_dossier m opened
  have now : e.now = (d.step m).now := twin.now.trans (step_now timeless).symm
  have found := (dossier?_eq_some.mp alone).1
  -- The others leave the submission alone, or have it cancelled, which its owner can do as well.
  have stays : 0 ∈ e.awake → (d.step m).isLive i = true ∧ i ∈ (d.step m).awake := by
    intro woken
    obtain ⟨live, awake⟩ := twin.awake woken
    have unkept : ¬ m.Drops i := fun drops => by cases live.symm.trans (kept drops)
    refine ⟨?_, step_stays_awake (dossier?_eq_some.mp opened).1 awake other unkept⟩
    rw [isLive_of_dossier opened, Bool.not_eq_true'] at live
    rw [isLive_of_dossier after, moved.live unkept other live]
    rfl
  have tick : ∀ n : Move, (∀ ms, n ≠ .wait ms) → ¬ n.Drops 0 → Tick 0 e (e.step n) := fun n => .move e n
  cases moved with
  | kept => exact ⟨e, Or.inl rfl, now, ⟨x, after, alone⟩, twin.single, stays⟩
  | cancelled held =>
    refine ⟨_, Or.inr (tick (.cancel 0) (by simp) (by simp [Move.Drops])), ?_, ⟨_, after, cancelHeld_own alone held⟩,
      (edit_length e 0 (.cancel 0)).trans twin.single, fun awake => ?_⟩
    · exact (step_now (m := .cancel 0) (by simp)).trans now
    · cases ended : x.submission.task.isFinished with
      | false => exact ⟨by rw [isLive_of_dossier after]; exact congrArg (!·) ended, alert.wakes after ended rfl⟩
      | true =>
        have finished : (x.alone i).submission.task.isFinished = true :=
          (x.submission.task.renumber_isFinished (only i)).trans ended
        rw [step, cancelHeld_finished found held finished] at awake
        exact stays awake
  | released move =>
    refine ⟨_, Or.inr (tick (.release 0) (by simp) (by simp [Move.Drops])), now, ⟨_, after, ?_⟩, ?_, stays⟩
    · rw [dossier?_eq_some, step, release, update_submissions, found]
      exact ⟨rfl, (dossier?_eq_some.mp alone).2⟩
    · rw [step, release, update, List.length_modify]
      exact twin.single
  | heard move =>
    have told : e.step (.hear 0) = e.amend 0 (x.alone i).submission.hearing := hear_eq_amend found
    refine ⟨_, Or.inr (tick (.hear 0) (by simp) (by simp [Move.Drops])), ?_, ⟨_, after, ?_⟩, ?_, fun awake => stays ?_⟩
    · exact (step_now (m := .hear 0) (by simp)).trans now
    · rw [told, amend_dossier alone, twin.now, Dossier.alone_amend, ← Submission.alone_hearing]
      rfl
    · rw [told, amend_length]
      exact twin.single
    · rw [told] at awake
      unfold Submission.hearing at awake
      split at awake <;> exact awake
  | polled move => exact (other move).elim
  | dropped move live =>
    have ended := kept move
    rw [isLive_of_dossier opened, live] at ended
    cases ended

theorem pass_twin (twin : Twin i d e) {ms : Nat} {woken : List Nat} (asleep : i ∉ d.awake)
    (stops : ∀ t ∈ d.instantsOf i, d.now < t → d.now + ms ≤ t) (wakes : d.now + ms ∈ d.instantsOf i → i ∈ woken) :
    ∃ f, Tick 0 e f ∧ Twin i (woken.foldl wake (d.wait ms)) f := by
  obtain ⟨x, opened, alone⟩ := twin.dossier
  have instants : e.instantsOf 0 = d.instantsOf i := by
    rw [instantsOf, instantsOf, (dossier?_eq_some.mp opened).1, (dossier?_eq_some.mp alone).1]
    exact x.submission.task.renumber_instants (only i)
  have sleeping : 0 ∉ e.awake := fun awake => asleep (twin.awake awake).2
  rw [← instants, ← twin.now] at stops wakes
  have tick := Tick.pass e ms (if i ∈ woken then [0] else []) sleeping stops fun due => by simp [wakes due]
  refine ⟨_, tick, ?_, ⟨x, (pass_dossier d i ms woken).trans opened, (pass_dossier e 0 ms _).trans alone⟩, ?_, ?_⟩
  · rw [wakes_now, wakes_now]
    exact congrArg (· + ms) twin.now
  · rw [wakes_submissions]
    exact twin.single
  · intro awake
    by_cases member : i ∈ woken
    · rw [if_pos member] at awake
      have same : e.isLive 0 = d.isLive i := by
        rw [isLive_of_dossier alone, isLive_of_dossier opened, Dossier.alone, Submission.alone,
          Task.renumber_isFinished]
      have live : d.isLive i = true := by
        by_contra ended
        have still : (e.wait ms).isLive 0 = false := same.trans (Bool.eq_false_iff.mpr ended)
        rw [List.foldl_cons, List.foldl_nil, wake, still] at awake
        exact sleeping awake
      refine ⟨?_, wakes_awake (d := d.wait ms) live (Or.inr member)⟩
      rw [isLive, wakes_submissions]
      exact live
    · rw [if_neg member] at awake
      exact (sleeping awake).elim

theorem tick_twin (tick : Tick i d f) (twin : Twin i d e) (alert : f.Alert) :
    ∃ g, (g = e ∨ Tick 0 e g) ∧ Twin i f g := by
  obtain ⟨x, opened, alone⟩ := twin.dossier
  cases tick with
  | move m timeless kept =>
    by_cases own : m = .poll i
    · subst own
      exact ⟨_, Or.inr (.turn e 0), poll_twin twin.now opened alone twin.single alert⟩
    · exact step_twin twin timeless own (fun drops => (kept drops).elim) alert
  | turn k =>
    by_cases own : k = i
    · subst own
      exact ⟨_, Or.inr (.turn e 0), poll_twin (d := d.unwake k) twin.now opened alone twin.single alert⟩
    · have others : Twin i (d.unwake k) e := by
        refine ⟨twin.now, ⟨x, opened, alone⟩, twin.single, fun awake => ⟨(twin.awake awake).1, ?_⟩⟩
        simpa [unwake, Ne.symm own] using (twin.awake awake).2
      exact step_twin (m := .poll k) others (by simp) (by simpa using own) (by simp [Move.Drops]) alert
  | pass ms woken asleep stops wakes =>
    obtain ⟨g, ticks, after⟩ := pass_twin twin asleep stops wakes
    exact ⟨g, Or.inr ticks, after⟩

/-! ### Courses -/

/-- All cancellations of the course are known. -/
theorem Course.steady {d₀ : Desk} (course : Course i d₀ c d) (uncancelled : d₀.isCancelled i = false) :
    cancelledBy c d i = c := by
  have again : ∀ (c : Option Cancellation) (d : Desk), cancelledBy (cancelledBy c d i) d i = cancelledBy c d i := by
    intro c d
    rw [cancelledBy, cancelledBy, Option.or_assoc, Option.or_self]
  cases course with
  | begins =>
    rw [cancelledBy, uncancelled]
    rfl
  | ticks course tick => exact again _ _
  | drops course m drops complete => exact again _ _

theorem Twin.cancelledBy (twin : Twin i d e) (c : Option Cancellation) : cancelledBy c d i = cancelledBy c e 0 := by
  obtain ⟨x, opened, alone⟩ := twin.dossier
  rw [cancelledBy_of_dossier opened, cancelledBy_of_dossier alone, twin.now, x.alone_cancelledBy]

/-- The course of a submission is one that it can take where it is the only one. -/
theorem Course.twin {d₀ e₀ : Desk} (course : Course i d₀ c d) (alert : d₀.Alert) (twin : Twin i d₀ e₀)
    (uncancelled : e₀.isCancelled 0 = false) : d.Alert ∧ ∃ e, Course 0 e₀ c e ∧ Twin i d e := by
  -- What happens to the others is nothing where they are not.
  have follow : ∀ {c : Option Cancellation} {f e g : Desk}, Course 0 e₀ c e → g = e ∨ Tick 0 e g → Twin i f g →
      Course 0 e₀ (Desk.cancelledBy c f i) g := by
    intro c f e g course stays after
    rw [after.cancelledBy]
    rcases stays with rfl | tick
    · rwa [course.steady uncancelled]
    · exact course.ticks tick
  induction course with
  | begins => exact ⟨alert, e₀, .begins, twin⟩
  | ticks course tick ih =>
    obtain ⟨vigilant, e, alone, before⟩ := ih
    have still := tick.alert vigilant
    obtain ⟨g, stays, after⟩ := tick_twin tick before still
    exact ⟨still, g, follow alone stays after, after⟩
  | drops course m drops complete ih =>
    obtain ⟨vigilant, e, alone, before⟩ := ih
    have still := step_alert vigilant m
    obtain ⟨g, stays, after⟩ := step_twin before (by rcases drops with rfl | rfl <;> simp)
      (by rcases drops with rfl | rfl <;> simp) (fun _ => complete) still
    exact ⟨still, g, follow alone stays after, after⟩

end Desk

end TorrentAdmission
