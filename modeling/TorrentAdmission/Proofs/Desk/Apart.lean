import TorrentAdmission.Proofs.Desk.Awake
import TorrentAdmission.Proofs.Desk.Effect
import TorrentAdmission.Proofs.Resolution.Answers

/-!
# Submissions apart

Some submissions at a desk are looked at and the others are hidden. Two desks are alike if nobody who
looks can tell them apart, save by the numbers of the events. Moves keep desks alike, and a move that
only concerns a hidden submission is not seen at all, as long as no answer to the hidden ones cancels
one that is looked at: `run_alike`.
-/

namespace TorrentAdmission

/-! ### What a task waits for -/

namespace Submission

theorem polling_waits {s : Submission} {i now : Nat} {progress : Progress}
    (resolving : (s.amended i i (s.polling i now)).task = .resolving progress) :
    ∃ turn, s.turn? now = some turn ∧ turn.result = .ok (.waiting progress) := by
  unfold polling at resolving
  cases due : s.turn? now with
  | none =>
    rw [due] at resolving
    simp only [amended, List.foldl_nil] at resolving
    rw [turn?, resolving] at due
    cases due
  | some turn =>
    refine ⟨turn, rfl, ?_⟩
    obtain ⟨acts, result⟩ := turn
    simp only [due] at resolving
    split at resolving
    · rw [conclusion_task] at resolving
      cases resolving
    · rw [turning, amended_append, followUp] at resolving
      rcases result with crash | other | result
      · simp only [abandonment_task] at resolving
        cases resolving
      · simp only [amended_append] at resolving
        cases stopped : s.isStopped i acts <;>
          simp [stopped, amended, edited] at resolving <;> rw [resolving]
      · dsimp only at resolving
        split at resolving
        · rw [conclusion_task] at resolving
          cases resolving
        · rw [amended_settlement] at resolving
          cases resolving

end Submission

/-! ### Hidden submissions that cancel none that are seen -/

variable {T : Nat → Prop}

/-- The lookup waits for no answer that cancels a submission outside `T`, if the backend has none. -/
def Dossier.Spares (T : Nat → Prop) (x : Dossier) : Prop :=
  x.submission.resolver.backend.Spares T x.submission.id →
    ∀ progress, x.submission.task = .resolving progress → progress.Spares T

theorem Submission.turn_meets {s : Submission} {now : Nat}
    {turn : Turn (Step Progress (Except Failure (Torrent × Path)))}
    (known : s.resolver.backend.Spares T s.id)
    (waits : ∀ progress, s.task = .resolving progress → progress.Spares T)
    (due : s.turn? now = some turn) : turn.Meets (Act.Spares T) (Step.Rests (·.Spares T)) := by
  unfold turn? at due
  split at due
  · obtain rfl := Option.some.inj due
    exact (s.lookup now).start_meets known s.source
  · rename_i progress resolving
    obtain rfl := Option.some.inj due
    exact (s.lookup now).resume_meets known s.source (waits progress resolving)
  · cases due
  · cases due

theorem Dossier.opened_spares {s : Submission} {now : Nat} (fresh : s.task = .fresh) :
    (opened s now).Spares T := by
  intro _ progress resolving
  cases fresh.symm.trans resolving

theorem Dossier.Step.spares {m : Move} {i now : Nat} {x y : Dossier} (step : x.Step m i now y)
    (spares : x.Spares T) : y.Spares T := by
  cases step with
  | kept => exact spares
  | cancelled held => exact spares
  | released move => exact spares
  | heard move =>
    intro known progress resolving
    simp only [amend, Submission.amended_hearing] at known resolving
    exact spares known progress resolving
  | polled move =>
    intro known progress resolving
    have terms := x.submission.amended_terms i i (x.submission.polling i now)
    have same : x.submission.resolver.backend.Spares T x.submission.id := by
      rw [← Submission.resolver_of_terms terms, ← Submission.id_of_terms terms]
      exact known
    obtain ⟨turn, due, waiting⟩ := Submission.polling_waits resolving
    exact (Submission.turn_meets same (spares same) due).result _ waiting
  | dropped move live =>
    intro known progress resolving
    simp only [amend, Submission.abandonment_task] at resolving
    cases resolving

/-- The turn of a submission whose answers cancel none but those in `T` cancels none but those in `T`. -/
theorem Submission.polling_spares {s : Submission} {i now : Nat}
    (known : s.resolver.backend.Spares T s.id)
    (waits : ∀ progress, s.task = .resolving progress → progress.Spares T) {n : Nat}
    (member : Edit.cancel n ∈ s.polling i now) : T n := by
  have ending : ∀ o, Edit.cancel n ∉ s.conclusion o := by
    intro o
    cases o <;> simp [conclusion, closing, retiring]
  unfold polling at member
  cases due : s.turn? now with
  | none =>
    rw [due] at member
    cases member
  | some turn =>
    simp only [due] at member
    split at member
    · exact (ending _ member).elim
    · rcases List.mem_append.mp member with acted | followed
      · obtain ⟨act, done, same⟩ := List.mem_map.mp acted
        have spared := (turn_meets known waits due).acts act done
        cases act <;> cases same
        exact spared
      · apply absurd followed
        unfold followUp
        split
        · simp [abandonment, closing, retiring]
        · split <;> simp
        · split
          · exact ending _
          · rename_i result _ _
            rcases result with e | ⟨torrent, path⟩
            · simp [settlement, ending]
            · cases path <;> simp [settlement, ending]

/-! ### Desks that look alike -/

/-- Two desks look alike to those who see only some submissions. -/
structure Desk.Alike (seen : Nat → Bool) (d e : Desk) : Prop where
  surroundings : d.surroundings = e.surroundings
  length : d.submissions.length = e.submissions.length
  records : ∀ i, seen i = true → d.submissions[i]? = e.submissions[i]?
  chronicles : ∀ i, seen i = true → d.chronicle i = e.chronicle i
  awake : d.awake.filter seen = e.awake.filter seen

/-- The move concerns no hidden submission in particular. -/
def Move.shown (seen : Nat → Bool) : Move → Bool
  | .poll i => seen i
  | .wake i => seen i
  | .cancel i => seen i
  | .release i => seen i
  | .hear i => seen i
  | .tearDown i => seen i
  | _ => true

namespace Desk

variable {seen : Nat → Bool} {d e : Desk} {i k : Nat} {s : Submission}

namespace Alike

theorem refl (d : Desk) : Alike seen d d := ⟨rfl, rfl, fun _ _ => rfl, fun _ _ => rfl, rfl⟩

theorem symm (alike : Alike seen d e) : Alike seen e d :=
  ⟨alike.surroundings.symm, alike.length.symm, fun i shown => (alike.records i shown).symm,
    fun i shown => (alike.chronicles i shown).symm, alike.awake.symm⟩

theorem trans {f : Desk} (first : Alike seen d e) (second : Alike seen e f) : Alike seen d f :=
  ⟨first.surroundings.trans second.surroundings, first.length.trans second.length,
    fun i shown => (first.records i shown).trans (second.records i shown),
    fun i shown => (first.chronicles i shown).trans (second.chronicles i shown),
    first.awake.trans second.awake⟩

theorem now (alike : Alike seen d e) : d.now = e.now := congrArg Prod.fst alike.surroundings

theorem running (alike : Alike seen d e) : d.running = e.running :=
  congrArg (fun s => s.2.1) alike.surroundings

theorem outside (alike : Alike seen d e) : d.outside = e.outside :=
  congrArg (fun s => s.2.2) alike.surroundings

end Alike

/-! ### Single edits -/

theorem wake_awake (d : Desk) (k : Nat) : (d.wake k).awake.filter seen =
    d.awake.filter seen ++
      if seen k && (d.isLive k && !(d.awake.filter seen).contains k) then [k] else [] := by
  unfold wake
  cases shown : seen k with
  | false => split <;> simp [shown]
  | true =>
    have member : (d.awake.filter seen).contains k = d.awake.contains k := by
      simp [shown]
    rw [member, Bool.true_and]
    split <;> simp [shown]

theorem cancelHeld_awake (d : Desk) (k : Nat) : (d.cancelHeld k).awake.filter seen =
    d.awake.filter seen ++
      if seen k && (d.submissions[k]?.any (·.held) && d.isLive k && !(d.awake.filter seen).contains k) then
        [k]
      else [] := by
  unfold cancelHeld cancel
  cases held : d.submissions[k]?.any (·.held) with
  | false => simp
  | true =>
    simp only [if_true, wake_awake, update_isLive, Bool.true_and]
    rfl

theorem edit_both (alike : Alike seen d e) (left : d.submissions[k]? = some s)
    (right : e.submissions[k]? = some s) (x : Edit) : Alike seen (d.edit k x) (e.edit k x) := by
  have live : ∀ n, seen n = true → d.isLive n = e.isLive n := by
    intro n shown
    rw [isLive, isLive, alike.records n shown]
  refine ⟨?_, ?_, ?_, ?_, ?_⟩
  · rw [edit_surroundings, edit_surroundings, alike.surroundings]
  · rw [edit_length, edit_length, alike.length]
  · intro i shown
    rw [edit_submissions, edit_submissions, alike.records i shown]
  · intro i shown
    rw [edit_chronicle left, edit_chronicle right, alike.chronicles i shown, alike.now]
  · cases x with
    | wake =>
      simp only [edit, wake_awake, alike.awake]
      cases shown : seen k with
      | false => rfl
      | true => rw [live k shown]
    | unwake =>
      simp only [edit, unwake, List.filter_filter, Bool.and_comm (seen _)]
      simp only [← List.filter_filter, alike.awake]
    | cancel n =>
      simp only [edit, cancelHeld_awake, alike.awake]
      cases shown : seen n with
      | false => rfl
      | true => rw [live n shown, alike.records n shown]
    | count what => simpa [edit, count_awake] using alike.awake
    | announce event => simpa [edit, announce, count_awake, record] using alike.awake
    | _ => exact alike.awake

theorem amend_both (alike : Alike seen d e) (left : d.submissions[k]? = some s)
    (right : e.submissions[k]? = some s) (edits : List Edit) :
    Alike seen (d.amend k edits) (e.amend k edits) := by
  induction edits generalizing d e s with
  | nil => exact alike
  | cons x rest ih =>
    have kept := edit_submissions d k k x
    have same := edit_submissions e k k x
    rw [left, Option.map_some] at kept
    rw [right, Option.map_some] at same
    exact ih (edit_both alike left right x) kept same

theorem edit_hidden (hidden : seen k = false) (found : d.submissions[k]? = some s) (x : Edit)
    (spares : ∀ n, x = .cancel n → seen n = false) : Alike seen d (d.edit k x) := by
  have other : ∀ i, seen i = true → k ≠ i := by
    rintro i shown rfl
    rw [hidden] at shown
    cases shown
  refine ⟨(edit_surroundings d k x).symm, (edit_length d k x).symm, ?_, ?_, ?_⟩
  · intro i shown
    rw [edit_submissions]
    cases x with
    | task task => simp [Submission.edited, other i shown]
    | cancel n =>
      have apart : n ≠ i := by
        rintro rfl
        rw [spares n rfl] at shown
        cases shown
      simp [Submission.edited, apart]
    | _ => simp [Submission.edited]
  · intro i shown
    rw [edit_chronicle found, if_neg (other i shown), List.append_nil]
  · cases x with
    | wake => simp [edit, wake_awake, hidden]
    | unwake =>
      simp only [edit, unwake, List.filter_filter]
      refine List.filter_congr fun i _ => ?_
      cases shown : seen i with
      | false => rfl
      | true => simp [Ne.symm (other i shown)]
    | cancel n => simp [edit, cancelHeld_awake, spares n rfl]
    | count what => simp [edit, count_awake]
    | announce event => simp [edit, announce, count_awake, record]
    | _ => rfl

theorem amend_hidden (hidden : seen k = false) (found : d.submissions[k]? = some s) {edits : List Edit}
    (spares : ∀ n, Edit.cancel n ∈ edits → seen n = false) : Alike seen d (d.amend k edits) := by
  induction edits generalizing d s with
  | nil => exact .refl d
  | cons x rest ih =>
    have kept := edit_submissions d k k x
    rw [found, Option.map_some] at kept
    have first := edit_hidden hidden found x fun n same => spares n (same ▸ List.mem_cons_self)
    exact first.trans (ih kept fun n member => spares n (List.mem_cons_of_mem x member))

/-! ### Moves -/

theorem abandonment_spares (s : Submission) (n : Nat) : Edit.cancel n ∉ s.abandonment := by
  simp [Submission.abandonment, Submission.closing, Submission.retiring]

theorem hearing_spares (s : Submission) (n : Nat) : Edit.cancel n ∉ s.hearing := by
  unfold Submission.hearing
  split <;> simp

theorem tearDown_hidden (hidden : seen k = false) : Alike seen d (d.tearDown k) := by
  cases found : d.submissions[k]? with
  | none => simpa [tearDown, isLive, found] using Alike.refl d
  | some s =>
    rw [tearDown_eq_amend found]
    refine amend_hidden hidden found fun n member => ?_
    split at member
    · cases member
    · exact (abandonment_spares s n member).elim

theorem tearDown_same (alike : Alike seen d e) (same : d.submissions[k]? = e.submissions[k]?) :
    Alike seen (d.tearDown k) (e.tearDown k) := by
  cases right : e.submissions[k]? with
  | none => simpa [tearDown, isLive, same, right] using alike
  | some s =>
    rw [tearDown_eq_amend (same.trans right), tearDown_eq_amend right]
    exact amend_both alike (same.trans right) right _

theorem tearDown_alike (alike : Alike seen d e) (k : Nat) : Alike seen (d.tearDown k) (e.tearDown k) := by
  cases shown : seen k with
  | true => exact tearDown_same alike (alike.records k shown)
  | false => exact (tearDown_hidden shown).symm.trans (alike.trans (tearDown_hidden shown))

theorem tearDowns_alike (alike : Alike seen d e) (ks : List Nat) :
    Alike seen (ks.foldl tearDown d) (ks.foldl tearDown e) := by
  induction ks generalizing d e with
  | nil => exact alike
  | cons k rest ih => exact ih (tearDown_alike alike k)

theorem enrol_alike (alike : Alike seen d e) (s : Submission) : Alike seen (d.enrol s) (e.enrol s) := by
  refine ⟨alike.surroundings, ?_, ?_, alike.chronicles, ?_⟩
  · simp [enrol, alike.length]
  · intro i shown
    simp only [enrol, List.getElem?_append, alike.length, alike.records i shown]
  · simp only [enrol, List.filter_append, alike.awake, alike.length]

theorem submit_alike (alike : Alike seen d e) (resolver : Resolver) (id : Uuid) (request : Request) :
    Alike seen (d.submit resolver id request) (e.submit resolver id request) := by
  have incoming : d.incoming resolver id request = e.incoming resolver id request := by
    rw [Desk.incoming, Desk.incoming, alike.running]
  have right := enrol_submissions e (e.incoming resolver id request)
  have left := enrol_submissions d (e.incoming resolver id request)
  rw [alike.length] at left
  have accepted := amend_both (enrol_alike alike _) left right (e.incoming resolver id request).opening
  simp only [submit_eq_amend, alike.outside, alike.running, alike.length, incoming]
  split
  · exact alike
  · split
    · exact accepted
    · apply tearDown_same accepted
      rw [amend_submissions, amend_submissions, left, right]

theorem release_alike (alike : Alike seen d e) (k : Nat) : Alike seen (d.release k) (e.release k) := by
  refine ⟨alike.surroundings, ?_, ?_, alike.chronicles, alike.awake⟩
  · simp [release, update, alike.length]
  · intro i shown
    rw [release, release, update_submissions, update_submissions, alike.records i shown]

theorem step_alike (alike : Alike seen d e) {m : Move} (shown : m.shown seen = true) :
    Alike seen (d.step m) (e.step m) := by
  cases m with
  | submit resolver id request => exact submit_alike alike resolver id request
  | poll k =>
    have same := alike.records k shown
    cases right : e.submissions[k]? with
    | none => simpa [step, poll, same, right] using alike
    | some s =>
      simp only [step, poll_eq_amend right, poll_eq_amend (same.trans right), alike.now]
      exact amend_both alike (same.trans right) right _
  | wake k =>
    have same := alike.records k shown
    cases right : e.submissions[k]? with
    | none => simpa [step, wake, isLive, same, right] using alike
    | some s => exact edit_both alike (same.trans right) right .wake
  | cancel k =>
    have same := alike.records k shown
    cases right : e.submissions[k]? with
    | none => simpa [step, cancelHeld_of_none right, cancelHeld_of_none (same.trans right)] using alike
    | some s => exact edit_both alike (same.trans right) right (.cancel k)
  | release k => exact release_alike alike k
  | hear k =>
    have same := alike.records k shown
    cases right : e.submissions[k]? with
    | none => simpa [step, hear, same, right] using alike
    | some s =>
      simp only [step, hear_eq_amend right, hear_eq_amend (same.trans right)]
      exact amend_both alike (same.trans right) right _
  | tearDown k => exact tearDown_alike alike k
  | wait ms =>
    have surroundings := alike.surroundings
    simp only [Desk.surroundings, Prod.mk.injEq] at surroundings
    exact ⟨by simp [step, wait, Desk.surroundings, surroundings], alike.length, alike.records,
      alike.chronicles, alike.awake⟩
  | hold =>
    have surroundings := alike.surroundings
    simp only [Desk.surroundings, Prod.mk.injEq] at surroundings
    simp only [step, hold, alike.outside]
    split
    · exact alike
    · exact ⟨by simp [Desk.surroundings, surroundings], alike.length, alike.records, alike.chronicles,
        alike.awake⟩
  | letGo =>
    have surroundings := alike.surroundings
    simp only [Desk.surroundings, Prod.mk.injEq] at surroundings
    simp only [step, letGo, alike.outside]
    split
    · exact alike
    · exact ⟨by simp [Desk.surroundings, surroundings], alike.length, alike.records, alike.chronicles,
        alike.awake⟩
  | shutDown =>
    have surroundings := alike.surroundings
    simp only [Desk.surroundings, Prod.mk.injEq] at surroundings
    simp only [step, shutDown, alike.length]
    refine tearDowns_alike ?_ _
    exact ⟨by simp [Desk.surroundings, surroundings], alike.length, alike.records, alike.chronicles,
      alike.awake⟩

/-- The turns of hidden submissions cancel none that are seen. -/
def Discreet (seen : Nat → Bool) (d : Desk) : Prop :=
  ∀ k s, seen k = false → d.submissions[k]? = some s →
    ∀ n, Edit.cancel n ∈ s.polling k d.now → seen n = false

theorem step_hidden (discreet : d.Discreet seen) {m : Move} (hidden : m.shown seen = false) :
    Alike seen d (d.step m) := by
  cases m with
  | poll k =>
    cases found : d.submissions[k]? with
    | none => simpa [step, poll, found] using Alike.refl d
    | some s =>
      rw [step, poll_eq_amend found]
      exact amend_hidden hidden found (discreet k s hidden found)
  | wake k =>
    cases found : d.submissions[k]? with
    | none => simpa [step, wake, isLive, found] using Alike.refl d
    | some s => exact edit_hidden hidden found .wake (by simp)
  | cancel k =>
    cases found : d.submissions[k]? with
    | none => simpa [step, cancelHeld_of_none found] using Alike.refl d
    | some s =>
      refine edit_hidden hidden found (.cancel k) fun n same => ?_
      cases same
      exact hidden
  | release k =>
    refine ⟨rfl, by simp [step, release, update], ?_, fun _ _ => rfl, rfl⟩
    intro i shown
    have other : k ≠ i := by
      rintro rfl
      rw [show seen k = false from hidden] at shown
      cases shown
    rw [step, release, update_submissions]
    simp [other]
  | hear k =>
    cases found : d.submissions[k]? with
    | none => simpa [step, hear, found] using Alike.refl d
    | some s =>
      rw [step, hear_eq_amend found]
      exact amend_hidden hidden found fun n member => (hearing_spares s n member).elim
  | tearDown k => exact tearDown_hidden hidden
  | _ => cases hidden

/-! ### Runs -/

/-- Hidden submissions whose answers cancel none that are seen are not seen themselves: a run looks
like the run without the moves that concern them. -/
theorem run_alike {bus : Bus Event} {before ms : List Move}
    (known : ∀ k s, seen k = false → ((Desk.new bus).run (before ++ ms)).submissions[k]? = some s →
      s.resolver.backend.Spares (seen · = false) s.id)
    (alike : Alike seen ((Desk.new bus).run before) e) :
    Alike seen ((Desk.new bus).run (before ++ ms)) (e.run (ms.filter (·.shown seen))) := by
  induction ms generalizing before e with
  | nil => simpa [run] using alike
  | cons m rest ih =>
    have split : before ++ m :: rest = before ++ [m] ++ rest := by simp
    rw [split] at known ⊢
    have stepped : (Desk.new bus).run (before ++ [m]) = ((Desk.new bus).run before).step m :=
      run_append _ before [m]
    cases shown : m.shown seen with
    | true =>
      rw [List.filter_cons_of_pos shown]
      apply ih known
      rw [stepped]
      exact step_alike alike shown
    | false =>
      rw [List.filter_cons_of_neg (by simp [shown])]
      apply ih known
      rw [stepped]
      refine (step_hidden ?_ shown).symm.trans alike
      intro k s hidden found n
      -- What is known of the backend is known at the end of the run, but terms never change.
      obtain ⟨t, last, same⟩ := run_terms found (m :: rest)
      have spares : (Dossier.mk s (((Desk.new bus).run before).chronicle k)).Spares (seen · = false) :=
        run_dossier (P := fun _ x => x.Spares (seen · = false))
          (fun _ _ s fresh _ => Dossier.opened_spares fresh) (fun _ _ _ _ _ step => step.spares) bus before
          k _ (dossier?_eq_some.mpr ⟨found, rfl⟩)
      have own : s.resolver.backend.Spares (seen · = false) s.id := by
        rw [← Submission.resolver_of_terms same, ← Submission.id_of_terms same]
        apply known k t hidden
        rw [← split, run_append]
        exact last
      exact Submission.polling_spares own (spares own)

end Desk

end TorrentAdmission
