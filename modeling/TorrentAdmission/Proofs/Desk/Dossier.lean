import TorrentAdmission.Proofs.Desk.Edit

/-!
# Dossiers

The dossier of a submission is its record together with all that has happened to it. However many
submissions there are, a move adds to a dossier in one of a few ways, which `Dossier.Step` lists. So
what is true of every dossier when it is opened, and stays true in each of these ways, is true of all
submissions after every run: `run_dossier`.
-/

namespace TorrentAdmission

/-- A fact without the number of its event, which depends on what else is published. -/
def Fact.unnumbered : Fact → Fact
  | .published entry => .published { entry with id := 0 }
  | fact => fact

theorem Edit.facts_unnumbered (e : Edit) (number : Nat) (metered : Bool) :
    (e.facts number metered).map Fact.unnumbered = e.facts 0 metered := by
  cases e with
  | count what => cases metered <;> rfl
  | announce event => cases metered <;> rfl
  | _ => rfl

namespace Submission

def facts (s : Submission) (edits : List Edit) : List Fact :=
  edits.flatMap (Edit.facts 0 s.resolver.metered)

@[simp] theorem facts_nil (s : Submission) : s.facts [] = [] := rfl

end Submission

namespace Desk

def chronicle (d : Desk) (i : Nat) : List (Nat × Fact) :=
  d.history.filterMap fun e => if e.submission = i then some (e.instant, e.fact.unnumbered) else none

variable {d : Desk} {i : Nat} {s : Submission}

theorem edit_chronicle (found : d.submissions[i]? = some s) (j : Nat) (e : Edit) :
    (d.edit i e).chronicle j =
      d.chronicle j ++ (if i = j then (e.facts 0 s.resolver.metered).map (d.now, ·) else []) := by
  rw [chronicle, edit_history found, List.filterMap_append, ← chronicle,
    ← e.facts_unnumbered d.bus.nextId, List.filterMap_map]
  split
  · rename_i own
    rw [List.map_map, ← List.filterMap_eq_map]
    congr 2
    funext fact
    exact if_pos own
  · rename_i other
    refine congrArg _ (List.filterMap_eq_nil_iff.mpr fun fact _ => ?_)
    exact if_neg other

theorem amend_chronicle (found : d.submissions[i]? = some s) (j : Nat) (edits : List Edit) :
    (d.amend i edits).chronicle j =
      d.chronicle j ++ (if i = j then (s.facts edits).map (d.now, ·) else []) := by
  induction edits generalizing d s with
  | nil => simp [amend]
  | cons e rest ih =>
    have kept := edit_submissions d i i e
    rw [found, Option.map_some] at kept
    have resolver : (s.edited i i e).resolver = s.resolver :=
      congrArg (·.2.2) (s.edited_terms i i e)
    rw [amend_cons, ih kept, edit_chronicle found, edit_now, List.append_assoc]
    congr 1
    split
    · simp [Submission.facts, resolver]
    · rfl

end Desk

structure Dossier where
  submission : Submission
  past : List (Nat × Fact)

namespace Dossier

/-- A dossier after edits that were made at the instant `now` on behalf of its submission `i`. -/
def amend (x : Dossier) (i now : Nat) (edits : List Edit) : Dossier :=
  ⟨x.submission.amended i i edits, x.past ++ (x.submission.facts edits).map (now, ·)⟩

theorem amend_nil (x : Dossier) (i now : Nat) : x.amend i now [] = x := by
  simp [amend, Submission.amended]

end Dossier

def Move.Drops (m : Move) (i : Nat) : Prop := m = .tearDown i ∨ m = .shutDown

/-- What a move that is made at the instant `now` may do to the dossier of submission `i`. -/
inductive Dossier.Step (m : Move) (i now : Nat) (x : Dossier) : Dossier → Prop where
  | kept : Step m i now x x
  | cancelled (held : x.submission.held = true) :
      Step m i now x ⟨{ x.submission with cancelled := true }, x.past⟩
  | released (move : m = .release i) : Step m i now x ⟨{ x.submission with held := false }, x.past⟩
  | heard (move : m = .hear i) : Step m i now x (x.amend i now x.submission.hearing)
  | polled (move : m = .poll i) : Step m i now x (x.amend i now (x.submission.polling i now))
  | dropped (move : m.Drops i) (live : x.submission.task.isFinished = false) :
      Step m i now x (x.amend i now x.submission.abandonment)

namespace Dossier

theorem Step.terms {m : Move} {i now : Nat} {x y : Dossier} (step : x.Step m i now y) :
    y.submission.terms = x.submission.terms := by
  cases step with
  | kept => rfl
  | cancelled held => rfl
  | released move => rfl
  | heard move => exact x.submission.amended_terms i i _
  | polled move => exact x.submission.amended_terms i i _
  | dropped move live => exact x.submission.amended_terms i i _

theorem Step.stays_cancelled {m : Move} {i now : Nat} {x y : Dossier} (step : x.Step m i now y)
    (cancelled : x.submission.cancelled = true) : y.submission.cancelled = true := by
  cases step with
  | kept => exact cancelled
  | cancelled held => rfl
  | released move => exact cancelled
  | heard move => exact Submission.amended_cancelled cancelled i i _
  | polled move => exact Submission.amended_cancelled cancelled i i _
  | dropped move live => exact Submission.amended_cancelled cancelled i i _

/-- The dossier of a submission that has just been accepted. -/
def opened (s : Submission) (now : Nat) : Dossier :=
  ⟨s, (s.facts s.opening).map (now, ·)⟩

def dropped (x : Dossier) (i now : Nat) : Dossier :=
  if x.submission.task.isFinished then x else x.amend i now x.submission.abandonment

theorem dropped_isFinished (x : Dossier) (i now : Nat) :
    (x.dropped i now).submission.task.isFinished = true := by
  unfold dropped
  split
  · assumption
  · simp [amend, Submission.abandonment, Submission.closing, Submission.retiring, Submission.amended,
      Submission.edited, Task.isFinished]

theorem dropped_dropped (x : Dossier) (i now : Nat) : (x.dropped i now).dropped i now = x.dropped i now :=
  if_pos (x.dropped_isFinished i now)

theorem step_dropped {m : Move} {i : Nat} (drops : m.Drops i) (x : Dossier) (now : Nat) :
    x.Step m i now (x.dropped i now) := by
  unfold dropped
  split
  · exact .kept
  · rename_i live
    exact .dropped drops (Bool.eq_false_iff.mpr live)

end Dossier

/-- The edits made on behalf of one submission do no more to the record of another than cancel it. -/
theorem Submission.amended_other {k i : Nat} (other : k ≠ i) (s : Submission) (edits : List Edit) :
    s.amended k i edits = s ∨ s.held = true ∧ s.amended k i edits = { s with cancelled := true } := by
  induction edits generalizing s with
  | nil => exact Or.inl rfl
  | cons e rest ih =>
    have head : s.edited k i e = s ∨ s.held = true ∧ s.edited k i e = { s with cancelled := true } := by
      cases e with
      | task task => exact Or.inl (if_neg other)
      | cancel n =>
        simp only [edited]
        split
        · rename_i marked
          exact Or.inr ⟨(Bool.and_eq_true _ _ ▸ marked).2, rfl⟩
        · exact Or.inl rfl
      | _ => exact Or.inl rfl
    have tail := ih (s.edited k i e)
    change (s.edited k i e).amended k i rest = _ ∨ _ ∧ (s.edited k i e).amended k i rest = _
    rcases head with same | ⟨held, marked⟩
    · rwa [same] at tail ⊢
    · rw [marked] at tail ⊢
      exact Or.inr ⟨held, tail.elim (fun same => same) And.right⟩

namespace Desk

def dossier? (d : Desk) (i : Nat) : Option Dossier :=
  d.submissions[i]?.map fun s => ⟨s, d.chronicle i⟩

variable {d : Desk} {i k : Nat} {s : Submission} {x : Dossier}

theorem dossier?_eq_some : d.dossier? i = some x ↔
    d.submissions[i]? = some x.submission ∧ d.chronicle i = x.past := by
  cases found : d.submissions[i]? with
  | none => simp [dossier?, found]
  | some s =>
    obtain ⟨t, past⟩ := x
    simp [dossier?, found]

theorem amend_dossier (opened : d.dossier? i = some x) (edits : List Edit) :
    (d.amend i edits).dossier? i = some (x.amend i d.now edits) := by
  obtain ⟨found, past⟩ := dossier?_eq_some.mp opened
  rw [dossier?_eq_some, amend_submissions, found, amend_chronicle found, past, if_pos rfl]
  exact ⟨rfl, rfl⟩

theorem poll_dossier (opened : d.dossier? i = some x) :
    (d.step (.poll i)).dossier? i = some (x.amend i d.now (x.submission.polling i d.now)) := by
  rw [step, poll_eq_amend (dossier?_eq_some.mp opened).1]
  exact amend_dossier opened _

theorem amend_dossier_other (m : Move) (other : k ≠ i) (found : d.submissions[k]? = some s)
    (opened : d.dossier? i = some x) (edits : List Edit) :
    ∃ y, (d.amend k edits).dossier? i = some y ∧ x.Step m i d.now y := by
  obtain ⟨record, past⟩ := dossier?_eq_some.mp opened
  refine ⟨⟨x.submission.amended k i edits, x.past⟩, ?_, ?_⟩
  · rw [dossier?_eq_some, amend_submissions, record, amend_chronicle found, past, if_neg other]
    simp
  · rcases x.submission.amended_other other edits with same | ⟨held, marked⟩
    · rw [same]
      exact .kept
    · rw [marked]
      exact .cancelled held

/-! ### Tasks that are dropped -/

theorem tearDown_now (d : Desk) (k : Nat) : (d.tearDown k).now = d.now := by
  cases found : d.submissions[k]? with
  | none => simp [tearDown, isLive, found]
  | some s => rw [tearDown_eq_amend found, amend_now]

theorem tearDown_dossier (opened : d.dossier? i = some x) :
    (d.tearDown i).dossier? i = some (x.dropped i d.now) := by
  rw [tearDown_eq_amend (dossier?_eq_some.mp opened).1, Dossier.dropped]
  split
  · exact opened
  · exact amend_dossier opened _

theorem tearDown_dossier_other (other : k ≠ i) : (d.tearDown k).dossier? i = d.dossier? i := by
  cases found : d.submissions[k]? with
  | none => simp [tearDown, isLive, found]
  | some s =>
    have same : ∀ t : Submission, t.amended k i (if s.task.isFinished then [] else s.abandonment) = t := by
      intro t
      split
      · rfl
      · simp [Submission.abandonment, Submission.closing, Submission.retiring, Submission.amended,
          Submission.edited, other]
    rw [tearDown_eq_amend found]
    simp only [dossier?, amend_submissions, amend_chronicle found, if_neg other, same]
    simp

theorem tearDowns_dossier (opened : d.dossier? i = some x) (ks : List Nat) :
    (ks.foldl tearDown d).dossier? i = some (if i ∈ ks then x.dropped i d.now else x) := by
  induction ks generalizing d x with
  | nil => exact opened
  | cons k rest ih =>
    rw [List.foldl_cons]
    by_cases own : k = i
    · subst own
      rw [ih (tearDown_dossier opened), tearDown_now, Dossier.dropped_dropped]
      simp
    · rw [ih ((tearDown_dossier_other own).trans opened), tearDown_now]
      simp [Ne.symm own]

theorem drop_dossier {m : Move} (drops : m.Drops i) (opened : d.dossier? i = some x) :
    (d.step m).dossier? i = some (x.dropped i d.now) := by
  rcases drops with rfl | rfl
  · exact tearDown_dossier opened
  · have member : i ∈ List.range d.submissions.length :=
      List.mem_range.mpr (List.getElem?_eq_some_iff.mp (dossier?_eq_some.mp opened).1).1
    have stopped : ({ d with running := false } : Desk).dossier? i = some x := opened
    exact (tearDowns_dossier stopped _).trans (by rw [if_pos member])

/-! ### Moves -/

/-- Nothing takes time but waiting. -/
theorem step_now {m : Move} (timeless : ∀ ms, m ≠ .wait ms) : (d.step m).now = d.now := by
  have tornDown : ∀ (e : Desk) (ks : List Nat), (ks.foldl tearDown e).now = e.now := by
    intro e ks
    induction ks generalizing e with
    | nil => rfl
    | cons k rest ih => exact (ih _).trans (tearDown_now e k)
  cases m with
  | submit resolver id request =>
    simp only [step, submit_eq_amend]
    split
    · rfl
    · split
      · rw [amend_now]
        rfl
      · rw [tearDown_now, amend_now]
        rfl
  | poll k =>
    cases found : d.submissions[k]? with
    | none => simp [step, poll, found]
    | some s => rw [step, poll_eq_amend found, amend_now]
  | wake k => exact edit_now d k .wake
  | cancel k => exact edit_now d k (.cancel k)
  | release k => rfl
  | hear k =>
    cases found : d.submissions[k]? with
    | none => simp [step, hear, found]
    | some s => rw [step, hear_eq_amend found, amend_now]
  | tearDown k => exact tearDown_now d k
  | wait ms => exact (timeless ms rfl).elim
  | hold =>
    simp only [step, hold]
    split <;> rfl
  | letGo =>
    simp only [step, letGo]
    split <;> rfl
  | shutDown => exact tornDown _ _

theorem dossier?_congr {e : Desk} (submissions : e.submissions[i]? = d.submissions[i]?)
    (history : e.history = d.history) : e.dossier? i = d.dossier? i := by
  simp only [dossier?, chronicle, submissions, history]

theorem cancelHeld_dossier (m : Move) (k : Nat) (opened : d.dossier? i = some x) :
    ∃ y, (d.cancelHeld k).dossier? i = some y ∧ x.Step m i d.now y := by
  obtain ⟨found, past⟩ := dossier?_eq_some.mp opened
  refine ⟨⟨x.submission.edited k i (.cancel k), x.past⟩, ?_, ?_⟩
  · rw [dossier?_eq_some, cancelHeld_submissions, found, chronicle, cancelHeld_history]
    exact ⟨rfl, past⟩
  · simp only [Submission.edited]
    split
    · rename_i marked
      exact .cancelled (Bool.and_eq_true _ _ ▸ marked).2
    · exact .kept

theorem release_dossier (k : Nat) (opened : d.dossier? i = some x) :
    ∃ y, (d.release k).dossier? i = some y ∧ x.Step (.release k) i d.now y := by
  obtain ⟨found, past⟩ := dossier?_eq_some.mp opened
  refine ⟨⟨if k = i then { x.submission with held := false } else x.submission, x.past⟩, ?_, ?_⟩
  · rw [dossier?_eq_some, release, update_submissions, found]
    exact ⟨rfl, past⟩
  · split
    · rename_i own
      exact .released (by rw [own])
    · exact .kept

/-- Amendments on behalf of `k`, where those on behalf of `i` itself are a step of a dossier. -/
theorem amend_dossier_any (m : Move) (found : d.submissions[k]? = some s) (edits : List Edit)
    (own : k = i → x.Step m i d.now (x.amend i d.now edits)) (opened : d.dossier? i = some x) :
    ∃ y, (d.amend k edits).dossier? i = some y ∧ x.Step m i d.now y := by
  by_cases same : k = i
  · subst same
    exact ⟨_, amend_dossier opened edits, own rfl⟩
  · exact amend_dossier_other m same found opened edits

theorem submit_dossier (m : Move) (resolver : Resolver) (id : Uuid) (request : Request)
    (opened : d.dossier? i = some x) :
    ∃ y, (d.submit resolver id request).dossier? i = some y ∧ x.Step m i d.now y := by
  obtain ⟨found, past⟩ := dossier?_eq_some.mp opened
  obtain ⟨inside, -⟩ := List.getElem?_eq_some_iff.mp found
  have enrolled : (d.enrol (d.incoming resolver id request)).dossier? i = some x := by
    rw [← opened]
    exact dossier?_congr (List.getElem?_append_left inside) rfl
  obtain ⟨y, accepted, step⟩ := amend_dossier_other m (Nat.ne_of_gt inside)
    (enrol_submissions d _) enrolled (d.incoming resolver id request).opening
  simp only [submit_eq_amend]
  split
  · exact ⟨x, opened, .kept⟩
  · refine ⟨y, ?_, step⟩
    split
    · exact accepted
    · rw [tearDown_dossier_other (Nat.ne_of_gt inside), accepted]

theorem step_dossier (m : Move) (opened : d.dossier? i = some x) :
    ∃ y, (d.step m).dossier? i = some y ∧ x.Step m i d.now y := by
  have unchanged : ∀ e : Desk, e.submissions = d.submissions → e.history = d.history →
      ∃ y, e.dossier? i = some y ∧ x.Step m i d.now y := by
    intro e submissions history
    exact ⟨x, (dossier?_congr (by rw [submissions]) history).trans opened, .kept⟩
  have record := (dossier?_eq_some.mp opened).1
  cases m with
  | submit resolver id request => exact submit_dossier _ resolver id request opened
  | poll k =>
    cases found : d.submissions[k]? with
    | none => exact unchanged _ (by simp [step, poll, found]) (by simp [step, poll, found])
    | some s =>
      simp only [step, poll_eq_amend found]
      refine amend_dossier_any _ found _ ?_ opened
      intro own
      subst own
      obtain rfl := Option.some.inj (found.symm.trans record)
      exact .polled rfl
  | wake k =>
    apply unchanged _ (wake_submissions d k)
    simp only [wake]
    split <;> rfl
  | cancel k => exact cancelHeld_dossier _ k opened
  | release k => exact release_dossier k opened
  | hear k =>
    cases found : d.submissions[k]? with
    | none => exact unchanged _ (by simp [step, hear, found]) (by simp [step, hear, found])
    | some s =>
      simp only [step, hear_eq_amend found]
      refine amend_dossier_any _ found _ ?_ opened
      intro own
      subst own
      obtain rfl := Option.some.inj (found.symm.trans record)
      exact .heard rfl
  | tearDown k =>
    by_cases own : k = i
    · subst own
      exact ⟨_, tearDown_dossier opened, x.step_dropped (Or.inl rfl) d.now⟩
    · exact ⟨x, (tearDown_dossier_other own).trans opened, .kept⟩
  | wait ms => exact unchanged _ rfl rfl
  | hold =>
    simp only [step, hold]
    split <;> exact unchanged _ rfl rfl
  | letGo =>
    simp only [step, letGo]
    split <;> exact unchanged _ rfl rfl
  | shutDown =>
    have stopped : ({ d with running := false } : Desk).dossier? i = some x := opened
    refine ⟨_, tearDowns_dossier stopped _, ?_⟩
    split
    · exact x.step_dropped (Or.inr rfl) d.now
    · exact .kept

/-! ### Runs -/

theorem edit_length (d : Desk) (i : Nat) (e : Edit) :
    (d.edit i e).submissions.length = d.submissions.length := by
  have same : ∀ j, (d.edit i e).submissions.length ≤ j ↔ d.submissions.length ≤ j := by
    intro j
    rw [← List.getElem?_eq_none_iff, ← List.getElem?_eq_none_iff, edit_submissions, Option.map_eq_none_iff]
  exact Nat.le_antisymm ((same _).mpr (Nat.le_refl _)) ((same _).mp (Nat.le_refl _))

/-- Nothing is known of submissions that have not come in. -/
def Grounded (d : Desk) : Prop := ∀ e ∈ d.history, e.submission < d.submissions.length

theorem new_grounded (bus : Bus Event) : (Desk.new bus).Grounded := by
  simp [Grounded, history, new]

theorem edit_grounded (d : Desk) (i : Nat) (s : Submission) (e : Edit)
    (found : d.submissions[i]? = some s) (grounded : d.Grounded) : (d.edit i e).Grounded := by
  intro entry member
  rw [edit_history found] at member
  rw [edit_length]
  rcases List.mem_append.mp member with old | added
  · exact grounded entry old
  · obtain ⟨fact, -, rfl⟩ := List.mem_map.mp added
    exact (List.getElem?_eq_some_iff.mp found).1

theorem rearranged_grounded (d e : Desk) (r : Rearranged d e) (grounded : d.Grounded) : e.Grounded := by
  intro entry member
  rw [history, r.journal] at member
  exact Nat.lt_of_lt_of_le (grounded entry member) r.submissions

theorem run_grounded (bus : Bus Event) (ms : List Move) : ((Desk.new bus).run ms).Grounded :=
  run_invariant edit_grounded rearranged_grounded _ ms (new_grounded bus)

theorem Grounded.chronicle_eq_nil (grounded : d.Grounded) (new : d.submissions.length ≤ i) :
    d.chronicle i = [] := by
  refine List.filterMap_eq_nil_iff.mpr fun e member => if_neg ?_
  exact Nat.ne_of_lt (Nat.lt_of_lt_of_le (grounded e member) new)

theorem submit_opened (grounded : d.Grounded) (isOpen : d.outside ≠ 0) (resolver : Resolver)
    (id : Uuid) (request : Request) :
    (d.submit resolver id request).dossier? d.submissions.length =
      let x := Dossier.opened (d.incoming resolver id request) d.now
      some (if d.running then x else x.dropped d.submissions.length d.now) := by
  have enrolled : (d.enrol (d.incoming resolver id request)).dossier? d.submissions.length =
      some ⟨d.incoming resolver id request, []⟩ := by
    rw [dossier?_eq_some]
    exact ⟨enrol_submissions d _, grounded.chronicle_eq_nil (Nat.le_refl _)⟩
  have accepted := amend_dossier enrolled (d.incoming resolver id request).opening
  simp only [submit_eq_amend, if_neg isOpen]
  split
  · exact accepted
  · rw [tearDown_dossier accepted, amend_now]
    rfl

theorem amend_absent (absent : d.submissions[i]? = none) (k : Nat) (edits : List Edit) :
    (d.amend k edits).submissions[i]? = none := by
  rw [amend_submissions, absent]
  rfl

theorem tearDown_absent (absent : d.submissions[i]? = none) (k : Nat) :
    (d.tearDown k).submissions[i]? = none := by
  cases found : d.submissions[k]? with
  | none => simpa [tearDown, isLive, found] using absent
  | some s =>
    rw [tearDown_eq_amend found]
    exact amend_absent absent k _

theorem tearDowns_absent (absent : d.submissions[i]? = none) (ks : List Nat) :
    (ks.foldl tearDown d).submissions[i]? = none := by
  induction ks generalizing d with
  | nil => exact absent
  | cons k rest ih => exact ih (tearDown_absent absent k)

/-- No move but the acceptance of a request brings in a submission. -/
theorem step_absent (absent : d.submissions[i]? = none) (m : Move)
    (other : ∀ resolver id request, m ≠ .submit resolver id request) :
    (d.step m).submissions[i]? = none := by
  cases m with
  | submit resolver id request => exact (other resolver id request rfl).elim
  | poll k =>
    cases found : d.submissions[k]? with
    | none => simpa [step, poll, found] using absent
    | some s =>
      rw [step, poll_eq_amend found]
      exact amend_absent absent k _
  | wake k => rw [step, wake_submissions, absent]
  | cancel k => rw [step, cancelHeld_submissions, absent]; rfl
  | release k => rw [step, release, update_submissions, absent]; rfl
  | hear k =>
    cases found : d.submissions[k]? with
    | none => simpa [step, hear, found] using absent
    | some s =>
      rw [step, hear_eq_amend found]
      exact amend_absent absent k _
  | tearDown k => exact tearDown_absent absent k
  | wait ms => exact absent
  | hold =>
    simp only [step, hold]
    split <;> exact absent
  | letGo =>
    simp only [step, letGo]
    split <;> exact absent
  | shutDown =>
    have stopped : ({ d with running := false } : Desk).submissions[i]? = none := absent
    exact tearDowns_absent stopped _

theorem submit_opens (grounded : d.Grounded) (absent : d.submissions[i]? = none) (resolver : Resolver)
    (id : Uuid) (request : Request) (opened : (d.submit resolver id request).dossier? i = some x) :
    let y := Dossier.opened (d.incoming resolver id request) d.now
    x = y ∨ x = y.dropped i d.now := by
  have isOpen : d.outside ≠ 0 := by
    intro isClosed
    simp [submit, isClosed, dossier?, absent] at opened
  have newest : i = d.submissions.length := by
    have outside : ¬ d.submissions.length < i := by
      intro far
      have enrolled : (d.enrol (d.incoming resolver id request)).submissions[i]? = none := by
        rw [List.getElem?_eq_none_iff, enrol, List.length_append, List.length_singleton]
        exact far
      have none : (d.submit resolver id request).submissions[i]? = none := by
        simp only [submit_eq_amend, if_neg isOpen]
        split
        · exact amend_absent enrolled _ _
        · exact tearDown_absent (amend_absent enrolled _ _) _
      simp [dossier?, none] at opened
    have := List.getElem?_eq_none_iff.mp absent
    omega
  subst newest
  rw [submit_opened grounded isOpen] at opened
  obtain rfl := Option.some.inj opened
  split
  · exact Or.inl rfl
  · exact Or.inr rfl

/-- What holds of every dossier when it is opened, and stays true in every step of a dossier, holds of
all dossiers after every run. -/
theorem run_dossier {P : Nat → Dossier → Prop}
    (opened : ∀ i now (s : Submission), s.task = .fresh → s.cancelled = false → P i (.opened s now))
    (step : ∀ m i now x y, Dossier.Step m i now x y → P i x → P i y) (bus : Bus Event) (ms : List Move) :
    ∀ i x, ((Desk.new bus).run ms).dossier? i = some x → P i x := by
  suffices general : ∀ d : Desk, d.Grounded → (∀ i x, d.dossier? i = some x → P i x) →
      ∀ i x, (d.run ms).dossier? i = some x → P i x by
    apply general _ (new_grounded bus)
    simp [dossier?, new]
  induction ms with
  | nil => exact fun d _ known => known
  | cons m rest ih =>
    intro d grounded known
    apply ih _ (step_invariant edit_grounded rearranged_grounded d m grounded)
    intro i x found
    cases before : d.dossier? i with
    | some w =>
      obtain ⟨y, after, moved⟩ := step_dossier m before
      obtain rfl := Option.some.inj (found.symm.trans after)
      exact step m i d.now w x moved (known i w before)
    | none =>
      have absent : d.submissions[i]? = none := by simpa [dossier?] using before
      by_cases handed : ∃ resolver id request, m = .submit resolver id request
      · obtain ⟨resolver, id, request, rfl⟩ := handed
        have new := opened i d.now (d.incoming resolver id request) rfl rfl
        rcases submit_opens grounded absent resolver id request found with rfl | rfl
        · exact new
        · exact step (.tearDown i) i d.now _ _ (Dossier.step_dropped (Or.inl rfl) _ _) new
      · have none := step_absent absent m fun resolver id request same =>
          handed ⟨resolver, id, request, same⟩
        simp [dossier?, none] at found

/-- What the moves of a run keep true of the dossier of submission `i`, the run keeps true of it. -/
theorem run_keeps {P : Dossier → Prop} (ms : List Move)
    (step : ∀ m ∈ ms, ∀ now x y, Dossier.Step m i now x y → P x → P y)
    (opened : d.dossier? i = some x) (h : P x) : ∃ y, (d.run ms).dossier? i = some y ∧ P y := by
  induction ms generalizing d x with
  | nil => exact ⟨x, opened, h⟩
  | cons m rest ih =>
    obtain ⟨y, after, moved⟩ := step_dossier m opened
    exact ih (fun n member => step n (List.mem_cons_of_mem m member)) after
      (step m List.mem_cons_self d.now x y moved h)

theorem run_terms (found : d.submissions[i]? = some s) (ms : List Move) :
    ∃ t, (d.run ms).submissions[i]? = some t ∧ t.terms = s.terms := by
  have opened : d.dossier? i = some ⟨s, d.chronicle i⟩ := dossier?_eq_some.mpr ⟨found, rfl⟩
  obtain ⟨x, after, same⟩ := run_keeps (P := fun x => x.submission.terms = s.terms) ms
    (fun m _ now x y step same => step.terms.trans same) opened rfl
  exact ⟨x.submission, (dossier?_eq_some.mp after).1, same⟩

end Desk

end TorrentAdmission
