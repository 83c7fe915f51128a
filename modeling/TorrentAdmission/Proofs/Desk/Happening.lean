import TorrentAdmission.Desk.Watch
import TorrentAdmission.Proofs.Desk.Ticking

/-!
# All that can happen

Besides single moves there is the clock, and there are owners who wait for an outcome, watchers and those who
ask for the counters. In all of it tasks have turns, are woken and time passes. So two desks that the clock cannot
tell apart go on in lockstep if they do in single moves, `Lockstep.undergo`; and what moves keep is kept by
whatever happens, `Desk.undergo_keeps`.
-/

namespace TorrentAdmission

inductive Happening where
  | move (move : Move)
  | advance (ms : Nat)
  | await (submission : Nat)
  | watch (watch : Watch) (reader : Reader Event) (within : Nat)
  | snapshot

namespace Desk

def happen (d : Desk) : Happening → Desk
  | .move m => d.step m
  | .advance ms => d.advance ms
  | .await i => (d.await i).2
  | .watch w reader within => (w.collect d reader within).2.2
  | .snapshot => d.snapshot.2

def undergo (d : Desk) : List Happening → Desk
  | [] => d
  | h :: rest => undergo (d.happen h) rest

variable {d e : Desk}

/-! ### What the clock looks at -/

/-- The clock and those who watch cannot tell the desks apart. Of a submission they see the task and its limits. -/
structure SameToClock (d e : Desk) : Prop where
  bus : e.bus = d.bus
  now : e.now = d.now
  awake : e.awake = d.awake
  tasks : (e.submissions.map fun s => (s.task, s.resolver.limits)) =
    d.submissions.map fun s => (s.task, s.resolver.limits)

namespace SameToClock

theorem length (same : SameToClock d e) : e.submissions.length = d.submissions.length := by
  simpa using congrArg List.length same.tasks

theorem submission (same : SameToClock d e) (k : Nat) :
    (d.submissions[k]? = none ∧ e.submissions[k]? = none) ∨
      ∃ s t, d.submissions[k]? = some s ∧ e.submissions[k]? = some t ∧ t.task = s.task ∧
        t.resolver.limits = s.resolver.limits := by
  have read := congrArg (·[k]?) same.tasks
  simp only [List.getElem?_map] at read
  cases left : d.submissions[k]? with
  | none =>
    rw [left] at read
    exact Or.inl ⟨rfl, Option.map_eq_none_iff.mp read⟩
  | some s =>
    rw [left] at read
    obtain ⟨t, right, view⟩ := Option.map_eq_some_iff.mp read
    obtain ⟨task, limits⟩ := Prod.mk.inj view
    exact Or.inr ⟨s, t, rfl, right, task, limits⟩

theorem isLive (same : SameToClock d e) (k : Nat) : e.isLive k = d.isLive k := by
  rcases same.submission k with ⟨left, right⟩ | ⟨s, t, left, right, task, -⟩
  · rw [Desk.isLive, Desk.isLive, left, right]
  · simp [Desk.isLive, left, right, task]

theorem outcome? (same : SameToClock d e) (k : Nat) : e.outcome? k = d.outcome? k := by
  rcases same.submission k with ⟨left, right⟩ | ⟨s, t, left, right, task, -⟩
  · rw [Desk.outcome?, Desk.outcome?, left, right]
  · rw [outcome?_of_found left, outcome?_of_found right, task]

theorem longest (same : SameToClock d e) (k : Nat) : e.longest k = d.longest k := by
  rcases same.submission k with ⟨left, right⟩ | ⟨s, t, left, right, -, limits⟩
  · rw [Desk.longest, Desk.longest, left, right]
  · simp [Desk.longest, left, right, limits]

theorem dueNow (same : SameToClock d e) : e.dueNow = d.dueNow := by
  rw [Desk.dueNow, Desk.dueNow, same.length]
  refine List.filter_congr fun k _ => ?_
  rcases same.submission k with ⟨left, right⟩ | ⟨s, t, left, right, task, -⟩
  · rw [left, right]
    rfl
  · simp [left, right, task, same.now]

theorem nextInstant? (same : SameToClock d e) : e.nextInstant? = d.nextInstant? := by
  have instants : (e.submissions.map fun s => s.task.instants) = d.submissions.map fun s => s.task.instants := by
    have read := congrArg (List.map fun view => view.1.instants) same.tasks
    rwa [List.map_map, List.map_map] at read
  rw [Desk.nextInstant?, Desk.nextInstant?, comingInstants, comingInstants, List.flatMap_def, List.flatMap_def,
    instants, same.now]

end SameToClock

/-! ### Two desks side by side -/

/-- Desks that are so related stay so related if the same move is made at both, and the clock cannot tell them
apart. -/
structure Lockstep (R : Desk → Desk → Prop) : Prop where
  step : ∀ {d e}, R d e → ∀ m, R (d.step m) (e.step m)
  unwake : ∀ {d e}, R d e → ∀ k, R (d.unwake k) (e.unwake k)
  snapshot : ∀ {d e}, R d e → R d.snapshot.2 e.snapshot.2
  same : ∀ {d e}, R d e → SameToClock d e

namespace Lockstep

variable {R : Desk → Desk → Prop} (lockstep : Lockstep R)

include lockstep

theorem takeTurns (related : R d e) (fuel : Nat) : R (takeTurns fuel d) (takeTurns fuel e) := by
  induction fuel generalizing d e with
  | zero => exact related
  | succ fuel ih =>
    unfold Desk.takeTurns
    rw [(lockstep.same related).awake]
    cases d.awake with
    | nil => exact related
    | cons k rest => exact ih (lockstep.step (lockstep.unwake related k) (.poll k))

theorem runAwake (related : R d e) : R d.runAwake e.runAwake := by
  have same := lockstep.same related
  rw [Desk.runAwake, Desk.runAwake, same.awake, same.length]
  exact lockstep.takeTurns related _

theorem moveTo (related : R d e) (t : Nat) : R (d.moveTo t) (e.moveTo t) := by
  have woken : ∀ (ks : List Nat) (d e : Desk), R d e → R (ks.foldl wake d) (ks.foldl wake e) := by
    intro ks
    induction ks with
    | nil => exact fun d e kept => kept
    | cons k rest ih => exact fun d e kept => ih _ _ (lockstep.step kept (.wake k))
  have waited : R (d.wait (t - d.now)) (e.wait (t - d.now)) := lockstep.step related (.wait (t - d.now))
  rw [Desk.moveTo, Desk.moveTo, (lockstep.same related).now, wakeDue_eq, wakeDue_eq, (lockstep.same waited).dueNow]
  exact woken _ _ _ waited

theorem advanceTo (related : R d e) (fuel target : Nat) : R (advanceTo fuel target d) (advanceTo fuel target e) := by
  induction fuel generalizing d e with
  | zero => exact lockstep.runAwake (lockstep.moveTo related target)
  | succ fuel ih =>
    have rested := lockstep.runAwake related
    have arrives := lockstep.runAwake (lockstep.moveTo rested target)
    unfold Desk.advanceTo
    dsimp only
    rw [(lockstep.same rested).nextInstant?]
    cases d.runAwake.nextInstant? with
    | none => exact arrives
    | some t =>
      dsimp only
      split
      · exact ih (lockstep.moveTo rested t)
      · exact arrives

theorem awaitEnd (related : R d e) (fuel k : Nat) : R (awaitEnd fuel k d) (awaitEnd fuel k e) := by
  induction fuel generalizing d e with
  | zero => exact related
  | succ fuel ih =>
    have rested := lockstep.runAwake related
    have same := lockstep.same rested
    unfold Desk.awaitEnd
    dsimp only
    rw [(lockstep.same related).isLive, same.isLive, same.nextInstant?]
    split
    · split
      · cases d.runAwake.nextInstant? with
        | none => exact rested
        | some t => exact ih (lockstep.moveTo rested t)
      · exact rested
    · exact related

/-- The owner of a submission hears the same at both. -/
theorem await (related : R d e) (k : Nat) : (e.await k).1 = (d.await k).1 ∧ R (d.await k).2 (e.await k).2 := by
  have ended : R (Desk.awaitEnd (d.longest k + 2) k (d.release k)) (Desk.awaitEnd (d.longest k + 2) k (e.release k)) :=
    lockstep.awaitEnd (lockstep.step related (.release k)) _ k
  unfold Desk.await
  rw [(lockstep.same related).longest]
  exact ⟨(lockstep.same ended).outcome? k, lockstep.runAwake (lockstep.step ended (.hear k))⟩

/-- Who watches sees the same at both. -/
theorem follow (related : R d e) (w : Watch) (fuel deadline : Nat) (s : Watch.State) :
    (w.follow fuel deadline s e).1 = (w.follow fuel deadline s d).1 ∧
      R (w.follow fuel deadline s d).2 (w.follow fuel deadline s e).2 := by
  induction fuel generalizing d e s with
  | zero => exact ⟨rfl, related⟩
  | succ fuel ih =>
    have same := lockstep.same related
    unfold Watch.follow
    dsimp only
    rw [same.bus, same.now, same.awake, same.nextInstant?]
    split
    · exact ⟨rfl, related⟩
    · split
      · exact ih (lockstep.runAwake related) _
      · cases d.nextInstant? with
        | none => exact ih (lockstep.moveTo related deadline) _
        | some t => exact ih (lockstep.moveTo related (min t deadline)) _

theorem happen (related : R d e) (happening : Happening) : R (d.happen happening) (e.happen happening) := by
  have now := (lockstep.same related).now
  cases happening with
  | move m => exact lockstep.step related m
  | advance ms =>
    change R (Desk.advanceTo ms (d.now + ms) d) (Desk.advanceTo ms (e.now + ms) e)
    rw [now]
    exact lockstep.advanceTo related ms _
  | await k => exact (lockstep.await related k).2
  | watch w reader within =>
    have followed := (lockstep.follow related w (2 * within + 3) (d.now + within) { reader }).2
    change R _ (w.follow (2 * within + 3) (e.now + within) { reader } e).2.runAwake
    rw [now]
    exact lockstep.runAwake followed
  | snapshot => exact lockstep.snapshot related

theorem undergo (related : R d e) (happenings : List Happening) : R (d.undergo happenings) (e.undergo happenings) := by
  induction happenings generalizing d e with
  | nil => exact related
  | cons first rest ih => exact ih (lockstep.happen related first)

end Lockstep

/-! ### One desk -/

/-- What moves keep is kept by all that happens, if it has nothing to do with who is awake and with the counters. -/
theorem undergo_keeps {P : Desk → Prop} (moves : ∀ d m, P d → P (d.step m)) (unwakes : ∀ d k, P d → P (d.unwake k))
    (snapshots : ∀ d : Desk, P d → P d.snapshot.2) (happenings : List Happening) (h : P d) :
    P (d.undergo happenings) := by
  have lockstep : Lockstep fun d e => e = d ∧ P d := by
    refine ⟨?_, ?_, ?_, ?_⟩
    · rintro d _ ⟨rfl, h⟩ m
      exact ⟨rfl, moves _ m h⟩
    · rintro d _ ⟨rfl, h⟩ k
      exact ⟨rfl, unwakes _ k h⟩
    · rintro d _ ⟨rfl, h⟩
      exact ⟨rfl, snapshots _ h⟩
    · rintro d _ ⟨rfl, h⟩
      exact ⟨rfl, rfl, rfl, rfl⟩
  exact (lockstep.undergo ⟨rfl, h⟩ happenings).2

theorem undergo_grounded (bus : Bus Event) (happenings : List Happening) :
    ((Desk.new bus).undergo happenings).Grounded :=
  undergo_keeps (step_invariant edit_grounded rearranged_grounded) (fun _ _ grounded => grounded)
    (fun _ grounded => grounded) happenings (new_grounded bus)

/-- What every step keeps true of a dossier, all that happens keeps true of it. -/
theorem undergo_dossier {i : Nat} {x : Dossier} {P : Dossier → Prop}
    (step : ∀ m now x y, Dossier.Step m i now x y → P x → P y) (happenings : List Happening)
    (opened : d.dossier? i = some x) (h : P x) : ∃ y, (d.undergo happenings).dossier? i = some y ∧ P y := by
  refine undergo_keeps (P := fun d => ∃ x, d.dossier? i = some x ∧ P x) ?_ ?_ ?_ happenings ⟨x, opened, h⟩
  · intro d m known
    obtain ⟨x, opened, h⟩ := known
    obtain ⟨y, after, moved⟩ := step_dossier m opened
    exact ⟨y, after, step m d.now x y moved h⟩
  · exact fun d k known => known
  · exact fun d known => known

end Desk

end TorrentAdmission
