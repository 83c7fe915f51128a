import TorrentAdmission.Resolution.Race

/-!
# Races of two pieces of work

A race is polled whenever something wakes it up, as often as it takes and perhaps more often. Each wake-up polls the
sides that have not come to a result, and the first one that finds a success, or that finds both sides to have
failed, is the last: `run_first_success`. What polling does besides is left open.
-/

namespace TorrentAdmission

/-- Work as it answers to polls: it is pending so many times and then ready, or it is pending for ever. -/
inductive Work (ε α : Type) where
  | never
  | after (pending : Nat) (result : Except ε α)

inductive Side where
  | left
  | right
  deriving DecidableEq, Repr

namespace Work

variable {ε α : Type}

/-- The answer to a poll. -/
def answer : Work ε α → Step (Work ε α) (Except ε α)
  | .never => .waiting .never
  | .after 0 result => .done result
  | .after (pending + 1) result => .waiting (.after pending result)

/-- Polling work, with what it does besides. -/
def poll {m : Type → Type} [Monad m] (visit : m Unit) (w : Work ε α) : m (Step (Work ε α) (Except ε α)) := do
  visit
  pure w.answer

/-- What the work has come to within `n` polls. -/
def result? (w : Work ε α) (n : Nat) : Option (Except ε α) :=
  match w with
  | .never => none
  | .after pending result => if pending < n then some result else none

def SucceedsBy (w : Work ε α) (n : Nat) : Prop := ∃ a, w.result? n = some (.ok a)

def FailsBy (w : Work ε α) (n : Nat) : Prop := ∃ e, w.result? n = some (.error e)

instance (w : Work ε α) (n : Nat) : Decidable (w.SucceedsBy n) :=
  match found : w.result? n with
  | some (.ok a) => .isTrue ⟨a, found⟩
  | some (.error _) => .isFalse fun ⟨_, other⟩ => nomatch found.symm.trans other
  | none => .isFalse fun ⟨_, other⟩ => nomatch found.symm.trans other

instance (w : Work ε α) (n : Nat) : Decidable (w.FailsBy n) :=
  match found : w.result? n with
  | some (.error e) => .isTrue ⟨e, found⟩
  | some (.ok _) => .isFalse fun ⟨_, other⟩ => nomatch found.symm.trans other
  | none => .isFalse fun ⟨_, other⟩ => nomatch found.symm.trans other

/-- The poll that comes next on this side of a race, after `n` of them. Work with a result has none. -/
def nextPoll (w : Work ε α) (side : Side) (n : Nat) : List Side :=
  if w.result? n = none then [side] else []

/-- What is left of work that has been pending `n` times. -/
def rest (w : Work ε α) (n : Nat) : Work ε α :=
  match w with
  | .never => .never
  | .after pending result => .after (pending - n) result

/-- The side of a race that the work is on after `n` polls, or the value it has won with. -/
def lane (w : Work ε α) (n : Nat) : Except α (Lane (Work ε α) ε) :=
  match w.result? n with
  | none => .ok (.running (w.rest n))
  | some (.ok a) => .error a
  | some (.error e) => .ok (.failed e)

variable {w : Work ε α} {n : Nat}

theorem rest_zero (w : Work ε α) : w.rest 0 = w := by
  cases w <;> rfl

theorem result?_zero (w : Work ε α) : w.result? 0 = none := by
  cases w <;> rfl

theorem result?_le {k : Nat} {result : Except ε α} (ready : w.result? k = some result) (soon : k ≤ n) :
    w.result? n = some result := by
  cases w with
  | never => cases ready
  | after pending own =>
    obtain ⟨early, same⟩ := Option.ite_none_right_eq_some.mp ready
    exact (if_pos (Nat.lt_of_lt_of_le early soon)).trans same

/-- Work that has been pending so far is pending at the next poll, or has its result there. -/
theorem answer_rest (pending : w.result? n = none) :
    (w.rest n).answer = match w.result? (n + 1) with
      | none => .waiting (w.rest (n + 1))
      | some result => .done result := by
  cases w with
  | never => rfl
  | after total result =>
    have late : n ≤ total := by
      apply Nat.le_of_not_lt
      intro soon
      simp [result?, soon] at pending
    show (after (total - n) result).answer = _
    -- the next poll is the one that finds it ready, or it is pending `k` times more after that
    rcases Nat.eq_or_lt_of_le late with last | more
    · simp [result?, last, answer]
    · obtain ⟨k, left⟩ : ∃ k, total - n = k + 1 := ⟨total - n - 1, by omega⟩
      have next : total - (n + 1) = k := by omega
      have still : ¬ total < n + 1 := by omega
      simp [result?, rest, left, next, still, answer]

theorem lane_of_none (none : w.result? n = none) : w.lane n = .ok (.running (w.rest n)) := by
  rw [lane, none]

theorem lane_of_ok {a : α} (succeeded : w.result? n = some (.ok a)) : w.lane n = .error a := by
  rw [lane, succeeded]

theorem lane_of_error {e : ε} (failed : w.result? n = some (.error e)) : w.lane n = .ok (.failed e) := by
  rw [lane, failed]

theorem result?_of_won {a : α} (won : w.lane n = .error a) : w.result? n = some (.ok a) := by
  unfold lane at won
  split at won
  · cases won
  · obtain rfl := Except.error.inj won
    assumption
  · cases won

theorem result?_of_failed {e : ε} (failed : w.lane n = .ok (.failed e)) : w.result? n = some (.error e) := by
  unfold lane at failed
  split at failed
  · cases failed
  · cases failed
  · obtain rfl := Lane.failed.inj (Except.ok.inj failed)
    assumption

theorem not_failsBy {v : Work ε α} (present : w.lane n = .ok (.running v)) : ¬ w.FailsBy n := by
  rintro ⟨e, failed⟩
  cases present.symm.trans (lane_of_error failed)

theorem not_succeedsBy {lane : Lane (Work ε α) ε} (present : w.lane n = .ok lane) : ¬ w.SucceedsBy n := by
  rintro ⟨a, succeeded⟩
  cases present.symm.trans (lane_of_ok succeeded)

/-- A turn of a side polls its work, unless that has failed before. -/
theorem pollLane_lane {m : Type → Type} [Monad m] [LawfulMonad m] (visit : Side → m Unit) (side : Side)
    {lane : Lane (Work ε α) ε} (present : w.lane n = .ok lane) :
    Race.pollLane (poll (visit side)) lane =
      (do forM (w.nextPoll side n) visit; pure (w.lane (n + 1))) := by
  cases found : w.result? n with
  | none =>
    obtain rfl := Except.ok.inj (present.symm.trans (lane_of_none found))
    rw [nextPoll, if_pos found, List.forM_cons, List.forM_nil]
    cases next : w.result? (n + 1) with
    | none => simp [Race.pollLane, poll, answer_rest found, next, lane_of_none next]
    | some result =>
      cases result with
      | ok a => simp [Race.pollLane, poll, answer_rest found, next, lane_of_ok next]
      | error e => simp [Race.pollLane, poll, answer_rest found, next, lane_of_error next]
  | some result =>
    cases result with
    | ok a => cases present.symm.trans (lane_of_ok found)
    | error e =>
      obtain rfl := Except.ok.inj (present.symm.trans (lane_of_error found))
      rw [nextPoll, if_neg (by simp [found]), lane_of_error (result?_le found (Nat.le_succ n)), List.forM_nil, pure_bind]
      rfl

end Work

namespace Race

variable {ε α β : Type} {m : Type → Type} [Monad m]

/-- One wake-up. A race that is over is not polled any more. -/
def wake (visit : Side → m Unit) : Step (Race (Work ε α) (Work ε β) ε) (Finish α β ε) →
    m (Step (Race (Work ε α) (Work ε β) ε) (Finish α β ε))
  | .waiting race => race.poll (Work.poll (visit .left)) (Work.poll (visit .right))
  | .done finish => pure (.done finish)

/-- What a race has come to after `n` wake-ups. What polls do besides may depend on the wake-up. -/
def run (visit : Nat → Side → m Unit) (left : Work ε α) (right : Work ε β) :
    Nat → m (Step (Race (Work ε α) (Work ε β) ε) (Finish α β ε))
  | 0 => pure (.waiting ⟨.running left, .running right⟩)
  | n + 1 => do wake (visit n) (← run visit left right n)

section
variable (left : Work ε α) (right : Work ε β) (n : Nat)

/-- A side has succeeded within `n` polls, or both have failed. -/
def IsDecided : Prop :=
  left.SucceedsBy n ∨ right.SucceedsBy n ∨ left.FailsBy n ∧ right.FailsBy n

instance : Decidable (IsDecided left right n) :=
  inferInstanceAs (Decidable (_ ∨ _ ∨ _ ∧ _))

/-- The polls of the wake-up after `n` others, the left side's first. A race that is decided has none. -/
def nextPolls : List Side :=
  if IsDecided left right n then [] else left.nextPoll .left n ++ right.nextPoll .right n

/-- All polls of `n` wake-ups in order, each with the number of wake-ups before its own. -/
def polls : List (Nat × Side) :=
  (List.range n).flatMap fun k => (nextPolls left right k).map fun side => (k, side)

/-- What decides a race by the wake-up `n`. If both sides have succeeded, it is the left one. -/
inductive Decides : Finish α β ε → Prop where
  | left {a : α} (succeeded : left.result? n = some (.ok a)) : Decides (.left a)
  | right {b : β} (succeeded : right.result? n = some (.ok b)) (other : ¬ left.SucceedsBy n) : Decides (.right b)
  | neither {e f : ε} (first : left.result? n = some (.error e)) (second : right.result? n = some (.error f)) :
      Decides (.neither e f)

/-- How a race stands after `n` wake-ups. -/
inductive Stands : Step (Race (Work ε α) (Work ε β) ε) (Finish α β ε) → Prop where
  | undecided {race : Race (Work ε α) (Work ε β) ε} (soFar : ∀ k ≤ n, ¬ IsDecided left right k)
      (ofLeft : left.lane n = .ok race.left) (ofRight : right.lane n = .ok race.right) : Stands (.waiting race)
  | decided {k : Nat} {finish : Finish α β ε} (soon : k ≤ n) (before : ∀ j < k, ¬ IsDecided left right j)
      (decides : Decides left right k finish) : Stands (.done finish)

end

variable {left : Work ε α} {right : Work ε β} {n : Nat}

theorem Decides.isDecided {finish : Finish α β ε} (decides : Decides left right n finish) :
    IsDecided left right n := by
  cases decides with
  | left succeeded => exact Or.inl ⟨_, succeeded⟩
  | right succeeded other => exact Or.inr (Or.inl ⟨_, succeeded⟩)
  | neither first second => exact Or.inr (Or.inr ⟨⟨_, first⟩, _, second⟩)

theorem Decides.unique {finish other : Finish α β ε} (decides : Decides left right n finish)
    (also : Decides left right n other) : other = finish := by
  cases decides with
  | left succeeded =>
    cases also with
    | left same => cases succeeded.symm.trans same; rfl
    | right same loser => exact absurd ⟨_, succeeded⟩ loser
    | neither failed same => cases succeeded.symm.trans failed
  | right succeeded loser =>
    cases also with
    | left same => exact absurd ⟨_, same⟩ loser
    | right same other => cases succeeded.symm.trans same; rfl
    | neither same failed => cases succeeded.symm.trans failed
  | neither first second =>
    cases also with
    | left succeeded => cases first.symm.trans succeeded
    | right succeeded other => cases second.symm.trans succeeded
    | neither same also => cases first.symm.trans same; cases second.symm.trans also; rfl

theorem IsDecided.later {k : Nat} (decided : IsDecided left right k) (soon : k ≤ n) : IsDecided left right n := by
  rcases decided with ⟨a, won⟩ | ⟨b, won⟩ | ⟨⟨e, first⟩, f, second⟩
  · exact Or.inl ⟨a, Work.result?_le won soon⟩
  · exact Or.inr (Or.inl ⟨b, Work.result?_le won soon⟩)
  · exact Or.inr (Or.inr ⟨⟨e, Work.result?_le first soon⟩, f, Work.result?_le second soon⟩)

theorem Stands.eq_done {state : Step (Race (Work ε α) (Work ε β) ε) (Finish α β ε)} {k : Nat}
    {finish : Finish α β ε} (stands : Stands left right n state) (soon : k ≤ n)
    (before : ∀ j < k, ¬ IsDecided left right j) (decides : Decides left right k finish) :
    state = .done finish := by
  cases stands with
  | undecided soFar ofLeft ofRight => exact absurd decides.isDecided (soFar k soon)
  | @decided first other soon' before' decides' =>
    have same : first = k := by
      apply Nat.le_antisymm
      · exact Nat.le_of_not_lt fun earlier => before' k earlier decides.isDecided
      · exact Nat.le_of_not_lt fun earlier => before first earlier decides'.isDecided
    subst same
    rw [decides.unique decides']

theorem stands_zero : Stands left right 0 (.waiting ⟨.running left, .running right⟩) := by
  refine .undecided (fun k soon => ?_) ?_ ?_
  · obtain rfl := Nat.le_zero.mp soon
    simp [IsDecided, Work.SucceedsBy, Work.FailsBy, Work.result?_zero]
  · rw [Work.lane_of_none left.result?_zero, Work.rest_zero]
  · rw [Work.lane_of_none right.result?_zero, Work.rest_zero]

/-- When both sides have had their poll, the race is decided, or both sides stay in it. -/
theorem stands_decide (before : ∀ k < n, ¬ IsDecided left right k) :
    Stands left right n (decide (left.lane n) (right.lane n)) := by
  cases first : left.lane n with
  | error a => exact .decided (Nat.le_refl n) before (.left (Work.result?_of_won first))
  | ok l =>
    have unwon := Work.not_succeedsBy first
    cases second : right.lane n with
    | error b => cases l <;> exact .decided (Nat.le_refl n) before (.right (Work.result?_of_won second) unwon)
    | ok r =>
      -- no side has won, so nothing but two failures can decide the race
      have goesOn : ¬ (left.FailsBy n ∧ right.FailsBy n) → Stands left right n (.waiting ⟨l, r⟩) := by
        intro hope
        refine .undecided (fun k soon => ?_) first second
        rcases Nat.eq_or_lt_of_le soon with rfl | earlier
        · rintro (won | won | failed)
          · exact unwon won
          · exact Work.not_succeedsBy second won
          · exact hope failed
        · exact before k earlier
      cases l with
      | running work => cases r <;> exact goesOn fun failed => Work.not_failsBy first failed.1
      | failed e =>
        cases r with
        | running work => exact goesOn fun failed => Work.not_failsBy second failed.2
        | failed f =>
          exact .decided (Nat.le_refl n) before
            (.neither (Work.result?_of_failed first) (Work.result?_of_failed second))

variable [LawfulMonad m]

/-- A wake-up makes its polls, and how the race stands goes on to hold. -/
theorem wake_stands {state : Step (Race (Work ε α) (Work ε β) ε) (Finish α β ε)} (visit : Side → m Unit)
    (stands : Stands left right n state) : ∃ next, Stands left right (n + 1) next ∧
      wake visit state = (do forM (nextPolls left right n) visit; pure next) := by
  cases stands with
  | undecided soFar ofLeft ofRight =>
    refine ⟨_, stands_decide fun k soon => soFar k (Nat.le_of_lt_succ soon), ?_⟩
    rw [nextPolls, if_neg (soFar n (Nat.le_refl n)), List.forM_append, bind_assoc, wake, poll,
      Work.pollLane_lane visit .left ofLeft, Work.pollLane_lane visit .right ofRight]
    simp only [bind_assoc, pure_bind]
  | decided soon before decides =>
    -- what has decided a race once still does, so there is nothing to poll
    refine ⟨_, .decided (Nat.le_succ_of_le soon) before decides, ?_⟩
    rw [nextPolls, if_pos (decides.isDecided.later soon), List.forM_nil, pure_bind]
    rfl

theorem polls_succ (left : Work ε α) (right : Work ε β) (n : Nat) :
    polls left right (n + 1) = polls left right n ++ (nextPolls left right n).map fun side => (n, side) := by
  rw [polls, List.range_succ, List.flatMap_append, List.flatMap_singleton]
  rfl

/-- How the race stands is carried along with what it has come to, since it tells that no wake-up so far has decided
it and which result of which side is kept. -/
theorem run_stands (visit : Nat → Side → m Unit) (left : Work ε α) (right : Work ε β) (n : Nat) :
    ∃ state, Stands left right n state ∧
      run visit left right n = (do forM (polls left right n) fun p => visit p.1 p.2; pure state) := by
  induction n with
  | zero =>
    refine ⟨_, stands_zero, ?_⟩
    rw [polls, List.range_zero, List.flatMap_nil, List.forM_nil, pure_bind, run]
  | succ n ih =>
    obtain ⟨state, stands, ran⟩ := ih
    obtain ⟨next, nextStands, woken⟩ := wake_stands (visit n) stands
    refine ⟨next, nextStands, ?_⟩
    rw [run, ran, polls_succ, List.forM_append, List.forM_map]
    simp only [bind_assoc, pure_bind, woken]

/-- Whatever polls do besides, a race polls at each wake-up the sides without a result, the left one first, and it
is over with the first wake-up by which a side has succeeded or both have failed. -/
theorem run_first_success (visit : Nat → Side → m Unit) (left : Work ε α) (right : Work ε β) (n : Nat) :
    ∃ state, run visit left right n = (do forM (polls left right n) fun p => visit p.1 p.2; pure state) ∧
      ((∀ k ≤ n, ¬ IsDecided left right k) → ∃ race, state = .waiting race) ∧
      ∀ k ≤ n, (∀ j < k, ¬ IsDecided left right j) →
        (∀ a, left.result? k = some (.ok a) → state = .done (.left a)) ∧
        (∀ b, right.result? k = some (.ok b) → ¬ left.SucceedsBy k → state = .done (.right b)) ∧
        ∀ e f, left.result? k = some (.error e) → right.result? k = some (.error f) →
          state = .done (.neither e f) := by
  obtain ⟨state, stands, ran⟩ := run_stands visit left right n
  refine ⟨state, ran, fun undecided => ?_, fun k soon before => ?_⟩
  · cases stands with
    | undecided soFar ofLeft ofRight => exact ⟨_, rfl⟩
    | decided soon before decides => exact absurd decides.isDecided (undecided _ soon)
  · have ends : ∀ finish, Decides left right k finish → state = .done finish :=
      fun finish decides => stands.eq_done soon before decides
    exact ⟨fun a succeeded => ends _ (.left succeeded), fun b succeeded other => ends _ (.right succeeded other),
      fun e f first second => ends _ (.neither first second)⟩

/-- A side that fails early is polled no more, and the race waits for the other one. -/
theorem early_failure_outlasted :
    (run (m := StateM (List (Nat × Side))) (fun k side => modify (· ++ [(k, side)]))
        (.after 1 (.error "unknown") : Work String Nat) (.after 3 (.ok 7) : Work String Nat) 5).run [] =
      (.done (.right 7), [(0, .left), (0, .right), (1, .left), (1, .right), (2, .right), (3, .right)]) := by
  obtain ⟨state, ran, -, decided⟩ := run_first_success (m := StateM (List (Nat × Side)))
    (fun k side => modify (· ++ [(k, side)])) (.after 1 (.error "unknown") : Work String Nat)
    (.after 3 (.ok 7) : Work String Nat) 5
  obtain ⟨-, right, -⟩ := decided 4 (by decide) (by decide)
  rw [ran, right 7 rfl (by decide)]
  rfl

end Race

end TorrentAdmission
