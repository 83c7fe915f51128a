import TorrentAdmission.Proofs.Resolution.Punctuality

/-!
# The trail of a lookup

A lookup that is given a turn at every instant leaves a trail: the calls that it has made by then, and
where it stands. Turns in which nothing is due do nothing (`resume_idle`), so the trail is that of any
lookup whose clock is kept; and it comes to its end when the timetable says (`trail_isOver`).
-/

namespace TorrentAdmission

/-! ### Turns in which nothing is due -/

namespace Turn

variable {α β : Type}

@[simp] theorem pure_bind (a : α) (f : α → Turn β) : (pure a : Turn α) >>= f = f a := rfl

end Turn

theorem Attempt.poll_idle {α : Type} {op : Operation} {a : Attempt α} {now : Nat}
    (early : now < (a.ending op).instant) : a.poll op now = pure (.waiting a) := by
  have overdue : now < a.since + a.limit := Nat.lt_of_lt_of_le early (a.ending_le op)
  have unanswered : ∀ verdict, a.script.reply.verdict? op = some verdict →
      a.since + a.script.after ≤ now → False := by
    intro verdict replied answered
    rw [a.ending_answered replied answered (Nat.le_of_lt early)] at early
    exact Nat.lt_irrefl now early
  have waits : a.overdue op now = pure (.waiting a) := if_neg (Nat.not_le_of_lt overdue)
  unfold poll
  split
  · rename_i answered
    cases reply : a.script.reply with
    | never => exact waits
    | _ => exact (unanswered _ (by rw [reply]; rfl) answered).elim
  · exact waits

namespace Lookup

variable {l : Lookup}

theorem pollFileInfo_idle {filename : String} {a : Attempt Info} (early : l.now < (a.ending .torrentInfo).instant) :
    l.pollFileInfo filename a = pure (.waiting (.describing filename a)) := by
  rw [pollFileInfo, Attempt.poll_idle early]
  rfl

theorem pollDirect_idle {state : DirectState} (early : l.now < state.due) :
    l.pollDirect state = pure (.waiting state) := by
  cases state with
  | describing filename a => exact pollFileInfo_idle early
  | downloading a =>
    rw [pollDirect, pollDownload, Attempt.poll_idle early]
    rfl

theorem pollPrimary_idle {uri : String} {a : Attempt Info} (early : l.now < a.primaryDue) :
    l.pollPrimary uri a = pure (.waiting a) := by
  rw [pollPrimary, Attempt.poll_idle early]
  rfl

theorem pollPrefetch_idle {uri : String} {state : PrefetchState} (early : l.now < state.due) :
    l.pollPrefetch uri state = pure (.waiting state) := by
  cases state with
  | describing hash a =>
    rw [pollPrefetch, pollMetadataInfo, Attempt.poll_idle early]
    rfl
  | fetching a =>
    rw [pollPrefetch, Attempt.poll_idle early]
    rfl

theorem pollLane_idle {σ : Type} {poll : σ → Turn (Step σ (Except Failure Torrent))} {lane : Lane σ Failure}
    {due : σ → Nat} {now : Nat} (idle : ∀ state, now < due state → poll state = pure (.waiting state))
    (early : ∀ t ∈ lane.dues due, now < t) : Race.pollLane poll lane = pure (.ok lane) := by
  cases lane with
  | failed e => rfl
  | running state =>
    rw [Race.pollLane, idle state (early _ (List.mem_singleton_self _))]
    rfl

theorem resume_idle {source : Source} {progress : Progress} (waits : progress.Waits l.now) :
    l.resume source progress = pure (.waiting progress) := by
  obtain ⟨some, early⟩ := waits
  cases progress with
  | direct state =>
    rw [resume, pollDirect_idle (early _ (List.mem_singleton_self _))]
    rfl
  | magnet race =>
    have left : Race.pollLane (l.pollPrimary source.text) race.left = pure (.ok race.left) :=
      pollLane_idle (fun _ => pollPrimary_idle)
        fun t member => early t (List.mem_append_left (race.right.dues PrefetchState.due) member)
    have right : Race.pollLane (l.pollPrefetch source.text) race.right = pure (.ok race.right) :=
      pollLane_idle (fun _ => pollPrefetch_idle)
        fun t member => early t (List.mem_append_right (race.left.dues Attempt.primaryDue) member)
    rw [resume, Race.poll, left, Turn.pure_bind, right]
    obtain ⟨a | x, b | y⟩ := race
    · rfl
    · rfl
    · rfl
    · exact (some rfl).elim

end Lookup

/-! ### The trail -/

def Act.call? : Act → Option Call
  | .call c => some c
  | _ => none

/-- The calls that are made in a turn at the instant `now`. -/
def Turn.callsAt {α : Type} (t : Turn α) (now : Nat) : List (Nat × Call) :=
  (t.acts.filterMap Act.call?).map (now, ·)

/-- Those of some calls that are made at the instant `t`. -/
def callsAt (calls : List (Nat × Call)) (t : Nat) : List Call :=
  calls.filterMap fun p => if p.1 = t then some p.2 else none

/-- How far a lookup has come: its calls with their instants, and what its last turn has come to. -/
structure Trail where
  calls : List (Nat × Call)
  stage : Except String (Step Progress (Except Failure (Torrent × Path)))

def Trail.isOver (t : Trail) : Bool :=
  match t.stage with
  | .ok (.waiting _) => false
  | _ => true

namespace Lookup

variable (l : Lookup) (source : Source)

/-- Where a lookup that begins now has come after `n` milliseconds. -/
def trail : Nat → Trail
  | 0 => ⟨(l.start source).callsAt l.now, (l.start source).result⟩
  | n + 1 =>
    match (trail n).stage with
    | .ok (.waiting progress) =>
      let turn := ({ l with now := l.now + (n + 1) } : Lookup).resume source progress
      ⟨(trail n).calls ++ turn.callsAt (l.now + (n + 1)), turn.result⟩
    | _ => trail n

/-- The calls that it has made before its turn after `n` milliseconds. -/
def callsBefore : Nat → List (Nat × Call)
  | 0 => []
  | n + 1 => (l.trail source n).calls

variable {l source} {n m : Nat} {progress : Progress}

theorem trail_waiting (waiting : (l.trail source n).stage = .ok (.waiting progress)) :
    l.trail source (n + 1) =
      ⟨(l.trail source n).calls ++
        (({ l with now := l.now + (n + 1) } : Lookup).resume source progress).callsAt (l.now + (n + 1)),
        (({ l with now := l.now + (n + 1) } : Lookup).resume source progress).result⟩ := by
  rw [trail, waiting]

theorem trail_over (complete : (l.trail source n).isOver = true) : l.trail source (n + 1) = l.trail source n := by
  rw [trail]
  split
  · rename_i waiting
    rw [Trail.isOver, waiting] at complete
    cases complete
  · rfl

theorem trail_stays (complete : (l.trail source n).isOver = true) (later : n ≤ m) :
    l.trail source m = l.trail source n := by
  induction later with
  | refl => rfl
  | step _ ih => rw [trail_over (by rwa [ih]), ih]

/-- The lookup has come to its ending by the instant `now`, or waits for calls that have not ended. -/
def Comes (l : Lookup) (source : Source) (now : Nat) :
    Except String (Step Progress (Except Failure (Torrent × Path))) → Prop
  | .ok (.waiting progress) => l.progressEnding source progress = l.ending source ∧ progress.Waits now
  | _ => (l.ending source).instant ≤ now

theorem comes_of_shows {now : Nat} {result : Except String (Step Progress (Except Failure (Torrent × Path)))}
    (shown : (l.ending source).Shows now
      (fun progress => l.progressEnding source progress = l.ending source ∧ progress.Waits now) result) :
    l.Comes source now result := by
  rcases result with crash | progress | x | found
  · exact Nat.le_of_eq (congrArg Ending.instant shown)
  · exact shown
  · exact Nat.le_of_eq (congrArg Ending.instant shown)
  · exact Nat.le_of_eq (congrArg Ending.instant shown)

theorem waiting_of_not_over {t : Trail} (goesOn : t.isOver = false) :
    ∃ progress, t.stage = .ok (.waiting progress) := by
  obtain ⟨calls, crash | progress | result⟩ := t
  · cases goesOn
  · exact ⟨progress, rfl⟩
  · cases goesOn

theorem comes_of_over {now : Nat} {t : Trail} (complete : t.isOver = true) (ended : (l.ending source).instant ≤ now) :
    l.Comes source now t.stage := by
  obtain ⟨calls, crash | progress | result⟩ := t
  · exact ended
  · cases complete
  · exact ended

theorem Comes.le {now : Nat} {t : Trail} (comes : l.Comes source now t.stage) (complete : t.isOver = true) :
    (l.ending source).instant ≤ now := by
  obtain ⟨calls, crash | progress | result⟩ := t
  · exact comes
  · cases complete
  · exact comes

/-- A lookup that is not over waits for calls that have not ended, and ends as it was to end at first; one
that is over has come to that end. -/
theorem trail_comes (l : Lookup) (source : Source) (n : Nat) :
    l.Comes source (l.now + n) (l.trail source n).stage := by
  induction n with
  | zero => exact comes_of_shows (l.start_shows source)
  | succ n ih =>
    cases complete : (l.trail source n).isOver with
    | true =>
      have ended := ih.le complete
      rw [trail_over complete]
      exact comes_of_over complete (Nat.le_succ_of_le ended)
    | false =>
      obtain ⟨progress, waiting⟩ := waiting_of_not_over complete
      rw [waiting] at ih
      obtain ⟨ending, some, early⟩ := ih
      have timely : progress.Timely (l.now + (n + 1)) := ⟨some, fun t member => early t member⟩
      have shown := ({ l with now := l.now + (n + 1) } : Lookup).resume_shows source timely
      rw [trail_waiting waiting]
      have same : ({ l with now := l.now + (n + 1) } : Lookup).progressEnding source progress = l.ending source :=
        ending
      rw [same] at shown
      exact comes_of_shows shown

theorem trail_waits (waiting : (l.trail source n).stage = .ok (.waiting progress)) :
    progress.Waits (l.now + n) := by
  have comes := l.trail_comes source n
  rw [waiting] at comes
  exact comes.2

/-- While nothing is due the trail stays where it is. -/
theorem trail_idle (waiting : (l.trail source n).stage = .ok (.waiting progress)) (later : n ≤ m)
    (waits : progress.Waits (l.now + m)) : l.trail source m = l.trail source n := by
  induction later with
  | refl => rfl
  | step later ih =>
    rename_i m
    have same := ih ⟨waits.1, fun t member => Nat.lt_of_succ_lt (waits.2 t member)⟩
    rw [trail_waiting (by rw [same]; exact waiting), same, resume_idle (l := { l with now := l.now + (m + 1) }) waits]
    change (⟨(l.trail source n).calls ++ [], .ok (.waiting progress)⟩ : Trail) = l.trail source n
    rw [List.append_nil, ← waiting]

/-- The trail ends when the lookup is to end. -/
theorem trail_isOver (l : Lookup) (source : Source) (n : Nat) :
    (l.trail source n).isOver = true ↔ (l.ending source).instant ≤ l.now + n := by
  have comes := l.trail_comes source n
  refine ⟨comes.le, fun ended => ?_⟩
  cases complete : (l.trail source n).isOver with
  | true => rfl
  | false =>
    obtain ⟨progress, waiting⟩ := waiting_of_not_over complete
    rw [waiting] at comes
    obtain ⟨ending, some, early⟩ := comes
    obtain ⟨t, member, before⟩ := due_le_ending source some
    rw [ending] at before
    have later := early t member
    omega

/-- A turn makes calls at its own instant only. -/
theorem trail_callsAt (l : Lookup) (source : Source) (n : Nat) {t : Nat} (other : t ≠ l.now + n) :
    callsAt (l.trail source n).calls t = callsAt (l.callsBefore source n) t := by
  have elsewhere : ∀ (before : List (Nat × Call)) (turn : Turn (Step Progress (Except Failure (Torrent × Path)))),
      callsAt (before ++ turn.callsAt (l.now + n)) t = callsAt before t := by
    intro before turn
    rw [callsAt, List.filterMap_append, Turn.callsAt, List.filterMap_map]
    refine (congrArg (callsAt before t ++ ·) (List.filterMap_eq_nil_iff.mpr fun c _ => ?_)).trans (List.append_nil _)
    exact if_neg other.symm
  cases n with
  | zero => exact elsewhere [] _
  | succ n =>
    cases complete : (l.trail source n).isOver with
    | true => rw [trail_over complete, callsBefore]
    | false =>
      obtain ⟨progress, waiting⟩ := waiting_of_not_over complete
      rw [trail_waiting waiting]
      exact elsewhere _ _

end Lookup

end TorrentAdmission
