import TorrentAdmission.Resolution.Race
import TorrentAdmission.Resolution.Attempt

/-!
# Answers that are heard

A call is looked at in the turns of its lookup only, so its reply is heard in the first turn that finds it
there, provided that no turn before has found the deadline over. A side of a race succeeds or crashes in
the turn in which it hears so.
-/

namespace TorrentAdmission

/-! ### Answers that are heard -/

namespace Attempt

variable {α : Type}

/-- The reply is there at the instant `n`, and at none of the instants before it was there or the deadline
over. -/
structure HeardAt (a : Attempt α) (early : List Nat) (n : Nat) : Prop where
  there : a.since + a.script.after ≤ n
  before : ∀ t ∈ early, t < a.since + a.script.after ∧ t < a.since + a.limit

/-- The reply is heard in one of the turns at these instants. -/
def Heard (a : Attempt α) (turns : List Nat) : Prop :=
  ∃ early n late, turns = early ++ n :: late ∧ a.HeardAt early n

def Succeeds (a : Attempt α) (turns : List Nat) : Prop :=
  (∃ value, a.script.reply = .ok value) ∧ a.Heard turns

def Crashes (a : Attempt α) (turns : List Nat) : Prop :=
  (∃ detail, a.script.reply = .crash detail) ∧ a.Heard turns

/-- The call neither succeeds nor crashes, however long it is waited for. -/
def Quiet (a : Attempt α) : Prop :=
  (∀ value, a.script.reply ≠ .ok value) ∧ ∀ detail, a.script.reply ≠ .crash detail

/-- There is a turn at the deadline, unless there is none later. -/
def Prompt (a : Attempt α) (turns : List Nat) : Prop :=
  ∀ t ∈ turns, a.since + a.limit < t → a.since + a.limit ∈ turns

variable {a : Attempt α} {n : Nat} {turns : List Nat}

theorem heardAt_nil : a.HeardAt [] n ↔ a.since + a.script.after ≤ n :=
  ⟨HeardAt.there, fun there => ⟨there, fun _ member => nomatch member⟩⟩

theorem heardAt_cons {early : List Nat} {m : Nat} : a.HeardAt (n :: early) m ↔
    (n < a.since + a.script.after ∧ n < a.since + a.limit) ∧ a.HeardAt early m := by
  constructor
  · rintro ⟨there, before⟩
    exact ⟨before n List.mem_cons_self, there, fun t member => before t (List.mem_cons_of_mem n member)⟩
  · rintro ⟨first, there, before⟩
    refine ⟨there, fun t member => ?_⟩
    rcases List.mem_cons.mp member with rfl | rest
    · exact first
    · exact before t rest

@[simp] theorem not_heard_nil : ¬ a.Heard [] := by
  rintro ⟨early, n, late, parts, -⟩
  exact List.append_ne_nil_of_right_ne_nil early (List.cons_ne_nil n late) parts.symm

theorem exists_split_cons {P : List Nat → Nat → Prop} :
    (∃ early m late, n :: turns = early ++ m :: late ∧ P early m) ↔
      P [] n ∨ ∃ early m late, turns = early ++ m :: late ∧ P (n :: early) m := by
  constructor
  · rintro ⟨early, m, late, parts, holds⟩
    cases early with
    | nil =>
      obtain ⟨rfl, -⟩ := List.cons.inj parts
      exact Or.inl holds
    | cons t early =>
      obtain ⟨rfl, rest⟩ := List.cons.inj parts
      exact Or.inr ⟨early, m, late, rest, holds⟩
  · rintro (holds | ⟨early, m, late, rfl, holds⟩)
    · exact ⟨[], n, turns, rfl, holds⟩
    · exact ⟨n :: early, m, late, rfl, holds⟩

/-- The first turn hears the reply, or it finds nothing and leaves it to the others. -/
theorem heard_cons : a.Heard (n :: turns) ↔ a.since + a.script.after ≤ n ∨
    (n < a.since + a.script.after ∧ n < a.since + a.limit) ∧ a.Heard turns := by
  refine exists_split_cons.trans (or_congr heardAt_nil ?_)
  simp only [heardAt_cons]
  constructor
  · rintro ⟨early, m, late, parts, nothing, heard⟩
    exact ⟨nothing, early, m, late, parts, heard⟩
  · rintro ⟨nothing, early, m, late, parts, heard⟩
    exact ⟨early, m, late, parts, nothing, heard⟩

theorem heard_of_there (there : a.since + a.script.after ≤ n) : a.Heard (n :: turns) :=
  heard_cons.mpr (Or.inl there)

theorem heard_of_waiting (unanswered : n < a.since + a.script.after) (undue : n < a.since + a.limit) :
    a.Heard (n :: turns) ↔ a.Heard turns := by
  rw [heard_cons, or_iff_right (Nat.not_le_of_lt unanswered), and_iff_right ⟨unanswered, undue⟩]

theorem not_heard_of_due (unanswered : n < a.since + a.script.after) (due : a.since + a.limit ≤ n) :
    ¬ a.Heard (n :: turns) := by
  rw [heard_cons, or_iff_right (Nat.not_le_of_lt unanswered)]
  exact fun heard => Nat.not_lt_of_le due heard.1.2

theorem quiet_of_never (never : a.script.reply = .never) : a.Quiet := by simp [Quiet, never]

theorem quiet_of_error {detail : String} (refused : a.script.reply = .error detail) : a.Quiet := by
  simp [Quiet, refused]

/-- Where there is a turn at the deadline, a reply is heard if it comes by then and there is a turn after
it. -/
theorem heard_of_prompt (ascending : turns.Pairwise (· ≤ ·)) (prompt : a.Prompt turns) :
    a.Heard turns ↔ a.script.after ≤ a.limit ∧ ∃ n ∈ turns, a.since + a.script.after ≤ n := by
  constructor
  · rintro ⟨early, n, late, rfl, there, before⟩
    refine ⟨Nat.le_of_not_lt fun slow => ?_, n, List.mem_append_right early List.mem_cons_self, there⟩
    -- a reply that is late is there after the deadline only, and so after a turn that finds it over
    have deadline := prompt n (List.mem_append_right early List.mem_cons_self) (by omega)
    rcases List.mem_append.mp deadline with found | found
    · exact Nat.lt_irrefl _ (before _ found).2
    · have after : n ≤ a.since + a.limit := by
        rcases List.mem_cons.mp found with same | later
        · exact Nat.le_of_eq same.symm
        · exact List.rel_of_pairwise_cons (List.pairwise_append.mp ascending).2.1 later
      omega
  · rintro ⟨inTime, n, member, there⟩
    -- the first turn that finds the reply there has none before it that is past the deadline
    clear prompt
    induction turns with
    | nil => cases member
    | cons t rest ih =>
      by_cases now : a.since + a.script.after ≤ t
      · exact heard_of_there now
      · have unanswered := Nat.lt_of_not_le now
        rw [heard_of_waiting unanswered (by omega)]
        rcases List.mem_cons.mp member with rfl | later
        · exact absurd there now
        · exact ih ascending.of_cons later

/-! ### Single turns -/

/-- What a turn at the instant `now` finds out about the call. -/
inductive Poll (op : Operation) (a : Attempt α) (now : Nat) :
    Turn (Step (Attempt α) (Except Failure α)) → Prop
  | answered (value : α) (reply : a.script.reply = .ok value) (there : a.since + a.script.after ≤ now) :
      Poll op a now (a.answer (.ok value))
  | refused (detail : String) (reply : a.script.reply = .error detail) :
      Poll op a now (a.answer (.error (.refused op detail)))
  | crashed (detail : String) (reply : a.script.reply = .crash detail)
      (there : a.since + a.script.after ≤ now) : Poll op a now (.crash detail)
  | timedOut (unanswered : now < a.since + a.script.after ∨ a.script.reply = .never)
      (due : a.since + a.limit ≤ now) : Poll op a now (pure (.done (.error (.timedOut op a.limit))))
  | waits (unanswered : now < a.since + a.script.after ∨ a.script.reply = .never)
      (undue : now < a.since + a.limit) : Poll op a now (pure (.waiting a))

theorem poll_cases (op : Operation) (a : Attempt α) (now : Nat) : Poll op a now (a.poll op now) := by
  have overdue : now < a.since + a.script.after ∨ a.script.reply = .never →
      Poll op a now (a.overdue op now) := by
    intro unanswered
    unfold overdue
    split
    · rename_i due
      exact .timedOut unanswered due
    · rename_i undue
      exact .waits unanswered (Nat.lt_of_not_le undue)
  unfold poll
  split
  · rename_i there
    cases reply : a.script.reply with
    | ok value => exact .answered value reply there
    | error detail => exact .refused detail reply
    | crash detail => exact .crashed detail reply there
    | never => exact overdue (Or.inr reply)
  · rename_i unanswered
    exact overdue (Or.inl (Nat.lt_of_not_le unanswered))

end Attempt

/-! ### Sides of a race -/

namespace Lane

variable {α β ε : Type}

def Succeeds (lane : Lane (Attempt α) ε) (turns : List Nat) : Prop :=
  match lane with
  | .running a => a.Succeeds turns
  | .failed _ => False

def Crashes (lane : Lane (Attempt α) ε) (turns : List Nat) : Prop :=
  match lane with
  | .running a => a.Crashes turns
  | .failed _ => False

/-- What a turn at the instant `n` does to a side of a race. -/
inductive Plays (lane : Lane (Attempt α) ε) (n : Nat) :
    Except String (Except β (Lane (Attempt α) ε)) → Prop
  | crashes (detail : String) (crashes : ∀ rest, lane.Crashes (n :: rest)) : Plays lane n (.error detail)
  | wins (value : β) (succeeds : ∀ rest, lane.Succeeds (n :: rest)) (sound : ∀ turns, ¬ lane.Crashes turns) :
      Plays lane n (.ok (.error value))
  | goesOn (next : Lane (Attempt α) ε) (succeeds : ∀ rest, lane.Succeeds (n :: rest) ↔ next.Succeeds rest)
      (crashes : ∀ rest, lane.Crashes (n :: rest) ↔ next.Crashes rest) : Plays lane n (.ok (.ok next))

variable {lane : Lane (Attempt α) ε} {n : Nat}

theorem not_succeeds_nil : ¬ lane.Succeeds [] := by
  cases lane with
  | running a => exact fun succeeds => Attempt.not_heard_nil succeeds.2
  | failed e => exact id

theorem not_crashes_nil : ¬ lane.Crashes [] := by
  cases lane with
  | running a => exact fun crashes => Attempt.not_heard_nil crashes.2
  | failed e => exact id

theorem Plays.crashes_now {result : Except String (Except β (Lane (Attempt α) ε))} (plays : lane.Plays n result) :
    lane.Crashes [n] ↔ ∃ detail, result = .error detail := by
  cases plays with
  | crashes detail crashes => exact ⟨fun _ => ⟨detail, rfl⟩, fun _ => crashes []⟩
  | wins value succeeds sound => exact iff_of_false (sound _) (by simp)
  | goesOn next succeeds crashes => exact iff_of_false (fun h => not_crashes_nil ((crashes []).mp h)) (by simp)

theorem plays_failed (silent : ∀ rest, ¬ lane.Succeeds (n :: rest) ∧ ¬ lane.Crashes (n :: rest)) (e : ε) :
    lane.Plays n (.ok (.ok (.failed e)) : Except String (Except β _)) :=
  .goesOn (.failed e) (fun rest => iff_of_false (silent rest).1 id) fun rest => iff_of_false (silent rest).2 id

variable {a : Attempt α}

theorem running_quiet (quiet : a.Quiet) (turns : List Nat) :
    ¬ (running a : Lane (Attempt α) ε).Succeeds turns ∧
      ¬ (running a : Lane (Attempt α) ε).Crashes turns :=
  ⟨fun ⟨⟨value, reply⟩, _⟩ => quiet.1 value reply, fun ⟨⟨detail, reply⟩, _⟩ => quiet.2 detail reply⟩

theorem running_timedOut (unanswered : n < a.since + a.script.after ∨ a.script.reply = .never)
    (due : a.since + a.limit ≤ n) (e : ε) :
    (running a).Plays n (.ok (.ok (.failed e)) : Except String (Except β _)) := by
  refine plays_failed (fun rest => ?_) e
  rcases unanswered with soon | never
  · have unheard : ¬ a.Heard (n :: rest) := Attempt.not_heard_of_due soon due
    exact ⟨fun succeeds => unheard succeeds.2, fun crashes => unheard crashes.2⟩
  · exact running_quiet (Attempt.quiet_of_never never) _

theorem running_waits (unanswered : n < a.since + a.script.after ∨ a.script.reply = .never)
    (undue : n < a.since + a.limit) :
    (running a : Lane (Attempt α) ε).Plays n (.ok (.ok (.running a)) : Except String (Except β _)) := by
  rcases unanswered with soon | never
  · exact .goesOn _ (fun rest => and_congr_right fun _ => Attempt.heard_of_waiting soon undue)
      fun rest => and_congr_right fun _ => Attempt.heard_of_waiting soon undue
  · have quiet := running_quiet (ε := ε) (Attempt.quiet_of_never never)
    exact .goesOn _ (fun rest => iff_of_false (quiet _).1 (quiet _).1)
      fun rest => iff_of_false (quiet _).2 (quiet _).2

end Lane

/-! ### Answers heard beside another side of a race -/

namespace Attempt

variable {α β γ ε : Type}

/-- The reply is heard in a turn before which the other side has not succeeded, and up to which, that turn
included, it has not crashed. -/
def HeardBeside (q : Attempt γ) (other : Lane (Attempt α) ε) (turns : List Nat) : Prop :=
  ∃ early n late, turns = early ++ n :: late ∧ q.HeardAt early n ∧
    ¬ other.Succeeds early ∧ ¬ other.Crashes (early ++ [n])

variable {q : Attempt γ} {other next : Lane (Attempt α) ε} {n : Nat} {turns : List Nat}

theorem HeardBeside.heard (beside : q.HeardBeside other turns) : q.Heard turns := by
  obtain ⟨early, n, late, parts, heard, -⟩ := beside
  exact ⟨early, n, late, parts, heard⟩

theorem heardBeside_cons : q.HeardBeside other (n :: turns) ↔
    q.since + q.script.after ≤ n ∧ ¬ other.Crashes [n] ∨
      (n < q.since + q.script.after ∧ n < q.since + q.limit) ∧
        ∃ early m late, turns = early ++ m :: late ∧ q.HeardAt early m ∧
          ¬ other.Succeeds (n :: early) ∧ ¬ other.Crashes (n :: (early ++ [m])) := by
  refine exists_split_cons.trans (or_congr ?_ ?_)
  · rw [heardAt_nil, and_iff_right Lane.not_succeeds_nil, List.nil_append]
  · simp only [heardAt_cons]
    constructor
    · rintro ⟨early, m, late, parts, ⟨nothing, heard⟩, free⟩
      exact ⟨nothing, early, m, late, parts, heard, free⟩
    · rintro ⟨nothing, early, m, late, parts, heard, free⟩
      exact ⟨early, m, late, parts, ⟨nothing, heard⟩, free⟩

theorem not_heardBeside_of_crashes (crashes : ∀ rest, other.Crashes (n :: rest)) :
    ¬ q.HeardBeside other (n :: turns) := by
  rw [heardBeside_cons]
  rintro (⟨-, sound⟩ | ⟨-, early, m, late, -, -, -, sound⟩)
  · exact sound (crashes [])
  · exact sound (crashes (early ++ [m]))

/-- A turn in which the other side succeeds is the last one. -/
theorem heardBeside_of_wins (succeeds : ∀ rest, other.Succeeds (n :: rest))
    (sound : ∀ turns, ¬ other.Crashes turns) :
    q.HeardBeside other (n :: turns) ↔ q.since + q.script.after ≤ n := by
  rw [heardBeside_cons, and_iff_left (sound [n])]
  refine or_iff_left ?_
  rintro ⟨-, early, m, late, -, -, before, -⟩
  exact before (succeeds early)

theorem heardBeside_of_there (there : q.since + q.script.after ≤ n) (sound : ¬ other.Crashes [n]) :
    q.HeardBeside other (n :: turns) :=
  heardBeside_cons.mpr (Or.inl ⟨there, sound⟩)

/-- A turn in which neither side comes to anything leaves it to the others. -/
theorem heardBeside_of_goesOn (succeeds : ∀ rest, other.Succeeds (n :: rest) ↔ next.Succeeds rest)
    (crashes : ∀ rest, other.Crashes (n :: rest) ↔ next.Crashes rest)
    (unanswered : n < q.since + q.script.after) (undue : n < q.since + q.limit) :
    q.HeardBeside other (n :: turns) ↔ q.HeardBeside next turns := by
  have unheard : ¬ (q.since + q.script.after ≤ n ∧ ¬ other.Crashes [n]) :=
    fun heard => Nat.not_le_of_lt unanswered heard.1
  rw [heardBeside_cons, or_iff_right unheard, and_iff_right ⟨unanswered, undue⟩]
  simp only [succeeds, crashes, HeardBeside]

end Attempt

end TorrentAdmission
