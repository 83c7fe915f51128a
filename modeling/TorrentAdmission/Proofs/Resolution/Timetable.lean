import TorrentAdmission.Resolution.Path

/-!
# When a lookup ends

The scripts of a backend and the deadlines determine when a lookup ends, and how: `Lookup.ending` says
so without any turns. It is no later than the deadlines of the calls that follow one another allow.
-/

namespace TorrentAdmission

inductive Verdict (α : Type) where
  | success (value : α)
  | failure (e : Failure)
  | crash

structure Ending (α : Type) where
  instant : Nat
  verdict : Verdict α

namespace Ending

variable {α β : Type}

/-- Work that other work follows if it succeeds. -/
def andThen (e : Ending α) (f : Nat → α → Ending β) : Ending β :=
  match e.verdict with
  | .success a => f e.instant a
  | .failure x => ⟨e.instant, .failure x⟩
  | .crash => ⟨e.instant, .crash⟩

def map (f : α → β) (e : Ending α) : Ending β :=
  e.andThen fun t a => ⟨t, .success (f a)⟩

/-- How the race of two paths ends. A path that crashes brings everything down unless the other one
has succeeded before. -/
def race (p q : Ending Torrent) : Ending (Torrent × Path) :=
  match p.verdict, q.verdict with
  | .success t, .success u =>
    if p.instant ≤ q.instant then ⟨p.instant, .success (t, .primary)⟩
    else ⟨q.instant, .success (u, .prefetch)⟩
  | .success t, .failure _ => ⟨p.instant, .success (t, .primary)⟩
  | .failure _, .success u => ⟨q.instant, .success (u, .prefetch)⟩
  | .failure e, .failure f => ⟨max p.instant q.instant, .failure (.bothPaths e f)⟩
  | .success t, .crash =>
    if p.instant < q.instant then ⟨p.instant, .success (t, .primary)⟩ else ⟨q.instant, .crash⟩
  | .crash, .success u =>
    if q.instant < p.instant then ⟨q.instant, .success (u, .prefetch)⟩ else ⟨p.instant, .crash⟩
  | .failure _, .crash => ⟨q.instant, .crash⟩
  | .crash, .failure _ => ⟨p.instant, .crash⟩
  | .crash, .crash => ⟨min p.instant q.instant, .crash⟩

end Ending

def Reply.verdict? {α : Type} (op : Operation) : Reply α → Option (Verdict α)
  | .ok value => some (.success value)
  | .error detail => some (.failure (.refused op detail))
  | .crash _ => some .crash
  | .never => none

/-- How a call ends. An answer at the very deadline counts. -/
def Attempt.ending {α : Type} (op : Operation) (a : Attempt α) : Ending α :=
  let overdue : Ending α := ⟨a.since + a.limit, .failure (.timedOut op a.limit)⟩
  match a.script.reply.verdict? op with
  | some verdict => if a.script.after ≤ a.limit then ⟨a.since + a.script.after, verdict⟩ else overdue
  | none => overdue

namespace Lookup

variable (l : Lookup)

/-! ### Direct sources -/

def fileEnding (filename : String) (a : Attempt Info) : Ending Torrent :=
  (a.ending .torrentInfo).map (.describe (.submission l.submission) filename)

/-- How a direct source on its way ends. What was downloaded is described under a deadline of its own. -/
def directEnding : DirectState → Ending Torrent
  | .describing filename a => l.fileEnding filename a
  | .downloading a => (a.ending .download).andThen fun t filename =>
    l.fileEnding filename ⟨t, l.limits.call, l.backend.torrentInfo l.submission (.file filename)⟩

/-! ### Magnet links -/

def primaryEnding (uri : String) (a : Attempt Info) : Ending Torrent :=
  (a.ending .magnetInfo).map (.describe (.submission l.submission) uri)

def metadataEnding (uri : String) (hash : InfoHash) (a : Attempt Info) : Ending Torrent :=
  (a.ending .torrentInfo).map (.describe (.infoHash hash) uri)

/-- What becomes of metadata that were fetched at the instant `t`. They are described under a deadline
of their own, if they can be used. -/
def useEnding (uri : String) (t : Nat) (p : Prefetched) : Ending Torrent :=
  if (Text.trim p.infoHash).isEmpty then ⟨t, .failure (.blankHash p.infoHash)⟩
  else
    match Text.Base64.decode? (Text.trimChars p.metadata.toList) with
    | none => ⟨t, .failure (.unusable p.infoHash Failure.notBase64)⟩
    | some [] => ⟨t, .failure (.unusable p.infoHash Failure.noMetadata)⟩
    | some bytes => metadataEnding uri ⟨Text.trim p.infoHash⟩
        ⟨t, l.limits.call, l.backend.torrentInfo l.submission (.metadata bytes)⟩

def prefetchEnding (uri : String) : PrefetchState → Ending Torrent
  | .describing hash a => metadataEnding uri hash a
  | .fetching a => (a.ending .prefetch).andThen (l.useEnding uri)

/-! ### Both -/

def ending : Source → Ending (Torrent × Path)
  | .direct url cookies =>
    (l.directEnding (.downloading ⟨l.now, l.limits.call, l.backend.download l.submission url cookies⟩)).map
      (·, .direct)
  | .magnet uri =>
    (l.primaryEnding uri ⟨l.now, l.limits.call, l.backend.magnetInfo l.submission uri⟩).race
      (l.prefetchEnding uri (.fetching ⟨l.now, l.limits.prefetch, l.backend.prefetch l.submission uri⟩))

end Lookup

/-! ### Single calls -/

namespace Attempt

variable {α : Type} {op : Operation} {a : Attempt α} {now : Nat}

theorem ending_instant (op : Operation) (a : Attempt α) : (a.ending op).instant ∈ a.instants := by
  unfold ending
  split
  · split <;> simp [instants]
  · simp [instants]

theorem ending_le (op : Operation) (a : Attempt α) : (a.ending op).instant ≤ a.since + a.limit := by
  unfold ending
  split
  · split
    · rename_i early
      exact Nat.add_le_add_left early a.since
    · exact Nat.le_refl _
  · exact Nat.le_refl _

theorem since_le (op : Operation) (since limit : Nat) (script : Script α) :
    since ≤ ((⟨since, limit, script⟩ : Attempt α).ending op).instant := by
  have member := ending_instant op ⟨since, limit, script⟩
  simp only [instants, List.mem_cons, List.not_mem_nil, or_false] at member
  omega

theorem ending_overdue (unanswered : a.limit < a.script.after ∨ a.script.reply = .never) :
    a.ending op = ⟨a.since + a.limit, .failure (.timedOut op a.limit)⟩ := by
  unfold ending
  split
  · rename_i verdict replied
    rcases unanswered with late | never
    · exact if_neg (Nat.not_le_of_lt late)
    · rw [never] at replied
      cases replied
  · rfl

/-- A call that is found answered no later than it ends has just ended with the answer. -/
theorem ending_answered {verdict : Verdict α} (replied : a.script.reply.verdict? op = some verdict)
    (answered : a.since + a.script.after ≤ now) (punctual : now ≤ (a.ending op).instant) :
    a.ending op = ⟨now, verdict⟩ := by
  have early : a.script.after ≤ a.limit := by
    refine Nat.le_of_not_lt fun late => ?_
    rw [a.ending_overdue (Or.inl late)] at punctual
    change now ≤ a.since + a.limit at punctual
    omega
  have ends : a.ending op = ⟨a.since + a.script.after, verdict⟩ := by
    unfold ending
    rw [replied]
    exact if_pos early
  rw [ends] at punctual ⊢
  rw [Nat.le_antisymm answered punctual]

end Attempt

/-! ### Work that other work follows -/

namespace Ending

variable {α β : Type} {p q : Ending Torrent} {now : Nat}

theorem andThen_success (t : Nat) (a : α) (f : Nat → α → Ending β) :
    (⟨t, .success a⟩ : Ending α).andThen f = f t a := rfl

theorem andThen_instant {e : Ending α} {g : Nat → α → Ending β} (later : ∀ t a, t ≤ (g t a).instant) :
    e.instant ≤ (e.andThen g).instant := by
  obtain ⟨instant, a | x | _⟩ := e
  · exact later instant a
  · exact Nat.le_refl instant
  · exact Nat.le_refl instant

theorem map_instant {e : Ending α} {f : α → β} : e.instant ≤ (e.map f).instant :=
  andThen_instant fun t _ => Nat.le_refl t

theorem andThen_le {e : Ending α} {g : Nat → α → Ending β} {limit : Nat}
    (sooner : ∀ t a, (g t a).instant ≤ t + limit) : (e.andThen g).instant ≤ e.instant + limit := by
  obtain ⟨instant, a | x | _⟩ := e
  · exact sooner instant a
  · exact Nat.le_add_right instant limit
  · exact Nat.le_add_right instant limit

theorem map_le {e : Ending α} {f : α → β} : (e.map f).instant ≤ e.instant := by
  obtain ⟨instant, a | x | _⟩ := e <;> exact Nat.le_refl instant

/-! ### Races -/

theorem race_instant (p q : Ending Torrent) :
    p.instant ≤ (p.race q).instant ∨ q.instant ≤ (p.race q).instant := by
  unfold race
  split
  · split
    · exact Or.inl (Nat.le_refl _)
    · exact Or.inr (Nat.le_refl _)
  · exact Or.inl (Nat.le_refl _)
  · exact Or.inr (Nat.le_refl _)
  · exact Or.inl (Nat.le_max_left _ _)
  · split
    · exact Or.inl (Nat.le_refl _)
    · exact Or.inr (Nat.le_refl _)
  · split
    · exact Or.inr (Nat.le_refl _)
    · exact Or.inl (Nat.le_refl _)
  · exact Or.inr (Nat.le_refl _)
  · exact Or.inl (Nat.le_refl _)
  · dsimp only
    omega

theorem race_le (p q : Ending Torrent) : (p.race q).instant ≤ max p.instant q.instant := by
  have first : p.instant ≤ max p.instant q.instant := Nat.le_max_left _ _
  have second : q.instant ≤ max p.instant q.instant := Nat.le_max_right _ _
  unfold race
  split
  · split
    · exact first
    · exact second
  · exact first
  · exact second
  · exact Nat.le_refl _
  · split
    · exact first
    · exact second
  · split
    · exact second
    · exact first
  · exact second
  · exact first
  · exact Nat.le_trans (Nat.min_le_left _ _) first

theorem race_instant_right {x : Failure} (failed : p.verdict = .failure x) :
    q.instant ≤ (p.race q).instant := by
  obtain ⟨first, verdict⟩ := p
  obtain ⟨second, verdict'⟩ := q
  cases failed
  cases verdict' with
  | success u => exact Nat.le_refl second
  | failure y => exact Nat.le_max_right first second
  | crash => exact Nat.le_refl second

theorem race_instant_left {x : Failure} (failed : q.verdict = .failure x) :
    p.instant ≤ (p.race q).instant := by
  obtain ⟨first, verdict⟩ := p
  obtain ⟨second, verdict'⟩ := q
  cases failed
  cases verdict with
  | success t => exact Nat.le_refl first
  | failure y => exact Nat.le_max_left first second
  | crash => exact Nat.le_refl first

/-- The path has not succeeded before the instant `now`. -/
def Open {α : Type} (e : Ending α) (now : Nat) : Prop := now ≤ e.instant ∨ ∃ x, e.verdict = .failure x

/-- The path has not succeeded, nor crashed, up to the instant `now`. -/
def Late {α : Type} (e : Ending α) (now : Nat) : Prop := now < e.instant ∨ ∃ x, e.verdict = .failure x

theorem Late.open {α : Type} {e : Ending α} (late : e.Late now) : e.Open now :=
  late.imp_left Nat.le_of_lt

theorem race_left {t : Torrent} (wins : p = ⟨now, .success t⟩) (other : (∃ u, q = ⟨now, .success u⟩) ∨ q.Late now) :
    p.race q = ⟨now, .success (t, .primary)⟩ := by
  subst wins
  obtain ⟨instant, verdict⟩ := q
  rcases other with ⟨u, same⟩ | later | ⟨x, failed⟩
  · cases same
    exact if_pos (Nat.le_refl now)
  · cases verdict with
    | success u => exact if_pos (Nat.le_of_lt later)
    | failure x => rfl
    | crash => exact if_pos later
  · cases failed
    rfl

theorem race_right {u : Torrent} (wins : q = ⟨now, .success u⟩) (other : p.Late now) :
    p.race q = ⟨now, .success (u, .prefetch)⟩ := by
  subst wins
  obtain ⟨instant, verdict⟩ := p
  rcases other with later | ⟨x, failed⟩
  · cases verdict with
    | success t => exact if_neg (Nat.not_le_of_lt later)
    | failure x => rfl
    | crash => exact if_pos later
  · cases failed
    rfl

theorem race_crash_left (crashes : p = ⟨now, .crash⟩) (other : q.Open now) : p.race q = ⟨now, .crash⟩ := by
  subst crashes
  obtain ⟨instant, verdict⟩ := q
  rcases other with later | ⟨x, failed⟩
  · cases verdict with
    | success u => exact if_neg (Nat.not_lt_of_le later)
    | failure x => rfl
    | crash => exact congrArg (Ending.mk · _) (Nat.min_eq_left later)
  · cases failed
    rfl

theorem race_crash_right (crashes : q = ⟨now, .crash⟩) (other : p.Open now) : p.race q = ⟨now, .crash⟩ := by
  subst crashes
  obtain ⟨instant, verdict⟩ := p
  rcases other with later | ⟨x, failed⟩
  · cases verdict with
    | success t => exact if_neg (Nat.not_lt_of_le later)
    | failure x => rfl
    | crash => exact congrArg (Ending.mk · _) (Nat.min_eq_right later)
  · cases failed
    rfl

theorem race_neither {x y : Failure} (left : p.verdict = .failure x) (right : q.verdict = .failure y) :
    p.race q = ⟨max p.instant q.instant, .failure (.bothPaths x y)⟩ := by
  unfold race
  rw [left, right]

/-- Once a path has failed it no longer matters when. -/
theorem race_failed_left {x : Failure} (failed : p.verdict = .failure x) (before : p.instant ≤ q.instant) :
    Ending.race ⟨0, .failure x⟩ q = p.race q := by
  obtain ⟨instant, verdict⟩ := p
  obtain ⟨other, result⟩ := q
  cases failed
  cases result with
  | success u => rfl
  | failure y =>
    have same := (Nat.max_eq_right (Nat.zero_le other)).trans (Nat.max_eq_right before).symm
    exact congrArg (Ending.mk · _) same
  | crash => rfl

theorem race_failed_right {x : Failure} (failed : q.verdict = .failure x) (before : q.instant ≤ p.instant) :
    p.race ⟨0, .failure x⟩ = p.race q := by
  obtain ⟨instant, verdict⟩ := q
  obtain ⟨other, result⟩ := p
  cases failed
  cases result with
  | success u => rfl
  | failure y =>
    have same := (Nat.max_eq_left (Nat.zero_le other)).trans (Nat.max_eq_left before).symm
    exact congrArg (Ending.mk · _) same
  | crash => rfl

end Ending

/-! ### The calls that are waited for -/

def DirectState.due : DirectState → Nat
  | .downloading a => (a.ending .download).instant
  | .describing _ a => (a.ending .torrentInfo).instant

def PrefetchState.due : PrefetchState → Nat
  | .fetching a => (a.ending .prefetch).instant
  | .describing _ a => (a.ending .torrentInfo).instant

def Attempt.primaryDue (a : Attempt Info) : Nat := (a.ending .magnetInfo).instant

namespace Lookup

variable {l : Lookup}

theorem due_le_primary (uri : String) (a : Attempt Info) : a.primaryDue ≤ (l.primaryEnding uri a).instant :=
  Ending.map_instant

theorem due_le_direct (state : DirectState) : state.due ≤ (l.directEnding state).instant := by
  cases state with
  | describing filename a => exact Ending.map_instant
  | downloading a =>
    refine Ending.andThen_instant fun t filename => ?_
    exact Nat.le_trans (Attempt.since_le .torrentInfo _ _ _) Ending.map_instant

theorem due_le_prefetch (uri : String) (state : PrefetchState) :
    state.due ≤ (l.prefetchEnding uri state).instant := by
  cases state with
  | describing hash a => exact Ending.map_instant
  | fetching a =>
    refine Ending.andThen_instant fun t p => ?_
    unfold useEnding
    split
    · exact Nat.le_refl t
    · split
      · exact Nat.le_refl t
      · exact Nat.le_refl t
      · exact Nat.le_trans (Attempt.since_le .torrentInfo _ _ _) Ending.map_instant

/-! ### How long a lookup takes -/

theorem fileEnding_le (filename : String) (t : Nat) (script : Script Info) :
    (l.fileEnding filename ⟨t, l.limits.call, script⟩).instant ≤ t + l.limits.call :=
  Nat.le_trans Ending.map_le (Attempt.ending_le _ _)

theorem useEnding_le (uri : String) (t : Nat) (p : Prefetched) :
    (l.useEnding uri t p).instant ≤ t + l.limits.call := by
  unfold useEnding
  split
  · exact Nat.le_add_right t _
  · split
    · exact Nat.le_add_right t _
    · exact Nat.le_add_right t _
    · exact Nat.le_trans Ending.map_le (Attempt.ending_le _ _)

theorem now_le_ending (l : Lookup) (source : Source) : l.now ≤ (l.ending source).instant := by
  cases source with
  | direct url cookies =>
    exact Nat.le_trans (Attempt.since_le .download _ _ _)
      (Nat.le_trans (due_le_direct (.downloading _)) Ending.map_instant)
  | magnet uri =>
    have primary := Nat.le_trans (Attempt.since_le .magnetInfo l.now l.limits.call
      (l.backend.magnetInfo l.submission uri)) (due_le_primary (l := l) uri _)
    have prefetch := Nat.le_trans (Attempt.since_le .prefetch l.now l.limits.prefetch
      (l.backend.prefetch l.submission uri)) (due_le_prefetch (l := l) uri (.fetching _))
    rcases Ending.race_instant (l.primaryEnding uri _) (l.prefetchEnding uri (.fetching _)) with first | second
    · exact Nat.le_trans primary first
    · exact Nat.le_trans prefetch second

/-- A lookup takes no longer than the deadlines of the calls that it may make one after another. -/
theorem ending_le (l : Lookup) (source : Source) :
    (l.ending source).instant ≤ l.now + (2 * l.limits.call + l.limits.prefetch) := by
  cases source with
  | direct url cookies =>
    have calls : (l.ending (.direct url cookies)).instant ≤ l.now + l.limits.call + l.limits.call :=
      Nat.le_trans Ending.map_le (Nat.le_trans (Ending.andThen_le fun t filename => fileEnding_le filename t _)
        (Nat.add_le_add_right (Attempt.ending_le _ _) _))
    omega
  | magnet uri =>
    let a : Attempt Info := ⟨l.now, l.limits.call, l.backend.magnetInfo l.submission uri⟩
    let b : Attempt Prefetched := ⟨l.now, l.limits.prefetch, l.backend.prefetch l.submission uri⟩
    have primary : (l.primaryEnding uri a).instant ≤ l.now + l.limits.call :=
      Nat.le_trans Ending.map_le (Attempt.ending_le _ _)
    have prefetch : (l.prefetchEnding uri (.fetching b)).instant ≤ l.now + l.limits.prefetch + l.limits.call :=
      Nat.le_trans (Ending.andThen_le fun t p => useEnding_le uri t p)
        (Nat.add_le_add_right (Attempt.ending_le _ _) _)
    have race := Ending.race_le (l.primaryEnding uri a) (l.prefetchEnding uri (.fetching b))
    change ((l.primaryEnding uri a).race (l.prefetchEnding uri (.fetching b))).instant ≤ _
    omega

end Lookup

end TorrentAdmission
