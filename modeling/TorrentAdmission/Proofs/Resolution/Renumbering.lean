import TorrentAdmission.Proofs.Resolution.Punctuality

/-!
# Renumbered backends

The scripts of a backend say which submissions are cancelled on an answer. When submissions go by other
numbers, or are not there any more, a lookup does the same as before, with these numbers replaced.
-/

namespace TorrentAdmission

section
variable (f : Nat → Option Nat)

def Script.renumber {α : Type} (s : Script α) : Script α := { s with cancels := s.cancels.bind f }

def Backend.renumber (b : Backend) : Backend where
  magnetInfo submission uri := (b.magnetInfo submission uri).renumber f
  prefetch submission uri := (b.prefetch submission uri).renumber f
  download submission url cookies := (b.download submission url cookies).renumber f
  torrentInfo submission query := (b.torrentInfo submission query).renumber f

def Lookup.renumber (l : Lookup) : Lookup := { l with backend := l.backend.renumber f }

def Attempt.renumber {α : Type} (a : Attempt α) : Attempt α := { a with script := a.script.renumber f }

def DirectState.renumber : DirectState → DirectState
  | .downloading a => .downloading (a.renumber f)
  | .describing filename a => .describing filename (a.renumber f)

def PrefetchState.renumber : PrefetchState → PrefetchState
  | .fetching a => .fetching (a.renumber f)
  | .describing hash a => .describing hash (a.renumber f)

end

def Lane.map {σ τ ε : Type} (g : σ → τ) : Lane σ ε → Lane τ ε
  | .running state => .running (g state)
  | .failed e => .failed e

def Race.map {σ τ υ ω ε : Type} (g : σ → υ) (h : τ → ω) (race : Race σ τ ε) : Race υ ω ε :=
  ⟨race.left.map g, race.right.map h⟩

def Step.map {σ τ α : Type} (g : σ → τ) : Step σ α → Step τ α
  | .waiting state => .waiting (g state)
  | .done result => .done result

def Progress.renumber (f : Nat → Option Nat) : Progress → Progress
  | .direct state => .direct (state.renumber f)
  | .magnet race => .magnet (race.map (Attempt.renumber f) (PrefetchState.renumber f))

def Act.renumber (f : Nat → Option Nat) : Act → Option Act
  | .cancel k => (f k).map .cancel
  | act => some act

namespace Turn

variable {α β γ δ : Type} (f : Nat → Option Nat)

def renumber (g : α → β) (t : Turn α) : Turn β := ⟨t.acts.filterMap (Act.renumber f), t.result.map g⟩

theorem renumber_bind (g : α → β) (h : γ → δ) {t : Turn α} {u : Turn β} {k : α → Turn γ} {m : β → Turn δ}
    (first : t.renumber f g = u) (rest : ∀ a, (k a).renumber f h = m (g a)) :
    (t >>= k).renumber f h = u >>= m := by
  subst first
  obtain ⟨acts, crash | a⟩ := t
  · rfl
  · change (⟨(acts ++ (k a).acts).filterMap (Act.renumber f), (k a).result.map h⟩ : Turn δ) =
      ⟨acts.filterMap (Act.renumber f) ++ (m (g a)).acts, (m (g a)).result⟩
    rw [List.filterMap_append, ← rest a]
    rfl

theorem renumber_note (topic : Topic) (fields : Fields) : (note topic fields).renumber f id = note topic fields := rfl

end Turn

namespace Attempt

variable {α : Type} (f : Nat → Option Nat) (op : Operation) (a : Attempt α) (now : Nat)

theorem renumber_overdue :
    (a.overdue op now).renumber f (Step.map (Attempt.renumber f)) = (a.renumber f).overdue op now := by
  unfold overdue
  by_cases late : a.since + a.limit ≤ now
  · rw [if_pos late]
    exact (if_pos late).symm
  · rw [if_neg late]
    exact (if_neg late).symm

theorem renumber_answer (result : Except Failure α) :
    (a.answer result).renumber f (Step.map (Attempt.renumber f)) = (a.renumber f).answer result := by
  rcases a with ⟨since, limit, reply, after, none | k⟩
  · rfl
  · cases renumbered : f k <;>
      simp [answer, Turn.renumber, Attempt.renumber, Script.renumber, Act.renumber, Except.map, Step.map, renumbered]

theorem renumber_poll :
    (a.poll op now).renumber f (Step.map (Attempt.renumber f)) = (a.renumber f).poll op now := by
  unfold poll
  by_cases answered : a.since + a.script.after ≤ now
  · rw [if_pos answered, if_pos (show (a.renumber f).since + (a.renumber f).script.after ≤ now from answered)]
    have same : (a.renumber f).script.reply = a.script.reply := rfl
    rw [same]
    cases a.script.reply with
    | ok value => exact a.renumber_answer f (.ok value)
    | error detail => exact a.renumber_answer f (.error (.refused op detail))
    | crash detail => rfl
    | never => exact a.renumber_overdue f op now
  · rw [if_neg answered, if_neg (show ¬ (a.renumber f).since + (a.renumber f).script.after ≤ now from answered)]
    exact a.renumber_overdue f op now

end Attempt

namespace Lookup

variable (f : Nat → Option Nat) (l : Lookup)

theorem renumber_begin {α : Type} (limit : Nat) (call : Call) (script : Script α) :
    (l.begin limit call script).renumber f (Attempt.renumber f) = (l.renumber f).begin limit call (script.renumber f) :=
  rfl

theorem renumber_pollFileInfo (filename : String) (a : Attempt Info) :
    (l.pollFileInfo filename a).renumber f (Step.map (DirectState.renumber f)) =
      (l.renumber f).pollFileInfo filename (a.renumber f) := by
  refine Turn.renumber_bind f _ _ (a.renumber_poll f .torrentInfo l.now) fun step => ?_
  rcases step with b | e | info <;> rfl

theorem renumber_pollDownload (a : Attempt String) :
    (l.pollDownload a).renumber f (Step.map (DirectState.renumber f)) = (l.renumber f).pollDownload (a.renumber f) := by
  refine Turn.renumber_bind f _ _ (a.renumber_poll f .download l.now) fun step => ?_
  rcases step with b | e | filename
  · rfl
  · rfl
  · refine Turn.renumber_bind f id _ (Turn.renumber_note f _ _) fun _ => ?_
    exact Turn.renumber_bind f (Attempt.renumber f) _ (l.renumber_begin f _ _ _) fun info =>
      l.renumber_pollFileInfo f filename info

theorem renumber_pollDirect (state : DirectState) :
    (l.pollDirect state).renumber f (Step.map (DirectState.renumber f)) =
      (l.renumber f).pollDirect (state.renumber f) := by
  cases state with
  | downloading a => exact l.renumber_pollDownload f a
  | describing filename a => exact l.renumber_pollFileInfo f filename a

theorem renumber_pollPrimary (uri : String) (a : Attempt Info) :
    (l.pollPrimary uri a).renumber f (Step.map (Attempt.renumber f)) =
      (l.renumber f).pollPrimary uri (a.renumber f) := by
  refine Turn.renumber_bind f _ _ (a.renumber_poll f .magnetInfo l.now) fun step => ?_
  rcases step with b | e | info <;> rfl

theorem renumber_pollMetadataInfo (uri : String) (hash : InfoHash) (a : Attempt Info) :
    (l.pollMetadataInfo uri hash a).renumber f (Step.map (PrefetchState.renumber f)) =
      (l.renumber f).pollMetadataInfo uri hash (a.renumber f) := by
  refine Turn.renumber_bind f _ _ (a.renumber_poll f .torrentInfo l.now) fun step => ?_
  rcases step with b | e | info <;> rfl

theorem renumber_useMetadata (uri : String) (p : Prefetched) :
    (l.useMetadata uri p).renumber f (Step.map (PrefetchState.renumber f)) = (l.renumber f).useMetadata uri p := by
  unfold useMetadata
  split
  · rfl
  · split
    · rfl
    · refine Turn.renumber_bind f id _ (Turn.renumber_note f _ _) fun _ => ?_
      exact Turn.renumber_bind f (Attempt.renumber f) _ (l.renumber_begin f _ _ _) fun info =>
        l.renumber_pollMetadataInfo f uri _ info

theorem renumber_pollPrefetch (uri : String) (state : PrefetchState) :
    (l.pollPrefetch uri state).renumber f (Step.map (PrefetchState.renumber f)) =
      (l.renumber f).pollPrefetch uri (state.renumber f) := by
  cases state with
  | describing hash a => exact l.renumber_pollMetadataInfo f uri hash a
  | fetching a =>
    refine Turn.renumber_bind f _ _ (a.renumber_poll f .prefetch l.now) fun step => ?_
    rcases step with b | e | p
    · rfl
    · rfl
    · exact l.renumber_useMetadata f uri p

theorem renumber_pollLane {σ : Type} (g : σ → σ) {poll poll' : σ → Turn (Step σ (Except Failure Torrent))}
    (same : ∀ state, (poll state).renumber f (Step.map g) = poll' (g state)) (lane : Lane σ Failure) :
    (Race.pollLane poll lane).renumber f (Except.map (Lane.map g)) = Race.pollLane poll' (lane.map g) := by
  cases lane with
  | failed e => rfl
  | running state =>
    refine Turn.renumber_bind f _ _ (same state) fun step => ?_
    rcases step with b | e | torrent <;> rfl

theorem renumber_decide {σ τ υ ω α β ε : Type} (g : σ → υ) (h : τ → ω) (left : Except α (Lane σ ε))
    (right : Except β (Lane τ ε)) :
    (Race.decide left right).map (Race.map g h) = Race.decide (left.map (Lane.map g)) (right.map (Lane.map h)) := by
  rcases left with a | ⟨⟨a⟩ | x⟩ <;> rcases right with b | ⟨⟨b⟩ | y⟩ <;> rfl

theorem renumber_raceStep (step : Step (Race (Attempt Info) PrefetchState Failure) (Finish Torrent Torrent Failure)) :
    (raceStep step).map (Progress.renumber f) =
      raceStep (step.map (Race.map (Attempt.renumber f) (PrefetchState.renumber f))) := by
  cases step <;> rfl

theorem renumber_directStep (step : Step DirectState (Except Failure Torrent)) :
    (directStep step).map (Progress.renumber f) = directStep (step.map (DirectState.renumber f)) := by
  cases step <;> rfl

/-- A lookup begins as with the backend it was given, but for the numbers of the submissions it cancels. -/
theorem renumber_start (source : Source) :
    (l.start source).renumber f (Step.map (Progress.renumber f)) = (l.renumber f).start source := by
  cases source with
  | direct url cookies =>
    refine Turn.renumber_bind f (Step.map (DirectState.renumber f)) _ ?_ fun step => ?_
    · exact Turn.renumber_bind f (Attempt.renumber f) _ (l.renumber_begin f _ _ _) fun a => l.renumber_pollDownload f a
    · exact congrArg pure (renumber_directStep f step)
  | magnet uri =>
    refine Turn.renumber_bind f (Attempt.renumber f) _ (l.renumber_begin f _ _ _) fun primary => ?_
    refine Turn.renumber_bind f _ _ (renumber_pollLane f _ (l.renumber_pollPrimary f uri) (.running primary))
      fun left => ?_
    refine Turn.renumber_bind f (Attempt.renumber f) _ (l.renumber_begin f _ _ _) fun prefetch => ?_
    refine Turn.renumber_bind f _ _
      (renumber_pollLane f _ (l.renumber_pollPrefetch f uri) (.running (.fetching prefetch))) fun right => ?_
    refine congrArg pure ((renumber_raceStep f _).trans ?_)
    rw [renumber_decide]

theorem renumber_resume (source : Source) (progress : Progress) :
    (l.resume source progress).renumber f (Step.map (Progress.renumber f)) =
      (l.renumber f).resume source (progress.renumber f) := by
  cases progress with
  | direct state =>
    refine Turn.renumber_bind f _ _ (l.renumber_pollDirect f state) fun step => ?_
    exact congrArg pure (renumber_directStep f step)
  | magnet race =>
    refine Turn.renumber_bind f (Step.map (Race.map (Attempt.renumber f) (PrefetchState.renumber f))) _ ?_
      fun step => congrArg pure (renumber_raceStep f step)
    refine Turn.renumber_bind f _ _ (renumber_pollLane f _ (l.renumber_pollPrimary f source.text) race.left)
      fun left => ?_
    refine Turn.renumber_bind f _ _ (renumber_pollLane f _ (l.renumber_pollPrefetch f source.text) race.right)
      fun right => ?_
    exact congrArg pure (renumber_decide _ _ left right)

theorem renumber_ending (source : Source) : (l.renumber f).ending source = l.ending source := by
  cases source <;> rfl

end Lookup

namespace Progress

variable (f : Nat → Option Nat) (progress : Progress)

theorem renumber_instants : (progress.renumber f).instants = progress.instants := by
  rcases progress with (a | ⟨filename, a⟩) | ⟨a | x, (b | ⟨hash, b⟩) | y⟩ <;> rfl

theorem renumber_dues : (progress.renumber f).dues = progress.dues := by
  rcases progress with (a | ⟨filename, a⟩) | ⟨a | x, (b | ⟨hash, b⟩) | y⟩ <;> rfl

end Progress

end TorrentAdmission
