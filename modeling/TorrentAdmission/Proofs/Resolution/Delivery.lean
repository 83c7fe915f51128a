import TorrentAdmission.Resolution.Path

/-!
# What a lookup delivers

A lookup that succeeds delivers a torrent whose description names the file it was found in, under the
key that goes with the path it was found on. A lookup under way is one of the kind of its source.
-/

namespace TorrentAdmission

namespace Turn

variable {α β : Type}

/-- The result of the turn, if it has one, satisfies `P`. -/
def Yields (t : Turn α) (P : α → Prop) : Prop := ∀ a, t.result = .ok a → P a

theorem yields_pure {P : α → Prop} {a : α} (h : P a) : (pure a : Turn α).Yields P := by
  intro b result
  cases result
  exact h

theorem Yields.bind {P : α → Prop} {Q : β → Prop} {t : Turn α} {f : α → Turn β} (first : t.Yields P)
    (rest : ∀ a, P a → (f a).Yields Q) : (t >>= f).Yields Q := by
  intro b result
  change (t.andThen f).result = .ok b at result
  unfold andThen at result
  split at result
  · rename_i a found
    exact rest a (first a found) b result
  · cases result

theorem yields_any (t : Turn α) : t.Yields fun _ => True := fun _ _ => trivial

end Turn

def Step.Delivers {σ ε α : Type} (P : α → Prop) : Step σ (Except ε α) → Prop
  | .done (.ok a) => P a
  | _ => True

namespace Torrent

/-- The description names the file. -/
def Named (t : Torrent) : Prop := t.info.get? filenameField = some (.string t.filename)

theorem describe_named (key : TorrentKey) (filename : String) (info : Info) :
    (describe key filename info).Named :=
  Info.get?_setText_self ..

end Torrent

/-- A torrent that a submission may be resolved to on some path. -/
def Path.Leads (source : Source) (submission : Uuid) (path : Path) (t : Torrent) : Prop :=
  t.Named ∧
    match path with
    | .direct => source.kind = .direct ∧ t.key = .submission submission
    | .primary => source.kind = .magnet ∧ t.key = .submission submission
    | .prefetch => source.kind = .magnet ∧ ∃ hash, t.key = .infoHash hash

def Progress.Fits (source : Source) : Progress → Prop
  | .direct _ => source.kind = .direct
  | .magnet _ => source.kind = .magnet

namespace Lookup

/-! ### Single calls -/

/-- A torrent under the submission's own key. -/
def Own (l : Lookup) (t : Torrent) : Prop := t.Named ∧ t.key = .submission l.submission

def Hashed (t : Torrent) : Prop := t.Named ∧ ∃ hash, t.key = .infoHash hash

variable (l : Lookup)

theorem pollFileInfo_yields (filename : String) (attempt : Attempt Info) :
    (l.pollFileInfo filename attempt).Yields (Step.Delivers l.Own) := by
  refine (Turn.yields_any _).bind fun step _ => ?_
  rcases step with attempt | e | info
  · exact Turn.yields_pure trivial
  · exact Turn.yields_pure trivial
  · exact Turn.yields_pure ⟨Torrent.describe_named .., rfl⟩

theorem pollDownload_yields (attempt : Attempt String) :
    (l.pollDownload attempt).Yields (Step.Delivers l.Own) := by
  refine (Turn.yields_any _).bind fun step _ => ?_
  rcases step with attempt | e | filename
  · exact Turn.yields_pure trivial
  · exact Turn.yields_pure trivial
  · exact (Turn.yields_any _).bind fun _ _ => (Turn.yields_any _).bind fun _ _ =>
      l.pollFileInfo_yields filename _

theorem pollPrimary_yields (uri : String) (attempt : Attempt Info) :
    (l.pollPrimary uri attempt).Yields (Step.Delivers l.Own) := by
  refine (Turn.yields_any _).bind fun step _ => ?_
  rcases step with attempt | e | info
  · exact Turn.yields_pure trivial
  · exact (Turn.yields_any _).bind fun _ _ => Turn.yields_pure trivial
  · exact Turn.yields_pure ⟨Torrent.describe_named .., rfl⟩

theorem pollMetadataInfo_yields (uri : String) (hash : InfoHash) (attempt : Attempt Info) :
    (l.pollMetadataInfo uri hash attempt).Yields (Step.Delivers Hashed) := by
  refine (Turn.yields_any _).bind fun step _ => ?_
  rcases step with attempt | e | info
  · exact Turn.yields_pure trivial
  · exact Turn.yields_pure trivial
  · exact Turn.yields_pure ⟨Torrent.describe_named .., hash, rfl⟩

theorem useMetadata_yields (uri : String) (p : Prefetched) :
    (l.useMetadata uri p).Yields (Step.Delivers Hashed) := by
  unfold useMetadata
  split
  · exact Turn.yields_pure trivial
  · split
    · exact (Turn.yields_any _).bind fun _ _ => Turn.yields_pure trivial
    · exact (Turn.yields_any _).bind fun _ _ => (Turn.yields_any _).bind fun _ _ =>
        l.pollMetadataInfo_yields uri _ _

theorem pollPrefetch_yields (uri : String) (state : PrefetchState) :
    (l.pollPrefetch uri state).Yields (Step.Delivers Hashed) := by
  cases state with
  | describing hash attempt => exact l.pollMetadataInfo_yields uri hash attempt
  | fetching attempt =>
    refine (Turn.yields_any _).bind fun step _ => ?_
    rcases step with attempt | e | p
    · exact Turn.yields_pure trivial
    · exact (Turn.yields_any _).bind fun _ _ => Turn.yields_pure trivial
    · exact l.useMetadata_yields uri p

/-! ### Both sides of a race -/

theorem pollLane_yields {σ α : Type} {P : α → Prop} {poll : σ → Turn (Step σ (Except Failure α))}
    (polled : ∀ state, (poll state).Yields (Step.Delivers P)) (lane : Lane σ Failure) :
    (Race.pollLane poll lane).Yields fun r => ∀ a, r = .error a → P a := by
  cases lane with
  | failed e => exact Turn.yields_pure (by simp)
  | running state =>
    refine (polled state).bind fun step delivers => ?_
    rcases step with state | e | a
    · exact Turn.yields_pure (by simp)
    · exact Turn.yields_pure (by simp)
    · apply Turn.yields_pure
      intro b same
      cases same
      exact delivers

def Goes (source : Source) : Step Progress (Except Failure (Torrent × Path)) → Prop
  | .waiting progress => progress.Fits source
  | .done (.ok (torrent, path)) => path.Leads source l.submission torrent
  | .done (.error _) => True

theorem raceStep_goes {source : Source} (kind : source.kind = .magnet)
    {left : Except Torrent (Lane (Attempt Info) Failure)} {right : Except Torrent (Lane PrefetchState Failure)}
    (own : ∀ t, left = .error t → l.Own t) (hashed : ∀ t, right = .error t → Hashed t) :
    l.Goes source (raceStep (Race.decide left right)) := by
  rcases left with t | (a | e)
  · obtain ⟨named, key⟩ := own t rfl
    exact ⟨named, kind, key⟩
  · rcases right with t | (b | f)
    · obtain ⟨named, key⟩ := hashed t rfl
      exact ⟨named, kind, key⟩
    · exact kind
    · exact kind
  · rcases right with t | (b | f)
    · obtain ⟨named, key⟩ := hashed t rfl
      exact ⟨named, kind, key⟩
    · exact kind
    · trivial

theorem directStep_goes {source : Source} (kind : source.kind = .direct)
    {step : Step DirectState (Except Failure Torrent)} (delivers : step.Delivers l.Own) :
    l.Goes source (directStep step) := by
  rcases step with state | e | t
  · exact kind
  · trivial
  · exact ⟨delivers.1, kind, delivers.2⟩

theorem start_yields (source : Source) : (l.start source).Yields (l.Goes source) := by
  cases source with
  | direct url cookies =>
    refine Turn.Yields.bind (P := Step.Delivers l.Own) ?_ fun step delivers =>
      Turn.yields_pure (l.directStep_goes rfl delivers)
    exact (Turn.yields_any _).bind fun attempt _ => l.pollDownload_yields attempt
  | magnet uri =>
    refine (Turn.yields_any _).bind fun primary _ => ?_
    refine (pollLane_yields (l.pollPrimary_yields uri) _).bind fun left own => ?_
    refine (Turn.yields_any _).bind fun prefetch _ => ?_
    refine (pollLane_yields (l.pollPrefetch_yields uri) _).bind fun right hashed => ?_
    exact Turn.yields_pure (l.raceStep_goes rfl own hashed)

theorem resume_yields {source : Source} {progress : Progress} (fits : progress.Fits source) :
    (l.resume source progress).Yields (l.Goes source) := by
  cases progress with
  | direct state =>
    refine Turn.Yields.bind (P := Step.Delivers l.Own) ?_ fun step delivers =>
      Turn.yields_pure (l.directStep_goes fits delivers)
    cases state with
    | downloading attempt => exact l.pollDownload_yields attempt
    | describing filename attempt => exact l.pollFileInfo_yields filename attempt
  | magnet race =>
    refine Turn.Yields.bind (P := fun step => l.Goes source (raceStep step)) ?_ fun step goes =>
      Turn.yields_pure goes
    refine (pollLane_yields (l.pollPrimary_yields _) _).bind fun left own => ?_
    refine (pollLane_yields (l.pollPrefetch_yields _) _).bind fun right hashed => ?_
    exact Turn.yields_pure (l.raceStep_goes fits own hashed)

end Lookup

end TorrentAdmission
