import TorrentAdmission.Resolution.Path

/-!
# Whom answers cancel

An answer to a call may make an owner cancel a submission. If the answers that a backend has for a
submission cancel none but those of some set, neither do the turns of its lookup: `start_meets` and
`resume_meets` follow the answers through the calls that are under way.
-/

namespace TorrentAdmission

namespace Turn

variable {α β : Type} {A : Act → Prop}

/-- All acts of the turn satisfy `A`, and its result, if it has one, satisfies `P`. -/
structure Meets (t : Turn α) (A : Act → Prop) (P : α → Prop) : Prop where
  acts : ∀ act ∈ t.acts, A act
  result : ∀ a, t.result = .ok a → P a

theorem meets_pure {P : α → Prop} {a : α} (h : P a) : (pure a : Turn α).Meets A P := by
  refine ⟨(fun _ member => nomatch member), ?_⟩
  intro b result
  cases result
  exact h

theorem Meets.bind {P : α → Prop} {Q : β → Prop} {t : Turn α} {f : α → Turn β} (first : t.Meets A P)
    (rest : ∀ a, P a → (f a).Meets A Q) : (t >>= f).Meets A Q := by
  obtain ⟨acts, crash | a⟩ := t
  · exact ⟨first.acts, (fun _ result => nomatch result)⟩
  · obtain ⟨more, result⟩ := rest a (first.result a rfl)
    refine ⟨?_, result⟩
    intro act member
    rcases List.mem_append.mp member with early | late
    · exact first.acts act early
    · exact more act late

theorem meets_act {a : Act} (h : A a) : (act a).Meets A fun _ => True := by
  refine ⟨?_, fun _ _ => trivial⟩
  intro b member
  obtain rfl := List.mem_singleton.mp member
  exact h

end Turn

/-- The state in which work waits satisfies `P`. -/
def Step.Rests {σ α : Type} (P : σ → Prop) : Step σ α → Prop
  | .waiting state => P state
  | .done _ => True

/-! ### Answers that cancel none but `T` -/

section
variable (T : Nat → Prop)

def Act.Spares : Act → Prop
  | .cancel k => T k
  | _ => True

def Script.Spares {α : Type} (script : Script α) : Prop := ∀ k, script.cancels = some k → T k

/-- No answer for this submission cancels one outside `T`. -/
structure Backend.Spares (b : Backend) (submission : Uuid) : Prop where
  magnetInfo : ∀ uri, (b.magnetInfo submission uri).Spares T
  prefetch : ∀ uri, (b.prefetch submission uri).Spares T
  download : ∀ url cookies, (b.download submission url cookies).Spares T
  torrentInfo : ∀ query, (b.torrentInfo submission query).Spares T

def Attempt.Spares {α : Type} (a : Attempt α) : Prop := a.script.Spares T

def DirectState.Spares : DirectState → Prop
  | .downloading a => a.Spares T
  | .describing _ a => a.Spares T

def PrefetchState.Spares : PrefetchState → Prop
  | .fetching a => a.Spares T
  | .describing _ a => a.Spares T

/-- No answer that the lookup waits for cancels a submission outside `T`. -/
def Progress.Spares : Progress → Prop
  | .direct state => state.Spares T
  | .magnet race =>
    (∀ a, race.left = .running a → a.Spares T) ∧ ∀ state, race.right = .running state → state.Spares T

end

variable {T : Nat → Prop}

theorem Attempt.poll_meets {α : Type} {a : Attempt α} (spares : a.Spares T) (op : Operation) (now : Nat) :
    (a.poll op now).Meets (Act.Spares T) (Step.Rests (·.Spares T)) := by
  have overdue : (a.overdue op now).Meets (Act.Spares T) (Step.Rests (·.Spares T)) := by
    unfold overdue
    split
    · exact Turn.meets_pure trivial
    · exact Turn.meets_pure spares
  have answer : ∀ result, (a.answer result).Meets (Act.Spares T) (Step.Rests (·.Spares T)) := by
    intro result
    refine ⟨?_, ?_⟩
    · intro act member
      obtain ⟨k, cancels, rfl⟩ := List.mem_map.mp member
      exact spares k (Option.mem_toList.mp cancels)
    · intro step done
      cases done
      trivial
  unfold poll
  split
  · split
    · exact answer _
    · exact answer _
    · exact ⟨(fun _ member => nomatch member), (fun _ result => nomatch result)⟩
    · exact overdue
  · exact overdue

namespace Lookup

variable (l : Lookup)

theorem begin_meets {α : Type} {script : Script α} (spares : script.Spares T) (limit : Nat) (call : Call) :
    (l.begin limit call script).Meets (Act.Spares T) (·.Spares T) :=
  (Turn.meets_act trivial).bind fun _ _ => Turn.meets_pure spares

theorem note_meets (topic : Topic) (fields : Fields) :
    (Turn.note topic fields).Meets (Act.Spares T) fun _ => True :=
  Turn.meets_act trivial

/-! ### Direct sources -/

theorem pollFileInfo_meets (filename : String) {a : Attempt Info} (spares : a.Spares T) :
    (l.pollFileInfo filename a).Meets (Act.Spares T) (Step.Rests (·.Spares T)) := by
  refine (Attempt.poll_meets spares _ _).bind fun step rests => ?_
  rcases step with b | e | info
  · exact Turn.meets_pure rests
  · exact Turn.meets_pure trivial
  · exact Turn.meets_pure trivial

theorem pollDownload_meets (known : l.backend.Spares T l.submission) {a : Attempt String}
    (spares : a.Spares T) : (l.pollDownload a).Meets (Act.Spares T) (Step.Rests (·.Spares T)) := by
  refine (Attempt.poll_meets spares _ _).bind fun step rests => ?_
  rcases step with b | e | filename
  · exact Turn.meets_pure rests
  · exact Turn.meets_pure trivial
  · exact (note_meets _ _).bind fun _ _ => (l.begin_meets (known.torrentInfo _) _ _).bind fun _ begun =>
      l.pollFileInfo_meets filename begun

/-! ### Magnet links -/

theorem pollPrimary_meets (uri : String) {a : Attempt Info} (spares : a.Spares T) :
    (l.pollPrimary uri a).Meets (Act.Spares T) (Step.Rests (·.Spares T)) := by
  refine (Attempt.poll_meets spares _ _).bind fun step rests => ?_
  rcases step with b | e | info
  · exact Turn.meets_pure rests
  · exact (note_meets _ _).bind fun _ _ => Turn.meets_pure trivial
  · exact Turn.meets_pure trivial

theorem pollMetadataInfo_meets (uri : String) (hash : InfoHash) {a : Attempt Info} (spares : a.Spares T) :
    (l.pollMetadataInfo uri hash a).Meets (Act.Spares T) (Step.Rests (·.Spares T)) := by
  refine (Attempt.poll_meets spares _ _).bind fun step rests => ?_
  rcases step with b | e | info
  · exact Turn.meets_pure rests
  · exact Turn.meets_pure trivial
  · exact Turn.meets_pure trivial

theorem useMetadata_meets (known : l.backend.Spares T l.submission) (uri : String) (p : Prefetched) :
    (l.useMetadata uri p).Meets (Act.Spares T) (Step.Rests (·.Spares T)) := by
  unfold useMetadata
  split
  · exact Turn.meets_pure trivial
  · split
    · exact (note_meets _ _).bind fun _ _ => Turn.meets_pure trivial
    · exact (note_meets _ _).bind fun _ _ => (l.begin_meets (known.torrentInfo _) _ _).bind fun _ begun =>
        l.pollMetadataInfo_meets uri _ begun

theorem pollPrefetch_meets (known : l.backend.Spares T l.submission) (uri : String) {state : PrefetchState}
    (spares : state.Spares T) :
    (l.pollPrefetch uri state).Meets (Act.Spares T) (Step.Rests (·.Spares T)) := by
  cases state with
  | describing hash a => exact l.pollMetadataInfo_meets uri hash spares
  | fetching a =>
    refine (Attempt.poll_meets spares _ _).bind fun step rests => ?_
    rcases step with b | e | p
    · exact Turn.meets_pure rests
    · exact (note_meets _ _).bind fun _ _ => Turn.meets_pure trivial
    · exact l.useMetadata_meets known uri p

theorem pollLane_meets {σ α : Type} {A : Act → Prop} {P : σ → Prop}
    {poll : σ → Turn (Step σ (Except Failure α))} {lane : Lane σ Failure}
    (polled : ∀ state, lane = .running state → (poll state).Meets A (Step.Rests P)) :
    (Race.pollLane poll lane).Meets A fun r => ∀ state, r = .ok (.running state) → P state := by
  cases lane with
  | failed e => exact Turn.meets_pure (by simp)
  | running state =>
    refine (polled state rfl).bind fun step rests => ?_
    rcases step with other | e | a
    · apply Turn.meets_pure
      intro next same
      cases same
      exact rests
    · exact Turn.meets_pure (by simp)
    · exact Turn.meets_pure (by simp)

theorem raceStep_rests {left : Except Torrent (Lane (Attempt Info) Failure)}
    {right : Except Torrent (Lane PrefetchState Failure)}
    (primary : ∀ a, left = .ok (.running a) → a.Spares T)
    (prefetch : ∀ state, right = .ok (.running state) → state.Spares T) :
    Step.Rests (·.Spares T) (raceStep (Race.decide left right)) := by
  rcases left with t | (a | e)
  · trivial
  · rcases right with t | (b | f)
    · trivial
    · exact ⟨fun _ same => primary _ (congrArg _ same), fun _ same => prefetch _ (congrArg _ same)⟩
    · exact ⟨fun _ same => primary _ (congrArg _ same), (fun _ same => nomatch same)⟩
  · rcases right with t | (b | f)
    · trivial
    · exact ⟨(fun _ same => nomatch same), fun _ same => prefetch _ (congrArg _ same)⟩
    · trivial

/-! ### Both -/

theorem directStep_rests {step : Step DirectState (Except Failure Torrent)}
    (rests : step.Rests (·.Spares T)) : (directStep step).Rests (·.Spares T) := by
  cases step with
  | waiting state => exact rests
  | done result => trivial

theorem start_meets (known : l.backend.Spares T l.submission) (source : Source) :
    (l.start source).Meets (Act.Spares T) (Step.Rests (·.Spares T)) := by
  cases source with
  | direct url cookies =>
    refine Turn.Meets.bind (P := Step.Rests (·.Spares T)) ?_ fun _ rests =>
      Turn.meets_pure (directStep_rests rests)
    exact (l.begin_meets (known.download _ _) _ _).bind fun _ begun => l.pollDownload_meets known begun
  | magnet uri =>
    refine (l.begin_meets (known.magnetInfo uri) _ _).bind fun a begun => ?_
    refine (pollLane_meets (P := (·.Spares T)) ?_).bind fun left primary => ?_
    · intro state same
      cases same
      exact l.pollPrimary_meets uri begun
    refine (l.begin_meets (known.prefetch uri) _ _).bind fun b begun => ?_
    refine (pollLane_meets (P := (·.Spares T)) ?_).bind fun right prefetch => ?_
    · intro state same
      cases same
      exact l.pollPrefetch_meets known uri begun
    exact Turn.meets_pure (raceStep_rests primary prefetch)

theorem resume_meets (known : l.backend.Spares T l.submission) (source : Source) {progress : Progress}
    (spares : progress.Spares T) :
    (l.resume source progress).Meets (Act.Spares T) (Step.Rests (·.Spares T)) := by
  cases progress with
  | direct state =>
    refine Turn.Meets.bind (P := Step.Rests (·.Spares T)) ?_ fun _ rests =>
      Turn.meets_pure (directStep_rests rests)
    cases state with
    | downloading a => exact l.pollDownload_meets known spares
    | describing filename a => exact l.pollFileInfo_meets filename spares
  | magnet race =>
    refine Turn.Meets.bind (P := fun step => (raceStep step).Rests (·.Spares T)) ?_ fun _ rests =>
      Turn.meets_pure rests
    refine (pollLane_meets fun state same => l.pollPrimary_meets _ (spares.1 state same)).bind
      fun left primary => ?_
    refine (pollLane_meets fun state same => l.pollPrefetch_meets known _ (spares.2 state same)).bind
      fun right prefetch => ?_
    exact Turn.meets_pure (raceStep_rests primary prefetch)

end Lookup

end TorrentAdmission
