import TorrentAdmission.Proofs.Resolution.Timetable

/-!
# Punctual turns

A lookup on its way has an ending as well. As long as no call is looked at later than it ends, a turn
either brings that ending about or leaves it as it was: `Lookup.start_shows` and `Lookup.resume_shows`.
-/

namespace TorrentAdmission

/-! ### Single calls -/

/-- The result of a turn at the instant `now` of work that ends in this way: the ending itself, or a
state in which the work is to wait. -/
def Ending.Shows {σ α : Type} (e : Ending α) (now : Nat) (Waits : σ → Prop) :
    Except String (Step σ (Except Failure α)) → Prop
  | .ok (.waiting state) => Waits state
  | .ok (.done (.ok a)) => e = ⟨now, .success a⟩
  | .ok (.done (.error x)) => e = ⟨now, .failure x⟩
  | .error _ => e = ⟨now, .crash⟩

namespace Attempt

variable {α : Type} {op : Operation} {a : Attempt α} {now : Nat}

theorem overdue_shows (unanswered : now < a.since + a.script.after ∨ a.script.reply = .never)
    (punctual : now ≤ (a.ending op).instant) :
    (a.ending op).Shows now (fun b => b = a ∧ now < (a.ending op).instant) (a.overdue op now).result := by
  have member := a.ending_instant op
  simp only [instants, List.mem_cons, List.not_mem_nil, or_false] at member
  unfold overdue
  split
  · rename_i due
    have late : a.limit < a.script.after ∨ a.script.reply = .never := by
      rcases unanswered with soon | never
      · left
        omega
      · exact Or.inr never
    have ends : a.ending op = _ := a.ending_overdue late
    rw [ends] at punctual
    have same : now = a.since + a.limit := Nat.le_antisymm punctual due
    rw [ends, same]
    rfl
  · refine ⟨rfl, ?_⟩
    rcases unanswered with soon | never
    · omega
    · rw [a.ending_overdue (Or.inr never)]
      change now < a.since + a.limit
      omega

/-- A call that is looked at no later than it ends has just ended, or is left to wait. -/
theorem poll_shows (punctual : now ≤ (a.ending op).instant) :
    (a.ending op).Shows now (fun b => b = a ∧ now < (a.ending op).instant) (a.poll op now).result := by
  unfold poll
  split
  · rename_i answered
    cases reply : a.script.reply with
    | ok value => exact ending_answered (by rw [reply]; rfl) answered punctual
    | error detail => exact ending_answered (by rw [reply]; rfl) answered punctual
    | crash detail => exact ending_answered (by rw [reply]; rfl) answered punctual
    | never => exact overdue_shows (Or.inr reply) punctual
  · rename_i unanswered
    exact overdue_shows (Or.inl (Nat.lt_of_not_le unanswered)) punctual

end Attempt

/-! ### Paths -/

theorem Turn.result_bind {α β : Type} (t : Turn α) (f : α → Turn β) :
    (t >>= f).result = t.result.bind fun a => (f a).result := by
  obtain ⟨acts, crash | a⟩ := t <;> rfl

/-- Work that follows other work shows its ending in the turn in which it takes over. -/
theorem Ending.Shows.andThen {σ τ α β : Type} {e : Ending α} {now : Nat} {Waits : σ → Prop}
    {Goes : τ → Prop} {t : Turn (Step σ (Except Failure α))} {g : Nat → α → Ending β}
    {f : Step σ (Except Failure α) → Turn (Step τ (Except Failure β))} (shown : e.Shows now Waits t.result)
    (waits : ∀ state, Waits state → (e.andThen g).Shows now Goes (f (.waiting state)).result)
    (succeeds : ∀ a, e = ⟨now, .success a⟩ → (g now a).Shows now Goes (f (.done (.ok a))).result)
    (fails : ∀ x, (f (.done (.error x))).result = .ok (.done (.error x))) :
    (e.andThen g).Shows now Goes (t >>= f).result := by
  obtain ⟨acts, crash | state | x | a⟩ := t
  · rw [show e = ⟨now, .crash⟩ from shown]
    rfl
  · exact waits state shown
  · rw [show e = ⟨now, .failure x⟩ from shown]
    change Ending.Shows _ now Goes (f (.done (.error x))).result
    rw [fails x]
    rfl
  · have ends : e = ⟨now, .success a⟩ := shown
    rw [ends]
    exact succeeds a ends

theorem Ending.Shows.imp {σ α : Type} {e : Ending α} {now : Nat} {Waits Goes : σ → Prop}
    {result : Except String (Step σ (Except Failure α))} (shown : e.Shows now Waits result)
    (goes : ∀ state, Waits state → Goes state) : e.Shows now Goes result := by
  rcases result with crash | state | x | a
  · exact shown
  · exact goes state shown
  · exact shown
  · exact shown

namespace Lookup

variable {l : Lookup}

theorem pollFileInfo_shows {filename : String} {a : Attempt Info}
    (punctual : l.now ≤ (a.ending .torrentInfo).instant) :
    (l.fileEnding filename a).Shows l.now
      (fun state => l.directEnding state = l.fileEnding filename a ∧ l.now < state.due)
      (l.pollFileInfo filename a).result := by
  unfold pollFileInfo fileEnding Ending.map
  refine (Attempt.poll_shows punctual).andThen ?_ ?_ ?_
  · rintro b ⟨rfl, early⟩
    exact ⟨rfl, early⟩
  · intro info _
    rfl
  · intro x
    rfl

theorem directEnding_downloading (a : Attempt String) : l.directEnding (.downloading a) =
    (a.ending .download).andThen fun t filename => l.fileEnding filename
      ⟨t, l.limits.call, l.backend.torrentInfo l.submission (.file filename)⟩ := rfl

theorem pollDownload_shows {a : Attempt String} (punctual : l.now ≤ (a.ending .download).instant) :
    (l.directEnding (.downloading a)).Shows l.now
      (fun next => l.directEnding next = l.directEnding (.downloading a) ∧ l.now < next.due)
      (l.pollDownload a).result := by
  unfold pollDownload
  rw [directEnding_downloading]
  refine (Attempt.poll_shows punctual).andThen ?_ ?_ ?_
  · rintro b ⟨rfl, early⟩
    exact ⟨rfl, early⟩
  · intro filename ends
    refine (pollFileInfo_shows (Attempt.since_le .torrentInfo l.now l.limits.call
      (l.backend.torrentInfo l.submission (.file filename)))).imp ?_
    rintro next ⟨same, early⟩
    refine ⟨same.trans ?_, early⟩
    rw [ends]
    rfl
  · intro x
    rfl

theorem pollDirect_shows {state : DirectState} (punctual : l.now ≤ state.due) :
    (l.directEnding state).Shows l.now
      (fun next => l.directEnding next = l.directEnding state ∧ l.now < next.due)
      (l.pollDirect state).result := by
  cases state with
  | downloading a => exact pollDownload_shows punctual
  | describing filename a => exact pollFileInfo_shows punctual

theorem pollPrimary_shows {uri : String} {a : Attempt Info} (punctual : l.now ≤ (a.ending .magnetInfo).instant) :
    (l.primaryEnding uri a).Shows l.now
      (fun b => l.primaryEnding uri b = l.primaryEnding uri a ∧ l.now < (b.ending .magnetInfo).instant)
      (l.pollPrimary uri a).result := by
  unfold pollPrimary primaryEnding Ending.map
  refine (Attempt.poll_shows punctual).andThen ?_ ?_ ?_
  · rintro b ⟨rfl, early⟩
    exact ⟨rfl, early⟩
  · intro info _
    rfl
  · intro x
    rfl

theorem pollMetadataInfo_shows {uri : String} {hash : InfoHash} {a : Attempt Info}
    (punctual : l.now ≤ (a.ending .torrentInfo).instant) :
    (metadataEnding uri hash a).Shows l.now
      (fun state => l.prefetchEnding uri state = metadataEnding uri hash a ∧ l.now < state.due)
      (l.pollMetadataInfo uri hash a).result := by
  unfold pollMetadataInfo metadataEnding Ending.map
  refine (Attempt.poll_shows punctual).andThen ?_ ?_ ?_
  · rintro b ⟨rfl, early⟩
    exact ⟨rfl, early⟩
  · intro info _
    rfl
  · intro x
    rfl

theorem useMetadata_shows (l : Lookup) (uri : String) (p : Prefetched) :
    (l.useEnding uri l.now p).Shows l.now
      (fun state => l.prefetchEnding uri state = l.useEnding uri l.now p ∧ l.now < state.due)
      (l.useMetadata uri p).result := by
  unfold useMetadata InfoHash.ofReported useEnding Prefetched.bytes
  dsimp only
  cases (Text.trim p.infoHash).isEmpty with
  | true => rfl
  | false =>
    cases decoded : Text.Base64.decode? (Text.trimChars p.metadata.toList) with
    | none => rfl
    | some bytes =>
      cases bytes with
      | nil => rfl
      | cons byte rest =>
        exact pollMetadataInfo_shows (Attempt.since_le .torrentInfo l.now l.limits.call
          (l.backend.torrentInfo l.submission (.metadata (byte :: rest))))

theorem prefetchEnding_fetching (l : Lookup) (uri : String) (a : Attempt Prefetched) :
    l.prefetchEnding uri (.fetching a) = (a.ending .prefetch).andThen (l.useEnding uri) := rfl

theorem pollPrefetch_shows {uri : String} {state : PrefetchState} (punctual : l.now ≤ state.due) :
    (l.prefetchEnding uri state).Shows l.now
      (fun next => l.prefetchEnding uri next = l.prefetchEnding uri state ∧ l.now < next.due)
      (l.pollPrefetch uri state).result := by
  cases state with
  | describing hash a => exact pollMetadataInfo_shows punctual
  | fetching a =>
    refine Ending.Shows.andThen (Attempt.poll_shows punctual) ?_ ?_ ?_
    · rintro b ⟨rfl, early⟩
      exact ⟨rfl, early⟩
    · intro p ends
      rw [prefetchEnding_fetching, ends, Ending.andThen_success]
      exact l.useMetadata_shows uri p
    · intro x
      rfl

end Lookup

/-! ### Races -/

section
variable {σ : Type}

/-- How a side of a race ends. Of one that has failed it no longer matters when. -/
def Lane.ending (forecast : σ → Ending Torrent) : Lane σ Failure → Ending Torrent
  | .running state => forecast state
  | .failed e => ⟨0, .failure e⟩

def Lane.dues (due : σ → Nat) : Lane σ Failure → List Nat
  | .running state => [due state]
  | .failed _ => []

/-- The result of a turn at the instant `now` of a side of a race that ends in this way. -/
def Ending.Leaves (e : Ending Torrent) (now : Nat) (forecast : σ → Ending Torrent) (due : σ → Nat) :
    Except String (Except Torrent (Lane σ Failure)) → Prop
  | .ok (.ok (.running state)) => forecast state = e ∧ now < due state
  | .ok (.ok (.failed x)) => e.verdict = .failure x ∧ e.instant ≤ now
  | .ok (.error t) => e = ⟨now, .success t⟩
  | .error _ => e = ⟨now, .crash⟩

variable {forecast : σ → Ending Torrent} {due : σ → Nat} {lane : Lane σ Failure} {now : Nat}

theorem Race.pollLane_leaves {poll : σ → Turn (Step σ (Except Failure Torrent))}
    (polled : ∀ state, lane = .running state → (forecast state).Shows now
      (fun next => forecast next = forecast state ∧ now < due next) (poll state).result) :
    (lane.ending forecast).Leaves now forecast due (Race.pollLane poll lane).result := by
  cases lane with
  | failed e => exact ⟨rfl, Nat.zero_le now⟩
  | running state =>
    have shown := polled state rfl
    change (forecast state).Leaves now forecast due (poll state >>= _).result
    generalize poll state = turn at shown ⊢
    obtain ⟨acts, crash | next | x | t⟩ := turn
    · exact shown
    · exact shown
    · rw [show forecast state = ⟨now, .failure x⟩ from shown]
      exact ⟨rfl, Nat.le_refl now⟩
    · exact shown

theorem Ending.Leaves.later {e : Ending Torrent} {state : σ}
    (leaves : e.Leaves now forecast due (.ok (.ok (.running state))))
    (below : ∀ state, due state ≤ (forecast state).instant) : now < e.instant := by
  rw [← leaves.1]
  exact Nat.lt_of_lt_of_le leaves.2 (below state)

theorem Ending.Leaves.late {e : Ending Torrent} (leaves : e.Leaves now forecast due (.ok (.ok lane)))
    (below : ∀ state, due state ≤ (forecast state).instant) : e.Late now := by
  cases lane with
  | failed x => exact Or.inr ⟨x, leaves.1⟩
  | running state => exact Or.inl (leaves.later below)

end

/-! ### Lookups on their way -/

def Lookup.progressEnding (l : Lookup) (source : Source) : Progress → Ending (Torrent × Path)
  | .direct state => (l.directEnding state).map (·, .direct)
  | .magnet race => (race.left.ending (l.primaryEnding source.text)).race
      (race.right.ending (l.prefetchEnding source.text))

def Progress.dues : Progress → List Nat
  | .direct state => [state.due]
  | .magnet race => race.left.dues Attempt.primaryDue ++ race.right.dues PrefetchState.due

/-- The lookup waits for calls, none of which has ended at the instant `now`. -/
def Progress.Waits (now : Nat) (progress : Progress) : Prop :=
  progress.dues ≠ [] ∧ ∀ t ∈ progress.dues, now < t

/-- The lookup waits for calls, none of which has ended before the instant `now`. -/
def Progress.Timely (now : Nat) (progress : Progress) : Prop :=
  progress.dues ≠ [] ∧ ∀ t ∈ progress.dues, now ≤ t

theorem Progress.dues_subset (progress : Progress) : progress.dues ⊆ progress.instants := by
  intro t member
  rcases progress with (a | ⟨filename, a⟩) | ⟨left, right⟩
  · obtain rfl := List.mem_singleton.mp member
    exact a.ending_instant _
  · obtain rfl := List.mem_singleton.mp member
    exact a.ending_instant _
  · rcases List.mem_append.mp member with primary | prefetch
    · apply List.mem_append_left _
      cases left with
      | failed e => cases primary
      | running a =>
        obtain rfl := List.mem_singleton.mp primary
        exact a.ending_instant _
    · apply List.mem_append_right _
      rcases right with (a | ⟨hash, a⟩) | e
      · obtain rfl := List.mem_singleton.mp prefetch
        exact a.ending_instant _
      · obtain rfl := List.mem_singleton.mp prefetch
        exact a.ending_instant _
      · cases prefetch

namespace Lookup

variable {l : Lookup}

/-- A lookup ends with one of the calls it waits for, or later. -/
theorem due_le_ending (source : Source) {progress : Progress} (waits : progress.dues ≠ []) :
    ∃ t ∈ progress.dues, t ≤ (l.progressEnding source progress).instant := by
  cases progress with
  | direct state =>
    exact ⟨_, List.mem_singleton_self _, Nat.le_trans (due_le_direct state) Ending.map_instant⟩
  | magnet race =>
    rcases race with ⟨a | x, b | y⟩
    · have primary := due_le_primary (l := l) source.text a
      have prefetch := due_le_prefetch (l := l) source.text b
      rcases Ending.race_instant (l.primaryEnding source.text a) (l.prefetchEnding source.text b) with first | second
      · exact ⟨_, List.mem_cons_self, Nat.le_trans primary first⟩
      · exact ⟨_, List.mem_cons_of_mem _ List.mem_cons_self, Nat.le_trans prefetch second⟩
    · exact ⟨_, List.mem_cons_self, Nat.le_trans (due_le_primary _ a) (Ending.race_instant_left rfl)⟩
    · exact ⟨_, List.mem_cons_self, Nat.le_trans (due_le_prefetch _ b) (Ending.race_instant_right rfl)⟩
    · exact (waits rfl).elim

/-! ### Turns -/

/-- A race with both sides still in it goes on waiting for those that are under way. -/
theorem lanes_show {source : Source} {p q : Ending Torrent} {left : Lane (Attempt Info) Failure}
    {right : Lane PrefetchState Failure}
    (primary : p.Leaves l.now (l.primaryEnding source.text) Attempt.primaryDue (.ok (.ok left)))
    (prefetch : q.Leaves l.now (l.prefetchEnding source.text) PrefetchState.due (.ok (.ok right)))
    (timely : l.now ≤ p.instant ∨ l.now ≤ q.instant) :
    (p.race q).Shows l.now
      (fun progress => l.progressEnding source progress = p.race q ∧ progress.Waits l.now)
      (.ok (raceStep (Race.decide (.ok left) (.ok right)))) := by
  cases left with
  | running a =>
    cases right with
    | running b =>
      refine ⟨?_, List.cons_ne_nil _ _, ?_⟩
      · change Ending.race (l.primaryEnding source.text a) (l.prefetchEnding source.text b) = _
        rw [primary.1, prefetch.1]
      · intro t member
        rcases List.mem_cons.mp member with rfl | rest
        · exact primary.2
        · obtain rfl := List.mem_singleton.mp rest
          exact prefetch.2
    | failed y =>
      have late := Nat.le_of_lt (primary.later (due_le_primary _))
      refine ⟨?_, List.cons_ne_nil _ _, ?_⟩
      · change Ending.race (l.primaryEnding source.text a) ⟨0, .failure y⟩ = _
        rw [primary.1]
        exact Ending.race_failed_right prefetch.1 (Nat.le_trans prefetch.2 late)
      · intro t member
        obtain rfl := List.mem_singleton.mp member
        exact primary.2
  | failed x =>
    cases right with
    | running b =>
      have late := Nat.le_of_lt (prefetch.later (due_le_prefetch _))
      refine ⟨?_, List.cons_ne_nil _ _, ?_⟩
      · change Ending.race ⟨0, .failure x⟩ (l.prefetchEnding source.text b) = _
        rw [prefetch.1]
        exact Ending.race_failed_left primary.1 (Nat.le_trans primary.2 late)
      · intro t member
        obtain rfl := List.mem_singleton.mp member
        exact prefetch.2
    | failed y =>
      -- The side that fails last does so in this turn: the other one is not due any more.
      have ends : max p.instant q.instant = l.now := by
        have first := primary.2
        have second := prefetch.2
        omega
      rw [Ending.race_neither primary.1 prefetch.1, ends]
      rfl

/-- What is left of a race when both sides have had their turn. -/
theorem raceStep_shows {source : Source} {p q : Ending Torrent}
    {left : Except Torrent (Lane (Attempt Info) Failure)} {right : Except Torrent (Lane PrefetchState Failure)}
    (primary : p.Leaves l.now (l.primaryEnding source.text) Attempt.primaryDue (.ok left))
    (prefetch : q.Leaves l.now (l.prefetchEnding source.text) PrefetchState.due (.ok right))
    (timely : l.now ≤ p.instant ∨ l.now ≤ q.instant) :
    (p.race q).Shows l.now
      (fun progress => l.progressEnding source progress = p.race q ∧ progress.Waits l.now)
      (.ok (raceStep (Race.decide left right))) := by
  rcases left with t | left
  · apply Ending.race_left primary
    rcases right with u | right
    · exact Or.inl ⟨u, prefetch⟩
    · exact Or.inr (prefetch.late (due_le_prefetch _))
  · rcases right with u | right
    · have wins := Ending.race_right prefetch (primary.late (due_le_primary _))
      cases left with
      | running a => exact wins
      | failed x => exact wins
    · exact lanes_show primary prefetch timely

/-- A turn of a race whose sides are at this point. The right side has its turn unless the left one
crashes. -/
theorem race_shows {source : Source} {p q : Ending Torrent}
    (left : Turn (Except Torrent (Lane (Attempt Info) Failure)))
    (right : Turn (Except Torrent (Lane PrefetchState Failure)))
    (primary : p.Leaves l.now (l.primaryEnding source.text) Attempt.primaryDue left.result)
    (prefetch : q.Leaves l.now (l.prefetchEnding source.text) PrefetchState.due right.result)
    (unwon : q.Open l.now) (timely : l.now ≤ p.instant ∨ l.now ≤ q.instant) {result : Except String _}
    (same : result = left.result.bind fun a => right.result.bind fun b =>
      .ok (raceStep (Race.decide a b))) :
    (p.race q).Shows l.now
      (fun progress => l.progressEnding source progress = p.race q ∧ progress.Waits l.now) result := by
  subst same
  cases first : left.result with
  | error detail =>
    rw [first] at primary
    exact Ending.race_crash_left primary unwon
  | ok a =>
    rw [first] at primary
    cases second : right.result with
    | error detail =>
      rw [second] at prefetch
      apply Ending.race_crash_right prefetch
      rcases a with t | left
      · exact Or.inl (Nat.le_of_eq (congrArg Ending.instant primary).symm)
      · exact (primary.late (due_le_primary _)).open
    | ok b =>
      rw [second] at prefetch
      exact raceStep_shows primary prefetch timely

theorem begin_result {α : Type} (l : Lookup) (limit : Nat) (call : Call) (script : Script α) :
    (l.begin limit call script).result = .ok ⟨l.now, limit, script⟩ := rfl

theorem directStep_shows {source : Source} {e : Ending Torrent} {state : Turn (Step DirectState (Except Failure Torrent))}
    (shown : e.Shows l.now (fun next => l.directEnding next = e ∧ l.now < next.due) state.result) :
    (e.map (·, Path.direct)).Shows l.now
      (fun next => l.progressEnding source next = e.map (·, Path.direct) ∧ next.Waits l.now)
      (state >>= fun step => pure (directStep step)).result := by
  refine shown.andThen ?_ ?_ ?_
  · rintro next ⟨same, early⟩
    refine ⟨congrArg (Ending.map (·, Path.direct)) same, List.cons_ne_nil _ _, ?_⟩
    intro t member
    obtain rfl := List.mem_singleton.mp member
    exact early
  · intro t _
    rfl
  · intro x
    rfl

theorem start_shows (l : Lookup) (source : Source) :
    (l.ending source).Shows l.now
      (fun progress => l.progressEnding source progress = l.ending source ∧ progress.Waits l.now)
      (l.start source).result := by
  cases source with
  | direct url cookies =>
    exact directStep_shows (pollDownload_shows (Attempt.since_le _ _ _ _))
  | magnet uri =>
    let a : Attempt Info := ⟨l.now, l.limits.call, l.backend.magnetInfo l.submission uri⟩
    let b : Attempt Prefetched := ⟨l.now, l.limits.prefetch, l.backend.prefetch l.submission uri⟩
    have begun : l.now ≤ (l.prefetchEnding uri (.fetching b)).instant :=
      Nat.le_trans (Attempt.since_le .prefetch _ _ _) (due_le_prefetch uri (.fetching b))
    refine race_shows (Race.pollLane (l.pollPrimary uri) (.running a))
      (Race.pollLane (l.pollPrefetch uri) (.running (.fetching b))) ?_ ?_ (Or.inl begun) (Or.inr begun) ?_
    · apply Race.pollLane_leaves
      rintro _ ⟨⟩
      exact pollPrimary_shows (Attempt.since_le _ _ _ _)
    · apply Race.pollLane_leaves
      rintro _ ⟨⟩
      exact pollPrefetch_shows (Attempt.since_le _ _ _ _)
    · simp only [start, startMagnet, Turn.result_bind, begin_result, Except.bind]
      rfl

theorem resume_shows (l : Lookup) (source : Source) {progress : Progress} (timely : progress.Timely l.now) :
    (l.progressEnding source progress).Shows l.now
      (fun next => l.progressEnding source next = l.progressEnding source progress ∧ next.Waits l.now)
      (l.resume source progress).result := by
  obtain ⟨waits, timely⟩ := timely
  cases progress with
  | direct state => exact directStep_shows (pollDirect_shows (timely _ (List.mem_singleton_self _)))
  | magnet race =>
    have primary : ∀ a, race.left = .running a → l.now ≤ a.primaryDue := by
      intro a running
      refine timely _ (List.mem_append_left _ ?_)
      rw [running]
      exact List.mem_singleton_self _
    have prefetch : ∀ b, race.right = .running b → l.now ≤ b.due := by
      intro b running
      refine timely _ (List.mem_append_right _ ?_)
      rw [running]
      exact List.mem_singleton_self _
    refine race_shows (Race.pollLane (l.pollPrimary source.text) race.left)
      (Race.pollLane (l.pollPrefetch source.text) race.right) ?_ ?_ ?_ ?_ ?_
    · exact Race.pollLane_leaves fun a running => pollPrimary_shows (primary a running)
    · exact Race.pollLane_leaves fun b running => pollPrefetch_shows (prefetch b running)
    · cases right : race.right with
      | running b => exact Or.inl (Nat.le_trans (prefetch b right) (due_le_prefetch _ b))
      | failed y => exact Or.inr ⟨y, rfl⟩
    · cases left : race.left with
      | running a => exact Or.inl (Nat.le_trans (primary a left) (due_le_primary _ a))
      | failed x =>
        cases right : race.right with
        | running b => exact Or.inr (Nat.le_trans (prefetch b right) (due_le_prefetch _ b))
        | failed y =>
          refine (waits ?_).elim
          rw [Progress.dues, left, right]
          rfl
    · simp only [resume, Race.poll, Turn.result_bind]
      cases (Race.pollLane (l.pollPrimary source.text) race.left).result with
      | error crash => rfl
      | ok a => cases (Race.pollLane (l.pollPrefetch source.text) race.right).result <;> rfl

end Lookup

end TorrentAdmission
