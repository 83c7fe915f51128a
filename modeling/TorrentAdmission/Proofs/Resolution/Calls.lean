import TorrentAdmission.Proofs.Resolution.Answers
import TorrentAdmission.Proofs.Resolution.Hearing
import TorrentAdmission.Proofs.Resolution.Trail
import TorrentAdmission.Proofs.Torrent.Metadata

/-!
# The calls of a lookup

Which calls a lookup makes depends on the instants at which it has its turns, on the answers to its calls,
and for a magnet link on how far the primary path has come by then. A source takes one call or two at
first, and an answer to one of them that can be used is followed by one more: `callsIn_direct` and
`callsIn_magnet`. After that call the lookup is mute, and so it is when there will be no such answer
(`resume_mute`).
-/

namespace TorrentAdmission

/-! ### The calls for a source -/

namespace Backend

/-- The calls for the torrent file at `url`: a download in the first turn, and a description of the file
that it has answered with if that is heard. -/
def DirectCalls (b : Backend) (limits : Limits) (submission : Uuid) (url cookies : String) (turns : List Nat)
    (calls : List Call) : Prop :=
  match turns with
  | [] => calls = []
  | first :: _ =>
    let download : Attempt String := ⟨first, limits.call, b.download submission url cookies⟩
    let opening := [Call.download url cookies]
    (calls = opening ∨ ∃ filename, calls = opening ++ [.torrentInfo (.file filename)]) ∧
      ∀ filename, calls = opening ++ [.torrentInfo (.file filename)] ↔
        download.script.reply = .ok filename ∧ download.Heard turns

/-- The calls for a magnet link: a description of the link and a prefetch in the first turn, or only the
former if it crashes there; and a description of the metadata that have been prefetched, if that is heard
in a turn before which the primary path has not succeeded and by the end of which it has not crashed. -/
def MagnetCalls (b : Backend) (limits : Limits) (submission : Uuid) (uri : String) (turns : List Nat)
    (calls : List Call) : Prop :=
  match turns with
  | [] => calls = []
  | first :: _ =>
    let primary : Attempt Info := ⟨first, limits.call, b.magnetInfo submission uri⟩
    let prefetch : Attempt Prefetched := ⟨first, limits.prefetch, b.prefetch submission uri⟩
    let opening := [Call.magnetInfo uri, Call.prefetch uri]
    (primary.Crashes [first] → calls = [.magnetInfo uri]) ∧
      (¬ primary.Crashes [first] →
        (calls = opening ∨ ∃ bytes, calls = opening ++ [.torrentInfo (.metadata bytes)]) ∧
        ∀ bytes, calls = opening ++ [.torrentInfo (.metadata bytes)] ↔
          (∃ p, prefetch.script.reply = .ok p ∧ p.Usable bytes) ∧
            ∃ early n late, turns = early ++ n :: late ∧ prefetch.HeardAt early n ∧
              ¬ primary.Succeeds early ∧ ¬ primary.Crashes (early ++ [n]))

end Backend

/-! ### Calls of single turns -/

/-- Of all calls none but this one is made, and it is made once if `cond` holds. -/
def Call.MadeIff (call : Call) (cond : Prop) (calls : List Call) : Prop :=
  calls = [call] ∧ cond ∨ calls = [] ∧ ¬ cond

/-- Calls that begin with `opening` and go on with one for something good if `cond` holds. -/
theorem Call.followed {β : Type} {call : β → Call} (injective : ∀ a b, call a = call b → a = b)
    {good : β → Prop} {cond : Prop} {opening rest : List Call}
    (made : ∀ b, good b → MadeIff (call b) cond rest)
    (none : (∀ b, ¬ good b) → rest = []) :
    (opening ++ rest = opening ∨ ∃ b, opening ++ rest = opening ++ [call b]) ∧
      ∀ b, opening ++ rest = opening ++ [call b] ↔ good b ∧ cond := by
  have unlike : ∀ b, [] ≠ [call b] := fun b => (List.cons_ne_nil _ _).symm
  have follows : ∀ b, opening ++ rest = opening ++ [call b] ↔ rest = [call b] :=
    fun b => List.append_right_inj opening
  simp only [follows]
  by_cases some : ∃ b, good b
  · obtain ⟨b, good⟩ := some
    rcases made b good with ⟨rfl, holds⟩ | ⟨rfl, fails⟩
    · refine ⟨Or.inr ⟨b, rfl⟩, fun c => ⟨fun same => ?_, fun ⟨other, _⟩ => ?_⟩⟩
      · obtain rfl := injective _ _ (List.cons.inj same).1
        exact ⟨good, holds⟩
      · exact (made c other).elim And.left fun unmade => absurd holds unmade.2
    · exact ⟨Or.inl (List.append_nil opening), fun c => iff_of_false (unlike c) fun h => fails h.2⟩
  · have all : ∀ b, ¬ good b := fun b good => some ⟨b, good⟩
    rw [none all]
    exact ⟨Or.inl (List.append_nil opening), fun c => iff_of_false (unlike c) fun h => all c h.1⟩

namespace Turn

variable {α β γ : Type}

def calls (t : Turn α) : List Call := t.acts.filterMap Act.call?

theorem bind_assoc (t : Turn α) (f : α → Turn β) (g : β → Turn γ) :
    (t >>= f) >>= g = t >>= fun a => f a >>= g := by
  obtain ⟨acts, crash | a⟩ := t
  · rfl
  · change andThen (andThen ⟨acts, .ok a⟩ f) g = andThen ⟨acts, .ok a⟩ fun a => andThen (f a) g
    unfold andThen
    dsimp only
    cases (f a).result with
    | error crash => rfl
    | ok b => simp

/-- The turn is like `u`, but for these calls that come first. -/
structure After (cs : List Call) (u t : Turn α) : Prop where
  calls : t.calls = cs ++ u.calls
  result : t.result = u.result

theorem calls_append (acts more : List Act) (result : Except String α) :
    (⟨acts ++ more, result⟩ : Turn α).calls = acts.filterMap Act.call? ++ more.filterMap Act.call? :=
  List.filterMap_append

theorem After.bind {cs : List Call} {t u : Turn α} (first : After cs u t) (f : α → Turn β) :
    After cs (u >>= f) (t >>= f) := by
  obtain ⟨acts, crash | a⟩ := t
  all_goals obtain ⟨more, crash' | b⟩ := u
  all_goals obtain ⟨calls, result⟩ := first
  all_goals cases result
  · exact ⟨calls, rfl⟩
  · refine ⟨?_, rfl⟩
    change Turn.calls (⟨acts ++ (f a).acts, (f a).result⟩ : Turn β) =
      cs ++ Turn.calls (⟨more ++ (f a).acts, (f a).result⟩ : Turn β)
    rw [calls_append, calls_append, ← List.append_assoc]
    exact congrArg (· ++ _) calls

theorem After.trans {cs ds : List Call} {t u v : Turn α} (first : After cs u t) (rest : After ds v u) :
    After (cs ++ ds) v t :=
  ⟨by rw [first.calls, rest.calls, List.append_assoc], first.result.trans rest.result⟩

theorem after_bind {t : Turn α} {a : α} (silent : t.calls = []) (result : t.result = .ok a) (f : α → Turn β) :
    After [] (f a) (t >>= f) := by
  obtain ⟨acts, crash | b⟩ := t
  · cases result
  · cases result
    refine ⟨?_, rfl⟩
    change (⟨acts ++ (f a).acts, (f a).result⟩ : Turn β).calls = _
    rw [calls_append]
    exact congrArg (· ++ _) silent

/-- The calls of a turn and, if the lookup is to wait, those of which `goOn` tells. -/
def callsThen {ρ : Type} (t : Turn (Step Progress ρ)) (goOn : Progress → List Call) : List Call :=
  t.calls ++ match t.result with
    | .ok (.waiting progress) => goOn progress
    | _ => []

theorem After.callsThen {ρ : Type} {cs : List Call} {t u : Turn (Step Progress ρ)} (first : After cs u t)
    (goOn : Progress → List Call) : t.callsThen goOn = cs ++ u.callsThen goOn := by
  rw [Turn.callsThen, Turn.callsThen, first.calls, first.result, List.append_assoc]

theorem callsThen_crash {ρ : Type} {t : Turn α} {crash : String} (silent : t.calls = [])
    (crashed : t.result = .error crash) (f : α → Turn (Step Progress ρ)) (goOn : Progress → List Call) :
    (t >>= f).callsThen goOn = [] := by
  obtain ⟨acts, _ | a⟩ := t
  · exact (List.append_nil _).trans silent
  · cases crashed

end Turn

theorem Attempt.answer_calls {α : Type} (a : Attempt α) (result : Except Failure α) :
    (a.answer result).calls = [] := by
  refine List.filterMap_eq_nil_iff.mpr fun act member => ?_
  obtain ⟨k, -, rfl⟩ := List.mem_map.mp member
  rfl

theorem Lookup.begin_after {α β : Type} (l : Lookup) (limit : Nat) (call : Call) (script : Script α)
    (f : Attempt α → Turn β) :
    Turn.After [call] (f ⟨l.now, limit, script⟩) (l.begin limit call script >>= f) :=
  ⟨rfl, rfl⟩

/-! ### Lookups without another call -/

def Act.Mute (act : Act) : Prop := act.call? = none

/-- What a turn may find out about a call. -/
def Attempt.Finds {α : Type} (a : Attempt α) : Step (Attempt α) (Except Failure α) → Prop
  | .waiting b => b = a
  | .done (.ok value) => a.script.reply = .ok value
  | .done (.error _) => True

/-- No call will follow on the one that is under way. -/
def DirectState.Mute : DirectState → Prop
  | .downloading a => ∀ filename, a.script.reply ≠ .ok filename
  | .describing _ _ => True

def PrefetchState.Mute : PrefetchState → Prop
  | .fetching a => ∀ p, a.script.reply = .ok p → ∀ bytes, ¬ p.Usable bytes
  | .describing _ _ => True

def Progress.Mute : Progress → Prop
  | .direct state => state.Mute
  | .magnet race => ∀ state, race.right = .running state → state.Mute

theorem Turn.Meets.silent {α : Type} {t : Turn α} {P : α → Prop} (meets : t.Meets Act.Mute P) : t.calls = [] :=
  List.filterMap_eq_nil_iff.mpr meets.acts

theorem Turn.Meets.callsThen {ρ : Type} {t : Turn (Step Progress ρ)}
    (meets : t.Meets Act.Mute (Step.Rests Progress.Mute)) {goOn : Progress → List Call}
    (mute : ∀ progress, progress.Mute → goOn progress = []) : t.callsThen goOn = [] := by
  rw [Turn.callsThen, meets.silent, List.nil_append]
  split
  · rename_i progress waiting
    exact mute progress (meets.result _ waiting)
  · rfl

theorem Attempt.poll_finds {α : Type} (op : Operation) (a : Attempt α) (now : Nat) :
    (a.poll op now).Meets Act.Mute a.Finds := by
  have answer : ∀ result, a.Finds (.done result) → (a.answer result).Meets Act.Mute a.Finds := by
    intro result found
    refine ⟨List.filterMap_eq_nil_iff.mp (a.answer_calls result), fun step same => ?_⟩
    cases same
    exact found
  have polled := a.poll_cases op now
  generalize a.poll op now = turn at polled ⊢
  cases polled with
  | answered value reply there => exact answer _ reply
  | refused detail reply => exact answer _ trivial
  | crashed detail reply there => exact ⟨(fun _ member => nomatch member), (fun _ result => nomatch result)⟩
  | timedOut unanswered due => exact Turn.meets_pure trivial
  | waits unanswered undue => exact Turn.meets_pure rfl

namespace Lookup

variable (l : Lookup)

theorem note_mute (topic : Topic) (fields : Fields) :
    (Turn.note topic fields).Meets Act.Mute fun _ => True :=
  Turn.meets_act rfl

theorem pollFileInfo_mute (filename : String) (a : Attempt Info) :
    (l.pollFileInfo filename a).Meets Act.Mute (Step.Rests DirectState.Mute) := by
  refine (a.poll_finds _ _).bind fun step _ => ?_
  rcases step with b | e | info
  · exact Turn.meets_pure trivial
  · exact Turn.meets_pure trivial
  · exact Turn.meets_pure trivial

theorem pollDirect_mute {state : DirectState} (mute : state.Mute) :
    (l.pollDirect state).Meets Act.Mute (Step.Rests DirectState.Mute) := by
  cases state with
  | describing filename a => exact l.pollFileInfo_mute filename a
  | downloading a =>
    refine (a.poll_finds _ _).bind fun step found => ?_
    rcases step with b | e | filename
    · obtain rfl : b = a := found
      exact Turn.meets_pure mute
    · exact Turn.meets_pure trivial
    · exact (mute filename found).elim

theorem pollPrimary_mute (uri : String) (a : Attempt Info) :
    (l.pollPrimary uri a).Meets Act.Mute (Step.Rests fun _ => True) := by
  refine (a.poll_finds _ _).bind fun step _ => ?_
  rcases step with b | e | info
  · exact Turn.meets_pure trivial
  · exact (note_mute _ _).bind fun _ _ => Turn.meets_pure trivial
  · exact Turn.meets_pure trivial

theorem pollMetadataInfo_mute (uri : String) (hash : InfoHash) (a : Attempt Info) :
    (l.pollMetadataInfo uri hash a).Meets Act.Mute (Step.Rests PrefetchState.Mute) := by
  refine (a.poll_finds _ _).bind fun step _ => ?_
  rcases step with b | e | info
  · exact Turn.meets_pure trivial
  · exact Turn.meets_pure trivial
  · exact Turn.meets_pure trivial

theorem useMetadata_mute (uri : String) {p : Prefetched} (unusable : ∀ bytes, ¬ p.Usable bytes) :
    (l.useMetadata uri p).Meets Act.Mute (Step.Rests PrefetchState.Mute) := by
  unfold useMetadata
  split
  · exact Turn.meets_pure trivial
  · rename_i hash named
    split
    · exact (note_mute _ _).bind fun _ _ => Turn.meets_pure trivial
    · rename_i bytes decoded
      exact (unusable bytes (Prefetched.usable_iff.mpr ⟨⟨hash, named⟩, decoded⟩)).elim

theorem pollPrefetch_mute (uri : String) {state : PrefetchState} (mute : state.Mute) :
    (l.pollPrefetch uri state).Meets Act.Mute (Step.Rests PrefetchState.Mute) := by
  cases state with
  | describing hash a => exact l.pollMetadataInfo_mute uri hash a
  | fetching a =>
    refine (a.poll_finds _ _).bind fun step found => ?_
    rcases step with b | e | p
    · obtain rfl : b = a := found
      exact Turn.meets_pure mute
    · exact (note_mute _ _).bind fun _ _ => Turn.meets_pure trivial
    · exact l.useMetadata_mute uri (mute p found)

theorem directStep_mute {step : Step DirectState (Except Failure Torrent)}
    (mute : step.Rests DirectState.Mute) : (directStep step).Rests Progress.Mute := by
  cases step with
  | waiting state => exact mute
  | done result => trivial

theorem raceStep_mute {left : Except Torrent (Lane (Attempt Info) Failure)}
    {right : Except Torrent (Lane PrefetchState Failure)}
    (mute : ∀ state, right = .ok (.running state) → state.Mute) :
    (raceStep (Race.decide left right)).Rests Progress.Mute := by
  rcases left with t | (a | e)
  · trivial
  · rcases right with t | (b | f)
    · trivial
    · exact fun _ same => mute _ (congrArg _ same)
    · exact (fun _ same => nomatch same)
  · rcases right with t | (b | f)
    · trivial
    · exact fun _ same => mute _ (congrArg _ same)
    · trivial

/-- A turn of the right side of a race, and what the race then comes to. -/
def secondHalf (uri : String) (left : Except Torrent (Lane (Attempt Info) Failure))
    (right : Lane PrefetchState Failure) : Turn (Step Progress (Except Failure (Torrent × Path))) := do
  let right ← Race.pollLane (l.pollPrefetch uri) right
  return raceStep (Race.decide left right)

theorem resume_magnet (source : Source) (race : Race (Attempt Info) PrefetchState Failure) :
    l.resume source (.magnet race) = (do
      let left ← Race.pollLane (l.pollPrimary source.text) race.left
      l.secondHalf source.text left race.right) := by
  refine (Turn.bind_assoc _ _ _).trans ?_
  congr 1
  funext left
  exact Turn.bind_assoc _ _ _

theorem pollPrimary_silent (uri : String) (lane : Lane (Attempt Info) Failure) :
    (Race.pollLane (l.pollPrimary uri) lane).calls = [] :=
  (pollLane_meets (P := fun _ => True) fun a _ => l.pollPrimary_mute uri a).silent

theorem secondHalf_mute (uri : String) (left : Except Torrent (Lane (Attempt Info) Failure))
    {right : Lane PrefetchState Failure} (mute : ∀ state, right = .running state → state.Mute) :
    (l.secondHalf uri left right).Meets Act.Mute (Step.Rests Progress.Mute) :=
  (pollLane_meets fun state same => l.pollPrefetch_mute uri (mute state same)).bind fun _ after =>
    Turn.meets_pure (raceStep_mute after)

theorem resume_mute (source : Source) {progress : Progress} (mute : progress.Mute) :
    (l.resume source progress).Meets Act.Mute (Step.Rests Progress.Mute) := by
  cases progress with
  | direct state =>
    exact (l.pollDirect_mute mute).bind fun _ rests => Turn.meets_pure (directStep_mute rests)
  | magnet race =>
    rw [resume_magnet]
    refine (pollLane_meets (P := fun _ => True) fun a _ => l.pollPrimary_mute _ a).bind fun left _ => ?_
    exact l.secondHalf_mute _ left mute

/-! ### The calls over all turns -/

variable (source : Source)

/-- The calls of a lookup on its way that has further turns at these instants. -/
def callsFrom : List Nat → Progress → List Call
  | [], _ => []
  | n :: rest, progress => (({ l with now := n } : Lookup).resume source progress).callsThen (callsFrom rest)

/-- The calls of a lookup that has turns at these instants. It begins in the first of them. -/
def callsIn : List Nat → List Call
  | [] => []
  | n :: rest => (({ l with now := n } : Lookup).start source).callsThen (l.callsFrom source rest)

theorem callsFrom_mute {progress : Progress} (mute : progress.Mute) (turns : List Nat) :
    l.callsFrom source turns progress = [] := by
  induction turns generalizing progress with
  | nil => rfl
  | cons n rest ih => exact (resume_mute _ source mute).callsThen fun next mute => ih mute

/-! ### After a download -/

theorem download_answered {a : Attempt String} {filename : String}
    (polled : a.poll .download l.now = a.answer (.ok filename)) :
    ∃ info, Turn.After [.torrentInfo (.file filename)] (l.resume source (.direct (.describing filename info)))
      (l.resume source (.direct (.downloading a))) := by
  refine ⟨⟨l.now, l.limits.call, l.backend.torrentInfo l.submission (.file filename)⟩, Turn.After.bind ?_ _⟩
  change Turn.After _ (l.pollFileInfo filename _) (l.pollDownload a)
  rw [pollDownload, polled]
  exact (Turn.after_bind (a.answer_calls _) rfl _).trans
    ((Turn.after_bind rfl rfl _).trans (l.begin_after l.limits.call (.torrentInfo (.file filename)) _ _))

/-- A download is followed by a call if its answer is heard. -/
theorem callsFrom_downloading {a : Attempt String} {filename : String} (reply : a.script.reply = .ok filename)
    (turns : List Nat) : Call.MadeIff (.torrentInfo (.file filename)) (a.Heard turns)
      (l.callsFrom source turns (.direct (.downloading a))) := by
  induction turns with
  | nil => exact Or.inr ⟨rfl, Attempt.not_heard_nil⟩
  | cons n rest ih =>
    have found := a.poll_cases .download n
    rw [callsFrom]
    generalize polled : a.poll .download n = turn at found
    cases found with
    | answered value same there =>
      cases reply.symm.trans same
      obtain ⟨info, after⟩ := download_answered { l with now := n } source polled
      have mute : (Progress.direct (.describing filename info)).Mute := trivial
      have silent := (resume_mute { l with now := n } source mute).callsThen
        fun next mute => l.callsFrom_mute source mute rest
      rw [after.callsThen, silent]
      exact Or.inl ⟨rfl, Attempt.heard_of_there there⟩
    | refused detail other => cases reply.symm.trans other
    | crashed detail other => cases reply.symm.trans other
    | timedOut unanswered due =>
      have soon := unanswered.resolve_right (by simp [reply])
      refine Or.inr ⟨?_, Attempt.not_heard_of_due soon due⟩
      rw [resume, pollDirect, pollDownload, polled]
      rfl
    | waits unanswered undue =>
      -- nothing has changed, so the turns that are left decide
      have soon := unanswered.resolve_right (by simp [reply])
      rw [Call.MadeIff, Attempt.heard_of_waiting soon undue, resume, pollDirect, pollDownload, polled]
      exact ih

/-! ### After a prefetch -/

theorem pollPrimary_plays (uri : String) (lane : Lane (Attempt Info) Failure) :
    lane.Plays l.now (Race.pollLane (l.pollPrimary uri) lane).result := by
  cases lane with
  | failed e => exact .goesOn _ (fun _ => Iff.rfl) fun _ => Iff.rfl
  | running a =>
    have found := a.poll_cases .magnetInfo l.now
    rw [Race.pollLane, pollPrimary]
    generalize a.poll .magnetInfo l.now = turn at found
    cases found with
    | answered value reply there =>
      refine .wins _ (fun rest => ⟨⟨value, reply⟩, Attempt.heard_of_there there⟩) ?_
      rintro turns ⟨⟨detail, crash⟩, -⟩
      cases reply.symm.trans crash
    | refused detail reply =>
      exact Lane.plays_failed (fun rest => Lane.running_quiet (Attempt.quiet_of_error reply) _) _
    | crashed detail reply there =>
      exact .crashes _ fun rest => ⟨⟨detail, reply⟩, Attempt.heard_of_there there⟩
    | timedOut unanswered due => exact Lane.running_timedOut unanswered due _
    | waits unanswered undue => exact Lane.running_waits unanswered undue

variable {uri : String} {q : Attempt Prefetched} {p : Prefetched} {bytes : List UInt8}
  {left : Except Torrent (Lane (Attempt Info) Failure)}

theorem useMetadata_after (uri : String) (usable : p.Usable bytes) :
    ∃ hash info, Turn.After [.torrentInfo (.metadata bytes)] (l.pollMetadataInfo uri hash info)
      (l.useMetadata uri p) := by
  obtain ⟨⟨hash, named⟩, decoded⟩ := Prefetched.usable_iff.mp usable
  refine ⟨hash, ⟨l.now, l.limits.call, l.backend.torrentInfo l.submission (.metadata bytes)⟩, ?_⟩
  rw [useMetadata, named]
  dsimp only
  rw [decoded]
  exact (Turn.after_bind rfl rfl _).trans (l.begin_after l.limits.call (.torrentInfo (.metadata bytes)) _ _)

theorem prefetch_answered (uri : String) (left : Except Torrent (Lane (Attempt Info) Failure))
    (polled : q.poll .prefetch l.now = q.answer (.ok p)) (usable : p.Usable bytes) :
    ∃ hash info, Turn.After [.torrentInfo (.metadata bytes)]
      (l.secondHalf uri left (.running (.describing hash info)))
      (l.secondHalf uri left (.running (.fetching q))) := by
  obtain ⟨hash, info, used⟩ := l.useMetadata_after uri usable
  refine ⟨hash, info, Turn.After.bind (Turn.After.bind ?_ _) _⟩
  change Turn.After _ (l.pollMetadataInfo uri hash info) _
  rw [pollPrefetch, polled]
  exact (Turn.after_bind (q.answer_calls _) rfl _).trans used

theorem prefetch_timedOut {e : Failure} (polled : q.poll .prefetch l.now = pure (.done (.error e))) :
    (l.secondHalf uri left (.running (.fetching q))).Meets Act.Mute (Step.Rests Progress.Mute) := by
  rw [secondHalf, Race.pollLane, pollPrefetch, polled]
  refine Turn.Meets.bind (P := (· = .ok (.failed e))) ?_ fun right failed => Turn.meets_pure (raceStep_mute ?_)
  · refine Turn.Meets.bind (P := (· = .done (.error e))) ?_ fun step failed => ?_
    · rw [Turn.pure_bind]
      exact (note_mute _ _).bind fun _ _ => Turn.meets_pure rfl
    · subst failed
      exact Turn.meets_pure rfl
  · subst failed
    intro state same
    cases same

theorem prefetch_waits (polled : q.poll .prefetch l.now = pure (.waiting q)) :
    l.secondHalf uri left (.running (.fetching q)) =
      pure (raceStep (Race.decide left (.ok (.running (.fetching q))))) := by
  rw [secondHalf, Race.pollLane, pollPrefetch, polled]
  rfl

/-- What the right side of a race does in a turn while it waits for metadata that can be used. -/
theorem secondHalf_fetching (reply : q.script.reply = .ok p) (usable : p.Usable bytes)
    {goOn : Progress → List Call} (mute : ∀ progress, progress.Mute → goOn progress = []) :
    (q.since + q.script.after ≤ l.now ∧
        (l.secondHalf uri left (.running (.fetching q))).callsThen goOn = [.torrentInfo (.metadata bytes)]) ∨
      (l.now < q.since + q.script.after ∧ q.since + q.limit ≤ l.now ∧
        (l.secondHalf uri left (.running (.fetching q))).callsThen goOn = []) ∨
      (l.now < q.since + q.script.after ∧ l.now < q.since + q.limit ∧
        l.secondHalf uri left (.running (.fetching q)) =
          pure (raceStep (Race.decide left (.ok (.running (.fetching q)))))) := by
  have found := q.poll_cases .prefetch l.now
  generalize polled : q.poll .prefetch l.now = turn at found
  cases found with
  | answered value same there =>
    cases reply.symm.trans same
    obtain ⟨hash, info, after⟩ := l.prefetch_answered uri left polled usable
    refine Or.inl ⟨there, ?_⟩
    rw [after.callsThen, (l.secondHalf_mute uri left ?_).callsThen mute]
    · rfl
    · rintro state ⟨⟩
      trivial
  | refused detail other => cases reply.symm.trans other
  | crashed detail other => cases reply.symm.trans other
  | timedOut unanswered due =>
    have soon := unanswered.resolve_right (by simp [reply])
    exact Or.inr (Or.inl ⟨soon, due, (l.prefetch_timedOut polled).callsThen mute⟩)
  | waits unanswered undue =>
    have soon := unanswered.resolve_right (by simp [reply])
    exact Or.inr (Or.inr ⟨soon, undue, l.prefetch_waits polled⟩)

/-- A prefetch is followed by a call if its answer can be used and is heard beside the primary path. -/
theorem callsFrom_fetching (reply : q.script.reply = .ok p) (usable : p.Usable bytes)
    (lane : Lane (Attempt Info) Failure) (turns : List Nat) :
    Call.MadeIff (.torrentInfo (.metadata bytes)) (q.HeardBeside lane turns)
      (l.callsFrom source turns (.magnet ⟨lane, .running (.fetching q)⟩)) := by
  induction turns generalizing lane with
  | nil => exact Or.inr ⟨rfl, fun beside => Attempt.not_heard_nil beside.heard⟩
  | cons n rest ih =>
    have plays := pollPrimary_plays { l with now := n } source.text lane
    have silent := ({ l with now := n } : Lookup).pollPrimary_silent source.text lane
    have mute : ∀ next : Progress, next.Mute → l.callsFrom source rest next = [] :=
      fun next mute => l.callsFrom_mute source mute rest
    rw [callsFrom, resume_magnet]
    generalize Race.pollLane (({ l with now := n } : Lookup).pollPrimary source.text) lane = first at plays silent
    obtain ⟨acts, result⟩ := first
    cases plays with
    | crashes detail crashes =>
      -- the crash of the left side comes before the right one is looked at
      exact Or.inr ⟨(List.append_nil _).trans silent, Attempt.not_heardBeside_of_crashes crashes⟩
    | wins value succeeds sound =>
      -- the right side has its turn even so, but it is the last one
      rw [(Turn.after_bind silent rfl _).callsThen, List.nil_append, Call.MadeIff,
        Attempt.heardBeside_of_wins succeeds sound]
      rcases secondHalf_fetching { l with now := n } reply usable mute with
        ⟨there, made⟩ | ⟨soon, -, none⟩ | ⟨soon, -, waits⟩
      · exact Or.inl ⟨made, there⟩
      · exact Or.inr ⟨none, Nat.not_le_of_lt soon⟩
      · refine Or.inr ⟨?_, Nat.not_le_of_lt soon⟩
        rw [waits]
        rfl
    | goesOn next succeeds crashes =>
      rw [(Turn.after_bind silent rfl _).callsThen, List.nil_append]
      rcases secondHalf_fetching { l with now := n } reply usable mute with
        ⟨there, made⟩ | ⟨soon, due, none⟩ | ⟨soon, undue, waits⟩
      · have sound : ¬ lane.Crashes [n] := fun h => Lane.not_crashes_nil ((crashes []).mp h)
        exact Or.inl ⟨made, Attempt.heardBeside_of_there there sound⟩
      · exact Or.inr ⟨none, fun beside => Attempt.not_heard_of_due soon due beside.heard⟩
      · rw [Call.MadeIff, Attempt.heardBeside_of_goesOn succeeds crashes soon undue, waits]
        cases next <;> exact ih _

/-! ### The first turn -/

theorem start_download (l : Lookup) (url cookies : String) :
    Turn.After [.download url cookies] (l.resume (.direct url cookies)
        (.direct (.downloading ⟨l.now, l.limits.call, l.backend.download l.submission url cookies⟩)))
      (l.start (.direct url cookies)) := by
  rw [start, startDirect, Turn.bind_assoc]
  exact ⟨rfl, rfl⟩

/-- A race begins with the first call, and with the second one if the first does not crash. -/
theorem start_race (l : Lookup) (uri : String) (goOn : Progress → List Call) :
    let primary : Attempt Info := ⟨l.now, l.limits.call, l.backend.magnetInfo l.submission uri⟩
    let prefetch : Attempt Prefetched := ⟨l.now, l.limits.prefetch, l.backend.prefetch l.submission uri⟩
    (primary.Crashes [l.now] → (l.start (.magnet uri)).callsThen goOn = [.magnetInfo uri]) ∧
      (¬ primary.Crashes [l.now] → (l.start (.magnet uri)).callsThen goOn = [.magnetInfo uri, .prefetch uri] ++
        (l.resume (.magnet uri) (.magnet ⟨.running primary, .running (.fetching prefetch)⟩)).callsThen goOn) := by
  intro primary prefetch
  have begun : Turn.After [.magnetInfo uri]
      (Race.pollLane (l.pollPrimary uri) (.running primary) >>= fun left =>
        l.begin l.limits.prefetch (.prefetch uri) prefetch.script >>= fun prefetch =>
          l.secondHalf uri left (.running (.fetching prefetch)))
      (l.start (.magnet uri)) := ⟨rfl, rfl⟩
  have crashes := (l.pollPrimary_plays uri (.running primary)).crashes_now
  have silent := l.pollPrimary_silent uri (.running primary)
  cases first : (Race.pollLane (l.pollPrimary uri) (.running primary)).result with
  | error detail =>
    refine ⟨fun _ => ?_, fun sound => absurd (crashes.mpr ⟨detail, first⟩) sound⟩
    rw [begun.callsThen, Turn.callsThen_crash silent first]
    rfl
  | ok left =>
    refine ⟨fun crash => ?_, fun _ => ?_⟩
    · obtain ⟨detail, crashed⟩ := crashes.mp crash
      cases first.symm.trans crashed
    · have second : Turn.After [.prefetch uri] (l.secondHalf uri left (.running (.fetching prefetch)))
          (l.begin l.limits.prefetch (.prefetch uri) prefetch.script >>= fun prefetch =>
            l.secondHalf uri left (.running (.fetching prefetch))) := ⟨rfl, rfl⟩
      have resumed : Turn.After [] (l.secondHalf uri left (.running (.fetching prefetch)))
          (l.resume (.magnet uri) (.magnet ⟨.running primary, .running (.fetching prefetch)⟩)) := by
        rw [resume_magnet]
        exact Turn.after_bind silent first fun left => l.secondHalf uri left (.running (.fetching prefetch))
      rw [begun.callsThen, (Turn.after_bind silent first _).callsThen, second.callsThen, resumed.callsThen]
      rfl

theorem callsIn_direct (l : Lookup) (url cookies : String) (turns : List Nat) :
    l.backend.DirectCalls l.limits l.submission url cookies turns (l.callsIn (.direct url cookies) turns) := by
  cases turns with
  | nil => rfl
  | cons n rest =>
    let download : Attempt String := ⟨n, l.limits.call, l.backend.download l.submission url cookies⟩
    have opening : l.callsIn (.direct url cookies) (n :: rest) = [.download url cookies] ++
        l.callsFrom (.direct url cookies) (n :: rest) (.direct (.downloading download)) :=
      (start_download { l with now := n } url cookies).callsThen _
    rw [opening]
    refine Call.followed (fun _ _ same => Query.file.inj (Call.torrentInfo.inj same))
      (fun filename reply => l.callsFrom_downloading _ reply (n :: rest)) fun none => ?_
    have mute : (Progress.direct (.downloading download)).Mute := none
    exact l.callsFrom_mute _ mute (n :: rest)

theorem callsIn_magnet (l : Lookup) (uri : String) (turns : List Nat) :
    l.backend.MagnetCalls l.limits l.submission uri turns (l.callsIn (.magnet uri) turns) := by
  cases turns with
  | nil => rfl
  | cons n rest =>
    let primary : Attempt Info := ⟨n, l.limits.call, l.backend.magnetInfo l.submission uri⟩
    let prefetch : Attempt Prefetched := ⟨n, l.limits.prefetch, l.backend.prefetch l.submission uri⟩
    obtain ⟨crashing, sound⟩ := start_race { l with now := n } uri (l.callsFrom (.magnet uri) rest)
    refine ⟨crashing, fun goesOn => ?_⟩
    have opening : l.callsIn (.magnet uri) (n :: rest) = [.magnetInfo uri, .prefetch uri] ++
        l.callsFrom (.magnet uri) (n :: rest) (.magnet ⟨.running primary, .running (.fetching prefetch)⟩) :=
      sound goesOn
    let usable (bytes : List UInt8) : Prop := ∃ p, prefetch.script.reply = .ok p ∧ p.Usable bytes
    let beside : Prop := prefetch.HeardBeside (.running primary : Lane (Attempt Info) Failure) (n :: rest)
    let later := l.callsFrom (.magnet uri) (n :: rest)
      (.magnet ⟨.running primary, .running (.fetching prefetch)⟩)
    have made : ∀ bytes, usable bytes → Call.MadeIff (.torrentInfo (.metadata bytes)) beside later := by
      rintro bytes ⟨p, reply, usable⟩
      exact l.callsFrom_fetching _ reply usable (.running primary) (n :: rest)
    have none : (∀ bytes, ¬ usable bytes) → later = [] := by
      intro none
      refine l.callsFrom_mute _ ?_ (n :: rest)
      rintro state ⟨⟩ p reply bytes usable
      exact none bytes ⟨p, reply, usable⟩
    rw [opening]
    exact Call.followed (fun _ _ same => Query.metadata.inj (Call.torrentInfo.inj same)) made none

end Lookup

end TorrentAdmission
