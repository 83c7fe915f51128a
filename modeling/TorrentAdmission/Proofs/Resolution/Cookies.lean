import TorrentAdmission.Proofs.Resolution.Calls

/-!
# Cookies in a lookup

The cookies of a request go into one call, the download with which the lookup of a torrent file begins. If the
backend answers without looking at them, nothing else in any turn depends on them: `Lookup.start_cookies` and
`Lookup.resume_cookieless`.
-/

namespace TorrentAdmission

/-- The answer to a download does not depend on the cookies. -/
def Backend.IgnoresCookies (b : Backend) : Prop :=
  ∀ (submission : Uuid) (url cookies other : String),
    b.download submission url cookies = b.download submission url other

def Request.withCookies (c : String) (r : Request) : Request := { r with cookies := c }

namespace Call

def withCookies (c : String) : Call → Call
  | .download url _ => .download url c
  | call => call

def isDownload : Call → Bool
  | .download _ _ => true
  | _ => false

theorem withCookies_of_not_download {call : Call} (other : call.isDownload = false) (c : String) :
    call.withCookies c = call := by
  cases call with
  | download url cookies => cases other
  | _ => rfl

theorem map_withCookies {calls : List Call} (others : ∀ call ∈ calls, call.isDownload = false) (c : String) :
    calls.map (withCookies c) = calls :=
  (List.map_congr_left fun call member => withCookies_of_not_download (others call member) c).trans (List.map_id calls)

end Call

def Act.withCookies (c : String) : Act → Act
  | .call made => .call (made.withCookies c)
  | act => act

namespace Turn

variable {α β : Type} {t : Turn α} {k : α → Turn β}

def withCookies (c : String) (t : Turn α) : Turn α := ⟨t.acts.map (Act.withCookies c), t.result⟩

theorem withCookies_bind (c : String) (t : Turn α) (k : α → Turn β) :
    (t >>= k).withCookies c = t.withCookies c >>= fun a => (k a).withCookies c := by
  obtain ⟨acts, crash | a⟩ := t
  · rfl
  · change (⟨(acts ++ (k a).acts).map (Act.withCookies c), (k a).result⟩ : Turn β) =
      ⟨acts.map (Act.withCookies c) ++ (k a).acts.map (Act.withCookies c), (k a).result⟩
    rw [List.map_append]

/-- There is no download in the turn. -/
def Cookieless (t : Turn α) : Prop := ∀ c, t.withCookies c = t

theorem Cookieless.bind (first : t.Cookieless) (rest : ∀ a, (k a).Cookieless) : (t >>= k).Cookieless := by
  intro c
  rw [withCookies_bind, first c]
  exact congrArg (t >>= ·) (funext fun a => rest a c)

theorem cookieless_pure (a : α) : (pure a : Turn α).Cookieless := fun _ => rfl

theorem cookieless_note (topic : Topic) (fields : Fields) : (note topic fields).Cookieless := fun _ => rfl

theorem calls_withCookies (c : String) (t : Turn α) : (t.withCookies c).calls = t.calls.map (Call.withCookies c) := by
  rw [calls, calls, withCookies, List.filterMap_map, List.map_filterMap]
  congr 1
  funext act
  cases act <;> rfl

theorem Cookieless.calls (cookieless : t.Cookieless) : ∀ call ∈ t.calls, call.isDownload = false := by
  intro call member
  have same : ∀ c, t.calls.map (Call.withCookies c) = t.calls.map id := fun c => by
    rw [← calls_withCookies, cookieless c, List.map_id]
  have fixed : ∀ c, call.withCookies c = call := fun c =>
    List.map_inj_left.mp (same c) call member
  cases call with
  | download url cookies =>
    have blank := (Call.download.inj (fixed "")).2
    have other := (Call.download.inj (fixed "x")).2
    exact absurd (blank.trans other.symm) (by decide)
  | _ => rfl

end Turn

open Turn

theorem Attempt.poll_cookieless {α : Type} (op : Operation) (a : Attempt α) (now : Nat) :
    (a.poll op now).Cookieless := by
  intro c
  have answered : ∀ result, (a.answer result).withCookies c = a.answer result := by
    intro result
    rcases a with ⟨since, limit, reply, after, none | k⟩ <;> rfl
  have overdue : (a.overdue op now).withCookies c = a.overdue op now := by
    unfold Attempt.overdue
    split <;> rfl
  unfold poll
  split
  · cases a.script.reply with
    | ok value => exact answered _
    | error detail => exact answered _
    | crash detail => rfl
    | never => exact overdue
  · exact overdue

namespace Lookup

variable (l : Lookup)

theorem begin_cookieless {α : Type} (limit : Nat) {call : Call} (other : call.isDownload = false) (script : Script α) :
    (l.begin limit call script).Cookieless := by
  intro c
  have same := Call.withCookies_of_not_download other c
  change (⟨[.call (call.withCookies c)], _⟩ : Turn (Attempt α)) = ⟨[.call call], _⟩
  rw [same]
  rfl

/-! ### Direct sources -/

theorem pollFileInfo_cookieless (filename : String) (a : Attempt Info) : (l.pollFileInfo filename a).Cookieless := by
  refine (a.poll_cookieless .torrentInfo l.now).bind fun step => ?_
  rcases step with b | e | info <;> exact cookieless_pure _

theorem pollDownload_cookieless (a : Attempt String) : (l.pollDownload a).Cookieless := by
  refine (a.poll_cookieless .download l.now).bind fun step => ?_
  rcases step with b | e | filename
  · exact cookieless_pure _
  · exact cookieless_pure _
  · refine (cookieless_note _ _).bind fun _ => ?_
    exact (l.begin_cookieless _ rfl _).bind fun info => l.pollFileInfo_cookieless filename info

theorem pollDirect_cookieless (state : DirectState) : (l.pollDirect state).Cookieless := by
  cases state with
  | downloading a => exact l.pollDownload_cookieless a
  | describing filename a => exact l.pollFileInfo_cookieless filename a

/-! ### Magnet links -/

theorem pollPrimary_cookieless (uri : String) (a : Attempt Info) : (l.pollPrimary uri a).Cookieless := by
  refine (a.poll_cookieless .magnetInfo l.now).bind fun step => ?_
  rcases step with b | e | info
  · exact cookieless_pure _
  · exact (cookieless_note _ _).bind fun _ => cookieless_pure _
  · exact cookieless_pure _

theorem pollMetadataInfo_cookieless (uri : String) (hash : InfoHash) (a : Attempt Info) :
    (l.pollMetadataInfo uri hash a).Cookieless := by
  refine (a.poll_cookieless .torrentInfo l.now).bind fun step => ?_
  rcases step with b | e | info <;> exact cookieless_pure _

theorem useMetadata_cookieless (uri : String) (p : Prefetched) : (l.useMetadata uri p).Cookieless := by
  unfold useMetadata
  split
  · exact cookieless_pure _
  · split
    · exact (cookieless_note _ _).bind fun _ => cookieless_pure _
    · refine (cookieless_note _ _).bind fun _ => ?_
      exact (l.begin_cookieless _ rfl _).bind fun info => l.pollMetadataInfo_cookieless uri _ info

theorem pollPrefetch_cookieless (uri : String) (state : PrefetchState) : (l.pollPrefetch uri state).Cookieless := by
  cases state with
  | describing hash a => exact l.pollMetadataInfo_cookieless uri hash a
  | fetching a =>
    refine (a.poll_cookieless .prefetch l.now).bind fun step => ?_
    rcases step with b | e | p
    · exact cookieless_pure _
    · exact (cookieless_note _ _).bind fun _ => cookieless_pure _
    · exact l.useMetadata_cookieless uri p

theorem pollLane_cookieless {σ : Type} {poll : σ → Turn (Step σ (Except Failure Torrent))}
    (polls : ∀ state, (poll state).Cookieless) (lane : Lane σ Failure) : (Race.pollLane poll lane).Cookieless := by
  cases lane with
  | failed e => exact cookieless_pure _
  | running state =>
    refine (polls state).bind fun step => ?_
    rcases step with b | e | torrent <;> exact cookieless_pure _

theorem startMagnet_cookieless (uri : String) : (l.startMagnet uri).Cookieless := by
  refine (l.begin_cookieless _ rfl _).bind fun primary => ?_
  refine (pollLane_cookieless (l.pollPrimary_cookieless uri) _).bind fun left => ?_
  refine (l.begin_cookieless _ rfl _).bind fun prefetch => ?_
  exact (pollLane_cookieless (l.pollPrefetch_cookieless uri) _).bind fun right => cookieless_pure _

/-! ### Both -/

/-- A lookup that is under way makes no downloads. -/
theorem resume_cookieless (source : Source) (progress : Progress) : (l.resume source progress).Cookieless := by
  cases progress with
  | direct state => exact (l.pollDirect_cookieless state).bind fun step => cookieless_pure _
  | magnet race =>
    refine Cookieless.bind ?_ fun step => cookieless_pure _
    refine (pollLane_cookieless (l.pollPrimary_cookieless source.text) race.left).bind fun left => ?_
    refine (pollLane_cookieless (l.pollPrefetch_cookieless source.text) race.right).bind fun right => ?_
    exact cookieless_pure _

theorem start_direct (url cookies : String) : l.start (.direct url cookies) =
    (do
      let attempt ← l.begin l.limits.call (.download url cookies) (l.backend.download l.submission url cookies)
      return directStep (← l.pollDownload attempt)) := by
  exact bind_assoc _ _ _

/-- The lookup of a torrent file begins with its only download. -/
theorem start_direct_calls (url cookies : String) :
    ∃ rest, (l.start (.direct url cookies)).calls = .download url cookies :: rest ∧
      ∀ call ∈ rest, call.isDownload = false :=
  ⟨_, (l.start_download url cookies).calls, (l.resume_cookieless _ _).calls⟩

/-- Apart from the cookies in the download a lookup begins alike with all of them. -/
theorem start_cookies (ignores : l.backend.IgnoresCookies) (r : Request) (c : String) :
    l.start (r.withCookies c).route = (l.start r.route).withCookies c := by
  have kind : SourceKind.of (r.withCookies c).source = SourceKind.of r.source := rfl
  rw [Request.route, Request.route, kind]
  cases SourceKind.of r.source with
  | magnet => exact (l.startMagnet_cookieless r.source c).symm
  | direct =>
    change l.start (.direct r.source c) = (l.start (.direct r.source r.cookies)).withCookies c
    rw [start_direct, start_direct, ignores l.submission r.source c r.cookies, withCookies_bind]
    refine congrArg (Turn.andThen _) (funext fun attempt => ?_)
    exact (Cookieless.bind (l.pollDownload_cookieless attempt) (fun _ => cookieless_pure _) c).symm

end Lookup

end TorrentAdmission
