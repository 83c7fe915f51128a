import TorrentAdmission.Proofs.Desk.Settling

/-!
# When downloads settle

A direct source is looked up with two calls, one after the other: the second one is made at the instant at
which the first one is answered, and has a deadline of its own. `Lookup.DirectEnd` lists the ways in which
that can go, and a submission under a clock keeps to them.
-/

namespace TorrentAdmission

namespace Lookup

/-! ### One call after the other -/

/-- How the download ends that a direct source starts with. -/
def downloading (l : Lookup) (url cookies : String) : Ending String :=
  (⟨l.now, l.limits.call, l.backend.download l.submission url cookies⟩ : Attempt String).ending .download

/-- How the description of the file `filename` ends that is asked for at the instant `t`. -/
def describing (l : Lookup) (t : Nat) (filename : String) : Ending Info :=
  (⟨t, l.limits.call, l.backend.torrentInfo l.submission (.file filename)⟩ : Attempt Info).ending .torrentInfo

/-- A direct source ends at this instant and with this outcome when its two calls are made one after
the other. -/
inductive DirectEnd (l : Lookup) (url cookies : String) : Nat → Outcome → Prop where
  | undelivered {t : Nat} {x : Failure} (download : l.downloading url cookies = ⟨t, .failure x⟩) :
      DirectEnd l url cookies t (.failed x)
  | deliveryCrashed {t : Nat} (download : l.downloading url cookies = ⟨t, .crash⟩) :
      DirectEnd l url cookies t (.failed .aborted)
  | undescribed {t u : Nat} {filename : String} {x : Failure}
      (download : l.downloading url cookies = ⟨t, .success filename⟩)
      (description : l.describing t filename = ⟨u, .failure x⟩) : DirectEnd l url cookies u (.failed x)
  | descriptionCrashed {t u : Nat} {filename : String}
      (download : l.downloading url cookies = ⟨t, .success filename⟩)
      (description : l.describing t filename = ⟨u, .crash⟩) : DirectEnd l url cookies u (.failed .aborted)
  | resolved {t u : Nat} {filename : String} {info : Info} (torrent : Torrent)
      (download : l.downloading url cookies = ⟨t, .success filename⟩)
      (description : l.describing t filename = ⟨u, .success info⟩)
      (key : torrent.key = .submission l.submission) (name : torrent.filename = filename)
      (fields : ∀ field, torrent.info.get? field =
        if field = Torrent.filenameField then some (.string filename) else info.get? field) :
      DirectEnd l url cookies u (.resolved torrent)

/-- One of the two calls is made and brings its caller down. -/
inductive DirectCrash (l : Lookup) (url cookies : String) : Prop where
  | delivery {t : Nat} (download : l.downloading url cookies = ⟨t, .crash⟩)
  | description {t u : Nat} {filename : String} (download : l.downloading url cookies = ⟨t, .success filename⟩)
      (description : l.describing t filename = ⟨u, .crash⟩)

/-- One of the two calls is made and fails. -/
inductive DirectFailure (l : Lookup) (url cookies : String) : Operation → Prop where
  | delivery {t : Nat} {x : Failure} (download : l.downloading url cookies = ⟨t, .failure x⟩) :
      DirectFailure l url cookies .download
  | description {t u : Nat} {filename : String} {x : Failure}
      (download : l.downloading url cookies = ⟨t, .success filename⟩)
      (description : l.describing t filename = ⟨u, .failure x⟩) : DirectFailure l url cookies .torrentInfo

end Lookup

/-- The failure of a call names its operation. -/
theorem Attempt.ending_operation {α : Type} {op : Operation} {a : Attempt α} {t : Nat} {x : Failure}
    (failed : a.ending op = ⟨t, .failure x⟩) : x.operation? = some op := by
  unfold ending at failed
  split at failed
  · rename_i verdict replied
    split at failed
    · cases failed
      cases reply : a.script.reply with
      | error detail =>
        rw [reply] at replied
        cases replied
        rfl
      | _ =>
        rw [reply] at replied
        cases replied
    · cases failed
      rfl
  · cases failed
    rfl

theorem Outcome.event_failed {o : Outcome} {submission id : Uuid} {fault : Option String} {reason : String}
    (announced : o.event submission = .failed id fault reason) :
    ∃ x, o = .failed x ∧ fault = x.operation?.map Operation.wireName := by
  cases o with
  | failed x =>
    cases announced
    exact ⟨x, rfl, rfl⟩
  | _ => cases announced

namespace Lookup

variable {l : Lookup} {url cookies : String}

theorem ending_direct (l : Lookup) (url cookies : String) : l.ending (.direct url cookies) =
    ((l.downloading url cookies).andThen fun t filename =>
      (l.describing t filename).map (.describe (.submission l.submission) filename)).map (·, .direct) := rfl

theorem ending_directEnd (l : Lookup) (url cookies : String) :
    l.DirectEnd url cookies (l.ending (.direct url cookies)).instant
      (l.ending (.direct url cookies)).verdict.outcome := by
  rw [ending_direct]
  rcases download : l.downloading url cookies with ⟨t, filename | x | _⟩
  · rw [Ending.andThen_success]
    rcases description : l.describing t filename with ⟨u, info | x | _⟩
    · refine .resolved _ download description rfl rfl fun field => ?_
      split
      · rename_i same
        rw [same]
        exact info.get?_setText_self _ _
      · rename_i other
        exact info.get?_setText_of_ne _ other
    · exact .undescribed download description
    · exact .descriptionCrashed download description
  · exact .undelivered download
  · exact .deliveryCrashed download

/-- Two deadlines are enough for a direct source. -/
theorem ending_direct_le (l : Lookup) (url cookies : String) :
    (l.ending (.direct url cookies)).instant ≤ l.now + 2 * l.limits.call := by
  have calls : (l.ending (.direct url cookies)).instant ≤ l.now + l.limits.call + l.limits.call :=
    Nat.le_trans Ending.map_le (Nat.le_trans (Ending.andThen_le fun t filename => fileEnding_le filename t _)
      (Nat.add_le_add_right (Attempt.ending_le _ _) _))
  omega

theorem DirectFailure.not_crash {op : Operation} (fails : l.DirectFailure url cookies op) :
    ¬ l.DirectCrash url cookies := by
  intro crash
  cases fails with
  | delivery download =>
    cases crash with
    | delivery other => cases download.symm.trans other
    | description other crashed => cases download.symm.trans other
  | description download description =>
    cases crash with
    | delivery other => cases download.symm.trans other
    | description other crashed =>
      cases download.symm.trans other
      cases description.symm.trans crashed

/-- A failure names no operation if a call has crashed, and else the call that has failed. -/
theorem DirectEnd.fault {t : Nat} {x : Failure} (ends : l.DirectEnd url cookies t (.failed x)) :
    (x.operation? = none ↔ l.DirectCrash url cookies) ∧
      ∀ op, x.operation? = some op → l.DirectFailure url cookies op := by
  have fault : ∀ op, l.DirectFailure url cookies op → x.operation? = some op →
      (x.operation? = none ↔ l.DirectCrash url cookies) ∧
        ∀ op, x.operation? = some op → l.DirectFailure url cookies op := by
    intro op fails named
    rw [named]
    refine ⟨⟨nofun, fun crash => (fails.not_crash crash).elim⟩, fun other same => ?_⟩
    cases same
    exact fails
  cases ends with
  | undelivered download => exact fault _ (.delivery download) (Attempt.ending_operation download)
  | undescribed download description =>
    exact fault _ (.description download description) (Attempt.ending_operation description)
  | deliveryCrashed download => exact ⟨⟨fun _ => .delivery download, fun _ => rfl⟩, nofun⟩
  | descriptionCrashed download description =>
    exact ⟨⟨fun _ => .description download description, fun _ => rfl⟩, nofun⟩

end Lookup

namespace Desk

open Relation (ReflTransGen)

/-- A submission whose clock is kept from before its first turn on, and which is neither cancelled nor
dropped, ends as the timetable of its lookup says. -/
theorem run_settles (bus : Bus Event) (before : List Move) {i : Nat} {s : Submission}
    (found : ((Desk.new bus).run before).submissions[i]? = some s) (fresh : s.task = .fresh) {e : Desk}
    (ticks : ReflTransGen (Tick i) ((Desk.new bus).run before) e) :
    let due := (s.lookup ((Desk.new bus).run before).now).ending s.source
    (∀ t, e.submissions[i]? = some t → t.cancelled = false →
      if t.task.isFinished then
        e.outcome? i = some due.verdict.outcome ∧
          e.endsOf i = [(due.instant, due.verdict.outcome.event s.id)] ∧ due.instant ≤ e.now
      else
        e.outcome? i = none ∧ e.endsOf i = [] ∧ e.now ≤ due.instant ∧
          (i ∉ e.awake → e.now < due.instant)) ∧
    (∀ ms t, (e.advance ms).submissions[i]? = some t → t.cancelled = false →
      (e.advance ms).outcome? i = if due.instant ≤ e.now + ms then some due.verdict.outcome else none) ∧
    (∀ t, (e.await i).2.submissions[i]? = some t → t.cancelled = false →
      (e.await i).1 = some due.verdict.outcome) := by
  intro due
  have alert := ticks_alert ticks (run_alert (new_alert bus) before)
  have agrees : e.Abides i due := ticks_abide ticks (run_fresh_abides bus before found fresh)
  obtain ⟨r, record, terms⟩ := ticks_terms ticks found
  refine ⟨?_, ?_, ?_⟩
  · intro t there uncancelled
    obtain rfl := Option.some.inj (record.symm.trans there)
    rw [← Submission.id_of_terms terms]
    exact agrees.settles there uncancelled
  · intro ms t there uncancelled
    have asleep : i ∉ (e.advance ms).awake := by
      rw [advance_asleep alert]
      exact List.not_mem_nil
    rw [← advance_now alert ms]
    exact (ticks_abide (advance_ticks i alert ms) agrees).settled there uncancelled asleep
  · intro t there uncancelled
    refine agrees.await_settles alert ?_ there uncancelled
    have soon := (s.lookup ((Desk.new bus).run before).now).ending_le s.source
    have begun := ticks_now_le ticks
    have longest : e.longest i = 2 * s.resolver.limits.call + s.resolver.limits.prefetch := by
      rw [longest, record]
      change 2 * r.resolver.limits.call + r.resolver.limits.prefetch = _
      rw [Submission.resolver_of_terms terms]
    rw [longest]
    exact Nat.le_trans soon (Nat.add_le_add_right begun _)

/-- A direct source whose clock is kept from before its first turn on, and which is neither cancelled nor
dropped, ends as its two calls do that are made one after the other, within twice their deadline. It has
ended so, or that instant is still to come; as soon as that much time has passed it has ended; and the owner
who waits for the outcome hears it. A failure that is announced names the call that has failed, and none if
a call has crashed. -/
theorem run_settles_direct (bus : Bus Event) (before : List Move) {i : Nat} {s : Submission} {url cookies : String}
    (found : ((Desk.new bus).run before).submissions[i]? = some s) (fresh : s.task = .fresh)
    (direct : s.source = .direct url cookies) {e : Desk}
    (ticks : ReflTransGen (Tick i) ((Desk.new bus).run before) e) :
    let l := s.lookup ((Desk.new bus).run before).now
    ∃ instant outcome, l.DirectEnd url cookies instant outcome ∧ instant ≤ l.now + 2 * l.limits.call ∧
      (∀ t, e.submissions[i]? = some t → t.cancelled = false →
        (if t.task.isFinished then
          e.outcome? i = some outcome ∧ e.endsOf i = [(instant, outcome.event s.id)] ∧ instant ≤ e.now
        else
          e.outcome? i = none ∧ e.endsOf i = [] ∧ e.now ≤ instant ∧ (i ∉ e.awake → e.now < instant)) ∧
        ∀ u id fault reason, (u, Event.failed id fault reason) ∈ e.endsOf i →
          (fault = none ↔ l.DirectCrash url cookies) ∧
            ∀ name, fault = some name → ∃ op : Operation, name = op.wireName ∧ l.DirectFailure url cookies op) ∧
      (∀ ms t, (e.advance ms).submissions[i]? = some t → t.cancelled = false →
        (e.advance ms).outcome? i = if instant ≤ e.now + ms then some outcome else none) ∧
      (∀ t, (e.await i).2.submissions[i]? = some t → t.cancelled = false → (e.await i).1 = some outcome) := by
  intro l
  obtain ⟨now, later, heard⟩ := run_settles bus before found fresh ticks
  rw [direct] at now later heard
  have ends := l.ending_directEnd url cookies
  refine ⟨_, _, ends, l.ending_direct_le url cookies, fun t there uncancelled => ?_, later, heard⟩
  have settles := now t there uncancelled
  refine ⟨settles, fun u id fault reason announced => ?_⟩
  split at settles
  · rw [settles.2.1, List.mem_singleton] at announced
    obtain ⟨x, failed, named⟩ := Outcome.event_failed (congrArg Prod.snd announced).symm
    rw [failed] at ends
    obtain ⟨crash, failure⟩ := ends.fault
    rw [named, Option.map_eq_none_iff]
    refine ⟨crash, fun name same => ?_⟩
    obtain ⟨op, blamed, wire⟩ := Option.map_eq_some_iff.mp same
    exact ⟨op, wire.symm, failure op blamed⟩
  · rw [settles.2.1] at announced
    cases announced

end Desk

namespace Samples

/-- A resolver whose backend takes all the time it has for each of its two calls. -/
def unhurried : Resolver where
  backend := .scripted none none (some { reply := .ok filename, after := 20 })
    (some { reply := .ok (info filename), after := 20 })
  limits := { call := 20 }

/-- A submission of an address that has not been looked at. -/
def undownloaded : Submission where
  id := .ofNat 1
  request := ⟨directUrl, cookies⟩
  resolver := unhurried

end Samples

namespace Desk

/-- Both calls are answered at their very deadlines, so the download is over after two of them. -/
theorem unhurried_download_settled :
    let d := (Desk.new { capacity := 2 }).run [.submit Samples.unhurried (.ofNat 1) ⟨Samples.directUrl, Samples.cookies⟩]
    (d.advance 39).outcome? 0 = none ∧
      ∃ torrent, torrent.key = .submission (.ofNat 1) ∧ torrent.filename = Samples.filename ∧
        (d.advance 40).outcome? 0 = some (.resolved torrent) ∧ (d.await 0).1 = some (.resolved torrent) := by
  intro d
  have found : d.submissions[0]? = some Samples.undownloaded := rfl
  have direct : Samples.undownloaded.source = .direct Samples.directUrl Samples.cookies := by decide +kernel
  obtain ⟨instant, outcome, ends, -, -, later, heard⟩ := run_settles_direct { capacity := 2 } _ found rfl direct .refl
  have download : (Samples.undownloaded.lookup d.now).downloading Samples.directUrl Samples.cookies =
    ⟨20, .success Samples.filename⟩ := rfl
  have description : (Samples.undownloaded.lookup d.now).describing 20 Samples.filename =
    ⟨40, .success (Samples.info Samples.filename)⟩ := rfl
  have uncancelled : ∀ e : Desk, e.submissions[0]?.map Submission.cancelled = some false →
      ∃ t, e.submissions[0]? = some t ∧ t.cancelled = false :=
    fun e cancelled => Option.map_eq_some_iff.mp cancelled
  obtain ⟨t, early, first⟩ := uncancelled (d.advance 39) (by decide +kernel)
  obtain ⟨u, late, second⟩ := uncancelled (d.advance 40) (by decide +kernel)
  obtain ⟨v, last, third⟩ := uncancelled (d.await 0).2 (by decide +kernel)
  cases ends with
  | undelivered other => cases download.symm.trans other
  | deliveryCrashed other => cases download.symm.trans other
  | undescribed other failed =>
    cases download.symm.trans other
    cases description.symm.trans failed
  | descriptionCrashed other crashed =>
    cases download.symm.trans other
    cases description.symm.trans crashed
  | resolved torrent delivered described key name fields =>
    cases download.symm.trans delivered
    cases congrArg Ending.instant (description.symm.trans described)
    exact ⟨later 39 t early first, torrent, key, name, later 40 u late second, heard v last third⟩

end Desk

end TorrentAdmission
