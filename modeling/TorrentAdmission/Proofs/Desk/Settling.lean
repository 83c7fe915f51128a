import TorrentAdmission.Proofs.Desk.Ticking

/-!
# When submissions settle

A submission whose clock is kept from its first turn on settles at the instant and with the outcome that
the scripts of its backend and its deadlines determine.
-/

namespace TorrentAdmission

namespace Desk

open Relation (ReflTransGen)

variable {d e : Desk} {i : Nat} {s t : Submission} {due : Ending (Torrent × Path)}

theorem endsOf_eq (d : Desk) (i : Nat) :
    d.endsOf i = (d.chronicle i).filterMap fun p => p.2.ending?.map (p.1, ·) := by
  rw [endsOf, chronicle, List.filterMap_filterMap]
  congr
  funext entry
  cases fact : entry.fact <;> by_cases own : entry.submission = i <;>
    simp [Fact.ending?, Fact.event?, Fact.unnumbered, own, Option.filter]

theorem abides_settles {x : Dossier} {now : Nat} {awake : Prop} (agrees : x.Abides due now awake)
    (uncancelled : x.submission.cancelled = false) :
    (x.submission.task.outcome? = some due.verdict.outcome ∧
      x.ends = [(due.instant, due.verdict.outcome.event x.submission.id)] ∧ due.instant ≤ now) ∨
    (x.submission.task.outcome? = none ∧ x.ends = [] ∧ now ≤ due.instant ∧ (¬ awake → now < due.instant)) := by
  cases agrees with
  | cancelled cancelled => cases uncancelled.symm.trans cancelled
  | fresh task ending woken unended =>
    have begun := (x.submission.lookup now).now_le_ending x.submission.source
    rw [ending] at begun
    exact Or.inr ⟨by rw [task]; rfl, unended, begun, fun sleeping => (sleeping woken).elim⟩
  | ended task ends reached => exact Or.inl ⟨task, ends, reached⟩
  | waits progress task ending timely asleep unended =>
    obtain ⟨t, member, before⟩ :=
      Lookup.due_le_ending (l := x.submission.lookup now) x.submission.source timely.1
    rw [ending] at before
    refine Or.inr ⟨by rw [task]; rfl, unended, Nat.le_trans (timely.2 t member) before, fun sleeping => ?_⟩
    exact Nat.lt_of_lt_of_le ((asleep sleeping).2 t member) before

/-- A submission that agrees with its ending and is not cancelled has ended so, or is not due yet. -/
theorem Abides.settles (abides : d.Abides i due) (found : d.submissions[i]? = some s)
    (uncancelled : s.cancelled = false) :
    if s.task.isFinished then
      d.outcome? i = some due.verdict.outcome ∧
        d.endsOf i = [(due.instant, due.verdict.outcome.event s.id)] ∧ due.instant ≤ d.now
    else
      d.outcome? i = none ∧ d.endsOf i = [] ∧ d.now ≤ due.instant ∧ (i ∉ d.awake → d.now < due.instant) := by
  obtain ⟨⟨t, past⟩, opened, agrees⟩ := abides
  obtain ⟨same, rfl⟩ := dossier?_eq_some.mp opened
  obtain rfl := Option.some.inj (found.symm.trans same)
  rw [outcome?_of_found found, Task.isFinished_eq, endsOf_eq]
  rcases abides_settles agrees uncancelled with ⟨settled, announced⟩ | ⟨unfinished, waits⟩
  · rw [show s.task.outcome? = some due.verdict.outcome from settled]
    exact ⟨rfl, announced⟩
  · rw [show s.task.outcome? = none from unfinished]
    exact ⟨rfl, waits⟩

theorem Abides.settled (abides : d.Abides i due) (found : d.submissions[i]? = some s)
    (uncancelled : s.cancelled = false) (asleep : i ∉ d.awake) :
    d.outcome? i = if due.instant ≤ d.now then some due.verdict.outcome else none := by
  have settles := abides.settles found uncancelled
  split at settles
  · rw [if_pos settles.2.2, settles.1]
  · rw [if_neg (Nat.not_le_of_lt (settles.2.2.2 asleep)), settles.1]

/-- A submission that is to have its first turn now agrees with the ending that its lookup has from
now on. -/
theorem run_fresh_abides (bus : Bus Event) (before : List Move)
    (found : ((Desk.new bus).run before).submissions[i]? = some s) (fresh : s.task = .fresh) :
    ((Desk.new bus).run before).Abides i ((s.lookup ((Desk.new bus).run before).now).ending s.source) := by
  have sound := run_submissions_sound bus before i s found
  refine ⟨_, dossier?_of_found found, .fresh fresh rfl ?_ ?_⟩
  · exact run_alert (new_alert bus) before i s found (by rw [fresh]; rfl) (Or.inl fresh)
  · refine List.map_eq_nil_iff.mp (Eq.trans (Dossier.ends_events _) ?_)
    rw [sound.events, show Dossier.submission ⟨s, _⟩ = s from rfl, fresh]
    rfl

/-- What a live submission that agrees with its ending waits for, while all tasks are asleep. -/
theorem Abides.next (abides : d.Abides i due) (alert : d.Alert) (asleep : i ∉ d.awake) (live : d.isLive i = true) :
    ∃ t, d.nextInstant? = some t ∧ d.now < t ∧ t ≤ due.instant := by
  obtain ⟨x, opened, agrees⟩ := abides
  have found := (dossier?_eq_some.mp opened).1
  have unfinished : x.submission.task.isFinished = false := by simpa [isLive, found] using live
  cases agrees with
  | cancelled cancelled => exact (asleep (alert i _ found unfinished (Or.inr cancelled))).elim
  | fresh task ending woken unended => exact (asleep woken).elim
  | ended task ends reached =>
    rw [Task.isFinished_eq, task] at unfinished
    cases unfinished
  | waits progress task ending timely waiting unended =>
    obtain ⟨some, early⟩ := waiting asleep
    obtain ⟨t, member, before⟩ := Lookup.due_le_ending (l := x.submission.lookup d.now) x.submission.source some
    rw [ending] at before
    have wanted := dues_wanted found task member
    obtain ⟨u, next⟩ := nextInstant?_isSome wanted (early t member)
    exact ⟨u, next, nextInstant?_lt next, Nat.le_trans (nextInstant?_le next wanted (early t member)) before⟩

/-- A submission that is waited for comes to its end if the instants are not fewer than the milliseconds
until it is due. -/
theorem awaitEnd_ends (fuel : Nat) (abides : d.Abides i due) (alert : d.Alert) (some : 0 < fuel)
    (enough : due.instant < d.now + fuel) : (awaitEnd fuel i d).isLive i = false := by
  induction fuel generalizing d with
  | zero => omega
  | succ fuel ih =>
    have turns := runAwake_ticks i d
    have now := runAwake_now d
    have asleep : i ∉ d.runAwake.awake := by
      rw [runAwake_asleep alert]
      exact List.not_mem_nil
    unfold awaitEnd
    dsimp only
    split
    · split
      · rename_i live
        obtain ⟨t, next, later, before⟩ := (ticks_abide turns abides).next (ticks_alert turns alert) asleep live
        have moved := turns.tail (moveTo_tick (i := i) (t := t) asleep fun u => nextInstant?_le next)
        have reached := moveTo_now d.runAwake t
        rw [next]
        exact ih (ticks_abide moved abides) (ticks_alert moved alert) (by omega) (by omega)
      · rename_i ended
        exact Bool.eq_false_iff.mpr ended
    · rename_i ended
      exact Bool.eq_false_iff.mpr ended

theorem ticks_uncancelled (ticks : ReflTransGen (Tick i) d e) (found : d.submissions[i]? = some s)
    (after : e.submissions[i]? = some t) (uncancelled : t.cancelled = false) : s.cancelled = false := by
  cases cancelled : s.cancelled with
  | false => rfl
  | true =>
    obtain ⟨y, opened, still⟩ := ticks_keep (P := fun x => x.submission.cancelled = true)
      (fun m now x y step => step.stays_cancelled) ticks (dossier?_of_found found) cancelled
    obtain rfl := Option.some.inj (after.symm.trans (dossier?_eq_some.mp opened).1)
    cases uncancelled.symm.trans still

theorem ticks_terms (ticks : ReflTransGen (Tick i) d e) (found : d.submissions[i]? = some s) :
    ∃ t, e.submissions[i]? = some t ∧ t.terms = s.terms := by
  obtain ⟨y, opened, same⟩ := ticks_keep (P := fun x => x.submission.terms = s.terms)
    (fun m now x y step same => step.terms.trans same) ticks (dossier?_of_found found) rfl
  exact ⟨y.submission, (dossier?_eq_some.mp opened).1, same⟩

/-- The owner who waits for the outcome hears how the lookup ends. -/
theorem Abides.await_settles (abides : d.Abides i due) (alert : d.Alert) (enough : due.instant ≤ d.now + d.longest i)
    (found : (d.await i).2.submissions[i]? = some t) (uncancelled : t.cancelled = false) :
    (d.await i).1 = some due.verdict.outcome := by
  have release : ReflTransGen (Tick i) d (d.release i) :=
    .single (.move d (.release i) (by simp) (by simp [Move.Drops]))
  have released := ticks_abide release abides
  have vigilant := ticks_alert release alert
  have ended := awaitEnd_ends (d.longest i + 2) released vigilant (Nat.succ_pos _) (by
    change due.instant < d.now + _
    omega)
  have waiting := awaitEnd_ticks i (d.longest i + 2) vigilant
  rw [await]
  rw [await] at found
  generalize awaitEnd (d.longest i + 2) i (d.release i) = e at ended waiting found ⊢
  have hearing : ReflTransGen (Tick i) e (e.hear i).runAwake :=
    .head (.move e (.hear i) (by simp) (by simp [Move.Drops])) (runAwake_ticks i _)
  obtain ⟨x, opened, -⟩ := abides
  obtain ⟨s, there, -⟩ := ticks_terms (release.trans waiting) (dossier?_eq_some.mp opened).1
  have settles := (ticks_abide waiting released).settles there (ticks_uncancelled hearing there found uncancelled)
  have finished : s.task.isFinished = true := by simpa [isLive, there] using ended
  rw [if_pos finished] at settles
  exact settles.1

/-- A magnet link whose clock is kept from before its first turn on, and which is neither cancelled nor
dropped, ends as the race of its two paths does, and at the same instant. It has ended so, or that
instant is still to come; as soon as that much time has passed it has ended; and the owner who waits
for the outcome hears it. -/
theorem run_settles_magnet (bus : Bus Event) (before : List Move) {i : Nat} {s : Submission} {uri : String}
    (found : ((Desk.new bus).run before).submissions[i]? = some s) (fresh : s.task = .fresh)
    (magnet : s.source = .magnet uri) {e : Desk}
    (ticks : ReflTransGen (Tick i) ((Desk.new bus).run before) e) :
    let l := s.lookup ((Desk.new bus).run before).now
    let due := (l.primaryEnding uri ⟨l.now, l.limits.call, l.backend.magnetInfo s.id uri⟩).race
      (l.prefetchEnding uri (.fetching ⟨l.now, l.limits.prefetch, l.backend.prefetch s.id uri⟩))
    (∀ t, e.submissions[i]? = some t → t.cancelled = false →
      if t.task.isFinished then
        e.outcome? i = some due.verdict.outcome ∧
          e.endsOf i = [(due.instant, due.verdict.outcome.event s.id)] ∧ due.instant ≤ e.now
      else
        e.outcome? i = none ∧ e.endsOf i = [] ∧ e.now ≤ due.instant ∧
          (i ∉ e.awake → e.now < due.instant)) ∧
    (∀ ms t, (e.advance ms).submissions[i]? = some t → t.cancelled = false →
      (e.advance ms).outcome? i = if due.instant ≤ e.now + ms then some due.verdict.outcome else none) ∧
    (∀ t, (e.await i).2.submissions[i]? = some t → t.cancelled = false →
      (e.await i).1 = some due.verdict.outcome) := by
  intro l due
  have abides := run_fresh_abides bus before found fresh
  have alert := ticks_alert ticks (run_alert (new_alert bus) before)
  have same : l.ending s.source = due := by
    rw [magnet]
    rfl
  have soon := l.ending_le s.source
  rw [same] at abides soon
  have agrees := ticks_abide ticks abides
  obtain ⟨r, record, terms⟩ := ticks_terms ticks found
  refine ⟨?_, ?_, ?_⟩
  · intro t there uncancelled
    obtain rfl := Option.some.inj (record.symm.trans there)
    rw [← Submission.id_of_terms terms]
    exact agrees.settles there uncancelled
  · intro ms t there uncancelled
    have asleep : i ∉ (e.advance ms).awake := by
      rw [advance_asleep alert]
      exact List.not_mem_nil
    rw [← advance_now alert ms]
    exact (ticks_abide (advance_ticks i alert ms) agrees).settled there uncancelled asleep
  · intro t there uncancelled
    refine agrees.await_settles alert ?_ there uncancelled
    have longest : e.longest i = 2 * l.limits.call + l.limits.prefetch := by
      rw [longest, record]
      change 2 * r.resolver.limits.call + r.resolver.limits.prefetch = _
      rw [Submission.resolver_of_terms terms]
      rfl
    have begun := ticks_now_le ticks
    rw [longest]
    exact Nat.le_trans soon (Nat.add_le_add_right begun _)

end Desk

namespace Samples

/-- A resolver whose backend describes a magnet link only once it has its metadata. -/
def prefetching : Resolver where
  backend := .scripted (some { reply := .never }) (some { reply := .ok ⟨infoHash, "AA=="⟩, after := 5 }) none
    (some { reply := .ok (info filename), after := 3 })
  limits := { call := 20, prefetch := 10 }

/-- A submission of a magnet link that has not been looked at. -/
def unopened : Submission where
  id := .ofNat 1
  request := ⟨magnetUri, ""⟩
  resolver := prefetching

end Samples

namespace Desk

/-- The metadata arrive five milliseconds after the first turn, their description three later. -/
theorem prefetched_magnet_settled :
    let d := (Desk.new { capacity := 2 }).run [.submit Samples.prefetching (.ofNat 1) ⟨Samples.magnetUri, ""⟩]
    (d.advance 7).outcome? 0 = none ∧
      ∃ torrent, torrent.key = .infoHash ⟨Samples.infoHash⟩ ∧
        (d.advance 8).outcome? 0 = some (.resolved torrent) ∧ (d.await 0).1 = some (.resolved torrent) := by
  intro d
  have found : d.submissions[0]? = some Samples.unopened := rfl
  have magnet : Samples.unopened.source = .magnet Samples.magnetUri := by decide +kernel
  obtain ⟨-, later, heard⟩ := run_settles_magnet { capacity := 2 } _ found rfl magnet .refl
  have uncancelled : ∀ e : Desk, e.submissions[0]?.map Submission.cancelled = some false →
      ∃ t, e.submissions[0]? = some t ∧ t.cancelled = false :=
    fun e cancelled => Option.map_eq_some_iff.mp cancelled
  obtain ⟨t, early, first⟩ := uncancelled (d.advance 7) (by decide +kernel)
  obtain ⟨u, late, second⟩ := uncancelled (d.advance 8) (by decide +kernel)
  obtain ⟨v, last, third⟩ := uncancelled (d.await 0).2 (by decide +kernel)
  exact ⟨(later 7 t early first).trans rfl, _, rfl, (later 8 u late second).trans rfl,
    (heard v last third).trans rfl⟩

end Desk

end TorrentAdmission
