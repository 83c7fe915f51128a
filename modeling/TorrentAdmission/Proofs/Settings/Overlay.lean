import TorrentAdmission.Settings.Environment
import TorrentAdmission.Proofs.Settings.Checks

/-!
# Settings overlaid with variables

What becomes of settings that are overlaid with variables can be said field by field: `Settings.replaced`. If all
variables that are present can be read, all of them are entered. If not, the first that cannot be read is
complained about, and exactly those in front of it are entered: `overlay_outcome`.
-/

namespace TorrentAdmission

open Text

namespace Variable

/-- The text has a value for the variable. -/
def Reads (v : Variable) (text : String) : Prop :=
  match v with
  | .logLevel => True
  | .logFormat => (LogFormat.ofText? text).isSome = true
  | .callLimit | .prefetchLimit | .replayCapacity => (word? text).isSome = true

/-- The variable is present, and its text has no value for it. -/
def Fails (lookup : String → Option String) (v : Variable) : Prop :=
  ∃ text, lookup v.name = some text ∧ ¬ v.Reads text

/-- The texts of those of the variables that are present, and nothing for all others. -/
def texts (lookup : String → Option String) (vars : List Variable) (v : Variable) : Option String :=
  if v ∈ vars then lookup v.name else none

variable {lookup : String → Option String} {v : Variable} {text : String}

theorem texts_of_absent (absent : lookup v.name = none) (vars : List Variable) :
    texts lookup (v :: vars) = texts lookup vars := by
  funext w
  by_cases same : w = v
  · subst same
    simp [texts, absent]
  · simp [texts, same]

theorem texts_all (lookup : String → Option String) : texts lookup all = fun v => lookup v.name := by
  funext v
  cases v <;> rfl

theorem enter?_eq_none {s : Settings} : v.enter? text s = none ↔ ¬ v.Reads text := by
  cases v <;> simp [enter?, Reads]

theorem Reads.enter? (reads : v.Reads text) (s : Settings) : ∃ c, v.enter? text s = some c :=
  Option.ne_none_iff_exists'.mp (mt enter?_eq_none.mp (not_not_intro reads))

end Variable

theorem Overlay.eq_of_parts :
    ∀ {a b : Overlay}, a.settings = b.settings → a.error = b.error → a.notices = b.notices → a = b
  | ⟨_, _, _⟩, ⟨_, _, _⟩, rfl, rfl, rfl => rfl

namespace Settings

open Variable

/-- The settings with the values of these texts in their fields, and all other fields as they are. The level is
taken as it stands. -/
def replaced (s : Settings) (texts : Variable → Option String) : Settings where
  limits :=
    ⟨((texts .callLimit).bind word?).getD s.limits.call, ((texts .prefetchLimit).bind word?).getD s.limits.prefetch⟩
  log :=
    ⟨(texts .logLevel).getD s.log.level, ((texts .logFormat).bind LogFormat.ofText?).or s.log.format⟩
  replay := ⟨((texts .replayCapacity).bind word?).getD s.replay.capacity⟩

variable {lookup : String → Option String} {s c : Settings} {v : Variable} {text : String}

theorem replaced_replaced (s : Settings) (texts : Variable → Option String) :
    (s.replaced texts).replaced texts = s.replaced texts := by
  have twice : ∀ {α : Type} (o : Option α) (a : α), o.getD (o.getD a) = o.getD a := by
    intro α o a
    cases o <;> rfl
  have either : ∀ {α : Type} (o p : Option α), o.or (o.or p) = o.or p := by
    intro α o p
    cases o <;> rfl
  simp only [replaced, twice, either]

/-- A variable that has been entered may be entered again by what follows it. -/
theorem replaced_of_enter? {before after : Variable → Option String} (entered : v.enter? text s = some c)
    (own : after v = some text) (again : before v = none ∨ before v = some text)
    (others : ∀ w, w ≠ v → before w = after w) : c.replaced before = s.replaced after := by
  have same : ∀ {α : Type} (read : String → Option α) {a : α}, read text = some a → ∀ other : α,
      ((before v).bind read).getD a = ((after v).bind read).getD other := by
    intro α read a value other
    rcases again with none | some
    · simp [none, own, value]
    · simp [some, own, value]
  cases v with
  | callLimit =>
    obtain ⟨n, value, rfl⟩ := Option.map_eq_some_iff.mp entered
    simp [replaced, others, same word? value s.limits.call]
  | prefetchLimit =>
    obtain ⟨n, value, rfl⟩ := Option.map_eq_some_iff.mp entered
    simp [replaced, others, same word? value s.limits.prefetch]
  | logLevel =>
    obtain rfl := Option.some_inj.mp entered
    rcases again with none | some
    · simp [replaced, others, none, own]
    · simp [replaced, others, some, own]
  | logFormat =>
    obtain ⟨f, value, rfl⟩ := Option.map_eq_some_iff.mp entered
    rcases again with none | some
    · simp [replaced, others, none, own, value]
    · simp [replaced, others, some, own, value]
  | replayCapacity =>
    obtain ⟨n, value, rfl⟩ := Option.map_eq_some_iff.mp entered
    simp [replaced, others, same word? value s.replay.capacity]

/-! ### All variables -/

theorem overlayAll_notices (lookup : String → Option String) (vars : List Variable) (s c : Settings) :
    (overlayAll lookup vars s).notices = (overlayAll lookup vars c).notices := by
  induction vars generalizing s c with
  | nil => rfl
  | cons v r ih =>
    rw [overlayAll, overlayAll]
    cases present : lookup v.name with
    | none => exact ih s c
    | some text =>
      by_cases reads : v.Reads text
      · obtain ⟨t, entered⟩ := reads.enter? s
        obtain ⟨d, also⟩ := reads.enter? c
        simp only [entered, also, ih t d]
      · simp only [enter?_eq_none.mpr reads]

/-- Variables of which none fails are all entered. What comes behind them goes on from there. -/
theorem overlayAll_append {before : List Variable} (fine : ∀ b ∈ before, ¬ b.Fails lookup) (after : List Variable)
    (s : Settings) :
    (overlayAll lookup (before ++ after) s).settings =
        (overlayAll lookup after (s.replaced (texts lookup before))).settings ∧
      (overlayAll lookup (before ++ after) s).error =
        (overlayAll lookup after (s.replaced (texts lookup before))).error := by
  induction before generalizing s with
  | nil => exact ⟨rfl, rfl⟩
  | cons v r ih =>
    obtain ⟨head, tail⟩ := List.forall_mem_cons.mp fine
    rw [List.cons_append, overlayAll]
    cases present : lookup v.name with
    | none =>
      rw [texts_of_absent present]
      exact ih tail s
    | some text =>
      have reads : v.Reads text := Classical.not_not.mp fun unread => head ⟨text, present, unread⟩
      obtain ⟨c, entered⟩ := reads.enter? s
      have same : c.replaced (texts lookup r) = s.replaced (texts lookup (v :: r)) := by
        refine replaced_of_enter? entered ?_ ?_ fun w other => ?_
        · simp [texts, present]
        · by_cases later : v ∈ r <;> simp [texts, later, present]
        · simp [texts, other]
      simp only [entered, ← same]
      exact ih tail c

theorem overlay_of_reads (fine : ∀ v : Variable, ¬ v.Fails lookup) (s : Settings) :
    (s.overlay lookup).settings = (s.replaced fun v => lookup v.name) ∧ (s.overlay lookup).error = none := by
  have entered := @overlayAll_append lookup Variable.all (fun v _ => fine v) [] s
  rwa [List.append_nil, texts_all] at entered

theorem overlay_of_fails {before after : List Variable} (order : Variable.all = before ++ v :: after)
    (fine : ∀ b ∈ before, ¬ b.Fails lookup) (present : lookup v.name = some text) (unread : ¬ v.Reads text)
    (s : Settings) :
    (s.overlay lookup).settings = s.replaced (texts lookup before) ∧
      (s.overlay lookup).error = some (.variable v.name text v.reason) := by
  have stopped : ∀ c : Settings,
      overlayAll lookup (v :: after) c = ⟨c, some (.variable v.name text v.reason), v.notices⟩ := by
    intro c
    rw [overlayAll]
    simp only [present, enter?_eq_none.mpr unread]
  have entered := overlayAll_append fine (v :: after) s
  rwa [stopped, ← order] at entered

/-- Either no variable fails, or one of them is the first that does. -/
theorem fails_or_fine (lookup : String → Option String) : (∀ v : Variable, ¬ v.Fails lookup) ∨
    ∃ before v after text, Variable.all = before ++ v :: after ∧ (∀ b ∈ before, ¬ b.Fails lookup) ∧
      lookup v.name = some text ∧ ¬ v.Reads text := by
  classical
  cases found : Variable.all.find? (fun v => decide (v.Fails lookup)) with
  | none =>
    refine Or.inl fun v fails => ?_
    have listed : v ∈ Variable.all := by cases v <;> decide
    exact absurd (decide_eq_true fails) (List.find?_eq_none.mp found v listed)
  | some v =>
    obtain ⟨fails, before, after, order, fine⟩ := List.find?_eq_some_iff_append.mp found
    obtain ⟨text, present, unread⟩ := of_decide_eq_true fails
    exact Or.inr ⟨before, v, after, text, order, fun b member => by simpa using fine b member, present, unread⟩

theorem overlay_overlay (s : Settings) (lookup : String → Option String) :
    (s.overlay lookup).settings.overlay lookup = s.overlay lookup := by
  have notices := overlayAll_notices lookup Variable.all (s.overlay lookup).settings s
  have same : ((s.overlay lookup).settings.overlay lookup).settings = (s.overlay lookup).settings ∧
      ((s.overlay lookup).settings.overlay lookup).error = (s.overlay lookup).error := by
    rcases fails_or_fine lookup with fine | ⟨before, v, after, text, order, fine, present, unread⟩
    · obtain ⟨settings, error⟩ := overlay_of_reads fine s
      obtain ⟨again, still⟩ := overlay_of_reads fine (s.overlay lookup).settings
      rw [again, still, error, settings, replaced_replaced]
      exact ⟨rfl, rfl⟩
    · obtain ⟨settings, error⟩ := overlay_of_fails order fine present unread s
      obtain ⟨again, still⟩ := overlay_of_fails order fine present unread (s.overlay lookup).settings
      rw [again, still, error, settings, replaced_replaced]
      exact ⟨rfl, rfl⟩
  exact Overlay.eq_of_parts same.1 same.2 notices

theorem overlay_congr {other : String → Option String} (same : ∀ v : Variable, other v.name = lookup v.name)
    (s : Settings) : s.overlay other = s.overlay lookup := by
  have all : ∀ vars, overlayAll other vars s = overlayAll lookup vars s := by
    intro vars
    induction vars generalizing s with
    | nil => rfl
    | cons v r ih =>
      rw [overlayAll, overlayAll, same v, ih]
      simp only [ih]
  exact all Variable.all

/-! ### Settings from the environment alone -/

theorem ofLookup_of_error {e : SettingsError} (failed : (({} : Settings).overlay lookup).error = some e) :
    (ofLookup lookup).1 = .error e := by
  rw [ofLookup]
  simp only [failed]

theorem ofLookup_of_reads (fine : ∀ v : Variable, ¬ v.Fails lookup) :
    (ofLookup lookup).1 = (({} : Settings).replaced fun v => lookup v.name).validate := by
  obtain ⟨settings, error⟩ := overlay_of_reads fine {}
  rw [ofLookup]
  simp only [error, settings]

/-- What comes of overlaying settings, for any settings and any variables. A variable that cannot be read is
complained about even if what could be read cannot be used. -/
theorem overlay_outcome (s : Settings) (lookup : String → Option String) :
    ((∀ v : Variable, ¬ v.Fails lookup) → (s.overlay lookup).error = none ∧
      (s.overlay lookup).settings = s.replaced fun v => lookup v.name) ∧
    (∀ before v after text,
      [.callLimit, .prefetchLimit, .logLevel, .logFormat, .replayCapacity] = before ++ v :: after →
      (∀ b ∈ before, ¬ b.Fails lookup) → lookup v.name = some text → ¬ v.Reads text →
      (s.overlay lookup).error = some (.variable v.name text v.reason) ∧
        (s.overlay lookup).settings = (s.replaced fun w => if w ∈ before then lookup w.name else none) ∧
        (ofLookup lookup).1 = .error (.variable v.name text v.reason)) ∧
    (s.overlay lookup).settings.overlay lookup = s.overlay lookup ∧
    ((∀ v : Variable, ¬ v.Fails lookup) →
      (ofLookup lookup).1 = (({} : Settings).replaced fun v => lookup v.name).validate) ∧
    (∀ c, (ofLookup lookup).1 = .ok c → c.validate = .ok c) ∧
    ∀ other : String → Option String, (∀ v : Variable, other v.name = lookup v.name) →
      s.overlay other = s.overlay lookup ∧ ofLookup other = ofLookup lookup := by
  refine ⟨fun fine => ?_, fun before v after text order fine present unread => ?_, overlay_overlay s lookup,
    fun fine => ?_, fun c accepted => ?_, fun other same => ?_⟩
  · obtain ⟨settings, error⟩ := overlay_of_reads fine s
    exact ⟨error, settings⟩
  · obtain ⟨settings, error⟩ := overlay_of_fails order fine present unread s
    exact ⟨error, settings, ofLookup_of_error (overlay_of_fails order fine present unread {}).2⟩
  · exact ofLookup_of_reads fine
  · rcases fails_or_fine lookup with fine | ⟨before, v, after, text, order, fine, present, unread⟩
    · rw [ofLookup_of_reads fine] at accepted
      obtain ⟨rfl, -⟩ := validate_eq_ok_iff.mp accepted
      exact accepted
    · rw [ofLookup_of_error (overlay_of_fails order fine present unread {}).2] at accepted
      cases accepted
  · refine ⟨overlay_congr same s, ?_⟩
    rw [ofLookup, ofLookup, overlay_congr same]

/-- A limit of zero cannot be used, but a format that cannot be read comes first. -/
example : (ofLookup fun name => if name = "INTAKE_CALL_TIMEOUT_MS" then some "0"
      else if name = "INTAKE_LOG_FORMAT" then some " xml" else none).1 =
    .error (.variable "INTAKE_LOG_FORMAT" " xml" "must be 'json' or 'pretty'") := by
  rfl

end Settings

end TorrentAdmission
