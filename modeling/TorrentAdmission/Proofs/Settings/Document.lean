import TorrentAdmission.Proofs.Json.Record
import TorrentAdmission.Proofs.Settings.Checks

/-!
# Documents that are accepted

A document is accepted if and only if it is strict JSON, states settings in one of the forms of a record and
nothing else, and the settings can be used: `Settings.ofDocument_accepts`. A document of another shape is
malformed, whatever its values. So no name is passed over that is unknown or there twice.
-/

namespace TorrentAdmission

open Json

/-! ### The shape of a document -/

/-- No format, or the name of one, as a string or as the only key of an object that has null for it. -/
inductive IsFormat : Option LogFormat → Json → Prop where
  | none : IsFormat none .null
  | name (f : LogFormat) : IsFormat (some f) (.string f.label)
  | key (f : LogFormat) : IsFormat (some f) (.object [(f.label, .null)])

inductive IsLimits (l : Limits) (v : Json) : Prop where
  | intro {stated : String → Option Json} (record : IsRecord ["call_timeout_ms", "prefetch_timeout_ms"] stated v)
      (call : IsField IsWord ({} : Limits).call (stated "call_timeout_ms") l.call)
      (prefetch : IsField IsWord ({} : Limits).prefetch (stated "prefetch_timeout_ms") l.prefetch)

inductive IsLogSettings (s : LogSettings) (v : Json) : Prop where
  | intro {stated : String → Option Json} (record : IsRecord ["log_level", "log_format"] stated v)
      (level : IsField IsString ({} : LogSettings).level (stated "log_level") s.level)
      (format : IsField IsFormat none (stated "log_format") s.format)

inductive IsReplaySettings (s : ReplaySettings) (v : Json) : Prop where
  | intro {stated : String → Option Json} (record : IsRecord ["replay_capacity"] stated v)
      (capacity : IsField IsWord ({} : ReplaySettings).capacity (stated "replay_capacity") s.capacity)

inductive IsSettings (s : Settings) (v : Json) : Prop where
  | intro {stated : String → Option Json} (record : IsRecord ["resolver", "telemetry", "events"] stated v)
      (limits : IsField IsLimits {} (stated "resolver") s.limits)
      (log : IsField IsLogSettings {} (stated "telemetry") s.log)
      (replay : IsField IsReplaySettings {} (stated "events") s.replay)

/-- A text in strict JSON that states these settings and nothing else. -/
def Settings.IsStatedIn (s : Settings) (text : String) : Prop := ∃ v, IsText v text ∧ IsSettings s v

variable {v : Json}

/-! ### Formats -/

theorem LogFormat.ofLabel?_eq_some_iff {name : String} {f : LogFormat} : ofLabel? name = some f ↔ name = f.label := by
  constructor
  · intro read
    unfold ofLabel? at read
    split at read
    · rename_i json
      cases read
      exact json
    · obtain ⟨pretty, same⟩ := Option.ite_none_right_eq_some.mp read
      cases same
      exact pretty
  · rintro rfl
    cases f <;> rfl

theorem unitName?_eq_some_iff {name : String} :
    v.unitName? = some name ↔ v = .string name ∨ v = .object [(name, .null)] := by
  constructor
  · intro read
    unfold unitName? at read
    split at read
    · cases read
      exact Or.inl rfl
    · cases read
      exact Or.inr rfl
    · cases read
  · rintro (rfl | rfl) <;> rfl

theorem nullable?_ofJson?_eq_some_iff {o : Option LogFormat} :
    nullable? LogFormat.ofJson? v = some o ↔ IsFormat o v := by
  constructor
  · intro read
    unfold nullable? at read
    split at read
    · cases read
      exact .none
    · obtain ⟨f, named, rfl⟩ := Option.map_eq_some_iff.mp read
      obtain ⟨name, unit, label⟩ := Option.bind_eq_some_iff.mp named
      obtain rfl := LogFormat.ofLabel?_eq_some_iff.mp label
      rcases unitName?_eq_some_iff.mp unit with rfl | rfl
      · exact .name f
      · exact .key f
  · rintro (_ | f | f)
    · rfl
    · cases f <;> rfl
    · cases f <;> rfl

theorem IsFormat.isReadable {o : Option LogFormat} (format : IsFormat o v) : v.isReadable = true := by
  cases format <;> rfl

/-! ### Sections -/

/-- What a reader of records finds by name is what the record states. -/
theorem exists_fields_iff {names : List String} (distinct : names.Nodup) {Q : (String → Option Json) → Prop} :
    (∃ fields, v.fields? .refuse names = some fields ∧ Q fun name => lookup name fields) ↔
      ∃ stated, IsRecord names stated v ∧ Q stated := by
  constructor
  · rintro ⟨fields, read, found⟩
    exact ⟨_, (fields?_iff distinct).mp ⟨fields, read, rfl⟩, found⟩
  · rintro ⟨stated, record, found⟩
    obtain ⟨fields, read, rfl⟩ := (fields?_iff distinct).mpr record
    exact ⟨fields, read, found⟩

theorem Limits.ofJson?_eq_some {l : Limits} : Limits.ofJson? v = some l ↔
    ∃ stated, IsRecord ["call_timeout_ms", "prefetch_timeout_ms"] stated v ∧
      IsField (fun n v => word? v = some n) ({} : Limits).call (stated "call_timeout_ms") l.call ∧
      IsField (fun n v => word? v = some n) ({} : Limits).prefetch (stated "prefetch_timeout_ms") l.prefetch := by
  rw [← exists_fields_iff (by decide)]
  simp only [← orDefault?_eq_some_iff]
  obtain ⟨call, prefetch⟩ := l
  simp [Limits.ofJson?, Option.bind_eq_some_iff]

theorem LogSettings.ofJson?_eq_some {s : LogSettings} : LogSettings.ofJson? v = some s ↔
    ∃ stated, IsRecord ["log_level", "log_format"] stated v ∧
      IsField (fun t v => text? v = some t) ({} : LogSettings).level (stated "log_level") s.level ∧
      IsField (fun o v => nullable? LogFormat.ofJson? v = some o) none (stated "log_format") s.format := by
  rw [← exists_fields_iff (by decide)]
  simp only [← orDefault?_eq_some_iff]
  obtain ⟨level, format⟩ := s
  simp [LogSettings.ofJson?, Option.bind_eq_some_iff]

theorem ReplaySettings.ofJson?_eq_some {s : ReplaySettings} : ReplaySettings.ofJson? v = some s ↔
    ∃ stated, IsRecord ["replay_capacity"] stated v ∧
      IsField (fun n v => word? v = some n) ({} : ReplaySettings).capacity (stated "replay_capacity") s.capacity := by
  rw [← exists_fields_iff (by decide)]
  simp only [← orDefault?_eq_some_iff]
  obtain ⟨capacity⟩ := s
  simp [ReplaySettings.ofJson?, Option.bind_eq_some_iff]

theorem Settings.ofJson?_eq_some {s : Settings} : Settings.ofJson? v = some s ↔
    ∃ stated, IsRecord ["resolver", "telemetry", "events"] stated v ∧
      IsField (fun l v => Limits.ofJson? v = some l) {} (stated "resolver") s.limits ∧
      IsField (fun l v => LogSettings.ofJson? v = some l) {} (stated "telemetry") s.log ∧
      IsField (fun r v => ReplaySettings.ofJson? v = some r) {} (stated "events") s.replay := by
  rw [← exists_fields_iff (by decide)]
  simp only [← orDefault?_eq_some_iff]
  obtain ⟨limits, log, replay⟩ := s
  simp [Settings.ofJson?, Option.bind_eq_some_iff]

/-! #### What is accepted is readable -/

theorem Limits.isReadable {l : Limits} (read : Limits.ofJson? v = some l) : v.isReadable = true := by
  obtain ⟨stated, record, call, prefetch⟩ := ofJson?_eq_some.mp read
  refine record.isReadable fun name w found => ?_
  have named := record.mem_names found
  simp only [List.mem_cons, List.not_mem_nil, or_false] at named
  rcases named with rfl | rfl
  · exact isReadable_of_word? (call.value found)
  · exact isReadable_of_word? (prefetch.value found)

theorem LogSettings.isReadable {s : LogSettings} (read : LogSettings.ofJson? v = some s) : v.isReadable = true := by
  obtain ⟨stated, record, level, format⟩ := ofJson?_eq_some.mp read
  refine record.isReadable fun name w found => ?_
  have named := record.mem_names found
  simp only [List.mem_cons, List.not_mem_nil, or_false] at named
  rcases named with rfl | rfl
  · rw [text?_eq_some_iff.mp (level.value found)]
    rfl
  · exact (nullable?_ofJson?_eq_some_iff.mp (format.value found)).isReadable

theorem ReplaySettings.isReadable {s : ReplaySettings} (read : ReplaySettings.ofJson? v = some s) :
    v.isReadable = true := by
  obtain ⟨stated, record, capacity⟩ := ofJson?_eq_some.mp read
  refine record.isReadable fun name w found => ?_
  obtain rfl := List.mem_singleton.mp (record.mem_names found)
  exact isReadable_of_word? (capacity.value found)

theorem Settings.isReadable {s : Settings} (read : Settings.ofJson? v = some s) : v.isReadable = true := by
  obtain ⟨stated, record, limits, log, replay⟩ := ofJson?_eq_some.mp read
  refine record.isReadable fun name w found => ?_
  have named := record.mem_names found
  simp only [List.mem_cons, List.not_mem_nil, or_false] at named
  rcases named with rfl | rfl | rfl
  · exact Limits.isReadable (limits.value found)
  · exact LogSettings.isReadable (log.value found)
  · exact ReplaySettings.isReadable (replay.value found)

/-! #### What is accepted has the shape -/

theorem Limits.ofJson?_iff {l : Limits} (stands : Stands v) : Limits.ofJson? v = some l ↔ IsLimits l v := by
  rw [ofJson?_eq_some]
  constructor
  · rintro ⟨stated, record, call, prefetch⟩
    exact .intro record ((record.field_iff stands word?_eq_some_iff).mp call)
      ((record.field_iff stands word?_eq_some_iff).mp prefetch)
  · rintro ⟨record, call, prefetch⟩
    exact ⟨_, record, (record.field_iff stands word?_eq_some_iff).mpr call,
      (record.field_iff stands word?_eq_some_iff).mpr prefetch⟩

theorem LogSettings.ofJson?_iff {s : LogSettings} : LogSettings.ofJson? v = some s ↔ IsLogSettings s v := by
  have level {o : Option Json} {d t : String} : IsField (fun t v => text? v = some t) d o t ↔ IsField IsString d o t :=
    isField_congr fun _ _ _ => text?_eq_some_iff
  have format {o : Option Json} {d f : Option LogFormat} :
      IsField (fun f v => nullable? LogFormat.ofJson? v = some f) d o f ↔ IsField IsFormat d o f :=
    isField_congr fun _ _ _ => nullable?_ofJson?_eq_some_iff
  simp only [ofJson?_eq_some, level, format]
  exact ⟨fun ⟨_, record, level, format⟩ => .intro record level format,
    fun ⟨record, level, format⟩ => ⟨_, record, level, format⟩⟩

theorem ReplaySettings.ofJson?_iff {s : ReplaySettings} (stands : Stands v) :
    ReplaySettings.ofJson? v = some s ↔ IsReplaySettings s v := by
  rw [ofJson?_eq_some]
  constructor
  · rintro ⟨stated, record, capacity⟩
    exact .intro record ((record.field_iff stands word?_eq_some_iff).mp capacity)
  · rintro ⟨record, capacity⟩
    exact ⟨_, record, (record.field_iff stands word?_eq_some_iff).mpr capacity⟩

theorem Settings.ofJson?_iff {s : Settings} (stands : Stands v) : Settings.ofJson? v = some s ↔ IsSettings s v := by
  rw [ofJson?_eq_some]
  constructor
  · rintro ⟨stated, record, limits, log, replay⟩
    exact .intro record ((record.field_iff stands Limits.ofJson?_iff).mp limits)
      ((record.field_iff stands fun _ => LogSettings.ofJson?_iff).mp log)
      ((record.field_iff stands ReplaySettings.ofJson?_iff).mp replay)
  · rintro ⟨record, limits, log, replay⟩
    exact ⟨_, record, (record.field_iff stands Limits.ofJson?_iff).mpr limits,
      (record.field_iff stands fun _ => LogSettings.ofJson?_iff).mpr log,
      (record.field_iff stands ReplaySettings.ofJson?_iff).mpr replay⟩

/-! ### Documents -/

namespace Settings

theorem isStatedIn_iff {s : Settings} {text : String} :
    s.IsStatedIn text ↔ (parse? text).bind Settings.ofJson? = some s := by
  rw [Option.bind_eq_some_iff]
  have stands {v : Json} (whole : IsText v text) : Stands v := by
    obtain ⟨_, value⟩ := Padded.exists_part whole
    exact ⟨_, _, value⟩
  constructor
  · rintro ⟨v, whole, shape⟩
    exact ⟨v, (parse?_eq_some_iff.mpr whole).1, (ofJson?_iff (stands whole)).mpr shape⟩
  · rintro ⟨v, parsed, read⟩
    have whole := parse?_eq_some_iff.mp ⟨parsed, Settings.isReadable read⟩
    exact ⟨v, whole, (ofJson?_iff (stands whole)).mp read⟩

theorem ofDocument_of_stated {s : Settings} {text : String} (stated : s.IsStatedIn text) :
    ofDocument text = s.validate := by
  rw [ofDocument, isStatedIn_iff.mp stated]

/-- A document is accepted if and only if it is a text in strict JSON that states settings which can be used. If it
states settings that cannot be used, the first of them that is checked is complained about, and if it states none,
it is malformed. -/
theorem ofDocument_accepts (text : String) :
    (∀ s, ofDocument text = .ok s ↔ s.IsStatedIn text ∧ ∀ k : CheckedSetting, ¬ k.Offends s) ∧
    ((∀ s : Settings, ¬ s.IsStatedIn text) → ofDocument text = .error .malformed) ∧
    ∀ s : Settings, s.IsStatedIn text → (∃ k : CheckedSetting, k.Offends s) →
      ∃ k : CheckedSetting, k.Offends s ∧ (∀ b ∈ k.before, ¬ b.Offends s) ∧
        ofDocument text = .error (k.error s) := by
  refine ⟨fun s => ⟨fun accepted => ?_, fun ⟨stated, usable⟩ => ?_⟩, fun none => ?_, fun s stated offence => ?_⟩
  · rw [ofDocument] at accepted
    split at accepted
    · rename_i found
      obtain ⟨rfl, usable⟩ := validate_eq_ok_iff.mp accepted
      exact ⟨isStatedIn_iff.mpr found, usable⟩
    · cases accepted
  · exact (ofDocument_of_stated stated).trans (validate_eq_ok_iff.mpr ⟨rfl, usable⟩)
  · rw [ofDocument]
    split
    · rename_i s found
      cases none s (isStatedIn_iff.mpr found)
    · rfl
  · obtain ⟨_, offends⟩ := offence
    obtain ⟨k, offends, first⟩ := exists_first_offence offends
    refine ⟨k, offends, first, ?_⟩
    rw [ofDocument_of_stated stated, validate, problem?_eq_error offends first]

/-- Sections and fields may come in any order, in the forms of arrays and of objects, and be left out. -/
example : ofDocument
    "\x7b\"telemetry\": [\"debug\", \x7b\"json\": null\x7d], \"resolver\": \x7b\"prefetch_timeout_ms\": 250\x7d\x7d" =
      .ok { limits := ⟨60000, 250⟩, log := ⟨"debug", some .json⟩ } := by
  decide +kernel

/-- A key that is there twice makes a document malformed, even in a section beside a value that cannot be used. -/
example : ofDocument "[[0], [], \x7b\"replay_capacity\": 7, \"replay_capacity\": 7\x7d]" = .error .malformed := by
  decide +kernel

end Settings

end TorrentAdmission
