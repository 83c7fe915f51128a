import Mathlib.Data.List.Nodup
import TorrentAdmission.Proofs.Json.Printed
import TorrentAdmission.Proofs.Json.Record
import TorrentAdmission.Proofs.Settings.Overlay
import TorrentAdmission.Proofs.Text.Blank

/-!
# Two ways to state settings

The same settings can be stated in a JSON document and in variables of the environment. Both ways lead to the
same settings, or to the same complaint about the first one that cannot be used.
-/

namespace TorrentAdmission

open Text

/-! ### Records some of whose fields are stated -/

namespace Json

/-- The members of those fields that have a value. -/
def given (fields : List (String × Option Json)) : List (String × Json) :=
  fields.filterMap fun f => f.2.map (f.1, ·)

theorem mem_given {fields : List (String × Option Json)} {name : String} {v : Json} :
    (name, v) ∈ given fields ↔ (name, some v) ∈ fields := by
  rw [given, List.mem_filterMap]
  constructor
  · rintro ⟨⟨_, o⟩, member, same⟩
    obtain ⟨w, rfl, pair⟩ := Option.map_eq_some_iff.mp same
    cases pair
    exact member
  · intro member
    exact ⟨_, member, rfl⟩

theorem keys_given (fields : List (String × Option Json)) :
    (keys (given fields)).Sublist (fields.map Prod.fst) := by
  induction fields with
  | nil => exact .slnil
  | cons f r ih =>
    obtain ⟨name, o⟩ := f
    cases o with
    | none => exact ih.cons name
    | some v => exact ih.cons_cons name

section
variable {fields : List (String × Option Json)} {members : List (String × Json)}
  (distinct : (fields.map Prod.fst).Nodup) (order : members.Perm (given fields))

include distinct order

theorem distinct_of_given : (keys members).Nodup :=
  (order.map Prod.fst).nodup_iff.mpr ((keys_given fields).nodup distinct)

/-- A reader that refuses unknown members takes those that are given, in any order. -/
theorem fields?_given : (Json.object members).fields? .refuse (fields.map Prod.fst) = some members := by
  have known : ∀ m ∈ members, m.1 ∈ fields.map Prod.fst := fun m member =>
    (keys_given fields).subset (List.mem_map_of_mem (order.mem_iff.mp member))
  exact fields?_object.mpr ⟨known, distinct_of_given distinct order, rfl⟩

theorem lookup_given {name : String} {o : Option Json} (field : (name, o) ∈ fields) : lookup name members = o := by
  refine Option.ext fun v => (lookup_eq_some_iff (distinct_of_given distinct order)).trans ?_
  rw [order.mem_iff, mem_given]
  constructor
  · intro also
    exact congrArg Prod.snd (List.inj_on_of_nodup_map distinct field also rfl)
  · rintro rfl
    exact field

end

theorem orDefault?_map {α β : Type} {read : Json → Option α} {write : β → Json} {value : β → α} {name : String}
    {members : List (String × Json)} {o : Option β} (found : lookup name members = o.map write)
    (reads : ∀ b, read (write b) = some (value b)) (default : α) :
    orDefault? read default name members = some ((o.map value).getD default) := by
  rw [orDefault?, found]
  cases o with
  | none => rfl
  | some b => exact reads b

end Json

/-! ### Stated settings -/

abbrev Word := { n : Nat // n ≤ Decimal.wordMax }

/-- The settings that are stated, each with any value of its type. -/
structure StatedSettings where
  call : Option Word := none
  prefetch : Option Word := none
  level : Option String := none
  format : Option LogFormat := none
  capacity : Option Word := none

namespace StatedSettings

variable (s : StatedSettings)

/-- The defaults with the stated settings in their places. -/
def settings : Settings where
  limits := ⟨(s.call.map Subtype.val).getD ({} : Limits).call, (s.prefetch.map Subtype.val).getD ({} : Limits).prefetch⟩
  log := ⟨s.level.getD ({} : LogSettings).level, s.format⟩
  replay := ⟨(s.capacity.map Subtype.val).getD ({} : ReplaySettings).capacity⟩

/-! #### In a document -/

def word (w : Word) : Json := .ofNat w.val

def limitFields : List (String × Option Json) :=
  [("call_timeout_ms", s.call.map word), ("prefetch_timeout_ms", s.prefetch.map word)]

def logFields : List (String × Option Json) :=
  [("log_level", s.level.map .string), ("log_format", s.format.map LogFormat.toJson)]

def replayFields : List (String × Option Json) := [("replay_capacity", s.capacity.map word)]

/-- A section with the fields that are stated in it, in any order. It may be omitted if there are none. -/
inductive IsSection (fields : List (String × Option Json)) : Option Json → Prop where
  | omitted (nothing : Json.given fields = []) : IsSection fields none
  | written {members : List (String × Json)} (order : members.Perm (Json.given fields)) :
      IsSection fields (some (.object members))

/-- A document that states these settings and nothing else. -/
inductive IsDocument : Json → Prop where
  | sections {limits log replay : Option Json} {members : List (String × Json)}
      (limitSection : IsSection s.limitFields limits) (logSection : IsSection s.logFields log)
      (replaySection : IsSection s.replayFields replay)
      (order : members.Perm (Json.given [("resolver", limits), ("telemetry", log), ("events", replay)])) :
      IsDocument (.object members)

variable {s}

theorem IsSection.orDefault? {α : Type} {fields : List (String × Option Json)} {o : Option Json}
    (stated : IsSection fields o) {read : Json → Option α} {a default : α}
    (reads : ∀ members : List (String × Json), members.Perm (Json.given fields) → read (.object members) = some a)
    (empty : read (.object []) = some default) {name : String} {members : List (String × Json)}
    (found : Json.lookup name members = o) : Json.orDefault? read default name members = some a := by
  rw [Json.orDefault?, found]
  cases stated with
  | omitted nothing => exact empty.symm.trans (reads [] (nothing ▸ .refl _))
  | written order => exact reads _ order

theorem limits_given {members : List (String × Json)} (order : members.Perm (Json.given s.limitFields)) :
    Limits.ofJson? (.object members) = some s.settings.limits := by
  have distinct : (s.limitFields.map Prod.fst).Nodup := (by decide : ["call_timeout_ms", "prefetch_timeout_ms"].Nodup)
  have fields : (Json.object members).fields? .refuse ["call_timeout_ms", "prefetch_timeout_ms"] = some members :=
    Json.fields?_given distinct order
  have call := Json.lookup_given distinct order (.head _)
  have prefetch := Json.lookup_given distinct order (.tail _ (.head _))
  have reads : ∀ w : Word, Json.word? (word w) = some w.val := fun _ => rfl
  simp only [Limits.ofJson?, fields, Option.bind_eq_bind, Option.bind_some, Json.orDefault?_map call reads,
    Json.orDefault?_map prefetch reads]
  rfl

theorem log_given {members : List (String × Json)} (order : members.Perm (Json.given s.logFields)) :
    LogSettings.ofJson? (.object members) = some s.settings.log := by
  have distinct : (s.logFields.map Prod.fst).Nodup := (by decide : ["log_level", "log_format"].Nodup)
  have fields : (Json.object members).fields? .refuse ["log_level", "log_format"] = some members :=
    Json.fields?_given distinct order
  have level := Json.lookup_given distinct order (.head _)
  have format := Json.lookup_given distinct order (.tail _ (.head _))
  have readsLevel : ∀ text : String, Json.text? (.string text) = some (id text) := fun _ => rfl
  have readsFormat : ∀ f : LogFormat, Json.nullable? LogFormat.ofJson? f.toJson = some (some f) := by
    intro f
    cases f <;> rfl
  have same : (s.format.map some).getD none = s.format := by cases s.format <;> rfl
  simp only [LogSettings.ofJson?, fields, Option.bind_eq_bind, Option.bind_some, Json.orDefault?_map level readsLevel,
    Json.orDefault?_map format readsFormat, same, Option.map_id]
  rfl

theorem replay_given {members : List (String × Json)} (order : members.Perm (Json.given s.replayFields)) :
    ReplaySettings.ofJson? (.object members) = some s.settings.replay := by
  have distinct : (s.replayFields.map Prod.fst).Nodup := (by decide : ["replay_capacity"].Nodup)
  have fields : (Json.object members).fields? .refuse ["replay_capacity"] = some members :=
    Json.fields?_given distinct order
  have capacity := Json.lookup_given distinct order (.head _)
  have reads : ∀ w : Word, Json.word? (word w) = some w.val := fun _ => rfl
  simp only [ReplaySettings.ofJson?, fields, Option.bind_eq_bind, Option.bind_some, Json.orDefault?_map capacity reads]
  rfl

/-- A document is read as the settings that it states. -/
theorem IsDocument.ofJson? {v : Json} (document : s.IsDocument v) : Settings.ofJson? v = some s.settings := by
  obtain ⟨limitSection, logSection, replaySection, order⟩ := document
  rename_i limits log replay members
  have distinct : ([("resolver", limits), ("telemetry", log), ("events", replay)].map Prod.fst).Nodup :=
    (by decide : ["resolver", "telemetry", "events"].Nodup)
  have fields : (Json.object members).fields? .refuse ["resolver", "telemetry", "events"] = some members :=
    Json.fields?_given distinct order
  have resolver := Json.lookup_given distinct order (.head _)
  have telemetry := Json.lookup_given distinct order (.tail _ (.head _))
  have events := Json.lookup_given distinct order (.tail _ (.tail _ (.head _)))
  simp only [Settings.ofJson?, fields, Option.bind_eq_bind, Option.bind_some,
    limitSection.orDefault? (fun _ => limits_given) rfl resolver,
    logSection.orDefault? (fun _ => log_given) rfl telemetry,
    replaySection.orDefault? (fun _ => replay_given) rfl events]
  rfl

/-! #### In the environment -/

variable (s)

/-- The value of a variable: numbers in plain decimal, formats in lower case. -/
def text? : Variable → Option String
  | .callLimit => s.call.map fun w => Decimal.render w.val
  | .prefetchLimit => s.prefetch.map fun w => Decimal.render w.val
  | .logLevel => s.level
  | .logFormat => s.format.map LogFormat.label
  | .replayCapacity => s.capacity.map fun w => Decimal.render w.val

variable {s}

theorem word?_render (w : Word) : Variable.word? (Decimal.render w.val) = some w.val := by
  have solid : ∀ c ∈ Decimal.digits w.val, isBlank c = false := fun _ member =>
    isBlank_of_isAsciiDigit (Decimal.isAsciiDigit_of_mem_digits member)
  rw [Variable.word?, Decimal.render, String.toList_ofList, trimChars_of_not_blank solid,
    Decimal.word?_digits w.property]

theorem ofText?_label (f : LogFormat) : LogFormat.ofText? f.label = some f := by
  cases f <;> decide

theorem reads_text {v : Variable} {text : String} (stated : s.text? v = some text) : v.Reads text := by
  cases v with
  | logLevel => trivial
  | logFormat =>
    obtain ⟨f, -, rfl⟩ := Option.map_eq_some_iff.mp stated
    exact Option.isSome_of_eq_some (ofText?_label f)
  | _ =>
    obtain ⟨w, -, rfl⟩ := Option.map_eq_some_iff.mp stated
    exact Option.isSome_of_eq_some (word?_render w)

/-- The defaults with the texts of the stated settings in their places. -/
theorem replaced_text : ({} : Settings).replaced s.text? = s.settings := by
  have words (o : Option Word) : (o.map fun w => Decimal.render w.val).bind Variable.word? = o.map Subtype.val := by
    cases o with
    | none => rfl
    | some w => rw [Option.map_some, Option.bind_some, word?_render, Option.map_some]
  have format : ((s.format.map LogFormat.label).bind LogFormat.ofText?).or none = s.format := by
    cases s.format with
    | none => rfl
    | some f => rw [Option.map_some, Option.bind_some, ofText?_label, Option.some_or]
  simp only [Settings.replaced, text?, words, format, settings]

theorem ofLookup_eq {lookup : String → Option String} (environment : ∀ v : Variable, lookup v.name = s.text? v) :
    (Settings.ofLookup lookup).1 = s.settings.validate := by
  have fine (v : Variable) : ¬ v.Fails lookup := fun ⟨text, present, unread⟩ =>
    unread (reads_text ((environment v).symm.trans present))
  rw [Settings.ofLookup_of_reads fine, funext environment, replaced_text]

/-! ### Both ways -/

/-- The text of a document and an environment that state the same settings lead to the same result: to the defaults
with the stated settings in their places, or to the first of these that cannot be used. -/
theorem ofDocument_eq_ofLookup (s : StatedSettings) {text : String} {v : Json} {lookup : String → Option String}
    (written : Json.IsText v text) (document : s.IsDocument v)
    (environment : ∀ x : Variable, lookup x.name = s.text? x) :
    Settings.ofDocument text = s.settings.validate ∧ (Settings.ofLookup lookup).1 = s.settings.validate ∧
      ((∀ c : CheckedSetting, ¬ c.Offends s.settings) → s.settings.validate = .ok s.settings) ∧
      ∀ c : CheckedSetting, c.Offends s.settings → (∀ b ∈ c.before, ¬ b.Offends s.settings) →
        s.settings.validate = .error (c.error s.settings) := by
  have read : Settings.ofDocument text = s.settings.validate := by
    rw [Settings.ofDocument, (Json.parse?_eq_some_iff.mpr written).1, Option.bind_some, document.ofJson?]
  refine ⟨read, ofLookup_eq environment, fun usable => ?_, fun c offends first => ?_⟩
  · rw [Settings.validate, Settings.problem?_eq_none.mpr usable]
  · rw [Settings.validate, Settings.problem?_eq_error offends first]

/-- A deadline, a level, a format and a capacity, stated with the sections and the fields in another order. They are
accepted with a capacity of sixteen, and with a capacity of zero they are not. -/
theorem ofDocument_eq_ofLookup_capacities :
    let text (capacity : String) : String := "\x7b\"events\":\x7b\"replay_capacity\":" ++ capacity ++
      "\x7d,\"resolver\":\x7b\"call_timeout_ms\":1500\x7d," ++
      "\"telemetry\":\x7b\"log_format\":\"json\",\"log_level\":\"debug\"\x7d\x7d"
    let lookup (capacity name : String) : Option String :=
      if name = "INTAKE_CALL_TIMEOUT_MS" then some "1500"
      else if name = "INTAKE_LOG_LEVEL" then some "debug"
      else if name = "INTAKE_LOG_FORMAT" then some "json"
      else if name = "INTAKE_EVENT_REPLAY_CAPACITY" then some capacity else none
    let accepted : Settings := { limits := ⟨1500, 30000⟩, log := ⟨"debug", some .json⟩, replay := ⟨16⟩ }
    let refused := SettingsError.invalid "events" "replay_capacity" (some "0") "must be positive"
    Settings.ofDocument (text "16") = .ok accepted ∧ (Settings.ofLookup (lookup "16")).1 = .ok accepted ∧
      Settings.ofDocument (text "0") = .error refused ∧ (Settings.ofLookup (lookup "0")).1 = .error refused := by
  intro text lookup accepted refused
  let stated (capacity : Word) : StatedSettings :=
    { call := some ⟨1500, by decide⟩, level := some "debug", format := some .json, capacity := some capacity }
  let document (capacity : Nat) : Json := .object [("events", .object [("replay_capacity", .ofNat capacity)]),
    ("resolver", .object [("call_timeout_ms", .ofNat 1500)]),
    ("telemetry", .object [("log_format", .string "json"), ("log_level", .string "debug")])]
  have isDocument (capacity : Word) : (stated capacity).IsDocument (document capacity.val) :=
    .sections (.written (.refl _)) (.written (.swap ..)) (.written (.refl _))
      (List.perm_append_comm : ([_] ++ [_, _]).Perm _)
  have sixteen : Json.IsText (document 16) (text "16") :=
    (by decide +kernel : (document 16).render = text "16") ▸ Json.isText_render rfl (by decide)
  have zero : Json.IsText (document 0) (text "0") :=
    (by decide +kernel : (document 0).render = text "0") ▸ Json.isText_render rfl (by decide)
  have some : ∀ x : Variable, lookup "16" x.name = (stated ⟨16, by decide⟩).text? x := fun x => by cases x <;> decide
  have none : ∀ x : Variable, lookup "0" x.name = (stated ⟨0, by decide⟩).text? x := fun x => by cases x <;> decide
  obtain ⟨read, entered, usable, -⟩ := ofDocument_eq_ofLookup (stated ⟨16, by decide⟩) sixteen (isDocument _) some
  obtain ⟨unread, unentered, -, offends⟩ := ofDocument_eq_ofLookup (stated ⟨0, by decide⟩) zero (isDocument _) none
  have fine := usable (fun c => by cases c <;> decide)
  have offence : CheckedSetting.capacity.error (stated ⟨0, by decide⟩).settings = refused := by decide
  have error := (offends .capacity rfl (by decide)).trans (congrArg Except.error offence)
  exact ⟨read.trans fine, entered.trans fine, unread.trans error, unentered.trans error⟩

end StatedSettings

end TorrentAdmission
