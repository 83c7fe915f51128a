import TorrentAdmission.Event
import TorrentAdmission.Source
import TorrentAdmission.Torrent.Basic
import TorrentAdmission.Proofs.Json.Format
import TorrentAdmission.Proofs.Text.Identifier

/-!
# Values that survive JSON

Events, sources, requests, torrent keys, torrents and prefetched metadata are read back from their JSON, in
whatever words it states them.
-/

namespace TorrentAdmission

open Json (Shape Format Reworded keys)

/-! ### Descriptions -/

namespace Info

/-- The description has no numbers but integers that fit 64-bit words. -/
def IsPlain (info : Info) : Prop := info.toJson.isPlain = true

theorem normal_toJson (info : Info) : info.toJson.normal = info.toJson :=
  congrArg Json.object (Json.normalMembers_of_ascending info.isMap.1 info.isMap.2)

/-- A description is read from any order of its members. -/
theorem ofJson?_reworded {info : Info} (plain : info.IsPlain) (w : Json) (reworded : Reworded .free info.toJson w) :
    ofJson? w = some info := by
  obtain ⟨rearranged⟩ := reworded
  obtain ⟨denotes, -, readable⟩ := rearranged.keeps (Json.hasDistinctKeys_of_normal info.normal_toJson)
  rw [normal_toJson] at denotes
  rw [Json.isReadable_of_isPlain plain] at readable
  cases w with
  | object members =>
    obtain ⟨known, map⟩ := info
    obtain rfl : Json.normalMembers [] members = known := Json.object.inj denotes
    exact if_pos readable
  | _ => cases denotes

end Info

theorem Uuid.ofJson?_reworded {id : Uuid} (w : Json) (reworded : Reworded .free id.toJson w) : ofJson? w = some id := by
  obtain rfl := Reworded.string reworded
  exact id.ofJson?_toJson

theorem InfoHash.ofJson?_reworded {hash : InfoHash} (w : Json) (reworded : Reworded .free hash.toJson w) :
    ofJson? w = some hash := by
  obtain rfl := Reworded.string reworded
  rfl

/-! ### Sums of records -/

namespace Event

def format : Format Event := ⟨toJson, ofJson?, fun e => .ofObject true e.toJson⟩

def IsPlain : Event → Prop
  | .added _ _ info => info.IsPlain
  | _ => True

def tag : Event → String
  | .accepted .. => "before_add"
  | .added .. => "add"
  | .failed .. => "add_failed"
  | .cancelled .. => "add_cancelled"

def record : Event → List (String × Json)
  | .accepted id source hint =>
    [("correlation_id", id.toJson), ("source", .string source), ("name_hint", .ofOption hint)]
  | .added id torrent info => [("correlation_id", id.toJson), ("torrent_id", .string torrent), ("info", info.toJson)]
  | .failed id operation reason =>
    [("correlation_id", id.toJson), ("operation", .ofOption operation), ("reason", .string reason)]
  | .cancelled id => [("correlation_id", id.toJson)]

theorem toJson_eq (e : Event) : e.toJson = .object (("type", .string e.tag) :: e.record) := by
  cases e <;> rfl

theorem isPlain_record {e : Event} (plain : e.IsPlain) : Json.arePlainMembers e.record = true := by
  cases e with
  | accepted _ _ hint => cases hint <;> rfl
  | added _ _ info =>
    simp only [record, Json.arePlainMembers, show info.toJson.isPlain = true from plain]
    rfl
  | failed _ operation _ => cases operation <;> rfl
  | cancelled => rfl

theorem isPlain_toJson {e : Event} (plain : e.IsPlain) : e.toJson.isPlain = true := by
  rw [toJson_eq]
  exact isPlain_record plain

theorem distinct_record (e : Event) : Json.ValuesHaveDistinctKeys e.record := by
  cases e with
  | accepted _ _ hint => cases hint <;> exact ⟨trivial, trivial, trivial, trivial⟩
  | added _ _ info => exact ⟨trivial, trivial, Json.hasDistinctKeys_of_normal info.normal_toJson, trivial⟩
  | failed _ operation _ => cases operation <;> exact ⟨trivial, trivial, trivial, trivial⟩
  | cancelled => exact ⟨trivial, trivial⟩

theorem tagged?_reworded {e : Event} (plain : e.IsPlain) {w : Json} (reworded : Reworded (format.shape e) e.toJson w) :
    ∃ record, w.tagged? "type" = some (e.tag, record) ∧
      Reworded (.flat true (keys e.record)) (.object e.record) record := by
  have untagged : "type" ∉ keys e.record := by cases e <;> simp [keys, record]
  have written : format.shape e = .flat true ("type" :: keys e.record) := by cases e <;> rfl
  rw [written, toJson_eq] at reworded
  exact reworded.tagged? untagged e.distinct_record (Json.areReadableMembers_of_arePlain (isPlain_record plain))

theorem ofJson?_reworded {e : Event} (plain : e.IsPlain) (w : Json) (reworded : Reworded (format.shape e) e.toJson w) :
    ofJson? w = some e := by
  obtain ⟨record, tagged, reworded⟩ := tagged?_reworded plain reworded
  cases e with
  | accepted id source hint =>
    have reworded : Reworded (.flat true ["correlation_id", "source", "name_hint"]) _ record := reworded
    obtain ⟨stated, fields, hasId, hasSource, hasHint, -⟩ := reworded.flat? (by decide)
    simp only [ofJson?, tagged, fields, Option.bind_eq_bind, Option.bind_some,
      hasId.required? Uuid.ofJson?_reworded, hasSource.required? Json.text?_reworded,
      hasHint.orDefault? Json.nullable?_reworded]
    rfl
  | added id torrent info =>
    have reworded : Reworded (.flat true ["correlation_id", "torrent_id", "info"]) _ record := reworded
    obtain ⟨stated, fields, hasId, hasTorrent, hasInfo, -⟩ := reworded.flat? (by decide)
    simp only [ofJson?, tagged, fields, Option.bind_eq_bind, Option.bind_some,
      hasId.required? Uuid.ofJson?_reworded, hasTorrent.required? Json.text?_reworded,
      hasInfo.required? (Info.ofJson?_reworded plain)]
    rfl
  | failed id operation reason =>
    have reworded : Reworded (.flat true ["correlation_id", "operation", "reason"]) _ record := reworded
    obtain ⟨stated, fields, hasId, hasOperation, hasReason, -⟩ := reworded.flat? (by decide)
    simp only [ofJson?, tagged, fields, Option.bind_eq_bind, Option.bind_some,
      hasId.required? Uuid.ofJson?_reworded, hasOperation.orDefault? Json.nullable?_reworded,
      hasReason.required? Json.text?_reworded]
    rfl
  | cancelled id =>
    have reworded : Reworded (.flat true ["correlation_id"]) _ record := reworded
    obtain ⟨stated, fields, hasId, -⟩ := reworded.flat? (by decide)
    simp only [ofJson?, tagged, fields, Option.bind_eq_bind, Option.bind_some,
      hasId.required? Uuid.ofJson?_reworded]
    rfl

theorem isLossless : format.IsLossless IsPlain :=
  Format.isLossless (fun _ => isPlain_toJson) (fun e => by cases e <;> exact Reworded.same_object ..)
    fun _ w plain => ofJson?_reworded plain w

end Event

namespace Source

def format : Format Source := ⟨toJson, ofJson?, fun s => .ofObject true s.toJson⟩

theorem ofJson?_reworded {s : Source} (w : Json) (reworded : Reworded (format.shape s) s.toJson w) :
    ofJson? w = some s := by
  cases s with
  | magnet uri =>
    have reworded : Reworded (.flat true ["type", "uri"]) (toJson (.magnet uri)) w := reworded
    obtain ⟨record, tagged, reworded⟩ := reworded.tagged? (by decide) ⟨trivial, trivial⟩ rfl
    obtain ⟨stated, fields, hasUri, -⟩ := reworded.flat? (by decide)
    simp only [ofJson?, tagged, fields, Option.bind_eq_bind, Option.bind_some,
      hasUri.required? Json.text?_reworded]
    rfl
  | direct url cookies =>
    have reworded : Reworded (.flat true ["type", "url", "cookies"]) (toJson (.direct url cookies)) w := reworded
    obtain ⟨record, tagged, reworded⟩ := reworded.tagged? (by decide) ⟨trivial, trivial, trivial⟩ rfl
    obtain ⟨stated, fields, hasUrl, hasCookies, -⟩ := reworded.flat? (by decide)
    simp only [ofJson?, tagged, fields, Option.bind_eq_bind, Option.bind_some,
      hasUrl.required? Json.text?_reworded, hasCookies.required? Json.text?_reworded]
    rfl

theorem isLossless : format.IsLossless fun _ => True :=
  Format.isLossless (fun s _ => by cases s <;> rfl) (fun s => by cases s <;> exact Reworded.same_object ..)
    fun _ w _ => ofJson?_reworded w

end Source

/-! ### Records -/

namespace Request

def format : Format Request := ⟨toJson, ofJson?, fun r => .ofObject false r.toJson⟩

theorem ofJson?_reworded {r : Request} (w : Json) (reworded : Reworded (format.shape r) r.toJson w) :
    ofJson? w = some r := by
  have reworded : Reworded (.flat false ["source", "cookies"]) r.toJson w := reworded
  obtain ⟨stated, fields, hasSource, hasCookies, -⟩ := reworded.flat? (by decide)
  simp only [ofJson?, fields, Option.bind_eq_bind, Option.bind_some, hasSource.required? Json.text?_reworded,
    hasCookies.orDefault? Json.text?_reworded]
  rfl

theorem isLossless : format.IsLossless fun _ => True :=
  Format.isLossless (fun _ _ => rfl) (fun _ => Reworded.same_object ..) fun _ w _ => ofJson?_reworded w

end Request

namespace Prefetched

def format : Format Prefetched := ⟨toJson, ofJson?, fun p => .ofObject false p.toJson⟩

theorem ofJson?_reworded {p : Prefetched} (w : Json) (reworded : Reworded (format.shape p) p.toJson w) :
    ofJson? w = some p := by
  have reworded : Reworded (.flat false ["info_hash", "metadata"]) p.toJson w := reworded
  obtain ⟨stated, fields, hasHash, hasMetadata, -⟩ := reworded.flat? (by decide)
  simp only [ofJson?, fields, Option.bind_eq_bind, Option.bind_some, hasHash.required? Json.text?_reworded,
    hasMetadata.required? Json.text?_reworded]
  rfl

theorem isLossless : format.IsLossless fun _ => True :=
  Format.isLossless (fun _ _ => rfl) (fun _ => Reworded.same_object ..) fun _ w _ => ofJson?_reworded w

end Prefetched

namespace TorrentKey

def format : Format TorrentKey := ⟨toJson, ofJson?, fun k => .ofObject false k.toJson⟩

theorem ofJson?_parts {names : List String} {members stated : List (String × Json)} {w value : Json} {name : String}
    (reworded : Reworded (.flat false names) (.object members) w)
    (fields : w.fields? .skip ["kind", "value"] = some stated) (hasKind : Json.lookup "kind" stated = some (.string name))
    (hasValue : Json.lookup "value" stated = some value) : ofJson? w = ofParts? name value := by
  obtain _ | _ := reworded
  simp only [ofJson?, fields, hasKind, hasValue, Option.bind_eq_bind, Option.bind_some]
  rfl

theorem ofJson?_reworded {k : TorrentKey} (w : Json) (reworded : Reworded (format.shape k) k.toJson w) :
    ofJson? w = some k := by
  cases k with
  | submission id =>
    have reworded : Reworded (.flat false ["kind", "value"]) (toJson (.submission id)) w := reworded
    obtain ⟨stated, fields, ⟨_, hasKind, kind⟩, ⟨_, hasValue, value⟩, -⟩ := reworded.flat? (by decide)
    obtain rfl := kind.string
    rw [ofJson?_parts reworded fields hasKind hasValue, ofParts?, if_pos rfl, Uuid.ofJson?_reworded _ value]
    rfl
  | infoHash hash =>
    have reworded : Reworded (.flat false ["kind", "value"]) (toJson (.infoHash hash)) w := reworded
    obtain ⟨stated, fields, ⟨_, hasKind, kind⟩, ⟨_, hasValue, value⟩, -⟩ := reworded.flat? (by decide)
    obtain rfl := kind.string
    rw [ofJson?_parts reworded fields hasKind hasValue, ofParts?, if_neg (by decide), if_pos rfl,
      InfoHash.ofJson?_reworded _ value]
    rfl

theorem reworded_toJson (k : TorrentKey) : Reworded (format.shape k) k.toJson k.toJson := by
  cases k <;> exact Reworded.same_object ..

theorem isLossless : format.IsLossless fun _ => True :=
  Format.isLossless (fun k _ => by cases k <;> rfl) reworded_toJson fun _ w _ => ofJson?_reworded w

end TorrentKey

namespace Torrent

/-- Members may be added to a torrent and to its key. -/
def format : Format Torrent where
  toJson := toJson
  ofJson? := ofJson?
  shape t := .record false [("torrent_id", TorrentKey.format.shape t.key), ("filename", .free), ("info", .free)]

def IsPlain (t : Torrent) : Prop := t.info.IsPlain

theorem ofJson?_reworded {t : Torrent} (plain : t.IsPlain) (w : Json) (reworded : Reworded (format.shape t) t.toJson w) :
    ofJson? w = some t := by
  obtain ⟨stated, fields, hasKey, hasName, hasInfo, -⟩ :=
    Reworded.fields? reworded (show ["torrent_id", "filename", "info"].Nodup by decide)
  have fields : w.fields? .skip ["torrent_id", "filename", "info"] = some stated := fields
  simp only [ofJson?, fields, Option.bind_eq_bind, Option.bind_some, hasKey.required? TorrentKey.ofJson?_reworded,
    hasName.required? Json.text?_reworded, hasInfo.required? (Info.ofJson?_reworded plain)]
  rfl

theorem isPlain_toJson {t : Torrent} (plain : t.IsPlain) : t.toJson.isPlain = true := by
  have key : t.key.toJson.isPlain = true := by cases t.key <;> rfl
  simp only [toJson, Json.isPlain, Json.arePlainMembers, key, show t.info.toJson.isPlain = true from plain]
  rfl

theorem isLossless : format.IsLossless IsPlain := by
  refine Format.isLossless (fun _ => isPlain_toJson) (fun t => ?_) fun _ w plain => ofJson?_reworded plain w
  have others := Json.RewordedFields.same [("filename", .string t.filename), ("info", t.info.toJson)]
  exact (Json.RewordedFields.cons "torrent_id" t.key.reworded_toJson others).same_record false

end Torrent

/-! ### All formats -/

/-- Decoding undoes encoding, in whatever order the members of objects come and whatever members are added to
records, as long as those added to an event or a source are readable. -/
theorem formats_lossless :
    Event.format.IsLossless Event.IsPlain ∧ Source.format.IsLossless (fun _ => True) ∧
      Request.format.IsLossless (fun _ => True) ∧ TorrentKey.format.IsLossless (fun _ => True) ∧
      Torrent.format.IsLossless Torrent.IsPlain ∧ Prefetched.format.IsLossless (fun _ => True) :=
  ⟨Event.isLossless, Source.isLossless, Request.isLossless, TorrentKey.isLossless, Torrent.isLossless,
    Prefetched.isLossless⟩

/-- The tag of a cancelled event may come last, behind a member that no event has. -/
theorem cancelled_reordered :
    Event.format.decode? (Json.object [("note", .array [.null]), ("correlation_id", (Uuid.ofNat 7).toJson),
      ("type", .string "add_cancelled")]).render = some (.cancelled (Uuid.ofNat 7)) := by
  refine formats_lossless.1.decode?_render (a := .cancelled (Uuid.ofNat 7)) trivial ?_ rfl (by decide)
  have unknown : ∀ m ∈ [("note", Json.array [.null])], m.1 ∉ ["type", "correlation_id"] := by simp
  exact .of_perm unknown (fun _ => rfl) (List.reverse_perm [_, _, _])

/-! ### What an event does not take in -/

/-- A sum is not read if something beside its tag is not readable. -/
theorem Json.tagged?_unreadable {tag : String} {members : List (String × Json)}
    (unreadable : areReadableMembers (members.filter fun m => m.1 != tag) = false) :
    tagged? tag (.object members) = none := by
  rw [tagged?]
  split
  · rfl
  · cases required? text? tag members with
    | none => rfl
    | some name => simp [unreadable]

theorem Json.double_eq_unreadable {negative : Bool} {whole : List Char} {n : Nat} {exponent : Int}
    (fits : fitting 0 whole = (n, whole.length)) (infinite : Double.ofDecimal? negative n exponent = none) :
    double negative whole [] exponent = .unreadable := by
  have same : exponent + ((whole.length - whole.length : Nat) : Int) - ((0 : Nat) : Int) = exponent := by omega
  rw [double]
  simp only [fits, fitting, same, infinite]

namespace Event

/-- A cancelled event with a number beyond the range of doubles in it. -/
def overflowing : String :=
  "\x7b\"type\":\"add_cancelled\",\"correlation_id\":\"00000000-0000-0000-0000-000000000000\",\"x\":1e999\x7d"

def overflowingJson : Json :=
  .object [("type", .string "add_cancelled"), ("correlation_id", .string "00000000-0000-0000-0000-000000000000"),
    ("x", .unreadable)]

theorem readValue_overflow (fuel room : Nat) (r : List Char) :
    Json.readValue (fuel + 1) room ('1' :: 'e' :: '9' :: '9' :: '9' :: '\x7d' :: r) =
      some (.unreadable, '\x7d' :: r) := by
  have infinite : Double.ofDecimal? false 1 999 = none := by decide +kernel
  have fits : Json.fitting 0 ['1'] = (1, 1) := by decide
  rw [Json.readValue_numeral fuel room _ (.inr rfl), ← Json.double_eq_unreadable fits infinite]
  rfl

theorem parse?_overflowing : Json.parse? overflowing = some overflowingJson := by
  have written : overflowing.toList = '\x7b' :: Json.writeLiteral "type" (':' :: Json.writeLiteral "add_cancelled"
      (',' :: Json.writeLiteral "correlation_id" (':' :: Json.writeLiteral "00000000-0000-0000-0000-000000000000"
      (',' :: Json.writeLiteral "x" (':' :: ['1', 'e', '9', '9', '9', '\x7d']))))) := by decide +kernel
  have length : overflowing.toList.length = 90 := by decide +kernel
  have comma (r : List Char) : Json.skipSpace (',' :: r) = ',' :: r := Json.skipSpace_cons rfl r
  have begins : Json.BeginsValue '"' := by decide
  have read : Json.readValue (90 + 1) Json.depthLimit overflowing.toList = some (overflowingJson, []) := by
    rw [written]
    refine (Json.readValue_object 90 Json.depthLimit begins).trans ?_
    show Option.map _ (Json.readMembers 90 _ (Json.writeLiteral "type" (':' :: _))) = _
    simp only [Json.readMembers_key, Json.readValue_literal, readValue_overflow, comma, Option.bind_eq_bind,
      Option.bind_some]
    rfl
  rw [Json.parse?, length, read]
  rfl

/-- A member added to an event keeps it from being read if the number in it is too great. -/
theorem unread_beside_overflow :
    ¬ ∀ (e : Event) (text : String) (w : Json), e.IsPlain → e.toJson.depth ≤ Json.depthLimit →
      Json.parse? text = some w → w.depth ≤ Json.depthLimit → Reworded (.ofObject false e.toJson) e.toJson w →
        format.decode? text = some e := by
  intro claim
  have unknown : ∀ m ∈ [("x", Json.unreadable)], m.1 ∉ ["type", "correlation_id"] := by simp
  have reworded : Reworded (.ofObject false (toJson (.cancelled (Uuid.ofNat 0)))) (toJson (.cancelled (Uuid.ofNat 0)))
      overflowingJson := .of_perm unknown (fun inSum => by cases inSum) (.refl _)
  have read := claim (.cancelled (Uuid.ofNat 0)) overflowing overflowingJson trivial (by decide) parse?_overflowing
    (by decide) reworded
  have refused : overflowingJson.tagged? "type" = none := Json.tagged?_unreadable (by decide)
  have unread : ofJson? overflowingJson = none := by rw [ofJson?, refused]; rfl
  rw [Format.decode?, parse?_overflowing, Option.bind_some] at read
  cases unread.symm.trans read

end Event

end TorrentAdmission
