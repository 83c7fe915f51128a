import TorrentAdmission.Json.Record
import TorrentAdmission.Proofs.Json.Rearranging

/-!
# Records in other words

A record may be stated with its members in another order and with further members under names that are
none of its own. A reader of records finds the same fields in it: `Reworded.fields?`, and `Reworded.tagged?`
for an alternative of a sum. A sum is read as a whole before its tag is known, so what is added to one has to
be readable.
-/

namespace TorrentAdmission.Json

/-- Where members may be added to a value. -/
inductive Shape where
  /-- Nowhere. -/
  | free
  /-- To the record itself, under names that are none of its own, and to the values of its fields as their
  shapes allow. A record that is read as a whole takes readable values only. -/
  | record (whole : Bool) (fields : List (String × Shape))

def Shape.freely (names : List String) : List (String × Shape) := names.map (·, .free)

/-- A record with nothing but free values. -/
def Shape.flat (whole : Bool) (names : List String) : Shape := .record whole (freely names)

/-- An object with nothing but free values. -/
def Shape.ofObject (whole : Bool) : Json → Shape
  | .object members => .flat whole (members.map Prod.fst)
  | _ => .free

mutual

/-- The second value is the first one with the members of its objects in another order, and with further
members where the shape allows them. -/
inductive Reworded : Shape → Json → Json → Prop where
  | free {v w : Json} (rearranged : Rearranged v w) : Reworded .free v w
  | record {whole : Bool} {fields : List (String × Shape)} {members kept extras reworded : List (String × Json)}
      (known : RewordedFields fields members kept) (unknown : ∀ m ∈ extras, m.1 ∉ fields.map Prod.fst)
      (readable : whole = true → areReadableMembers extras = true) (order : reworded.Perm (kept ++ extras)) :
      Reworded (.record whole fields) (.object members) (.object reworded)

inductive RewordedFields : List (String × Shape) → List (String × Json) → List (String × Json) → Prop where
  | nil : RewordedFields [] [] []
  | cons (name : String) {shape : Shape} {v w : Json} {fields : List (String × Shape)}
      {members kept : List (String × Json)} (head : Reworded shape v w) (tail : RewordedFields fields members kept) :
      RewordedFields ((name, shape) :: fields) ((name, v) :: members) ((name, w) :: kept)

end

/-! ### Members by name -/

theorem lookup_of_mem {members : List (String × Json)} (distinct : (keys members).Nodup) {name : String} {v : Json}
    (member : (name, v) ∈ members) : lookup name members = some v := by
  induction members with
  | nil => cases member
  | cons m r ih =>
    obtain ⟨behind, distinct⟩ := List.nodup_cons.mp distinct
    rcases List.mem_cons.mp member with rfl | member
    · exact if_pos rfl
    · have other : m.1 ≠ name := fun same => behind (same ▸ List.mem_map_of_mem member)
      rw [lookup, if_neg other]
      exact ih distinct member

section
variable (counts : String → Bool)

theorem lookup_filter {name : String} (counted : counts name = true) (members : List (String × Json)) :
    lookup name (members.filter fun m => counts m.1) = lookup name members := by
  induction members with
  | nil => rfl
  | cons m r ih =>
    by_cases kept : counts m.1 = true
    · rw [List.filter_cons, if_pos kept, lookup, lookup, ih]
    · have other : m.1 ≠ name := fun same => kept (same ▸ counted)
      rw [List.filter_cons, if_neg kept, lookup, if_neg other, ih]

theorem any_key_filter {key : String} (counted : counts key = true) (members : List (String × Json)) :
    (members.any fun m => m.1 == key) = true ↔ key ∈ keys (members.filter fun m => counts m.1) := by
  rw [List.any_eq_true, keys, List.mem_map]
  constructor
  · rintro ⟨m, there, same⟩
    obtain rfl := eq_of_beq same
    exact ⟨m, List.mem_filter.mpr ⟨there, counted⟩, rfl⟩
  · rintro ⟨m, there, rfl⟩
    exact ⟨m, (List.mem_filter.mp there).1, beq_self_eq_true _⟩

/-- No name that counts is repeated if the members with such names have distinct keys. -/
theorem repeats_eq_false {members : List (String × Json)}
    (distinct : (keys (members.filter fun m => counts m.1)).Nodup) : repeats counts members = false := by
  induction members with
  | nil => rfl
  | cons m r ih =>
    rw [repeats]
    cases counted : counts m.1 with
    | false =>
      rw [List.filter_cons, counted] at distinct
      rw [ih distinct]
      rfl
    | true =>
      rw [List.filter_cons, counted] at distinct
      obtain ⟨once, distinct⟩ := List.nodup_cons.mp distinct
      rw [ih distinct, Bool.eq_false_iff.mpr (mt (any_key_filter counts counted r).mp once)]
      rfl

/-- The members whose names count, if they stand among others whose names do not. -/
theorem filter_perm {kept extras members : List (String × Json)} (order : members.Perm (kept ++ extras))
    (known : ∀ m ∈ kept, counts m.1 = true) (unknown : ∀ m ∈ extras, counts m.1 = false) :
    (members.filter fun m => counts m.1).Perm kept := by
  have parts := order.filter fun m => counts m.1
  have none : extras.filter (fun m => counts m.1) = [] :=
    List.filter_eq_nil_iff.mpr fun m member => Bool.eq_false_iff.mp (unknown m member)
  rwa [List.filter_append, List.filter_eq_self.mpr known, none, List.append_nil] at parts

end

theorem areReadable_iff {items : List Json} : areReadable items = true ↔ ∀ v ∈ items, v.isReadable = true := by
  induction items with
  | nil => simp [areReadable]
  | cons v r ih => rw [areReadable, Bool.and_eq_true, ih, List.forall_mem_cons]

theorem areReadableMembers_iff {members : List (String × Json)} :
    areReadableMembers members = true ↔ ∀ m ∈ members, m.2.isReadable = true := by
  induction members with
  | nil => simp [areReadableMembers]
  | cons m r ih => rw [areReadableMembers, Bool.and_eq_true, ih, List.forall_mem_cons]

/-! ### Fields -/

theorem RewordedFields.keys_kept {fields : List (String × Shape)} {members kept : List (String × Json)} :
    RewordedFields fields members kept → keys kept = fields.map Prod.fst
  | .nil => rfl
  | .cons name _ tail => congrArg (name :: ·) tail.keys_kept

theorem keys_freely (names : List String) : (Shape.freely names).map Prod.fst = names := by
  rw [Shape.freely, List.map_map]
  exact List.map_id names

/-- Free values that are readable stay so. -/
theorem RewordedFields.readable {names : List String} {members kept : List (String × Json)}
    (reworded : RewordedFields (Shape.freely names) members kept) (distinct : ValuesHaveDistinctKeys members)
    (readable : areReadableMembers members = true) : areReadableMembers kept = true := by
  induction names generalizing members kept with
  | nil =>
    cases reworded
    rfl
  | cons name names ih =>
    obtain _ | ⟨_, ⟨rearranged⟩, tail⟩ := reworded
    obtain ⟨head, others⟩ := Bool.and_eq_true_iff.mp readable
    have still := (rearranged.keeps distinct.1).2.2
    exact Bool.and_eq_true_iff.mpr ⟨still.trans head, ih tail distinct.2 others⟩

/-- A field is among the stated ones, perhaps in other words. -/
def IsStated (stated : List (String × Json)) (name : String) (shape : Shape) (v : Json) : Prop :=
  ∃ w, lookup name stated = some w ∧ Reworded shape v w

def AreStated (stated : List (String × Json)) : List (String × Shape) → List (String × Json) → Prop
  | (name, shape) :: fields, (_, v) :: members => IsStated stated name shape v ∧ AreStated stated fields members
  | _, _ => True

theorem RewordedFields.areStated {stated : List (String × Json)} :
    ∀ {fields : List (String × Shape)} {members kept : List (String × Json)}, RewordedFields fields members kept →
      (∀ m ∈ kept, lookup m.1 stated = some m.2) → AreStated stated fields members
  | _, _, _, .nil, _ => trivial
  | _, _, _, .cons _ head tail, found =>
    ⟨⟨_, found _ List.mem_cons_self, head⟩, tail.areStated fun m member => found m (List.mem_cons_of_mem _ member)⟩

/-- In other words a record states the same fields. -/
theorem Reworded.fields? {whole : Bool} {fields : List (String × Shape)} {members : List (String × Json)} {w : Json}
    (reworded : Reworded (.record whole fields) (.object members) w) (distinct : (fields.map Prod.fst).Nodup) :
    ∃ stated, w.fields? .skip (fields.map Prod.fst) = some stated ∧ AreStated stated fields members := by
  obtain _ | ⟨known, unknown, -, order⟩ := reworded
  rename_i kept extras reworded
  have names := known.keys_kept
  have perm : (reworded.filter fun m => (fields.map Prod.fst).contains m.1).Perm kept := by
    refine filter_perm _ order (fun m member => ?_) fun m member => ?_
    · exact List.contains_iff_mem.mpr (names ▸ List.mem_map_of_mem member)
    · exact Bool.eq_false_iff.mpr (mt List.contains_iff_mem.mp (unknown m member))
  have once : (keys (reworded.filter fun m => (fields.map Prod.fst).contains m.1)).Nodup :=
    (perm.map Prod.fst).nodup_iff.mpr (show (keys kept).Nodup from names ▸ distinct)
  refine ⟨_, ?_, known.areStated fun m member => lookup_of_mem once (perm.mem_iff.mpr member)⟩
  rw [Json.fields?, if_neg (Bool.eq_false_iff.mp (repeats_eq_false _ once)), if_neg (fun refused => nomatch refused.1)]

theorem Reworded.flat? {whole : Bool} {names : List String} {members : List (String × Json)} {w : Json}
    (reworded : Reworded (.flat whole names) (.object members) w) (distinct : names.Nodup) :
    ∃ stated, w.fields? .skip names = some stated ∧ AreStated stated (Shape.freely names) members := by
  have known := keys_freely names
  rw [← known] at distinct
  obtain ⟨stated, read, found⟩ := Reworded.fields? reworded distinct
  rw [known] at read
  exact ⟨stated, read, found⟩

section
variable {α : Type} {read : Json → Option α} {a : α} {stated : List (String × Json)} {name : String} {shape : Shape}
  {v : Json} (field : IsStated stated name shape v) (reads : ∀ w, Reworded shape v w → read w = some a)

include field reads

theorem IsStated.required? : required? read name stated = some a := by
  obtain ⟨w, found, reworded⟩ := field
  rw [Json.required?, found]
  exact reads w reworded

theorem IsStated.orDefault? (default : α) : orDefault? read default name stated = some a := by
  obtain ⟨w, found, reworded⟩ := field
  rw [Json.orDefault?, found]
  exact reads w reworded

end

theorem Reworded.string {s : String} {w : Json} : Reworded .free (.string s) w → w = .string s
  | .free (.same _) => rfl

theorem text?_reworded {s : String} (w : Json) (reworded : Reworded .free (.string s) w) : w.text? = some s := by
  rw [reworded.string]
  rfl

theorem nullable?_reworded {o : Option String} (w : Json) (reworded : Reworded .free (.ofOption o) w) :
    nullable? text? w = some o := by
  cases o with
  | none =>
    obtain ⟨⟨⟩⟩ := reworded
    rfl
  | some s =>
    rw [reworded.string]
    rfl

/-- In other words an alternative has the same tag, wherever it stands, and the same record with it. -/
theorem Reworded.tagged? {tag name : String} {names : List String} {rest : List (String × Json)} {w : Json}
    (reworded : Reworded (.flat true (tag :: names)) (.object ((tag, .string name) :: rest)) w)
    (untagged : tag ∉ names) (distinct : ValuesHaveDistinctKeys rest) (readable : areReadableMembers rest = true) :
    ∃ record, w.tagged? tag = some (name, record) ∧ Reworded (.flat true names) (.object rest) record := by
  obtain _ | ⟨known, unknown, takes, order⟩ := reworded
  rename_i kept extras reworded
  obtain _ | ⟨_, head, tail⟩ := known
  rename_i value kept
  obtain rfl := head.string
  have behind : ∀ m ∈ kept ++ extras, m.1 ≠ tag := by
    intro m member same
    rcases List.mem_append.mp member with member | member
    · have named : m.1 ∈ names := keys_freely names ▸ tail.keys_kept ▸ List.mem_map_of_mem member
      exact untagged (same ▸ named)
    · exact unknown m member (same ▸ List.mem_cons_self)
  have tagAlone : (reworded.filter fun m => m.1 == tag).Perm [(tag, .string name)] :=
    filter_perm (· == tag) order (by simp) fun m member => by simpa using behind m member
  have others : (reworded.filter fun m => m.1 != tag).Perm (kept ++ extras) :=
    filter_perm (· != tag) (order.trans (List.perm_append_comm : ([_] ++ (kept ++ extras)).Perm _))
      (fun m member => by simpa using behind m member) (by simp)
  have once : repeats (· == tag) reworded = false := repeats_eq_false _ (by
    rw [List.perm_singleton.mp tagAlone]
    exact List.pairwise_singleton _ tag)
  have found : lookup tag reworded = some (.string name) := by
    rw [← lookup_filter (· == tag) (beq_self_eq_true tag), List.perm_singleton.mp tagAlone]
    exact if_pos rfl
  have still : areReadableMembers (reworded.filter fun m => m.1 != tag) = true := by
    refine areReadableMembers_iff.mpr fun m member => ?_
    rcases List.mem_append.mp (others.mem_iff.mp member) with member | member
    · exact areReadableMembers_iff.mp (tail.readable distinct readable) m member
    · exact areReadableMembers_iff.mp (takes rfl) m member
  refine ⟨.object (reworded.filter fun m => m.1 != tag), ?_, .record tail ?_ takes others⟩
  · simp only [Json.tagged?, once, required?, found, still]
    rfl
  · exact fun m member => mt (List.mem_cons_of_mem tag) (unknown m member)

/-! ### Members as they are written -/

theorem RewordedFields.same : ∀ members : List (String × Json),
    RewordedFields (Shape.freely (keys members)) members members
  | [] => .nil
  | (name, v) :: r => .cons name (.free (.same v)) (RewordedFields.same r)

/-- An object with its members in another order and with more of them. -/
theorem Reworded.of_perm {whole : Bool} {members extras reworded : List (String × Json)}
    (unknown : ∀ m ∈ extras, m.1 ∉ keys members) (readable : whole = true → areReadableMembers extras = true)
    (order : reworded.Perm (members ++ extras)) :
    Reworded (.ofObject whole (.object members)) (.object members) (.object reworded) := by
  refine .record (RewordedFields.same members) (fun m member => ?_) readable order
  rw [keys_freely]
  exact unknown m member

theorem RewordedFields.same_record (whole : Bool) {fields : List (String × Shape)} {members : List (String × Json)}
    (same : RewordedFields fields members members) :
    Reworded (.record whole fields) (.object members) (.object members) :=
  have none : ∀ m ∈ ([] : List (String × Json)), m.1 ∉ fields.map Prod.fst := nofun
  .record same none (fun _ => rfl) (by simp)

theorem Reworded.same_object (whole : Bool) (members : List (String × Json)) :
    Reworded (.ofObject whole (.object members)) (.object members) (.object members) :=
  (RewordedFields.same members).same_record whole

end TorrentAdmission.Json
