import TorrentAdmission.Proofs.Json.Recognition

/-!
# Records in texts

What a record states, and what a reader that refuses unknown names makes of it: `fields?_iff`. It takes the record
if and only if every value in it goes to a field, and no two values go to the same.
-/

namespace TorrentAdmission.Json

/-- A record that states these fields: an object with keys among the names, none of them twice, or an array of
values for the first of the names, in their order. -/
inductive IsRecord (names : List String) (stated : String → Option Json) : Json → Prop where
  | object {members : List (String × Json)} (known : ∀ m ∈ members, m.1 ∈ names) (once : (keys members).Nodup)
      (fields : ∀ name v, stated name = some v ↔ (name, v) ∈ members) : IsRecord names stated (.object members)
  | array {items : List Json} (few : items.length ≤ names.length)
      (fields : ∀ name v, stated name = some v ↔ ∃ i : Nat, names[i]? = some name ∧ items[i]? = some v) :
      IsRecord names stated (.array items)

/-- What is stated for a field is one of these values, and a field that is not stated has its default. -/
inductive IsField {α : Type} (P : α → Json → Prop) (default : α) : Option Json → α → Prop where
  | stated {a : α} {v : Json} (value : P a v) : IsField P default (some v) a
  | omitted : IsField P default none default

/-- The value is a part of some text. -/
def Stands (v : Json) : Prop := ∃ n s, IsValue n v s

variable {names : List String} {stated : String → Option Json} {v w : Json} {name : String}
  {members fields : List (String × Json)}

/-! ### Fields by name -/

theorem lookup_eq_some_iff (distinct : (keys members).Nodup) : lookup name members = some v ↔ (name, v) ∈ members := by
  refine ⟨fun found => ?_, lookup_of_mem distinct⟩
  induction members with
  | nil => cases found
  | cons m r ih =>
    rw [lookup] at found
    split at found
    · rename_i same
      cases found
      exact same ▸ List.mem_cons_self
    · exact List.mem_cons_of_mem _ (ih (List.nodup_cons.mp distinct).2 found)

/-- Fields that are stated by name are those that are found by name. -/
theorem stated_eq_lookup (distinct : (keys fields).Nodup) (same : ∀ name v, stated name = some v ↔ (name, v) ∈ fields) :
    stated = fun name => lookup name fields := by
  funext name
  exact Option.ext fun v => (same name v).trans (lookup_eq_some_iff distinct).symm

theorem nodup_of_repeats (counts : String → Bool) (once : repeats counts members = false) :
    (keys (members.filter fun m => counts m.1)).Nodup := by
  induction members with
  | nil => exact List.nodup_nil
  | cons m r ih =>
    obtain ⟨alone, others⟩ := Bool.or_eq_false_iff.mp once
    cases counted : counts m.1 with
    | false => rw [List.filter_cons, counted]; exact ih others
    | true =>
      rw [List.filter_cons, counted]
      refine List.nodup_cons.mpr ⟨fun again => ?_, ih others⟩
      rw [counted, Bool.true_and] at alone
      exact Bool.eq_false_iff.mp alone ((any_key_filter counts counted r).mpr again)

theorem fields?_object : (Json.object members).fields? .refuse names = some fields ↔
    (∀ m ∈ members, m.1 ∈ names) ∧ (keys members).Nodup ∧ fields = members := by
  have all (known : ∀ m ∈ members, m.1 ∈ names) : (members.filter fun m => names.contains m.1) = members :=
    List.filter_eq_self.mpr fun m member => List.contains_iff_mem.mpr (known m member)
  have unknown : (members.any fun m => !names.contains m.1) = true ↔ ¬ ∀ m ∈ members, m.1 ∈ names := by simp
  constructor
  · intro read
    rw [fields?] at read
    split at read
    · cases read
    · rename_i once
      split at read
      · cases read
      · rename_i refused
        have known : ∀ m ∈ members, m.1 ∈ names :=
          Classical.not_not.mp fun some => refused ⟨rfl, unknown.mpr some⟩
        have distinct := nodup_of_repeats names.contains (Bool.eq_false_iff.mpr once)
        rw [all known] at distinct read
        exact ⟨known, distinct, (Option.some.inj read).symm⟩
  · rintro ⟨known, distinct, rfl⟩
    have once : repeats names.contains fields = false := repeats_eq_false _ (by rwa [all known])
    rw [fields?, if_neg (Bool.eq_false_iff.mp once), if_neg fun refused => unknown.mp refused.2 known, all known]

/-- The names get the items in their order. -/
theorem mem_zip_iff {items : List Json} :
    (name, v) ∈ names.zip items ↔ ∃ i : Nat, names[i]? = some name ∧ items[i]? = some v := by
  rw [List.mem_iff_getElem?]
  exact exists_congr fun i => List.getElem?_zip_eq_some

theorem keys_zip (names : List String) (items : List Json) : (keys (names.zip items)).Sublist names := by
  induction names generalizing items with
  | nil => exact .slnil
  | cons name r ih =>
    cases items with
    | nil => exact List.nil_sublist _
    | cons v items => exact (ih items).cons_cons name

/-- A reader that refuses unknown names takes a record for what it states. -/
theorem fields?_iff (distinct : names.Nodup) :
    (∃ fields, v.fields? .refuse names = some fields ∧ stated = fun name => lookup name fields) ↔
      IsRecord names stated v := by
  have once (items : List Json) : (keys (names.zip items)).Nodup := (keys_zip names items).nodup distinct
  constructor
  · rintro ⟨fields, read, rfl⟩
    match v with
    | .object members =>
      obtain ⟨known, once, rfl⟩ := fields?_object.mp read
      exact .object known once fun name v => lookup_eq_some_iff once
    | .array items =>
      obtain ⟨few, same⟩ := Option.ite_none_left_eq_some.mp read
      cases same
      exact .array (Nat.le_of_not_lt few) fun name v => (lookup_eq_some_iff (once items)).trans mem_zip_iff
  · intro record
    cases record with
    | object known once fields => exact ⟨_, fields?_object.mpr ⟨known, once, rfl⟩, stated_eq_lookup once fields⟩
    | @array items few fields =>
      refine ⟨names.zip items, if_neg (Nat.not_lt_of_le few), stated_eq_lookup (once items) fun name v => ?_⟩
      exact (fields name v).trans mem_zip_iff.symm

/-! ### Values of fields -/

section
variable {α : Type} {P Q : α → Json → Prop} {default a : α} {o : Option Json}

theorem orDefault?_eq_some_iff {read : Json → Option α} : orDefault? read default name fields = some a ↔
    IsField (fun a v => read v = some a) default (lookup name fields) a := by
  rw [orDefault?]
  cases lookup name fields with
  | some v =>
    refine ⟨fun read => .stated read, fun field => ?_⟩
    obtain ⟨value⟩ := field
    exact value
  | none =>
    refine ⟨fun same => Option.some.inj same ▸ .omitted, fun field => ?_⟩
    obtain ⟨⟩ := field
    rfl

theorem isField_congr (same : ∀ v a, o = some v → (P a v ↔ Q a v)) : IsField P default o a ↔ IsField Q default o a := by
  constructor
  · intro field
    cases field with
    | stated value => exact .stated ((same _ _ rfl).mp value)
    | omitted => exact .omitted
  · intro field
    cases field with
    | stated value => exact .stated ((same _ _ rfl).mpr value)
    | omitted => exact .omitted

theorem IsField.value {v : Json} (field : IsField P default o a) (found : o = some v) : P a v := by
  subst found
  cases field with
  | stated value => exact value

end

namespace IsRecord

variable (record : IsRecord names stated v)

include record

theorem mem_names (found : stated name = some w) : name ∈ names := by
  cases record with
  | object known _ fields => exact known _ ((fields name w).mp found)
  | array _ fields =>
    obtain ⟨i, named, -⟩ := (fields name w).mp found
    exact List.mem_of_getElem? named

/-- A record is readable if what it states is. -/
theorem isReadable (readable : ∀ name w, stated name = some w → w.isReadable = true) : v.isReadable = true := by
  cases record with
  | object _ _ fields =>
    exact areReadableMembers_iff.mpr fun m member => readable m.1 m.2 ((fields m.1 m.2).mpr member)
  | array few fields =>
    refine areReadable_iff.mpr fun w member => ?_
    obtain ⟨i, found⟩ := List.mem_iff_getElem?.mp member
    have below : i < names.length := Nat.lt_of_lt_of_le (List.getElem?_eq_some_iff.mp found).1 few
    exact readable _ w ((fields names[i] w).mpr ⟨i, List.getElem?_eq_getElem below, found⟩)

theorem stands (whole : Stands v) (found : stated name = some w) : Stands w := by
  obtain ⟨n, s, value⟩ := whole
  cases record with
  | object _ _ fields => exact value.of_member _ ((fields name w).mp found)
  | array _ fields =>
    obtain ⟨i, -, item⟩ := (fields name w).mp found
    exact value.of_item w (List.mem_of_getElem? item)

/-- Fields of a record that stands in a text may be judged by what holds of such values. -/
theorem field_iff {α : Type} {P Q : α → Json → Prop} {default a : α} (whole : Stands v)
    (same : ∀ {w a}, Stands w → (P a w ↔ Q a w)) :
    IsField P default (stated name) a ↔ IsField Q default (stated name) a :=
  isField_congr fun _ _ found => same (record.stands whole found)

end IsRecord

/-! ### Single values -/

/-- A whole number that fits a 64-bit word. -/
def IsWord (n : Nat) (v : Json) : Prop := v = .number (.int n) ∧ n ≤ Text.Decimal.wordMax

def IsString (s : String) (v : Json) : Prop := v = .string s

theorem word?_eq_some_iff {n : Nat} (stands : Stands v) : word? v = some n ↔ IsWord n v := by
  constructor
  · intro read
    match v with
    | .number (.int (.ofNat m)) =>
      cases read
      obtain ⟨_, _, value⟩ := stands
      exact ⟨rfl, Int.ofNat_le.mp (of_decide_eq_true value.numeral.fitsWord).2⟩
  · rintro ⟨rfl, -⟩
    rfl

theorem isReadable_of_word? {n : Nat} (read : word? v = some n) : v.isReadable = true := by
  match v with
  | .number _ => rfl

theorem text?_eq_some_iff {s : String} : text? v = some s ↔ IsString s v := by
  constructor
  · intro read
    match v with
    | .string t =>
      cases read
      rfl
  · rintro rfl
    rfl

end TorrentAdmission.Json
