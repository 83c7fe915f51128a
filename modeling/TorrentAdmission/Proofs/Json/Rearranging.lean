import TorrentAdmission.Json.Canonical

/-!
# Objects with their members in another order

As a finite map an object does not depend on the order in which its members stand, if no two of them have
the same key. `Rearranged.keeps` says so of all objects in a value at once.
-/

namespace TorrentAdmission.Json

mutual

/-- The second value is the first one with the members of its objects in another order. -/
inductive Rearranged : Json → Json → Prop where
  | same (v : Json) : Rearranged v v
  | array {a b : List Json} (items : RearrangedItems a b) : Rearranged (.array a) (.array b)
  | object {a b : List (String × Json)} (members : RearrangedMembers a b) : Rearranged (.object a) (.object b)

inductive RearrangedItems : List Json → List Json → Prop where
  | nil : RearrangedItems [] []
  | cons {v w : Json} {a b : List Json} (head : Rearranged v w) (tail : RearrangedItems a b) :
      RearrangedItems (v :: a) (w :: b)

/-- Neighbours change places any number of times, and the values of members are rearranged in themselves. -/
inductive RearrangedMembers : List (String × Json) → List (String × Json) → Prop where
  | nil : RearrangedMembers [] []
  | cons (k : String) {v w : Json} {a b : List (String × Json)} (head : Rearranged v w)
      (tail : RearrangedMembers a b) : RearrangedMembers ((k, v) :: a) ((k, w) :: b)
  | swap (m n : String × Json) (a : List (String × Json)) : RearrangedMembers (m :: n :: a) (n :: m :: a)
  | trans {a b c : List (String × Json)} (first : RearrangedMembers a b) (second : RearrangedMembers b c) :
      RearrangedMembers a c

end

/-! ### Keys -/

def keys (members : List (String × Json)) : List String := members.map Prod.fst

mutual

/-- In no object of the value do two members have the same key. -/
def HasDistinctKeys : Json → Prop
  | .array items => HaveDistinctKeys items
  | .object members => (keys members).Nodup ∧ ValuesHaveDistinctKeys members
  | _ => True

def HaveDistinctKeys : List Json → Prop
  | [] => True
  | v :: r => HasDistinctKeys v ∧ HaveDistinctKeys r

def ValuesHaveDistinctKeys : List (String × Json) → Prop
  | [] => True
  | (_, v) :: r => HasDistinctKeys v ∧ ValuesHaveDistinctKeys r

end

theorem Ascending.nodup_keys {members : List (String × Json)} (ascending : Ascending members) :
    (keys members).Nodup :=
  List.pairwise_map.mpr (List.Pairwise.imp (fun before => String.ne_of_lt before) ascending)

mutual

theorem hasDistinctKeys_of_normal : ∀ {v : Json}, normal v = v → HasDistinctKeys v
  | .null, _ => trivial
  | .bool _, _ => trivial
  | .number _, _ => trivial
  | .string _, _ => trivial
  | .unreadable, _ => trivial
  | .array _, same => haveDistinctKeys_of_normal (Json.array.inj same)
  | .object members, same => by
    have map : IsMap (normalMembers [] members) := IsMap.nil.normalMembers members
    rw [Json.object.inj same] at map
    exact ⟨map.1.nodup_keys, valuesHaveDistinctKeys_of_normal map.2⟩

theorem haveDistinctKeys_of_normal : ∀ {items : List Json}, normalItems items = items → HaveDistinctKeys items
  | [], _ => trivial
  | _ :: _, same =>
    have parts := List.cons.inj same
    ⟨hasDistinctKeys_of_normal parts.1, haveDistinctKeys_of_normal parts.2⟩

theorem valuesHaveDistinctKeys_of_normal : ∀ {members : List (String × Json)},
    (∀ m ∈ members, normal m.2 = m.2) → ValuesHaveDistinctKeys members
  | [], _ => trivial
  | m :: _, same =>
    ⟨hasDistinctKeys_of_normal (same m List.mem_cons_self),
      valuesHaveDistinctKeys_of_normal fun n member => same n (List.mem_cons_of_mem _ member)⟩

end

/-! ### Maps up to order -/

def normalMember (m : String × Json) : String × Json := (m.1, normal m.2)

theorem keys_normal (members : List (String × Json)) : keys (members.map normalMember) = keys members := by
  rw [keys, List.map_map]
  rfl

theorem insert_perm {key : String} (value : Json) {members : List (String × Json)} (fresh : key ∉ keys members) :
    (insert key value members).Perm ((key, value) :: members) := by
  induction members with
  | nil => exact .refl _
  | cons m r ih =>
    obtain ⟨other, behind⟩ := not_or.mp (mt List.mem_cons.mpr fresh)
    rw [insert, if_neg (Ne.symm other)]
    split
    · exact .refl _
    · exact ((ih behind).cons m).trans (.swap ..)

/-- Members with distinct keys are all in the map that they denote. -/
theorem normalMembers_perm (members : List (String × Json)) {map : List (String × Json)}
    (distinct : (keys (map ++ members)).Nodup) : (normalMembers map members).Perm (map ++ members.map normalMember) := by
  induction members generalizing map with
  | nil => simp [normalMembers]
  | cons m r ih =>
    have moved : (keys (m :: map ++ r)).Nodup := (List.perm_middle.map Prod.fst).nodup_iff.mp distinct
    have fresh : m.1 ∉ keys map := fun member =>
      (List.nodup_cons.mp moved).1 (List.mem_map.mpr (by
        obtain ⟨n, there, same⟩ := List.mem_map.mp member
        exact ⟨n, List.mem_append_left _ there, same⟩))
    have inserted := insert_perm (normal m.2) fresh
    have still : (keys (insert m.1 (normal m.2) map ++ r)).Nodup :=
      ((inserted.append_right r).map Prod.fst).nodup_iff.mpr moved
    exact (ih still).trans ((inserted.append_right _).trans List.perm_middle.symm)

theorem Ascending.eq_of_perm {a b : List (String × Json)} (left : Ascending a) (right : Ascending b)
    (perm : a.Perm b) : a = b :=
  perm.eq_of_pairwise (fun _ _ _ _ before behind => absurd before (String.lt_asymm behind)) left right

section
variable {a b : List (String × Json)} (distinct : (keys a).Nodup)
  (perm : (a.map normalMember).Perm (b.map normalMember))

include distinct perm

theorem nodup_keys_of_perm : (keys b).Nodup := by
  rw [← keys_normal] at distinct ⊢
  exact (perm.map Prod.fst).nodup_iff.mp distinct

theorem normalMembers_of_perm : normalMembers [] b = normalMembers [] a := by
  have before : (normalMembers [] a).Perm (a.map normalMember) := normalMembers_perm a distinct
  have after : (normalMembers [] b).Perm (b.map normalMember) :=
    normalMembers_perm b (nodup_keys_of_perm distinct perm)
  refine Ascending.eq_of_perm (IsMap.nil.normalMembers b).1 (IsMap.nil.normalMembers a).1 ?_
  exact after.trans (perm.symm.trans before.symm)

end

/-! ### What a rearrangement keeps -/

mutual

/-- What a value denotes does not depend on the order in which the members of its objects stand. -/
theorem Rearranged.keeps : ∀ {v w : Json}, Rearranged v w → HasDistinctKeys v →
    normal w = normal v ∧ HasDistinctKeys w ∧ w.isReadable = v.isReadable
  | _, _, .same _, distinct => ⟨rfl, distinct, rfl⟩
  | _, _, .array items, distinct => by
    obtain ⟨denotes, still, readable⟩ := items.keeps distinct
    exact ⟨congrArg Json.array denotes, still, readable⟩
  | _, _, .object members, distinct => by
    obtain ⟨perm, values, readable⟩ := members.keeps distinct.2
    exact ⟨congrArg Json.object (normalMembers_of_perm distinct.1 perm),
      ⟨nodup_keys_of_perm distinct.1 perm, values⟩, readable⟩

theorem RearrangedItems.keeps : ∀ {a b : List Json}, RearrangedItems a b → HaveDistinctKeys a →
    normalItems b = normalItems a ∧ HaveDistinctKeys b ∧ areReadable b = areReadable a
  | _, _, .nil, _ => ⟨rfl, trivial, rfl⟩
  | _, _, .cons head tail, distinct => by
    obtain ⟨denotes, still, readable⟩ := head.keeps distinct.1
    obtain ⟨denote, also, others⟩ := tail.keeps distinct.2
    refine ⟨?_, ⟨still, also⟩, ?_⟩
    · rw [normalItems, normalItems, denotes, denote]
    · rw [areReadable, areReadable, readable, others]

theorem RearrangedMembers.keeps : ∀ {a b : List (String × Json)}, RearrangedMembers a b →
    ValuesHaveDistinctKeys a → (a.map normalMember).Perm (b.map normalMember) ∧ ValuesHaveDistinctKeys b ∧
      areReadableMembers b = areReadableMembers a
  | _, _, .nil, _ => ⟨.refl _, trivial, rfl⟩
  | _, _, .cons k head tail, distinct => by
    obtain ⟨denotes, still, readable⟩ := head.keeps distinct.1
    obtain ⟨perm, also, others⟩ := tail.keeps distinct.2
    refine ⟨?_, ⟨still, also⟩, ?_⟩
    · rw [List.map_cons, List.map_cons, normalMember, normalMember, denotes]
      exact perm.cons _
    · rw [areReadableMembers, areReadableMembers, readable, others]
  | _, _, .swap m n r, distinct =>
    ⟨.swap .., ⟨distinct.2.1, distinct.1, distinct.2.2⟩, Bool.and_left_comm ..⟩
  | _, _, .trans first second, distinct => by
    obtain ⟨perm, between, readable⟩ := first.keeps distinct
    obtain ⟨perm', still, readable'⟩ := second.keeps between
    exact ⟨perm.trans perm', still, readable'.trans readable⟩

end

end TorrentAdmission.Json
