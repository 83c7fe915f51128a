import TorrentAdmission.Json.Basic

/-!
# Objects as finite maps

Read as a map, an object has every key once: the last of several members with one key counts, and
members are kept in ascending order of their keys. `normal` brings a value into this form.
-/

namespace TorrentAdmission.Json

def insert (key : String) (value : Json) : List (String × Json) → List (String × Json)
  | [] => [(key, value)]
  | (k, v) :: r =>
    if k = key then (key, value) :: r
    else if key < k then (key, value) :: (k, v) :: r
    else (k, v) :: insert key value r

mutual

/-- The value with the members of every object in it as a map. -/
def normal : Json → Json
  | .array items => .array (normalItems items)
  | .object members => .object (normalMembers [] members)
  | v => v

def normalItems : List Json → List Json
  | [] => []
  | v :: r => normal v :: normalItems r

/-- Adds members one by one to the map read so far. -/
def normalMembers (map : List (String × Json)) : List (String × Json) → List (String × Json)
  | [] => map
  | (k, v) :: r => normalMembers (insert k (normal v) map) r

end

def Ascending (members : List (String × Json)) : Prop :=
  members.Pairwise fun a b => a.1 < b.1

theorem lookup_insert_self (key : String) (value : Json) (members : List (String × Json)) :
    lookup key (insert key value members) = some value := by
  induction members with
  | nil => simp [insert, lookup]
  | cons m r ih =>
    obtain ⟨k, v⟩ := m
    by_cases h : k = key
    · simp [insert, lookup, h]
    · by_cases hl : key < k
      · simp [insert, lookup, h, hl]
      · simp [insert, lookup, h, hl, ih]

theorem lookup_insert_of_ne {key other : String} (value : Json) (members : List (String × Json))
    (h : other ≠ key) : lookup other (insert key value members) = lookup other members := by
  induction members with
  | nil => simp [insert, lookup, Ne.symm h]
  | cons m r ih =>
    obtain ⟨k, v⟩ := m
    by_cases hk : k = key
    · simp [insert, lookup, hk, Ne.symm h]
    · by_cases hl : key < k
      · simp [insert, lookup, hk, hl, Ne.symm h]
      · simp [insert, lookup, hk, hl, ih]

theorem mem_insert {key : String} {value : Json} {members : List (String × Json)}
    {m : String × Json} (h : m ∈ insert key value members) : m = (key, value) ∨ m ∈ members := by
  induction members with
  | nil => simpa [insert] using h
  | cons n r ih =>
    obtain ⟨k, v⟩ := n
    by_cases hk : k = key
    · simp only [insert, hk, if_true, List.mem_cons] at h ⊢
      exact h.imp_right .inr
    · by_cases hl : key < k
      · simpa [insert, hk, hl] using h
      · simp only [insert, hk, hl, if_false, List.mem_cons] at h ⊢
        rcases h with h | h
        · exact .inr (.inl h)
        · exact (ih h).imp_right .inr

theorem Ascending.insert {members : List (String × Json)} (h : Ascending members) (key : String)
    (value : Json) : Ascending (insert key value members) := by
  unfold Ascending at *
  induction members with
  | nil => simp [Json.insert]
  | cons n r ih =>
    obtain ⟨k, v⟩ := n
    rw [List.pairwise_cons] at h
    by_cases hk : k = key
    · subst hk
      simpa [Json.insert] using h
    · by_cases hl : key < k
      · simp only [Json.insert, hk, hl, if_true, if_false, List.pairwise_cons]
        refine ⟨fun m hm => ?_, h⟩
        rcases List.mem_cons.1 hm with rfl | hm
        · exact hl
        · exact String.lt_trans hl (h.1 m hm)
      · simp only [Json.insert, hk, hl, if_false, List.pairwise_cons]
        refine ⟨fun m hm => ?_, ih h.2⟩
        rcases mem_insert hm with rfl | hm
        · exact Std.lt_of_le_of_ne (String.not_lt.1 hl) hk
        · exact h.1 m hm

theorem insert_of_lt {key : String} {value : Json} {members : List (String × Json)}
    (h : ∀ m ∈ members, m.1 < key) : insert key value members = members ++ [(key, value)] := by
  induction members with
  | nil => rfl
  | cons n r ih =>
    obtain ⟨k, v⟩ := n
    have hk : k < key := h (k, v) (by simp)
    have hne : k ≠ key := fun e => String.lt_irrefl key (by rwa [e] at hk)
    simp [insert, hne, String.lt_asymm hk, ih fun m hm => h m (by simp [hm])]

/-- Members that form a map already are added as they stand. -/
theorem normalMembers_of_ascending {members : List (String × Json)} :
    ∀ {map : List (String × Json)}, Ascending (map ++ members) →
      (∀ m ∈ members, normal m.2 = m.2) → normalMembers map members = map ++ members := by
  induction members with
  | nil => intro map _ _; simp [normalMembers]
  | cons n r ih =>
    obtain ⟨k, v⟩ := n
    intro map hasc hnorm
    have hv : normal v = v := hnorm (k, v) (by simp)
    have hlt : ∀ m ∈ map, m.1 < k := fun m hm =>
      (List.pairwise_append.1 hasc).2.2 m hm (k, v) (by simp)
    rw [normalMembers, hv, insert_of_lt hlt, ih (by simpa using hasc) fun m hm => hnorm m (by simp [hm])]
    simp

def IsMap (members : List (String × Json)) : Prop :=
  Ascending members ∧ ∀ m ∈ members, normal m.2 = m.2

theorem IsMap.nil : IsMap [] := ⟨List.Pairwise.nil, by simp⟩

theorem IsMap.insert {members : List (String × Json)} (h : IsMap members) (key : String) {value : Json}
    (hv : normal value = value) : IsMap (Json.insert key value members) := by
  refine ⟨h.1.insert key value, fun m hm => ?_⟩
  rcases mem_insert hm with rfl | hm
  · exact hv
  · exact h.2 m hm

mutual

theorem normal_normal : ∀ v : Json, normal (normal v) = normal v
  | .array items => by simp [normal, normalItems_normalItems items]
  | .object members => by
    have h := IsMap.normalMembers members IsMap.nil
    have same : Json.normalMembers [] (Json.normalMembers [] members) = [] ++ Json.normalMembers [] members :=
      normalMembers_of_ascending (by simpa using h.1) h.2
    simp [normal, same]
  | .null => rfl
  | .bool _ => rfl
  | .number _ => rfl
  | .string _ => rfl
  | .unreadable => rfl

theorem normalItems_normalItems : ∀ items : List Json,
    normalItems (normalItems items) = normalItems items
  | [] => rfl
  | v :: r => by simp [normalItems, normal_normal v, normalItems_normalItems r]

theorem IsMap.normalMembers : ∀ (members : List (String × Json)) {map : List (String × Json)},
    IsMap map → IsMap (Json.normalMembers map members)
  | [], _, h => h
  | (k, v) :: r, _, h => IsMap.normalMembers r (h.insert k (normal_normal v))

end

end TorrentAdmission.Json
