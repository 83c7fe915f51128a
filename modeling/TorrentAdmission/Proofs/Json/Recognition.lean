import TorrentAdmission.Proofs.Json.Text

/-!
# Values read

A text is read as a readable value if and only if it stands for that value in the grammar:
`parse?_eq_some_iff`. Both directions are by induction on the levels of arrays and objects. Inside one level, what
stands between brackets is taken part by part.
-/

namespace TorrentAdmission.Json

variable {n fuel : Nat} {s t rest : List Char} {v : Json}

/-! ### Single steps of the reader -/

theorem readValue_skipSpace (fuel room : Nat) (s : List Char) :
    readValue fuel room (skipSpace s) = readValue fuel room s := by
  cases fuel with
  | zero => rfl
  | succ fuel => rw [readValue, readValue, skipSpace_skipSpace]

theorem readItems_skipSpace (fuel room : Nat) (s : List Char) :
    readItems fuel room (skipSpace s) = readItems fuel room s := by
  cases fuel with
  | zero => rfl
  | succ fuel => rw [readItems, readItems, readValue_skipSpace]

theorem readMembers_skipSpace (fuel room : Nat) (s : List Char) :
    readMembers fuel room (skipSpace s) = readMembers fuel room s := by
  cases fuel with
  | zero => rfl
  | succ fuel => rw [readMembers, readMembers, skipSpace_skipSpace]

theorem readValue_numeral (fuel room : Nat) {c : Char} (r : List Char) (begins : c = '-' ∨ Text.isAsciiDigit c = true) :
    readValue (fuel + 1) room (c :: r) = numeral? (c :: r) := by
  have printed : isSpace c = false := by
    rcases begins with rfl | digit
    · rfl
    · exact (begins_of_digit digit).1
  rw [readValue, skipSpace_cons printed]
  split
  all_goals first
    | rfl
    | rename_i same
      obtain rfl := (List.cons.inj same).1
      rcases begins with minus | digit
      · cases minus
      · cases digit

theorem readValue_bracket (fuel room : Nat) (r : List Char) : readValue (fuel + 1) room ('[' :: r) =
    match skipSpace r with
    | ']' :: r => some (nested room (.array []), r)
    | r => (readItems fuel (room - 1) r).map fun t => (nested room (.array t.1), t.2) := rfl

theorem readValue_items (fuel room : Nat) {s r : List Char} {c : Char} (start : skipSpace s = c :: r)
    (begins : BeginsValue c) : readValue (fuel + 1) room ('[' :: s) =
      (readItems fuel (room - 1) s).map fun t => (nested room (.array t.1), t.2) := by
  rw [readValue_bracket, ← readItems_skipSpace, start]
  split
  · rename_i same
    exact absurd (List.cons.inj same).1 begins.2.1
  · rfl

theorem readValue_brace (fuel room : Nat) (r : List Char) : readValue (fuel + 1) room ('\x7b' :: r) =
    match skipSpace r with
    | '\x7d' :: r => some (nested room (.object []), r)
    | r => (readMembers fuel (room - 1) r).map fun t =>
        (t.1.elim .unreadable fun members => nested room (.object members), t.2) := rfl

theorem readValue_members (fuel room : Nat) {s r : List Char} {c : Char} (start : skipSpace s = c :: r)
    (begins : BeginsValue c) : readValue (fuel + 1) room ('\x7b' :: s) =
      (readMembers fuel (room - 1) s).map fun t =>
        (t.1.elim .unreadable fun members => nested room (.object members), t.2) := by
  rw [readValue_brace, ← readMembers_skipSpace, start]
  split
  · rename_i same
    exact absurd (List.cons.inj same).1 begins.2.2
  · rfl

theorem readMembers_quote (fuel room : Nat) (r : List Char) : readMembers (fuel + 1) room ('"' :: r) = (do
    let (key, r) ← literal? r
    match skipSpace r with
    | ':' :: r =>
      let (value, r) ← readValue fuel room r
      match skipSpace r with
      | '\x7d' :: r => return (key.map fun k => [(k, value)], r)
      | ',' :: r =>
        let (members, r) ← readMembers fuel room r
        return (key.bind fun k => members.map ((k, value) :: ·), r)
      | _ => none
    | _ => none) := rfl

theorem nested_of_pos {room : Nat} (positive : 0 < room) (v : Json) : nested room v = v :=
  if_neg (Nat.ne_of_gt positive)

/-! ### What is read is in the grammar -/

/-- With so many levels left, what is read and is readable stands in the text. -/
def ReadsOnlyValues (n : Nat) : Prop :=
  ∀ {fuel : Nat} {s rest : List Char} {v : Json}, readValue fuel n s = some (v, rest) → v.isReadable = true →
    ∃ t, Padded (IsValue n v) t ∧ s = t ++ rest

theorem Padded.behind {P : List Char → Prop} (padded : Padded P s) (after : AreSpaces t) : Padded P (s ++ t) := by
  obtain ⟨before, part, spaces⟩ := padded
  rw [List.append_assoc]
  exact .intro before part (spaces.append after)

/-- A part stands behind white space. -/
theorem exists_padded {P : List Char → Prop} (part : P t) (start : skipSpace s = t ++ rest) :
    ∃ u, Padded P u ∧ s = u ++ rest := by
  obtain ⟨front, blank, whole⟩ := eq_append_skipSpace s
  refine ⟨front ++ t, (Padded.of_part part).front blank, ?_⟩
  rw [whole, start, List.append_assoc]

theorem padded_key {k : String} {r : List Char} (quote : skipSpace s = '"' :: r)
    (read : literal? r = some (some k, rest)) : ∃ t, Padded (IsLiteral k) t ∧ s = t ++ rest := by
  obtain ⟨body, chars, rfl⟩ := literal?_eq_some_iff.mp read
  refine exists_padded (.intro chars) (quote.trans ?_)
  rw [List.cons_append, List.append_assoc]
  rfl

/-- What is padded may be followed by more white space. -/
theorem Padded.upTo {P : List Char → Prop} {c : Char} (padded : Padded P s) (next : skipSpace t = c :: rest) :
    ∃ u, Padded P u ∧ s ++ t = u ++ c :: rest := by
  obtain ⟨spaces, blank, whole⟩ := eq_append_skipSpace t
  refine ⟨_, padded.behind blank, ?_⟩
  rw [whole, next, List.append_assoc]

section
variable (reads : ReadsOnlyValues n)

include reads

theorem listed_of_readItems {items : List Json} (read : readItems fuel n s = some (items, rest))
    (readable : areReadable items = true) :
    ∃ t, Listed (fun v => Padded (IsValue n v)) items t ∧ s = t ++ ']' :: rest := by
  induction fuel generalizing s items with
  | zero => cases read
  | succ fuel ih =>
    obtain ⟨⟨v, r⟩, first, next⟩ := Option.bind_eq_some_iff.mp read
    dsimp only at next
    split at next
    · rename_i closing
      cases next
      obtain ⟨t, value, rfl⟩ := reads first (Bool.and_eq_true_iff.mp readable).1
      obtain ⟨u, value, whole⟩ := value.upTo closing
      exact ⟨u, .one value, whole⟩
    · rename_i comma
      obtain ⟨⟨others, r⟩, behind, same⟩ := Option.bind_eq_some_iff.mp next
      cases same
      obtain ⟨head, tail⟩ := Bool.and_eq_true_iff.mp readable
      obtain ⟨t, value, rfl⟩ := reads first head
      obtain ⟨u, value, whole⟩ := value.upTo comma
      obtain ⟨w, listed, rfl⟩ := ih behind tail
      exact ⟨u ++ ',' :: w, .more value listed, by rw [whole, List.append_assoc]; rfl⟩
    · cases next

theorem exists_member {k : String} {c : Char} {r₀ r₁ r₂ r₃ : List Char} (quote : skipSpace s = '"' :: r₀)
    (keyRead : literal? r₀ = some (some k, r₁)) (colon : skipSpace r₁ = ':' :: r₂)
    (valueRead : readValue fuel n r₂ = some (v, r₃)) (readable : v.isReadable = true)
    (next : skipSpace r₃ = c :: rest) : ∃ t, IsMember (IsValue n) (k, v) t ∧ s = t ++ c :: rest := by
  obtain ⟨_, key, rfl⟩ := padded_key quote keyRead
  obtain ⟨t, key, front⟩ := key.upTo colon
  obtain ⟨_, value, rfl⟩ := reads valueRead readable
  obtain ⟨u, value, behind⟩ := value.upTo next
  exact ⟨t ++ ':' :: u, .intro key value, by rw [front, behind, List.append_assoc]; rfl⟩

theorem listed_of_readMembers {members : List (String × Json)}
    (read : readMembers fuel n s = some (some members, rest)) (readable : areReadableMembers members = true) :
    ∃ t, Listed (IsMember (IsValue n)) members t ∧ s = t ++ '\x7d' :: rest := by
  induction fuel generalizing s members with
  | zero => cases read
  | succ fuel ih =>
    rw [readMembers] at read
    split at read
    · rename_i quote
      obtain ⟨⟨key, r⟩, keyRead, read⟩ := Option.bind_eq_some_iff.mp read
      dsimp only at read
      split at read
      · rename_i colon
        obtain ⟨⟨v, r⟩, valueRead, next⟩ := Option.bind_eq_some_iff.mp read
        dsimp only at next
        split at next
        · rename_i closing
          obtain ⟨known, rfl⟩ := Prod.mk.inj (Option.some.inj next)
          obtain ⟨k, rfl, rfl⟩ := Option.map_eq_some_iff.mp known
          obtain ⟨t, member, rfl⟩ := exists_member reads quote keyRead colon valueRead
            (Bool.and_eq_true_iff.mp readable).1 closing
          exact ⟨t, .one member, rfl⟩
        · rename_i comma
          obtain ⟨⟨others, r⟩, othersRead, same⟩ := Option.bind_eq_some_iff.mp next
          obtain ⟨known, rfl⟩ := Prod.mk.inj (Option.some.inj same)
          obtain ⟨k, rfl, known⟩ := Option.bind_eq_some_iff.mp known
          obtain ⟨members, rfl, rfl⟩ := Option.map_eq_some_iff.mp known
          obtain ⟨head, tail⟩ := Bool.and_eq_true_iff.mp readable
          obtain ⟨t, member, rfl⟩ := exists_member reads quote keyRead colon valueRead head comma
          obtain ⟨u, listed, rfl⟩ := ih othersRead tail
          exact ⟨t ++ ',' :: u, .more member listed, by rw [List.append_assoc]; rfl⟩
        · cases next
      · cases read
    · cases read

end

theorem pos_of_nested {room : Nat} (readable : (nested room v).isReadable = true) : 0 < room := by
  cases room with
  | zero => cases readable
  | succ room => exact Nat.succ_pos room

theorem IsAtom.isValue (atom : IsAtom v s) : IsValue n v s := by
  cases n with
  | zero => exact atom
  | succ n => exact Or.inl atom

section
variable (below : ∀ {m : Nat}, n = m + 1 → ReadsOnlyValues m) (readable : v.isReadable = true)

include below readable

theorem value_of_bracket (read : readValue (fuel + 1) n ('[' :: s) = some (v, rest)) :
    ∃ t, IsValue n v t ∧ '[' :: s = t ++ rest := by
  rw [readValue_bracket] at read
  split at read
  · rename_i closing
    obtain ⟨rfl, rfl⟩ := Prod.mk.inj (Option.some.inj read)
    obtain ⟨m, rfl⟩ := Nat.exists_eq_add_one.mpr (pos_of_nested readable)
    obtain ⟨front, blank, whole⟩ := eq_append_skipSpace s
    refine ⟨_, Or.inr (.array (.empty blank)), ?_⟩
    rw [whole, closing, List.cons_append, List.append_assoc]
    rfl
  · rw [readItems_skipSpace] at read
    obtain ⟨⟨items, r⟩, found, same⟩ := Option.map_eq_some_iff.mp read
    obtain ⟨rfl, rfl⟩ := Prod.mk.inj same
    obtain ⟨m, rfl⟩ := Nat.exists_eq_add_one.mpr (pos_of_nested readable)
    obtain ⟨t, listed, rfl⟩ := listed_of_readItems (below rfl) found readable
    refine ⟨_, Or.inr (.array (.parts listed)), ?_⟩
    rw [List.cons_append, List.append_assoc]
    rfl

theorem value_of_brace (read : readValue (fuel + 1) n ('\x7b' :: s) = some (v, rest)) :
    ∃ t, IsValue n v t ∧ '\x7b' :: s = t ++ rest := by
  rw [readValue_brace] at read
  split at read
  · rename_i closing
    obtain ⟨rfl, rfl⟩ := Prod.mk.inj (Option.some.inj read)
    obtain ⟨m, rfl⟩ := Nat.exists_eq_add_one.mpr (pos_of_nested readable)
    obtain ⟨front, blank, whole⟩ := eq_append_skipSpace s
    refine ⟨_, Or.inr (.object (.empty blank)), ?_⟩
    rw [whole, closing, List.cons_append, List.append_assoc]
    rfl
  · rw [readMembers_skipSpace] at read
    obtain ⟨⟨known, r⟩, found, same⟩ := Option.map_eq_some_iff.mp read
    obtain ⟨rfl, rfl⟩ := Prod.mk.inj same
    cases known with
    | none => cases readable
    | some members =>
      obtain ⟨m, rfl⟩ := Nat.exists_eq_add_one.mpr (pos_of_nested readable)
      obtain ⟨t, listed, rfl⟩ := listed_of_readMembers (below rfl) found readable
      refine ⟨_, Or.inr (.object (.parts listed)), ?_⟩
      rw [List.cons_append, List.append_assoc]
      rfl

/-- Arrays and objects are read in terms of what has one level less. -/
theorem value_of_readValue (read : readValue (fuel + 1) n s = some (v, rest)) :
    ∃ t, IsValue n v t ∧ skipSpace s = t ++ rest := by
  have again := read
  rw [← readValue_skipSpace] at again
  rw [readValue] at read
  split at read
  · rename_i start
    cases read
    exact ⟨_, IsAtom.null.isValue, start⟩
  · rename_i start
    cases read
    exact ⟨_, IsAtom.yes.isValue, start⟩
  · rename_i start
    cases read
    exact ⟨_, IsAtom.no.isValue, start⟩
  · rename_i start
    obtain ⟨⟨known, r⟩, found, same⟩ := Option.map_eq_some_iff.mp read
    obtain ⟨rfl, rfl⟩ := Prod.mk.inj same
    cases known with
    | none => cases readable
    | some k =>
      obtain ⟨body, chars, rfl⟩ := literal?_eq_some_iff.mp found
      refine ⟨_, IsAtom.isValue (.string (.intro chars)), start.trans ?_⟩
      rw [List.cons_append, List.append_assoc]
      rfl
  · rename_i start
    rw [start] at again ⊢
    exact value_of_bracket below readable again
  · rename_i start
    rw [start] at again ⊢
    exact value_of_brace below readable again
  · obtain ⟨t, numeral, whole⟩ := numeral?_eq_some read
    obtain ⟨x, rfl⟩ := numeral.exists_number readable
    exact ⟨t, IsAtom.isValue (.number numeral), whole⟩

end

theorem readsOnlyValues (n : Nat) : ReadsOnlyValues n := by
  induction n with
  | zero =>
    intro fuel s rest v read readable
    cases fuel with
    | zero => cases read
    | succ fuel =>
      obtain ⟨t, value, start⟩ := value_of_readValue (fun same => absurd same (Nat.succ_ne_zero _).symm) readable read
      exact exists_padded value start
  | succ n ih =>
    intro fuel s rest v read readable
    cases fuel with
    | zero => cases read
    | succ fuel =>
      obtain ⟨t, value, start⟩ := value_of_readValue (fun same => Nat.succ.inj same ▸ ih) readable read
      exact exists_padded value start

/-! ### What is in the grammar is read -/

/-- With so many levels left, a value is read from its text if there is fuel for every character. -/
def ReadsAllValues (n : Nat) : Prop :=
  ∀ {fuel : Nat} {v : Json} {s rest : List Char}, IsValue n v s → s.length ≤ fuel → EndsNumeral rest →
    readValue fuel n (s ++ rest) = some (v, rest)

theorem AreSpaces.endsNumeral (spaces : AreSpaces s) (ends : EndsNumeral t) : EndsNumeral (s ++ t) := by
  cases s with
  | nil => exact ends
  | cons c r =>
    rintro c ⟨⟩
    have space := spaces c List.mem_cons_self
    simp only [isSpace, Bool.or_eq_true, beq_iff_eq] at space
    rcases space with ((rfl | rfl) | rfl) | rfl <;> decide

section
variable (reads : ReadsAllValues n)

include reads

theorem ReadsAllValues.padded (padded : Padded (IsValue n v) s) (enough : s.length ≤ fuel) (ends : EndsNumeral rest) :
    ∃ r, readValue fuel n (s ++ rest) = some (v, r) ∧ skipSpace r = skipSpace rest := by
  obtain ⟨before, value, after⟩ := padded
  rename_i front part behind
  have length : part.length ≤ fuel := by
    simp only [List.length_append] at enough
    omega
  refine ⟨behind ++ rest, ?_, after.skip rest⟩
  rw [List.append_assoc, List.append_assoc, ← readValue_skipSpace, before.skip, readValue_skipSpace]
  exact reads value length (after.endsNumeral ends)

theorem readItems_of_listed {items : List Json} (listed : Listed (fun v => Padded (IsValue n v)) items s)
    (enough : s.length < fuel) : readItems fuel n (s ++ ']' :: rest) = some (items, rest) := by
  induction listed generalizing fuel with
  | one value =>
    obtain ⟨fuel, rfl⟩ := Nat.exists_eq_add_one_of_ne_zero (Nat.ne_zero_of_lt enough)
    obtain ⟨r, read, next⟩ := reads.padded value (Nat.le_of_lt_succ enough) (endsNumeral_bracket rest)
    rw [skipSpace_cons rfl] at next
    rw [readItems, read]
    simp only [Option.bind_eq_bind, Option.bind_some, next]
    rfl
  | @more v r s t value _ ih =>
    obtain ⟨fuel, rfl⟩ := Nat.exists_eq_add_one_of_ne_zero (Nat.ne_zero_of_lt enough)
    have length : s.length ≤ fuel ∧ t.length < fuel := by
      rw [List.length_append, List.length_cons] at enough
      omega
    obtain ⟨u, read, next⟩ := reads.padded value length.1 (endsNumeral_comma (t ++ ']' :: rest))
    rw [skipSpace_cons rfl] at next
    rw [List.append_assoc, List.cons_append, readItems, read]
    simp only [Option.bind_eq_bind, Option.bind_some, next, ih length.2]
    rfl

theorem readMembers_of_member {m : String × Json} (member : IsMember (IsValue n) m s) (enough : s.length ≤ fuel)
    (ends : EndsNumeral rest) : readMembers (fuel + 1) n (s ++ rest) =
      match skipSpace rest with
      | '\x7d' :: r => some (some [m], r)
      | ',' :: r => (readMembers fuel n r).bind fun t => some (t.1.map (m :: ·), t.2)
      | _ => none := by
  obtain ⟨⟨before, ⟨chars⟩, after⟩, value⟩ := member
  rename_i k v t front behind body
  have length : t.length ≤ fuel := by
    simp only [List.length_append, List.length_cons] at enough
    omega
  obtain ⟨r, read, next⟩ := reads.padded value length ends
  have literal : literal? (body ++ '"' :: (behind ++ ':' :: (t ++ rest))) = some (some k, _) :=
    literal?_eq_some_iff.mpr ⟨body, chars, rfl⟩
  have colon : skipSpace (behind ++ ':' :: (t ++ rest)) = ':' :: (t ++ rest) :=
    (after.skip _).trans (skipSpace_cons rfl _)
  have whole : (front ++ '"' :: (body ++ ['"']) ++ behind ++ ':' :: t) ++ rest =
      front ++ '"' :: (body ++ '"' :: (behind ++ ':' :: (t ++ rest))) := by simp
  rw [whole, ← readMembers_skipSpace, before.skip, readMembers_skipSpace, readMembers_quote, literal]
  simp only [Option.bind_eq_bind, Option.bind_some, colon, read, next, Option.map_some]
  rfl

theorem readMembers_of_listed {members : List (String × Json)} (listed : Listed (IsMember (IsValue n)) members s)
    (enough : s.length < fuel) : readMembers fuel n (s ++ '\x7d' :: rest) = some (some members, rest) := by
  induction listed generalizing fuel with
  | one member =>
    obtain ⟨fuel, rfl⟩ := Nat.exists_eq_add_one_of_ne_zero (Nat.ne_zero_of_lt enough)
    rw [readMembers_of_member reads member (Nat.le_of_lt_succ enough) (endsNumeral_brace rest), skipSpace_cons rfl]
    rfl
  | @more m r s t member _ ih =>
    obtain ⟨fuel, rfl⟩ := Nat.exists_eq_add_one_of_ne_zero (Nat.ne_zero_of_lt enough)
    have length : s.length ≤ fuel ∧ t.length < fuel := by
      rw [List.length_append, List.length_cons] at enough
      omega
    rw [List.append_assoc, List.cons_append,
      readMembers_of_member reads member length.1 (endsNumeral_comma (t ++ '\x7d' :: rest)), skipSpace_cons rfl]
    simp only [ih length.2, Option.bind_some, Option.map_some]

end

theorem IsAtom.readValue (atom : IsAtom v s) (ends : EndsNumeral rest) (room : Nat) :
    readValue (fuel + 1) room (s ++ rest) = some (v, rest) := by
  cases atom with
  | null => rfl
  | yes => rfl
  | no => rfl
  | string literal =>
    obtain ⟨chars⟩ := literal
    rename_i k body
    have read : literal? (body ++ '"' :: rest) = some (some k, rest) := literal?_eq_some_iff.mpr ⟨body, chars, rfl⟩
    have whole : '"' :: (body ++ ['"']) ++ rest = '"' :: (body ++ '"' :: rest) := by simp
    have quote (r : List Char) : Json.readValue (fuel + 1) room ('"' :: r) =
      (literal? r).map fun t => (t.1.elim .unreadable .string, t.2) := rfl
    rw [whole, quote, read]
    rfl
  | number numeral =>
    obtain ⟨c, r, rfl, begins⟩ := numeral.begins
    rw [← numeral.numeral? ends]
    exact readValue_numeral fuel room (r ++ rest) begins

/-- The first part of a list is found behind white space. -/
theorem Listed.begins {α : Type} {P : α → List Char → Prop} {a : List α} (listed : Listed P a s)
    (begins : ∀ {a s}, P a s → ∀ rest, ∃ c r, skipSpace (s ++ rest) = c :: r ∧ BeginsValue c) (rest : List Char) :
    ∃ c r, skipSpace (s ++ rest) = c :: r ∧ BeginsValue c := by
  cases listed with
  | one part => exact begins part rest
  | more part =>
    rw [List.append_assoc]
    exact begins part _

theorem Padded.begins {P : List Char → Prop} (padded : Padded P s)
    (begins : ∀ {s}, P s → ∃ c r, s = c :: r ∧ BeginsValue c) (rest : List Char) :
    ∃ c r, skipSpace (s ++ rest) = c :: r ∧ BeginsValue c := by
  obtain ⟨before, part, -⟩ := padded
  obtain ⟨c, r, rfl, begin⟩ := begins part
  rw [List.append_assoc, List.append_assoc, before.skip]
  exact ⟨c, _, skipSpace_cons begin.1 _, begin⟩

theorem IsMember.begins {P : Json → List Char → Prop} {m : String × Json} (member : IsMember P m s)
    (rest : List Char) : ∃ c r, skipSpace (s ++ rest) = c :: r ∧ BeginsValue c := by
  obtain ⟨key, -⟩ := member
  rw [List.append_assoc]
  refine key.begins (fun literal => ?_) _
  obtain ⟨_⟩ := literal
  exact ⟨_, _, rfl, by decide⟩

theorem IsNest.readValue (reads : ReadsAllValues n) (nest : IsNest (IsValue n) v s) (enough : s.length ≤ fuel + 1) :
    readValue (fuel + 1) (n + 1) (s ++ rest) = some (v, rest) := by
  have room (v : Json) : nested (n + 1) v = v := nested_of_pos (Nat.succ_pos n) v
  cases nest with
  | array parts =>
    cases parts with
    | empty spaces =>
      rw [List.cons_append, List.append_assoc, readValue_bracket, spaces.skip]
      rfl
    | @parts _ s listed =>
      obtain ⟨c, r, start, begins⟩ := listed.begins (fun value => value.begins IsValue.begins) (']' :: rest)
      have length : s.length < fuel := by
        simp only [List.length_cons, List.length_append, List.length_nil] at enough
        omega
      rw [List.cons_append, List.append_assoc, List.singleton_append, readValue_items fuel (n + 1) start begins,
        Nat.add_sub_cancel, readItems_of_listed reads listed length, Option.map_some, room]
  | object parts =>
    cases parts with
    | empty spaces =>
      rw [List.cons_append, List.append_assoc, readValue_brace, spaces.skip]
      rfl
    | @parts _ s listed =>
      obtain ⟨c, r, start, begins⟩ := listed.begins IsMember.begins ('\x7d' :: rest)
      have length : s.length < fuel := by
        simp only [List.length_cons, List.length_append, List.length_nil] at enough
        omega
      rw [List.cons_append, List.append_assoc, List.singleton_append, readValue_members fuel (n + 1) start begins,
        Nat.add_sub_cancel, readMembers_of_listed reads listed length, Option.map_some, Option.elim_some, room]

theorem readsAllValues (n : Nat) : ReadsAllValues n := by
  induction n with
  | zero =>
    intro fuel v s rest value enough ends
    obtain ⟨c, r, rfl, -⟩ := value.begins
    obtain ⟨fuel, rfl⟩ := Nat.exists_eq_add_one_of_ne_zero (Nat.ne_zero_of_lt enough)
    exact IsAtom.readValue value ends 0
  | succ n ih =>
    intro fuel v s rest value enough ends
    obtain ⟨c, r, rfl, -⟩ := value.begins
    obtain ⟨fuel, rfl⟩ := Nat.exists_eq_add_one_of_ne_zero (Nat.ne_zero_of_lt enough)
    rcases value with atom | nest
    · exact atom.readValue ends (n + 1)
    · exact nest.readValue ih enough

/-! ### Texts -/

/-- Strict JSON: a text is read as a readable value if and only if it stands for it in the grammar. -/
theorem parse?_eq_some_iff {text : String} : parse? text = some v ∧ v.isReadable = true ↔ IsText v text := by
  constructor
  · rintro ⟨parsed, readable⟩
    rw [parse?] at parsed
    split at parsed
    · rename_i r read
      obtain ⟨blank, same⟩ := Option.ite_none_right_eq_some.mp parsed
      cases same
      obtain ⟨t, value, whole⟩ := readsOnlyValues depthLimit read readable
      obtain ⟨front, after, spaces⟩ := eq_append_skipSpace r
      rw [blank, List.append_nil] at spaces
      rw [IsText, whole, spaces]
      exact value.behind after
    · cases parsed
  · intro stands
    obtain ⟨_, value⟩ := stands.exists_part
    obtain ⟨r, read, behind⟩ := ReadsAllValues.padded (readsAllValues depthLimit) stands (Nat.le_succ _) endsNumeral_nil
    rw [List.append_nil] at read
    refine ⟨?_, value.isReadable⟩
    simp only [parse?, read, behind]
    rfl

end TorrentAdmission.Json
