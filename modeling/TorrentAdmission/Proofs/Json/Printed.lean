import TorrentAdmission.Json.Printer
import TorrentAdmission.Proofs.Json.Recognition

/-!
# Printed values read back

What has been printed reads as the value it was printed from, if the value has no doubles, no integers
beyond 64-bit words and no more levels than a reader allows: `Json.parse?_render`.
-/

namespace TorrentAdmission.Json

/-! ### Plain values -/

mutual

/-- The number of arrays and objects that stand inside one another. -/
def depth : Json → Nat
  | .array items => depthOfItems items + 1
  | .object members => depthOfMembers members + 1
  | _ => 0

def depthOfItems : List Json → Nat
  | [] => 0
  | v :: r => max (depth v) (depthOfItems r)

def depthOfMembers : List (String × Json) → Nat
  | [] => 0
  | (_, v) :: r => max (depth v) (depthOfMembers r)

end

mutual

/-- All numbers in the value are integers that fit 64-bit words, and no part of it is unreadable. -/
def isPlain : Json → Bool
  | .number (.int n) => fitsWord n
  | .number (.double _) => false
  | .unreadable => false
  | .array items => arePlain items
  | .object members => arePlainMembers members
  | _ => true

def arePlain : List Json → Bool
  | [] => true
  | v :: r => isPlain v && arePlain r

def arePlainMembers : List (String × Json) → Bool
  | [] => true
  | (_, v) :: r => isPlain v && arePlainMembers r

end

mutual

theorem isReadable_of_isPlain : ∀ {v : Json}, v.isPlain = true → v.isReadable = true
  | .null, _ => rfl
  | .bool _, _ => rfl
  | .number _, _ => rfl
  | .string _, _ => rfl
  | .array _, plain => areReadable_of_arePlain plain
  | .object _, plain => areReadableMembers_of_arePlain plain

theorem areReadable_of_arePlain : ∀ {items : List Json}, arePlain items = true → areReadable items = true
  | [], _ => rfl
  | _ :: _, plain =>
    have parts := Bool.and_eq_true_iff.mp plain
    Bool.and_eq_true_iff.mpr ⟨isReadable_of_isPlain parts.1, areReadable_of_arePlain parts.2⟩

theorem areReadableMembers_of_arePlain : ∀ {members : List (String × Json)},
    arePlainMembers members = true → areReadableMembers members = true
  | [], _ => rfl
  | _ :: _, plain =>
    have parts := Bool.and_eq_true_iff.mp plain
    Bool.and_eq_true_iff.mpr ⟨isReadable_of_isPlain parts.1, areReadableMembers_of_arePlain parts.2⟩

end

/-! ### Writing in front of a text -/

theorem writeLiteral_append (s : String) (a b : List Char) : writeLiteral s (a ++ b) = writeLiteral s a ++ b := by
  simp [writeLiteral]

theorem writeNumber_append (n : Number) (a b : List Char) : writeNumber n (a ++ b) = writeNumber n a ++ b := by
  cases n <;> simp [writeNumber]

mutual

theorem write_append : ∀ (v : Json) (a b : List Char), write v (a ++ b) = write v a ++ b
  | .null, _, _ => rfl
  | .bool true, _, _ => rfl
  | .bool false, _, _ => rfl
  | .number n, a, b => writeNumber_append n a b
  | .string s, a, b => writeLiteral_append s a b
  | .array items, a, b => by
    rw [write, write, ← List.cons_append, writeItems_append]
    rfl
  | .object members, a, b => by
    rw [write, write, ← List.cons_append, writeMembers_append]
    rfl
  | .unreadable, _, _ => rfl

theorem writeItems_append : ∀ (items : List Json) (a b : List Char),
    writeItems items (a ++ b) = writeItems items a ++ b
  | [], _, _ => rfl
  | [v], a, b => write_append v a b
  | v :: w :: r, a, b => by
    rw [writeItems, writeItems, writeItems_append (w :: r), ← List.cons_append, write_append]

theorem writeMembers_append : ∀ (members : List (String × Json)) (a b : List Char),
    writeMembers members (a ++ b) = writeMembers members a ++ b
  | [], _, _ => rfl
  | [(k, v)], a, b => by
    rw [writeMembers, writeMembers, write_append, ← List.cons_append, writeLiteral_append]
  | (k, v) :: m :: r, a, b => by
    rw [writeMembers, writeMembers, writeMembers_append (m :: r), ← List.cons_append, write_append,
      ← List.cons_append, writeLiteral_append]

end

theorem writeLiteral_eq (s : String) (rest : List Char) : writeLiteral s rest = writeLiteral s [] ++ rest :=
  writeLiteral_append s [] rest

/-- A value is written in front of what follows it. -/
theorem write_eq (v : Json) (rest : List Char) : write v rest = write v [] ++ rest := write_append v [] rest

/-! ### What is written is in the grammar -/

mutual

theorem isValue_write : ∀ {v : Json} {n : Nat}, v.isPlain = true → v.depth ≤ n → IsValue n v (write v [])
  | .null, _, _, _ => IsAtom.null.isValue
  | .bool true, _, _, _ => IsAtom.yes.isValue
  | .bool false, _, _, _ => IsAtom.no.isValue
  | .string s, _, _, _ => IsAtom.isValue (.string (isLiteral_writeLiteral s))
  | .number (.int i), _, plain, _ => by
    rw [write, writeNumber, List.append_nil]
    exact IsAtom.isValue (.number (isNumeral_renderInt plain))
  | .array [], _ + 1, _, _ => Or.inr (.array (.empty areSpaces_nil))
  | .array (v :: r), n + 1, plain, deep => by
    have written : write (.array (v :: r)) [] = '[' :: (writeItems (v :: r) [] ++ [']']) := by
      rw [write, ← writeItems_append]
      rfl
    exact written ▸ Or.inr (.array (.parts (listed_writeItems v r plain (Nat.le_of_succ_le_succ deep))))
  | .object [], _ + 1, _, _ => Or.inr (.object (.empty areSpaces_nil))
  | .object (m :: r), n + 1, plain, deep => by
    have written : write (.object (m :: r)) [] = '\x7b' :: (writeMembers (m :: r) [] ++ ['\x7d']) := by
      rw [write, ← writeMembers_append]
      rfl
    exact written ▸ Or.inr (.object (.parts (listed_writeMembers m r plain (Nat.le_of_succ_le_succ deep))))

theorem listed_writeItems : ∀ (v : Json) (r : List Json) {n : Nat}, arePlain (v :: r) = true →
    depthOfItems (v :: r) ≤ n → Listed (fun v => Padded (IsValue n v)) (v :: r) (writeItems (v :: r) [])
  | v, [], _, plain, deep =>
    .one (.of_part (isValue_write (Bool.and_eq_true_iff.mp plain).1 (Nat.le_trans (Nat.le_max_left ..) deep)))
  | v, w :: r, _, plain, deep => by
    obtain ⟨head, tail⟩ := Bool.and_eq_true_iff.mp plain
    rw [writeItems, write_eq]
    exact .more (.of_part (isValue_write head (Nat.le_trans (Nat.le_max_left ..) deep)))
      (listed_writeItems w r tail (Nat.le_trans (Nat.le_max_right ..) deep))

theorem listed_writeMembers : ∀ (m : String × Json) (r : List (String × Json)) {n : Nat},
    arePlainMembers (m :: r) = true → depthOfMembers (m :: r) ≤ n →
    Listed (IsMember (IsValue n)) (m :: r) (writeMembers (m :: r) [])
  | (k, v), [], _, plain, deep => by
    have value := isValue_write (Bool.and_eq_true_iff.mp plain).1 (Nat.le_trans (Nat.le_max_left ..) deep)
    rw [writeMembers, writeLiteral_eq]
    exact .one (.intro (.of_part (isLiteral_writeLiteral k)) (.of_part value))
  | (k, v), m :: r, _, plain, deep => by
    obtain ⟨head, tail⟩ := Bool.and_eq_true_iff.mp plain
    have value := isValue_write head (Nat.le_trans (Nat.le_max_left ..) deep)
    have written : writeMembers ((k, v) :: m :: r) [] =
        (writeLiteral k [] ++ ':' :: write v []) ++ ',' :: writeMembers (m :: r) [] := by
      rw [writeMembers, write_eq, writeLiteral_eq, List.append_assoc]
      rfl
    rw [written]
    exact .more (.intro (.of_part (isLiteral_writeLiteral k)) (.of_part value))
      (listed_writeMembers m r tail (Nat.le_trans (Nat.le_max_right ..) deep))

end

/-! ### Reading what is written -/

theorem readValue_literal (fuel room : Nat) (s : String) (rest : List Char) :
    readValue (fuel + 1) room (writeLiteral s rest) = some (.string s, rest) := by
  have read : readValue (fuel + 1) room (writeLiteral s rest) =
      (literal? (s.toList.flatMap escapeChar ++ '"' :: rest)).map fun t => (t.1.elim .unreadable .string, t.2) := rfl
  rw [read, literal?_escaped]
  rfl

theorem readValue_object (fuel room : Nat) {s : List Char} {c : Char} (begins : BeginsValue c) :
    readValue (fuel + 1) room ('\x7b' :: c :: s) =
      (readMembers fuel (room - 1) (c :: s)).map fun t =>
        (t.1.elim .unreadable fun members => nested room (.object members), t.2) :=
  readValue_members fuel room (skipSpace_cons begins.1 s) begins

theorem readMembers_key (fuel room : Nat) (k : String) (s : List Char) :
    readMembers (fuel + 1) room (writeLiteral k (':' :: s)) = (do
      let (value, r) ← readValue fuel room s
      match skipSpace r with
      | '\x7d' :: r => return (some [(k, value)], r)
      | ',' :: r =>
        let (members, r) ← readMembers fuel room r
        return (members.map ((k, value) :: ·), r)
      | _ => none) := by
  rw [writeLiteral, List.cons_append, readMembers_quote, literal?_escaped]
  rfl

/-! ### Texts -/

/-- A reader with room enough gets back from a printed text what was printed. -/
theorem readValue_render {v : Json} (plain : v.isPlain = true) {room : Nat} (deep : v.depth ≤ room) :
    readValue (v.render.toList.length + 1) room v.render.toList = some (v, []) := by
  have read := readsAllValues room (isValue_write plain deep) (Nat.le_succ _) endsNumeral_nil
  rwa [List.append_nil, ← String.toList_ofList (l := write v [])] at read

theorem isText_render {v : Json} (plain : v.isPlain = true) (deep : v.depth ≤ depthLimit) : IsText v v.render := by
  rw [IsText, render, String.toList_ofList]
  exact .of_part (isValue_write plain deep)

theorem parse?_render {v : Json} (plain : v.isPlain = true) (deep : v.depth ≤ depthLimit) :
    parse? v.render = some v := (parse?_eq_some_iff.mpr (isText_render plain deep)).1

/-- Different values are printed differently, however deep they are. -/
theorem render_injective {v w : Json} (left : v.isPlain = true) (right : w.isPlain = true)
    (same : v.render = w.render) : v = w := by
  have first := readValue_render left (Nat.le_max_left v.depth w.depth)
  have second := readValue_render right (Nat.le_max_right v.depth w.depth)
  rw [same, second] at first
  exact (Prod.mk.inj (Option.some.inj first)).1.symm

end TorrentAdmission.Json
