import TorrentAdmission.Proofs.Text.Utf8
import TorrentAdmission.Uri.FormData

/-!
# Form data read back

Pairs that were written as form data are read back as they were, whatever characters are in them:
`pairs_encode`. What is written are marks and plain characters, so it can stand in a URI as it is.
-/

namespace TorrentAdmission.Uri.FormData

open Text

/-! ### What is written -/

/-- A character that can be anywhere in a query and is none of the marks that divide it. -/
structure IsInner (c : Char) : Prop where
  visible : 0x20 < c.toNat
  ascii : c.toNat < 0x80
  noHash : c ≠ '#'
  noJoint : c ≠ '&'
  noDivision : c ≠ '='

instance (c : Char) : Decidable (IsInner c) :=
  decidable_of_iff (0x20 < c.toNat ∧ c.toNat < 0x80 ∧ c ≠ '#' ∧ c ≠ '&' ∧ c ≠ '=')
    ⟨fun ⟨v, a, h, j, d⟩ => ⟨v, a, h, j, d⟩, fun ⟨v, a, h, j, d⟩ => ⟨v, a, h, j, d⟩⟩

theorem isInner_encodeByte (b : UInt8) : ∀ c ∈ encodeByte b, IsInner c := by
  have all : ∀ k : Fin 256, (encodeByte (.ofNat k.val)).all (IsInner ·) = true := by decide +kernel
  have here := all ⟨b.toNat, b.toNat_lt⟩
  rw [UInt8.ofNat_toNat, List.all_eq_true] at here
  exact fun c member => of_decide_eq_true (here c member)

theorem isInner_encodePart {s : String} {c : Char} (member : c ∈ encodePart s) : IsInner c := by
  obtain ⟨b, -, written⟩ := List.mem_flatMap.mp member
  exact isInner_encodeByte b c written

/-- The byte of a character of a query. -/
def byteOf (c : Char) : UInt8 := .ofNat c.toNat

/-- A mark between parts is not found inside of them. -/
theorem byteOf_not_mem {s : List Char} {mark : Char} (ascii : mark.toNat < 0x80)
    (other : ∀ c ∈ s, c.toNat < 0x80 ∧ c ≠ mark) : byteOf mark ∉ s.map byteOf := by
  rw [List.mem_map]
  rintro ⟨c, member, same⟩
  obtain ⟨small, apart⟩ := other c member
  have code : ∀ d : Char, d.toNat < 0x80 → (byteOf d).toNat = d.toNat :=
    fun d below => Nat.mod_eq_of_lt (Nat.lt_trans below (by decide))
  have equal := congrArg UInt8.toNat same
  rw [code c small, code mark ascii] at equal
  exact apart (Char.toNat_inj.mp equal)

/-! ### Escapes -/

theorem unescape_cons {b : UInt8} (plain : b ≠ percentSign) (r : List UInt8) : unescape (b :: r) = b :: unescape r := by
  match r with
  | [] => rfl
  | [c] => rfl
  | h :: l :: r => exact if_neg plain

theorem unescape_escape {h l : UInt8} {x y : Fin 16} (high : hexValue? h = some x) (low : hexValue? l = some y)
    (r : List UInt8) : unescape (percentSign :: h :: l :: r) = .ofNat (16 * x.val + y.val) :: unescape r := by
  rw [unescape, if_pos rfl, high, low]

/-- What a byte of a query counts as before escapes are looked at. -/
def unplus (b : UInt8) : UInt8 := if b = 0x2b then 0x20 else b

theorem hexValue?_digit (n : Fin 16) : hexValue? (unplus (byteOf (Hex.digit n).toUpper)) = some n := by
  revert n
  decide

theorem unplus_plain {b : UInt8} (plain : isPlain b = true) :
    unplus (byteOf (Char.ofNat b.toNat)) = b ∧ b ≠ percentSign := by
  have all : ∀ k : Fin 256, isPlain (.ofNat k.val) = true →
      unplus (byteOf (Char.ofNat (UInt8.ofNat k.val).toNat)) = .ofNat k.val ∧ .ofNat k.val ≠ percentSign := by
    decide +kernel
  have here := all ⟨b.toNat, b.toNat_lt⟩
  rw [UInt8.ofNat_toNat] at here
  exact here plain

theorem unescape_encodeByte (b : UInt8) (r : List UInt8) :
    unescape ((encodeByte b).map (fun c => unplus (byteOf c)) ++ r) = b :: unescape r := by
  unfold encodeByte
  split
  · rename_i plain
    obtain ⟨same, other⟩ := unplus_plain plain
    rw [List.map_singleton, same]
    exact unescape_cons other r
  · split
    · rename_i space
      rw [space]
      exact unescape_cons (by decide) r
    · have byte : 16 * (b.toNat / 16) + b.toNat % 16 = b.toNat := Nat.div_add_mod _ _
      refine (unescape_escape (hexValue?_digit _) (hexValue?_digit _) r).trans ?_
      rw [byte, UInt8.ofNat_toNat]

theorem unescape_encode (bytes : List UInt8) :
    unescape ((bytes.flatMap encodeByte).map fun c => unplus (byteOf c)) = bytes := by
  induction bytes with
  | nil => rfl
  | cons b r ih => rw [List.flatMap_cons, List.map_append, unescape_encodeByte, ih]

theorem decodePart_encodePart (s : String) : decodePart ((encodePart s).map byteOf) = s.toList := by
  have unescaped := unescape_encode (Utf8.encode s.toList)
  rw [decodePart, List.map_map]
  exact (congrArg Utf8.decodeLossy unescaped).trans (Utf8.decodeLossy_encode s.toList)

/-! ### Pairs -/

theorem splitAt_of_not_mem {mark : UInt8} {part : List UInt8} (inner : mark ∉ part) : splitAt mark part = [part] := by
  induction part with
  | nil => rfl
  | cons b r ih =>
    have other : b ≠ mark := fun same => inner (same ▸ List.mem_cons_self)
    rw [splitAt, if_neg other, ih fun member => inner (List.mem_cons_of_mem b member)]

theorem splitAt_append {mark : UInt8} {part : List UInt8} (inner : mark ∉ part) (rest : List UInt8) :
    splitAt mark (part ++ mark :: rest) = part :: splitAt mark rest := by
  induction part with
  | nil => exact if_pos rfl
  | cons b r ih =>
    have other : b ≠ mark := fun same => inner (same ▸ List.mem_cons_self)
    rw [List.cons_append, splitAt, if_neg other, ih fun member => inner (List.mem_cons_of_mem b member)]

/-- The bytes of a written pair. -/
def pairBytes (pair : String × String) : List UInt8 := (encodePair pair).map byteOf

theorem pairBytes_eq (pair : String × String) : pairBytes pair =
    (encodePart pair.1).map byteOf ++ 0x3d :: (encodePart pair.2).map byteOf := List.map_append

theorem isInner_encodePair {pair : String × String} {c : Char} (member : c ∈ encodePair pair) :
    IsInner c ∨ c = '=' := by
  rcases List.mem_append.mp member with name | rest
  · exact Or.inl (isInner_encodePart name)
  · exact (List.mem_cons.mp rest).symm.imp_left isInner_encodePart

theorem joint_not_mem (pair : String × String) : (0x26 : UInt8) ∉ pairBytes pair := by
  refine @byteOf_not_mem _ '&' (by decide) fun c member => ?_
  rcases isInner_encodePair member with inner | rfl
  · exact ⟨inner.ascii, inner.noJoint⟩
  · decide

theorem decodePair_pairBytes (pair : String × String) : decodePair (pairBytes pair) = pair := by
  have undivided : ∀ b ∈ (encodePart pair.1).map byteOf, (b != 0x3d) = true := by
    intro b member
    have absent : byteOf '=' ∉ (encodePart pair.1).map byteOf := byteOf_not_mem (by decide) fun c member =>
      ⟨(isInner_encodePart member).ascii, (isInner_encodePart member).noDivision⟩
    refine bne_iff_ne.mpr fun same => absent ?_
    rwa [same] at member
  have value := decodePart_encodePart pair.2
  rw [decodePair, pairBytes_eq, List.takeWhile_append_of_pos undivided, List.dropWhile_append_of_pos undivided,
    List.takeWhile_cons_of_neg (by decide), List.dropWhile_cons_of_neg (by decide), List.append_nil,
    decodePart_encodePart, List.drop_succ_cons, List.drop_zero, value, String.ofList_toList, String.ofList_toList]

/-- Written pairs can stand in a query. -/
theorem encode_visible (pairs : List (String × String)) :
    ∀ c ∈ encode pairs, 0x20 < c.toNat ∧ c.toNat < 0x80 ∧ c ≠ '#' := by
  have inside : ∀ pair, ∀ c ∈ encodePair pair, 0x20 < c.toNat ∧ c.toNat < 0x80 ∧ c ≠ '#' := by
    intro pair c member
    rcases isInner_encodePair member with inner | rfl
    · exact ⟨inner.visible, inner.ascii, inner.noHash⟩
    · decide
  intro c member
  induction pairs using encode.induct with
  | case1 => cases member
  | case2 pair => exact inside pair c member
  | case3 pair next r ih =>
    rcases List.mem_append.mp member with front | rest
    · exact inside pair c front
    · rcases List.mem_cons.mp rest with rfl | later
      · decide
      · exact ih later

theorem splitAt_encode (pair : String × String) (more : List (String × String)) :
    splitAt 0x26 ((encode (pair :: more)).map byteOf) = (pair :: more).map pairBytes := by
  induction more generalizing pair with
  | nil => exact splitAt_of_not_mem (joint_not_mem pair)
  | cons next r ih =>
    rw [encode, List.map_append, List.map_cons, List.map_cons, ← ih next]
    exact splitAt_append (joint_not_mem pair) _

/-- Pairs are read as they were written. -/
theorem pairs_encode (pairs : List (String × String)) : FormData.pairs (encode pairs) = pairs := by
  have bytes : Utf8.encode (encode pairs) = (encode pairs).map byteOf :=
    Utf8.encode_ascii fun c member => (encode_visible pairs c member).2.1
  rw [FormData.pairs, bytes]
  cases pairs with
  | nil => rfl
  | cons pair more =>
    have written : ∀ part ∈ (pair :: more).map pairBytes, (!part.isEmpty) = true := by
      intro part member
      obtain ⟨p, -, rfl⟩ := List.mem_map.mp member
      simp [pairBytes_eq]
    have same : decodePair ∘ pairBytes = id := funext decodePair_pairBytes
    rw [splitAt_encode, List.filter_eq_self.mpr written, List.map_map, same, List.map_id]

end TorrentAdmission.Uri.FormData
