import TorrentAdmission.Text.Utf8

/-!
# UTF-8 read back

Reading the bytes of characters gives the characters, and finds nothing that is not well formed.
-/

namespace TorrentAdmission.Text.Utf8

theorem encodeChar_ascii {c : Char} (ascii : c.toNat < 0x80) : encodeChar c = [.ofNat c.toNat] :=
  if_pos ascii

theorem encode_ascii {s : List Char} (ascii : ∀ c ∈ s, c.toNat < 0x80) :
    encode s = s.map fun c => .ofNat c.toNat := by
  induction s with
  | nil => rfl
  | cons c r ih =>
    rw [encode, List.flatMap_cons, encodeChar_ascii (ascii c List.mem_cons_self), List.map_cons]
    exact congrArg (_ :: ·) (ih fun d member => ascii d (List.mem_cons_of_mem c member))

/-! ### Single characters -/

theorem scan_char {b : UInt8} {c : Char} (leads : lead b = .char c) (rest : List UInt8) :
    scan none (b :: rest) = some c :: scan none rest := by
  rw [scan, leads]

theorem scan_begin {b : UInt8} {p : Begun} (leads : lead b = .more p) (rest : List UInt8) :
    scan none (b :: rest) = scan (some p) rest := by
  rw [scan, leads]

theorem scan_more {missing low high bits n : Nat} (several : 1 < missing) (above : low ≤ 0x80 + n)
    (below : 0x80 + n ≤ high) (small : n < 64) (rest : List UInt8) :
    scan (some ⟨missing, low, high, bits⟩) (.ofNat (0x80 + n) :: rest) =
      scan (some ⟨missing - 1, 0x80, 0xbf, 64 * bits + n⟩) rest := by
  have byte : (UInt8.ofNat (0x80 + n)).toNat = 0x80 + n := Nat.mod_eq_of_lt (by omega)
  rw [scan, byte, if_pos ⟨above, below⟩, if_neg (Nat.not_le_of_lt several), Nat.add_sub_cancel_left]

theorem scan_last {low high bits n : Nat} (above : low ≤ 0x80 + n) (below : 0x80 + n ≤ high) (small : n < 64)
    (rest : List UInt8) : scan (some ⟨1, low, high, bits⟩) (.ofNat (0x80 + n) :: rest) =
      some (Char.ofNat (64 * bits + n)) :: scan none rest := by
  have byte : (UInt8.ofNat (0x80 + n)).toNat = 0x80 + n := Nat.mod_eq_of_lt (by omega)
  rw [scan, byte, if_pos ⟨above, below⟩, if_pos (Nat.le_refl 1), Nat.add_sub_cancel_left]

theorem lead_one {n : Nat} (high : n < 0x80) : lead (.ofNat n) = .char (Char.ofNat n) := by
  have byte : (UInt8.ofNat n).toNat = n := Nat.mod_eq_of_lt (by omega)
  rw [lead, byte]
  exact if_pos high

theorem lead_two {n : Nat} (low : 2 ≤ n) (high : n < 32) :
    lead (.ofNat (0xc0 + n)) = .more ⟨1, 0x80, 0xbf, n⟩ := by
  have all : ∀ k : Fin 32, 2 ≤ k.val → lead (.ofNat (0xc0 + k.val)) = .more ⟨1, 0x80, 0xbf, k.val⟩ := by decide
  exact all ⟨n, high⟩ low

/-- The bounds for the second of three bytes shut out what two bytes could say, and the surrogates. -/
theorem lead_three {n : Nat} (high : n < 16) : lead (.ofNat (0xe0 + n)) =
    .more ⟨2, if n = 0 then 0xa0 else 0x80, if n = 0xd then 0x9f else 0xbf, n⟩ := by
  have all : ∀ k : Fin 16, lead (.ofNat (0xe0 + k.val)) =
      .more ⟨2, if k.val = 0 then 0xa0 else 0x80, if k.val = 0xd then 0x9f else 0xbf, k.val⟩ := by decide
  exact all ⟨n, high⟩

/-- The bounds for the second of four bytes shut out what three bytes could say, and what is no character. -/
theorem lead_four {n : Nat} (high : n < 5) : lead (.ofNat (0xf0 + n)) =
    .more ⟨3, if n = 0 then 0x90 else 0x80, if n = 4 then 0x8f else 0xbf, n⟩ := by
  have all : ∀ k : Fin 5, lead (.ofNat (0xf0 + k.val)) =
      .more ⟨3, if k.val = 0 then 0x90 else 0x80, if k.val = 4 then 0x8f else 0xbf, k.val⟩ := by decide
  exact all ⟨n, high⟩

theorem scan_encodeChar (c : Char) (rest : List UInt8) :
    scan none (encodeChar c ++ rest) = some c :: scan none rest := by
  have valid : c.toNat < 0xd800 ∨ 0xdfff < c.toNat ∧ c.toNat < 0x110000 := c.valid
  have whole : ∀ n, n = c.toNat → Char.ofNat n = c := fun n same => same ▸ Char.ofNat_toNat c
  unfold encodeChar
  dsimp only
  split
  · rename_i one
    refine (scan_char (lead_one one) rest).trans ?_
    rw [whole _ rfl]
  · split
    · rename_i two
      refine (scan_begin (lead_two (by omega) (by omega)) _).trans ?_
      refine (scan_last (by omega) (by omega) (by omega) rest).trans ?_
      rw [whole _ (by omega)]
    · split
      · rename_i three
        refine (scan_begin (lead_three (by omega)) _).trans ?_
        refine (scan_more (by omega) (by split <;> omega) (by split <;> omega) (by omega) _).trans ?_
        refine (scan_last (by omega) (by omega) (by omega) rest).trans ?_
        rw [whole _ (by omega)]
      · refine (scan_begin (lead_four (by omega)) _).trans ?_
        refine (scan_more (by omega) (by split <;> omega) (by split <;> omega) (by omega) _).trans ?_
        refine (scan_more (by omega) (by omega) (by omega) (by omega) _).trans ?_
        refine (scan_last (by omega) (by omega) (by omega) rest).trans ?_
        rw [whole _ (by omega)]

/-! ### Texts -/

theorem scan_encode (s : List Char) : scan none (encode s) = s.map some := by
  induction s with
  | nil => rfl
  | cons c r ih =>
    rw [encode, List.flatMap_cons, scan_encodeChar, List.map_cons]
    exact congrArg (some c :: ·) ih

theorem decodeLossy_encode (s : List Char) : decodeLossy (encode s) = s := by
  rw [decodeLossy, scan_encode, List.map_map]
  exact List.map_id s

end TorrentAdmission.Text.Utf8
