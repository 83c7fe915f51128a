import TorrentAdmission.Text.Base64

/-!
# Base64 read back

Reading accepts exactly what writing produces: `decode?_eq_some`. So no text stands for two byte strings, and
no byte string has two texts.
-/

namespace TorrentAdmission.Text.Base64

variable {w x y z : Char} {bytes : List UInt8}

/-! ### Single symbols -/

theorem value?_symbol {n : Nat} (small : n < 64) : value? (symbol n) = some n := by
  have all : ∀ k : Fin 64, value? (symbol k.val) = some k.val := by decide
  exact all ⟨n, small⟩

example : (List.range 64).map symbol =
    "ABCDEFGHIJKLMNOPQRSTUVWXYZabcdefghijklmnopqrstuvwxyz0123456789+/".toList := by decide

theorem value?_eq_none {c : Char} (large : 128 ≤ c.toNat) : value? c = none := by
  have beyond : ∀ d : Char, d.toNat < 128 → ¬ c ≤ d := by
    intro d small below
    have : c.toNat ≤ d.toNat := below
    omega
  have other : ∀ d : Char, d.toNat < 128 → c ≠ d := by
    rintro d small rfl
    omega
  unfold value?
  rw [if_neg fun upper => beyond 'Z' (by decide) upper.2, if_neg fun lower => beyond 'z' (by decide) lower.2,
    if_neg fun digit => beyond '9' (by decide) digit.2, if_neg (other '+' (by decide)),
    if_neg (other '/' (by decide))]

theorem value?_eq_some {c : Char} {n : Nat} : value? c = some n ↔ n < 64 ∧ c = symbol n := by
  constructor
  · intro found
    have small : c.toNat < 128 := by
      refine Nat.lt_of_not_le fun large => ?_
      rw [value?_eq_none large] at found
      cases found
    have all : ∀ k : Fin 128, ∀ n ∈ value? (Char.ofNat k.val), n < 64 ∧ Char.ofNat k.val = symbol n := by decide
    have here := all ⟨c.toNat, small⟩ n
    rw [Char.ofNat_toNat] at here
    exact here found
  · rintro ⟨small, rfl⟩
    exact value?_symbol small

/-- The padding is no symbol. -/
theorem symbol_ne_pad {n : Nat} (small : n < 64) : symbol n ≠ '=' := by
  intro pad
  have found := value?_symbol small
  rw [pad] at found
  cases found

/-! ### Groups of symbols -/

theorem oneByte?_eq_some : oneByte? w x = some bytes ↔ ∃ a, bytes = [a] ∧ [w, x, '=', '='] = encode [a] := by
  simp only [oneByte?, encode, Option.bind_eq_bind, Option.bind_eq_some_iff, value?_eq_some, List.cons.injEq,
    and_true]
  constructor
  · rintro ⟨m, ⟨first, rfl⟩, k, ⟨second, rfl⟩, read⟩
    split at read
    · rename_i unused
      cases read
      refine ⟨_, rfl, ?_⟩
      simp only [UInt8.toNat_ofNat']
      constructor <;> congr 1 <;> omega
    · cases read
  · rintro ⟨a, rfl, rfl, rfl⟩
    have byte := a.toNat_lt
    refine ⟨_, ⟨by omega, rfl⟩, _, ⟨by omega, rfl⟩, ?_⟩
    rw [if_pos (by omega), show (64 * (a.toNat * 16 / 64) + a.toNat * 16 % 64) / 16 = a.toNat by omega,
      UInt8.ofNat_toNat]

theorem twoBytes?_eq_some : twoBytes? w x y = some bytes ↔
    ∃ a b, bytes = [a, b] ∧ [w, x, y, '='] = encode [a, b] := by
  simp only [twoBytes?, encode, Option.bind_eq_bind, Option.bind_eq_some_iff, value?_eq_some, List.cons.injEq,
    and_true]
  constructor
  · rintro ⟨m, ⟨first, rfl⟩, k, ⟨second, rfl⟩, l, ⟨third, rfl⟩, read⟩
    split at read
    · rename_i unused
      cases read
      refine ⟨_, _, rfl, ?_⟩
      simp only [UInt8.toNat_ofNat']
      refine ⟨?_, ?_, ?_⟩ <;> congr 1 <;> omega
    · cases read
  · rintro ⟨a, b, rfl, rfl, rfl, rfl⟩
    have left := a.toNat_lt
    have right := b.toNat_lt
    refine ⟨_, ⟨by omega, rfl⟩, _, ⟨by omega, rfl⟩, _, ⟨by omega, rfl⟩, ?_⟩
    have whole : ∀ n, n < 262144 → 4096 * (n / 4096) + 64 * (n / 64 % 64) + n % 64 = n := by omega
    rw [whole _ (by omega), if_pos (by omega), show (a.toNat * 256 + b.toNat) * 4 / 1024 = a.toNat by omega,
      show (a.toNat * 256 + b.toNat) * 4 / 4 % 256 = b.toNat by omega, UInt8.ofNat_toNat, UInt8.ofNat_toNat]

theorem threeBytes?_eq_some : threeBytes? w x y z = some bytes ↔
    ∃ a b c, bytes = [a, b, c] ∧ [w, x, y, z] = encode [a, b, c] := by
  simp only [threeBytes?, encode, Option.bind_eq_bind, Option.bind_eq_some_iff, value?_eq_some, List.cons.injEq,
    and_true]
  constructor
  · rintro ⟨m, ⟨first, rfl⟩, k, ⟨second, rfl⟩, l, ⟨third, rfl⟩, n, ⟨fourth, rfl⟩, read⟩
    cases read
    refine ⟨_, _, _, rfl, ?_⟩
    simp only [UInt8.toNat_ofNat']
    refine ⟨?_, ?_, ?_, ?_⟩ <;> congr 1 <;> omega
  · rintro ⟨a, b, c, rfl, rfl, rfl, rfl, rfl⟩
    have left := a.toNat_lt
    have middle := b.toNat_lt
    have right := c.toNat_lt
    refine ⟨_, ⟨by omega, rfl⟩, _, ⟨by omega, rfl⟩, _, ⟨by omega, rfl⟩, _, ⟨by omega, rfl⟩, ?_⟩
    have whole : ∀ n, 262144 * (n / 262144) + 4096 * (n / 4096 % 64) + 64 * (n / 64 % 64) + n % 64 = n := by omega
    rw [whole, show ((a.toNat * 256 + b.toNat) * 256 + c.toNat) / 65536 = a.toNat by omega,
      show ((a.toNat * 256 + b.toNat) * 256 + c.toNat) / 256 % 256 = b.toNat by omega,
      show ((a.toNat * 256 + b.toNat) * 256 + c.toNat) % 256 = c.toNat by omega,
      UInt8.ofNat_toNat, UInt8.ofNat_toNat, UInt8.ofNat_toNat]

/-! ### Texts -/

theorem decode?_encode (bytes : List UInt8) : decode? (encode bytes) = some bytes := by
  induction bytes using encode.induct with
  | case1 => rfl
  | case2 a => exact oneByte?_eq_some.mpr ⟨a, rfl, rfl⟩
  | case3 a b =>
    have third : symbol ((a.toNat * 256 + b.toNat) * 4 % 64) ≠ '=' := symbol_ne_pad (Nat.mod_lt _ (by decide))
    exact (if_neg third).trans (twoBytes?_eq_some.mpr ⟨a, b, rfl, rfl⟩)
  | case4 a b c r ih =>
    have fourth : symbol (((a.toNat * 256 + b.toNat) * 256 + c.toNat) % 64) ≠ '=' :=
      symbol_ne_pad (Nat.mod_lt _ (by decide))
    have front := threeBytes?_eq_some.mpr ⟨a, b, c, rfl, rfl⟩
    rw [encode, decode?, if_neg fourth, front, ih]
    rfl

theorem eq_encode_of_decode? {text : List Char} (read : decode? text = some bytes) : text = encode bytes := by
  fun_induction decode? text generalizing bytes with
  | case1 =>
    cases read
    rfl
  | case2 => cases read
  | case3 w x r last =>
    obtain ⟨a, rfl, written⟩ := oneByte?_eq_some.mp read
    obtain rfl := Decidable.not_not.mp last
    exact written
  | case4 w x y r last other =>
    obtain ⟨a, b, rfl, written⟩ := twoBytes?_eq_some.mp read
    obtain rfl := Decidable.not_not.mp last
    exact written
  | case5 w x y z r other ih =>
    obtain ⟨front, group, rest, tail, rfl⟩ : ∃ front, threeBytes? w x y z = some front ∧
        ∃ rest, decode? r = some rest ∧ front ++ rest = bytes := by
      simpa [Option.bind_eq_some_iff] using read
    obtain ⟨a, b, c, rfl, written⟩ := threeBytes?_eq_some.mp group
    rw [ih tail]
    exact congrArg (· ++ encode rest) written
  | case6 => cases read

/-- A text is read as the bytes whose writing it is, and as nothing else. -/
theorem decode?_eq_some {text : List Char} : decode? text = some bytes ↔ text = encode bytes :=
  ⟨eq_encode_of_decode?, fun written => written ▸ decode?_encode bytes⟩

end TorrentAdmission.Text.Base64
