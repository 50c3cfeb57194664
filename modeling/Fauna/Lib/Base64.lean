import Fauna.Lib.Utf8
import Mathlib.Data.List.GetD

/-!
# Base64, the URL-safe alphabet without padding

Three bytes become four characters, a rest of one or two bytes two or three; the unused low bits
of the last character are zero, and the decoder refuses a text where they are not, so that every
byte string has exactly one accepted text.

* `Base64.decode_encode`: decoding inverts encoding.
* `Base64.encode_of_decode`: whatever is accepted is the encoding of its result.
* `Base64.mem_alphabet_of_decode`: only characters of the alphabet are accepted.
-/

namespace Fauna.Lib.Base64

/-- The alphabet `A-Z a-z 0-9 - _`, by value. -/
def alphabet : List Char := "ABCDEFGHIJKLMNOPQRSTUVWXYZabcdefghijklmnopqrstuvwxyz0123456789-_".toList

/-- The character of a six-bit value. -/
def digit (n : ℕ) : Char := alphabet.getD (n % 64) 'A'

/-- The six-bit value of a character. -/
def value (c : Char) : Option ℕ := alphabet.idxOf? c

/-- There are 64 digits. -/
theorem length_alphabet : alphabet.length = 64 := by decide +kernel

/-- The value of the digit of a number below 64. -/
theorem value_digit {n : ℕ} (h : n < 64) : value (digit n) = some n := by
  have hall : ∀ n < 64, value (digit n) = some n := by decide +kernel
  exact hall n h

/-- A character with a value is the digit of that value. -/
theorem digit_of_value {c : Char} {n : ℕ} (h : value c = some n) : n < 64 ∧ digit n = c := by
  rw [value, List.idxOf?, List.findIdx?_eq_some_iff_getElem] at h
  obtain ⟨hlt, hc, -⟩ := h
  have h64 : n < 64 := length_alphabet ▸ hlt
  refine ⟨h64, ?_⟩
  rw [digit, Nat.mod_eq_of_lt h64, List.getD_eq_getElem _ _ hlt]
  exact eq_of_beq hc

/-- Every digit is in the alphabet. -/
theorem digit_mem_alphabet (n : ℕ) : digit n ∈ alphabet := by
  have hlt : n % 64 < alphabet.length := by
    rw [length_alphabet]
    exact Nat.mod_lt n (by decide)
  rw [digit, List.getD_eq_getElem _ _ hlt]
  exact List.getElem_mem hlt

/-! ## The codec -/

/-- The encoder. -/
def encode : Bytes → Text
  | [] => []
  | [a] => [digit (a.toNat / 4), digit (a.toNat % 4 * 16)]
  | [a, b] =>
      [digit (a.toNat / 4), digit (a.toNat % 4 * 16 + b.toNat / 16), digit (b.toNat % 16 * 4)]
  | a :: b :: c :: rest =>
      digit (a.toNat / 4) :: digit (a.toNat % 4 * 16 + b.toNat / 16) ::
        digit (b.toNat % 16 * 4 + c.toNat / 64) :: digit (c.toNat % 64) :: encode rest

/-- The decoder. -/
def decode : Text → Option Bytes
  | [] => some []
  | [_] => none
  | [w, x] => do
      let w ← value w
      let x ← value x
      if x % 16 = 0 then some [.ofNat (w * 4 + x / 16)] else none
  | [w, x, y] => do
      let w ← value w
      let x ← value x
      let y ← value y
      if y % 4 = 0 then some [.ofNat (w * 4 + x / 16), .ofNat (x % 16 * 16 + y / 4)] else none
  | w :: x :: y :: z :: rest => do
      let w ← value w
      let x ← value x
      let y ← value y
      let z ← value z
      let rest ← decode rest
      some (.ofNat (w * 4 + x / 16) :: .ofNat (x % 16 * 16 + y / 4) ::
        .ofNat (y % 4 * 64 + z) :: rest)

/-- A byte rebuilt from the two parts it was split into. -/
private theorem ofNat_split {a : UInt8} {n : ℕ} (h : n = a.toNat) : UInt8.ofNat n = a := by
  rw [h, UInt8.ofNat_toNat]

/-- Decoding reads encoded bytes back. -/
theorem decode_encode : ∀ bs : Bytes, decode (encode bs) = some bs
  | [] => rfl
  | [a] => by
      have ha := a.toNat_lt
      rw [encode, decode, value_digit (by omega), value_digit (by omega)]
      have h₁ : a.toNat % 4 * 16 % 16 = 0 := by omega
      have h₂ : UInt8.ofNat (a.toNat / 4 * 4 + a.toNat % 4 * 16 / 16) = a :=
        ofNat_split (by omega)
      simp only [Option.bind_eq_bind, Option.bind_some, h₁, h₂, if_true]
  | [a, b] => by
      have ha := a.toNat_lt
      have hb := b.toNat_lt
      rw [encode, decode, value_digit (by omega), value_digit (by omega), value_digit (by omega)]
      have h₁ : b.toNat % 16 * 4 % 4 = 0 := by omega
      have h₂ : UInt8.ofNat (a.toNat / 4 * 4 + (a.toNat % 4 * 16 + b.toNat / 16) / 16) = a :=
        ofNat_split (by omega)
      have h₃ : UInt8.ofNat ((a.toNat % 4 * 16 + b.toNat / 16) % 16 * 16 + b.toNat % 16 * 4 / 4)
          = b := ofNat_split (by omega)
      simp only [Option.bind_eq_bind, Option.bind_some, h₁, h₂, h₃, if_true]
  | a :: b :: c :: rest => by
      have ha := a.toNat_lt
      have hb := b.toNat_lt
      have hc := c.toNat_lt
      rw [encode, decode, value_digit (by omega), value_digit (by omega), value_digit (by omega),
        value_digit (by omega), decode_encode rest]
      have h₁ : UInt8.ofNat (a.toNat / 4 * 4 + (a.toNat % 4 * 16 + b.toNat / 16) / 16) = a :=
        ofNat_split (by omega)
      have h₂ : UInt8.ofNat ((a.toNat % 4 * 16 + b.toNat / 16) % 16 * 16 +
          (b.toNat % 16 * 4 + c.toNat / 64) / 4) = b := ofNat_split (by omega)
      have h₃ : UInt8.ofNat ((b.toNat % 16 * 4 + c.toNat / 64) % 4 * 64 + c.toNat % 64) = c :=
        ofNat_split (by omega)
      simp only [Option.bind_eq_bind, Option.bind_some, h₁, h₂, h₃]

/-- The value of a byte below the modulus. -/
private theorem toNat_ofNat {n : ℕ} (h : n < 256) : (UInt8.ofNat n).toNat = n := by
  rw [UInt8.toNat_ofNat', Nat.mod_eq_of_lt h]

/-- A text that decodes is the encoding of what it decodes to. -/
theorem encode_of_decode : ∀ {s : Text} {bs : Bytes}, decode s = some bs → encode bs = s
  | [], bs, h => by
      obtain rfl : [] = bs := by simpa [decode] using h
      rfl
  | [_], bs, h => by simp [decode] at h
  | [cw, cx], bs, h => by
      simp only [decode, Option.bind_eq_bind, Option.bind_eq_some_iff] at h
      obtain ⟨w, hw, x, hx, h⟩ := h
      obtain ⟨hw, rfl⟩ := digit_of_value hw
      obtain ⟨hx, rfl⟩ := digit_of_value hx
      split_ifs at h with hbits
      obtain rfl := Option.some.inj h
      have hn := toNat_ofNat (n := w * 4 + x / 16) (by omega)
      have h₁ : (w * 4 + x / 16) / 4 = w := by omega
      have h₂ : (w * 4 + x / 16) % 4 * 16 = x := by omega
      rw [encode, hn, h₁, h₂]
  | [cw, cx, cy], bs, h => by
      simp only [decode, Option.bind_eq_bind, Option.bind_eq_some_iff] at h
      obtain ⟨w, hw, x, hx, y, hy, h⟩ := h
      obtain ⟨hw, rfl⟩ := digit_of_value hw
      obtain ⟨hx, rfl⟩ := digit_of_value hx
      obtain ⟨hy, rfl⟩ := digit_of_value hy
      split_ifs at h with hbits
      obtain rfl := Option.some.inj h
      have hn := toNat_ofNat (n := w * 4 + x / 16) (by omega)
      have hm := toNat_ofNat (n := x % 16 * 16 + y / 4) (by omega)
      have h₁ : (w * 4 + x / 16) / 4 = w := by omega
      have h₂ : (w * 4 + x / 16) % 4 * 16 + (x % 16 * 16 + y / 4) / 16 = x := by omega
      have h₃ : (x % 16 * 16 + y / 4) % 16 * 4 = y := by omega
      rw [encode, hn, hm, h₁, h₂, h₃]
  | cw :: cx :: cy :: cz :: rest, bs, h => by
      simp only [decode, Option.bind_eq_bind, Option.bind_eq_some_iff] at h
      obtain ⟨w, hw, x, hx, y, hy, z, hz, rest', hrest, h⟩ := h
      obtain ⟨hw, rfl⟩ := digit_of_value hw
      obtain ⟨hx, rfl⟩ := digit_of_value hx
      obtain ⟨hy, rfl⟩ := digit_of_value hy
      obtain ⟨hz, rfl⟩ := digit_of_value hz
      obtain rfl := Option.some.inj h
      have hn := toNat_ofNat (n := w * 4 + x / 16) (by omega)
      have hm := toNat_ofNat (n := x % 16 * 16 + y / 4) (by omega)
      have hk := toNat_ofNat (n := y % 4 * 64 + z) (by omega)
      have h₁ : (w * 4 + x / 16) / 4 = w := by omega
      have h₂ : (w * 4 + x / 16) % 4 * 16 + (x % 16 * 16 + y / 4) / 16 = x := by omega
      have h₃ : (x % 16 * 16 + y / 4) % 16 * 4 + (y % 4 * 64 + z) / 64 = y := by omega
      have h₄ : (y % 4 * 64 + z) % 64 = z := by omega
      rw [encode, hn, hm, hk, h₁, h₂, h₃, h₄, encode_of_decode hrest]

/-- No two texts decode to the same bytes. -/
theorem decode_injective {s s' : Text} {bs : Bytes} (h : decode s = some bs)
    (h' : decode s' = some bs) : s = s' := by
  rw [← encode_of_decode h, encode_of_decode h']

/-- Encoded bytes are digits of the alphabet. -/
theorem mem_alphabet_of_mem_encode : ∀ {bs : Bytes} {c : Char}, c ∈ encode bs → c ∈ alphabet
  | [], _, h => by simp [encode] at h
  | [a], c, h => by
      simp only [encode, List.mem_cons, List.not_mem_nil, or_false] at h
      rcases h with rfl | rfl <;> exact digit_mem_alphabet _
  | [a, b], c, h => by
      simp only [encode, List.mem_cons, List.not_mem_nil, or_false] at h
      rcases h with rfl | rfl | rfl <;> exact digit_mem_alphabet _
  | _ :: _ :: _ :: rest, c, h => by
      simp only [encode, List.mem_cons] at h
      rcases h with rfl | rfl | rfl | rfl | h
      · exact digit_mem_alphabet _
      · exact digit_mem_alphabet _
      · exact digit_mem_alphabet _
      · exact digit_mem_alphabet _
      · exact mem_alphabet_of_mem_encode h

/-- So is a text that decodes. -/
theorem mem_alphabet_of_decode {s : Text} {bs : Bytes} (h : decode s = some bs) {c : Char}
    (hc : c ∈ s) : c ∈ alphabet := by
  rw [← encode_of_decode h] at hc
  exact mem_alphabet_of_mem_encode hc

end Fauna.Lib.Base64
