import Fauna.Lib.JsonText

/-!
# Bytes as hexadecimal text

Two digits a byte, in either letter case. A reader that takes both cases reads both back, and the
two texts of some bytes differ in their letter case only.

* `decode_encode`: both texts of some bytes are read back.
* `exists_decode_iff`, `encode_of_decode`: which texts are read, and that nothing but the letter
  case of a text is lost.
* `map_toLower_encode`: the letter case is all that differs.
-/

namespace Fauna.Lib.Hex

/-- A digit, in upper or in lower case. -/
def digit (upper : Bool) (n : ℕ) : Char :=
  (if upper then "0123456789ABCDEF".toList else "0123456789abcdef".toList).getD n '0'

/-- Two digits for each byte. -/
def encode (upper : Bool) (bytes : Bytes) : Text :=
  bytes.flatMap fun b => [digit upper (b.toNat / 16), digit upper (b.toNat % 16)]

/-- The bytes of digits in either case, two for each byte. -/
def decode : Text → Option Bytes
  | [] => some []
  | [_] => none
  | high :: low :: rest => do
      let high ← hexValue high
      let low ← hexValue low
      let bytes ← decode rest
      return .ofNat (16 * high + low) :: bytes

variable {upper : Bool}

@[simp] theorem encode_cons (b : UInt8) (bytes : Bytes) : encode upper (b :: bytes) =
    digit upper (b.toNat / 16) :: digit upper (b.toNat % 16) :: encode upper bytes := rfl

/-- What is true of the digits of both cases below sixteen. -/
private theorem digit_cases {p : Bool → ℕ → Prop} (h : ∀ n ∈ List.range 16, p true n ∧ p false n)
    {n : ℕ} (hn : n < 16) : p upper n := by
  obtain ⟨htrue, hfalse⟩ := h n (List.mem_range.2 hn)
  cases upper with
  | true => exact htrue
  | false => exact hfalse

/-- The value of a digit. -/
theorem hexValue_digit {n : ℕ} (hn : n < 16) : hexValue (digit upper n) = some n :=
  digit_cases (p := fun upper n => hexValue (digit upper n) = some n) (by decide) hn

/-- A digit is one byte. -/
theorem utf8Size_digit {n : ℕ} (hn : n < 16) : (digit upper n).utf8Size = 1 :=
  digit_cases (p := fun upper n => (digit upper n).utf8Size = 1) (by decide) hn

/-- A digit in lower case. -/
theorem toLower_digit {n : ℕ} (hn : n < 16) : (digit upper n).toLower = digit false n :=
  digit_cases (p := fun upper n => (digit upper n).toLower = digit false n) (by decide) hn

/-- The high half of a byte is a digit. -/
theorem high_lt (b : UInt8) : b.toNat / 16 < 16 := by
  have hlt := b.toNat_lt
  omega

/-- So is the low half. -/
theorem low_lt (b : UInt8) : b.toNat % 16 < 16 := Nat.mod_lt _ (by decide)

/-- A byte is put together from its two digits. -/
theorem ofNat_digits (b : UInt8) : UInt8.ofNat (16 * (b.toNat / 16) + b.toNat % 16) = b := by
  rw [Nat.div_add_mod]
  exact UInt8.ofNat_toNat

/-- Decoding reads encoded bytes back, in either letter case. -/
theorem decode_encode (bytes : Bytes) : decode (encode upper bytes) = some bytes := by
  induction bytes with
  | nil => rfl
  | cons b bytes ih =>
      rw [encode_cons, decode, hexValue_digit (high_lt b), hexValue_digit (low_lt b), ih]
      exact congrArg (fun byte => some (byte :: bytes)) (ofNat_digits b)

/-! ## What is read -/

/-- A digit in either letter case. -/
def IsDigit (c : Char) : Prop := c ∈ "0123456789ABCDEFabcdef".toList

instance (c : Char) : Decidable (IsDigit c) := inferInstanceAs (Decidable (c ∈ _))

/-- A character between two others is one of those between them. -/
private theorem mem_of_le {p : Char → Prop} {low high c : Char} (hlow : low ≤ c) (hhigh : c ≤ high)
    (h : ∀ n ∈ List.range (high.toNat + 1), low.toNat ≤ n → p (Char.ofNat n)) : p c := by
  rw [← Char.ofNat_toNat c]
  exact h c.toNat (List.mem_range.2 (Nat.lt_succ_of_le hhigh)) hlow

/-- A character with a value is a digit. -/
theorem isDigit_of_hexValue {c : Char} {n : ℕ} (h : hexValue c = some n) : IsDigit c := by
  unfold hexValue at h
  split_ifs at h with hdecimal hlower hupper
  · exact mem_of_le hdecimal.1 hdecimal.2 (by decide)
  · exact mem_of_le hlower.1 hlower.2 (by decide)
  · exact mem_of_le hupper.1 hupper.2 (by decide)

/-- A digit is one byte long, it has a value, and it is the upper-case digit of its value but for
the letter case. -/
theorem IsDigit.spec {c : Char} (h : IsDigit c) :
    c.utf8Size = 1 ∧ ∃ n, n < 16 ∧ hexValue c = some n ∧ digit true n = c.toUpper := by
  have hall : ("0123456789ABCDEFabcdef".toList.all fun c => c.utf8Size = 1 ∧
      (hexValue c).getD 16 < 16 ∧ hexValue c = some ((hexValue c).getD 16) ∧
      digit true ((hexValue c).getD 16) = c.toUpper) = true := by
    decide
  obtain ⟨hsize, hlt, hvalue, hdigit⟩ := of_decide_eq_true (List.all_eq_true.1 hall c h)
  exact ⟨hsize, _, hlt, hvalue, hdigit⟩

/-- The byte of two digits has these digits. -/
theorem digits_ofNat {high low : ℕ} (hhigh : high < 16) (hlow : low < 16) :
    (UInt8.ofNat (16 * high + low)).toNat / 16 = high ∧
      (UInt8.ofNat (16 * high + low)).toNat % 16 = low := by
  have hbyte : (UInt8.ofNat (16 * high + low)).toNat = 16 * high + low := by
    rw [UInt8.toNat_ofNat', Nat.mod_eq_of_lt (by omega)]
  omega

/-- A text decodes exactly where it is an even number of digits. -/
theorem exists_decode_iff : ∀ {t : Text},
    (∃ bytes, decode t = some bytes) ↔ t.length % 2 = 0 ∧ ∀ c ∈ t, IsDigit c
  | [] => by simp [decode]
  | [c] => by simp [decode]
  | high :: low :: rest => by
      have hrest := exists_decode_iff (t := rest)
      simp only [decode, Option.bind_eq_bind, Option.bind_eq_some_iff, List.length_cons,
        List.forall_mem_cons]
      constructor
      · rintro ⟨_, h, hhigh, l, hlow, bytes, hbytes, -⟩
        obtain ⟨heven, hdigits⟩ := hrest.1 ⟨bytes, hbytes⟩
        exact ⟨by omega, isDigit_of_hexValue hhigh, isDigit_of_hexValue hlow, hdigits⟩
      · rintro ⟨heven, hhigh, hlow, hdigits⟩
        obtain ⟨-, h, -, hhigh, -⟩ := hhigh.spec
        obtain ⟨-, l, -, hlow, -⟩ := hlow.spec
        obtain ⟨bytes, hbytes⟩ := hrest.2 ⟨by omega, hdigits⟩
        exact ⟨_, h, hhigh, l, hlow, bytes, hbytes, rfl⟩

/-- What is read is written again in upper case. -/
theorem encode_of_decode : ∀ {t : Text} {bytes : Bytes}, decode t = some bytes →
    encode true bytes = t.map Char.toUpper
  | [], bytes, h => by
      obtain rfl : [] = bytes := by simpa [decode] using h
      rfl
  | [_], bytes, h => by simp [decode] at h
  | high :: low :: rest, bytes, h => by
      simp only [decode, Option.bind_eq_bind, Option.bind_eq_some_iff] at h
      obtain ⟨m, hm, n, hn, bytes', hbytes, h⟩ := h
      obtain rfl := Option.some.inj h
      obtain ⟨-, m', hm', hvalue, hhigh⟩ := (isDigit_of_hexValue hm).spec
      obtain rfl := Option.some.inj (hm.symm.trans hvalue)
      obtain ⟨-, n', hn', hvalue, hlow⟩ := (isDigit_of_hexValue hn).spec
      obtain rfl := Option.some.inj (hn.symm.trans hvalue)
      obtain ⟨hdiv, hmod⟩ := digits_ofNat hm' hn'
      rw [encode_cons, hdiv, hmod, hhigh, hlow, encode_of_decode hbytes]
      rfl

/-- What is true of every digit is true of every character of an encoding. -/
theorem forall_mem_encode {p : Char → Bool} (h : "0123456789ABCDEFabcdef".toList.all p = true)
    {bytes : Bytes} : ∀ c ∈ encode upper bytes, p c = true := by
  have hdigit {n : ℕ} (hn : n < 16) : digit upper n ∈ "0123456789ABCDEFabcdef".toList :=
    digit_cases (p := fun upper n => digit upper n ∈ "0123456789ABCDEFabcdef".toList) (by decide) hn
  intro c hc
  obtain ⟨b, -, hc⟩ := List.mem_flatMap.1 hc
  rcases List.mem_cons.1 hc with rfl | hc
  · exact List.all_eq_true.1 h _ (hdigit (high_lt b))
  · rw [List.mem_singleton.1 hc]
    exact List.all_eq_true.1 h _ (hdigit (low_lt b))

/-- The two encodings of some bytes differ in their letter case only. -/
theorem map_toLower_encode (bytes : Bytes) :
    (encode upper bytes).map Char.toLower = encode false bytes := by
  induction bytes with
  | nil => rfl
  | cons b bytes ih =>
      rw [encode_cons, List.map_cons, List.map_cons, ih, toLower_digit (high_lt b),
        toLower_digit (low_lt b), encode_cons]

/-- Each byte becomes two. -/
theorem utf8Length_encode (bytes : Bytes) : utf8Length (encode upper bytes) = 2 * bytes.length := by
  induction bytes with
  | nil => rfl
  | cons b bytes ih =>
      rw [encode_cons, utf8Length_cons, utf8Length_cons, utf8Size_digit (high_lt b),
        utf8Size_digit (low_lt b), ih, List.length_cons]
      omega

end Fauna.Lib.Hex
