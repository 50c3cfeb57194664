import Mathlib.Data.List.Basic
import Mathlib.Data.List.Infix

/-!
# UTF-8 over lists of bytes

A text is its list of Unicode scalar values; its bytes are core's `String.utf8EncodeChar`, one
character after another. This file has the two decoders a byte stream is read with, the strict
one (`utf8Decode`) and the replacing one (`fromUtf8Lossy`), and the byte-offset slicing of a
text (`sliceTo`, which fails inside a character).

* `utf8Decode_eq_some_iff`: the strict decoder accepts exactly the encodings.
* `fromUtf8Lossy_utf8Encode`: the replacing decoder is the identity on encodings.
* `utf8Encode_isPrefix_iff`: a cut of an encoding that decodes is the encoding of a cut.
* `newline_mem_utf8Encode`: the byte `0x0A` occurs only as the character `'\n'`.
* `sliceTo_eq_none_iff`: slicing at a byte offset fails exactly off the character boundaries.
-/

namespace Fauna.Lib

/-- A string as its Unicode scalar values. -/
abbrev Text := List Char

/-- A byte string. -/
abbrev Bytes := List UInt8

/-- The UTF-8 bytes of a text. -/
def utf8Encode (t : Text) : Bytes := t.flatMap String.utf8EncodeChar

/-- The character whose encoding the bytes begin with. -/
def decodeChar (bs : Bytes) : Option Char := bs.toByteArray.utf8DecodeChar? 0

/-! ## One character -/

/-- The first character of bytes that begin with its encoding. -/
theorem decodeChar_append (c : Char) (bs : Bytes) :
    decodeChar (String.utf8EncodeChar c ++ bs) = some c := by
  rw [decodeChar, List.toByteArray_append]
  exact ByteArray.utf8DecodeChar?_utf8EncodeChar_append

/-- Bytes that begin with a character begin with its encoding. -/
theorem decodeChar_eq_some {bs : Bytes} {c : Char} (h : decodeChar bs = some c) :
    bs = String.utf8EncodeChar c ++ bs.drop c.utf8Size := by
  obtain ⟨l, hl⟩ := ByteArray.exists_of_utf8DecodeChar?_eq_some h
  have hbs : bs = String.utf8EncodeChar c ++ l.data.toList := by
    rw [← List.toByteArray_inj, List.toByteArray_append, hl]
    congr 1
    ext1
    simp
  have hlen := String.length_utf8EncodeChar c
  conv_lhs => rw [hbs]
  rw [hbs, ← hlen, List.drop_left]

/-- No character is encoded as nothing. -/
@[simp] theorem utf8EncodeChar_ne_nil (c : Char) : String.utf8EncodeChar c ≠ [] := by
  intro h
  have hlen := String.length_utf8EncodeChar c
  have hpos := c.utf8Size_pos
  rw [h] at hlen
  simp at hlen
  omega

/-- The byte of an ASCII character. -/
def asciiByte (a : Char) : UInt8 := .ofNat a.toNat

/-- An ASCII character is one byte. -/
theorem utf8EncodeChar_ascii {a : Char} (ha : a.toNat < 128) :
    String.utf8EncodeChar a = [asciiByte a] := by
  rw [String.utf8EncodeChar]
  exact if_pos (Nat.lt_succ_iff.1 ha)

/-- The byte of an ASCII character is no byte of another character. -/
theorem asciiByte_mem_utf8EncodeChar {a : Char} (ha : a.toNat < 128) (c : Char) :
    asciiByte a ∈ String.utf8EncodeChar c ↔ c = a := by
  have hval : c.val.toNat = a.toNat ↔ c = a :=
    ⟨fun h => Char.ext (UInt32.toNat_inj.mp h), fun h => h ▸ rfl⟩
  have hbyte : ∀ n : ℕ, asciiByte a = UInt8.ofNat n ↔ n % 256 = a.toNat := by
    intro n
    rw [asciiByte, ← UInt8.toNat_inj, UInt8.toNat_ofNat', UInt8.toNat_ofNat', eq_comm,
      Nat.mod_eq_of_lt (a := a.toNat) (by omega)]
  rw [← hval, String.utf8EncodeChar]
  generalize c.val.toNat = v
  -- past the first case every byte has its top bit set
  split_ifs <;> simp only [List.mem_cons, List.not_mem_nil, or_false, hbyte] <;> omega

/-- A line feed is in the encoding of the line feed only. -/
theorem newline_mem_utf8EncodeChar (c : Char) : 10 ∈ String.utf8EncodeChar c ↔ c = '\n' :=
  asciiByte_mem_utf8EncodeChar (a := '\n') (by decide) c

/-! ## The encoding of a text -/

@[simp] theorem utf8Encode_nil : utf8Encode [] = [] := rfl

/-- A text is encoded character by character. -/
@[simp] theorem utf8Encode_cons (c : Char) (t : Text) :
    utf8Encode (c :: t) = String.utf8EncodeChar c ++ utf8Encode t := by
  simp [utf8Encode]

/-- And so part by part. -/
@[simp] theorem utf8Encode_append (s t : Text) :
    utf8Encode (s ++ t) = utf8Encode s ++ utf8Encode t := by
  simp [utf8Encode]

/-- Only the empty text is encoded as nothing. -/
@[simp] theorem utf8Encode_eq_nil {t : Text} : utf8Encode t = [] ↔ t = [] := by
  cases t <;> simp

/-- Encoded text has a line feed exactly where the text has one. -/
theorem newline_mem_utf8Encode (t : Text) : 10 ∈ utf8Encode t ↔ '\n' ∈ t := by
  simp [utf8Encode, newline_mem_utf8EncodeChar]

/-- If one encoding continues another, the texts do. -/
theorem isPrefix_of_utf8Encode : ∀ {s t : Text} {r : Bytes},
    utf8Encode s ++ r = utf8Encode t → s <+: t
  | [], _, _, _ => List.nil_prefix
  | c :: s, [], _, h => by simp at h
  | c :: s, d :: t, r, h => by
      simp only [utf8Encode_cons, List.append_assoc] at h
      have hd : c = d := by
        have h₁ := decodeChar_append c (utf8Encode s ++ r)
        rw [h, decodeChar_append] at h₁
        exact (Option.some.inj h₁).symm
      subst hd
      have ht := List.append_cancel_left h
      exact List.prefix_cons_inj c |>.mpr (isPrefix_of_utf8Encode ht)

/-- A text begins with another one exactly where their bytes do. -/
theorem utf8Encode_isPrefix_iff {s t : Text} : utf8Encode s <+: utf8Encode t ↔ s <+: t := by
  constructor
  · rintro ⟨r, h⟩
    exact isPrefix_of_utf8Encode h
  · rintro ⟨r, rfl⟩
    exact ⟨utf8Encode r, (utf8Encode_append s r).symm⟩

/-! ## The strict decoder -/

/-- The strict decoder, `skip` bytes into a character already read. -/
def utf8DecodeFrom : ℕ → Bytes → Option Text
  | _, [] => some []
  | skip + 1, _ :: bs => utf8DecodeFrom skip bs
  | 0, b :: bs =>
      match decodeChar (b :: bs) with
      | some c => (utf8DecodeFrom (c.utf8Size - 1) bs).map (c :: ·)
      | none => none

/-- `String::from_utf8`: the text the bytes encode, if they encode one. -/
def utf8Decode (bs : Bytes) : Option Text := utf8DecodeFrom 0 bs

/-- To skip bytes is to drop them. -/
theorem utf8DecodeFrom_eq_drop : ∀ (skip : ℕ) (bs : Bytes),
    utf8DecodeFrom skip bs = utf8Decode (bs.drop skip)
  | 0, _ => rfl
  | skip + 1, [] => rfl
  | skip + 1, b :: bs => by
      rw [utf8DecodeFrom, List.drop_succ_cons, utf8DecodeFrom_eq_drop skip bs]

@[simp] theorem utf8Decode_nil : utf8Decode [] = some [] := rfl

/-- Bytes are decoded from their first character on. -/
theorem utf8Decode_cons {bs : Bytes} (hne : bs ≠ []) :
    utf8Decode bs = (decodeChar bs).bind fun c =>
      (utf8Decode (bs.drop c.utf8Size)).map (c :: ·) := by
  obtain ⟨b, bs, rfl⟩ := List.exists_cons_of_ne_nil hne
  rw [utf8Decode, utf8DecodeFrom]
  cases h : decodeChar (b :: bs) with
  | none => rfl
  | some c =>
      have hpos := c.utf8Size_pos
      simp only [Option.bind_some, utf8DecodeFrom_eq_drop]
      obtain ⟨k, hk⟩ : ∃ k, c.utf8Size = k + 1 := ⟨c.utf8Size - 1, by omega⟩
      rw [hk, List.drop_succ_cons, Nat.add_sub_cancel]

/-- Decoding reads an encoded text back. -/
theorem utf8Decode_utf8Encode (t : Text) : utf8Decode (utf8Encode t) = some t := by
  induction t with
  | nil => rfl
  | cons c t ih =>
      have hne : utf8Encode (c :: t) ≠ [] := by simp
      have hdrop : (utf8Encode (c :: t)).drop c.utf8Size = utf8Encode t := by
        rw [utf8Encode_cons, ← String.length_utf8EncodeChar c, List.drop_left]
      have hc : decodeChar (utf8Encode (c :: t)) = some c := by
        rw [utf8Encode_cons, decodeChar_append]
      rw [utf8Decode_cons hne, hc, Option.bind_some, hdrop, ih, Option.map_some]

/-- Bytes that decode are the encoding of the text. -/
theorem utf8Encode_of_utf8Decode {bs : Bytes} {t : Text} (h : utf8Decode bs = some t) :
    utf8Encode t = bs := by
  induction t generalizing bs with
  | nil =>
      by_contra hne
      rw [utf8Decode_cons (fun h0 => hne (by rw [h0]; rfl))] at h
      simp [Option.bind_eq_some_iff] at h
  | cons c t ih =>
      have hne : bs ≠ [] := by
        rintro rfl
        simp at h
      rw [utf8Decode_cons hne, Option.bind_eq_some_iff] at h
      obtain ⟨d, hd, h⟩ := h
      rw [Option.map_eq_some_iff] at h
      obtain ⟨t', ht', heq⟩ := h
      obtain ⟨rfl, rfl⟩ := List.cons.inj heq
      rw [utf8Encode_cons, ih ht', ← decodeChar_eq_some hd]

/-- Decoding is the inverse of encoding. -/
theorem utf8Decode_eq_some_iff {bs : Bytes} {t : Text} :
    utf8Decode bs = some t ↔ utf8Encode t = bs :=
  ⟨utf8Encode_of_utf8Decode, fun h => h ▸ utf8Decode_utf8Encode t⟩

/-- A text in front of the bytes is decoded first. -/
theorem utf8Decode_utf8Encode_append (s : Text) (bs : Bytes) :
    utf8Decode (utf8Encode s ++ bs) = (utf8Decode bs).map (s ++ ·) := by
  ext t
  rw [Option.map_eq_some_iff, utf8Decode_eq_some_iff]
  constructor
  · intro h
    obtain ⟨t, rfl⟩ := isPrefix_of_utf8Encode h.symm
    rw [utf8Encode_append] at h
    exact ⟨t, utf8Decode_eq_some_iff.2 (List.append_cancel_left h), rfl⟩
  · rintro ⟨t, ht, rfl⟩
    rw [utf8Encode_append, utf8Encode_of_utf8Decode ht]

/-- An ASCII character at the end is decoded by itself. -/
theorem utf8Decode_append_ascii {a : Char} (ha : a.toNat < 128) (bs : Bytes) :
    utf8Decode (bs ++ [asciiByte a]) = (utf8Decode bs).map (· ++ [a]) := by
  have hbyte : utf8Encode [a] = [asciiByte a] := by
    rw [utf8Encode_cons, utf8EncodeChar_ascii ha]
    rfl
  ext t
  rw [Option.map_eq_some_iff, utf8Decode_eq_some_iff]
  constructor
  · intro h
    obtain rfl | ⟨t, c, rfl⟩ := List.eq_nil_or_concat t
    · exact absurd h.symm (List.append_ne_nil_of_right_ne_nil _ (List.cons_ne_nil _ _))
    · rw [List.concat_eq_append, utf8Encode_append] at h
      obtain ⟨start, last, hlast⟩ :
          ∃ start last, utf8Encode [c] = start ++ [last] := by
        obtain hnil | ⟨start, last, hconcat⟩ := List.eq_nil_or_concat (utf8Encode [c])
        · exact absurd (utf8Encode_eq_nil.1 hnil) (List.cons_ne_nil c [])
        · exact ⟨start, last, by rw [hconcat, List.concat_eq_append]⟩
      have hlasts : last = asciiByte a := by
        rw [hlast, ← List.append_assoc] at h
        exact (List.cons.inj (List.append_inj_right' h rfl)).1
      have hc : c = a := by
        rw [← asciiByte_mem_utf8EncodeChar ha, ← hlasts]
        have hmem : last ∈ utf8Encode [c] := by simp [hlast]
        simpa [utf8Encode] using hmem
      subst hc
      rw [hbyte] at h
      exact ⟨t, utf8Decode_eq_some_iff.2 (List.append_cancel_right h),
        List.concat_eq_append.symm⟩
  · rintro ⟨t, ht, rfl⟩
    rw [utf8Encode_append, hbyte, utf8Encode_of_utf8Decode ht]

/-! ## The replacing decoder -/

/-- Whether a byte may continue a multi-byte character. -/
def isContinuation (b : UInt8) : Bool := 0x80 ≤ b && b ≤ 0xBF

/-- Whether `b` may follow the lead byte `lead` of a three- or four-byte character: the second
byte is where overlong forms, surrogates and values past `U+10FFFF` are refused. -/
def isSecond (lead b : UInt8) : Bool :=
  if lead = 0xE0 then 0xA0 ≤ b && b ≤ 0xBF
  else if lead = 0xED then 0x80 ≤ b && b ≤ 0x9F
  else if lead = 0xF0 then 0x90 ≤ b && b ≤ 0xBF
  else if lead = 0xF4 then 0x80 ≤ b && b ≤ 0x8F
  else isContinuation b

/-- How many bytes of an ill-formed sequence one replacement character stands for: the longest
start of a well-formed character, and at least one byte. -/
def invalidLength : Bytes → ℕ
  | lead :: b :: c :: _ =>
      if 0xE0 ≤ lead && lead ≤ 0xEF then if isSecond lead b then 2 else 1
      else if 0xF0 ≤ lead && lead ≤ 0xF4 then
        if isSecond lead b then if isContinuation c then 3 else 2 else 1
      else 1
  | lead :: b :: _ => if 0xE0 ≤ lead && lead ≤ 0xF4 && isSecond lead b then 2 else 1
  | _ => 1

/-- The replacing decoder, `skip` bytes into a sequence already read. -/
def fromUtf8LossyFrom : ℕ → Bytes → Text
  | _, [] => []
  | skip + 1, _ :: bs => fromUtf8LossyFrom skip bs
  | 0, b :: bs =>
      match decodeChar (b :: bs) with
      | some c => c :: fromUtf8LossyFrom (c.utf8Size - 1) bs
      | none => '\uFFFD' :: fromUtf8LossyFrom (invalidLength (b :: bs) - 1) bs

/-- `String::from_utf8_lossy`: every ill-formed sequence becomes one `U+FFFD`. -/
def fromUtf8Lossy (bs : Bytes) : Text := fromUtf8LossyFrom 0 bs

/-- To skip bytes is to drop them, here too. -/
theorem fromUtf8LossyFrom_eq_drop : ∀ (skip : ℕ) (bs : Bytes),
    fromUtf8LossyFrom skip bs = fromUtf8Lossy (bs.drop skip)
  | 0, _ => rfl
  | skip + 1, [] => rfl
  | skip + 1, b :: bs => by
      rw [fromUtf8LossyFrom, List.drop_succ_cons, fromUtf8LossyFrom_eq_drop skip bs]

/-- Lossy decoding takes a character that is there. -/
theorem fromUtf8Lossy_append (c : Char) (bs : Bytes) :
    fromUtf8Lossy (String.utf8EncodeChar c ++ bs) = c :: fromUtf8Lossy bs := by
  obtain ⟨b, l, hl⟩ := List.exists_cons_of_ne_nil (utf8EncodeChar_ne_nil c)
  have hc := decodeChar_append c bs
  have hlen := String.length_utf8EncodeChar c
  rw [hl, List.cons_append] at hc ⊢
  rw [hl, List.length_cons] at hlen
  rw [fromUtf8Lossy, fromUtf8LossyFrom, hc]
  simp only [fromUtf8LossyFrom_eq_drop]
  rw [← hlen, Nat.add_sub_cancel, List.drop_left]

/-- It loses nothing of an encoded text. -/
theorem fromUtf8Lossy_utf8Encode (t : Text) : fromUtf8Lossy (utf8Encode t) = t := by
  induction t with
  | nil => rfl
  | cons c t ih => rw [utf8Encode_cons, fromUtf8Lossy_append, ih]

example : fromUtf8Lossy [0x61, 0xE2, 0x82, 0x62, 0xFF] = ['a', '\uFFFD', 'b', '\uFFFD'] := by
  decide

/-! ## Byte offsets in a text -/

/-- `str::len`: the length in bytes. -/
def utf8Length : Text → ℕ
  | [] => 0
  | c :: t => c.utf8Size + utf8Length t

@[simp] theorem utf8Length_nil : utf8Length [] = 0 := rfl

@[simp] theorem utf8Length_cons (c : Char) (t : Text) :
    utf8Length (c :: t) = c.utf8Size + utf8Length t := rfl

/-- `str::is_char_boundary`. -/
def isCharBoundary : Text → ℕ → Bool
  | _, 0 => true
  | [], _ + 1 => false
  | c :: t, n + 1 => c.utf8Size ≤ n + 1 && isCharBoundary t (n + 1 - c.utf8Size)

/-- Lengths add up. -/
theorem utf8Length_append (s t : Text) : utf8Length (s ++ t) = utf8Length s + utf8Length t := by
  induction s with
  | nil => simp
  | cons c s ih => simp [ih, Nat.add_assoc]

/-- The length of a character repeated. -/
theorem utf8Length_replicate (n : ℕ) (c : Char) :
    utf8Length (List.replicate n c) = n * c.utf8Size := by
  induction n with
  | zero => simp
  | succ n ih => rw [List.replicate_succ, utf8Length_cons, ih, Nat.succ_mul, Nat.add_comm]

/-- The boundaries after a text are those of what follows it. -/
theorem isCharBoundary_append (s t : Text) (n : ℕ) :
    isCharBoundary (s ++ t) (utf8Length s + n) = isCharBoundary t n := by
  induction s with
  | nil => simp
  | cons c s ih =>
      have hpos := c.utf8Size_pos
      obtain ⟨k, hk⟩ : ∃ k, utf8Length (c :: s) + n = k + 1 :=
        ⟨c.utf8Size + utf8Length s + n - 1, by rw [utf8Length_cons]; omega⟩
      rw [hk, List.cons_append, isCharBoundary]
      have hle : c.utf8Size ≤ k + 1 := by rw [← hk, utf8Length_cons]; omega
      have hrest : k + 1 - c.utf8Size = utf8Length s + n := by rw [← hk, utf8Length_cons]; omega
      rw [hrest, ih, decide_eq_true hle, Bool.true_and]

/-- `&text[..n]`: the first `n` bytes as a text; no result where Rust panics. -/
def sliceTo : Text → ℕ → Option Text
  | _, 0 => some []
  | [], _ + 1 => none
  | c :: t, n + 1 =>
      if c.utf8Size ≤ n + 1 then (sliceTo t (n + 1 - c.utf8Size)).map (c :: ·) else none

/-- A text can be cut exactly at the boundaries of its characters. -/
theorem sliceTo_eq_none_iff (t : Text) (n : ℕ) :
    sliceTo t n = none ↔ isCharBoundary t n = false := by
  induction t generalizing n with
  | nil => cases n <;> simp [sliceTo, isCharBoundary]
  | cons c t ih =>
      cases n with
      | zero => simp [sliceTo, isCharBoundary]
      | succ n =>
          by_cases hc : c.utf8Size ≤ n + 1
          · simp [sliceTo, isCharBoundary, hc, ih]
          · simp [sliceTo, isCharBoundary, hc]

end Fauna.Lib
