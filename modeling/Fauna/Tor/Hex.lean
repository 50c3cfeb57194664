import Fauna.Tor.Control

/-!
# `hex_decode` on the text of a control port

`hex_decode` cuts its input into slices of two bytes and parses each with `u8::from_str_radix`. The
slices are of bytes and not of characters, and the parser takes a plus sign before a digit. What
becomes of a text is decided where its pairs end.

* `hexPairs_spec`: what the loop returns, by what is left after the pairs of the text.
* `hex_exact_iff`: the texts that `hex_decode` treats as hexadecimal text is to be treated.
* `hex_misread`: texts with a sign and with characters of more than one byte.
-/

namespace Fauna.Tor

open Fauna.Lib Fauna.Core Fauna.Wire

/-- Two characters that `from_str_radix` takes for a byte: two digits, or a sign and a digit. -/
def IsPair (first second : Char) : Prop := (first = '+' ∨ Hex.IsDigit first) ∧ Hex.IsDigit second

instance (first second : Char) : Decidable (IsPair first second) :=
  inferInstanceAs (Decidable (_ ∧ _))

/-- What is left of a text after the pairs it starts with. -/
def afterPairs : Text → Text
  | first :: second :: rest =>
      if IsPair first second then afterPairs rest else first :: second :: rest
  | rest => rest

/-! ## One pair -/

/-- The value of the first character of a pair; a sign counts as zero. -/
def firstValue (c : Char) : Option ℕ := if c = '+' then some 0 else hexValue c

/-- A digit is less than 16. -/
theorem hexValue_lt {c : Char} {n : ℕ} (h : hexValue c = some n) : n < 16 := by
  obtain ⟨-, m, hlt, hm, -⟩ := (Hex.isDigit_of_hexValue h).spec
  rw [h] at hm
  rwa [Option.some.inj hm]

/-- A pair is read as two digits, or as a sign and a digit. -/
theorem parseHexU8_pair (first second : Char) : parseHexU8 [first, second] =
    (firstValue first).bind fun high =>
      (hexValue second).map fun low => .ofNat (16 * high + low) := by
  unfold firstValue
  split
  · next hsign =>
    subst hsign
    cases hsecond : hexValue second with
    | none => simp [parseHexU8, hsecond]
    | some low =>
        have hlt := hexValue_lt hsecond
        have hbyte : low < 256 := by omega
        simp [parseHexU8, hsecond, hbyte]
  · next hsign =>
    cases hfirst : hexValue first with
    | none => simp [parseHexU8, hsign, hfirst]
    | some high =>
        cases hsecond : hexValue second with
        | none => simp [parseHexU8, hsign, hfirst, hsecond]
        | some low =>
            have hhigh := hexValue_lt hfirst
            have hlow := hexValue_lt hsecond
            have hbyte : 16 * high + low < 256 := by omega
            simp [parseHexU8, hsign, hfirst, hsecond, hbyte]

/-- The values of a pair. -/
theorem IsPair.values {first second : Char} (h : IsPair first second) : ∃ high low,
    firstValue first = some high ∧ hexValue second = some low ∧
      (first ≠ '+' → hexValue first = some high) := by
  obtain ⟨hfirst, hsecond⟩ := h
  obtain ⟨-, low, -, hlow, -⟩ := hsecond.spec
  rcases hfirst with rfl | hfirst
  · exact ⟨0, low, rfl, hlow, fun hsign => absurd rfl hsign⟩
  · obtain ⟨-, high, -, hhigh, -⟩ := hfirst.spec
    have hsign : first ≠ '+' := by
      rintro rfl
      revert hfirst
      decide
    exact ⟨high, low, (if_neg hsign).trans hhigh, hlow, fun _ => hhigh⟩

/-- The characters of a pair have one byte each. -/
theorem IsPair.utf8Size {first second : Char} (h : IsPair first second) :
    first.utf8Size = 1 ∧ second.utf8Size = 1 := by
  refine ⟨?_, h.2.spec.1⟩
  rcases h.1 with rfl | hfirst
  · rfl
  · exact hfirst.spec.1

/-- Two characters that are no pair are no byte. -/
theorem parseHexU8_eq_none {first second : Char} (h : ¬ IsPair first second) :
    parseHexU8 [first, second] = none := by
  rw [parseHexU8_pair]
  cases hfirst : firstValue first with
  | none => rfl
  | some high =>
      cases hsecond : hexValue second with
      | none => rfl
      | some low =>
          refine absurd ⟨?_, Hex.isDigit_of_hexValue hsecond⟩ h
          unfold firstValue at hfirst
          split_ifs at hfirst with hsign
          · exact Or.inl hsign
          · exact Or.inr (Hex.isDigit_of_hexValue hfirst)

/-- A character of two bytes is no byte. -/
theorem parseHexU8_single {c : Char} (h : c.utf8Size = 2) : parseHexU8 [c] = none := by
  have hsign : c ≠ '+' := by
    rintro rfl
    cases h
  have hvalue : hexValue c = none := by
    cases hvalue : hexValue c with
    | none => rfl
    | some n =>
        rw [(Hex.isDigit_of_hexValue hvalue).spec.1] at h
        cases h
  simp [parseHexU8, hsign, hvalue]

/-! ## The loop -/

/-- A slice of two bytes is one character or two. -/
theorem sliceTo_two {input slice : Text} (h : sliceTo input 2 = some slice) :
    (∃ c, slice = [c] ∧ c.utf8Size = 2) ∨
      ∃ first second rest, input = first :: second :: rest ∧ slice = [first, second] := by
  cases input with
  | nil => cases h
  | cons first rest =>
      rw [sliceTo] at h
      split_ifs at h with hsize
      obtain ⟨slice', hslice, rfl⟩ := Option.map_eq_some_iff.1 h
      have hpos := first.utf8Size_pos
      obtain hone | htwo : first.utf8Size = 1 ∨ first.utf8Size = 2 := by omega
      · rw [hone] at hslice
        cases rest with
        | nil => cases hslice
        | cons second rest =>
            rw [sliceTo] at hslice
            split_ifs at hslice with hsize'
            have hpos' := second.utf8Size_pos
            have hone' : second.utf8Size = 1 := by omega
            rw [hone', sliceTo] at hslice
            obtain rfl := Option.some.inj hslice
            exact Or.inr ⟨first, second, rest, rfl, rfl⟩
      · rw [htwo, sliceTo] at hslice
        obtain rfl := Option.some.inj hslice
        exact Or.inl ⟨first, rfl, htwo⟩

/-- The error of a slice that is not a pair: the slice is refused, or cannot be cut. -/
def sliceFault (input : Text) : Fault :=
  if isCharBoundary input 2 then .error "hex okunamadi".toList else .panic

/-- A text that does not start with a pair is not read. -/
theorem hexPairs_stop {input : Text}
    (h : ∀ first second rest, input = first :: second :: rest → ¬ IsPair first second)
    (pairs : ℕ) : hexPairs (pairs + 1) input = .error (sliceFault input) := by
  rw [hexPairs, sliceFault]
  cases hslice : sliceTo input 2 with
  | none => rw [(sliceTo_eq_none_iff input 2).1 hslice]; rfl
  | some slice =>
      have hboundary : isCharBoundary input 2 = true := by
        rw [← Bool.not_eq_false, ← sliceTo_eq_none_iff, hslice]
        exact Option.some_ne_none slice
      have hparse : parseHexU8 slice = none := by
        rcases sliceTo_two hslice with ⟨c, rfl, hsize⟩ | ⟨first, second, rest, rfl, rfl⟩
        · exact parseHexU8_single hsize
        · exact parseHexU8_eq_none (h first second rest rfl)
      simp only [hparse, hboundary, if_true]

/-- A text that starts with a pair is read if the rest is. -/
theorem hexPairs_pair {first second : Char} (h : IsPair first second) (pairs : ℕ) (rest : Text) :
    ∃ byte, hexPairs (pairs + 1) (first :: second :: rest) =
        (do let bytes ← hexPairs pairs rest; return byte :: bytes) ∧
      ∀ bytes, first ≠ '+' → Hex.decode rest = some bytes →
        Hex.decode (first :: second :: rest) = some (byte :: bytes) := by
  obtain ⟨high, low, hfirst, hsecond, hdigit⟩ := h.values
  obtain ⟨hsize, hsize'⟩ := h.utf8Size
  refine ⟨.ofNat (16 * high + low), ?_, ?_⟩
  · have hslice : sliceTo (first :: second :: rest) 2 = some [first, second] := by
      rw [sliceTo, hsize, if_pos (by decide), sliceTo, hsize', if_pos (by decide), sliceTo]
      rfl
    have hparse : parseHexU8 [first, second] = some (.ofNat (16 * high + low)) := by
      rw [parseHexU8_pair, hfirst, hsecond]
      rfl
    rw [hexPairs, hslice]
    simp only [hparse]
    rfl
  · intro bytes hsign hbytes
    rw [Hex.decode, hdigit hsign, hsecond, hbytes]
    rfl

/-- What the loop returns. Where nothing is left after the pairs it is bytes, and those of the
digits where there is no sign; else it is the error of the slice after the pairs. -/
theorem hexPairs_spec : ∀ {input : Text} {pairs : ℕ}, utf8Length input = 2 * pairs →
    (afterPairs input = [] → ∃ bytes, hexPairs pairs input = .ok bytes ∧
      ('+' ∉ input → Hex.decode input = some bytes)) ∧
    (afterPairs input ≠ [] → hexPairs pairs input = .error (sliceFault (afterPairs input)))
  | [], pairs, hlength => by
      obtain rfl : pairs = 0 := by
        rw [utf8Length_nil] at hlength
        omega
      exact ⟨fun _ => ⟨[], rfl, fun _ => rfl⟩, fun h => absurd rfl h⟩
  | [c], pairs, hlength => by
      have hpos := c.utf8Size_pos
      obtain ⟨pairs, rfl⟩ : ∃ k, pairs = k + 1 := by
        rw [utf8Length_cons, utf8Length_nil] at hlength
        exact ⟨pairs - 1, by omega⟩
      refine ⟨fun h => absurd h (List.cons_ne_nil c []), fun _ => hexPairs_stop ?_ pairs⟩
      intro first second rest h
      cases h
  | first :: second :: rest, pairs, hlength => by
      have hpos := first.utf8Size_pos
      obtain ⟨pairs, rfl⟩ : ∃ k, pairs = k + 1 := by
        rw [utf8Length_cons] at hlength
        exact ⟨pairs - 1, by omega⟩
      rw [afterPairs]
      split
      · next hpair =>
        obtain ⟨hsize, hsize'⟩ := hpair.utf8Size
        have hrest : utf8Length rest = 2 * pairs := by
          rw [utf8Length_cons, utf8Length_cons] at hlength
          omega
        obtain ⟨hread, hfault⟩ := hexPairs_spec hrest
        obtain ⟨byte, hpairs, hdecode⟩ := hexPairs_pair hpair pairs rest
        rw [hpairs]
        constructor
        · intro hnil
          obtain ⟨bytes, hbytes, hplain⟩ := hread hnil
          refine ⟨byte :: bytes, by rw [hbytes]; rfl, fun hsign => ?_⟩
          rw [List.mem_cons, List.mem_cons, not_or, not_or] at hsign
          exact hdecode bytes (Ne.symm hsign.1) (hplain hsign.2.2)
        · intro hne
          rw [hfault hne]
          rfl
      · next hpair =>
        refine ⟨fun h => absurd h (List.cons_ne_nil _ _), fun _ => hexPairs_stop ?_ pairs⟩
        intro first' second' rest' h
        obtain ⟨hfirst, h⟩ := List.cons.inj h
        obtain ⟨hsecond, -⟩ := List.cons.inj h
        rwa [← hfirst, ← hsecond]

/-! ## The result -/

/-- What `hex_decode` is to do with a text: it comes back, it reads the texts of an even length that
consist of digits and no others, it loses nothing but their letter case, and a sign or a character
of more than one byte is an error. -/
structure HexExact (text : Text) : Prop where
  returns : hexDecode text ≠ .error .panic
  reads : (∃ bytes, hexDecode text = .ok bytes) ↔
    utf8Length text % 2 = 0 ∧ ∀ c ∈ text, Hex.IsDigit c
  upper : ∀ bytes, hexDecode text = .ok bytes → hexEncode bytes = text.map Char.toUpper
  refuses : (∃ c ∈ text, c = '+' ∨ c = '-' ∨ 1 < c.utf8Size) →
    ∃ message, hexDecode text = .error (.error message)

/-- A text of an odd length; a text of pairs without a sign; or one in which the slice after the
pairs ends where a character ends. -/
def CutsWell (text : Text) : Prop :=
  utf8Length text % 2 = 1 ∨ (afterPairs text = [] ∧ '+' ∉ text) ∨
    (afterPairs text ≠ [] ∧ isCharBoundary (afterPairs text) 2 = true)

instance (text : Text) : Decidable (CutsWell text) := inferInstanceAs (Decidable (_ ∨ _ ∨ _))

/-- A text of an odd length is refused. -/
theorem hexDecode_odd {text : Text} (h : utf8Length text % 2 = 1) :
    hexDecode text = .error (.error "hex veri tek uzunlukta".toList) := by
  rw [hexDecode, if_pos (by omega)]

/-- A text of an even length is read in pairs. -/
theorem hexDecode_even {text : Text} (h : utf8Length text % 2 = 0) :
    hexDecode text = hexPairs (utf8Length text / 2) text := by
  rw [hexDecode, if_neg (by omega)]

/-- Digits are pairs. -/
theorem afterPairs_digits : ∀ {text : Text}, utf8Length text % 2 = 0 →
    (∀ c ∈ text, Hex.IsDigit c) → afterPairs text = []
  | [], _, _ => rfl
  | [c], heven, hdigits => by
      have hsize := (hdigits c List.mem_cons_self).spec.1
      rw [utf8Length_cons, hsize, utf8Length_nil] at heven
      cases heven
  | first :: second :: rest, heven, hdigits => by
      rw [List.forall_mem_cons, List.forall_mem_cons] at hdigits
      obtain ⟨hfirst, hsecond, hrest⟩ := hdigits
      rw [utf8Length_cons, utf8Length_cons, hfirst.spec.1, hsecond.spec.1] at heven
      rw [afterPairs, if_pos ⟨Or.inr hfirst, hsecond⟩]
      exact afterPairs_digits (by omega) hrest

/-- There is no sign and no character of more than one byte in digits. -/
theorem plain_of_digits {text : Text} (h : ∀ c ∈ text, Hex.IsDigit c) :
    ¬ ∃ c ∈ text, c = '+' ∨ c = '-' ∨ 1 < c.utf8Size := by
  rintro ⟨c, hmem, hc⟩
  have hdigit := h c hmem
  rcases hc with rfl | rfl | hsize
  · revert hdigit
    decide
  · revert hdigit
    decide
  · rw [hdigit.spec.1] at hsize
    exact absurd hsize (by decide)

/-- A text that is refused in the end is treated as it is to be, if it is not hexadecimal. -/
theorem HexExact.of_error {text message : Text} (h : hexDecode text = .error (.error message))
    (hdigits : ¬ (utf8Length text % 2 = 0 ∧ ∀ c ∈ text, Hex.IsDigit c)) : HexExact text where
  returns := by
    rw [h]
    intro hpanic
    cases hpanic
  reads := by
    refine ⟨?_, fun hread => absurd hread hdigits⟩
    rintro ⟨bytes, hbytes⟩
    cases h.symm.trans hbytes
  upper bytes hbytes := by cases h.symm.trans hbytes
  refuses _ := ⟨message, h⟩

/-- A text that cuts well is read exactly. -/
theorem CutsWell.hexExact {text : Text} (h : CutsWell text) : HexExact text := by
  obtain hodd | heven : utf8Length text % 2 = 1 ∨ utf8Length text % 2 = 0 := by omega
  · exact .of_error (hexDecode_odd hodd) fun hread => by omega
  have hlength : utf8Length text = 2 * (utf8Length text / 2) := by omega
  obtain ⟨hread, hfault⟩ := hexPairs_spec hlength
  rw [← hexDecode_even heven] at hread hfault
  rcases h with hodd | ⟨hnil, hsign⟩ | ⟨hne, hboundary⟩
  · omega
  · obtain ⟨bytes, hbytes, hplain⟩ := hread hnil
    have hdecode := hplain hsign
    obtain ⟨-, hdigits⟩ := Hex.exists_decode_iff.1 ⟨bytes, hdecode⟩
    refine ⟨?_, ⟨fun _ => ⟨heven, hdigits⟩, fun _ => ⟨bytes, hbytes⟩⟩, ?_, ?_⟩
    · rw [hbytes]
      intro hpanic
      cases hpanic
    · intro bytes' hbytes'
      obtain rfl := Except.ok.inj (hbytes.symm.trans hbytes')
      exact Hex.encode_of_decode hdecode
    · exact fun hbad => absurd hbad (plain_of_digits hdigits)
  · have herror := hfault hne
    rw [sliceFault, if_pos hboundary] at herror
    exact .of_error herror fun hdigits => hne (afterPairs_digits heven hdigits.2)

/-- A text that is read exactly cuts well. -/
theorem HexExact.cutsWell {text : Text} (h : HexExact text) : CutsWell text := by
  obtain hodd | heven : utf8Length text % 2 = 1 ∨ utf8Length text % 2 = 0 := by omega
  · exact Or.inl hodd
  have hlength : utf8Length text = 2 * (utf8Length text / 2) := by omega
  obtain ⟨hread, hfault⟩ := hexPairs_spec hlength
  rw [← hexDecode_even heven] at hread hfault
  right
  by_cases hnil : afterPairs text = []
  · obtain ⟨bytes, hbytes, -⟩ := hread hnil
    have hdigits := (h.reads.1 ⟨bytes, hbytes⟩).2
    exact Or.inl ⟨hnil, fun hsign => plain_of_digits hdigits ⟨'+', hsign, Or.inl rfl⟩⟩
  · refine Or.inr ⟨hnil, ?_⟩
    by_contra hboundary
    have hpanic := hfault hnil
    rw [sliceFault, if_neg hboundary] at hpanic
    exact h.returns hpanic

/-- What `hex_encode` writes is read back. And for every text: `hex_decode` does what it is to do
with hexadecimal and with other text, exactly where the text has an odd length, or consists of
pairs of digits, or goes on after its pairs with a slice that ends where a character ends. -/
theorem hex_exact_iff (bytes : Bytes) (text : Text) :
    hexDecode (hexEncode bytes) = .ok bytes ∧ (HexExact text ↔ CutsWell text) :=
  ⟨hexDecode_encode bytes, HexExact.cutsWell, CutsWell.hexExact⟩

/-- A sign before a digit is read, and a slice that ends inside a character panics. -/
theorem hex_misread : hexDecode "+F".toList = .ok [15] ∧
    hexDecode "a\u00e9b".toList = .error .panic ∧ ¬ ∀ text, HexExact text := by
  have hsign : hexDecode "+F".toList = .ok [15] := by decide
  have hcut : hexDecode "a\u00e9b".toList = .error .panic := by decide
  exact ⟨hsign, hcut, fun h => (h _).returns hcut⟩

end Fauna.Tor
