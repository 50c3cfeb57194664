import Fauna.Lib.Utf8
import Mathlib.Data.List.TakeWhile

/-!
# JSON documents, and a compact text form for records

`Json` is a parsed document: the members of an object in the order of the text, repeated keys
kept. A `Record` is the kind of document a flat structure is written as: an object whose members
are strings, small numbers and lists of strings.

`Record.print` writes a record without any blank, and `Record.read` reads such a text back.

* `Record.read_print`: reading inverts printing.
* `Record.read_cut`: no proper cut of a printed record is read.
* `Record.newline_not_mem_print`: a printed record has no raw line feed.

Both of the first two go through `Reads`, the contract of a reader for one kind of item, which
the readers for strings, numbers, lists and members satisfy in turn.
-/

namespace Fauna.Lib

/-- A JSON document. Numbers keep their text. -/
inductive Json
  | null
  | bool (b : Bool)
  | number (lexeme : Text)
  | string (s : Text)
  | array (items : List Json)
  | object (members : List (Text × Json))

/-- What a member of a record holds. -/
inductive Field
  | string (s : Text)
  | byte (n : UInt8)
  | strings (ss : List Text)
  deriving DecidableEq

/-- A flat object. -/
abbrev Record := List (Text × Field)

/-- The decimal digits of a number. -/
def decimal (n : ℕ) : Text := Nat.toDigits 10 n

/-- The document of one member's value. -/
def Field.toJson : Field → Json
  | .string s => .string s
  | .byte n => .number (decimal n.toNat)
  | .strings ss => .array (ss.map .string)

/-- The document of a record. -/
def Record.toJson (r : Record) : Json := .object (r.map fun m => (m.1, m.2.toJson))

/-! ## Readers -/

/-- What may follow an item: a comma, or the end of the list or object it stands in. -/
def IsSeparator (c : Char) : Prop := c = ',' ∨ c = ']' ∨ c = '}'

/-- The contract of a reader for items printed by `item`: it reads back what was printed before a
separator, its answer does not change when more text arrives after a nonempty rest, and no item
begins like the end of a list. -/
structure Reads {α : Type*} (item : α → Text) (reader : Text → Option (α × Text)) : Prop where
  back : ∀ x c rest, IsSeparator c → reader (item x ++ c :: rest) = some (x, c :: rest)
  more : ∀ {t x r}, reader t = some (x, r) → r ≠ [] → ∀ q, reader (t ++ q) = some (x, r ++ q)
  starts : ∀ x, ∃ c rest, item x = c :: rest ∧ c ≠ ']' ∧ c ≠ '}'

/-! ### Lists of items -/

section list

variable {α : Type*} (item : α → Text) (reader : Text → Option (α × Text)) (z : Char)

/-- Items with commas between them, then the closing character. -/
def printList : List α → Text
  | [] => [z]
  | [x] => item x ++ [z]
  | x :: y :: xs => item x ++ ',' :: printList (y :: xs)

/-- One item or more, then the closing character. The number bounds the items. -/
def readItems : ℕ → Text → Option (List α × Text)
  | 0, _ => none
  | n + 1, t =>
      match reader t with
      | some (x, c :: t) =>
          if c = z then some ([x], t)
          else if c = ',' then (readItems n t).map fun p => (x :: p.1, p.2)
          else none
      | _ => none

/-- A possibly empty list of items, then the closing character. -/
def readList : Text → Option (List α × Text)
  | [] => none
  | c :: t => if c = z then some ([], t) else readItems reader z (t.length + 1) (c :: t)

variable {item reader z}

/-- More fuel reads the same items. -/
theorem readItems_mono {n m : ℕ} (hnm : n ≤ m) {t : Text} {p : List α × Text}
    (h : readItems reader z n t = some p) : readItems reader z m t = some p := by
  induction n generalizing m t p with
  | zero => simp [readItems] at h
  | succ n ih =>
      obtain ⟨m, rfl⟩ : ∃ k, m = k + 1 := ⟨m - 1, by omega⟩
      rw [readItems] at h ⊢
      split at h
      · next x c t' hx =>
        split_ifs at h ⊢ with hc hcomma
        · exact h
        · rw [Option.map_eq_some_iff] at h ⊢
          obtain ⟨q, hq, rfl⟩ := h
          exact ⟨q, ih (by omega) hq, rfl⟩
      · simp at h

/-- So does more text after them. -/
theorem readItems_more (hr : Reads item reader) {n : ℕ} {t r : Text} {xs : List α}
    (h : readItems reader z n t = some (xs, r)) (q : Text) :
    readItems reader z n (t ++ q) = some (xs, r ++ q) := by
  induction n generalizing t xs with
  | zero => simp [readItems] at h
  | succ n ih =>
      rw [readItems] at h ⊢
      split at h
      · next x c t' hx =>
        rw [hr.more hx (List.cons_ne_nil _ _) q, List.cons_append]
        simp only
        split_ifs at h ⊢ with hc hcomma
        · obtain ⟨rfl, rfl⟩ := Prod.mk.inj (Option.some.inj h)
          rfl
        · rw [Option.map_eq_some_iff] at h ⊢
          obtain ⟨⟨ys, r'⟩, hy, heq⟩ := h
          obtain ⟨rfl, rfl⟩ := Prod.mk.inj heq
          exact ⟨(ys, r' ++ q), ih hy, rfl⟩
      · simp at h

/-- Printed items are read back; each item is at least one character, which is what the bound of
`readList` counts. -/
theorem readItems_printList (hr : Reads item reader) (hclose : IsSeparator z)
    (hcomma : z ≠ ',') (xs : List α) (hne : xs ≠ []) (rest : Text) :
    readItems reader z xs.length (printList item z xs ++ rest) = some (xs, rest) := by
  induction xs with
  | nil => exact absurd rfl hne
  | cons x xs ih =>
      cases xs with
      | nil =>
          rw [printList, List.length_singleton, readItems, List.append_assoc, List.singleton_append,
            hr.back x z rest hclose]
          simp
      | cons y ys =>
          rw [printList, List.length_cons, readItems, List.append_assoc, List.cons_append,
            hr.back x ',' _ (Or.inl rfl)]
          simp only
          rw [if_neg (Ne.symm hcomma), if_true, ih (List.cons_ne_nil _ _)]
          rfl

/-- A list is no longer than its text. -/
theorem length_le_printList (hr : Reads item reader) (xs : List α) :
    xs.length ≤ (printList item z xs).length := by
  induction xs with
  | nil => simp
  | cons x xs ih =>
      obtain ⟨c, rest, hx, -⟩ := hr.starts x
      cases xs with
      | nil => simp [printList, hx]
      | cons y ys =>
          simp only [printList, hx, List.length_append, List.length_cons] at ih ⊢
          omega

/-- A printed list is read back. -/
theorem readList_printList (hr : Reads item reader) (hclose : z = ']' ∨ z = '}')
    (xs : List α) (rest : Text) :
    readList reader z (printList item z xs ++ rest) = some (xs, rest) := by
  have hsep : IsSeparator z := Or.inr hclose
  have hcomma : z ≠ ',' := by rcases hclose with rfl | rfl <;> decide
  cases xs with
  | nil => simp [printList, readList]
  | cons x xs =>
      obtain ⟨c, t, hx, hc₁, hc₂⟩ := hr.starts x
      have hne : c ≠ z := by rcases hclose with rfl | rfl <;> assumption
      have hread := readItems_printList hr hsep hcomma (x :: xs) (List.cons_ne_nil _ _) rest
      obtain ⟨t', ht'⟩ : ∃ t', printList item z (x :: xs) = c :: t' := by
        cases xs with
        | nil => exact ⟨t ++ [z], by simp [printList, hx]⟩
        | cons y ys => exact ⟨_, by rw [printList, hx, List.cons_append]⟩
      have hlen := length_le_printList (z := z) hr (x :: xs)
      rw [ht'] at hread hlen ⊢
      rw [List.cons_append, readList, if_neg hne]
      refine readItems_mono ?_ hread
      simp only [List.length_cons, List.length_append] at hlen ⊢
      omega

/-- What comes after a list does not matter to it. -/
theorem readList_more (hr : Reads item reader) {t r : Text} {xs : List α}
    (h : readList reader z t = some (xs, r)) (q : Text) :
    readList reader z (t ++ q) = some (xs, r ++ q) := by
  cases t with
  | nil => simp [readList] at h
  | cons c t =>
      rw [readList] at h
      rw [List.cons_append, readList]
      split_ifs at h ⊢ with hc
      · obtain ⟨rfl, rfl⟩ := Prod.mk.inj (Option.some.inj h)
        rfl
      · refine readItems_mono ?_ (readItems_more hr h q)
        simp

end list

/-! ### Strings -/

/-- A hexadecimal digit, in lower case. -/
def hexDigit (n : ℕ) : Char := "0123456789abcdef".toList.getD n '0'

/-- The value of a hexadecimal digit. -/
def hexValue (c : Char) : Option ℕ :=
  if '0' ≤ c ∧ c ≤ '9' then some (c.toNat - 48)
  else if 'a' ≤ c ∧ c ≤ 'f' then some (c.toNat - 87)
  else if 'A' ≤ c ∧ c ≤ 'F' then some (c.toNat - 55)
  else none

/-- How a character is written inside quotes. -/
def escapeChar (c : Char) : Text :=
  if c = '"' then ['\\', '"']
  else if c = '\\' then ['\\', '\\']
  else if c = '\x08' then ['\\', 'b']
  else if c = '\x0c' then ['\\', 'f']
  else if c = '\n' then ['\\', 'n']
  else if c = '\r' then ['\\', 'r']
  else if c = '\t' then ['\\', 't']
  else if c.toNat < 32 then ['\\', 'u', '0', '0', hexDigit (c.toNat / 16), hexDigit (c.toNat % 16)]
  else [c]

/-- The character a one-letter escape stands for. -/
def unescape (c : Char) : Option Char :=
  if c = '"' then some '"'
  else if c = '\\' then some '\\'
  else if c = '/' then some '/'
  else if c = 'b' then some '\x08'
  else if c = 'f' then some '\x0c'
  else if c = 'n' then some '\n'
  else if c = 'r' then some '\r'
  else if c = 't' then some '\t'
  else none

/-- A string in quotes. -/
def printString (s : Text) : Text := '"' :: s.flatMap escapeChar ++ ['"']

/-- Where a reader stands inside a string: between characters, after a backslash, or inside a
four-digit escape with its value so far and the digits after the next one. -/
inductive StringState
  | plain
  | escape
  | hex (n left : ℕ)

/-- The rest of a string after its opening quote. A surrogate escape stands for no character by
itself and is refused. -/
def readChars : StringState → Text → Option (Text × Text)
  | _, [] => none
  | .plain, c :: t =>
      if c = '"' then some ([], t)
      else if c = '\\' then readChars .escape t
      else if c.toNat < 32 then none
      else (readChars .plain t).map fun p => (c :: p.1, p.2)
  | .escape, c :: t =>
      if c = 'u' then readChars (.hex 0 3) t
      else (unescape c).bind fun d => (readChars .plain t).map fun p => (d :: p.1, p.2)
  | .hex n 0, c :: t =>
      (hexValue c).bind fun v =>
        if (n * 16 + v).isValidChar then
          (readChars .plain t).map fun p => (Char.ofNat (n * 16 + v) :: p.1, p.2)
        else none
  | .hex n (left + 1), c :: t =>
      (hexValue c).bind fun v => readChars (.hex (n * 16 + v) left) t

/-- A string in quotes, read back. -/
def readString : Text → Option (Text × Text)
  | [] => none
  | c :: t => if c = '"' then readChars .plain t else none

private theorem hexValue_hexDigit : ∀ n < 16, hexValue (hexDigit n) = some n := by decide

/-- A control character's escape: two zero digits, then the digits of its code. -/
private theorem readChars_control {n : ℕ} (h : n < 32) (t : Text) :
    readChars (.hex 0 3) ('0' :: '0' :: hexDigit (n / 16) :: hexDigit (n % 16) :: t) =
      (readChars .plain t).map fun p => (Char.ofNat n :: p.1, p.2) := by
  have hzero : hexValue '0' = some 0 := by decide
  have hhigh := hexValue_hexDigit (n / 16) (by omega)
  have hlow := hexValue_hexDigit (n % 16) (by omega)
  have hn : n / 16 * 16 + n % 16 = n := by omega
  have hvalid : n.isValidChar := Or.inl (by omega)
  simp only [readChars, hzero, hhigh, hlow, Option.bind_some, Nat.zero_mul, Nat.zero_add, hn,
    if_pos hvalid]

/-- An escaped character is read back. -/
theorem readChars_escapeChar (c : Char) (t : Text) :
    readChars .plain (escapeChar c ++ t) =
      (readChars .plain t).map fun p => (c :: p.1, p.2) := by
  rw [escapeChar]
  split_ifs with h₁ h₂ h₃ h₄ h₅ h₆ h₇ h₈
  · subst h₁; rfl
  · subst h₂; rfl
  · subst h₃; rfl
  · subst h₄; rfl
  · subst h₅; rfl
  · subst h₆; rfl
  · subst h₇; rfl
  · have h := readChars_control h₈ t
    rw [Char.ofNat_toNat] at h
    rw [← h]
    rfl
  · rw [List.singleton_append, readChars, if_neg h₁, if_neg h₂, if_neg h₈]

/-- So are all characters of a printed string. -/
theorem readChars_print (s t : Text) :
    readChars .plain (s.flatMap escapeChar ++ '"' :: t) = some (s, t) := by
  induction s with
  | nil => simp [readChars]
  | cons c s ih =>
      rw [List.flatMap_cons, List.append_assoc, readChars_escapeChar, ih]
      rfl

/-- A successful step of the reader keeps its answer when more text arrives. -/
private theorem map_cons_more {o o' : Option (Text × Text)} {c : Char} {s r q : Text}
    (h : o.map (fun p => (c :: p.1, p.2)) = some (s, r))
    (ih : ∀ s', o = some (s', r) → o' = some (s', r ++ q)) :
    o'.map (fun p => (c :: p.1, p.2)) = some (s, r ++ q) := by
  rw [Option.map_eq_some_iff] at h
  obtain ⟨⟨s', r'⟩, hs, heq⟩ := h
  obtain ⟨rfl, rfl⟩ := Prod.mk.inj heq
  rw [ih s' hs]
  rfl

/-- What comes after a string does not matter to it. -/
theorem readChars_more {state : StringState} {t s r : Text}
    (h : readChars state t = some (s, r)) (q : Text) :
    readChars state (t ++ q) = some (s, r ++ q) := by
  induction t generalizing state s with
  | nil => simp [readChars] at h
  | cons c t ih =>
      rw [List.cons_append]
      cases state with
      | plain =>
          rw [readChars] at h ⊢
          split_ifs at h ⊢
          · obtain ⟨rfl, rfl⟩ := Prod.mk.inj (Option.some.inj h)
            rfl
          · exact ih h
          · exact map_cons_more h fun _ => ih
      | escape =>
          rw [readChars] at h ⊢
          split_ifs at h ⊢
          · exact ih h
          · rw [Option.bind_eq_some_iff] at h
            obtain ⟨d, hd, h⟩ := h
            rw [hd, Option.bind_some]
            exact map_cons_more h fun _ => ih
      | hex n left =>
          cases left with
          | zero =>
              rw [readChars, Option.bind_eq_some_iff] at h
              obtain ⟨v, hv, h⟩ := h
              split_ifs at h with hvalid
              rw [readChars, hv, Option.bind_some, if_pos hvalid]
              exact map_cons_more h fun _ => ih
          | succ left =>
              rw [readChars, Option.bind_eq_some_iff] at h
              obtain ⟨v, hv, h⟩ := h
              rw [readChars, hv, Option.bind_some]
              exact ih h

/-- The reader of strings is one of printed strings. -/
theorem reads_string : Reads printString readString where
  back x c rest _ := by
    simpa [printString, readString] using readChars_print x (c :: rest)
  more {t x r} h _ q := by
    cases t with
    | nil => simp [readString] at h
    | cons c t =>
        rw [readString] at h
        split_ifs at h with hc
        rw [List.cons_append, readString, if_pos hc]
        exact readChars_more h q
  starts x := ⟨'"', _, rfl, by decide, by decide⟩

/-! ### Members and records -/

/-- A member's value in the text form. -/
def printField : Field → Text
  | .string s => printString s
  | .byte n => decimal n.toNat
  | .strings ss => '[' :: printList printString ']' ss

/-- A byte in decimal, without leading zeros. -/
def readByte (t : Text) : Option (UInt8 × Text) :=
  let digits := t.takeWhile Char.isDigit
  let n := Nat.ofDigitChars 10 digits 0
  if decimal n = digits ∧ n < 256 then some (.ofNat n, t.dropWhile Char.isDigit) else none

/-- A member's value, read back; its first character says of which kind it is. -/
def readField : Text → Option (Field × Text)
  | [] => none
  | c :: t =>
      if c = '"' then (readString (c :: t)).map fun p => (.string p.1, p.2)
      else if c = '[' then (readList readString ']' t).map fun p => (.strings p.1, p.2)
      else (readByte (c :: t)).map fun p => (.byte p.1, p.2)

/-- A member in the text form. -/
def printMember (m : Text × Field) : Text := printString m.1 ++ ':' :: printField m.2

/-- A member, read back. -/
def readMember (t : Text) : Option ((Text × Field) × Text) :=
  (readString t).bind fun p =>
    match p.2 with
    | [] => none
    | c :: t => if c = ':' then (readField t).map fun q => ((p.1, q.1), q.2) else none

/-- The record's text: no blank anywhere outside the strings. -/
def Record.print (r : Record) : Text := '{' :: printList printMember '}' r

/-- A record, read back from the whole of a text. -/
def Record.read : Text → Option Record
  | [] => none
  | c :: t =>
      if c = '{' then
        match readList readMember '}' t with
        | some (r, []) => some r
        | _ => none
      else none

/-- A decimal number is made of digits. -/
theorem isDigit_of_mem_decimal {n : ℕ} {c : Char} (h : c ∈ decimal n) : c.isDigit :=
  Nat.isDigit_of_mem_toDigits (by decide) (by decide) h

/-- The digits of a byte end at the first character that is not a digit. -/
private theorem readByte_eq {digits r : Text} {c : Char} (hdigits : ∀ d ∈ digits, d.isDigit)
    (hc : c.isDigit = false) :
    readByte (digits ++ c :: r) =
      if decimal (Nat.ofDigitChars 10 digits 0) = digits ∧ Nat.ofDigitChars 10 digits 0 < 256
      then some (.ofNat (Nat.ofDigitChars 10 digits 0), c :: r) else none := by
  have htake : (digits ++ c :: r).takeWhile Char.isDigit = digits := by
    rw [List.takeWhile_append_of_pos hdigits, List.takeWhile_cons_of_neg (by simp [hc]),
      List.append_nil]
  have hdrop : (digits ++ c :: r).dropWhile Char.isDigit = c :: r := by
    rw [List.dropWhile_append_of_pos hdigits, List.dropWhile_cons_of_neg (by simp [hc])]
  simp only [readByte, htake, hdrop]

/-- The reader of numbers is one of printed bytes. -/
theorem reads_byte : Reads (fun n : UInt8 => decimal n.toNat) readByte where
  back x c rest hc := by
    have hdigit : c.isDigit = false := by rcases hc with rfl | rfl | rfl <;> decide
    rw [readByte_eq (fun d => isDigit_of_mem_decimal) hdigit]
    have hn : Nat.ofDigitChars 10 (decimal x.toNat) 0 = x.toNat := Nat.ofDigitChars_ten_toDigits
    rw [hn, if_pos ⟨rfl, x.toNat_lt⟩, UInt8.ofNat_toNat]
  more {t x r} h hne q := by
    have hsplit := List.takeWhile_append_dropWhile (p := Char.isDigit) (l := t)
    have hdigits : ∀ d ∈ t.takeWhile Char.isDigit, d.isDigit := fun d => List.mem_takeWhile_imp
    have hr : r = t.dropWhile Char.isDigit := by
      rw [readByte] at h
      split_ifs at h
      exact (Prod.mk.inj (Option.some.inj h)).2.symm
    obtain ⟨c, r', hcr⟩ := List.exists_cons_of_ne_nil hne
    have hc : c.isDigit = false := by
      have := List.head?_dropWhile_not Char.isDigit t
      rw [← hr, hcr] at this
      simpa using this
    rw [← hr, hcr] at hsplit
    rw [← hsplit, readByte_eq hdigits hc] at h
    split_ifs at h with hcan
    rw [← hsplit, List.append_assoc, List.cons_append, readByte_eq hdigits hc, if_pos hcan, hcr]
    obtain ⟨hx, -⟩ := Prod.mk.inj (Option.some.inj h)
    rw [hx]
    rfl
  starts x := by
    obtain ⟨c, rest, h⟩ := List.exists_cons_of_ne_nil (Nat.toDigits_ne_nil (n := x.toNat) (b := 10))
    have hc : c.isDigit := isDigit_of_mem_decimal (n := x.toNat) (by rw [decimal, h]; simp)
    refine ⟨c, rest, h, ?_, ?_⟩ <;> rintro rfl <;> simp at hc

/-- The reader of values is one of printed values. -/
theorem reads_field : Reads printField readField where
  back x c rest hc := by
    cases x with
    | string s =>
        have h := reads_string.back s c rest hc
        rw [printField, printString, List.cons_append, List.cons_append, readField, if_pos rfl]
        rw [printString, List.cons_append, List.cons_append] at h
        rw [h]
        rfl
    | byte n =>
        have h := reads_byte.back n c rest hc
        obtain ⟨d, ds, hd, -⟩ := reads_byte.starts n
        have hdigit : d.isDigit := isDigit_of_mem_decimal (n := n.toNat) (by rw [hd]; simp)
        have h₁ : d ≠ '"' := by rintro rfl; simp at hdigit
        have h₂ : d ≠ '[' := by rintro rfl; simp at hdigit
        simp only [printField] at h ⊢
        rw [hd, List.cons_append] at h ⊢
        rw [readField, if_neg h₁, if_neg h₂, h]
        rfl
    | strings ss =>
        rw [printField, List.cons_append, readField, if_neg (by decide), if_pos rfl,
          readList_printList reads_string (Or.inl rfl)]
        rfl
  more {t x r} h hne q := by
    cases t with
    | nil => simp [readField] at h
    | cons c t =>
        rw [readField] at h
        rw [List.cons_append, readField]
        split_ifs at h ⊢ with h₁ h₂
        · obtain ⟨⟨s, r'⟩, hs, heq⟩ := Option.map_eq_some_iff.mp h
          obtain ⟨rfl, rfl⟩ := Prod.mk.inj heq
          rw [← List.cons_append, reads_string.more hs hne q]
          rfl
        · obtain ⟨⟨ss, r'⟩, hss, heq⟩ := Option.map_eq_some_iff.mp h
          obtain ⟨rfl, rfl⟩ := Prod.mk.inj heq
          rw [readList_more reads_string hss q]
          rfl
        · obtain ⟨⟨n, r'⟩, hn, heq⟩ := Option.map_eq_some_iff.mp h
          obtain ⟨rfl, rfl⟩ := Prod.mk.inj heq
          rw [← List.cons_append, reads_byte.more hn hne q]
          rfl
  starts x := by
    cases x with
    | string s => exact reads_string.starts s
    | byte n => exact reads_byte.starts n
    | strings ss => exact ⟨'[', _, rfl, by decide, by decide⟩

/-- The colon after a key ends the key's string as a comma would. -/
private theorem readString_colon (s rest : Text) :
    readString (printString s ++ ':' :: rest) = some (s, ':' :: rest) := by
  simpa [printString, readString] using readChars_print s (':' :: rest)

/-- The reader of members is one of printed members. -/
theorem reads_member : Reads printMember readMember where
  back x c rest hc := by
    rw [printMember, List.append_assoc, List.cons_append, readMember, readString_colon,
      Option.bind_some]
    simp only [if_true]
    rw [reads_field.back x.2 c rest hc]
    rfl
  more {t x r} h hne q := by
    rw [readMember, Option.bind_eq_some_iff] at h
    obtain ⟨⟨k, t'⟩, hk, h⟩ := h
    cases t' with
    | nil => simp at h
    | cons c t' =>
        simp only at h
        split_ifs at h with hc
        obtain ⟨⟨v, r'⟩, hv, heq⟩ := Option.map_eq_some_iff.mp h
        obtain ⟨rfl, rfl⟩ := Prod.mk.inj heq
        rw [readMember, reads_string.more hk (List.cons_ne_nil _ _) q, Option.bind_some]
        simp only [List.cons_append]
        rw [if_pos hc, reads_field.more hv hne q]
        rfl
  starts x := ⟨'"', _, rfl, by decide, by decide⟩

/-- A printed record is read back. -/
theorem Record.read_print (r : Record) : Record.read r.print = some r := by
  have h := readList_printList (z := '}') reads_member (Or.inr rfl) r []
  rw [List.append_nil] at h
  rw [Record.print, Record.read, if_pos rfl, h]

/-- A text that continues to a printed record and is itself read is the whole of it. -/
theorem Record.read_cut {r : Record} {p : Text} (hp : p <+: r.print) (hne : p ≠ r.print) :
    Record.read p = none := by
  obtain ⟨q, hq⟩ := hp
  by_contra hsome
  obtain ⟨r', hr'⟩ := Option.ne_none_iff_exists'.mp hsome
  apply hne
  cases p with
  | nil => simp [Record.read] at hr'
  | cons c t =>
      rw [Record.read] at hr'
      split_ifs at hr' with hc
      split at hr'
      · next r₀ ht =>
        have hmore := readList_more reads_member ht q
        have hall := readList_printList (z := '}') reads_member (Or.inr rfl) r []
        rw [Record.print, List.cons_append] at hq
        obtain ⟨-, htail⟩ := List.cons.inj hq
        rw [List.append_nil] at hall
        rw [htail, hall] at hmore
        obtain ⟨-, hnil⟩ := Prod.mk.inj (Option.some.inj hmore)
        have hqnil : q = [] := by simpa using hnil.symm
        rw [Record.print, hc, ← htail, hqnil, List.append_nil]
      · simp at hr'

/-! ### What a printed record is made of -/

/-- No escaped character has a line feed in it. -/
theorem newline_not_mem_escapeChar (c : Char) : '\n' ∉ escapeChar c := by
  have hhex : ∀ n < 32, '\n' ≠ hexDigit (n / 16) ∧ '\n' ≠ hexDigit (n % 16) := by decide
  rw [escapeChar]
  split_ifs with h₁ h₂ h₃ h₄ h₅ h₆ h₇ h₈
  all_goals first | decide | skip
  · simpa using hhex c.toNat h₈
  · simpa using Ne.symm h₅

/-- Nor has a printed string. -/
theorem newline_not_mem_printString (s : Text) : '\n' ∉ printString s := by
  simp [printString, newline_not_mem_escapeChar]

/-- Nor a printed list of items that have none. -/
theorem newline_not_mem_printList {α : Type*} {item : α → Text} (hitem : ∀ x, '\n' ∉ item x)
    {z : Char} (hclose : '\n' ≠ z) (xs : List α) : '\n' ∉ printList item z xs := by
  induction xs with
  | nil => simpa [printList] using hclose
  | cons x xs ih =>
      cases xs with
      | nil => simpa [printList, hitem] using hclose
      | cons y ys => simpa [printList, hitem] using ih

/-- Nor a printed value. -/
theorem newline_not_mem_printField (f : Field) : '\n' ∉ printField f := by
  cases f with
  | string s => exact newline_not_mem_printString s
  | byte n =>
      intro h
      simpa using isDigit_of_mem_decimal h
  | strings ss =>
      simpa [printField] using newline_not_mem_printList newline_not_mem_printString (by decide) ss

/-- A printed record stands on one line. -/
theorem Record.newline_not_mem_print (r : Record) : '\n' ∉ r.print := by
  have hmember : ∀ m, '\n' ∉ printMember m := by
    intro m
    simp [printMember, newline_not_mem_printString, newline_not_mem_printField]
  simpa [Record.print] using newline_not_mem_printList hmember (by decide) r

/-- A printed list ends with its closing bracket. -/
theorem printList_getLast? {α : Type*} (item : α → Text) (z : Char) (xs : List α) :
    (printList item z xs).getLast? = some z := by
  induction xs with
  | nil => rfl
  | cons x xs ih =>
      cases xs with
      | nil => simp [printList]
      | cons y ys => simp [printList, List.getLast?_cons, ih]

/-- A printed record ends with its brace. -/
theorem Record.print_getLast? (r : Record) : r.print.getLast? = some '}' := by
  rw [Record.print, List.getLast?_cons, printList_getLast?]
  rfl

end Fauna.Lib
