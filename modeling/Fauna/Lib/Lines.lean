import Fauna.Lib.Utf8

/-!
# Newline framing of a byte stream

`takeLine` splits a buffer after its first line feed; `nextLine` is what is read when the stream
has ended, where the last line may lack its line feed. `readUntil` is the loop of a buffered
reader: it looks for a line feed in what it has buffered and asks for the next chunk only when
there is none.

* `readUntil_eq_nextLine`: how the stream is chunked never changes the line, nor what remains.
* `takeLine_eq_of_eq`: a buffer at the front of a stream of lines yields the stream's own first
  line.
-/

namespace Fauna.Lib

/-- The line feed. -/
abbrev newline : UInt8 := 10

/-- The bytes up to and including the first line feed, and the bytes after it. -/
def takeLine : Bytes → Option (Bytes × Bytes)
  | [] => none
  | b :: bs =>
      if b = newline then some ([newline], bs)
      else (takeLine bs).map fun p => (b :: p.1, p.2)

/-- There is no whole line where there is no line feed. -/
theorem takeLine_eq_none_iff {bs : Bytes} : takeLine bs = none ↔ newline ∉ bs := by
  induction bs with
  | nil => simp [takeLine]
  | cons b bs ih =>
      by_cases hb : b = newline
      · simp [takeLine, hb]
      · simp [takeLine, hb, ih, Ne.symm hb]

/-- What a successful split says: the line is a body without a line feed, and one line feed. -/
theorem takeLine_eq_some {bs l r : Bytes} (h : takeLine bs = some (l, r)) :
    ∃ body, newline ∉ body ∧ l = body ++ [newline] ∧ bs = l ++ r := by
  induction bs generalizing l with
  | nil => simp [takeLine] at h
  | cons b bs ih =>
      by_cases hb : b = newline
      · simp only [takeLine, hb, if_true, Option.some.injEq, Prod.mk.injEq] at h
        obtain ⟨rfl, rfl⟩ := h
        exact ⟨[], List.not_mem_nil, rfl, by simp [hb]⟩
      · simp only [takeLine, hb, if_false, Option.map_eq_some_iff] at h
        obtain ⟨⟨l', r'⟩, hrest, heq⟩ := h
        obtain ⟨rfl, rfl⟩ := Prod.mk.inj heq
        obtain ⟨body, hbody, rfl, rfl⟩ := ih hrest
        exact ⟨b :: body, by simp [hbody, Ne.symm hb], rfl, rfl⟩

/-- The first line goes up to its line feed. -/
theorem takeLine_append_newline {body : Bytes} (h : newline ∉ body) (r : Bytes) :
    takeLine (body ++ newline :: r) = some (body ++ [newline], r) := by
  induction body with
  | nil => simp [takeLine]
  | cons b body ih =>
      rw [List.mem_cons, not_or] at h
      rw [List.cons_append, takeLine, if_neg (Ne.symm h.1), ih h.2]
      rfl

/-- A line already in the buffer is not changed by what arrives after it. -/
theorem takeLine_append {bs l r : Bytes} (h : takeLine bs = some (l, r)) (x : Bytes) :
    takeLine (bs ++ x) = some (l, r ++ x) := by
  obtain ⟨body, hbody, rfl, rfl⟩ := takeLine_eq_some h
  simpa using takeLine_append_newline hbody (r ++ x)

/-- What is taken and what remains are the buffer. -/
theorem takeLine_join {bs l r : Bytes} (h : takeLine bs = some (l, r)) : l ++ r = bs := by
  obtain ⟨_, _, _, rfl⟩ := takeLine_eq_some h
  rfl

/-- A whole line is not empty. -/
theorem takeLine_ne_nil {bs l r : Bytes} (h : takeLine bs = some (l, r)) : l ≠ [] := by
  obtain ⟨body, _, rfl, _⟩ := takeLine_eq_some h
  simp

/-! ## A buffer that holds a cut of a stream of lines -/

/-- A buffer `p` whose bytes, with those still to come, are a stream that begins with the line
`body`: a line taken from `p` is that line. -/
theorem takeLine_eq_of_eq {body p x y l r : Bytes} (hbody : newline ∉ body)
    (h : p ++ x = body ++ newline :: y) (hp : takeLine p = some (l, r)) :
    l = body ++ [newline] ∧ r ++ x = y := by
  have h₁ := takeLine_append hp x
  rw [h, takeLine_append_newline hbody] at h₁
  obtain ⟨h₂, h₃⟩ := Prod.mk.inj (Option.some.inj h₁)
  exact ⟨h₂.symm, h₃.symm⟩

/-! ## Reading a chunked stream -/

/-- The next line of a stream that ends after `bs`: all of it when no line feed is left. -/
def nextLine (bs : Bytes) : Bytes × Bytes :=
  match takeLine bs with
  | some p => p
  | none => (bs, [])

@[simp] theorem nextLine_nil : nextLine [] = ([], []) := rfl

/-- The loop of a buffered reader: a line from the buffer, or one more chunk. -/
def readUntil : Bytes → List Bytes → Bytes × Bytes × List Bytes
  | buffer, [] =>
      match takeLine buffer with
      | some (l, r) => (l, r, [])
      | none => (buffer, [], [])
  | buffer, c :: chunks =>
      match takeLine buffer with
      | some (l, r) => (l, r, c :: chunks)
      | none => readUntil (buffer ++ c) chunks

/-- Chunking changes neither the line nor the bytes that remain. -/
theorem readUntil_eq_nextLine (buffer : Bytes) (chunks : List Bytes) :
    ((readUntil buffer chunks).1,
      (readUntil buffer chunks).2.1 ++ (readUntil buffer chunks).2.2.flatten) =
    nextLine (buffer ++ chunks.flatten) := by
  induction chunks generalizing buffer with
  | nil =>
      rw [readUntil, nextLine, List.flatten_nil, List.append_nil]
      cases takeLine buffer <;> simp
  | cons c chunks ih =>
      rw [readUntil]
      cases h : takeLine buffer with
      | none =>
          simpa using ih (buffer ++ c)
      | some p =>
          obtain ⟨l, r⟩ := p
          rw [nextLine, takeLine_append h]

/-- Something is taken of bytes that are left. -/
theorem nextLine_length (bs : Bytes) (hne : bs ≠ []) : (nextLine bs).2.length < bs.length := by
  rw [nextLine]
  cases h : takeLine bs with
  | none => simpa [List.length_pos_iff] using hne
  | some p =>
      have hjoin := takeLine_join h
      have hl := takeLine_ne_nil h
      have := congrArg List.length hjoin
      rw [List.length_append] at this
      have := List.length_pos_iff.mpr hl
      simp only
      omega

/-- A whole line is taken with its line feed. -/
theorem nextLine_line {body : Bytes} (h : newline ∉ body) (r : Bytes) :
    nextLine (body ++ newline :: r) = (body ++ [newline], r) := by
  rw [nextLine, takeLine_append_newline h]

/-! ## All the lines of a stream -/

/-- The lines of a stream that ends, each with its line feed; the last may lack it. -/
def splitLines : Bytes → List Bytes
  | [] => []
  | b :: bs =>
      if b = newline then [newline] :: splitLines bs
      else
        match splitLines bs with
        | [] => [[b]]
        | l :: ls => (b :: l) :: ls

/-- A byte that is no line feed is part of the line. -/
theorem nextLine_cons {b : UInt8} (hb : b ≠ newline) (bs : Bytes) :
    nextLine (b :: bs) = (b :: (nextLine bs).1, (nextLine bs).2) := by
  rw [nextLine, takeLine, if_neg hb, nextLine]
  cases takeLine bs <;> rfl

/-- Splitting takes one line after the other. -/
theorem splitLines_eq {bs : Bytes} (hne : bs ≠ []) :
    splitLines bs = (nextLine bs).1 :: splitLines (nextLine bs).2 := by
  induction bs with
  | nil => exact absurd rfl hne
  | cons b bs ih =>
      by_cases hb : b = newline
      · simp [splitLines, nextLine, takeLine, hb]
      · cases bs with
        | nil => simp [splitLines, nextLine, takeLine, hb]
        | cons c cs =>
            rw [splitLines, if_neg hb, ih (List.cons_ne_nil c cs), nextLine_cons hb]

/-- The lines of a stream, from its first one on. -/
theorem splitLines_line {body : Bytes} (h : newline ∉ body) (r : Bytes) :
    splitLines (body ++ newline :: r) = (body ++ [newline]) :: splitLines r := by
  rw [splitLines_eq (by simp), nextLine_line h]

/-- What is left after the last line feed is one more line, unless nothing is. -/
theorem splitLines_of_not_mem {bs : Bytes} (h : newline ∉ bs) :
    splitLines bs = if bs = [] then [] else [bs] := by
  split
  · next hnil => rw [hnil]; rfl
  · next hne =>
    rw [splitLines_eq hne, nextLine, takeLine_eq_none_iff.2 h]
    rfl

/-- A stream that begins with whole lines splits into them and what comes after them. -/
theorem splitLines_flatten_append {lines : List Bytes}
    (h : ∀ l ∈ lines, ∃ body, newline ∉ body ∧ l = body ++ [newline]) (bs : Bytes) :
    splitLines (lines.flatten ++ bs) = lines ++ splitLines bs := by
  induction lines with
  | nil => rfl
  | cons l ls ih =>
      obtain ⟨body, hbody, rfl⟩ := h l List.mem_cons_self
      have := splitLines_line hbody (ls.flatten ++ bs)
      rw [ih fun l hl => h l (List.mem_cons_of_mem _ hl)] at this
      simpa using this

/-- A stream that was put together from whole lines splits into them. -/
theorem splitLines_flatten {lines : List Bytes}
    (h : ∀ l ∈ lines, ∃ body, newline ∉ body ∧ l = body ++ [newline]) :
    splitLines lines.flatten = lines := by
  simpa [splitLines] using splitLines_flatten_append h []

end Fauna.Lib
