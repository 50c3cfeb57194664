import Mathlib.Data.List.Infix

/-!
# Cutting a text in two

`splitOnce` cuts a list at the first place where a separator stands, `rsplitOnce` at the last place
of one element. Both leave the separator out.

* `splitOnce_eq_some`: the parts around the cut.
* `rsplitOnce_eq_some_iff`, `rsplitOnce_eq_none_iff`: the parts around the last place, and when
  there is none.
* `isPrefix_append_cons_iff`, `concat_isPrefix_append_cons_iff`: how a text with a cut begins.
* `append_cons_inj`: a text has one first cut.
-/

namespace Fauna.Lib

variable {α : Type*} [DecidableEq α]

/-- What stands before the first `sep`, and what stands after it. -/
def splitOnce (sep : List α) : List α → Option (List α × List α)
  | [] => (sep.isPrefixOf? []).map fun rest => ([], rest)
  | a :: as =>
      match sep.isPrefixOf? (a :: as) with
      | some rest => some ([], rest)
      | none => (splitOnce sep as).map fun p => (a :: p.1, p.2)

/-- What stands before the last `a`, and what stands after it. -/
def rsplitOnce (a : α) : List α → Option (List α × List α)
  | [] => none
  | b :: bs =>
      match rsplitOnce a bs with
      | some p => some (b :: p.1, p.2)
      | none => if b = a then some ([], bs) else none

/-- Nothing is cut off a text that does not begin so. -/
theorem isPrefixOf?_eq_none_iff {sep t : List α} : sep.isPrefixOf? t = none ↔ ¬ sep <+: t := by
  rw [Option.eq_none_iff_forall_ne_some]
  simp only [ne_eq, List.isPrefixOf?_eq_some_iff_append_eq]
  exact ⟨fun h ⟨rest, hrest⟩ => h rest hrest, fun h rest hrest => h ⟨rest, hrest⟩⟩

/-- The parts of a text and what stood between them. -/
theorem splitOnce_eq_some {sep t before after : List α}
    (h : splitOnce sep t = some (before, after)) : before ++ sep ++ after = t := by
  induction t generalizing before with
  | nil =>
      obtain ⟨rest, hrest, hp⟩ := Option.map_eq_some_iff.1 h
      obtain ⟨rfl, rfl⟩ := Prod.mk.inj hp
      simpa using hrest
  | cons a as ih =>
      rw [splitOnce] at h
      split at h
      · next rest hrest =>
        obtain ⟨rfl, rfl⟩ := Prod.mk.inj (Option.some.inj h)
        simpa using hrest
      · obtain ⟨⟨before', after'⟩, hsplit, hp⟩ := Option.map_eq_some_iff.1 h
        obtain ⟨rfl, rfl⟩ := Prod.mk.inj hp
        rw [List.cons_append, List.cons_append, ih hsplit]

/-- A text is not cut where the separator is not in it. -/
theorem rsplitOnce_eq_none_iff {a : α} {t : List α} : rsplitOnce a t = none ↔ a ∉ t := by
  induction t with
  | nil => simp [rsplitOnce]
  | cons b bs ih =>
      rw [rsplitOnce, List.mem_cons, not_or, ← ih]
      cases rsplitOnce a bs with
      | some p => simp
      | none => simp [eq_comm]

/-- It is cut at the last separator. -/
theorem rsplitOnce_append {a : α} {after : List α} (h : a ∉ after) (before : List α) :
    rsplitOnce a (before ++ a :: after) = some (before, after) := by
  induction before with
  | nil => rw [List.nil_append, rsplitOnce, rsplitOnce_eq_none_iff.2 h, if_pos rfl]
  | cons b before ih => rw [List.cons_append, rsplitOnce, ih]

/-- How a text is cut at its last separator. -/
theorem rsplitOnce_eq_some_iff {a : α} {t before after : List α} :
    rsplitOnce a t = some (before, after) ↔ t = before ++ a :: after ∧ a ∉ after := by
  constructor
  · intro h
    induction t generalizing before with
    | nil => cases h
    | cons b bs ih =>
        rw [rsplitOnce] at h
        split at h
        · next p hp =>
          obtain ⟨rfl, rfl⟩ := Prod.mk.inj (Option.some.inj h)
          obtain ⟨hbs, hafter⟩ := ih hp
          exact ⟨by rw [List.cons_append, ← hbs], hafter⟩
        · next hnone =>
          rw [Option.ite_none_right_eq_some] at h
          obtain ⟨rfl, h⟩ := h
          obtain ⟨rfl, rfl⟩ := Prod.mk.inj (Option.some.inj h)
          exact ⟨rfl, rsplitOnce_eq_none_iff.1 hnone⟩
  · rintro ⟨rfl, hafter⟩
    exact rsplitOnce_append hafter before

section Prefix

variable {β : Type*} {a : β} {s before after : List β}

/-- A start without the element is a start of what stands before the element. -/
theorem isPrefix_append_cons_iff (ha : a ∉ s) : s <+: before ++ a :: after ↔ s <+: before := by
  constructor
  · rintro ⟨rest, h⟩
    rcases List.append_eq_append_iff.1 h with ⟨more, hbefore, -⟩ | ⟨more, hs, hmore⟩
    · exact ⟨more, hbefore.symm⟩
    · cases more with
      | nil => exact ⟨[], by rw [List.append_nil, hs, List.append_nil]⟩
      | cons b more =>
          obtain ⟨rfl, -⟩ := List.cons.inj hmore
          exact absurd (hs ▸ List.mem_append_right _ List.mem_cons_self) ha
  · exact fun h => h.trans (List.prefix_append _ _)

/-- Where two texts are one, so are the parts around the first place of an element. -/
theorem append_cons_inj {before' after' : List β} (h : a ∉ before) (h' : a ∉ before') :
    before ++ a :: after = before' ++ a :: after' ↔ before = before' ∧ after = after' := by
  constructor
  · intro heq
    have hle : before <+: before' := (isPrefix_append_cons_iff h).1 ⟨a :: after, heq⟩
    have hge : before' <+: before := (isPrefix_append_cons_iff h').1 ⟨a :: after', heq.symm⟩
    obtain rfl := hle.eq_of_length_le hge.length_le
    exact ⟨rfl, (List.cons.inj (List.append_cancel_left heq)).2⟩
  · rintro ⟨rfl, rfl⟩
    rfl

/-- A start that ends in the element is all that stands before it and the element, or a start of
what stands before it. -/
theorem concat_isPrefix_append_cons_iff (ha : a ∉ s) :
    s ++ [a] <+: before ++ a :: after ↔ s = before ∨ s ++ [a] <+: before := by
  constructor
  · intro h
    have hs : s <+: before :=
      (isPrefix_append_cons_iff ha).1 ((List.prefix_append s [a]).trans h)
    obtain ⟨rest, rfl⟩ := hs
    cases rest with
    | nil => exact Or.inl (List.append_nil s).symm
    | cons b rest =>
        rw [List.append_assoc, List.prefix_append_right_inj] at h
        obtain ⟨more, hmore⟩ := h
        obtain ⟨rfl, -⟩ := List.cons.inj hmore
        exact Or.inr ⟨rest, by rw [List.append_assoc]; rfl⟩
  · rintro (rfl | h)
    · exact ⟨after, by rw [List.append_assoc]; rfl⟩
    · exact h.trans (List.prefix_append _ _)

end Prefix

end Fauna.Lib
