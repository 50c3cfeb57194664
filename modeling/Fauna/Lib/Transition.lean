import Mathlib.Logic.Relation
import Mathlib.Data.List.Induction

/-!
# Labelled transition systems

Runs, reachable states and the rules every state-machine argument of the development goes
through: an invariant of the steps is an invariant of the runs (`Run.invariant`,
`Reachable.invariant`), a condition on the steps of a run is a restricted system
(`Lts.restrict`), and a quiescent state is one where no label of a given kind is enabled; where
such labels cannot go on forever, some run of them ends in one (`exists_quiescent`).

A log is disciplined where every entry was permitted by the entries before it; that is what a
system keeps that only ever appends a permitted entry.

Nothing here knows what the states, the labels or the entries are.
-/

namespace Fauna.Lib

variable {σ α : Type*}

/-- A labelled transition system: where a run may begin, and what each label may do. -/
structure Lts (σ α : Type*) where
  /-- The states a run begins in. -/
  init : σ → Prop
  /-- `step s a t`: taking the label `a` in `s` may lead to `t`. -/
  step : σ → α → σ → Prop

namespace Lts

/-- The system of an executable step function: a label is enabled where the function answers. -/
def ofStep (init : σ → Prop) (f : σ → α → Option σ) : Lts σ α where
  init := init
  step s a t := f s a = some t

variable (L : Lts σ α)

/-- `L.Run s ls t`: the labels `ls`, taken in order from `s`, lead to `t`. -/
inductive Run : σ → List α → σ → Prop
  | nil (s : σ) : Run s [] s
  | cons {s t u : σ} {a : α} {ls : List α} : L.step s a t → Run t ls u → Run s (a :: ls) u

/-- A state some run from an initial state leads to. -/
def Reachable (s : σ) : Prop := ∃ s₀ ls, L.init s₀ ∧ L.Run s₀ ls s

/-- The same system, with only the steps that meet `keep` in the state before the step. -/
def restrict (keep : σ → α → Prop) : Lts σ α where
  init := L.init
  step s a t := keep s a ∧ L.step s a t

/-- A label that can be taken. -/
def Enabled (s : σ) (a : α) : Prop := ∃ t, L.step s a t

/-- No label of the kind `internal` can be taken. -/
def Quiescent (internal : α → Prop) (s : σ) : Prop := ∀ a, internal a → ¬ L.Enabled s a

variable {L}

/-! ## Runs -/

/-- A step is a run. -/
theorem Run.single {s t : σ} {a : α} (h : L.step s a t) : L.Run s [a] t := .cons h (.nil t)

/-- A run after a run is a run. -/
theorem Run.append {s t u : σ} {ls ms : List α} (h : L.Run s ls t) (h' : L.Run t ms u) :
    L.Run s (ls ++ ms) u := by
  induction h with
  | nil s => exact h'
  | cons hs _ ih => exact .cons hs (ih h')

/-- A run splits wherever its label list does. -/
theorem Run.split {s u : σ} {ls ms : List α} (h : L.Run s (ls ++ ms) u) :
    ∃ t, L.Run s ls t ∧ L.Run t ms u := by
  induction ls generalizing s with
  | nil => exact ⟨s, .nil s, h⟩
  | cons a ls ih =>
      cases h with
      | cons hs hrest =>
          obtain ⟨t, h₁, h₂⟩ := ih hrest
          exact ⟨t, .cons hs h₁, h₂⟩

/-- What every step keeps, every run keeps. -/
theorem Run.invariant {Inv : σ → Prop} (hstep : ∀ s a t, Inv s → L.step s a t → Inv t)
    {s t : σ} {ls : List α} (h : L.Run s ls t) (hs : Inv s) : Inv t := by
  induction h with
  | nil s => exact hs
  | cons ha _ ih => exact ih (hstep _ _ _ hs ha)

/-- The same for what is kept of a state together with the labels that have led to it. -/
theorem Run.history {Inv : List α → σ → Prop}
    (hstep : ∀ ls s a t, Inv ls s → L.step s a t → Inv (ls ++ [a]) t) {s t : σ} {before ls : List α}
    (h : L.Run s ls t) (hs : Inv before s) : Inv (before ++ ls) t := by
  induction h generalizing before with
  | nil s => rwa [List.append_nil]
  | @cons s t u a ls ha _ ih =>
      have hnext := ih (hstep _ _ _ _ hs ha)
      rwa [List.append_assoc] at hnext

/-- A run of a system is one of every system that takes the same steps. -/
theorem Run.mono {L' : Lts σ α} {s t : σ} {ls : List α} (h : L.Run s ls t)
    (hstep : ∀ s a t, L.step s a t → L'.step s a t) : L'.Run s ls t := by
  induction h with
  | nil s => exact .nil s
  | cons ha _ ih => exact .cons (hstep _ _ _ ha) ih

/-- A run of a restricted system is a run of the system. -/
theorem Run.of_restrict {keep : σ → α → Prop} {s t : σ} {ls : List α}
    (h : (L.restrict keep).Run s ls t) : L.Run s ls t :=
  h.mono fun _ _ _ hstep => hstep.2

/-- A run whose labels all meet a condition is a run of the restricted system. -/
theorem Run.to_restrict {keep : α → Prop} {s t : σ} {ls : List α} (h : L.Run s ls t)
    (hkeep : ∀ a ∈ ls, keep a) : (L.restrict fun _ a => keep a).Run s ls t := by
  induction h with
  | nil s => exact .nil s
  | cons ha _ ih =>
      obtain ⟨hfirst, hrest⟩ := List.forall_mem_cons.1 hkeep
      exact .cons ⟨hfirst, ha⟩ (ih hrest)

/-- A condition that is weaker on the labels keeps the run. -/
theorem Run.weaken {keep keep' : σ → α → Prop} (hk : ∀ s a, keep s a → keep' s a)
    {s t : σ} {ls : List α} (h : (L.restrict keep).Run s ls t) :
    (L.restrict keep').Run s ls t :=
  h.mono fun _ _ _ hstep => ⟨hk _ _ hstep.1, hstep.2⟩

/-! ## Reachable states -/

/-- A run begins in a reachable state. -/
theorem Reachable.of_init {s : σ} (h : L.init s) : L.Reachable s := ⟨s, [], h, .nil s⟩

/-- A run from a reachable state leads to reachable states. -/
theorem Reachable.run {s t : σ} {ls : List α} (h : L.Reachable s) (hr : L.Run s ls t) :
    L.Reachable t := by
  obtain ⟨s₀, ms, h₀, hms⟩ := h
  exact ⟨s₀, ms ++ ls, h₀, hms.append hr⟩

/-- So does a step. -/
theorem Reachable.step {s t : σ} {a : α} (h : L.Reachable s) (ha : L.step s a t) :
    L.Reachable t :=
  h.run (.single ha)

/-- The invariant rule: what holds initially and is kept by every step holds of every
reachable state. -/
theorem Reachable.invariant {Inv : σ → Prop} (hinit : ∀ s, L.init s → Inv s)
    (hstep : ∀ s a t, Inv s → L.step s a t → Inv t) {s : σ} (h : L.Reachable s) : Inv s := by
  obtain ⟨s₀, ls, h₀, hls⟩ := h
  exact hls.invariant hstep (hinit s₀ h₀)

/-- The same for a step that may use that the state before it is reachable. -/
theorem Reachable.induction {Inv : σ → Prop} (hinit : ∀ s, L.init s → Inv s)
    (hstep : ∀ s a t, L.Reachable s → Inv s → L.step s a t → Inv t) {s : σ} (h : L.Reachable s) :
    Inv s := by
  obtain ⟨s₀, ls, h₀, hls⟩ := h
  have hreachable := Reachable.of_init h₀
  have hinv := hinit s₀ h₀
  clear h₀
  induction hls with
  | nil s => exact hinv
  | cons ha _ ih => exact ih (hreachable.step ha) (hstep _ _ _ hreachable hinv ha)

/-- What a restricted system reaches, the system reaches. -/
theorem Reachable.of_restrict {keep : σ → α → Prop} {s : σ}
    (h : (L.restrict keep).Reachable s) : L.Reachable s := by
  obtain ⟨s₀, ls, h₀, hls⟩ := h
  exact ⟨s₀, ls, h₀, hls.of_restrict⟩

/-- `L.Internal internal t s`: one label of the kind `internal` leads from `s` to `t`. -/
def Internal (L : Lts σ α) (internal : α → Prop) (t s : σ) : Prop := ∃ a, internal a ∧ L.step s a t

/-- Where there is no endless run of internal labels, one of them ends in a quiescent state. -/
theorem exists_quiescent {internal : α → Prop} {s : σ} (h : Acc (L.Internal internal) s) :
    ∃ ls t, (∀ a ∈ ls, internal a) ∧ L.Run s ls t ∧ L.Quiescent internal t := by
  induction h with
  | intro s _ ih =>
      by_cases hq : L.Quiescent internal s
      · exact ⟨[], s, by simp, .nil s, hq⟩
      · unfold Quiescent Enabled at hq
        push Not at hq
        obtain ⟨a, ha, u, hs⟩ := hq
        obtain ⟨ls, t, hls, hrun, ht⟩ := ih u ⟨a, ha, hs⟩
        exact ⟨a :: ls, t, List.forall_mem_cons.2 ⟨ha, hls⟩, .cons hs hrun, ht⟩

/-- In a quiescent state, no enabled label is internal. -/
theorem Quiescent.not_enabled {internal : α → Prop} {s : σ} (h : L.Quiescent internal s)
    {a : α} (ha : internal a) {t : σ} : ¬ L.step s a t :=
  fun hs => h a ha ⟨t, hs⟩

end Lts

/-! ## Logs -/

/-- Every entry of a log was permitted by the entries before it. -/
def Disciplined (permits : List α → α → Prop) (log : List α) : Prop :=
  ∀ before entry after, log = before ++ entry :: after → permits before entry

variable {permits : List α → α → Prop} {log log' : List α}

/-- The empty log. -/
theorem Disciplined.nil : Disciplined permits [] := by
  intro before entry after h
  simp at h

/-- A log grows by what is permitted after it. -/
theorem Disciplined.append {entry : α} (h : Disciplined permits log) (hentry : permits log entry) :
    Disciplined permits (log ++ [entry]) := by
  intro before entry' after hsplit
  rcases List.eq_nil_or_concat after with rfl | ⟨after, last, rfl⟩
  · obtain ⟨rfl, hlast⟩ := List.append_inj' hsplit rfl
    obtain rfl := List.singleton_inj.1 hlast
    exact hentry
  · have hsplit' : log ++ [entry] = (before ++ entry' :: after) ++ [last] := by
      rw [hsplit, List.concat_eq_append, List.append_assoc, List.cons_append]
    obtain ⟨hlog, -⟩ := List.append_inj' hsplit' rfl
    exact h before entry' after hlog

/-- The beginning of a log is one. -/
theorem Disciplined.of_isPrefix (h : Disciplined permits log) (hlog : log' <+: log) :
    Disciplined permits log' := by
  obtain ⟨more, rfl⟩ := hlog
  intro before entry after hsplit
  apply h before entry (after ++ more)
  rw [hsplit, List.append_assoc, List.cons_append]

/-- Entries that permit no later one of their kind come at most once. -/
theorem Disciplined.countP_le_one {kind : α → Bool} (h : Disciplined permits log)
    (hkind : ∀ before entry, permits before entry → kind entry = true →
      ∀ earlier ∈ before, kind earlier = false) : log.countP kind ≤ 1 := by
  induction log using List.reverseRecOn with
  | nil => exact Nat.zero_le 1
  | append_singleton log entry ih =>
      have hlog : log.countP kind ≤ 1 := ih (h.of_isPrefix (List.prefix_append _ _))
      rw [List.countP_append, List.countP_singleton]
      split
      · next hentry =>
        have hearlier := hkind log entry (h log entry [] rfl) hentry
        have hnone : log.countP kind = 0 := by
          rw [List.countP_eq_zero]
          intro earlier hmem
          simp [hearlier earlier hmem]
        omega
      · exact hlog

end Fauna.Lib
