import Fauna.Lib.Routine
import Mathlib.Logic.Function.Basic

/-!
# Routines that share an outside

Any number of threads, each of them a routine. A part of the outside belongs to all of them, and
each has a part of its own; they take turns call by call, in any order.

A thread sees the others only in what they do to the shared part. Where `Rely` bounds what any call
may do to it, it is enough to prove a thread right against an outside in which the shared part may
change in this way before each call.

* `holds_rest`: what is proved of one thread holds of what is left of it in every interleaving.
* `kept_own`: what all permitted calls of one thread keep, the others keep too.
* `run_alone`: a thread that goes on alone.
-/

namespace Fauna.Lib.Routine

variable {ι Call γ κ : Type} {Answer : Call → Type} {ε α : Type} [DecidableEq ι]

/-- The shared part, and for each thread its own part and what is left of its routine. -/
structure Threads (ι : Type) (Answer : Call → Type) (ε α γ κ : Type) where
  shared : γ
  own : ι → κ
  rest : ι → Routine Answer ε α

/-- The threads over an outside of a shared and an own part. One of them makes its next call. -/
def interleaving (outside : Lts (γ × κ) (Answered Answer))
    (starts : Threads ι Answer ε α γ κ → Prop) :
    Lts (Threads ι Answer ε α γ κ) (ι × Answered Answer) where
  init := starts
  step s e t := ∃ shared own rest, Step (s.rest e.1) e.2 rest ∧
    outside.step (s.shared, s.own e.1) e.2 (shared, own) ∧
      t = ⟨shared, Function.update s.own e.1 own, Function.update s.rest e.1 rest⟩

/-- The outside of one thread: before each call, the others may have changed the shared part. -/
def interfered (rely : γ → γ → Prop) (outside : Lts (γ × κ) (Answered Answer)) :
    Lts (γ × κ) (Answered Answer) where
  init := outside.init
  step s e t := ∃ shared, rely s.1 shared ∧ outside.step (shared, s.2) e t

/-- No call changes the shared part in another way. -/
structure Rely (rely : γ → γ → Prop) (outside : Lts (γ × κ) (Answered Answer)) : Prop where
  refl : ∀ shared, rely shared shared
  trans : ∀ a b c, rely a b → rely b c → rely a c
  guarantee : ∀ s e t, outside.step s e t → rely s.1 t.1

/-- What a thread is to do and to come to does not depend on such changes. -/
structure Stable (rely : γ → γ → Prop) (permits : γ × κ → Call → Prop)
    (post : Except ε α → γ × κ → Prop) : Prop where
  permits : ∀ a b own c, rely a b → permits (a, own) c → permits (b, own) c
  post : ∀ a b own result, rely a b → post result (a, own) → post result (b, own)

variable {outside : Lts (γ × κ) (Answered Answer)} {rely : γ → γ → Prop}
  {starts : Threads ι Answer ε α γ κ → Prop} {permits : γ × κ → Call → Prop}
  {post : Except ε α → γ × κ → Prop}

/-- What holds of a thread does not depend on what the others do. -/
theorem Holds.stable (hrely : Rely rely outside) (hstable : Stable rely permits post)
    {p : Routine Answer ε α} {a b : γ} {own : κ}
    (h : p.Holds (interfered rely outside) permits post (a, own)) (hab : rely a b) :
    p.Holds (interfered rely outside) permits post (b, own) := by
  cases p with
  | done x => exact hstable.post a b own _ hab h
  | fail e => exact hstable.post a b own _ hab h
  | call c next =>
      obtain ⟨hc, hnext⟩ := h
      refine ⟨hstable.permits a b own c hab hc, ?_⟩
      rintro answer t ⟨shared, hshared, hstep⟩
      exact hnext answer t ⟨shared, hrely.trans a b shared hab hshared, hstep⟩

/-- The rule for a thread among others. -/
theorem holds_rest (hrely : Rely rely outside) (hstable : Stable rely permits post) {i : ι}
    (hstarts : ∀ s, starts s →
      (s.rest i).Holds (interfered rely outside) permits post (s.shared, s.own i))
    {s : Threads ι Answer ε α γ κ} (hs : (interleaving outside starts).Reachable s) :
    (s.rest i).Holds (interfered rely outside) permits post (s.shared, s.own i) := by
  refine hs.invariant hstarts ?_
  rintro s ⟨j, c, answer⟩ t hi ⟨shared, own, rest, hcall, hstep, rfl⟩
  by_cases hj : i = j
  · subst hj
    dsimp only
    rw [Function.update_self, Function.update_self]
    generalize s.rest i = p at hi hcall
    cases hcall with
    | answered c next answer => exact hi.2 answer _ ⟨s.shared, hrely.refl _, hstep⟩
  · dsimp only
    rw [Function.update_of_ne hj, Function.update_of_ne hj]
    exact hi.stable hrely hstable (hrely.guarantee _ _ _ hstep)

/-- What the permitted calls of a thread keep, with the changes of the others, is always so. -/
theorem kept_own (hrely : Rely rely outside) (hstable : Stable rely permits post) {i : ι}
    (hstarts : ∀ s, starts s →
      (s.rest i).Holds (interfered rely outside) permits post (s.shared, s.own i))
    {keeps : γ × κ → Prop} (hinit : ∀ s, starts s → keeps (s.shared, s.own i))
    (hothers : ∀ a b own, rely a b → keeps (a, own) → keeps (b, own))
    (hkeeps : ∀ s e t, keeps s → permits s e.1 → outside.step s e t → keeps t)
    {s : Threads ι Answer ε α γ κ} (hs : (interleaving outside starts).Reachable s) :
    keeps (s.shared, s.own i) := by
  refine hs.induction hinit ?_
  rintro s ⟨j, c, answer⟩ t hs hi ⟨shared, own, rest, hcall, hstep, rfl⟩
  by_cases hj : i = j
  · subst hj
    dsimp only
    rw [Function.update_self]
    have hrest := holds_rest hrely hstable hstarts hs
    generalize s.rest i = p at hrest hcall
    cases hcall with
    | answered c next answer => exact hkeeps _ ⟨c, answer⟩ _ hi hrest.1 hstep
  · dsimp only
    rw [Function.update_of_ne hj]
    exact hothers _ _ _ (hrely.guarantee _ _ _ hstep) hi

/-- A thread that goes on alone does what its routine does against its own outside. -/
theorem run_alone {i : ι} {p q : Routine Answer ε α} {h : List (Answered Answer)} {a b : γ × κ}
    (htrace : Trace p h q) (hrun : outside.Run a h b) {s : Threads ι Answer ε α γ κ}
    (hrest : s.rest i = p) (hown : (s.shared, s.own i) = a) :
    (interleaving outside starts).Run s (h.map (Prod.mk i))
      ⟨b.1, Function.update s.own i b.2, Function.update s.rest i q⟩ := by
  induction htrace generalizing a s with
  | nil p =>
      cases hrun
      subst hown hrest
      rw [Function.update_eq_self, Function.update_eq_self]
      exact .nil s
  | @cons p p' q e h hcall _ ih =>
      cases hrun with
      | @cons _ c _ _ _ hstep hrest' =>
          subst hown hrest
          have hmore := ih hrest' (s := ⟨c.1, Function.update s.own i c.2,
            Function.update s.rest i p'⟩) (Function.update_self _ _ _)
            (Prod.ext rfl (Function.update_self _ _ _))
          rw [Function.update_idem, Function.update_idem] at hmore
          exact .cons ⟨c.1, c.2, p', hcall, hstep, rfl⟩ hmore

end Fauna.Lib.Routine
