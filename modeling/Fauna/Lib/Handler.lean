import Fauna.Lib.Routine

/-!
# Calls that are routines themselves

A routine whose calls are carried out by routines over other calls (`handle`). A handler that
fails ends it; an error of the routine itself is carried over.

* `trace_bind_iff`: how a sequence comes to its end.
* `trace_handle_iff`: what a routine comes to when its calls are handled is what it comes to by
  itself, with each answer come to by its handler, as long as no handler fails.
* `Renames.trace_handle_iff`: the same where each handler is a call under another name.
-/

namespace Fauna.Lib.Routine

variable {Call : Type} {Answer : Call → Type} {ε α β : Type}

protected theorem bind_assoc {γ : Type} (p : Routine Answer ε α) (f : α → Routine Answer ε β)
    (g : β → Routine Answer ε γ) : (p >>= f) >>= g = p >>= fun a => f a >>= g := by
  induction p with
  | done a => rfl
  | fail e => rfl
  | call c next ih =>
      rw [call_bind, call_bind, call_bind]
      simp only [ih]

/-! ## To the end -/

/-- The end of a routine that has come to a value. -/
theorem trace_done_end_iff {a : α} {h : List (Answered Answer)} {result : Except ε α} :
    Trace (done a) h (ofExcept result) ↔ h = [] ∧ result = .ok a := by
  rw [trace_done_iff]
  cases result <;> simp [ofExcept]

/-- The end of one that has come to an error. -/
theorem trace_fail_end_iff {e : ε} {h : List (Answered Answer)} {result : Except ε α} :
    Trace (fail e) h (ofExcept result) ↔ h = [] ∧ result = .error e := by
  rw [trace_fail_iff]
  cases result <;> simp [ofExcept]

/-- A routine that starts with a call has come to its end only after the answer. -/
theorem trace_call_end_iff {c : Call} {next : Answer c → Routine Answer ε α}
    {h : List (Answered Answer)} {result : Except ε α} :
    Trace (call c next) h (ofExcept result) ↔
      ∃ answer rest, h = ⟨c, answer⟩ :: rest ∧ Trace (next answer) rest (ofExcept result) := by
  rw [trace_call_iff]
  constructor
  · rintro (⟨-, hq⟩ | hrest)
    · cases result <;> cases hq
    · exact hrest
  · exact Or.inr

/-- How a sequence ends: after both parts, or with the error of its first part. -/
theorem trace_bind_iff {p : Routine Answer ε α} {f : α → Routine Answer ε β}
    {h : List (Answered Answer)} {result : Except ε β} :
    Trace (p >>= f) h (ofExcept result) ↔
      (∃ a before after, h = before ++ after ∧ Trace p before (done a) ∧
        Trace (f a) after (ofExcept result)) ∨
      ∃ e, Trace p h (fail e) ∧ result = .error e := by
  induction p generalizing h with
  | done a =>
      constructor
      · intro ht
        exact Or.inl ⟨a, [], h, rfl, .nil _, ht⟩
      · rintro (⟨a', before, after, rfl, hp, hf⟩ | ⟨e, hp, -⟩)
        · obtain ⟨rfl, ha⟩ := trace_done_iff.1 hp
          cases ha
          exact hf
        · cases (trace_done_iff.1 hp).2
  | fail e =>
      constructor
      · intro ht
        obtain ⟨rfl, rfl⟩ := trace_fail_end_iff.1 ht
        exact Or.inr ⟨e, .nil _, rfl⟩
      · rintro (⟨a, before, after, -, hp, -⟩ | ⟨e', hp, rfl⟩)
        · cases (trace_fail_iff.1 hp).2
        · obtain ⟨rfl, he⟩ := trace_fail_iff.1 hp
          cases he
          exact .nil _
  | call c next ih =>
      constructor
      · intro ht
        obtain ⟨answer, rest, rfl, hrest⟩ := trace_call_end_iff.1 ht
        rcases (ih answer).1 hrest with ⟨a, before, after, rfl, hp, hf⟩ | ⟨e, hp, hresult⟩
        · exact Or.inl ⟨a, ⟨c, answer⟩ :: before, after, rfl, hp.call, hf⟩
        · exact Or.inr ⟨e, hp.call, hresult⟩
      · rintro (⟨a, before, after, rfl, hp, hf⟩ | ⟨e, hp, rfl⟩)
        · rcases trace_call_iff.1 hp with ⟨-, hq⟩ | ⟨answer, rest, rfl, hrest⟩
          · cases hq
          · exact .call ((ih answer).2 (Or.inl ⟨a, rest, after, rfl, hrest, hf⟩))
        · rcases trace_call_iff.1 hp with ⟨-, hq⟩ | ⟨answer, rest, rfl, hrest⟩
          · cases hq
          · exact .call ((ih answer).2 (Or.inr ⟨e, hrest, rfl⟩))

/-- How a sequence comes to a value. -/
theorem trace_bind_done_iff {p : Routine Answer ε α} {f : α → Routine Answer ε β}
    {h : List (Answered Answer)} {b : β} :
    Trace (p >>= f) h (done b) ↔ ∃ a before after, h = before ++ after ∧
      Trace p before (done a) ∧ Trace (f a) after (done b) := by
  show Trace (p >>= f) h (ofExcept (.ok b)) ↔ _
  rw [trace_bind_iff]
  constructor
  · rintro (hdone | ⟨e, -, hresult⟩)
    · exact hdone
    · cases hresult
  · exact Or.inl

/-- A caught outcome, where every error is caught. -/
theorem trace_attempt_done_iff {δ : Type} {catches : ε → Option δ} {p : Routine Answer ε α}
    {h : List (Answered Answer)} {result : Except δ α} :
    Trace (p.attempt catches) h (done result) ↔
      (∃ a, result = .ok a ∧ Trace p h (done a)) ∨
      ∃ d e, result = .error d ∧ catches e = some d ∧ Trace p h (fail e) := by
  induction p generalizing h with
  | done a =>
      rw [attempt, trace_done_iff]
      constructor
      · rintro ⟨rfl, hresult⟩
        cases hresult
        exact Or.inl ⟨a, rfl, .nil _⟩
      · rintro (⟨a', rfl, hp⟩ | ⟨d, e, -, -, hp⟩)
        · obtain ⟨rfl, ha⟩ := trace_done_iff.1 hp
          cases ha
          exact ⟨rfl, rfl⟩
        · cases (trace_done_iff.1 hp).2
  | fail e =>
      rw [attempt]
      constructor
      · intro ht
        split at ht
        · next d hcatches =>
          obtain ⟨rfl, hresult⟩ := trace_done_iff.1 ht
          cases hresult
          exact Or.inr ⟨d, e, rfl, hcatches, .nil _⟩
        · cases (trace_fail_iff.1 ht).2
      · rintro (⟨a, -, hp⟩ | ⟨d, e', rfl, hcatches, hp⟩)
        · cases (trace_fail_iff.1 hp).2
        · obtain ⟨rfl, he⟩ := trace_fail_iff.1 hp
          cases he
          rw [hcatches]
          exact .nil _
  | call c next ih =>
      rw [attempt, trace_call_done_iff]
      constructor
      · rintro ⟨answer, rest, rfl, hrest⟩
        rcases (ih answer).1 hrest with ⟨a, rfl, hp⟩ | ⟨d, e, rfl, hcatches, hp⟩
        · exact Or.inl ⟨a, rfl, hp.call⟩
        · exact Or.inr ⟨d, e, rfl, hcatches, hp.call⟩
      · rintro (⟨a, rfl, hp⟩ | ⟨d, e, rfl, hcatches, hp⟩)
        · obtain ⟨answer, rest, rfl, hrest⟩ := trace_call_done_iff.1 hp
          exact ⟨answer, rest, rfl, (ih answer).2 (Or.inl ⟨a, rfl, hrest⟩)⟩
        · rcases trace_call_iff.1 hp with ⟨-, hq⟩ | ⟨answer, rest, rfl, hrest⟩
          · cases hq
          · exact ⟨answer, rest, rfl, (ih answer).2 (Or.inr ⟨d, e, rfl, hcatches, hrest⟩)⟩

/-! ## Handled calls -/

section Handle

variable {Call' : Type} {Answer' : Call' → Type} {ε' : Type}

/-- The routine whose calls are handled. -/
def handle (carry : ε → ε') (handler : (c : Call) → Routine Answer' ε' (Answer c)) :
    Routine Answer ε α → Routine Answer' ε' α
  | done a => done a
  | fail e => fail (carry e)
  | call c next => handler c >>= fun answer => (next answer).handle carry handler

variable {carry : ε → ε'} {handler : (c : Call) → Routine Answer' ε' (Answer c)}

/-- The answers of some handlers, one after the other, and what these have called. -/
inductive Handled (handler : (c : Call) → Routine Answer' ε' (Answer c)) :
    List (Answered Answer) → List (Answered Answer') → Prop
  | nil : Handled handler [] []
  | cons {c : Call} {answer : Answer c} {calls : List (Answered Answer')}
      {h : List (Answered Answer)} {h' : List (Answered Answer')}
      (hanswer : Trace (handler c) calls (done answer)) (hrest : Handled handler h h') :
      Handled handler (⟨c, answer⟩ :: h) (calls ++ h')

/-- How a routine whose calls are handled comes to its end: with an outcome of its own and each
answer come to by its handler, or in a handler that fails. -/
theorem trace_handle_iff {p : Routine Answer ε α} {h' : List (Answered Answer')}
    {result : Except ε' α} :
    Trace (p.handle carry handler) h' (ofExcept result) ↔
      (∃ h own, Handled handler h h' ∧ Trace p h (ofExcept own) ∧
        result = own.mapError carry) ∨
      ∃ h before after c next e, h' = before ++ after ∧ Handled handler h before ∧
        Trace p h (call c next) ∧ Trace (handler c) after (fail e) ∧ result = .error e := by
  induction p generalizing h' with
  | done a =>
      constructor
      · intro ht
        obtain ⟨rfl, rfl⟩ := trace_done_end_iff.1 ht
        exact Or.inl ⟨[], .ok a, .nil, .nil _, rfl⟩
      · rintro (⟨h, own, hhandled, hp, rfl⟩ | ⟨h, before, after, c, next, e, -, -, hp, -⟩)
        · obtain ⟨rfl, rfl⟩ := trace_done_end_iff.1 hp
          cases hhandled
          exact .nil _
        · cases (trace_done_iff.1 hp).2
  | fail e =>
      constructor
      · intro ht
        obtain ⟨rfl, rfl⟩ := trace_fail_end_iff.1 ht
        exact Or.inl ⟨[], .error e, .nil, .nil _, rfl⟩
      · rintro (⟨h, own, hhandled, hp, rfl⟩ | ⟨h, before, after, c, next, e', -, -, hp, -⟩)
        · obtain ⟨rfl, rfl⟩ := trace_fail_end_iff.1 hp
          cases hhandled
          exact .nil _
        · cases (trace_fail_iff.1 hp).2
  | call c next ih =>
      rw [handle, trace_bind_iff]
      constructor
      · rintro (⟨answer, calls, rest, rfl, hanswer, hrest⟩ | ⟨e, hfails, rfl⟩)
        · rcases (ih answer).1 hrest with ⟨h, own, hhandled, hp, hresult⟩ |
            ⟨h, before, after, c', next', e, rfl, hhandled, hp, hfails, hresult⟩
          · exact Or.inl ⟨⟨c, answer⟩ :: h, own, .cons hanswer hhandled, hp.call, hresult⟩
          · exact Or.inr ⟨⟨c, answer⟩ :: h, calls ++ before, after, c', next', e,
              (List.append_assoc _ _ _).symm, .cons hanswer hhandled, hp.call, hfails, hresult⟩
        · exact Or.inr ⟨[], [], h', c, next, e, rfl, .nil, .nil _, hfails, rfl⟩
      · rintro (⟨h, own, hhandled, hp, hresult⟩ |
          ⟨h, before, after, c', next', e, rfl, hhandled, hp, hfails, hresult⟩)
        · obtain ⟨answer, rest, rfl, hrest⟩ := trace_call_end_iff.1 hp
          cases hhandled with
          | cons hanswer hrest' =>
              exact Or.inl ⟨answer, _, _, rfl, hanswer,
                (ih answer).2 (Or.inl ⟨rest, own, hrest', hrest, hresult⟩)⟩
        · rcases trace_call_iff.1 hp with ⟨rfl, hq⟩ | ⟨answer, rest, rfl, hrest⟩
          · cases hq
            cases hhandled
            exact Or.inr ⟨e, hfails, hresult⟩
          · cases hhandled with
            | cons hanswer hrest' =>
                refine Or.inl ⟨answer, _, _, List.append_assoc _ _ _, hanswer, (ih answer).2 ?_⟩
                exact Or.inr ⟨rest, _, after, c', next', e, rfl, hrest', hrest, hfails, hresult⟩

/-- Each answer was come to by its handler. -/
theorem Handled.exists_calls {h : List (Answered Answer)} {h' : List (Answered Answer')}
    (hhandled : Handled handler h h') {e : Answered Answer} (he : e ∈ h) :
    ∃ calls, Trace (handler e.1) calls (done e.2) ∧ calls <:+: h' := by
  induction hhandled with
  | nil => cases he
  | @cons c answer calls h h' hanswer _ ih =>
      rcases List.mem_cons.1 he with rfl | he
      · exact ⟨calls, hanswer, (List.prefix_append _ _).isInfix⟩
      · obtain ⟨calls', htrace, hpart⟩ := ih he
        exact ⟨calls', htrace, hpart.trans (List.suffix_append _ _).isInfix⟩

/-- What the handler of each call keeps, the routine keeps. -/
theorem All.holds_handle {σ : Type} {outside : Lts σ (Answered Answer')}
    {permits : σ → Call' → Prop} {keeps : σ → Prop} {kind : Call → Prop} {p : Routine Answer ε α}
    (hp : p.All kind)
    (hhandler : ∀ c t, kind c → keeps t → Holds outside permits (fun _ => keeps) (handler c) t)
    {s : σ} (hs : keeps s) :
    Holds outside permits (fun _ => keeps) (p.handle carry handler) s := by
  induction p generalizing s with
  | done a => exact hs
  | fail e => exact hs
  | call c next ih =>
      apply Routine.holds_bind.2
      apply (hhandler c s hp.1 hs).mono
      intro result t ht
      cases result with
      | ok answer => exact ih answer (hp.2 answer) ht
      | error e => exact ht

/-- The calls of a handled routine are those of its handlers. -/
theorem All.handle {kind : Call → Prop} {kind' : Call' → Prop} {p : Routine Answer ε α}
    (hp : p.All kind) (hhandler : ∀ c, kind c → (handler c).All kind') :
    (p.handle carry handler).All kind' := by
  induction p with
  | done a => trivial
  | fail e => trivial
  | call c next ih => exact (hhandler c hp.1).bind fun answer => ih answer (hp.2 answer)

/-! ## Calls under another name -/

/-- A handler makes its call under another name. -/
structure Renames (handler : (c : Call) → Routine Answer' ε' (Answer c))
    (rename : Answered Answer → Answered Answer') : Prop where
  done : ∀ c calls answer, Trace (handler c) calls (done answer) ↔ calls = [rename ⟨c, answer⟩]
  fail : ∀ c calls e, ¬ Trace (handler c) calls (fail e)

/-- What is called under another name is one call for each. -/
theorem Renames.handled_iff {rename : Answered Answer → Answered Answer'}
    (hrename : Renames handler rename) {h : List (Answered Answer)}
    {h' : List (Answered Answer')} : Handled handler h h' ↔ h' = h.map rename := by
  constructor
  · intro hh
    induction hh with
    | nil => rfl
    | cons hanswer _ ih =>
        obtain rfl := (hrename.done _ _ _).1 hanswer
        rw [ih]
        rfl
  · rintro rfl
    induction h with
    | nil => exact .nil
    | cons e h ih => exact .cons ((hrename.done _ _ _).2 rfl) ih

/-- A routine whose calls are renamed does what it does, under these names. -/
theorem Renames.trace_handle_iff {rename : Answered Answer → Answered Answer'}
    (hrename : Renames handler rename) {p : Routine Answer ε α}
    {h' : List (Answered Answer')} {result : Except ε' α} :
    Trace (p.handle carry handler) h' (ofExcept result) ↔
      ∃ h own, h' = h.map rename ∧ Trace p h (ofExcept own) ∧ result = own.mapError carry := by
  rw [Routine.trace_handle_iff]
  constructor
  · rintro (⟨h, own, hhandled, hp, rfl⟩ | ⟨h, before, after, c, next, e, -, -, -, hfails, -⟩)
    · exact ⟨h, own, hrename.handled_iff.1 hhandled, hp, rfl⟩
    · exact absurd hfails (hrename.fail _ _ _)
  · rintro ⟨h, own, rfl, hp, rfl⟩
    exact Or.inl ⟨h, own, hrename.handled_iff.2 rfl, hp, rfl⟩

end Handle

/-! ## Single calls -/

/-- A single call comes to its answer. -/
theorem trace_ask_done_iff {c : Call} {h : List (Answered Answer)} {answer : Answer c} :
    Trace (ask c : Routine Answer ε (Answer c)) h (done answer) ↔ h = [⟨c, answer⟩] := by
  rw [ask, trace_call_done_iff]
  constructor
  · rintro ⟨answer', rest, rfl, hrest⟩
    obtain ⟨rfl, ha⟩ := trace_done_iff.1 hrest
    cases ha
    rfl
  · rintro rfl
    exact ⟨answer, [], rfl, .nil _⟩

/-- It comes to no error. -/
theorem not_trace_ask_fail {c : Call} {h : List (Answered Answer)} {e : ε} :
    ¬ Trace (ask c : Routine Answer ε (Answer c)) h (fail e) := by
  intro ht
  rcases trace_call_iff.1 ht with ⟨-, hq⟩ | ⟨answer, rest, -, hrest⟩
  · cases hq
  · cases (trace_done_iff.1 hrest).2

end Fauna.Lib.Routine
