import Fauna.Lib.Transition

/-!
# Routines that call the outside

A `Routine` is a computation that may call the outside: it ends with a value or an error, or it
makes a call and goes on with the answer. `Call` and the type of the answer to each call are
parameters. The outside is a transition system over the answered calls, and what it does to a
routine is a trace that both take together.

* `Holds`: in every trace of the outside, the calls are permitted and the end is as stated; it is
  computed by recursion on the routine, `holds_bind` splits it at a sequence, and `Holds.trace`
  says that it means what it says.
* `Holds.exists_trace`: where every call it comes to is answered, a routine comes to its end.
* `All`, `Raises`: of which kind the calls of a routine are, and the errors it may end with.
* `run`: a routine against an outside that has one answer to each call; `run_eq_some_iff` relates it
  to the traces.
-/

namespace Fauna.Lib

/-- A computation with errors `ε` that makes calls, each answered in its own type. -/
inductive Routine {Call : Type} (Answer : Call → Type) (ε α : Type)
  | done (a : α)
  | fail (e : ε)
  | call (c : Call) (next : Answer c → Routine Answer ε α)

namespace Routine

variable {Call : Type} {Answer : Call → Type} {ε δ α β σ : Type}

/-- One computation after the other; an error ends both. -/
protected def bind : Routine Answer ε α → (α → Routine Answer ε β) → Routine Answer ε β
  | done a, f => f a
  | fail e, _ => fail e
  | call c next, f => call c fun answer => (next answer).bind f

instance : Monad (Routine Answer ε) where
  pure := done
  bind := Routine.bind

@[simp] theorem done_bind (a : α) (f : α → Routine Answer ε β) : (done a >>= f) = f a := rfl

@[simp] theorem call_bind (c : Call) (next : Answer c → Routine Answer ε α)
    (f : α → Routine Answer ε β) :
    (call c next >>= f) = call c fun answer => next answer >>= f := rfl

/-- A single call. -/
def ask (c : Call) : Routine Answer ε (Answer c) := call c done

/-- The value of a computation that makes no calls, or its error. -/
def ofExcept : Except ε α → Routine Answer ε α
  | .ok a => done a
  | .error e => fail e

/-- The outcome of a computation as a value, for those errors that are caught. -/
def attempt (catches : ε → Option δ) : Routine Answer ε α → Routine Answer ε (Except δ α)
  | done a => done (.ok a)
  | fail e =>
      match catches e with
      | some d => done (.error d)
      | none => fail e
  | call c next => call c fun answer => (next answer).attempt catches

/-! ## Traces -/

/-- A call with its answer. -/
abbrev Answered (Answer : Call → Type) := (c : Call) × Answer c

/-- A routine makes its call and gets an answer. -/
inductive Step : Routine Answer ε α → Answered Answer → Routine Answer ε α → Prop
  | answered (c : Call) (next : Answer c → Routine Answer ε α) (answer : Answer c) :
      Step (call c next) ⟨c, answer⟩ (next answer)

/-- Routines as a transition system. -/
def system : Lts (Routine Answer ε α) (Answered Answer) where
  init _ := True
  step := Step

/-- `Trace p h q`: after the calls `h`, answered as they are, `q` is left of `p`. -/
abbrev Trace (p : Routine Answer ε α) (h : List (Answered Answer)) (q : Routine Answer ε α) : Prop :=
  system.Run p h q

/-- A routine that has come to a value goes no further. -/
@[simp] theorem trace_done_iff {a : α} {h : List (Answered Answer)} {q : Routine Answer ε α} :
    Trace (done a) h q ↔ h = [] ∧ q = done a := by
  constructor
  · intro ht
    cases ht with
    | nil => exact ⟨rfl, rfl⟩
    | cons hs _ => cases hs
  · rintro ⟨rfl, rfl⟩
    exact .nil _

/-- Nor does one that has come to an error. -/
@[simp] theorem trace_fail_iff {e : ε} {h : List (Answered Answer)} {q : Routine Answer ε α} :
    Trace (fail e) h q ↔ h = [] ∧ q = fail e := by
  constructor
  · intro ht
    cases ht with
    | nil => exact ⟨rfl, rfl⟩
    | cons hs _ => cases hs
  · rintro ⟨rfl, rfl⟩
    exact .nil _

/-- A routine that starts with a call waits for its answer, or has got it. -/
theorem trace_call_iff {c : Call} {next : Answer c → Routine Answer ε α}
    {h : List (Answered Answer)} {q : Routine Answer ε α} :
    Trace (call c next) h q ↔ (h = [] ∧ q = call c next) ∨
      ∃ answer rest, h = ⟨c, answer⟩ :: rest ∧ Trace (next answer) rest q := by
  constructor
  · intro ht
    cases ht with
    | nil => exact Or.inl ⟨rfl, rfl⟩
    | cons hs hrest =>
        cases hs with
        | answered c next answer => exact Or.inr ⟨answer, _, rfl, hrest⟩
  · rintro (⟨rfl, rfl⟩ | ⟨answer, rest, rfl, hrest⟩)
    · exact .nil _
    · exact .cons (.answered c next answer) hrest

/-- A routine that starts with a call has come to its value only after the answer. -/
theorem trace_call_done_iff {c : Call} {next : Answer c → Routine Answer ε α}
    {h : List (Answered Answer)} {a : α} :
    Trace (call c next) h (done a) ↔
      ∃ answer rest, h = ⟨c, answer⟩ :: rest ∧ Trace (next answer) rest (done a) := by
  rw [trace_call_iff]
  constructor
  · rintro (⟨-, hq⟩ | hrest)
    · cases hq
    · exact hrest
  · exact Or.inr

/-- The answer to the first call, and a trace of the rest. -/
theorem Trace.call {c : Call} {next : Answer c → Routine Answer ε α} {answer : Answer c}
    {h : List (Answered Answer)} {q : Routine Answer ε α} (ht : Trace (next answer) h q) :
    Trace (call c next) (⟨c, answer⟩ :: h) q :=
  .cons (.answered c next answer) ht

/-! ## What holds of every trace -/

/-- From the state `s` of the outside, every call the routine comes to is permitted, and it ends as
`post` says, whatever the outside answers. -/
def Holds (outside : Lts σ (Answered Answer)) (permits : σ → Call → Prop)
    (post : Except ε α → σ → Prop) : Routine Answer ε α → σ → Prop
  | done a, s => post (.ok a) s
  | fail e, s => post (.error e) s
  | call c next, s => permits s c ∧
      ∀ answer t, outside.step s ⟨c, answer⟩ t → (next answer).Holds outside permits post t

variable {outside : Lts σ (Answered Answer)} {permits : σ → Call → Prop}
  {post : Except ε α → σ → Prop} {s t : σ}

@[simp] theorem holds_done {a : α} : Holds outside permits post (done a) s ↔ post (.ok a) s :=
  Iff.rfl

@[simp] theorem holds_fail {e : ε} : Holds outside permits post (fail e) s ↔ post (.error e) s :=
  Iff.rfl

/-- What holds of a call holds after each answer to it. -/
theorem holds_call {c : Call} {next : Answer c → Routine Answer ε α} :
    Holds outside permits post (call c next) s ↔ permits s c ∧
      ∀ answer t, outside.step s ⟨c, answer⟩ t → (next answer).Holds outside permits post t :=
  Iff.rfl

/-- What holds of an outcome. -/
theorem holds_ofExcept {r : Except ε α} : Holds outside permits post (ofExcept r) s ↔ post r s := by
  cases r <;> exact Iff.rfl

/-- A sequence: what holds of its first part is that the second part holds after it. -/
theorem holds_bind {p : Routine Answer ε α} {f : α → Routine Answer ε β}
    {post : Except ε β → σ → Prop} :
    Holds outside permits post (p >>= f) s ↔ Holds outside permits (fun result t =>
      match result with
      | .ok a => Holds outside permits post (f a) t
      | .error e => post (.error e) t) p s := by
  induction p generalizing s with
  | done a => exact Iff.rfl
  | fail e => exact Iff.rfl
  | call c next ih =>
      rw [call_bind, holds_call, holds_call]
      simp only [ih]

/-- What holds of a routine whose errors are caught. -/
theorem holds_attempt {catches : ε → Option δ} {p : Routine Answer ε α}
    {post : Except ε (Except δ α) → σ → Prop} :
    Holds outside permits post (p.attempt catches) s ↔ Holds outside permits (fun result t =>
      match result with
      | .ok a => post (.ok (.ok a)) t
      | .error e =>
          match catches e with
          | some d => post (.ok (.error d)) t
          | none => post (.error e) t) p s := by
  induction p generalizing s with
  | done a => exact Iff.rfl
  | fail e =>
      rw [attempt, holds_fail]
      cases h : catches e <;> simp [h]
  | call c next ih =>
      rw [attempt, holds_call, holds_call]
      simp only [ih]

/-- The rule of consequence. -/
theorem Holds.mono {post' : Except ε α → σ → Prop} {p : Routine Answer ε α}
    (h : Holds outside permits post p s) (hpost : ∀ result t, post result t → post' result t) :
    Holds outside permits post' p s := by
  induction p generalizing s with
  | done a => exact hpost _ _ h
  | fail e => exact hpost _ _ h
  | call c next ih => exact ⟨h.1, fun answer t hstep => ih answer (h.2 answer t hstep)⟩

/-- What holds of a routine holds of what is left of it, in every trace that the outside takes. -/
theorem Holds.trace {p q : Routine Answer ε α} {h : List (Answered Answer)}
    (hp : Holds outside permits post p s) (ht : Trace p h q) (hs : outside.Run s h t) :
    Holds outside permits post q t := by
  induction ht generalizing s with
  | nil p =>
      cases hs
      exact hp
  | cons hstep _ ih =>
      cases hstep with
      | answered c next answer =>
          cases hs with
          | cons hfirst hrest => exact ih (hp.2 answer _ hfirst) hrest

/-- A call that was answered in a trace was permitted in the state it was made in. -/
theorem Holds.permits_at {p q : Routine Answer ε α} {before after : List (Answered Answer)}
    {e : Answered Answer} (hp : Holds outside permits post p s)
    (ht : Trace p (before ++ e :: after) q) (hs : outside.Run s before t) : permits t e.1 := by
  obtain ⟨r, hbefore, hafter⟩ := ht.split
  have hr := hp.trace hbefore hs
  cases hafter with
  | cons hstep _ =>
      cases hstep with
      | answered c next answer => exact hr.1

/-- A call that was answered in a trace was permitted. -/
theorem Holds.permitted {p q : Routine Answer ε α} {h : List (Answered Answer)}
    (hp : Holds outside permits post p s) (ht : Trace p h q) (hs : outside.Run s h t)
    {e : Answered Answer} (he : e ∈ h) : ∃ u, permits u e.1 := by
  induction ht generalizing s with
  | nil p => cases he
  | cons hstep _ ih =>
      cases hstep with
      | answered c next answer =>
          cases hs with
          | cons hfirst hrest =>
              rcases List.mem_cons.1 he with rfl | he
              · exact ⟨s, hp.1⟩
              · exact ih (hp.2 answer _ hfirst) hrest he

/-- The outside has an answer to a call. -/
def Answers (outside : Lts σ (Answered Answer)) (s : σ) (c : Call) : Prop :=
  ∃ answer, outside.Enabled s ⟨c, answer⟩

/-- A routine that comes only to calls which are answered has a trace to its end. -/
theorem Holds.exists_trace {p : Routine Answer ε α}
    (hp : Holds outside (Answers outside) post p s) :
    ∃ h result t, Trace p h (ofExcept result) ∧ outside.Run s h t := by
  induction p generalizing s with
  | done a => exact ⟨[], .ok a, s, .nil _, .nil _⟩
  | fail e => exact ⟨[], .error e, s, .nil _, .nil _⟩
  | call c next ih =>
      obtain ⟨⟨answer, u, hstep⟩, hnext⟩ := hp
      obtain ⟨h, result, t, htrace, hrun⟩ := ih answer (hnext answer u hstep)
      exact ⟨⟨c, answer⟩ :: h, result, t, htrace.call, .cons hstep hrun⟩

/-- Every call the routine may make is of one kind. -/
def All (kind : Call → Prop) : Routine Answer ε α → Prop
  | done _ | fail _ => True
  | call c next => kind c ∧ ∀ answer, (next answer).All kind

/-- The calls of a sequence are those of its parts. -/
theorem All.bind {kind : Call → Prop} {p : Routine Answer ε α} {f : α → Routine Answer ε β}
    (hp : p.All kind) (hf : ∀ a, (f a).All kind) : (p >>= f).All kind := by
  induction p with
  | done a => exact hf a
  | fail e => trivial
  | call c next ih => exact ⟨hp.1, fun answer => ih answer (hp.2 answer)⟩

/-- The kind of the calls may be widened. -/
theorem All.mono {kind kind' : Call → Prop} {p : Routine Answer ε α} (hp : p.All kind)
    (h : ∀ c, kind c → kind' c) : p.All kind' := by
  induction p with
  | done a => trivial
  | fail e => trivial
  | call c next ih => exact ⟨h c hp.1, fun answer => ih answer (hp.2 answer)⟩

/-- To catch errors makes no calls. -/
theorem All.attempt {kind : Call → Prop} {catches : ε → Option δ} {p : Routine Answer ε α}
    (hp : p.All kind) : (p.attempt catches).All kind := by
  induction p with
  | done a => trivial
  | fail e =>
      rw [Routine.attempt]
      cases catches e <;> trivial
  | call c next ih => exact ⟨hp.1, fun answer => ih answer (hp.2 answer)⟩

/-- An outcome makes no calls. -/
theorem All.ofExcept {kind : Call → Prop} (r : Except ε α) :
    (ofExcept r : Routine Answer ε α).All kind := by
  cases r <;> trivial

/-- Every call that was answered in a trace is of that kind. -/
theorem All.of_trace {kind : Call → Prop} {p q : Routine Answer ε α} {h : List (Answered Answer)}
    (hp : p.All kind) (ht : Trace p h q) {e : Answered Answer} (he : e ∈ h) : kind e.1 := by
  induction ht with
  | nil p => cases he
  | cons hstep _ ih =>
      cases hstep with
      | answered c next answer =>
          rcases List.mem_cons.1 he with rfl | he
          · exact hp.1
          · exact ih (hp.2 answer) he

/-- What the outside keeps, whatever it is called for, holds at the end. -/
theorem All.holds {kind : Call → Prop} {keeps : σ → Prop} {p : Routine Answer ε α}
    (hp : p.All kind) (hpermits : ∀ s c, keeps s → kind c → permits s c)
    (hkeeps : ∀ s e t, keeps s → kind e.1 → outside.step s e t → keeps t) (hs : keeps s) :
    Holds outside permits (fun _ => keeps) p s := by
  induction p generalizing s with
  | done a => exact hs
  | fail e => exact hs
  | call c next ih =>
      exact ⟨hpermits s c hs hp.1, fun answer t hstep =>
        ih answer (hp.2 answer) (hkeeps s ⟨c, answer⟩ t hs hp.1 hstep)⟩

/-- Every call is of some kind. -/
theorem All.trivial (p : Routine Answer ε α) : p.All fun _ => True := by
  induction p with
  | done a => exact True.intro
  | fail e => exact True.intro
  | call c next ih => exact ⟨True.intro, ih⟩

/-- Every error the routine may end with is of one kind, whatever it is answered. -/
def Raises (kind : ε → Prop) : Routine Answer ε α → Prop
  | done _ => True
  | fail e => kind e
  | call _ next => ∀ answer, (next answer).Raises kind

/-- The errors of a sequence are those of its parts. -/
theorem Raises.bind {kind : ε → Prop} {p : Routine Answer ε α} {f : α → Routine Answer ε β}
    (hp : p.Raises kind) (hf : ∀ a, (f a).Raises kind) : (p >>= f).Raises kind := by
  induction p with
  | done a => exact hf a
  | fail e => exact hp
  | call c next ih => exact fun answer => ih answer (hp answer)

/-- The errors that are not caught. -/
theorem Raises.attempt {kind : ε → Prop} {catches : ε → Option δ} {p : Routine Answer ε α}
    (hp : p.Raises kind) : (p.attempt catches).Raises fun e => kind e ∧ catches e = none := by
  induction p with
  | done a => trivial
  | fail e =>
      rw [Routine.attempt]
      cases h : catches e with
      | some d => trivial
      | none => exact ⟨hp, h⟩
  | call c next ih => exact fun answer => ih answer (hp answer)

/-- An error that a trace has come to is of that kind. -/
theorem Raises.of_trace {kind : ε → Prop} {p : Routine Answer ε α} {e : ε}
    {h : List (Answered Answer)} (hp : p.Raises kind) (ht : Trace p h (fail e)) : kind e := by
  induction p generalizing h with
  | done a => cases (trace_done_iff.1 ht).2
  | fail e' =>
      cases (trace_fail_iff.1 ht).2
      exact hp
  | call c next ih =>
      rcases trace_call_iff.1 ht with ⟨-, hq⟩ | ⟨answer, rest, -, hrest⟩
      · cases hq
      · exact ih answer (hp answer) hrest

/-- What the outside keeps through the first part of a sequence is known where the rest begins. -/
theorem All.holds_bind {kind : Call → Prop} {keeps : σ → Prop} {p : Routine Answer ε α}
    {f : α → Routine Answer ε β} {post : Except ε β → σ → Prop} (hp : p.All kind)
    (hpermits : ∀ s c, keeps s → kind c → permits s c)
    (hkeeps : ∀ s e t, keeps s → kind e.1 → outside.step s e t → keeps t) (hs : keeps s)
    (herror : ∀ e t, post (.error e) t) (hf : ∀ a t, keeps t → Holds outside permits post (f a) t) :
    Holds outside permits post (p >>= f) s := by
  apply Routine.holds_bind.2
  apply (hp.holds hpermits hkeeps hs).mono
  intro result t ht
  cases result with
  | ok a => exact hf a t ht
  | error e => exact herror e t

/-- What comes first in a sequence does not matter to what holds of the rest in every state. -/
theorem Holds.after {kind : Call → Prop} {p : Routine Answer ε α} {f : α → Routine Answer ε β}
    {post : Except ε β → σ → Prop} (hp : p.All kind) (hpermits : ∀ s c, kind c → permits s c)
    (herror : ∀ e t, post (.error e) t) (hf : ∀ a t, Holds outside permits post (f a) t) :
    Holds outside permits post (p >>= f) s := by
  have hkeeps : ∀ s e t, True → kind e.1 → outside.step s e t → True :=
    fun _ _ _ _ _ _ => True.intro
  exact hp.holds_bind (fun s c _ hc => hpermits s c hc) hkeeps True.intro herror fun a t _ => hf a t

/-! ## The outside that only remembers -/

/-- An outside that answers anything, and whose state is what it has answered. -/
def memory : Lts (List (Answered Answer)) (Answered Answer) where
  init s := s = []
  step s e t := t = s ++ [e]

/-- The memory answers anything. -/
theorem memory_run (s h : List (Answered Answer)) : memory.Run s h (s ++ h) := by
  induction h generalizing s with
  | nil => simpa using Lts.Run.nil s
  | cons e h ih =>
      refine .cons rfl ?_
      have hrest := ih (s ++ [e])
      rwa [List.append_assoc] at hrest

/-- What holds of a routine whose calls are remembered, holds of its traces. -/
theorem Holds.of_memory {p q : Routine Answer ε α} {h : List (Answered Answer)}
    {permits : List (Answered Answer) → Call → Prop}
    {post : Except ε α → List (Answered Answer) → Prop} (hp : Holds memory permits post p [])
    (ht : Trace p h q) : Holds memory permits post q h :=
  hp.trace ht (memory_run [] h)

/-! ## One answer to each call -/

/-- The outcome of a routine against an outside that has one answer to a call, or none. -/
def run (answers : (c : Call) → σ → Option (Answer c × σ)) :
    Routine Answer ε α → σ → Option (Except ε α × σ)
  | done a, s => some (.ok a, s)
  | fail e, s => some (.error e, s)
  | call c next, s => (answers c s).bind fun p => (next p.1).run answers p.2

/-- An outside with one answer to a call, as a transition system. -/
def answering (answers : (c : Call) → σ → Option (Answer c × σ)) : Lts σ (Answered Answer) where
  init _ := True
  step s e t := answers e.1 s = some (e.2, t)

variable {answers : (c : Call) → σ → Option (Answer c × σ)}

/-- A run is a trace to the end. -/
theorem run_eq_some_iff {p : Routine Answer ε α} {result : Except ε α} :
    p.run answers s = some (result, t) ↔
      ∃ h, Trace p h (ofExcept result) ∧ (answering answers).Run s h t := by
  induction p generalizing s with
  | done a =>
      constructor
      · intro hrun
        obtain ⟨rfl, rfl⟩ := Prod.mk.inj (Option.some.inj hrun)
        exact ⟨[], .nil _, .nil _⟩
      · rintro ⟨h, ht, hs⟩
        obtain ⟨rfl, hq⟩ := trace_done_iff.1 ht
        cases hs
        cases result <;> cases hq
        rfl
  | fail e =>
      constructor
      · intro hrun
        obtain ⟨rfl, rfl⟩ := Prod.mk.inj (Option.some.inj hrun)
        exact ⟨[], .nil _, .nil _⟩
      · rintro ⟨h, ht, hs⟩
        obtain ⟨rfl, hq⟩ := trace_fail_iff.1 ht
        cases hs
        cases result <;> cases hq
        rfl
  | call c next ih =>
      rw [run, Option.bind_eq_some_iff]
      constructor
      · rintro ⟨⟨answer, u⟩, hanswers, hrun⟩
        obtain ⟨h, ht, hs⟩ := (ih answer).1 hrun
        exact ⟨⟨c, answer⟩ :: h, .cons (.answered c next answer) ht, .cons hanswers hs⟩
      · rintro ⟨h, ht, hs⟩
        rcases trace_call_iff.1 ht with ⟨-, hq⟩ | ⟨answer, rest, rfl, hrest⟩
        · cases result <;> cases hq
        · cases hs with
          | cons hanswers hs => exact ⟨(answer, _), hanswers, (ih answer).2 ⟨rest, hrest, hs⟩⟩

/-- An error that a run has come to is of the kind that the routine raises. -/
theorem Raises.of_run {kind : ε → Prop} {p : Routine Answer ε α} {e : ε} (hp : p.Raises kind)
    (hrun : p.run answers s = some (.error e, t)) : kind e := by
  obtain ⟨h, ht, -⟩ := run_eq_some_iff.1 hrun
  exact hp.of_trace ht

/-- The outcome of a sequence is that of its second part, from where its first part ends. -/
theorem run_bind (p : Routine Answer ε α) (f : α → Routine Answer ε β) :
    (p >>= f).run answers s = (p.run answers s).bind fun q =>
      match q.1 with
      | .ok a => (f a).run answers q.2
      | .error e => some (.error e, q.2) := by
  induction p generalizing s with
  | done a => rfl
  | fail e => rfl
  | call c next ih =>
      rw [call_bind, run, run, Option.bind_assoc]
      simp only [ih]

/-- A sequence that succeeds goes through a value of its first part. -/
theorem run_bind_eq_ok {p : Routine Answer ε α} {f : α → Routine Answer ε β} {b : β} :
    (p >>= f).run answers s = some (.ok b, t) ↔
      ∃ a u, p.run answers s = some (.ok a, u) ∧ (f a).run answers u = some (.ok b, t) := by
  rw [run_bind, Option.bind_eq_some_iff]
  constructor
  · rintro ⟨⟨result, u⟩, hp, hf⟩
    cases result with
    | ok a => exact ⟨a, u, hp, hf⟩
    | error e => cases hf
  · rintro ⟨a, u, hp, hf⟩
    exact ⟨(.ok a, u), hp, hf⟩

/-- A sequence has an outcome where its parts have. -/
theorem isSome_run_bind {p : Routine Answer ε α} {f : α → Routine Answer ε β}
    (hp : (p.run answers s).isSome) (hf : ∀ a u, ((f a).run answers u).isSome) :
    ((p >>= f).run answers s).isSome := by
  obtain ⟨⟨result, u⟩, hp⟩ := Option.isSome_iff_exists.1 hp
  rw [run_bind, hp]
  cases result with
  | ok a => exact hf a u
  | error e => rfl

/-- Where one outside stands for another, so do the runs. -/
theorem run_map {τ : Type} {answers' : (c : Call) → τ → Option (Answer c × τ)} (f : σ → τ)
    (h : ∀ c s, answers' c (f s) = (answers c s).map (Prod.map id f)) (p : Routine Answer ε α)
    (s : σ) : p.run answers' (f s) = (p.run answers s).map (Prod.map id f) := by
  induction p generalizing s with
  | done a => rfl
  | fail e => rfl
  | call c next ih =>
      rw [run, run, h, Option.bind_map, Option.map_bind]
      exact congrArg _ (funext fun q => ih q.1 q.2)

end Routine

end Fauna.Lib
