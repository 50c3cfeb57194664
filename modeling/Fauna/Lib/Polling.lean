import Fauna.Lib.Handler
import Mathlib.Data.Nat.Basic

/-!
# Loops that look at the clock

A loop that makes an attempt, sleeps where it comes to nothing, and goes on until an attempt comes
to something or the time is over. Its attempts are routines over calls of any kind; the loop itself
also reads a clock and sleeps (`Timed`). A clock that never goes back, and a sleep that lasts as
long as it should, are the state of `clocked`.

* `trace_pollFor_iff`: the runs of a loop, attempt by attempt (`Polls`).
* `pollFor_attempts`: how many attempts fit in the time.
* `pollFor_inRounds`: a loop with enough rounds never comes to their end.
-/

namespace Fauna.Lib

/-- The calls of a program that also reads a clock and sleeps, in milliseconds. -/
inductive Timed (Call : Type)
  /-- `Instant::now()` -/
  | now
  | sleep (pause : ℕ)
  /-- A call that is never answered: a loop has come to the end of its rounds. -/
  | never
  | call (c : Call)

/-- The type of the answer to a call. -/
@[reducible] def Timed.Answer {Call : Type} (Answer : Call → Type) : Timed Call → Type
  | .now => ℕ
  | .sleep _ => Unit
  | .never => Empty
  | .call c => Answer c

/-- A call is no end of rounds. -/
def Timed.Fine {Call : Type} : Timed Call → Prop
  | .never => False
  | _ => True

namespace Routine

variable {Call : Type} {Answer : Call → Type} {ε α σ : Type}

/-- A call that has nothing to do with a clock. -/
def pass (c : Call) : Routine (Timed.Answer Answer) ε (Answer c) := ask (Timed.call c)

/-- A routine of a program that also reads a clock, where it does not. -/
def timed (p : Routine Answer ε α) : Routine (Timed.Answer Answer) ε α := p.handle id pass

/-- Its calls. -/
def timedCalls (h : List (Answered Answer)) : List (Answered (Timed.Answer Answer)) :=
  h.map fun e => ⟨.call e.1, e.2⟩

/-- A call that has nothing to do with the clock is made under another name. -/
theorem pass_renames : Renames (pass : (c : Call) → Routine (Timed.Answer Answer) ε (Answer c))
    fun e => ⟨.call e.1, e.2⟩ where
  done _ _ _ := trace_ask_done_iff
  fail _ _ _ := not_trace_ask_fail

/-- It comes to what it comes to without a clock. -/
theorem trace_timed_iff {p : Routine Answer ε α} {h' : List (Answered (Timed.Answer Answer))}
    {result : Except ε α} :
    Trace p.timed h' (ofExcept result) ↔
      ∃ h, h' = timedCalls h ∧ Trace p h (ofExcept result) := by
  have hown : ∀ own : Except ε α, own.mapError id = own := by
    rintro (e | a) <;> rfl
  rw [timed, pass_renames.trace_handle_iff]
  constructor
  · rintro ⟨h, own, rfl, hp, rfl⟩
    exact ⟨h, rfl, by rwa [hown]⟩
  · rintro ⟨h, rfl, hp⟩
    exact ⟨h, result, rfl, hp, (hown result).symm⟩

/-- A sequence that begins without a clock. -/
theorem trace_timed_bind_iff {β : Type} {p : Routine Answer ε α}
    {f : α → Routine (Timed.Answer Answer) ε β} {h : List (Answered (Timed.Answer Answer))}
    {result : Except ε β} :
    Trace (p.timed >>= f) h (ofExcept result) ↔
      (∃ a calls rest, h = timedCalls calls ++ rest ∧ Trace p calls (done a) ∧
        Trace (f a) rest (ofExcept result)) ∨
      ∃ e calls, h = timedCalls calls ∧ Trace p calls (fail e) ∧ result = .error e := by
  have hdone {a : α} {before : List (Answered (Timed.Answer Answer))} :
      Trace p.timed before (done a) ↔
        ∃ calls, before = timedCalls calls ∧ Trace p calls (done a) := by
    show Trace _ _ (ofExcept (.ok a)) ↔ _
    exact trace_timed_iff
  have hfail {e : ε} :
      Trace p.timed h (fail e) ↔ ∃ calls, h = timedCalls calls ∧ Trace p calls (fail e) := by
    show Trace _ _ (ofExcept (.error e)) ↔ _
    exact trace_timed_iff
  rw [trace_bind_iff]
  constructor
  · rintro (⟨a, before, after, rfl, hp, hf⟩ | ⟨e, hp, hresult⟩)
    · obtain ⟨calls, rfl, hcalls⟩ := hdone.1 hp
      exact Or.inl ⟨a, calls, after, rfl, hcalls, hf⟩
    · obtain ⟨calls, rfl, hcalls⟩ := hfail.1 hp
      exact Or.inr ⟨e, calls, rfl, hcalls, hresult⟩
  · rintro (⟨a, calls, rest, rfl, hp, hf⟩ | ⟨e, calls, rfl, hp, hresult⟩)
    · exact Or.inl ⟨a, _, rest, rfl, hdone.2 ⟨calls, rfl, hp⟩, hf⟩
    · exact Or.inr ⟨e, hfail.2 ⟨calls, rfl, hp⟩, hresult⟩

/-! ## The loop -/

/-- A loop from its attempt `attempt` on, with at most `rounds` looks at the clock. -/
def poll (started timeout pause : ℕ) (body : ℕ → Routine Answer ε (Option α)) :
    ℕ → ℕ → Routine (Timed.Answer Answer) ε (Option α)
  | 0, _ => do nomatch (← ask .never)
  | rounds + 1, attempt => do
      let time ← ask .now
      if time - started < timeout then
        match ← (body attempt).timed with
        | some a => return some a
        | none => do
            ask (Timed.sleep pause)
            poll started timeout pause body rounds (attempt + 1)
      else return none

/-- A loop that goes on while less than `timeout` has passed since it began. -/
def pollFor (timeout pause : ℕ) (body : ℕ → Routine Answer ε (Option α)) (rounds : ℕ) :
    Routine (Timed.Answer Answer) ε (Option α) := do
  let started ← ask .now
  poll started timeout pause body rounds 1

variable (started timeout pause : ℕ) (body : ℕ → Routine Answer ε (Option α))

/-- How a loop comes to its end, from the attempt `attempt` on: `count` attempts in time, all but
the last of which come to nothing, and the last of which may too. -/
inductive Polls :
    ℕ → ℕ → List (Answered (Timed.Answer Answer)) → Except ε (Option α) → Prop
  | expired {attempt time : ℕ} (htime : timeout ≤ time - started) :
      Polls attempt 0 [⟨.now, time⟩] (.ok none)
  | ended {attempt time : ℕ} {calls : List (Answered Answer)} {result : Except ε (Option α)}
      (htime : time - started < timeout) (hbody : Trace (body attempt) calls (ofExcept result))
      (hresult : result ≠ .ok none) :
      Polls attempt 1 (⟨.now, time⟩ :: timedCalls calls) result
  | again {attempt count time : ℕ} {calls : List (Answered Answer)}
      {h : List (Answered (Timed.Answer Answer))} {result : Except ε (Option α)}
      (htime : time - started < timeout) (hbody : Trace (body attempt) calls (done none))
      (hrest : Polls (attempt + 1) count h result) :
      Polls attempt (count + 1)
        (⟨.now, time⟩ :: (timedCalls calls ++ ⟨.sleep pause, ()⟩ :: h)) result

variable {started timeout pause : ℕ} {body : ℕ → Routine Answer ε (Option α)}

/-- A look at the clock. -/
def isNow : Answered (Timed.Answer Answer) → Bool
  | ⟨.now, _⟩ => true
  | _ => false

/-- Such calls are no looks at the clock. -/
theorem countP_isNow_timedCalls (h : List (Answered Answer)) :
    (timedCalls h).countP isNow = 0 := by
  rw [List.countP_eq_zero, timedCalls]
  intro e he
  obtain ⟨e, -, rfl⟩ := List.mem_map.1 he
  exact Bool.false_ne_true

/-- The last attempt comes after one look at the clock. -/
theorem countP_isNow_ended (time : ℕ) (calls : List (Answered Answer)) :
    (⟨.now, time⟩ :: timedCalls calls).countP isNow = 1 := by
  rw [List.countP_cons_of_pos rfl, countP_isNow_timedCalls]

/-- So does every other one. -/
theorem countP_isNow_again (time pause : ℕ) (calls : List (Answered Answer))
    (h : List (Answered (Timed.Answer Answer))) :
    (⟨.now, time⟩ :: (timedCalls calls ++ ⟨.sleep pause, ()⟩ :: h)).countP isNow =
      h.countP isNow + 1 := by
  rw [List.countP_cons_of_pos rfl, List.countP_append, countP_isNow_timedCalls,
    List.countP_cons_of_neg Bool.false_ne_true, Nat.zero_add]

/-- The end of a loop whose last look at the clock was in time. -/
theorem trace_poll_in_time_iff {rounds attempt : ℕ} {h : List (Answered (Timed.Answer Answer))}
    {result : Except ε (Option α)} :
    Trace ((body attempt).timed >>= fun
      | some a => done (some a)
      | none => ask (Timed.sleep pause) >>= fun _ =>
          poll started timeout pause body rounds (attempt + 1)) h (ofExcept result) ↔
      (∃ calls, h = timedCalls calls ∧ Trace (body attempt) calls (ofExcept result) ∧
        result ≠ .ok none) ∨
      ∃ calls rest, h = timedCalls calls ++ ⟨Timed.sleep pause, ()⟩ :: rest ∧
        Trace (body attempt) calls (done none) ∧
        Trace (poll started timeout pause body rounds (attempt + 1)) rest (ofExcept result) := by
  rw [trace_timed_bind_iff]
  constructor
  · rintro (⟨found, calls, rest, rfl, hcalls, hafter⟩ | ⟨e, calls, rfl, hcalls, rfl⟩)
    · cases found with
      | some a =>
          obtain ⟨rfl, rfl⟩ := trace_done_end_iff.1 hafter
          exact Or.inl ⟨calls, List.append_nil _, hcalls, nofun⟩
      | none =>
          obtain ⟨answer, rest, rfl, hrest⟩ := trace_call_end_iff.1 hafter
          exact Or.inr ⟨calls, rest, rfl, hcalls, hrest⟩
    · exact Or.inl ⟨calls, rfl, hcalls, nofun⟩
  · rintro (⟨calls, rfl, hcalls, hresult⟩ | ⟨calls, rest, rfl, hcalls, hrest⟩)
    · cases result with
      | error e => exact Or.inr ⟨e, calls, rfl, hcalls, rfl⟩
      | ok found =>
          cases found with
          | none => exact absurd rfl hresult
          | some a =>
              exact Or.inl ⟨some a, calls, [], (List.append_nil _).symm, hcalls, .nil _⟩
    · exact Or.inl ⟨none, calls, _, rfl, hcalls, .call hrest⟩

/-- The runs of a loop to its end, where its rounds are enough for its looks at the clock. -/
theorem trace_poll_iff {rounds attempt : ℕ} {h : List (Answered (Timed.Answer Answer))}
    {result : Except ε (Option α)} :
    Trace (poll started timeout pause body rounds attempt) h (ofExcept result) ↔
      (∃ count, Polls started timeout pause body attempt count h result) ∧
        h.countP isNow ≤ rounds := by
  induction rounds generalizing attempt h with
  | zero =>
      constructor
      · intro ht
        rw [poll] at ht
        obtain ⟨answer, -⟩ := trace_call_end_iff.1 ht
        exact answer.elim
      · rintro ⟨⟨count, hpolls⟩, hcount⟩
        cases hpolls <;> simp [isNow] at hcount
  | succ rounds ih =>
      rw [poll]
      constructor
      · intro ht
        obtain ⟨time, rest, rfl, hrest⟩ := trace_call_end_iff.1 ht
        change Trace (if time - started < timeout then _ else _) _ _ at hrest
        split at hrest
        · next htime =>
          rcases trace_poll_in_time_iff.1 hrest with ⟨calls, rfl, hcalls, hresult⟩ |
            ⟨calls, rest, rfl, hcalls, hrest⟩
          · refine ⟨⟨1, .ended htime hcalls hresult⟩, ?_⟩
            rw [countP_isNow_ended]
            exact Nat.le_add_left 1 rounds
          · obtain ⟨⟨count, hpolls⟩, hcount⟩ := ih.1 hrest
            refine ⟨⟨count + 1, .again htime hcalls hpolls⟩, ?_⟩
            rw [countP_isNow_again]
            exact Nat.succ_le_succ hcount
        · next htime =>
          obtain ⟨rfl, rfl⟩ := trace_done_end_iff.1 hrest
          exact ⟨⟨0, .expired (not_lt.1 htime)⟩, Nat.le_add_left 1 rounds⟩
      · rintro ⟨⟨count, hpolls⟩, hcount⟩
        cases hpolls with
        | @expired _ time htime =>
            refine .call ?_
            show Trace (if time - started < timeout then _ else _) _ _
            rw [if_neg (not_lt.2 htime)]
            exact .nil _
        | @ended _ time calls _ htime hbody hresult =>
            refine .call ?_
            show Trace (if time - started < timeout then _ else _) _ _
            rw [if_pos htime]
            exact trace_poll_in_time_iff.2 (Or.inl ⟨calls, rfl, hbody, hresult⟩)
        | @again _ count time calls h _ htime hbody hrest =>
            have hcount' : h.countP isNow ≤ rounds := by
              rw [countP_isNow_again] at hcount
              exact Nat.le_of_succ_le_succ hcount
            refine .call ?_
            show Trace (if time - started < timeout then _ else _) _ _
            rw [if_pos htime]
            exact trace_poll_in_time_iff.2
              (Or.inr ⟨calls, h, rfl, hbody, ih.2 ⟨⟨count, hrest⟩, hcount'⟩⟩)

/-! ## Clocks -/

/-- An outside with a clock: it never goes back, and a sleep lasts as long as it should. -/
def clocked (outside : Lts σ (Answered Answer)) :
    Lts (σ × ℕ) (Answered (Timed.Answer Answer)) where
  init s := outside.init s.1
  step s e t :=
    match e with
    | ⟨.now, time⟩ => t.1 = s.1 ∧ s.2 ≤ time ∧ t.2 = time
    | ⟨.sleep pause, _⟩ => t.1 = s.1 ∧ s.2 + pause ≤ t.2
    | ⟨.never, _⟩ => False
    | ⟨.call c, answer⟩ => outside.step s.1 ⟨c, answer⟩ t.1 ∧ s.2 ≤ t.2

variable {outside : Lts σ (Answered Answer)} {s t : σ × ℕ}

/-- Some calls, and the time that has passed over them. -/
theorem clocked_run_timedCalls {h : List (Answered Answer)}
    (hrun : (clocked outside).Run s (timedCalls h) t) : outside.Run s.1 h t.1 ∧ s.2 ≤ t.2 := by
  induction h generalizing s with
  | nil =>
      cases hrun
      exact ⟨.nil _, le_rfl⟩
  | cons e h ih =>
      cases hrun with
      | cons hstep hrest =>
          obtain ⟨hrun', hle⟩ := ih hrest
          exact ⟨.cons hstep.1 hrun', Nat.le_trans hstep.2 hle⟩

/-- The pauses before the last attempt are over before the time is. -/
theorem Polls.attempts_lt {attempt count : ℕ} {h : List (Answered (Timed.Answer Answer))}
    {result : Except ε (Option α)}
    (hpolls : Polls started timeout pause body attempt count h result)
    (hrun : (clocked outside).Run s h t) (hstarted : started ≤ s.2) (hcount : 0 < count) :
    s.2 - started + (count - 1) * pause < timeout := by
  induction hpolls generalizing s with
  | expired => exact absurd hcount (lt_irrefl 0)
  | ended htime =>
      cases hrun with
      | cons hnow _ =>
          obtain ⟨-, hle, -⟩ := hnow
          omega
  | @again _ count time calls h _ htime _ _ ih =>
      cases hrun with
      | cons hnow hrest =>
          obtain ⟨-, hle, hread⟩ := hnow
          rcases Nat.eq_zero_or_pos count with rfl | hpos
          · omega
          obtain ⟨u, hcalls, hsleep⟩ := hrest.split
          obtain ⟨-, hcalls⟩ := clocked_run_timedCalls hcalls
          cases hsleep with
          | cons hslept hrest =>
              obtain ⟨-, hslept⟩ := hslept
              have hlater := ih hrest (by omega) hpos
              have hpauses : (count + 1 - 1) * pause = (count - 1) * pause + pause := by
                rw [Nat.add_sub_cancel, ← Nat.succ_mul, Nat.succ_eq_add_one,
                  Nat.sub_add_cancel hpos]
              omega

/-- What a routine does without a clock comes to no end of rounds, and takes its time. -/
theorem holds_timed (p : Routine Answer ε α) :
    Holds (clocked outside) (fun _ => Timed.Fine) (fun _ t => s.2 ≤ t.2) p.timed s := by
  have hall : ∀ {p : Routine Answer ε α}, p.timed.All fun c => ∃ c', c = .call c' := by
    intro p
    induction p with
    | done a => trivial
    | fail e => trivial
    | call c next ih => exact ⟨⟨c, rfl⟩, ih⟩
  refine hall.holds ?_ ?_ le_rfl
  · rintro _ _ _ ⟨c, rfl⟩
    trivial
  · rintro u ⟨_, answer⟩ v hle ⟨c, rfl⟩ hstep
    exact Nat.le_trans hle hstep.2

/-- No loop of a routine comes to the end of its rounds. -/
abbrev InRounds (outside : Lts σ (Answered Answer)) (p : Routine (Timed.Answer Answer) ε α)
    (s : σ × ℕ) : Prop :=
  Holds (clocked outside) (fun _ => Timed.Fine) (fun _ _ => True) p s

/-- A routine without a loop comes to no end of rounds. -/
theorem InRounds.timed (p : Routine Answer ε α) : InRounds outside p.timed s :=
  (holds_timed p).mono fun _ _ _ => trivial

/-- A sequence does not, where its parts do not. -/
theorem InRounds.bind {β : Type} {p : Routine (Timed.Answer Answer) ε α}
    {f : α → Routine (Timed.Answer Answer) ε β} (hp : InRounds outside p s)
    (hf : ∀ a t, InRounds outside (f a) t) : InRounds outside (p >>= f) s := by
  apply holds_bind.2
  apply hp.mono
  intro result t _
  cases result with
  | ok a => exact hf a t
  | error e => trivial

/-- Nor does a routine whose errors are caught. -/
theorem InRounds.attempt {δ : Type} {catches : ε → Option δ}
    {p : Routine (Timed.Answer Answer) ε α} (hp : InRounds outside p s) :
    InRounds outside (p.attempt catches) s := by
  apply holds_attempt.2
  apply hp.mono
  intro result t _
  cases result with
  | ok a => trivial
  | error e =>
      dsimp only
      cases catches e <;> trivial

/-- A loop whose rounds outlast the time never comes to their end. -/
theorem poll_inRounds (body : ℕ → Routine Answer ε (Option α)) {rounds : ℕ} (attempt : ℕ)
    (hstarted : started ≤ s.2) (hrounds : 0 < rounds)
    (htime : timeout ≤ s.2 - started + (rounds - 1) * pause) :
    InRounds outside (poll started timeout pause body rounds attempt) s := by
  induction rounds generalizing s attempt with
  | zero => exact absurd hrounds (lt_irrefl 0)
  | succ rounds ih =>
      rw [poll]
      refine ⟨trivial, ?_⟩
      rintro (time : ℕ) u ⟨-, hle, hread⟩
      show Holds _ _ _ (if time - started < timeout then _ else _) u
      split
      · next hearly =>
        apply holds_bind.2
        apply (holds_timed (body attempt)).mono
        intro result v hlater
        cases result with
        | error e => trivial
        | ok found =>
            cases found with
            | some a => trivial
            | none =>
                refine ⟨trivial, ?_⟩
                rintro _ w ⟨-, hslept⟩
                have hpos : 0 < rounds := by
                  rcases Nat.eq_zero_or_pos rounds with rfl | hpos
                  · rw [Nat.add_sub_cancel, Nat.zero_mul] at htime
                    omega
                  · exact hpos
                have hpauses : (rounds + 1 - 1) * pause = (rounds - 1) * pause + pause := by
                  rw [Nat.add_sub_cancel, ← Nat.succ_mul, Nat.succ_eq_add_one,
                    Nat.sub_add_cancel hpos]
                rw [hpauses] at htime
                generalize (rounds - 1) * pause = pauses at htime ih ⊢
                exact ih (attempt + 1) (by omega) hpos (by omega)
      · trivial

/-! ## From its beginning on -/

/-- A loop looks at the clock as it begins, and then as `Polls` says. -/
theorem trace_pollFor_iff {rounds : ℕ} {h : List (Answered (Timed.Answer Answer))}
    {result : Except ε (Option α)} :
    Trace (pollFor timeout pause body rounds) h (ofExcept result) ↔
      ∃ started rest, h = ⟨.now, started⟩ :: rest ∧
        (∃ count, Polls started timeout pause body 1 count rest result) ∧
        rest.countP isNow ≤ rounds := by
  constructor
  · intro ht
    obtain ⟨started, rest, rfl, hrest⟩ := trace_call_end_iff.1 ht
    exact ⟨started, rest, rfl, trace_poll_iff.1 hrest⟩
  · rintro ⟨started, rest, rfl, hrest⟩
    exact .call (trace_poll_iff.2 hrest)

/-- A loop that has found something has found it in one of its attempts. -/
theorem trace_pollFor_found {rounds : ℕ} {h : List (Answered (Timed.Answer Answer))} {a : α}
    (ht : Trace (pollFor timeout pause body rounds) h (done (some a))) :
    ∃ attempt calls, Trace (body attempt) calls (done (some a)) ∧ timedCalls calls <:+: h := by
  have hfound {started attempt count : ℕ} {h : List (Answered (Timed.Answer Answer))}
      {result : Except ε (Option α)}
      (hpolls : Polls started timeout pause body attempt count h result)
      (hresult : result = .ok (some a)) :
      ∃ attempt calls, Trace (body attempt) calls (done (some a)) ∧ timedCalls calls <:+: h := by
    induction hpolls with
    | expired => cases hresult
    | @ended attempt time calls result _ hbody =>
        subst hresult
        exact ⟨attempt, calls, hbody, (List.suffix_cons _ _).isInfix⟩
    | again _ _ _ ih =>
        obtain ⟨attempt, calls, hbody, hpart⟩ := ih hresult
        refine ⟨attempt, calls, hbody, hpart.trans ?_⟩
        exact ((List.suffix_cons _ _).trans ((List.suffix_append _ _).trans
          (List.suffix_cons _ _))).isInfix
  obtain ⟨started, rest, rfl, ⟨count, hpolls⟩, -⟩ :=
    trace_pollFor_iff.1 (show Trace _ _ (ofExcept (.ok (some a))) from ht)
  obtain ⟨attempt, calls, hbody, hpart⟩ := hfound hpolls rfl
  exact ⟨attempt, calls, hbody, hpart.trans (List.suffix_cons _ _).isInfix⟩

/-- The calls of a loop are those of its attempts, beside its own. -/
theorem all_pollFor {kind : Timed Call → Prop} {rounds : ℕ} (hnow : kind .now)
    (hsleep : kind (.sleep pause)) (hnever : kind .never)
    (hbody : ∀ attempt, (body attempt).All fun c => kind (.call c)) :
    (pollFor timeout pause body rounds).All kind := by
  have hpass (c : Call) (hc : kind (.call c)) :
      (pass c : Routine (Timed.Answer Answer) ε (Answer c)).All kind := ⟨hc, fun _ => trivial⟩
  have hpoll (started : ℕ) : ∀ rounds attempt,
      (poll started timeout pause body rounds attempt).All kind := by
    intro rounds
    induction rounds with
    | zero => exact fun _ => ⟨hnever, fun answer => answer.elim⟩
    | succ rounds ih =>
        intro attempt
        refine ⟨hnow, fun time => ?_⟩
        show All kind (if time - started < timeout then _ else _)
        split
        · apply ((hbody attempt).handle hpass).bind
          intro found
          cases found with
          | some a => trivial
          | none => exact ⟨hsleep, fun _ => ih (attempt + 1)⟩
        · trivial
  exact ⟨hnow, fun started => hpoll started rounds 1⟩

/-- How many attempts fit in the time. -/
theorem pollFor_attempts {count time : ℕ} {h : List (Answered (Timed.Answer Answer))}
    {result : Except ε (Option α)} (hpolls : Polls time timeout pause body 1 count h result)
    (hrun : (clocked outside).Run s (⟨.now, time⟩ :: h) t) (hcount : 0 < count) :
    (count - 1) * pause < timeout := by
  cases hrun with
  | cons hnow hrest =>
      obtain ⟨-, -, hread⟩ := hnow
      have hattempts := hpolls.attempts_lt hrest (Nat.le_of_eq hread.symm) hcount
      omega

/-- A loop with enough rounds never comes to their end. -/
theorem pollFor_inRounds (body : ℕ → Routine Answer ε (Option α)) {rounds : ℕ}
    (hrounds : 0 < rounds) (htime : timeout ≤ (rounds - 1) * pause) :
    InRounds outside (pollFor timeout pause body rounds) s := by
  refine ⟨trivial, ?_⟩
  rintro (started : ℕ) u ⟨-, -, hread⟩
  exact poll_inRounds body 1 (Nat.le_of_eq hread.symm) hrounds (by omega)

/-! ## A clock that goes on with each pause -/

/-- An outside with one answer to each call, whose clock goes on for as long as a pause and stands
still otherwise. -/
def ticking (answers : (c : Call) → σ → Option (Answer c × σ)) :
    (c : Timed Call) → σ × ℕ → Option (Timed.Answer Answer c × (σ × ℕ))
  | .now, s => some (s.2, s)
  | .sleep pause, s => some ((), (s.1, s.2 + pause))
  | .never, _ => none
  | .call c, s => (answers c s.1).map fun p => (p.1, (p.2, s.2))

/-- That is a clock. -/
theorem clocked_of_ticking {answers : (c : Call) → σ → Option (Answer c × σ)}
    {e : Answered (Timed.Answer Answer)} (hstep : (answering (ticking answers)).step s e t) :
    (clocked (answering answers)).step s e t := by
  obtain ⟨c, answer⟩ := e
  cases c with
  | now =>
      cases hstep
      exact ⟨rfl, le_rfl, rfl⟩
  | sleep pause =>
      cases hstep
      exact ⟨rfl, le_rfl⟩
  | never => cases hstep
  | call c =>
      obtain ⟨⟨answer', u⟩, hanswers, heq⟩ := Option.map_eq_some_iff.1 hstep
      cases heq
      exact ⟨hanswers, le_rfl⟩

/-- What a routine comes to by that clock is one of its runs. -/
theorem exists_run_of_ticking {answers : (c : Call) → σ → Option (Answer c × σ)}
    {p : Routine (Timed.Answer Answer) ε α} {result : Except ε α}
    (hrun : p.run (ticking answers) s = some (result, t)) :
    ∃ h, Trace p h (ofExcept result) ∧ (clocked (answering answers)).Run s h t := by
  obtain ⟨h, ht, hticking⟩ := run_eq_some_iff.1 hrun
  exact ⟨h, ht, hticking.mono fun _ _ _ => clocked_of_ticking⟩

/-! ## Without the clock -/

/-- The calls of a run without its looks at the clock, where a pause is a call of its own. -/
def untimed (pauses : ℕ → List (Answered Answer)) :
    Answered (Timed.Answer Answer) → List (Answered Answer)
  | ⟨.sleep pause, _⟩ => pauses pause
  | ⟨.call c, answer⟩ => [⟨c, answer⟩]
  | _ => []

/-- Calls that have nothing to do with the clock are what they are without it. -/
theorem flatMap_untimed_timedCalls (pauses : ℕ → List (Answered Answer))
    (h : List (Answered Answer)) : (timedCalls h).flatMap (untimed pauses) = h := by
  induction h with
  | nil => rfl
  | cons e h ih =>
      rw [timedCalls, List.map_cons, List.flatMap_cons]
      exact congrArg (e :: ·) ih

end Routine

end Fauna.Lib
