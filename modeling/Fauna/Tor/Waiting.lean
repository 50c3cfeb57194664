import Fauna.Lib.Polling
import Fauna.Tor.Control
import Fauna.Tor.Managed

/-!
# Waiting for a Tor of one's own

The waits of `start_managed_tor` as the loops that they are: `wait_for_port` connects to a port
until it is open, `wait_for_bootstrap` asks Tor for its progress, each until its time is over. Here
`start_managed_tor` is carried out with these loops in the place of its waits.

* `Clock.startManagedTor_inRounds`: no loop looks at the clock more often than its time allows.
* `start_by_the_clock`: what has been seen of a Tor that is handed out, and what runs where none is.
-/

namespace Fauna.Tor

open Fauna.Lib Fauna.Core Fauna.Wire Fauna.Desktop Fauna.Dial Fauna.Dial.Action

/-! ## The code -/

/-- The calls of a start whose waits are loops. -/
inductive TorCall
  | managed (c : ManagedCall)
  /-- `TcpStream::connect(addr).is_ok()`, of a connection that is dropped at once -/
  | probe (addr : Text)
  | net (c : Call)

/-- The type of the answer to a call. -/
@[reducible] def TorCall.Answer : TorCall → Type
  | .managed c => c.Answer
  | .probe _ => Bool
  | .net c => c.Answer

/-- A routine that makes these calls, and one that also reads the clock. -/
abbrev TorAction (α : Type) := Routine TorCall.Answer Fault α

abbrev Waiting (α : Type) := Routine (Timed.Answer TorCall.Answer) Fault α

/-- The body of the loop of `wait_for_port`. -/
def probePort (addr : Text) : TorAction (Option Unit) := do
  let isOpen ← Routine.ask (TorCall.probe addr)
  if isOpen then return some () else return none

/-- Progress is complete. -/
def bootstrapped (lines : List Text) : Bool :=
  lines.any fun line =>
    "PROGRESS=100".toList <:+: line || "SUMMARY=\"Done\"".toList <:+: line

/-- The body of the loop of `wait_for_bootstrap`. -/
def bootstrapPhase (hmac : Bytes → Bytes → Bytes) (replies : ℕ) (controlAddr : Text) :
    Action (Option Unit) := do
  TorControl.connect controlAddr
  TorControl.authenticate hmac replies
  let lines ← TorControl.command replies "GETINFO status/bootstrap-phase".toList
  if bootstrapped lines then return some () else return none

/-- A call on a connection, among the others. -/
def netCall (c : Call) : TorAction c.Answer := Routine.ask (TorCall.net c)

namespace Clock

/-- `wait_for_port`; its loop looks at the clock at most `looks` times. -/
def waitForPort (looks : ℕ) (addr : Text) (seconds : ℕ) : Waiting Unit := do
  match ← Routine.pollFor (1000 * seconds) 250 (fun _ => probePort addr) looks with
  | some () => return ()
  | none => .fail (.error (addr ++ " zamaninda acilmadi".toList))

/-- `wait_for_bootstrap`. -/
def waitForBootstrap (hmac : Bytes → Bytes → Bytes) (replies looks : ℕ) (controlAddr : Text)
    (seconds : ℕ) : Waiting Unit := do
  match ← Routine.pollFor (1000 * seconds) 1000
    (fun _ => (bootstrapPhase hmac replies controlAddr).handle id netCall) looks with
  | some () => return ()
  | none => .fail (.error "Tor bootstrap zaman asimina ugradi".toList)

/-- The calls of `start_managed_tor`, with its waits carried out. -/
def carryOut (hmac : Bytes → Bytes → Bytes) (replies looks : ℕ) :
    (c : ManagedCall) → Waiting c.Answer
  | .waitForPort addr seconds => (waitForPort looks addr seconds).attempt caught
  | .waitForBootstrap controlAddr seconds =>
      (waitForBootstrap hmac replies looks controlAddr seconds).attempt caught
  | c => Routine.ask (Timed.call (TorCall.managed c))

/-- `start_managed_tor`. -/
def startManagedTor (hmac : Bytes → Bytes → Bytes) (replies looks : ℕ) (windows : Bool)
    (tempDir : Path) (processId : ℕ) (exeHint : Option Text) : Waiting ManagedTor :=
  (Tor.startManagedTor windows tempDir processId exeHint).handle Fault.error
    (carryOut hmac replies looks)

end Clock

/-! ## What a start spawns, and what it waits for -/

/-- The Tors that some calls have spawned. -/
def spawnedBy (history : History) : List TorProcess :=
  history.filterMap fun
    | ⟨.spawn _ dir _ _, .ok child⟩ => some ⟨child, dir⟩
    | _ => none

theorem spawnedBy_append (history history' : History) :
    spawnedBy (history ++ history') = spawnedBy history ++ spawnedBy history' :=
  List.filterMap_append

/-- A start kills nothing, and spawns one Tor at most. -/
def Once (history : History) : ManagedCall → Prop
  | .kill _ => False
  | .spawn _ _ _ _ => spawnedBy history = []
  | _ => True

/-- The waits that a start comes to before it hands out a Tor have all succeeded. -/
def Waited (result : Except Text ManagedTor) (history : History) : Prop :=
  ∀ runtime, result = .ok runtime →
    ⟨.waitForPort runtime.socksAddr 45, .ok ()⟩ ∈ history ∧
    ⟨.waitForPort runtime.controlAddr 10, .ok ()⟩ ∈ history ∧
    ⟨.waitForBootstrap runtime.controlAddr 90, .ok ()⟩ ∈ history

/-- A call that comes before the spawn spawns nothing. -/
theorem spawnedBy_append_of_beforeSpawn {history : History}
    {e : Routine.Answered ManagedCall.Answer} (he : BeforeSpawn e.1) :
    spawnedBy (history ++ [e]) = spawnedBy history := by
  obtain ⟨c, answer⟩ := e
  cases c with
  | spawn => cases he
  | _ => simp [spawnedBy]

/-- From the spawn on, no other Tor is spawned, and the waits come after it. -/
theorem spawnAndWait_once (torExe dir : Path) (socksPort controlPort : UInt16) {history : History}
    (h : spawnedBy history = []) :
    (spawnAndWait torExe dir socksPort controlPort).Holds Routine.memory Once Waited history := by
  have herror {message : Text} {history : History} : Waited (.error message) history :=
    fun _ hresult => by cases hresult
  refine ⟨h, ?_⟩
  rintro (message | child) _ rfl
  · exact herror
  refine ⟨trivial, ?_⟩
  rintro (message | _) _ rfl
  · exact herror
  refine ⟨trivial, ?_⟩
  rintro (message | _) _ rfl
  · exact herror
  refine ⟨trivial, ?_⟩
  rintro (message | _) _ rfl
  · exact herror
  · intro runtime hresult
    obtain rfl := Except.ok.inj hresult
    exact ⟨by simp, by simp, by simp⟩

/-- A start spawns one Tor at most, and waits for it. -/
theorem startManagedTor_once (windows : Bool) (tempDir : Path) (processId : ℕ)
    (exeHint : Option Text) : (Tor.startManagedTor windows tempDir processId exeHint).Holds
      Routine.memory Once Waited [] := by
  have hbefore {α : Type} {first : Managed α} {next : α → Managed ManagedTor} {history : History}
      (hfirst : first.All BeforeSpawn) (h : spawnedBy history = [])
      (hnext : ∀ a history, spawnedBy history = [] →
        (next a).Holds Routine.memory Once Waited history) :
      (first >>= next).Holds Routine.memory Once Waited history := by
    refine hfirst.holds_bind ?_ ?_ h (fun _ _ _ hresult => by cases hresult) hnext
    · intro history c hnone hc
      cases c with
      | spawn | kill => cases hc
      | _ => trivial
    · rintro history e _ hnone he rfl
      rwa [spawnedBy_append_of_beforeSpawn he]
  apply hbefore (all_findTorExecutable windows exeHint) rfl
  intro torExe history h
  apply hbefore all_reserveLocalPort h
  intro socksPort history h
  apply hbefore all_reserveLocalPort h
  intro controlPort history h
  apply hbefore (all_clearDataDir _) h
  intro _ history h
  exact spawnAndWait_once torExe _ socksPort controlPort h

/-- What a start has spawned runs, as long as it goes and after it. -/
theorem running_eq_spawnedBy {windows : Bool} {tempDir : Path} {processId : ℕ}
    {exeHint : Option Text} {history : History} {rest : Managed ManagedTor}
    (h : Routine.Trace (Tor.startManagedTor windows tempDir processId exeHint) history rest) :
    runningAfter [] history = spawnedBy history ∧ (spawnedBy history).length ≤ 1 := by
  have hprefix : ∀ before after, history = before ++ after →
      runningAfter [] before = spawnedBy before ∧ (spawnedBy before).length ≤ 1 := by
    intro before
    induction before using List.reverseRecOn with
    | nil => exact fun _ _ => ⟨rfl, Nat.zero_le 1⟩
    | append_singleton before e ih =>
        rintro after rfl
        obtain ⟨hrunning, hlength⟩ := ih (e :: after) (by simp)
        have honce : Once before e.1 := by
          have htrace : Routine.Trace (Tor.startManagedTor windows tempDir processId exeHint)
              (before ++ e :: after) rest := by simpa using h
          exact (startManagedTor_once windows tempDir processId exeHint).permits_at htrace
            (by simpa using Routine.memory_run [] before)
        obtain ⟨c, answer⟩ := e
        rw [runningAfter_append, hrunning, spawnedBy_append]
        cases c with
        | kill => cases honce
        | spawn exe dir socksPort controlPort =>
            rw [show spawnedBy before = [] from honce]
            cases answer with
            | ok child => exact ⟨rfl, le_rfl⟩
            | error message => exact ⟨rfl, Nat.zero_le 1⟩
        | _ => simpa [runningAfter, runs, spawnedBy] using hlength
  exact hprefix history [] (List.append_nil _).symm

/-! ## The calls of the loops -/

/-- The calls of `start_managed_tor` itself. -/
def managedCalls (history : List (Routine.Answered (Timed.Answer TorCall.Answer))) : History :=
  history.filterMap fun
    | ⟨.call (.managed c), answer⟩ => some ⟨c, answer⟩
    | _ => none

/-- A call of a loop. -/
def OfLoop : Timed TorCall → Prop
  | .call (.managed _) => False
  | _ => True

/-- A loop makes none of the calls of `start_managed_tor` itself. -/
theorem managedCalls_of_loop {α : Type} {action rest : Waiting α} (hall : action.All OfLoop)
    {history : List (Routine.Answered (Timed.Answer TorCall.Answer))}
    (h : Routine.Trace action history rest) : managedCalls history = [] := by
  rw [managedCalls, List.filterMap_eq_nil_iff]
  rintro ⟨c, answer⟩ he
  have hloop := hall.of_trace h he
  cases c with
  | call c =>
      cases c with
      | managed c => cases hloop
      | _ => rfl
  | _ => rfl

namespace Clock

/-- The calls of `wait_for_port` are those of its loop. -/
theorem all_waitForPort (looks : ℕ) (addr : Text) (seconds : ℕ) :
    (waitForPort looks addr seconds).All OfLoop := by
  have hprobe : (probePort addr).All fun c => OfLoop (.call c) := by
    refine ⟨trivial, fun isOpen => ?_⟩
    cases isOpen <;> trivial
  apply (Routine.all_pollFor trivial trivial trivial fun _ => hprobe).bind
  intro found
  cases found <;> trivial

/-- So are those of `wait_for_bootstrap`. -/
theorem all_waitForBootstrap (hmac : Bytes → Bytes → Bytes) (replies looks : ℕ)
    (controlAddr : Text) (seconds : ℕ) :
    (waitForBootstrap hmac replies looks controlAddr seconds).All OfLoop := by
  have hphase : ((bootstrapPhase hmac replies controlAddr).handle id netCall).All
      fun c => OfLoop (.call c) :=
    (Routine.All.trivial _).handle fun c _ => ⟨trivial, fun _ => trivial⟩
  apply (Routine.all_pollFor trivial trivial trivial fun _ => hphase).bind
  intro found
  cases found <;> trivial

end Clock

/-- A wait is carried out by calls of a loop. -/
theorem all_carryOut (hmac : Bytes → Bytes → Bytes) (replies looks : ℕ) {c : ManagedCall}
    (hwait : (∃ addr seconds, c = .waitForPort addr seconds) ∨
      ∃ addr seconds, c = .waitForBootstrap addr seconds) :
    (Clock.carryOut hmac replies looks c).All OfLoop := by
  rcases hwait with ⟨addr, seconds, rfl⟩ | ⟨addr, seconds, rfl⟩
  · exact (Clock.all_waitForPort looks addr seconds).attempt
  · exact (Clock.all_waitForBootstrap hmac replies looks addr seconds).attempt

/-- Without the loops, a start has run and spawned what it has run and spawned with them. -/
theorem handled_managedCalls {hmac : Bytes → Bytes → Bytes} {replies looks : ℕ} {own : History}
    {history : List (Routine.Answered (Timed.Answer TorCall.Answer))}
    (h : Routine.Handled (Clock.carryOut hmac replies looks) own history) :
    spawnedBy (managedCalls history) = spawnedBy own ∧
      ∀ running, runningAfter running (managedCalls history) = runningAfter running own := by
  induction h with
  | nil => exact ⟨rfl, fun _ => rfl⟩
  | @cons c answer calls own history hanswer _ ih =>
      obtain ⟨hspawned, hrunning⟩ := ih
      have hsplit : managedCalls (calls ++ history) = managedCalls calls ++ managedCalls history :=
        List.filterMap_append
      rw [hsplit]
      cases c with
      | waitForPort addr seconds =>
          rw [managedCalls_of_loop (all_carryOut hmac replies looks (Or.inl ⟨_, _, rfl⟩)) hanswer]
          exact ⟨hspawned, hrunning⟩
      | waitForBootstrap addr seconds =>
          rw [managedCalls_of_loop (all_carryOut hmac replies looks (Or.inr ⟨_, _, rfl⟩)) hanswer]
          exact ⟨hspawned, hrunning⟩
      | _ =>
          obtain rfl := Routine.trace_ask_done_iff.1 hanswer
          refine ⟨?_, fun running => hrunning _⟩
          show spawnedBy ([_] ++ managedCalls history) = spawnedBy ([_] ++ own)
          rw [spawnedBy_append, spawnedBy_append, hspawned]

/-! ## A start by the clock -/

/-- A call on a connection, as a start makes it. -/
def onNet (e : Routine.Answered Call.Answer) :
    Routine.Answered (Timed.Answer TorCall.Answer) := ⟨.call (.net e.1), e.2⟩

/-- A call on a connection is renamed and nothing else. -/
theorem netCall_renames : Routine.Renames netCall fun e => ⟨.net e.1, e.2⟩ where
  done _ _ _ := Routine.trace_ask_done_iff
  fail _ _ _ := Routine.not_trace_ask_fail

namespace Clock

/-- A wait for a port that succeeded has seen it accept a connection. -/
theorem trace_waitForPort {looks seconds : ℕ} {addr : Text}
    {history : List (Routine.Answered (Timed.Answer TorCall.Answer))}
    (h : Routine.Trace (waitForPort looks addr seconds) history (.done ())) :
    ⟨.call (.probe addr), true⟩ ∈ history := by
  obtain ⟨found, before, after, rfl, hpoll, hafter⟩ := Routine.trace_bind_done_iff.1 h
  cases found with
  | none => cases (Routine.trace_fail_iff.1 hafter).2
  | some _ =>
      obtain ⟨_, calls, hprobe, hpart⟩ := Routine.trace_pollFor_found hpoll
      obtain ⟨isOpen, rest, rfl, hrest⟩ := Routine.trace_call_done_iff.1 hprobe
      have hopen : isOpen = true := by
        cases isOpen with
        | true => rfl
        | false => cases (Routine.trace_done_iff.1 hrest).2
      rw [hopen] at hpart
      exact List.mem_append_left _ (hpart.subset List.mem_cons_self)

/-- A wait for the bootstrap that succeeded ends with a phase that says it is complete. -/
theorem trace_waitForBootstrap {hmac : Bytes → Bytes → Bytes} {replies looks seconds : ℕ}
    {controlAddr : Text} {history : List (Routine.Answered (Timed.Answer TorCall.Answer))}
    (h : Routine.Trace (waitForBootstrap hmac replies looks controlAddr seconds) history
      (.done ())) :
    ∃ calls, Routine.Trace (bootstrapPhase hmac replies controlAddr) calls (.done (some ())) ∧
      calls.map onNet <:+: history := by
  obtain ⟨found, before, after, rfl, hpoll, hafter⟩ := Routine.trace_bind_done_iff.1 h
  cases found with
  | none => cases (Routine.trace_fail_iff.1 hafter).2
  | some _ =>
      obtain ⟨_, calls, hphase, hpart⟩ := Routine.trace_pollFor_found hpoll
      obtain ⟨calls, own, rfl, hcalls, hown⟩ := netCall_renames.trace_handle_iff.1
        (show Routine.Trace _ _ (.ofExcept (.ok (some ()))) from hphase)
      cases own with
      | error fault => cases hown
      | ok found =>
          cases hown
          refine ⟨calls, hcalls,
            List.IsInfix.trans ?_ (hpart.trans (List.prefix_append _ _).isInfix)⟩
          rw [Routine.timedCalls, List.map_map]
          exact List.infix_rfl

/-- The waits of a start take 45 or 90 seconds at most. -/
def Brief : ManagedCall → Prop
  | .waitForPort _ seconds => seconds ≤ 45
  | .waitForBootstrap _ seconds => seconds ≤ 90
  | _ => True

/-- The waits of a start are brief. -/
theorem all_startManagedTor (windows : Bool) (tempDir : Path) (processId : ℕ)
    (exeHint : Option Text) :
    (Tor.startManagedTor windows tempDir processId exeHint).All Brief := by
  have hbrief (c : ManagedCall) (hc : BeforeSpawn c) : Brief c := by
    cases c with
    | waitForPort | waitForBootstrap => cases hc
    | _ => trivial
  have hcontext {α : Type} (context : Text) (answer : Except Text α) :
      (withContext context answer).All Brief := .ofExcept _
  apply ((all_findTorExecutable windows exeHint).mono hbrief).bind
  intro torExe
  apply (all_reserveLocalPort.mono hbrief).bind
  intro socksPort
  apply (all_reserveLocalPort.mono hbrief).bind
  intro controlPort
  apply ((all_clearDataDir _).mono hbrief).bind
  intro _
  refine ⟨trivial, fun answer => (hcontext _ answer).bind fun child => ?_⟩
  refine ⟨le_rfl, fun answer => (hcontext _ answer).bind fun _ => ?_⟩
  refine ⟨by show 10 ≤ 45; decide, fun answer => (hcontext _ answer).bind fun _ => ?_⟩
  exact ⟨le_rfl, fun answer => (hcontext _ answer).bind fun _ => trivial⟩

/-- With 181 looks at the clock no polling loop of a start is cut short. -/
theorem startManagedTor_inRounds {σ : Type} {outside : Lts σ (Routine.Answered TorCall.Answer)}
    {s : σ × ℕ} (hmac : Bytes → Bytes → Bytes) (replies spare : ℕ) (windows : Bool)
    (tempDir : Path) (processId : ℕ) (exeHint : Option Text) :
    Routine.InRounds outside
      (startManagedTor hmac replies (181 + spare) windows tempDir processId exeHint) s := by
  refine (all_startManagedTor windows tempDir processId exeHint).holds_handle ?_ trivial
  intro c t hbrief _
  cases c with
  | waitForPort addr seconds =>
      have hseconds : seconds ≤ 45 := hbrief
      refine (Routine.InRounds.bind (Routine.pollFor_inRounds _ ?_ ?_) ?_).attempt
      · omega
      · omega
      · intro found _
        cases found <;> trivial
  | waitForBootstrap controlAddr seconds =>
      have hseconds : seconds ≤ 90 := hbrief
      refine (Routine.InRounds.bind (Routine.pollFor_inRounds _ ?_ ?_) ?_).attempt
      · omega
      · omega
      · intro found _
        cases found <;> trivial
  | _ => exact ⟨trivial, fun _ _ _ => trivial⟩

end Clock

/-- What a start has seen of the Tor that it hands out: its two ports have accepted a connection,
and it has said that its progress is complete. -/
structure Seen (hmac : Bytes → Bytes → Bytes) (replies : ℕ) (runtime : ManagedTor)
    (history : List (Routine.Answered (Timed.Answer TorCall.Answer))) : Prop where
  socks : ⟨.call (.probe runtime.socksAddr), true⟩ ∈ history
  control : ⟨.call (.probe runtime.controlAddr), true⟩ ∈ history
  bootstrap : ∃ calls, Routine.Trace (bootstrapPhase hmac replies runtime.controlAddr) calls
    (.done (some ())) ∧ calls.map onNet <:+: history

/-- Where the waits have succeeded, the Tor was seen to be ready. -/
theorem seen_of_waited {hmac : Bytes → Bytes → Bytes} {replies looks : ℕ} {runtime : ManagedTor}
    {own : History} {history : List (Routine.Answered (Timed.Answer TorCall.Answer))}
    (hhandled : Routine.Handled (Clock.carryOut hmac replies looks) own history)
    (hwaited : Waited (.ok runtime) own) : Seen hmac replies runtime history := by
  obtain ⟨hsocks, hcontrol, hbootstrap⟩ := hwaited runtime rfl
  have hport {addr : Text} {seconds : ℕ} (h : ⟨.waitForPort addr seconds, .ok ()⟩ ∈ own) :
      ⟨.call (.probe addr), true⟩ ∈ history := by
    obtain ⟨calls, hcalls, hpart⟩ := hhandled.exists_calls h
    rcases Routine.trace_attempt_done_iff.1 hcalls with ⟨_, -, hwait⟩ | ⟨_, _, hresult, -, -⟩
    · exact hpart.subset (Clock.trace_waitForPort hwait)
    · cases hresult
  refine ⟨hport hsocks, hport hcontrol, ?_⟩
  obtain ⟨calls, hcalls, hpart⟩ := hhandled.exists_calls hbootstrap
  rcases Routine.trace_attempt_done_iff.1 hcalls with ⟨_, -, hwait⟩ | ⟨_, _, hresult, -, -⟩
  · obtain ⟨phase, hphase, hpart'⟩ := Clock.trace_waitForBootstrap hwait
    exact ⟨phase, hphase, hpart'.trans hpart⟩
  · cases hresult

/-- A start with its waits as loops, on every computer whose clock never goes back and whose sleeps
last. Neither loop looks at the clock more than 181 times, as often as the time of `wait_for_port`
allows; a round of it ends if its calls are answered and the replies of the control port end.
Whatever the start has spawned when it returns, at most one Tor, runs then, also where it returns an
error or panics. Where it hands out a Tor, that is the one that runs, and it has opened both its
ports and said that its progress is complete. -/
theorem start_by_the_clock {σ : Type} (outside : Lts σ (Routine.Answered TorCall.Answer))
    (hmac : Bytes → Bytes → Bytes) (replies spare : ℕ) (windows : Bool) (tempDir : Path)
    (processId : ℕ) (exeHint : Option Text) (s : σ × ℕ) :
    Routine.InRounds outside
      (Clock.startManagedTor hmac replies (181 + spare) windows tempDir processId exeHint) s ∧
    ∀ history result, Routine.Trace
      (Clock.startManagedTor hmac replies (181 + spare) windows tempDir processId exeHint) history
      (.ofExcept result) →
        runningAfter [] (managedCalls history) = spawnedBy (managedCalls history) ∧
        (spawnedBy (managedCalls history)).length ≤ 1 ∧
        ∀ runtime, result = .ok runtime →
          runningAfter [] (managedCalls history) = [runtime.process] ∧
            Seen hmac replies runtime history := by
  refine ⟨Clock.startManagedTor_inRounds hmac replies spare windows tempDir processId exeHint, ?_⟩
  intro history result h
  rcases Routine.trace_handle_iff.1 h with ⟨own, outcome, hhandled, htrace, rfl⟩ |
    ⟨own, before, after, c, next, fault, rfl, hhandled, htrace, hfails, rfl⟩
  · obtain ⟨hspawned, hrunning⟩ := handled_managedCalls hhandled
    obtain ⟨hruns, hlength⟩ := running_eq_spawnedBy htrace
    rw [hspawned, hrunning]
    refine ⟨hruns, hlength, ?_⟩
    rintro runtime hresult
    cases outcome with
    | error message => cases hresult
    | ok runtime' =>
        cases hresult
        have hhandedOut : Routine.Trace (Tor.startManagedTor windows tempDir processId exeHint) own
            (.ofExcept (.ok runtime)) := htrace
        refine ⟨(startManagedTor_ends hhandedOut).2, ?_⟩
        exact seen_of_waited hhandled (Routine.holds_ofExcept.1
          ((startManagedTor_once windows tempDir processId exeHint).of_memory htrace))
  · -- a panic in a wait, whose loop calls nothing of the start's own
    have hloop : managedCalls after = [] := by
      cases c with
      | waitForPort addr seconds =>
          exact managedCalls_of_loop (all_carryOut hmac replies _ (Or.inl ⟨_, _, rfl⟩)) hfails
      | waitForBootstrap addr seconds =>
          exact managedCalls_of_loop (all_carryOut hmac replies _ (Or.inr ⟨_, _, rfl⟩)) hfails
      | _ => exact absurd hfails Routine.not_trace_ask_fail
    have hsplit : managedCalls (before ++ after) = managedCalls before := by
      rw [← List.append_nil (managedCalls before), ← hloop]
      exact List.filterMap_append
    obtain ⟨hspawned, hrunning⟩ := handled_managedCalls hhandled
    obtain ⟨hruns, hlength⟩ := running_eq_spawnedBy htrace
    rw [hsplit, hspawned, hrunning]
    exact ⟨hruns, hlength, nofun⟩

/-- A computer with an executable `tor`, and what its Tor has yet to say on its control port. -/
structure TorComputer where
  reserved : ℕ
  probes : ℕ
  unread : List Text

/-- It reserves the ports from 40000 on; the Tor opens them after it was asked for one once, takes a
login without a password, and has no more progress to make. -/
def TorComputer.answers : (c : TorCall) → TorComputer → Option (c.Answer × TorComputer)
  | .managed (.pathExists path), s => some (decide (path = ["tor".toList]), s)
  | .managed .bind, s => some (.ok (), s)
  | .managed .localPort, s =>
      some (.ok (.ofNat (40000 + s.reserved)), { s with reserved := s.reserved + 1 })
  | .managed (.createDirAll _), s => some (.ok (), s)
  | .managed (.spawn _ _ _ _), s => some (.ok ⟨11⟩, s)
  | .probe _, s => some (decide (0 < s.probes), { s with probes := s.probes + 1 })
  | .net (.connect .control _), s =>
      some (.ok (), { s with unread := ["250 OK\r\n".toList,
        "250-status/bootstrap-phase=NOTICE BOOTSTRAP PROGRESS=100 TAG=done\r\n".toList,
        "250 OK\r\n".toList] })
  | .net (.writeAll _), s => some (.ok (), s)
  | .net .readLine, s =>
      match s.unread with
      | [] => none
      | line :: unread => some (.ok line, { s with unread := unread })
  | _, _ => none

/-- The Tor that is handed out there. -/
def torOnComputer : ManagedTor where
  socksAddr := "127.0.0.1:40000".toList
  controlAddr := "127.0.0.1:40001".toList
  child := ⟨11⟩
  dataDir := ["tmp".toList, "fauna-tor-7".toList]

/-- There a start hands out its Tor, after one pause. -/
theorem start_by_the_clock_handed_out : ∃ history t,
    Routine.Trace (Clock.startManagedTor List.append 2 181 false ["tmp".toList] 7
      (some "tor".toList)) history (.ofExcept (.ok torOnComputer)) ∧
    (Routine.clocked (Routine.answering TorComputer.answers)).Run (⟨0, 0, []⟩, 0) history (t, 250) ∧
    runningAfter [] (managedCalls history) = [torOnComputer.process] ∧
    Seen List.append 2 torOnComputer history := by
  have hends : (Clock.startManagedTor List.append 2 181 false ["tmp".toList] 7
      (some "tor".toList)).run (Routine.ticking TorComputer.answers) (⟨0, 0, []⟩, 0) =
        some (.ok torOnComputer, (⟨2, 3, []⟩, 250)) := rfl
  obtain ⟨history, ht, hrun⟩ := Routine.exists_run_of_ticking hends
  have hall := start_by_the_clock (Routine.answering TorComputer.answers) List.append 2 0 false
    ["tmp".toList] 7 (some "tor".toList) (⟨0, 0, []⟩, 0)
  obtain ⟨-, -, hhandedOut⟩ := hall.2 history _ ht
  exact ⟨history, _, ht, hrun, hhandedOut torOnComputer rfl⟩

end Fauna.Tor
