import Fauna.Desktop.App
import Fauna.Lib.Routine

/-!
# Starting a Tor of one's own

`start_managed_tor` as a routine that calls the operating system. It looks for an executable,
reserves two ports, clears the data directory, which has one name for all attempts of an app
process, spawns Tor and waits for it three times. The three waits are calls that succeed or fail.
What it returns is stopped and cleaned up when it is dropped; where a wait fails there is nothing
to be dropped.

* `startManagedTor_spec`: how a start ends, and what runs then.
* `cleanedUp_iff`: a failed start has cleaned up after itself exactly when no wait failed.
-/

namespace Fauna.Tor

open Fauna.Lib Fauna.Core Fauna.Desktop

/-! ## The code -/

/-- A path, by the parts that it was joined from. -/
abbrev Path := List Text

/-- `Child`. -/
structure Child where
  pid : ℕ
  deriving DecidableEq

/-- The calls of `start_managed_tor`, and of the drop of what it returns. -/
inductive ManagedCall
  /-- `path.exists()` -/
  | pathExists (path : Path)
  /-- `env::current_exe()` and its `parent()`, where there are such -/
  | appDir
  /-- `TcpListener::bind("127.0.0.1:0")` -/
  | bind
  /-- `listener.local_addr()`, for its port -/
  | localPort
  /-- `fs::remove_dir_all(dir)` -/
  | removeDirAll (dir : Path)
  /-- `fs::create_dir_all(dir)` -/
  | createDirAll (dir : Path)
  /-- `command.spawn()`, of an executable with its data directory and its two ports -/
  | spawn (exe dataDir : Path) (socksPort controlPort : UInt16)
  /-- `wait_for_port` -/
  | waitForPort (addr : Text) (seconds : ℕ)
  /-- `wait_for_bootstrap` -/
  | waitForBootstrap (controlAddr : Text) (seconds : ℕ)
  /-- `child.kill()` -/
  | kill (child : Child)
  /-- `child.wait()` -/
  | wait (child : Child)
  deriving DecidableEq

/-- The type of the answer to a call; an error is known by its text. -/
@[reducible] def ManagedCall.Answer : ManagedCall → Type
  | .pathExists _ => Bool
  | .appDir => Option Path
  | .localPort => Except Text UInt16
  | .spawn _ _ _ _ => Except Text Child
  | .bind | .removeDirAll _ | .createDirAll _ | .waitForPort _ _ | .waitForBootstrap _ _ | .kill _ |
    .wait _ => Except Text Unit

/-- A routine that makes these calls. -/
abbrev Managed (α : Type) := Routine ManagedCall.Answer Text α

/-- What a routine has called, with the answers. -/
abbrev History := List (Routine.Answered ManagedCall.Answer)

/-- `TorRuntime`, with what its `Drop` uses. -/
structure ManagedTor extends TorRuntime where
  child : Child
  dataDir : Path

/-- A call that fails with the text of a context. -/
def withContext {α : Type} (context : Text) (answer : Except Text α) : Managed α :=
  .ofExcept (answer.mapError fun _ => context)

/-- `Drop for TorRuntime`. -/
def ManagedTor.drop (runtime : ManagedTor) : Managed Unit := do
  let _ ← Routine.ask (.kill runtime.child)
  let _ ← Routine.ask (.wait runtime.child)
  let _ ← Routine.ask (.removeDirAll runtime.dataDir)
  return ()

/-- `bundled_tor_candidates`. -/
def bundledTorCandidates (windows : Bool) : List Text :=
  if windows then
    ["bin/tor/tor.exe".toList, "tor/tor.exe".toList, "Browser/TorBrowser/Tor/tor.exe".toList]
  else ["bin/tor/tor".toList, "tor/tor".toList]

/-- The first of some paths that exists. -/
def firstExisting : List Path → Managed (Option Path)
  | [] => return none
  | path :: paths => do
      let found ← Routine.ask (.pathExists path)
      if found then return some path else firstExisting paths

/-- `find_tor_executable`. -/
def findTorExecutable (windows : Bool) (exeHint : Option Text) : Managed Path := do
  match ← firstExisting (exeHint.toList.map fun hint => [hint]) with
  | some path => return path
  | none => do
      let appDir ← Routine.ask .appDir
      let candidates := bundledTorCandidates windows
      let beside := match appDir with
        | some dir => candidates.map fun relative => dir ++ [relative]
        | none => []
      let found ← firstExisting (beside ++ candidates.map fun relative => [relative])
      return found.getD ["tor".toList]

/-- `reserve_local_port`. -/
def reserveLocalPort : Managed UInt16 := do
  Routine.ofExcept (← Routine.ask .bind)
  Routine.ofExcept (← Routine.ask .localPort)

/-- The data directory of every Tor that an app process starts. -/
def dataDir (tempDir : Path) (processId : ℕ) : Path :=
  tempDir ++ ["fauna-tor-".toList ++ decimal processId]

/-- The data directory is removed, if it is there, and created. -/
def clearDataDir (dir : Path) : Managed Unit := do
  let found ← Routine.ask (.pathExists dir)
  if found then
    let _ ← Routine.ask (.removeDirAll dir)
    Routine.ofExcept (← Routine.ask (.createDirAll dir))
  else Routine.ofExcept (← Routine.ask (.createDirAll dir))

/-- `path.display()`. -/
def display (path : Path) : Text := List.intercalate ['/'] path

/-- `spawn_tor`. -/
def spawnTor (torExe dir : Path) (socksPort controlPort : UInt16) : Managed Child := do
  withContext ("Tor baslatilamadi: ".toList ++ display torExe)
    (← Routine.ask (.spawn torExe dir socksPort controlPort))

/-- `127.0.0.1:port`. -/
def localAddress (port : UInt16) : Text := "127.0.0.1:".toList ++ decimal port.toNat

/-- `start_managed_tor` from `spawn_tor` on. -/
def spawnAndWait (torExe dir : Path) (socksPort controlPort : UInt16) : Managed ManagedTor := do
  let socksAddr := localAddress socksPort
  let controlAddr := localAddress controlPort
  let child ← spawnTor torExe dir socksPort controlPort
  withContext ("Tor SOCKS port hazir olmadi: ".toList ++ socksAddr)
    (← Routine.ask (.waitForPort socksAddr 45))
  withContext ("Tor control port hazir olmadi: ".toList ++ controlAddr)
    (← Routine.ask (.waitForPort controlAddr 10))
  withContext "Tor ag baglantisi hazir olmadi".toList
    (← Routine.ask (.waitForBootstrap controlAddr 90))
  return { controlAddr := controlAddr, socksAddr := socksAddr, child := child, dataDir := dir }

/-- `start_managed_tor`. -/
def startManagedTor (windows : Bool) (tempDir : Path) (processId : ℕ) (exeHint : Option Text) :
    Managed ManagedTor := do
  let torExe ← findTorExecutable windows exeHint
  let socksPort ← reserveLocalPort
  let controlPort ← reserveLocalPort
  clearDataDir (dataDir tempDir processId)
  spawnAndWait torExe (dataDir tempDir processId) socksPort controlPort

/-! ## What runs -/

/-- A Tor that the app has spawned and that has not ended. -/
structure TorProcess where
  child : Child
  dataDir : Path
  deriving DecidableEq

/-- The process of a Tor that was started. -/
def ManagedTor.process (runtime : ManagedTor) : TorProcess := ⟨runtime.child, runtime.dataDir⟩

/-- A process was spawned. -/
def spawns : Routine.Answered ManagedCall.Answer → Bool
  | ⟨.spawn _ _ _ _, .ok _⟩ => true
  | _ => false

/-- A wait has failed. -/
def waitFails : Routine.Answered ManagedCall.Answer → Bool
  | ⟨.waitForPort _ _, .error _⟩ | ⟨.waitForBootstrap _ _, .error _⟩ => true
  | _ => false

/-- What runs after a call. -/
def runs (running : List TorProcess) : Routine.Answered ManagedCall.Answer → List TorProcess
  | ⟨.spawn _ dir _ _, .ok child⟩ => running ++ [⟨child, dir⟩]
  | ⟨.kill child, .ok _⟩ => running.filter (·.child ≠ child)
  | _ => running

/-- What runs after some calls. -/
def runningAfter (running : List TorProcess) (history : History) : List TorProcess :=
  history.foldl runs running

/-- What runs after two stretches of calls. -/
@[simp] theorem runningAfter_append (running : List TorProcess) (history history' : History) :
    runningAfter running (history ++ history') =
      runningAfter (runningAfter running history) history' :=
  List.foldl_append

/-- No wait fails. -/
def WaitsSucceed (history : History) : Prop := history.any waitFails = false

instance (history : History) : Decidable (WaitsSucceed history) :=
  inferInstanceAs (Decidable (_ = _))

/-- Whatever was spawned was killed after that, and its data directory removed. -/
def CleanedUp (history : History) : Prop :=
  ∀ before exe dir socksPort controlPort child after,
    history = before ++ ⟨.spawn exe dir socksPort controlPort, .ok child⟩ :: after →
      ⟨.kill child, .ok ()⟩ ∈ after ∧ ⟨.removeDirAll dir, .ok ()⟩ ∈ after

/-! ## How a start ends -/

/-- Nothing was spawned, killed or waited for. -/
def Untouched (history : History) : Prop :=
  history.any waitFails = false ∧ history.any spawns = false ∧ runningAfter [] history = []

/-- How a start ends: with a Tor that runs; or after a wait that failed, when it runs as well; or
before it was spawned. -/
def Ends (result : Except Text ManagedTor) (history : History) : Prop :=
  match result with
  | .ok runtime => history.any waitFails = false ∧ runningAfter [] history = [runtime.process]
  | .error _ => Untouched history ∨ history.any waitFails = true ∧ history.any spawns = true

/-- A data directory is removed while nothing runs, and nothing is killed. -/
def Careful (history : History) : ManagedCall → Prop
  | .removeDirAll _ => runningAfter [] history = []
  | .kill _ => False
  | _ => True

/-- The calls that come before the spawn. -/
def BeforeSpawn : ManagedCall → Prop
  | .pathExists _ | .appDir | .bind | .localPort | .removeDirAll _ | .createDirAll _ => True
  | _ => False

/-- A call that comes before the spawn leaves everything untouched. -/
theorem Untouched.append {history : History} (h : Untouched history)
    {e : Routine.Answered ManagedCall.Answer} (he : BeforeSpawn e.1) :
    Untouched (history ++ [e]) := by
  obtain ⟨c, answer⟩ := e
  obtain ⟨hwaits, hspawns, hrunning⟩ := h
  cases c with
  | spawn | waitForPort | waitForBootstrap | kill | wait => cases he
  | _ =>
      refine ⟨?_, ?_, ?_⟩
      · rw [List.any_append, hwaits]
        rfl
      · rw [List.any_append, hspawns]
        rfl
      · rw [runningAfter_append, hrunning]
        rfl

/-- A process was spawned and runs, and no wait has failed. -/
def Spawned (child : Child) (dir : Path) (history : History) : Prop :=
  history.any waitFails = false ∧ history.any spawns = true ∧
    runningAfter [] history = [⟨child, dir⟩]

/-- A wait for the process that was spawned, and what comes after it. -/
theorem Spawned.wait {child : Child} {dir : Path} {history : History}
    (h : Spawned child dir history)
    {answer : Except Text Unit} {e : Routine.Answered ManagedCall.Answer}
    (he : (∃ addr seconds, e = ⟨.waitForPort addr seconds, answer⟩) ∨
      ∃ addr seconds, e = ⟨.waitForBootstrap addr seconds, answer⟩)
    {context : Text} {next : Managed ManagedTor}
    (hnext : ∀ history, Spawned child dir history → next.Holds Routine.memory Careful Ends history) :
    (withContext context answer >>= fun _ => next).Holds Routine.memory Careful Ends
      (history ++ [e]) := by
  obtain ⟨hwaits, hspawns, hrunning⟩ := h
  cases answer with
  | error message =>
      refine Or.inr ⟨?_, ?_⟩
      · rcases he with ⟨addr, seconds, rfl⟩ | ⟨addr, seconds, rfl⟩ <;> simp [waitFails]
      · simp [hspawns]
  | ok _ =>
      apply hnext
      refine ⟨?_, ?_, ?_⟩
      · rcases he with ⟨addr, seconds, rfl⟩ | ⟨addr, seconds, rfl⟩ <;>
          simpa [waitFails] using hwaits
      · simp [hspawns]
      · rw [runningAfter_append, hrunning]
        rcases he with ⟨addr, seconds, rfl⟩ | ⟨addr, seconds, rfl⟩ <;> rfl

/-- From the spawn on, a start ends so. -/
theorem spawnAndWait_ends (torExe dir : Path) (socksPort controlPort : UInt16) {history : History}
    (h : Untouched history) :
    (spawnAndWait torExe dir socksPort controlPort).Holds Routine.memory Careful Ends history := by
  obtain ⟨hwaits, hspawns, hrunning⟩ := h
  refine ⟨trivial, ?_⟩
  rintro (message | child) _ rfl
  · refine Or.inl ⟨?_, ?_, ?_⟩
    · simpa [waitFails] using hwaits
    · simpa [spawns] using hspawns
    · rw [runningAfter_append, hrunning]
      rfl
  have hspawned : Spawned child dir
      (history ++ [⟨.spawn torExe dir socksPort controlPort, .ok child⟩]) := by
    refine ⟨?_, ?_, ?_⟩
    · simpa [waitFails] using hwaits
    · simp [spawns]
    · rw [runningAfter_append, hrunning]
      rfl
  refine ⟨trivial, fun answer history' hstep => ?_⟩
  obtain rfl := hstep
  apply hspawned.wait (Or.inl ⟨_, _, rfl⟩)
  intro history hspawned
  refine ⟨trivial, fun answer history' hstep => ?_⟩
  obtain rfl := hstep
  apply hspawned.wait (Or.inl ⟨_, _, rfl⟩)
  intro history hspawned
  refine ⟨trivial, fun answer history' hstep => ?_⟩
  obtain rfl := hstep
  apply hspawned.wait (Or.inr ⟨_, _, rfl⟩)
  intro history hspawned
  exact ⟨hspawned.1, hspawned.2.2⟩

/-- Looking for an executable spawns nothing. -/
theorem all_firstExisting (paths : List Path) : (firstExisting paths).All BeforeSpawn := by
  induction paths with
  | nil => trivial
  | cons path paths ih =>
      refine ⟨trivial, fun found => ?_⟩
      cases found with
      | true => trivial
      | false => exact ih

/-- Nor does looking along all the paths. -/
theorem all_findTorExecutable (windows : Bool) (exeHint : Option Text) :
    (findTorExecutable windows exeHint).All BeforeSpawn := by
  apply (all_firstExisting _).bind
  intro hinted
  cases hinted with
  | some path => trivial
  | none =>
      refine ⟨trivial, fun appDir => ?_⟩
      apply (all_firstExisting _).bind
      intro found
      trivial

/-- Nor does reserving a port. -/
theorem all_reserveLocalPort : reserveLocalPort.All BeforeSpawn := by
  refine ⟨trivial, fun answer => ?_⟩
  apply (Routine.All.ofExcept answer).bind
  intro _
  exact ⟨trivial, fun answer => .ofExcept answer⟩

/-- Nor does clearing the data directory. -/
theorem all_clearDataDir (dir : Path) : (clearDataDir dir).All BeforeSpawn := by
  refine ⟨trivial, fun found => ?_⟩
  cases found with
  | true => exact ⟨trivial, fun _ => ⟨trivial, fun answer => .ofExcept answer⟩⟩
  | false => exact ⟨trivial, fun answer => .ofExcept answer⟩

/-- What comes before the spawn, and the rest. -/
theorem Untouched.bind {α : Type} {first : Managed α} {next : α → Managed ManagedTor}
    {history : History} (h : Untouched history) (hfirst : first.All BeforeSpawn)
    (hnext : ∀ a history, Untouched history →
      (next a).Holds Routine.memory Careful Ends history) :
    (first >>= next).Holds Routine.memory Careful Ends history := by
  apply Routine.holds_bind.2
  have hkept : first.Holds Routine.memory Careful (fun _ => Untouched) history := by
    refine hfirst.holds ?_ ?_ h
    · rintro history c ⟨-, -, hrunning⟩ hc
      cases c with
      | removeDirAll dir => exact hrunning
      | kill child => cases hc
      | _ => trivial
    · rintro history e _ huntouched he rfl
      exact huntouched.append he
  apply hkept.mono
  intro result history' huntouched
  cases result with
  | ok a => exact hnext a history' huntouched
  | error message => exact Or.inl huntouched

/-- What a start may call, and how it ends. -/
theorem startManagedTor_spec (windows : Bool) (tempDir : Path) (processId : ℕ)
    (exeHint : Option Text) : (startManagedTor windows tempDir processId exeHint).Holds
      Routine.memory Careful Ends [] := by
  apply Untouched.bind ⟨rfl, rfl, rfl⟩ (all_findTorExecutable windows exeHint)
  intro torExe history h
  apply h.bind all_reserveLocalPort
  intro socksPort history h
  apply h.bind all_reserveLocalPort
  intro controlPort history h
  apply h.bind (all_clearDataDir _)
  intro _ history h
  exact spawnAndWait_ends torExe _ socksPort controlPort h

/-! ## What a failed start leaves behind -/

/-- What a spawn looks like. -/
theorem spawns_eq_true {e : Routine.Answered ManagedCall.Answer} (h : spawns e = true) :
    ∃ exe dir socksPort controlPort child, e = ⟨.spawn exe dir socksPort controlPort, .ok child⟩ := by
  obtain ⟨c, answer⟩ := e
  cases c with
  | spawn exe dir socksPort controlPort =>
      cases answer with
      | ok child => exact ⟨exe, dir, socksPort, controlPort, child, rfl⟩
      | error message => cases h
  | _ => cases h

section Start

variable {windows : Bool} {tempDir : Path} {processId : ℕ} {exeHint : Option Text}
  {history : History} {result : Except Text ManagedTor}

/-- How a start ends. -/
theorem startManagedTor_ends (h : Routine.Trace (startManagedTor windows tempDir processId exeHint)
    history (.ofExcept result)) : Ends result history :=
  Routine.holds_ofExcept.1
    (Routine.Holds.of_memory (startManagedTor_spec windows tempDir processId exeHint) h)

/-- A start that fails has killed and removed whatever it has spawned, exactly when no wait has
failed: then it has spawned nothing. -/
theorem cleanedUp_iff (h : Routine.Trace (startManagedTor windows tempDir processId exeHint) history
    (.ofExcept result)) :
    ((∃ message, result = .error message) → CleanedUp history) ↔ WaitsSucceed history := by
  have hends := startManagedTor_ends h
  have hkill (child : Child) : ⟨.kill child, .ok ()⟩ ∉ history := by
    intro hmem
    obtain ⟨_, hcareful⟩ := Routine.Holds.permitted
      (startManagedTor_spec windows tempDir processId exeHint) h (Routine.memory_run [] history) hmem
    exact hcareful
  constructor
  · intro hclean
    by_contra hfails
    have hfails : history.any waitFails = true := by simpa [WaitsSucceed] using hfails
    cases result with
    | ok runtime => cases hends.1.symm.trans hfails
    | error message =>
        rcases hends with hnothing | ⟨-, hspawns⟩
        · cases hnothing.1.symm.trans hfails
        · obtain ⟨e, hmem, he⟩ := List.any_eq_true.1 hspawns
          obtain ⟨exe, dir, socksPort, controlPort, child, rfl⟩ := spawns_eq_true he
          obtain ⟨before, after, rfl⟩ := List.append_of_mem hmem
          obtain ⟨hkilled, -⟩ := hclean ⟨message, rfl⟩ _ _ _ _ _ _ _ rfl
          exact hkill child (List.mem_append_right _ (List.mem_cons_of_mem _ hkilled))
  · rintro hsucceed ⟨message, rfl⟩ before exe dir socksPort controlPort child after rfl
    rcases hends with hnothing | ⟨hfails, -⟩
    · have hspawns := hnothing.2.1
      simp [spawns] at hspawns
    · cases hsucceed.symm.trans hfails

/-- What is dropped after a start runs no more, where the kill succeeds, and its data directory is
removed after that. -/
theorem ManagedTor.runningAfter_drop {runtime : ManagedTor}
    (h : Routine.Trace runtime.drop history (.done ()))
    (hkill : ⟨.kill runtime.child, .ok ()⟩ ∈ history) :
    runningAfter [runtime.process] history = [] ∧
      ∃ e ∈ history, e.1 = .removeDirAll runtime.dataDir := by
  obtain ⟨killed, rest, rfl, hwait⟩ := Routine.trace_call_done_iff.1 h
  obtain ⟨waited, rest, rfl, hremove⟩ := Routine.trace_call_done_iff.1 hwait
  obtain ⟨removed, rest, rfl, hdone⟩ := Routine.trace_call_done_iff.1 hremove
  obtain ⟨rfl, -⟩ := Routine.trace_done_iff.1 hdone
  obtain rfl : killed = .ok () := by simpa [eq_comm] using hkill
  refine ⟨?_, ⟨.removeDirAll runtime.dataDir, removed⟩, by simp, rfl⟩
  simp [runningAfter, runs, ManagedTor.process]

end Start

end Fauna.Tor
