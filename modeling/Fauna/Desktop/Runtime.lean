import Fauna.Tor.Managed

/-!
# The Tor that the window holds

The user presses the start buttons again and again; a start that needs a Tor of its own and finds
none in `tor_runtime` runs `start_managed_tor`, and what that returns is held until the app ends. The
processes that run are kept beside the window, those that it holds and those that it does not.

* `FaunaApp.startHint`: which start comes to `start_managed_tor`, and `FaunaApp.start_torRuntime`,
  what it leaves in `tor_runtime`.
* `managed_tor_kept`: as long as no wait fails, what runs is what is held.
* `leaked_tor`: after a wait that has failed.
-/

namespace Fauna.Desktop

open Fauna.Lib Fauna.Core Fauna.Wire Fauna.Tor

/-! ## The code -/

/-- The start buttons. -/
inductive Button
  | host
  | join
  deriving DecidableEq

namespace FaunaApp

/-- `start_host` or `start_join`. -/
def start (C : Crates) (J : SerdeJson) (button : Button)
    (startManagedTor : Option Text → Except Text TorRuntime) (handle : ConnectionHandle)
    (app : FaunaApp) : FaunaApp × Option Start :=
  match button with
  | .host => app.startHost startManagedTor handle
  | .join => app.startJoin C J startManagedTor handle

/-- The `exe_hint` of `ensure_managed_tor`. -/
def exeHint (app : FaunaApp) : Option Text :=
  if trim app.torExePath = [] then none else some (trim app.torExePath)

/-- The hint that `prepare_tor_config` gives to `start_managed_tor`, where it comes to call it. -/
def torHint (app : FaunaApp) : Option (Option Text) :=
  if app.torEnabled && app.torAutoStart && app.torRuntime.isNone then
    some app.exeHint
  else none

/-- The hint that a start gives to `start_managed_tor`, where it comes to call it. -/
def startHint (C : Crates) (J : SerdeJson) (app : FaunaApp) : Button → Option (Option Text)
  | .host => app.torHint
  | .join =>
      if trim app.displayName = [] ∨ trim app.joinInvite = [] then none
      else if inviteContainsOnionAddress C J (trim app.joinInvite) && !app.torEnabled then
        { app with torEnabled := true, torAutoStart := true }.torHint
      else app.torHint

/-- What is in `tor_runtime` after `start_managed_tor` was called with this hint, or not called. -/
def runtimeAfter {α : Type} (startManagedTor : Option Text → Except Text α)
    (hint : Option (Option Text)) (held : Option α) : Option α :=
  match hint with
  | none => held
  | some exeHint =>
      match startManagedTor exeHint with
      | .ok runtime => some runtime
      | .error _ => held

/-- With an empty `tor_runtime`, `ensure_managed_tor` fills it with what the start returns. -/
theorem ensureManagedTor_torRuntime (startManagedTor : Option Text → Except Text TorRuntime)
    {app : FaunaApp} (hruntime : app.torRuntime = none) :
    (app.ensureManagedTor startManagedTor).2.torRuntime =
      runtimeAfter startManagedTor (some app.exeHint) none := by
  unfold ensureManagedTor
  rw [if_neg (by simp [hruntime])]
  dsimp only
  split
  · next error h =>
    have hstart : startManagedTor app.exeHint = .error error := h
    simp only [runtimeAfter, hstart, hruntime]
  · next runtime h =>
    have hstart : startManagedTor app.exeHint = .ok runtime := h
    simp only [runtimeAfter, hstart]

/-- `prepare_tor_config` changes `tor_runtime` only where it comes to start a Tor. -/
theorem prepareTorConfig_torRuntime (startManagedTor : Option Text → Except Text TorRuntime)
    (app : FaunaApp) : (app.prepareTorConfig startManagedTor).2.torRuntime =
      runtimeAfter startManagedTor app.torHint app.torRuntime := by
  by_cases henabled : app.torEnabled = true
  · have hmanaged :
        (if app.torAutoStart then app.ensureManagedTor startManagedTor else (.ok (), app)).2.torRuntime =
          runtimeAfter startManagedTor app.torHint app.torRuntime := by
      unfold torHint
      by_cases hauto : app.torAutoStart = true
      · rw [if_pos hauto, henabled, hauto]
        cases hruntime : app.torRuntime with
        | none => exact ensureManagedTor_torRuntime startManagedTor hruntime
        | some runtime =>
            unfold ensureManagedTor
            rw [hruntime]
            exact hruntime
      · rw [if_neg hauto]
        simp [hauto, runtimeAfter]
    unfold prepareTorConfig
    rw [if_neg (by simpa using henabled)]
    dsimp only
    split <;> exact hmanaged
  · unfold prepareTorConfig torHint
    simp [henabled, runtimeAfter]

/-- So does `start_host`. -/
theorem startHost_torRuntime (startManagedTor : Option Text → Except Text TorRuntime)
    (handle : ConnectionHandle) (app : FaunaApp) :
    (app.startHost startManagedTor handle).1.torRuntime =
      runtimeAfter startManagedTor app.torHint app.torRuntime := by
  rw [← prepareTorConfig_torRuntime]
  unfold startHost
  dsimp only
  split
  · next error app' h =>
    rw [h]
    rfl
  · next torConfig app' h =>
    rw [h]
    generalize (if app.torEnabled = true then trim app.bindAddr
      else normalizeDirectBindAddr (trim app.bindAddr)) = bind
    split
    · rfl
    · split <;> rfl

/-- So does `start_join`, which may turn Tor on first. -/
theorem startJoin_torRuntime (C : Crates) (J : SerdeJson)
    (startManagedTor : Option Text → Except Text TorRuntime) (handle : ConnectionHandle)
    (app : FaunaApp) : (app.startJoin C J startManagedTor handle).1.torRuntime =
      runtimeAfter startManagedTor (app.startHint C J .join) app.torRuntime := by
  unfold startJoin startHint
  dsimp only
  by_cases hblank : trim app.displayName = [] ∨ trim app.joinInvite = []
  · rw [if_pos hblank, if_pos hblank]
    rfl
  · rw [if_neg hblank, if_neg hblank]
    -- the line that is appended plays no part in what is prepared
    obtain ⟨ready, hready, hhint, hruntime⟩ : ∃ ready, (if (inviteContainsOnionAddress C J
        (trim app.joinInvite) && !app.torEnabled) = true then
          { app with torEnabled := true, torAutoStart := true }.pushSystem
            "Onion daveti algilandi; Tor modu otomatik acildi.".toList
        else app) = ready ∧ (if (inviteContainsOnionAddress C J (trim app.joinInvite) &&
          !app.torEnabled) = true then { app with torEnabled := true, torAutoStart := true }.torHint
        else app.torHint) = ready.torHint ∧ app.torRuntime = ready.torRuntime := by
      refine ⟨_, rfl, ?_, ?_⟩
      · split <;> rfl
      · split <;> rfl
    rw [hready, hhint, hruntime, ← prepareTorConfig_torRuntime]
    split
    · next error app' h =>
      rw [h]
      rfl
    · next torConfig app' h =>
      rw [h]

/-- What a start leaves in `tor_runtime`. -/
theorem start_torRuntime (C : Crates) (J : SerdeJson) (button : Button)
    (startManagedTor : Option Text → Except Text TorRuntime) (handle : ConnectionHandle)
    (app : FaunaApp) : (app.start C J button startManagedTor handle).1.torRuntime =
      runtimeAfter startManagedTor (app.startHint C J button) app.torRuntime := by
  cases button with
  | host => exact startHost_torRuntime startManagedTor handle app
  | join => exact startJoin_torRuntime C J startManagedTor handle app

/-- Tor is started only where none is held. -/
theorem torRuntime_of_startHint {C : Crates} {J : SerdeJson} {app : FaunaApp} {button : Button}
    {exeHint : Option Text} (h : app.startHint C J button = some exeHint) :
    app.torRuntime = none := by
  have htor {app : FaunaApp} (h : app.torHint = some exeHint) : app.torRuntime = none := by
    unfold torHint at h
    rw [Option.ite_none_right_eq_some] at h
    simpa using (Bool.and_eq_true_iff.1 h.1).2
  cases button with
  | host => exact htor h
  | join =>
      unfold startHint at h
      rw [Option.ite_none_left_eq_some] at h
      obtain ⟨-, h⟩ := h
      split at h
      · have hruntime := htor h
        exact hruntime
      · exact htor h

end FaunaApp

/-! ## The window and its processes -/

/-- A window, with what its `tor_runtime` holds and the Tor processes of the app that run. -/
structure TorDesk where
  app : FaunaApp
  runtime : Option ManagedTor
  running : List TorProcess

/-- What happens to them. -/
inductive TorAct
  | edit (fields : FaunaApp)
  /-- A start button is pressed; `history` and `result` are those of `start_managed_tor`. -/
  | start (button : Button) (handle : ConnectionHandle) (history : History)
      (result : Except Text ManagedTor)
  /-- Processes end by themselves. -/
  | exit (running : List TorProcess)

/-- What `start_managed_tor` called. -/
def TorAct.history : TorAct → History
  | .start _ _ history _ => history
  | _ => []

section Steps

variable (C : Crates) (J : SerdeJson) (windows : Bool) (tempDir : Path) (processId : ℕ)

/-- The steps; where a start does not come to `start_managed_tor`, nothing is called. -/
inductive TorDesk.Step (desk : TorDesk) : TorAct → TorDesk → Prop
  | edited (fields : FaunaApp) : Step desk (.edit fields) { desk with app := desk.app.edit fields }
  | idle {button handle result} (hhint : desk.app.startHint C J button = none) :
      Step desk (.start button handle [] result) { desk with
        app := (desk.app.start C J button (fun _ => result.map (·.toTorRuntime)) handle).1 }
  | started {button handle history result exeHint}
      (hhint : desk.app.startHint C J button = some exeHint)
      (hcalls : Routine.Trace (startManagedTor windows tempDir processId exeHint) history
        (.ofExcept result)) :
      Step desk (.start button handle history result) {
        app := (desk.app.start C J button (fun _ => result.map (·.toTorRuntime)) handle).1
        runtime := FaunaApp.runtimeAfter (fun _ => result) (some exeHint) desk.runtime
        running := runningAfter desk.running history }
  | exited {running} (hrunning : running.Sublist desk.running) :
      Step desk (.exit running) { desk with running := running }

/-- The runs of the window, from its first frame. -/
def torDesks : Lts TorDesk TorAct where
  init desk := desk = ⟨FaunaApp.new, none, []⟩
  step := TorDesk.Step C J windows tempDir processId

end Steps

/-- At most one Tor of the app runs, and `tor_runtime` holds it. -/
structure TorDesk.OneTor (desk : TorDesk) : Prop where
  atMostOne : desk.running.length ≤ 1
  held : ∀ process ∈ desk.running, ∃ runtime, desk.runtime = some runtime ∧
    desk.app.torRuntime = some runtime.toTorRuntime ∧ process = runtime.process

/-- No data directory is removed while a process with it runs. -/
def Spares (running : List TorProcess) (history : History) : Prop :=
  ∀ before dir removed after, history = before ++ ⟨.removeDirAll dir, removed⟩ :: after →
    ∀ process ∈ runningAfter running before, process.dataDir ≠ dir

/-! ## While no wait fails -/

variable {C : Crates} {J : SerdeJson} {windows : Bool} {tempDir : Path} {processId : ℕ}

/-- What is held is what runs. -/
structure TorDesk.Kept (desk : TorDesk) : Prop where
  app : desk.app.torRuntime = desk.runtime.map (·.toTorRuntime)
  running : desk.running = [] ∨
    ∃ runtime, desk.runtime = some runtime ∧ desk.running = [runtime.process]

/-- Where what runs is what is held, at most one Tor runs. -/
theorem TorDesk.Kept.oneTor {desk : TorDesk} (h : desk.Kept) : desk.OneTor := by
  rcases h.running with hnone | ⟨runtime, hruntime, hone⟩
  · refine ⟨by simp [hnone], ?_⟩
    rw [hnone]
    intro process hprocess
    cases hprocess
  · refine ⟨by simp [hone], ?_⟩
    rw [hone]
    intro process hprocess
    obtain rfl := List.mem_singleton.1 hprocess
    exact ⟨runtime, hruntime, by rw [h.app, hruntime]; rfl, rfl⟩

/-- Where Tor is started, nothing runs. -/
theorem TorDesk.Kept.nothing {desk : TorDesk} (h : desk.Kept) {button : Button}
    {exeHint : Option Text} (hhint : desk.app.startHint C J button = some exeHint) :
    desk.runtime = none ∧ desk.running = [] := by
  have hnone : desk.runtime = none := by
    have happ := h.app
    rw [FaunaApp.torRuntime_of_startHint hhint] at happ
    simpa using happ.symm
  refine ⟨hnone, ?_⟩
  rcases h.running with hrunning | ⟨runtime, hruntime, -⟩
  · exact hrunning
  · cases hnone.symm.trans hruntime

/-- A step in which no wait fails leaves what runs to be what is held. -/
theorem TorDesk.Kept.step {desk desk' : TorDesk} {act : TorAct} (h : desk.Kept)
    (hwaits : WaitsSucceed act.history)
    (hstep : desk.Step C J windows tempDir processId act desk') : desk'.Kept := by
  cases hstep with
  | edited fields => exact ⟨h.app, h.running⟩
  | @idle button handle result hhint =>
      refine ⟨?_, h.running⟩
      rw [← h.app, FaunaApp.start_torRuntime, hhint]
      rfl
  | @exited running hrunning =>
      refine ⟨h.app, ?_⟩
      rcases h.running with hnone | ⟨runtime, hruntime, hone⟩
      · rw [hnone, List.sublist_nil] at hrunning
        exact Or.inl hrunning
      · rw [hone, List.sublist_singleton] at hrunning
        exact hrunning.imp id fun hsame => ⟨runtime, hruntime, hsame⟩
  | @started button handle history result exeHint hhint hcalls =>
      obtain ⟨hruntime, hnothing⟩ := h.nothing hhint
      have hends := startManagedTor_ends hcalls
      have happ : (desk.app.start C J button (fun _ => result.map (·.toTorRuntime)) handle).1.torRuntime
          = FaunaApp.runtimeAfter (fun _ => result.map (·.toTorRuntime)) (some exeHint) none := by
        rw [FaunaApp.start_torRuntime, hhint, FaunaApp.torRuntime_of_startHint hhint]
      cases result with
      | ok runtime =>
          refine ⟨happ, Or.inr ⟨runtime, rfl, ?_⟩⟩
          show runningAfter desk.running history = _
          rw [hnothing]
          exact hends.2
      | error message =>
          rcases hends with huntouched | ⟨hfails, -⟩
          · refine ⟨?_, Or.inl ?_⟩
            · rw [happ, hruntime]
              rfl
            · show runningAfter desk.running history = _
              rw [hnothing]
              exact huntouched.2.2
          · cases hfails.symm.trans hwaits

/-- Whatever a start calls, it spares what runs. -/
theorem TorDesk.Kept.spares {desk desk' : TorDesk} {act : TorAct} (h : desk.Kept)
    (hstep : desk.Step C J windows tempDir processId act desk') :
    Spares desk.running act.history := by
  cases hstep with
  | edited | idle | exited =>
      intro before dir removed after hsplit
      simp [TorAct.history] at hsplit
  | @started button handle history result exeHint hhint hcalls =>
      rintro before dir removed after rfl
      have hcareful : Careful before (.removeDirAll dir) := Routine.Holds.permits_at
        (startManagedTor_spec windows tempDir processId exeHint) hcalls
        (Routine.memory_run [] before)
      have hnothing : runningAfter [] before = [] := hcareful
      rw [(h.nothing hhint).2, hnothing]
      intro process hprocess
      cases hprocess

/-! ## Some starts -/

/-- The data directory of the app process 1. -/
def tmpDataDir : Path := dataDir ["/tmp".toList] 1

/-- A start that finds the bundled Tor, clears its data directory with these calls, spawns it as
this child, and then waits. -/
def tryTor (clearing : History) (child : Child) (waits : History) : History :=
  [⟨.appDir, none⟩, ⟨.pathExists ["bin/tor/tor".toList], true⟩, ⟨.bind, .ok ()⟩,
    ⟨.localPort, .ok 1⟩, ⟨.bind, .ok ()⟩, ⟨.localPort, .ok 2⟩] ++ clearing ++
    ⟨.createDirAll tmpDataDir, .ok ()⟩ ::
    ⟨.spawn ["bin/tor/tor".toList] tmpDataDir 1 2, .ok child⟩ :: waits

/-- The SOCKS port does not open. -/
def noPort : History := [⟨.waitForPort (localAddress 1) 45, .error []⟩]

/-- All the waits succeed. -/
def allReady : History :=
  [⟨.waitForPort (localAddress 1) 45, .ok ()⟩, ⟨.waitForPort (localAddress 2) 10, .ok ()⟩,
    ⟨.waitForBootstrap (localAddress 2) 90, .ok ()⟩]

/-- The data directory is not there yet, or is removed. -/
def fresh : History := [⟨.pathExists tmpDataDir, false⟩]

def removed : History := [⟨.pathExists tmpDataDir, true⟩, ⟨.removeDirAll tmpDataDir, .ok ()⟩]

/-- What a start returns where the SOCKS port does not open. -/
def noPortError : Text := "Tor SOCKS port hazir olmadi: ".toList ++ localAddress 1

/-- A first start whose wait for a port fails. -/
theorem trace_first : Routine.Trace (startManagedTor false ["/tmp".toList] 1 none)
    (tryTor fresh ⟨7⟩ noPort) (.fail noPortError) :=
  .call (.call (.call (.call (.call (.call (.call (.call (.call (.call (.nil _))))))))))

/-- A second start, which removes the data directory of the first and fails as well. -/
theorem trace_second : Routine.Trace (startManagedTor false ["/tmp".toList] 1 none)
    (tryTor removed ⟨8⟩ noPort) (.fail noPortError) :=
  .call (.call (.call (.call (.call (.call (.call (.call (.call (.call (.call (.nil _)))))))))))

/-- What a start returns where all the waits succeed. -/
def readyTor : ManagedTor :=
  { controlAddr := localAddress 2, socksAddr := localAddress 1, child := ⟨7⟩, dataDir := tmpDataDir }

/-- A start whose waits succeed. -/
theorem trace_ready : Routine.Trace (startManagedTor false ["/tmp".toList] 1 none)
    (tryTor fresh ⟨7⟩ allReady) (.done readyTor) :=
  .call (.call (.call (.call (.call (.call (.call (.call (.call (.call (.call (.call (.nil _))))))))))))

/-- The window of that process, after some failed attempts to host. -/
def refusedApp : ℕ → FaunaApp
  | 0 => FaunaApp.new
  | attempts + 1 => ((refusedApp attempts).start Crates.transparent SerdeJson.records .host
      (fun _ => .error noPortError) ⟨attempts⟩).1

/-- The first failure leaves a process that nothing holds. -/
theorem step_first : (torDesks Crates.transparent SerdeJson.records false ["/tmp".toList] 1).step
    ⟨refusedApp 0, none, []⟩ (.start .host ⟨0⟩ (tryTor fresh ⟨7⟩ noPort) (.error noPortError))
    ⟨refusedApp 1, none, [⟨⟨7⟩, tmpDataDir⟩]⟩ := .started rfl trace_first

/-- The second one leaves two. -/
theorem step_second : (torDesks Crates.transparent SerdeJson.records false ["/tmp".toList] 1).step
    ⟨refusedApp 1, none, [⟨⟨7⟩, tmpDataDir⟩]⟩
    (.start .host ⟨1⟩ (tryTor removed ⟨8⟩ noPort) (.error noPortError))
    ⟨refusedApp 2, none, [⟨⟨7⟩, tmpDataDir⟩, ⟨⟨8⟩, tmpDataDir⟩]⟩ := .started rfl trace_second

/-! ## The result -/

/-- In every start, whatever is answered: if it fails, it has killed and removed whatever it has
spawned, exactly when no wait has failed. And in every run in which no wait fails: at most one Tor of
the app runs, it is the one in `tor_runtime`, and no start removes the data directory of one that
runs. -/
theorem managed_tor_kept (C : Crates) (J : SerdeJson) (windows : Bool) (tempDir : Path)
    (processId : ℕ) :
    (∀ exeHint history result, Routine.Trace (startManagedTor windows tempDir processId exeHint)
      history (.ofExcept result) →
        (((∃ message, result = .error message) → CleanedUp history) ↔ WaitsSucceed history)) ∧
    ∀ desk, ((torDesks C J windows tempDir processId).restrict
      fun _ act => WaitsSucceed act.history).Reachable desk → desk.OneTor ∧
        ∀ act desk', (torDesks C J windows tempDir processId).step desk act desk' →
          Spares desk.running act.history := by
  refine ⟨fun exeHint history result htrace => cleanedUp_iff htrace, fun desk h => ?_⟩
  have hkept : desk.Kept := by
    refine h.invariant ?_ fun desk act desk' hkept hstep => hkept.step hstep.1 hstep.2
    rintro desk rfl
    exact ⟨rfl, Or.inl rfl⟩
  exact ⟨hkept.oneTor, fun act desk' hstep => hkept.spares hstep⟩

/-- A start whose waits succeed leaves one Tor, and the window holds it. -/
theorem managed_tor_kept_ready : ∃ desk : TorDesk,
    desk.running = [⟨⟨7⟩, tmpDataDir⟩] ∧ desk.OneTor := by
  let act : TorAct := .start .host ⟨0⟩ (tryTor fresh ⟨7⟩ allReady) (.ok readyTor)
  have hstep : TorDesk.Step Crates.transparent SerdeJson.records false ["/tmp".toList] 1
      ⟨FaunaApp.new, none, []⟩ act ⟨_, some readyTor, [⟨⟨7⟩, tmpDataDir⟩]⟩ := .started rfl trace_ready
  have hwaits : WaitsSucceed act.history := rfl
  obtain ⟨-, hkept⟩ :=
    managed_tor_kept Crates.transparent SerdeJson.records false ["/tmp".toList] 1
  exact ⟨_, rfl, (hkept _ ((Lts.Reachable.of_init rfl).step ⟨hwaits, hstep⟩)).1⟩

/-- The SOCKS port of a Tor that was spawned does not open in time. The process runs on and nothing
holds it; the next start removes the data directory it uses, and spawns another. -/
theorem leaked_tor :
    (¬ ∀ exeHint history message, Routine.Trace (startManagedTor false ["/tmp".toList] 1 exeHint)
      history (.fail message) → CleanedUp history) ∧
    (¬ ∀ desk, (torDesks Crates.transparent SerdeJson.records false ["/tmp".toList] 1).Reachable desk →
      desk.OneTor) ∧
    ¬ ∀ desk act desk', (torDesks Crates.transparent SerdeJson.records false
      ["/tmp".toList] 1).Reachable desk → (torDesks Crates.transparent SerdeJson.records false
      ["/tmp".toList] 1).step desk act desk' → Spares desk.running act.history := by
  have hfirst : (torDesks Crates.transparent SerdeJson.records false ["/tmp".toList] 1).Reachable
      ⟨refusedApp 1, none, [⟨⟨7⟩, tmpDataDir⟩]⟩ := (Lts.Reachable.of_init rfl).step step_first
  refine ⟨?_, ?_, ?_⟩
  · intro hclean
    have hsplit : tryTor fresh ⟨7⟩ noPort = (tryTor fresh ⟨7⟩ noPort).take 8 ++
        ⟨.spawn ["bin/tor/tor".toList] tmpDataDir 1 2, .ok ⟨7⟩⟩ :: noPort := rfl
    obtain ⟨hkilled, -⟩ := hclean none _ _ trace_first _ _ _ _ _ _ _ hsplit
    simp [noPort] at hkilled
  · intro hone
    have hboth := (hone _ (hfirst.step step_second)).atMostOne
    exact absurd hboth (by decide)
  · intro hspares
    have hsplit : tryTor removed ⟨8⟩ noPort = (tryTor removed ⟨8⟩ noPort).take 7 ++
        ⟨.removeDirAll tmpDataDir, .ok ()⟩ :: (tryTor removed ⟨8⟩ noPort).drop 8 := rfl
    exact hspares _ _ _ hfirst step_second _ _ _ _ hsplit _ List.mem_cons_self rfl

end Fauna.Desktop
