import Fauna.Desktop.App
import Fauna.Net.Steps

/-!
# The desktop app and the session of its connection

`World` is the window with the session at the other end of its connection, and what
`drain_network_events` has handled of that session's events. The user edits fields and presses
buttons in any order, the threads of the session take their steps, and the network answers as it
likes. A connection that is replaced is out of reach: nothing of its session comes back.

* `Session.run_connects`: how a session is established, for runs that need one.
* `World.step_cases`: what a step does to the window, the session and the events handled.
-/

namespace Fauna.Desktop

open Fauna.Lib Fauna.Core Fauna.Wire Fauna.Net

/-- A running desktop app. -/
structure World (C : Crates) where
  app : FaunaApp
  /-- The session at the other end of `app.connection`. -/
  session : Option (Session C)
  /-- How many sessions have been started. -/
  started : ℕ
  /-- The events of the connection that have been handled, in order. -/
  handled : List NetworkEvent

variable {C : Crates}

/-- `FaunaApp::new`, before anything is pressed. -/
def World.new : World C := ⟨.new, none, 0, []⟩

/-- What happens in a running app. -/
inductive Act (C : Crates)
  /-- The user edits the fields. -/
  | edit (fields : FaunaApp)
  /-- A start button; the answer of `start_managed_tor` and what the thread generates are given. -/
  | startHost (startManagedTor : Option Text → Except Text TorRuntime) (config : Config C)
  | startJoin (startManagedTor : Option Text → Except Text TorRuntime) (config : Config C)
  | sendMessage
  | drainNetworkEvents
  /-- A step of the session's threads. -/
  | network (label : Label C)

/-- A label that is not a user's, nor the end of the process. -/
def ofThreads : Label C → Bool
  | .submit _ | .closeInput | .exit | .failInput _ => false
  | _ => true

variable (J : SerdeJson)

/-- The session that a started thread runs: a host expects nobody in particular, a joiner the key
its invite names. -/
def Start.Runs (start : Start) (config : Config C) : Prop :=
  config.program = .desktop ∧
    match start with
    | .host name _ _ _ => config.displayName = name ∧ config.expected = none
    | .join name invite _ => config.displayName = name ∧ config.expected =
        (match inviteDecode C J invite with
        | .ok invite => some invite.publicKey
        | .error _ => none)

instance (start : Start) (config : Config C) : Decidable (start.Runs J config) := by
  unfold Start.Runs
  cases start <;> infer_instance

/-- Where a started thread begins: `join_network` returns at once with an invite it cannot use. -/
def Start.main : Start → Main C
  | .host _ _ _ _ => .preparing
  | .join _ invite _ =>
      match inviteDecode C J invite with
      | .ok invite =>
          if invite.addresses = [] then .returned (some "davet linkinde adres yok".toList)
          else .preparing
      | .error _ => .returned (some "davet linki okunamadi".toList)

/-- What a start button starts, unless it is refused. -/
def World.starts (world : World C) : Act C → Option Start
  | .startHost startManagedTor _ => (world.app.startHost startManagedTor ⟨world.started⟩).2
  | .startJoin startManagedTor _ => (world.app.startJoin C J startManagedTor ⟨world.started⟩).2
  | _ => none

/-- The app after a start button: the old connection is dropped for the new one. -/
def World.install (world : World C) (result : FaunaApp × Option Start) (config : Config C) :
    Option (World C) :=
  match result.2 with
  | none => some { world with app := result.1 }
  | some start =>
      if start.Runs J config then
        some ⟨result.1, some (.new config (start.main J)), world.started + 1, []⟩
      else none

/-- The session after `outbound.send`. -/
def submit (session : Session C) : Option Text → Session C
  | some body => { session with
      queue := session.queue ++ [body]
      submitted := session.submitted ++ [body] }
  | none => session

/-- One step of a running app. -/
def World.step (world : World C) : Act C → Option (World C)
  | .edit fields => some { world with app := world.app.edit fields }
  | .startHost startManagedTor config =>
      world.install J (world.app.startHost startManagedTor ⟨world.started⟩) config
  | .startJoin startManagedTor config =>
      world.install J (world.app.startJoin C J startManagedTor ⟨world.started⟩) config
  | .sendMessage =>
      let result := world.app.sendMessage (world.session.any Session.live)
      some { world with
        app := result.1
        session := world.session.map fun session => submit session result.2 }
  | .drainNetworkEvents =>
      let events := (world.session.map Session.events).getD []
      some { world with
        app := world.app.drainNetworkEvents events
        session := world.session.map fun session => { session with events := [] }
        handled := world.handled ++ events }
  | .network label =>
      match world.session with
      | some session =>
          if ofThreads label then
            (session.react J label).map fun p => { world with session := some p.1 }
          else none
      | none => none

variable (C) in
/-- The desktop app from its start on. -/
def desktop : Lts (World C) (Act C) := .ofStep (· = World.new) (World.step J)

variable {J}

/-! ## What a step can do -/

/-- The steps of a running app. -/
inductive World.Change (J : SerdeJson) (world : World C) : Act C → World C → Prop
  | edited (fields : FaunaApp) :
      World.Change J world (.edit fields) { world with app := world.app.edit fields }
  | refused {act app} (hstarts : world.starts J act = none)
      (happ : FaunaApp.Quiet world.app app) : World.Change J world act { world with app := app }
  | installed {act app config start} (hstarts : world.starts J act = some start)
      (hruns : start.Runs J config) (hpeer : app.peerName = world.app.peerName)
      (hconnection : app.connection = some ⟨world.started⟩) :
      World.Change J world act ⟨app, some (.new config (start.main J)), world.started + 1, []⟩
  | sent : World.Change J world .sendMessage { world with
      app := (world.app.sendMessage (world.session.any Session.live)).1
      session := world.session.map fun session =>
        submit session (world.app.sendMessage (world.session.any Session.live)).2 }
  | drained : World.Change J world .drainNetworkEvents { world with
      app := world.app.drainNetworkEvents ((world.session.map Session.events).getD [])
      session := world.session.map fun session => { session with events := [] }
      handled := world.handled ++ (world.session.map Session.events).getD [] }
  | stepped {session session' label bytes} (hsession : world.session = some session)
      (hlabel : ofThreads label = true) (hchange : Net.Change J session label session' bytes) :
      World.Change J world (.network label) { world with session := some session' }

/-- What a start button does is one of its two changes. -/
theorem World.Change.of_install {world world' : World C} {act : Act C}
    {result : FaunaApp × Option Start} {config : Config C}
    (hresult : FaunaApp.Starts ⟨world.started⟩ world.app result)
    (hstarts : world.starts J act = result.2) (h : world.install J result config = some world') :
    World.Change J world act world' := by
  unfold World.install at h
  split at h
  · next hnone =>
    obtain rfl := Option.some.inj h
    obtain ⟨-, hconnection⟩ := hresult.connection.resolve_right (by simp [hnone])
    exact .refused (hstarts.trans hnone)
      ⟨hresult.peerName, hresult.draftMessage, hconnection, hresult.messages⟩
  · next start hsome =>
    rw [Option.ite_none_right_eq_some] at h
    obtain ⟨hruns, h⟩ := h
    obtain rfl := Option.some.inj h
    obtain ⟨-, hconnection⟩ := hresult.connection.resolve_left (by simp [hsome])
    exact .installed (hstarts.trans hsome) hruns hresult.peerName hconnection

/-- Every step is one of the changes. -/
theorem World.step_cases {world world' : World C} {act : Act C}
    (h : world.step J act = some world') : World.Change J world act world' := by
  cases act with
  | edit fields =>
      obtain rfl := Option.some.inj h
      exact .edited fields
  | startHost startManagedTor config =>
      exact .of_install (FaunaApp.startHost_starts _ _ _) rfl h
  | startJoin startManagedTor config =>
      exact .of_install (FaunaApp.startJoin_starts C J _ _ _) rfl h
  | sendMessage =>
      obtain rfl := Option.some.inj h
      exact .sent
  | drainNetworkEvents =>
      obtain rfl := Option.some.inj h
      exact .drained
  | network label =>
      simp only [World.step] at h
      split at h
      · next session hsession =>
        rw [Option.ite_none_right_eq_some] at h
        obtain ⟨hlabel, h⟩ := h
        obtain ⟨⟨session', bytes⟩, hreact, rfl⟩ := Option.map_eq_some_iff.1 h
        exact .stepped hsession hlabel (.of_react hreact)
      · cases h

/-- The window holds a handle exactly when there is a session at its other end; what was handled
belongs to it. -/
structure World.Linked (world : World C) : Prop where
  connected : world.app.connection = none ↔ world.session = none
  handled : world.session = none → world.handled = []

/-- Every change keeps handle and session together. -/
theorem World.Linked.step {world world' : World C} {act : Act C} (h : world.Linked)
    (hchange : World.Change J world act world') : world'.Linked := by
  cases hchange with
  | edited fields => exact ⟨h.connected, h.handled⟩
  | refused hstarts happ => exact ⟨by rw [happ.connection]; exact h.connected, h.handled⟩
  | installed hstarts hruns hpeer hconnection =>
      exact ⟨by simp [hconnection], fun hnone => by cases hnone⟩
  | sent =>
      refine ⟨?_, fun hnone => h.handled (by simpa using hnone)⟩
      have hconnection : (world.app.sendMessage (world.session.any Session.live)).1.connection =
          world.app.connection := by
        rcases world.app.sendMessage_cases (world.session.any Session.live) with
          ⟨-, hsend⟩ | ⟨-, -, report, hsend⟩ | ⟨-, -, -, hsend⟩
        · rw [hsend]
        · rw [hsend]
          rfl
        · rw [hsend]
      rw [hconnection, h.connected]
      simp
  | drained =>
      refine ⟨?_, ?_⟩
      · rw [(world.app.drainNetworkEvents_frame _).2, h.connected]
        simp
      · intro hnone
        have hnone' : world.session = none := by simpa using hnone
        rw [h.handled hnone', hnone']
        rfl
  | stepped hsession hlabel hchange =>
      refine ⟨?_, fun hnone => by cases hnone⟩
      rw [h.connected, hsession]
      simp

/-- In every reachable state a handle is that of a session. -/
theorem World.Linked.of_reachable {world : World C} (h : (desktop C J).Reachable world) :
    world.Linked := by
  refine h.invariant ?_ fun world act world' hlinked hstep => hlinked.step (World.step_cases hstep)
  rintro world rfl
  exact ⟨by simp [World.new, FaunaApp.new], fun _ => rfl⟩

/-! ## A session that is established -/

/-- A session that has accepted a hello and done nothing since. -/
def established (config : Config C) (hello : HelloFrame Text) (key : SessionKey C.primitives) :
    Session C :=
  { Session.new config (.sending key) with
    receiver := .looping key []
    events := [.connected hello.displayName]
    peer := some (hello, key)
    written := [helloRecord config.hello] }

/-- What a session's threads can do is a step of the app. -/
theorem World.step_network {world : World C} {session session' : Session C} {label : Label C}
    {bytes : Bytes} (hsession : world.session = some session) (hlabel : ofThreads label = true)
    (hreact : session.react J label = some (session', bytes)) :
    world.step J (.network label) = some { world with session := some session' } := by
  simp [World.step, hsession, hlabel, hreact]

/-- A peer connects and sends a hello that the session accepts. -/
theorem World.run_connects {world : World C} {config : Config C}
    (hsession : world.session = some (.new config .preparing)) {hello : HelloFrame Text}
    {key : SessionKey C.primitives}
    (hkey : establish config.program config.exchange config.expected hello = .ok key) :
    (desktop C J).Run world [.network .connect, .network .writeHello,
      .network (.fill (jsonLine J (helloRecord hello))), .network .readLine]
      { world with session := some (established config hello key) } := by
  have htake := takeLine_jsonLine J (helloRecord hello)
  have hgreet : greet J config.program config.exchange config.expected
      (jsonLine J (helloRecord hello)) = .ok (hello, key) :=
    greet_eq_ok.2 ⟨readHello_jsonLine _ _, hkey⟩
  let greeting : Session C := { Session.new config (.awaitingHello []) with
    written := [helloRecord config.hello] }
  let filled : Session C := { greeting with
    main := .awaitingHello (jsonLine J (helloRecord hello)) }
  have hfill : greeting.react J (.fill (jsonLine J (helloRecord hello))) = some (filled, []) :=
    Session.react_fill rfl (jsonLine_ne_nil J _)
  have hread : filled.react J .readLine = some (established config hello key, []) := by
    rw [Session.react_readLine rfl htake, Session.onLine_of_greet rfl hgreet []]
    rfl
  exact .cons (World.step_network hsession rfl rfl) (.cons (World.step_network rfl rfl rfl)
    (.cons (World.step_network rfl rfl hfill) (.single (World.step_network rfl rfl hread))))

end Fauna.Desktop
