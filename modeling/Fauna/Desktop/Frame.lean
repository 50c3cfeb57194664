import Fauna.Desktop.Events
import Fauna.Desktop.Replaced
import Fauna.Desktop.Runtime

/-!
# The window, frame by frame

`update` of the desktop app, which eframe calls for every frame, with the threads of every
connection that its buttons have started. A frame handles the events that are waiting and then comes
to the widgets in the order they are laid out in. What the user does with a widget is done there; a
widget that is disabled or not laid out takes nothing. The threads take their steps in between, also
in the middle of a frame. What the widgets look like is left out.

* `Screen.update`: what a frame does where it stands.
* `Screen.Step.cases`: what a step of the app does to the window and its connections.
* `Screen.Sound.of_reachable`: every connection, also a replaced one, goes through the states of
  `networkThreads`, and the composer is empty while there is none.
-/

namespace Fauna.Desktop

open Fauna.Lib Fauna.Core Fauna.Wire Fauna.Net Fauna.Dial

/-! ## The code -/

/-- What `update` comes to in a frame, in this order: the waiting events, the fields and the buttons
of the side panel, and the composer. -/
inductive Stage
  | drainNetworkEvents
  | displayName
  | torEnabled
  | torAutoStart
  | torExePath
  | torControlAddr
  | torSocksAddr
  | torServicePort
  | bindAddr
  | publicAddr
  /-- "Sohbet Baslat" -/
  | startHost
  /-- The invite, or "Bu Bilgisayarda Test Ayarla" where there is none -/
  | currentInvite
  | joinInvite
  /-- "Baglan" -/
  | startJoin
  | draftMessage
  /-- "Gonder", or the enter key in the composer -/
  | sendMessage
  deriving DecidableEq

/-- What comes after it, in this frame or in the next one. -/
def Stage.next : Stage → Stage
  | .drainNetworkEvents => .displayName
  | .displayName => .torEnabled
  | .torEnabled => .torAutoStart
  | .torAutoStart => .torExePath
  | .torExePath => .torControlAddr
  | .torControlAddr => .torSocksAddr
  | .torSocksAddr => .torServicePort
  | .torServicePort => .bindAddr
  | .bindAddr => .publicAddr
  | .publicAddr => .startHost
  | .startHost => .currentInvite
  | .currentInvite => .joinInvite
  | .joinInvite => .startJoin
  | .startJoin => .draftMessage
  | .draftMessage => .sendMessage
  | .sendMessage => .drainNetworkEvents

variable {C : Crates}

/-- What the outside gives to a start: the answer of `start_managed_tor`, the keys that its thread
generates, and how long the thread reads a reply and tries to connect. -/
structure Outside (C : Crates) where
  startManagedTor : Option Text → Except Text TorRuntime
  identity : DeviceIdentity C.primitives
  exchange : ExchangeKeypair C.primitives
  replies : ℕ
  attempts : ℕ

/-- What the user does with a widget. -/
inductive Gesture (C : Crates)
  | leave
  /-- The field has this text now. -/
  | enter (text : Text)
  | toggle
  | click (outside : Outside C)

/-- What becomes of the fields at a widget. -/
def FaunaApp.widget (app : FaunaApp) : Stage → Gesture C → FaunaApp
  | .displayName, .enter text => { app with displayName := text }
  | .torEnabled, .toggle => { app with torEnabled := !app.torEnabled }
  | .torAutoStart, .toggle =>
      if app.torEnabled then { app with torAutoStart := !app.torAutoStart } else app
  | .torExePath, .enter text => if app.torEnabled then { app with torExePath := text } else app
  | .torControlAddr, .enter text =>
      if app.torEnabled then { app with torControlAddr := text } else app
  | .torSocksAddr, .enter text => if app.torEnabled then { app with torSocksAddr := text } else app
  | .torServicePort, .enter text =>
      if app.torEnabled then { app with torServicePort := text } else app
  | .bindAddr, .enter text => { app with bindAddr := text }
  | .publicAddr, .enter text => if app.torEnabled then app else { app with publicAddr := text }
  | .currentInvite, .enter text =>
      if app.currentInvite = [] then app else { app with currentInvite := text }
  | .currentInvite, .click _ =>
      -- with an invite this is the button that copies it
      if app.currentInvite = [] then
        { app with
          bindAddr := "127.0.0.1:45123".toList
          publicAddr := "127.0.0.1:45123".toList }
      else app
  | .joinInvite, .enter text => { app with joinInvite := text }
  | .draftMessage, .enter text =>
      -- `composer` is disabled while there is no connection
      if app.connection.isSome then { app with draftMessage := text } else app
  | _, _ => app

/-- A connection that was started. -/
structure Started (C : Crates) where
  start : Start
  thread : NetworkThread C
  /-- How many of its events the window has handled. -/
  handled : ℕ

/-- The app: the window with the connections it has started. -/
structure Screen (C : Crates) where
  app : FaunaApp
  /-- What `update` comes to next. -/
  stage : Stage
  /-- The connections that were replaced, in the order they were started. -/
  replaced : List (Started C)
  current : Option (Started C)

/-- `FaunaApp::new`, before the first frame. -/
def Screen.new : Screen C := ⟨.new, .drainNetworkEvents, [], none⟩

/-- All of its connections. -/
def Screen.connections (screen : Screen C) : List (Started C) :=
  screen.replaced ++ screen.current.toList

/-- The same connection with another session. -/
def Started.withSession (started : Started C) (session : Session C) : Started C :=
  { started with thread := { started.thread with session := session } }

/-- The events that the window has handled. -/
def Started.seen (started : Started C) : List NetworkEvent :=
  started.thread.session.events.take started.handled

/-- The events that are waiting. -/
def Started.waiting (started : Started C) : List NetworkEvent :=
  started.thread.session.events.drop started.handled

/-- The window drops its handle of the connection. -/
def Started.dropped (started : Started C) : Started C :=
  started.withSession (dropHandle started.thread.session)

/-- All that is waiting has been handled. -/
def Started.drained (started : Started C) : Started C :=
  { started with handled := started.thread.session.events.length }

/-- `drain_network_events`, with what is waiting. -/
def Screen.drain (screen : Screen C) : Screen C :=
  { screen with
    app := screen.app.drainNetworkEvents ((screen.current.map Started.waiting).getD [])
    current := screen.current.map Started.drained }

/-- `send_message`, where the composer is enabled. -/
def Screen.send (screen : Screen C) : Screen C :=
  if screen.app.connection.isNone then screen
  else
    let result := screen.app.sendMessage (screen.current.any (·.thread.session.live))
    { screen with
      app := result.1
      current := screen.current.map fun started =>
        started.withSession (submit started.thread.session result.2) }

section Update

variable (J : SerdeJson) (hmac : Bytes → Bytes → Bytes)

/-- The connection of a start, whose thread has done nothing yet. -/
def Started.new (outside : Outside C) (start : Start) : Started C :=
  ⟨start, .new J hmac outside.replies outside.attempts outside.identity outside.exchange start, 0⟩

/-- A start button: the connection it starts takes the place of the one there is. -/
def Screen.start (screen : Screen C) (button : Button) (outside : Outside C) : Screen C :=
  let result := screen.app.start C J button outside.startManagedTor ⟨screen.connections.length⟩
  match result.2 with
  | none => { screen with app := result.1 }
  | some start => { screen with
      app := result.1
      replaced := screen.replaced ++ (screen.current.map Started.dropped).toList
      current := some (.new J hmac outside start) }

/-- What a frame does where it stands. -/
def Screen.react (screen : Screen C) : Gesture C → Screen C :=
  fun gesture =>
    match screen.stage, gesture with
    | .drainNetworkEvents, _ => screen.drain
    | .startHost, .click outside => screen.start J hmac .host outside
    | .startJoin, .click outside => screen.start J hmac .join outside
    | .sendMessage, .click _ => screen.send
    | stage, gesture => { screen with app := screen.app.widget stage gesture }

/-- `update`, from where it stands to what comes next. -/
def Screen.update (screen : Screen C) (gesture : Gesture C) : Screen C :=
  { screen.react J hmac gesture with stage := screen.stage.next }

/-- What happens in the app. -/
inductive ScreenAct (C : Crates)
  | update (gesture : Gesture C)
  /-- A step of the threads of the current connection. -/
  | current (act : ThreadAct C)
  /-- A step of the threads of a replaced one. -/
  | replaced (index : ℕ) (act : ThreadAct C)

/-- A step that is not the window's. -/
def ThreadAct.ofThreads : ThreadAct C → Bool
  | .network label => Desktop.ofThreads label
  | _ => true

/-- The steps of the window and of the threads, in any order. -/
inductive Screen.Step (screen : Screen C) : ScreenAct C → Screen C → Prop
  | updated (gesture : Gesture C) :
      Screen.Step screen (.update gesture) (screen.update J hmac gesture)
  | current {started act thread} (hcurrent : screen.current = some started)
      (hthreads : act.ofThreads = true) (hstep : started.thread.Step J act thread) :
      Screen.Step screen (.current act) { screen with
        current := some { started with thread := thread } }
  | replaced {before started after act thread}
      (hreplaced : screen.replaced = before ++ started :: after)
      (hthreads : act.ofThreads = true) (hstep : started.thread.Step J act thread) :
      Screen.Step screen (.replaced before.length act) { screen with
        replaced := before ++ { started with thread := thread } :: after }

variable (C) in
/-- The app from its start on. -/
def screens : Lts (Screen C) (ScreenAct C) where
  init screen := screen = .new
  step := Screen.Step J hmac

end Update

/-! ## What the threads do to the window's ends of a connection -/

variable {J : SerdeJson} {hmac : Bytes → Bytes → Bytes}

/-- The threads do not close their own input. -/
theorem Change.inputOpen_eq {s s' : Session C} {l : Label C} {bytes : Bytes}
    (h : Net.Change J s l s' bytes) (hthreads : ofThreads l = true) :
    s'.inputOpen = s.inputOpen := by
  have hmoved {t : Session C} (ht : s.Moved t) : t.inputOpen = s.inputOpen := by
    obtain ⟨main, receiver, queue, rfl⟩ := ht
    rfl
  have htaken {t : Session C} {line rest : Bytes} (ht : Taken J s line rest t) :
      t.inputOpen = s.inputOpen := by
    cases ht with
    | refused => exact hmoved (s.fail_moved _)
    | accepted | reported | broken => rfl
  cases h with
  | typed | closed | exited | lostInput => cases hthreads
  | unsealed => exact hmoved (s.fail_moved _)
  | filled => exact hmoved (s.refill_moved _)
  | unread => exact hmoved (s.readFails_moved _)
  | read hreading | readLast hreading => exact htaken (.of_onLine hreading _ _)
  | announced | connected | unconnected | greeted | ungreeted | skipped | wrote | unsent |
    finished | concluded | stopped => rfl

/-- The threads leave the input of a session as it is. -/
theorem NetworkThread.Step.inputOpen_eq {thread thread' : NetworkThread C} {act : ThreadAct C}
    (h : thread.Step J act thread') (hthreads : act.ofThreads = true) :
    thread'.session.inputOpen = thread.session.inputOpen := by
  cases h with
  | called | begun => rfl
  | @failed fault =>
      obtain ⟨main, receiver, queue, hfail⟩ := thread.session.fail_moved fault
      dsimp only
      rw [hfail]
  | moved hlabel hchange => exact Change.inputOpen_eq (.of_react hchange) hthreads

/-- What a step emits comes last, and an invite comes from a call only. -/
theorem NetworkThread.Step.emits {host : Bool} {thread thread' : NetworkThread C}
    {act : ThreadAct C} (h : thread.Step J act thread') (horderly : thread.Orderly host) :
    ∃ more, thread'.session.events = thread.session.events ++ more ∧
      ((∃ answered, act = .call answered ∧ more = eventsOf answered.1) ∨
        ∀ event ∈ more, event.kind ≠ .inviteCreated) := by
  cases h with
  | @called answered => exact ⟨_, rfl, Or.inl ⟨answered, rfl, rfl⟩⟩
  | begun => exact ⟨[], (List.append_nil _).symm, Or.inr (by simp)⟩
  | @failed fault =>
      obtain ⟨main, receiver, queue, hfail⟩ := thread.session.fail_moved fault
      refine ⟨[], ?_, Or.inr (by simp)⟩
      dsimp only
      rw [hfail, List.append_nil]
  | moved hlabel hchange =>
      have hone (event : NetworkEvent) (hkind : event.kind ≠ .inviteCreated) :
          ∀ event' ∈ [event], event'.kind ≠ .inviteCreated := by
        intro event' hevent'
        rwa [List.mem_singleton.1 hevent']
      cases Effect.of_change horderly.desktop hlabel (.of_react hchange) with
      | silent hevents => exact ⟨[], by rw [hevents, List.append_nil], Or.inr (by simp)⟩
      | @accepted buffer rest hello key hmain hs' =>
          exact ⟨[.connected hello.displayName], by rw [hs']; rfl, Or.inr (hone _ nofun)⟩
      | @reported key buffer line rest body hreceiver hbody hs' =>
          exact ⟨[.incoming body], by rw [hs']; rfl, Or.inr (hone _ nofun)⟩
      | refused hreceiver hbody hs' =>
          exact ⟨[], by rw [hs', List.append_nil], Or.inr (by simp)⟩
      | @disconnected message hreceiver hs' =>
          exact ⟨[.disconnected message], by rw [hs'], Or.inr (hone _ nofun)⟩
      | @failed message hmain hs' =>
          exact ⟨[.error message], by rw [hs'], Or.inr (hone _ nofun)⟩

/-! ## What the window does -/

/-- The stage at which a start button stands. -/
def Button.stage : Button → Stage
  | .host => .startHost
  | .join => .startJoin

/-- A frame handles what is waiting, is at a start button or at the one that sends, or changes the
fields. -/
theorem Screen.react_cases (J : SerdeJson) (hmac : Bytes → Bytes → Bytes) (screen : Screen C)
    (gesture : Gesture C) :
    screen.stage = .drainNetworkEvents ∧ screen.react J hmac gesture = screen.drain ∨
    (∃ button outside, screen.stage = button.stage ∧ gesture = .click outside ∧
      screen.react J hmac gesture = screen.start J hmac button outside) ∨
    screen.react J hmac gesture = screen.send ∨
    screen.react J hmac gesture =
      { screen with app := screen.app.widget screen.stage gesture } := by
  unfold Screen.react
  split
  · next hstage => exact Or.inl ⟨hstage, rfl⟩
  · next outside hstage => exact Or.inr (Or.inl ⟨.host, outside, hstage, rfl, rfl⟩)
  · next outside hstage => exact Or.inr (Or.inl ⟨.join, outside, hstage, rfl, rfl⟩)
  · exact Or.inr (Or.inr (Or.inl rfl))
  · exact Or.inr (Or.inr (Or.inr rfl))

/-- A start that is refused changes nothing but the fields. -/
theorem Screen.start_of_none {screen : Screen C} {button : Button} {outside : Outside C}
    (h : (screen.app.start C J button outside.startManagedTor ⟨screen.connections.length⟩).2 =
      none) : screen.start J hmac button outside = { screen with
        app := (screen.app.start C J button outside.startManagedTor
          ⟨screen.connections.length⟩).1 } := by
  simp only [Screen.start, h]

/-- One that is not replaces the connection. -/
theorem Screen.start_of_some {screen : Screen C} {button : Button} {outside : Outside C}
    {start : Start}
    (h : (screen.app.start C J button outside.startManagedTor ⟨screen.connections.length⟩).2 =
      some start) : screen.start J hmac button outside = { screen with
        app := (screen.app.start C J button outside.startManagedTor ⟨screen.connections.length⟩).1
        replaced := screen.replaced ++ (screen.current.map Started.dropped).toList
        current := some (.new J hmac outside start) } := by
  simp only [Screen.start, h]

/-- The fields of the window are all that a widget changes, and the composer takes nothing while
there is no connection. -/
theorem FaunaApp.widget_frame (app : FaunaApp) (stage : Stage) (gesture : Gesture C) :
    (app.widget stage gesture).connection = app.connection ∧
      (app.connection = none → (app.widget stage gesture).draftMessage = app.draftMessage) := by
  unfold widget
  split
  all_goals (try split) <;> first
    | exact ⟨rfl, fun _ => rfl⟩
    | -- the composer, with a connection
      next hsome => exact ⟨rfl, fun hnone => by simp [hnone] at hsome⟩

/-! ## What the app keeps -/

variable (J hmac) in
/-- What the app keeps of a connection that was started. -/
structure Started.Sound (started : Started C) : Prop where
  /-- Its threads are somewhere in a run of the threads of its start. -/
  threads : ∃ replies attempts,
    (networkThreads C J hmac replies attempts started.start).Reachable started.thread
  handled : started.handled ≤ started.thread.session.events.length

variable (J hmac) in
/-- What the app keeps. -/
structure Screen.Sound (screen : Screen C) : Prop where
  connections : ∀ started ∈ screen.connections, started.Sound J hmac
  /-- The window holds a handle exactly when there is a connection at its other end. -/
  connected : screen.app.connection = none ↔ screen.current = none
  /-- The handle is what keeps the input of a connection open. -/
  inputOpen : ∀ started, screen.current = some started → started.thread.session.inputOpen = true
  draft : screen.app.connection = none → screen.app.draftMessage = []

/-- The events of a sound connection come in their order. -/
theorem Started.Sound.orderly {started : Started C} (h : started.Sound J hmac) :
    started.thread.Orderly started.start.hosts := by
  obtain ⟨replies, attempts, hreachable⟩ := h.threads
  exact NetworkThread.Orderly.of_reachable hreachable

/-- The threads of a connection take a step. -/
theorem Started.Sound.moved {started : Started C} (h : started.Sound J hmac) {act : ThreadAct C}
    {thread : NetworkThread C} (hstep : started.thread.Step J act thread) :
    ({ started with thread := thread } : Started C).Sound J hmac := by
  obtain ⟨replies, attempts, hreachable⟩ := h.threads
  obtain ⟨more, hevents, -⟩ := hstep.emits h.orderly
  refine ⟨⟨replies, attempts, hreachable.step hstep⟩, ?_⟩
  dsimp only
  rw [hevents, List.length_append]
  exact h.handled.trans (Nat.le_add_right _ _)

/-- The window does something to the session of a connection, which is a step of it. -/
theorem Started.Sound.withSession {started : Started C} (h : started.Sound J hmac)
    (label : Label C) {session : Session C} (hlabel : ofPreparation label = false)
    (hreact : started.thread.session.react J label = some (session, []))
    (htaken : label.taken = []) (hlines : linesRead started.thread.session label = [])
    (hreceiver : session.receiver = started.thread.session.receiver) :
    (started.withSession session).Sound J hmac := by
  have hstep := h.moved (.moved hlabel hreact)
  rw [htaken, hlines, hreceiver, loopResult_self, List.append_nil, List.append_nil] at hstep
  exact hstep

/-- A connection stays sound when its handle is dropped. -/
theorem Started.Sound.dropped {started : Started C} (h : started.Sound J hmac)
    (hopen : started.thread.session.inputOpen = true) : started.dropped.Sound J hmac :=
  h.withSession .closeInput rfl (by simp [Session.react, hopen, dropHandle]) rfl rfl rfl

/-- A connection stays sound when a line is queued. -/
theorem Started.Sound.submit {started : Started C} (h : started.Sound J hmac)
    (hopen : started.thread.session.inputOpen = true) {body : Option Text}
    (hlive : body ≠ none → started.thread.session.live = true) :
    (started.withSession (submit started.thread.session body)).Sound J hmac := by
  cases body with
  | none => exact h
  | some body =>
      have hlive := hlive nofun
      exact h.withSession (.submit body) rfl
        (by simp [Session.react, hopen, hlive, Desktop.submit]) rfl rfl rfl

/-- A connection stays sound when its events are handled. -/
theorem Started.Sound.drained {started : Started C} (h : started.Sound J hmac) :
    started.drained.Sound J hmac :=
  ⟨h.threads, Nat.le_refl _⟩

/-- A connection was replaced or is the current one. -/
theorem Screen.mem_connections {screen : Screen C} {started : Started C} :
    started ∈ screen.connections ↔ started ∈ screen.replaced ∨ screen.current = some started := by
  simp [Screen.connections]

/-- The current connection of a sound window is sound. -/
theorem Screen.Sound.of_current {screen : Screen C} (h : screen.Sound J hmac) {started : Started C}
    (hcurrent : screen.current = some started) : started.Sound J hmac :=
  h.connections started (Screen.mem_connections.2 (Or.inr hcurrent))

/-- The window has done something with the current connection that leaves it the current one. -/
theorem Screen.Sound.with_current {screen : Screen C} (h : screen.Sound J hmac) {app : FaunaApp}
    {f : Started C → Started C} (hconnection : app.connection = screen.app.connection)
    (hdraft : app.connection = none → app.draftMessage = [])
    (hf : ∀ started, screen.current = some started → (f started).Sound J hmac ∧
      (f started).thread.session.inputOpen = started.thread.session.inputOpen) :
    ({ screen with app := app, current := screen.current.map f } : Screen C).Sound J hmac := by
  refine ⟨?_, ?_, ?_, hdraft⟩
  · intro started hmem
    rcases Screen.mem_connections.1 hmem with hreplaced | hcurrent
    · exact h.connections started (Screen.mem_connections.2 (Or.inl hreplaced))
    · obtain ⟨started', hstarted', rfl⟩ := Option.map_eq_some_iff.1 hcurrent
      exact (hf started' hstarted').1
  · rw [hconnection, h.connected]
    exact Option.map_eq_none_iff.symm
  · intro started hcurrent
    obtain ⟨started', hstarted', rfl⟩ := Option.map_eq_some_iff.1 hcurrent
    rw [(hf started' hstarted').2]
    exact h.inputOpen started' hstarted'

/-- Handling what waits keeps the window sound. -/
theorem Screen.Sound.drain {screen : Screen C} (h : screen.Sound J hmac) :
    screen.drain.Sound J hmac := by
  obtain ⟨hdraft, hconnection⟩ :=
    screen.app.drainNetworkEvents_frame ((screen.current.map Started.waiting).getD [])
  apply h.with_current hconnection
  · rw [hconnection, hdraft]
    exact h.draft
  · exact fun started hcurrent => ⟨(h.of_current hcurrent).drained, rfl⟩

/-- So does sending the draft. -/
theorem Screen.Sound.send {screen : Screen C} (h : screen.Sound J hmac) :
    screen.send.Sound J hmac := by
  unfold Screen.send
  split
  · exact h
  · next hsome =>
    have hopen (started : Started C) (body : Option Text) :
        (started.withSession (submit started.thread.session body)).thread.session.inputOpen =
          started.thread.session.inputOpen := by
      cases body <;> rfl
    have hsent := screen.app.sendMessage_cases (screen.current.any (·.thread.session.live))
    generalize screen.app.sendMessage (screen.current.any (·.thread.session.live)) = result
      at hsent ⊢
    have hconnection : result.1.connection = screen.app.connection := by
      rcases hsent with ⟨-, rfl⟩ | ⟨-, -, report, rfl⟩ | ⟨-, -, -, rfl⟩ <;> rfl
    apply h.with_current hconnection
    · rw [hconnection]
      exact fun hnone => absurd (by simp [hnone]) hsome
    · intro started hcurrent
      refine ⟨(h.of_current hcurrent).submit (h.inputOpen started hcurrent) ?_, hopen started _⟩
      intro hbody
      rcases hsent with ⟨-, rfl⟩ | ⟨-, -, report, rfl⟩ | ⟨-, -, halive, -⟩
      · exact absurd rfl hbody
      · exact absurd rfl hbody
      · simpa [hcurrent] using halive

/-- So does a start button. -/
theorem Screen.Sound.start {screen : Screen C} (h : screen.Sound J hmac) (button : Button)
    (outside : Outside C) : (screen.start J hmac button outside).Sound J hmac := by
  have hstarts : FaunaApp.Starts ⟨screen.connections.length⟩ screen.app
      (screen.app.start C J button outside.startManagedTor ⟨screen.connections.length⟩) := by
    cases button with
    | host => exact FaunaApp.startHost_starts _ _ _
    | join => exact FaunaApp.startJoin_starts C J _ _ _
  rcases hstart : (screen.app.start C J button outside.startManagedTor
    ⟨screen.connections.length⟩).2 with _ | start
  · obtain ⟨-, hconnection⟩ := hstarts.connection.resolve_right (by simp [hstart])
    rw [Screen.start_of_none hstart]
    refine ⟨h.connections, ?_, h.inputOpen, ?_⟩
    · rw [hconnection]
      exact h.connected
    · rw [hconnection, hstarts.draftMessage]
      exact h.draft
  · obtain ⟨-, hconnection⟩ := hstarts.connection.resolve_left (by simp [hstart])
    rw [Screen.start_of_some hstart]
    refine ⟨?_, by simp [hconnection], ?_, fun hnone => by simp [hconnection] at hnone⟩
    · intro started hmem
      rcases Screen.mem_connections.1 hmem with hreplaced | hcurrent
      · rcases List.mem_append.1 hreplaced with hreplaced | hdropped
        · exact h.connections started (Screen.mem_connections.2 (Or.inl hreplaced))
        · rw [Option.mem_toList, Option.map_eq_some_iff] at hdropped
          obtain ⟨started', hstarted', rfl⟩ := hdropped
          exact (h.of_current hstarted').dropped (h.inputOpen started' hstarted')
      · obtain rfl := Option.some.inj hcurrent
        exact ⟨⟨outside.replies, outside.attempts,
          .of_init ⟨outside.identity, outside.exchange, rfl⟩⟩, Nat.zero_le _⟩
    · intro started hcurrent
      obtain rfl := Option.some.inj hcurrent
      rfl

/-- So does whatever a frame does where it stands. -/
theorem Screen.Sound.react {screen : Screen C} (h : screen.Sound J hmac) (gesture : Gesture C) :
    (screen.react J hmac gesture).Sound J hmac := by
  rcases screen.react_cases J hmac gesture with
    ⟨-, hreact⟩ | ⟨button, outside, -, -, hreact⟩ | hreact | hreact
  · rw [hreact]
    exact h.drain
  · rw [hreact]
    exact h.start button outside
  · rw [hreact]
    exact h.send
  · rw [hreact]
    obtain ⟨hconnection, hdraft⟩ := screen.app.widget_frame screen.stage gesture
    refine ⟨h.connections, by rw [hconnection]; exact h.connected, h.inputOpen, ?_⟩
    rw [hconnection]
    exact fun hnone => (hdraft hnone).trans (h.draft hnone)

/-- So does every step of the app. -/
theorem Screen.Sound.step {screen screen' : Screen C} {act : ScreenAct C}
    (h : screen.Sound J hmac) (hstep : screen.Step J hmac act screen') : screen'.Sound J hmac := by
  cases hstep with
  | updated gesture =>
      have hreact := h.react gesture
      exact ⟨hreact.connections, hreact.connected, hreact.inputOpen, hreact.draft⟩
  | @current started act thread hcurrent hthreads hstep =>
      refine ⟨?_, ?_, ?_, h.draft⟩
      · intro started' hmem
        rcases Screen.mem_connections.1 hmem with hreplaced | hcurrent'
        · exact h.connections started' (Screen.mem_connections.2 (Or.inl hreplaced))
        · obtain rfl := Option.some.inj hcurrent'
          exact (h.of_current hcurrent).moved hstep
      · rw [h.connected, hcurrent]
        simp
      · intro started' hcurrent'
        obtain rfl := Option.some.inj hcurrent'
        exact (hstep.inputOpen_eq hthreads).trans (h.inputOpen started hcurrent)
  | @replaced before started after act thread hreplaced hthreads hstep =>
      refine ⟨?_, h.connected, h.inputOpen, h.draft⟩
      have hmem (started' : Started C) (hmem : started' ∈ before ++ started :: after) :
          started'.Sound J hmac :=
        h.connections started' (Screen.mem_connections.2 (Or.inl (by rwa [hreplaced])))
      intro started' hmem'
      rcases Screen.mem_connections.1 hmem' with hreplaced' | hcurrent
      · rcases List.mem_append.1 hreplaced' with hbefore | hafter
        · exact hmem started' (List.mem_append_left _ hbefore)
        · rcases List.mem_cons.1 hafter with rfl | hafter
          · exact (hmem started (by simp)).moved hstep
          · exact hmem started' (List.mem_append_right _ (List.mem_cons_of_mem _ hafter))
      · exact h.of_current hcurrent

/-- The window is sound from its first frame on. -/
theorem Screen.Sound.of_reachable {screen : Screen C} (h : (screens C J hmac).Reachable screen) :
    screen.Sound J hmac := by
  refine h.invariant ?_ fun screen act screen' hsound hstep => hsound.step hstep
  rintro screen rfl
  refine ⟨?_, by simp [Screen.new, FaunaApp.new], ?_, fun _ => rfl⟩
  · intro started hmem
    cases hmem
  · intro started hcurrent
    cases hcurrent

end Fauna.Desktop
