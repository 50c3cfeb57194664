import Fauna.Wire.PeerBytes

/-!
# The window of the desktop app

`FaunaApp` and the functions of it that change its state: starting and joining a chat, with the
Tor configuration they prepare, sending the draft, and handling what the network threads emit.
What lies outside (whether Tor starts, which handle a new session gets, whether the channel of the
connection still has a receiver, what events are waiting) is an argument.

* `handle_messages`: what an event appends to the messages, and that nothing else touches them.
* `sendMessage_cases`: the four ways of `send_message`.
* `startHost_starts`, `startJoin_starts`: a start installs a new connection or keeps the one there
  is, and leaves the rest of the chat alone.
-/

namespace Fauna.Desktop

open Fauna.Lib Fauna.Core Fauna.Wire

/-- `MessageAuthor`. -/
inductive MessageAuthor
  | ofLocal
  | ofRemote
  | ofSystem
  deriving DecidableEq

/-- `MessageLine`. -/
structure MessageLine where
  author : MessageAuthor
  body : Text
  deriving DecidableEq

/-- `ConnectionHandle`: which of the sessions that were started is at the other end of its two
channels. -/
structure ConnectionHandle where
  session : ℕ
  deriving DecidableEq

/-- `TorRuntime`, as the window reads it. -/
structure TorRuntime where
  controlAddr : Text
  socksAddr : Text

/-- `TorConfig`. -/
structure TorConfig where
  controlAddr : Text
  socksAddr : Text
  servicePort : ℕ

/-- `FaunaApp`. -/
structure FaunaApp where
  displayName : Text
  bindAddr : Text
  publicAddr : Text
  torEnabled : Bool
  torAutoStart : Bool
  torExePath : Text
  torControlAddr : Text
  torSocksAddr : Text
  torServicePort : Text
  joinInvite : Text
  currentInvite : Text
  draftMessage : Text
  connection : Option ConnectionHandle
  torRuntime : Option TorRuntime
  messages : List MessageLine
  status : Text
  peerName : Option Text

/-- The arguments of `start_host_thread` or `start_join_thread`. -/
inductive Start
  | host (name bind publicAddr : Text) (torConfig : Option TorConfig)
  | join (name invite torSocksAddr : Text)

/-- `str::parse::<u16>`. -/
def parseU16 (text : Text) : Option ℕ :=
  let digits := match text with
    | '+' :: rest => rest
    | _ => text
  if digits ≠ [] ∧ digits.all Char.isDigit ∧ Nat.ofDigitChars 10 digits 0 < 65536 then
    some (Nat.ofDigitChars 10 digits 0)
  else none

/-- `normalize_direct_bind_addr`. -/
def normalizeDirectBindAddr (address : Text) : Text :=
  if address = [] then "127.0.0.1:45123".toList
  else if ':' ∈ address then address
  else "127.0.0.1:".toList ++ address

/-- `invite_contains_onion_address`. -/
def inviteContainsOnionAddress (C : Crates) (J : SerdeJson) (inviteText : Text) : Bool :=
  match inviteDecode C J inviteText with
  | .ok invite => invite.addresses.any fun address => ".onion".toList <:+: address
  | .error _ => false

namespace FaunaApp

/-- `FaunaApp::new`. -/
def new : FaunaApp where
  displayName := "Kivan".toList
  bindAddr := "127.0.0.1:0".toList
  publicAddr := "127.0.0.1:45123".toList
  torEnabled := true
  torAutoStart := true
  torExePath := []
  torControlAddr := "127.0.0.1:9151".toList
  torSocksAddr := "127.0.0.1:9150".toList
  torServicePort := "45123".toList
  joinInvite := []
  currentInvite := []
  draftMessage := []
  connection := none
  torRuntime := none
  messages := [⟨.ofSystem,
    "Fauna hazir. Sohbet baslatabilir veya davet linkiyle katilabilirsin.".toList⟩]
  status := "Hazir".toList
  peerName := none

/-- `push_system`. -/
def pushSystem (app : FaunaApp) (body : Text) : FaunaApp :=
  { app with messages := app.messages ++ [⟨.ofSystem, body⟩] }

/-- What the user changes in the fields of the window; `fields` is read for those only. -/
def edit (app fields : FaunaApp) : FaunaApp :=
  { fields with
    connection := app.connection
    torRuntime := app.torRuntime
    messages := app.messages
    status := app.status
    peerName := app.peerName }

/-! ## Starting a chat -/

/-- `ensure_managed_tor`, where `startManagedTor` answers to the path it is given. -/
def ensureManagedTor (startManagedTor : Option Text → Except Text TorRuntime) (app : FaunaApp) :
    Except Text Unit × FaunaApp :=
  if app.torRuntime.isSome then (.ok (), app)
  else
    let app := { app with status := "Tor baslatiliyor".toList }
    let exeHint := if trim app.torExePath = [] then none else some (trim app.torExePath)
    match startManagedTor exeHint with
    | .error error => (.error error, app)
    | .ok runtime => (.ok (), { app with
        torControlAddr := runtime.controlAddr
        torSocksAddr := runtime.socksAddr
        torRuntime := some runtime })

/-- `prepare_tor_config`. -/
def prepareTorConfig (startManagedTor : Option Text → Except Text TorRuntime) (app : FaunaApp) :
    Except Text (Option TorConfig) × FaunaApp :=
  if !app.torEnabled then (.ok none, app)
  else
    let (result, app) :=
      if app.torAutoStart then app.ensureManagedTor startManagedTor else (.ok (), app)
    match result with
    | .error error => (.error error, app)
    | .ok () => (.ok (some {
        controlAddr := trim app.torControlAddr
        socksAddr := trim app.torSocksAddr
        servicePort := (parseU16 (trim app.torServicePort)).getD 45123 }), app)

/-- `start_host`, and the thread it starts; `handle` is the one a new connection gets. -/
def startHost (startManagedTor : Option Text → Except Text TorRuntime) (handle : ConnectionHandle)
    (app : FaunaApp) : FaunaApp × Option Start :=
  let name := trim app.displayName
  let bind := if app.torEnabled then trim app.bindAddr
    else normalizeDirectBindAddr (trim app.bindAddr)
  let publicAddr := trim app.publicAddr
  match app.prepareTorConfig startManagedTor with
  | (.error error, app) =>
      ({ app.pushSystem error with status := "Tor baslatilamadi".toList }, none)
  | (.ok torConfig, app) =>
      if name = [] ∨ bind = [] then
        (app.pushSystem "Isim ve host adresi bos olamaz.".toList, none)
      else if torConfig.isNone ∧ publicAddr = [] then
        (app.pushSystem "Tor kapaliyken paylasilan adres bos olamaz.".toList, none)
      else
        ({ app with
          connection := some handle
          currentInvite := []
          status := "Davet olusturuluyor".toList }, some (.host name bind publicAddr torConfig))

/-- `start_join`, and the thread it starts. -/
def startJoin (C : Crates) (J : SerdeJson)
    (startManagedTor : Option Text → Except Text TorRuntime) (handle : ConnectionHandle)
    (app : FaunaApp) : FaunaApp × Option Start :=
  let name := trim app.displayName
  let invite := trim app.joinInvite
  if name = [] ∨ invite = [] then
    (app.pushSystem "Isim ve davet linki bos olamaz.".toList, none)
  else
    let app :=
      if inviteContainsOnionAddress C J invite && !app.torEnabled then
        { app with torEnabled := true, torAutoStart := true }.pushSystem
          "Onion daveti algilandi; Tor modu otomatik acildi.".toList
      else app
    match app.prepareTorConfig startManagedTor with
    | (.error error, app) =>
        ({ app.pushSystem error with status := "Tor baslatilamadi".toList }, none)
    | (.ok torConfig, app) =>
        let torSocksAddr := match torConfig with
          | some config => config.socksAddr
          | none => trim app.torSocksAddr
        ({ app with
          connection := some handle
          status := "Baglaniyor".toList }, some (.join name invite torSocksAddr))

/-! ## Messages -/

/-- `send_message`, and the body it queued. `receiverAlive` says whether `outbound.send` finds the
receiver of its channel. -/
def sendMessage (receiverAlive : Bool) (app : FaunaApp) : FaunaApp × Option Text :=
  let body := trim app.draftMessage
  if body = [] then (app, none)
  else if app.connection.isNone then
    (app.pushSystem "Once bir sohbet baslat veya davete katil.".toList, none)
  else if receiverAlive then
    ({ app with
      messages := app.messages ++ [⟨.ofLocal, body⟩]
      draftMessage := [] }, some body)
  else (app.pushSystem "Mesaj gonderilemedi; baglanti kapanmis olabilir.".toList, none)

/-- One round of the loop of `drain_network_events`. -/
def handle (app : FaunaApp) : NetworkEvent → FaunaApp
  | .inviteCreated invite =>
      let app := { app with
        currentInvite := invite
        status := "Davet hazir, karsi tarafi bekliyor".toList }
      if "127.0.0.1".toList <:+: invite ∨ "localhost".toList <:+: invite then
        app.pushSystem ("Bu davet sadece ayni bilgisayarda test icindir. Baska bilgisayar icin " ++
          "Tor modunu ac.").toList
      else app
  | .status status => { app with status := status }
  | .connected peerName =>
      let status := peerName ++ " ile sifreli oturum kuruldu".toList
      { app with status := status, peerName := some peerName }.pushSystem status
  | .incoming body => { app with messages := app.messages ++ [⟨.ofRemote, body⟩] }
  | .disconnected reason =>
      { app with status := "Baglanti kapandi".toList, peerName := none }.pushSystem reason
  | .error error => { app with status := "Hata".toList }.pushSystem error

/-- `drain_network_events`, where `events` are waiting. -/
def drainNetworkEvents (events : List NetworkEvent) (app : FaunaApp) : FaunaApp :=
  if app.connection.isNone then app else events.foldl handle app

/-- The texts of the lines of one author. -/
def linesOf (author : MessageAuthor) (lines : List MessageLine) : List Text :=
  (lines.filter (·.author = author)).map (·.body)

/-- The bodies among some events. -/
def incomings (events : List NetworkEvent) : List Text :=
  events.filterMap fun
    | .incoming body => some body
    | _ => none

@[simp] theorem incomings_append (events events' : List NetworkEvent) :
    incomings (events ++ events') = incomings events ++ incomings events' :=
  List.filterMap_append

@[simp] theorem linesOf_nil (author : MessageAuthor) : linesOf author [] = [] := rfl

@[simp] theorem linesOf_append (author : MessageAuthor) (lines lines' : List MessageLine) :
    linesOf author (lines ++ lines') = linesOf author lines ++ linesOf author lines' := by
  simp [linesOf]

/-- Lines of the system are lines of no user. -/
theorem linesOf_system {author : MessageAuthor} {lines : List MessageLine}
    (h : ∀ line ∈ lines, line.author = .ofSystem) (hauthor : author ≠ .ofSystem) :
    linesOf author lines = [] := by
  rw [linesOf, List.map_eq_nil_iff, List.filter_eq_nil_iff]
  intro line hline
  rw [h line hline]
  simpa using hauthor.symm

/-! ## What the functions leave alone -/

/-- Nothing of the chat changed but for lines of the system. -/
structure Quiet (app app' : FaunaApp) : Prop where
  peerName : app'.peerName = app.peerName
  draftMessage : app'.draftMessage = app.draftMessage
  connection : app'.connection = app.connection
  messages : ∃ lines, app'.messages = app.messages ++ lines ∧
    ∀ line ∈ lines, line.author = .ofSystem

/-- What is left alone is quiet. -/
theorem Quiet.refl (app : FaunaApp) : Quiet app app := ⟨rfl, rfl, rfl, [], by simp, by simp⟩

/-- Two quiet changes are one. -/
theorem Quiet.trans {app app' app'' : FaunaApp} (h : Quiet app app') (h' : Quiet app' app'') :
    Quiet app app'' := by
  obtain ⟨lines, hlines, hsystem⟩ := h.messages
  obtain ⟨lines', hlines', hsystem'⟩ := h'.messages
  refine ⟨h'.peerName.trans h.peerName, h'.draftMessage.trans h.draftMessage,
    h'.connection.trans h.connection, lines ++ lines', ?_, ?_⟩
  · rw [hlines', hlines, List.append_assoc]
  · intro line hline
    rcases List.mem_append.1 hline with hline | hline
    · exact hsystem line hline
    · exact hsystem' line hline

/-- `push_system` appends a line of the system. -/
theorem pushSystem_quiet (app : FaunaApp) (body : Text) : Quiet app (app.pushSystem body) :=
  ⟨rfl, rfl, rfl, [_], rfl, by simp⟩

/-- Starting the managed Tor changes nothing of the chat. -/
theorem ensureManagedTor_quiet (startManagedTor : Option Text → Except Text TorRuntime)
    (app : FaunaApp) : Quiet app (app.ensureManagedTor startManagedTor).2 := by
  unfold ensureManagedTor
  split
  · exact .refl app
  · dsimp only
    split <;> exact ⟨rfl, rfl, rfl, [], by simp, by simp⟩

/-- Preparing the Tor configuration reports to the user and no more. -/
theorem prepareTorConfig_quiet (startManagedTor : Option Text → Except Text TorRuntime)
    (app : FaunaApp) : Quiet app (app.prepareTorConfig startManagedTor).2 := by
  unfold prepareTorConfig
  split
  · exact .refl app
  · have hmanaged : Quiet app
        (if app.torAutoStart then app.ensureManagedTor startManagedTor else (.ok (), app)).2 := by
      split
      · exact app.ensureManagedTor_quiet startManagedTor
      · exact .refl app
    dsimp only
    split <;> exact hmanaged

/-- A start that is refused changes nothing of the chat; one that is not installs the new
connection, and changes nothing else of it. -/
structure Starts (handle : ConnectionHandle) (app : FaunaApp) (result : FaunaApp × Option Start) :
    Prop where
  peerName : result.1.peerName = app.peerName
  draftMessage : result.1.draftMessage = app.draftMessage
  messages : ∃ lines, result.1.messages = app.messages ++ lines ∧
    ∀ line ∈ lines, line.author = .ofSystem
  connection : result.2 = none ∧ result.1.connection = app.connection ∨
    result.2.isSome = true ∧ result.1.connection = some handle

/-- A start that returned early has left the connection alone. -/
theorem Starts.refused {handle : ConnectionHandle} {app app' : FaunaApp} (h : Quiet app app') :
    Starts handle app (app', none) :=
  ⟨h.peerName, h.draftMessage, h.messages, Or.inl ⟨rfl, h.connection⟩⟩

/-- A start without Tor, where Tor was asked for. -/
theorem Starts.unprepared {handle : ConnectionHandle} {app app' : FaunaApp} (h : Quiet app app')
    (error status : Text) :
    Starts handle app ({ app'.pushSystem error with status := status }, none) := by
  have hquiet := h.trans (app'.pushSystem_quiet error)
  exact .refused ⟨hquiet.peerName, hquiet.draftMessage, hquiet.connection, hquiet.messages⟩

/-- A start that was not refused has installed its handle. -/
theorem Starts.installed {app app' : FaunaApp} (h : Quiet app app') (handle : ConnectionHandle)
    (currentInvite status : Text) (start : Start) :
    Starts handle app ({ app' with
      connection := some handle
      currentInvite := currentInvite
      status := status }, some start) :=
  ⟨h.peerName, h.draftMessage, h.messages, Or.inr ⟨rfl, rfl⟩⟩

/-- `start_host` either returns early or installs the new handle. -/
theorem startHost_starts (startManagedTor : Option Text → Except Text TorRuntime)
    (handle : ConnectionHandle) (app : FaunaApp) :
    Starts handle app (app.startHost startManagedTor handle) := by
  have hprepared := app.prepareTorConfig_quiet startManagedTor
  unfold startHost
  dsimp only
  split
  · next error app' h =>
    rw [h] at hprepared
    exact .unprepared hprepared error _
  · next torConfig app' h =>
    rw [h] at hprepared
    generalize (if app.torEnabled = true then trim app.bindAddr
      else normalizeDirectBindAddr (trim app.bindAddr)) = bind
    split
    · exact .refused (hprepared.trans (app'.pushSystem_quiet _))
    · split
      · exact .refused (hprepared.trans (app'.pushSystem_quiet _))
      · exact .installed hprepared handle _ _ _

/-- `start_join` either returns early or installs the new handle. -/
theorem startJoin_starts (C : Crates) (J : SerdeJson)
    (startManagedTor : Option Text → Except Text TorRuntime) (handle : ConnectionHandle)
    (app : FaunaApp) : Starts handle app (app.startJoin C J startManagedTor handle) := by
  unfold startJoin
  dsimp only
  split
  · exact .refused (app.pushSystem_quiet _)
  · -- an onion invite turns Tor on before it is prepared
    have honion : Quiet app (if (inviteContainsOnionAddress C J (trim app.joinInvite) &&
        !app.torEnabled) = true then
        { app with torEnabled := true, torAutoStart := true }.pushSystem
          "Onion daveti algilandi; Tor modu otomatik acildi.".toList
        else app) := by
      split
      · exact ⟨rfl, rfl, rfl, [_], rfl, by simp⟩
      · exact .refl app
    generalize (if (inviteContainsOnionAddress C J (trim app.joinInvite) &&
        !app.torEnabled) = true then
        { app with torEnabled := true, torAutoStart := true }.pushSystem
          "Onion daveti algilandi; Tor modu otomatik acildi.".toList
        else app) = ready at honion ⊢
    have hprepared := honion.trans (ready.prepareTorConfig_quiet startManagedTor)
    split
    · next error app' h =>
      rw [h] at hprepared
      exact .unprepared hprepared error _
    · next torConfig app' h =>
      rw [h] at hprepared
      exact .installed hprepared handle app'.currentInvite _ _

/-! ## Sending and receiving -/

/-- The ways of `send_message`: a blank draft does nothing, a draft that cannot be queued is kept and
reported, and one that is queued becomes a line of the user. -/
theorem sendMessage_cases (receiverAlive : Bool) (app : FaunaApp) :
    (trim app.draftMessage = [] ∧ app.sendMessage receiverAlive = (app, none)) ∨
    (trim app.draftMessage ≠ [] ∧ (app.connection = none ∨ receiverAlive = false) ∧
      ∃ report, app.sendMessage receiverAlive = (app.pushSystem report, none)) ∨
    (trim app.draftMessage ≠ [] ∧ app.connection ≠ none ∧ receiverAlive = true ∧
      app.sendMessage receiverAlive = ({ app with
        messages := app.messages ++ [⟨.ofLocal, trim app.draftMessage⟩]
        draftMessage := [] }, some (trim app.draftMessage))) := by
  by_cases hbody : trim app.draftMessage = []
  · left
    simp [sendMessage, hbody]
  · cases hconnection : app.connection with
    | none =>
        right; left
        exact ⟨hbody, Or.inl rfl, _, by simp [sendMessage, hbody, hconnection]; rfl⟩
    | some handle =>
        cases receiverAlive with
        | false =>
            right; left
            exact ⟨hbody, Or.inr rfl, _, by simp [sendMessage, hbody, hconnection]; rfl⟩
        | true =>
            right; right
            exact ⟨hbody, by simp, rfl, by simp [sendMessage, hbody, hconnection]⟩

/-- What an event does to the messages. -/
theorem handle_messages (app : FaunaApp) (event : NetworkEvent) :
    ∃ lines, (app.handle event).messages = app.messages ++ lines ∧
      linesOf .ofRemote lines = incomings [event] ∧ linesOf .ofLocal lines = [] := by
  cases event with
  | inviteCreated invite =>
      unfold handle
      dsimp only
      split
      · exact ⟨[_], rfl, rfl, rfl⟩
      · exact ⟨[], (List.append_nil _).symm, rfl, rfl⟩
  | status status => exact ⟨[], (List.append_nil _).symm, rfl, rfl⟩
  | connected peerName => exact ⟨[_], rfl, rfl, rfl⟩
  | incoming body => exact ⟨[_], rfl, rfl, rfl⟩
  | disconnected reason => exact ⟨[_], rfl, rfl, rfl⟩
  | error error => exact ⟨[_], rfl, rfl, rfl⟩

/-- No event changes the draft or the handle. -/
theorem handle_frame (app : FaunaApp) (event : NetworkEvent) :
    (app.handle event).draftMessage = app.draftMessage ∧
      (app.handle event).connection = app.connection := by
  cases event with
  | inviteCreated invite =>
      unfold handle
      dsimp only
      split <;> exact ⟨rfl, rfl⟩
  | status | connected | incoming | disconnected | error => exact ⟨rfl, rfl⟩

/-- Handled events append the bodies received, in order, and no line of the user. -/
theorem foldl_handle (events : List NetworkEvent) (app : FaunaApp) :
    (∃ lines, (events.foldl handle app).messages = app.messages ++ lines ∧
      linesOf .ofRemote lines = incomings events ∧ linesOf .ofLocal lines = []) ∧
    (events.foldl handle app).draftMessage = app.draftMessage ∧
      (events.foldl handle app).connection = app.connection := by
  induction events generalizing app with
  | nil => exact ⟨⟨[], by simp, rfl, rfl⟩, rfl, rfl⟩
  | cons event events ih =>
      obtain ⟨lines, hlines, hremote, hlocal⟩ := app.handle_messages event
      obtain ⟨hdraft, hconnection⟩ := app.handle_frame event
      obtain ⟨⟨lines', hlines', hremote', hlocal'⟩, hdraft', hconnection'⟩ := ih (app.handle event)
      refine ⟨⟨lines ++ lines', ?_, ?_, ?_⟩, hdraft'.trans hdraft, hconnection'.trans hconnection⟩
      · rw [List.foldl_cons, hlines', hlines, List.append_assoc]
      · rw [linesOf_append, hremote, hremote', ← incomings_append, List.singleton_append]
      · rw [linesOf_append, hlocal, hlocal']
        rfl

/-- What draining appends: a line of the peer for every body, and lines of the system. -/
theorem drainNetworkEvents_messages {app : FaunaApp} (hconnection : app.connection ≠ none)
    (events : List NetworkEvent) :
    ∃ lines, (app.drainNetworkEvents events).messages = app.messages ++ lines ∧
      linesOf .ofRemote lines = incomings events ∧ linesOf .ofLocal lines = [] := by
  unfold drainNetworkEvents
  rw [if_neg (by simpa using hconnection)]
  exact (foldl_handle events app).1

/-- Draining the channel changes neither the draft nor the handle. -/
theorem drainNetworkEvents_frame (app : FaunaApp) (events : List NetworkEvent) :
    (app.drainNetworkEvents events).draftMessage = app.draftMessage ∧
      (app.drainNetworkEvents events).connection = app.connection := by
  unfold drainNetworkEvents
  split
  · exact ⟨rfl, rfl⟩
  · exact (foldl_handle events app).2

end FaunaApp

end Fauna.Desktop
