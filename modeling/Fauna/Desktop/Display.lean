import Fauna.Desktop.Frame

/-!
# The invite on display

`current_invite` is set by `InviteCreated`, cleared by `start_host`, and left as it is by
`start_join`; once there is one, its field can be edited. So as long as nobody edits it, it is the
invite of the host that was started last, also when that host has been replaced by a joiner since:
whoever uses the invite then joins a chat that no window shows. A field that was emptied stays empty
until another host is started, for a host announces its invite once.

* `preparation_announces`: what an invite says that the thread of a start emits.
* `Screen.Step.redisplays`: what a step does to the invite on display.
* `invite_on_display`: the result for every run.
-/

namespace Fauna.Desktop

open Fauna.Lib Fauna.Core Fauna.Wire Fauna.Net Fauna.Dial

variable {C : Crates} {J : SerdeJson} {hmac : Bytes → Bytes → Bytes}

/-! ## The invites of a connection -/

/-- The invites among some events. -/
def invites (events : List NetworkEvent) : List Text :=
  events.filterMap fun
    | .inviteCreated invite => some invite
    | _ => none

@[simp] theorem invites_nil : invites [] = [] := rfl

@[simp] theorem invites_append (events events' : List NetworkEvent) :
    invites (events ++ events') = invites events ++ invites events' :=
  List.filterMap_append

/-- An invite is among these exactly when it was announced. -/
theorem mem_invites {events : List NetworkEvent} {invite : Text} :
    invite ∈ invites events ↔ .inviteCreated invite ∈ events := by
  unfold invites
  rw [List.mem_filterMap]
  constructor
  · rintro ⟨event, hevent, hinvite⟩
    cases event <;> simp_all
  · exact fun hevent => ⟨_, hevent, rfl⟩

/-- There are none exactly when no event announces one. -/
theorem invites_eq_nil {events : List NetworkEvent} :
    invites events = [] ↔ ∀ event ∈ events, event.kind ≠ .inviteCreated := by
  rw [List.eq_nil_iff_forall_not_mem]
  constructor
  · intro h event hevent hkind
    cases event <;> simp [NetworkEvent.kind] at hkind
    exact h _ (mem_invites.2 hevent)
  · exact fun h invite hinvite => h _ (mem_invites.1 hinvite) rfl

/-- There are as many as events that announce one. -/
theorem length_invites (events : List NetworkEvent) :
    (invites events).length = events.countP (·.kind = .inviteCreated) := by
  induction events with
  | nil => rfl
  | cons event events ih =>
      rw [List.countP_cons, ← ih]
      cases event <;> simp [invites, NetworkEvent.kind]

/-- The invite names the start as a host, with the identity whose key the connection shows. -/
def Started.Invites (J : SerdeJson) (started : Started C) (invite : Text) : Prop :=
  ∃ name bind publicAddr torConfig advertised,
    started.start = .host name bind publicAddr torConfig ∧
    inviteEncode C J ((Invite.new started.thread.session.config.identity name).withAddress
      advertised) = .ok invite

/-- A call that emits statuses only announces nothing. -/
theorem EmitsStatus.unannounced {c : Call} (h : EmitsStatus c) : Unannounced c := by
  rintro invite rfl
  cases h _ (List.mem_singleton.2 rfl)

/-- `host_network` emits no invite but one with its identity, its name and one address. -/
theorem hostNetwork_announces {identity : DeviceIdentity C.primitives} {name : Text}
    {known : Text → Prop} (h : ∀ advertised invite,
      inviteEncode C J ((Invite.new identity name).withAddress advertised) = .ok invite →
        known invite) (hmac : Bytes → Bytes → Bytes) (replies : ℕ) (bind publicAddr : Text)
    (torConfig : Option TorConfig) (history : List (Routine.Answered Call.Answer)) :
    Announcing (fun _ => known) (fun _ _ => True)
      (hostNetwork C J hmac replies identity name bind publicAddr torConfig) history := by
  -- it listens, and its own address is known
  refine ⟨fun _ hc => (by cases hc), ?_⟩
  rintro (message | _) _ rfl
  · trivial
  refine ⟨fun _ hc => (by cases hc), ?_⟩
  rintro (message | localAddr) _ rfl
  · trivial
  have haddress := (all_advertisedAddr hmac replies publicAddr localAddr torConfig).mono
    fun _ => EmitsStatus.unannounced
  show Announcing _ _ (advertisedAddr hmac replies publicAddr localAddr torConfig >>= _) _
  apply Routine.Holds.after haddress (fun _ c hc invite hemit => absurd hemit (hc invite))
    (fun _ _ => trivial)
  intro advertised history
  exact announcing_invite (h advertised)

/-- A start emits no invite but that of a host. -/
theorem preparation_announces (J : SerdeJson) (hmac : Bytes → Bytes → Bytes)
    (replies attempts : ℕ) (identity : DeviceIdentity C.primitives) (start : Start)
    (history : List (Routine.Answered Call.Answer)) :
    Announcing (fun _ invite => ∃ name bind publicAddr torConfig advertised,
        start = .host name bind publicAddr torConfig ∧
          inviteEncode C J ((Invite.new identity name).withAddress advertised) = .ok invite)
      (fun _ _ => True) (preparation C J hmac replies attempts identity start) history := by
  cases start with
  | join name invite torSocksAddr =>
      apply Announcing.of_all
      apply ((all_joinNetwork J attempts invite torSocksAddr).mono fun _ =>
        EmitsStatus.unannounced).bind
      intro expected
      trivial
  | host name bind publicAddr torConfig =>
      apply Routine.holds_bind.2
      apply (hostNetwork_announces (fun advertised invite hencode =>
        ⟨name, bind, publicAddr, torConfig, advertised, rfl, hencode⟩) hmac replies bind publicAddr
        torConfig history).mono
      intro result history _
      cases result <;> trivial

variable (J hmac) in
/-- The invites that the threads of a start have emitted are those of its calls so far. -/
def NetworkThread.Recorded (replies attempts : ℕ) (start : Start) (thread : NetworkThread C) :
    Prop :=
  ∃ history rest, Routine.Trace (preparation C J hmac replies attempts
      thread.session.config.identity start) history rest ∧
    invites thread.session.events = invites (history.flatMap fun answered => eventsOf answered.1) ∧
    (thread.session.main = .preparing → rest = thread.preparing)

/-- What the threads of a start have announced is always in the record of its calls. -/
theorem NetworkThread.Recorded.of_reachable {replies attempts : ℕ} {start : Start}
    {thread : NetworkThread C}
    (h : (networkThreads C J hmac replies attempts start).Reachable thread) :
    thread.Recorded J hmac replies attempts start := by
  refine h.induction ?_ ?_
  · rintro thread ⟨identity, exchange, rfl⟩
    exact ⟨[], _, .nil _, rfl, fun _ => rfl⟩
  · rintro thread act thread' hreachable ⟨history, rest, htrace, hinvites, hrest⟩ hstep
    cases hstep with
    | @called answered rest' hmain hcall =>
        obtain rfl := hrest hmain
        refine ⟨history ++ [answered], rest', htrace.append (.single hcall), ?_, fun _ => rfl⟩
        simp [hinvites]
    | begun => exact ⟨history, rest, htrace, hinvites, nofun⟩
    | @failed fault hmain hfail =>
        cases fault <;> exact ⟨history, rest, htrace, hinvites, nofun⟩
    | @moved label session bytes hlabel hreact =>
        have hchange : Net.Change J thread.session label session bytes := .of_react hreact
        have hidentity : session.config.identity = thread.session.config.identity := by
          rw [hchange.writes.1]
        obtain ⟨more, hevents, hnone⟩ := (NetworkThread.Step.moved hlabel hreact).emits
          (NetworkThread.Orderly.of_reachable hreachable)
        have hmore : invites more = [] := by
          rcases hnone with ⟨answered, hcall, -⟩ | hnone
          · cases hcall
          · exact invites_eq_nil.2 hnone
        refine ⟨history, rest, hidentity ▸ htrace, ?_, fun hmain =>
          hrest (hchange.main_preparing hmain)⟩
        dsimp only at hevents ⊢
        rw [hevents, invites_append, hmore, List.append_nil, hinvites]

/-- An invite that was emitted is that of its host, and is the only one. -/
theorem Started.Sound.invites {started : Started C} (h : started.Sound J hmac) {invite : Text}
    (hinvite : invite ∈ invites started.thread.session.events) :
    started.Invites J invite ∧ invites started.thread.session.events = [invite] := by
  have honce : (Desktop.invites started.thread.session.events).length ≤ 1 := by
    rw [length_invites]
    exact (EventsInOrder.of_disciplined h.orderly.disciplined).once _ (by simp)
  refine ⟨?_, ?_⟩
  · obtain ⟨replies, attempts, hreachable⟩ := h.threads
    obtain ⟨history, rest, htrace, hinvites, -⟩ := NetworkThread.Recorded.of_reachable hreachable
    rw [hinvites, mem_invites, List.mem_flatMap] at hinvite
    obtain ⟨⟨c, answer⟩, hcall, hevent⟩ := hinvite
    obtain ⟨history', hpermits⟩ := (preparation_announces J hmac replies attempts
      started.thread.session.config.identity started.start []).permitted htrace
      (Routine.memory_run [] history) hcall
    apply hpermits
    cases c with
    | emit event => rw [List.mem_singleton.1 hevent]
    | _ => cases hevent
  · match hlist : Desktop.invites started.thread.session.events with
    | [] => simp [hlist] at hinvite
    | [other] =>
        rw [hlist, List.mem_singleton] at hinvite
        rw [hinvite]
    | _ :: _ :: _ => simp [hlist] at honce

/-- A joiner announces no invite. -/
theorem Started.Sound.invites_eq_nil {started : Started C} (h : started.Sound J hmac)
    (hjoins : started.start.hosts = false) :
    Desktop.invites started.thread.session.events = [] := by
  rw [List.eq_nil_iff_forall_not_mem]
  intro invite hinvite
  obtain ⟨⟨name, bind, publicAddr, torConfig, advertised, hstart, -⟩, -⟩ := h.invites hinvite
  rw [hstart] at hjoins
  cases hjoins

/-! ## What the functions of the window do to it -/

namespace FaunaApp

/-- An event puts its invite on display, if it has one. -/
theorem handle_currentInvite (app : FaunaApp) (event : NetworkEvent) :
    (app.handle event).currentInvite = (Desktop.invites [event]).head?.getD app.currentInvite := by
  cases event with
  | inviteCreated invite =>
      unfold handle
      dsimp only
      split <;> rfl
  | status | connected | incoming | disconnected | error => rfl

/-- The last invite that is waiting is the one on display. -/
theorem foldl_handle_currentInvite (events : List NetworkEvent) (app : FaunaApp) :
    (events.foldl handle app).currentInvite =
      (Desktop.invites events).getLast?.getD app.currentInvite := by
  induction events generalizing app with
  | nil => rfl
  | cons event events ih =>
      have hcons : Desktop.invites (event :: events) =
          Desktop.invites [event] ++ Desktop.invites events := invites_append [event] events
      rw [List.foldl_cons, ih, handle_currentInvite, hcons, List.getLast?_append]
      cases event <;> cases (Desktop.invites events).getLast? <;> rfl

/-- Preparing Tor leaves the invite on display alone. -/
theorem prepareTorConfig_currentInvite
    (startManagedTor : Option Text → Except Text TorRuntime) (app : FaunaApp) :
    (app.prepareTorConfig startManagedTor).2.currentInvite = app.currentInvite := by
  have hmanaged : (app.ensureManagedTor startManagedTor).2.currentInvite = app.currentInvite := by
    unfold ensureManagedTor
    split
    · rfl
    · dsimp only
      split <;> rfl
  have hready : (if app.torAutoStart then app.ensureManagedTor startManagedTor
      else (.ok (), app)).2.currentInvite = app.currentInvite := by
    split
    · exact hmanaged
    · rfl
  unfold prepareTorConfig
  split
  · rfl
  · dsimp only
    split <;> exact hready

/-- A host that starts clears the invite; a start that is refused leaves it. -/
theorem startHost_currentInvite (startManagedTor : Option Text → Except Text TorRuntime)
    (handle : ConnectionHandle) (app : FaunaApp) :
    (app.startHost startManagedTor handle).2 = none ∧
        (app.startHost startManagedTor handle).1.currentInvite = app.currentInvite ∨
      ∃ start, (app.startHost startManagedTor handle).2 = some start ∧ start.hosts = true ∧
        (app.startHost startManagedTor handle).1.currentInvite = [] := by
  have hprepared := app.prepareTorConfig_currentInvite startManagedTor
  unfold startHost
  dsimp only
  split
  · next error app' h =>
    rw [h] at hprepared
    exact Or.inl ⟨rfl, hprepared⟩
  · next torConfig app' h =>
    rw [h] at hprepared
    generalize (if app.torEnabled = true then trim app.bindAddr
      else normalizeDirectBindAddr (trim app.bindAddr)) = bind
    split
    · exact Or.inl ⟨rfl, hprepared⟩
    · split
      · exact Or.inl ⟨rfl, hprepared⟩
      · exact Or.inr ⟨_, rfl, rfl, rfl⟩

/-- A joiner leaves the invite that is on display. -/
theorem startJoin_currentInvite (C : Crates) (J : SerdeJson)
    (startManagedTor : Option Text → Except Text TorRuntime) (handle : ConnectionHandle)
    (app : FaunaApp) :
    (app.startJoin C J startManagedTor handle).1.currentInvite = app.currentInvite ∧
      ∀ start, (app.startJoin C J startManagedTor handle).2 = some start → start.hosts = false := by
  unfold startJoin
  dsimp only
  split
  · exact ⟨rfl, nofun⟩
  · obtain ⟨ready, hready, hinvite⟩ : ∃ ready, (if (inviteContainsOnionAddress C J
        (trim app.joinInvite) && !app.torEnabled) = true then
        { app with torEnabled := true, torAutoStart := true }.pushSystem
          "Onion daveti algilandi; Tor modu otomatik acildi.".toList
        else app) = ready ∧ ready.currentInvite = app.currentInvite := by
      refine ⟨_, rfl, ?_⟩
      split <;> rfl
    rw [hready]
    have hprepared := (ready.prepareTorConfig_currentInvite startManagedTor).trans hinvite
    split
    · next error app' h =>
      rw [h] at hprepared
      exact ⟨hprepared, nofun⟩
    · next torConfig app' h =>
      rw [h] at hprepared
      refine ⟨hprepared, ?_⟩
      intro start hstart
      obtain rfl := Option.some.inj hstart
      rfl

/-- So does sending a message. -/
theorem sendMessage_currentInvite (receiverAlive : Bool) (app : FaunaApp) :
    (app.sendMessage receiverAlive).1.currentInvite = app.currentInvite := by
  rcases app.sendMessage_cases receiverAlive with ⟨-, h⟩ | ⟨-, -, report, h⟩ | ⟨-, -, -, h⟩
  · rw [h]
  · rw [h]
    rfl
  · rw [h]

/-- Only an invite that is there is edited. -/
theorem widget_currentInvite (app : FaunaApp) (stage : Stage) (gesture : Gesture C) :
    (app.widget stage gesture).currentInvite = app.currentInvite ∨
      app.currentInvite ≠ [] ∧ stage = .currentInvite ∧ ∃ text, gesture = .enter text := by
  unfold widget
  split
  all_goals (try split) <;> first
    | exact Or.inl rfl
    | next hsome => exact Or.inr ⟨hsome, rfl, _, rfl⟩

end FaunaApp

/-! ## The invite of the host that was started last -/

/-- What a connection has for display: whether it is a host's, and the invite that was handled. -/
def Started.display (started : Started C) : Bool × Option Text :=
  (started.start.hosts, (invites started.seen).head?)

/-- The host that was started last. -/
def Screen.lastHost (screen : Screen C) : Option (Started C) :=
  screen.connections.reverse.find? (·.start.hosts)

/-- Its invite, once the window has handled it. -/
def Screen.published (screen : Screen C) : Option Text :=
  screen.lastHost.bind fun host => (invites host.seen).head?

/-- Which invite was published is seen from the displays of the connections. -/
theorem Screen.published_eq (screen : Screen C) : screen.published =
    ((screen.connections.map Started.display).reverse.find? Prod.fst).bind Prod.snd := by
  rw [published, lastHost, ← List.map_reverse, List.find?_map, Option.bind_map]
  rfl

theorem Started.display_dropped (started : Started C) :
    started.dropped.display = started.display := rfl

/-- What keeps the display of each connection keeps that of the current one. -/
theorem Started.map_display {f : Started C → Started C}
    (h : ∀ started, (f started).display = started.display) (current : Option (Started C)) :
    (current.map f).toList.map Started.display = current.toList.map Started.display := by
  cases current with
  | none => rfl
  | some started => simp [h]

/-- Only what a connection has for display matters. -/
theorem Screen.published_congr {screen screen' : Screen C}
    (h : screen'.connections.map Started.display = screen.connections.map Started.display) :
    screen'.published = screen.published := by
  rw [published_eq, published_eq, h]

/-- The current connection is what counts where it is a host's. -/
theorem Screen.published_of_current {screen : Screen C} {started : Started C}
    (hcurrent : screen.current = some started) :
    screen.published = if started.start.hosts then (invites started.seen).head?
      else ({ screen with current := none } : Screen C).published := by
  rw [published_eq, published_eq]
  simp only [Screen.connections, hcurrent, Option.toList_some, Option.toList_none, List.map_append,
    List.map_cons, List.map_nil, List.reverse_append, List.reverse_cons, List.reverse_nil,
    List.nil_append, List.singleton_append, List.append_nil, List.find?_cons, Started.display]
  split <;> simp_all

/-! ## What a step does to it -/

/-- The user edits the invite. -/
def Screen.EditsInvite (screen : Screen C) (act : ScreenAct C) : Prop :=
  screen.stage = .currentInvite ∧ ∃ text, act = .update (.enter text)

/-- A host is started. -/
def Screen.StartsHost (screen : Screen C) (act : ScreenAct C) : Prop :=
  screen.stage = .startHost ∧ ∃ outside, act = .update (.click outside) ∧
    (screen.app.startHost outside.startManagedTor ⟨screen.connections.length⟩).2 ≠ none

/-- What a step does to the invite on display and to the one that was published. -/
inductive Screen.Redisplays (screen : Screen C) (act : ScreenAct C) (screen' : Screen C) : Prop
  | kept (hinvite : screen'.app.currentInvite = screen.app.currentInvite)
      (hpublished : screen'.published = screen.published)
  | edited (hact : screen.EditsInvite act) (hinvite : screen.app.currentInvite ≠ [])
      (hpublished : screen'.published = screen.published)
  | hosted (hact : screen.StartsHost act) (hinvite : screen'.app.currentInvite = [])
      (hpublished : screen'.published = none)
  | announced {invite} (hnone : screen.published = none)
      (hinvite : screen'.app.currentInvite = invite)
      (hpublished : screen'.published = some invite)

/-- What was emitted has been handled or is waiting. -/
theorem Started.invites_seen_append_waiting (started : Started C) :
    invites started.seen ++ invites started.waiting = invites started.thread.session.events := by
  rw [← invites_append, seen, waiting, List.take_append_drop]

theorem Started.seen_drained (started : Started C) :
    started.drained.seen = started.thread.session.events :=
  List.take_length

/-- Handling the events displays the invite among them, if there is one. -/
theorem Screen.drain_redisplays {screen : Screen C} (h : screen.Sound J hmac) (act : ScreenAct C) :
    screen.Redisplays act screen.drain := by
  rcases screen.current.eq_none_or_eq_some with hnone | ⟨started, hcurrent⟩
  · have hconnection := h.connected.2 hnone
    refine .kept ?_ (Screen.published_congr ?_)
    · simp [Screen.drain, FaunaApp.drainNetworkEvents, hconnection]
    · simp [Screen.connections, Screen.drain, hnone]
  have hconnection : screen.app.connection ≠ none := by
    rw [ne_eq, h.connected, hcurrent]
    exact Option.some_ne_none started
  have hdisplayed : screen.drain.app.currentInvite =
      (invites started.waiting).getLast?.getD screen.app.currentInvite := by
    simp only [Screen.drain, FaunaApp.drainNetworkEvents, hcurrent]
    rw [if_neg (by simpa using hconnection)]
    exact FaunaApp.foldl_handle_currentInvite _ _
  have hdrained : screen.drain.current = some started.drained := by
    simp [Screen.drain, hcurrent]
  have hsplit := started.invites_seen_append_waiting
  have hsound := h.of_current hcurrent
  -- the others are what they were
  have hothers : ({ screen.drain with current := none } : Screen C).published =
      ({ screen with current := none } : Screen C).published := rfl
  rcases hinvites : invites started.thread.session.events with _ | ⟨invite, more⟩
  · -- it has announced nothing
    rw [hinvites, List.append_eq_nil_iff] at hsplit
    refine .kept (by rw [hdisplayed, hsplit.2]; rfl) ?_
    rw [Screen.published_of_current hdrained, Screen.published_of_current hcurrent, hothers,
      started.seen_drained, hinvites, hsplit.1]
    rfl
  · have hhosts : started.start.hosts = true := by
      by_contra hjoins
      rw [hsound.invites_eq_nil (by simpa using hjoins)] at hinvites
      cases hinvites
    have hone := (hsound.invites (by rw [hinvites]; exact List.mem_cons_self)).2
    have hpublished : screen.drain.published = some invite := by
      rw [Screen.published_of_current hdrained, started.seen_drained, hone]
      exact if_pos hhosts
    have hbefore : screen.published = (invites started.seen).head? := by
      rw [Screen.published_of_current hcurrent, if_pos hhosts]
    rw [hone] at hsplit
    rcases List.append_eq_singleton_iff.1 hsplit with ⟨hseen, hwaiting⟩ | ⟨hseen, hwaiting⟩
    · refine .announced (by rw [hbefore, hseen]; rfl) ?_ hpublished
      rw [hdisplayed, hwaiting]
      rfl
    · refine .kept (by rw [hdisplayed, hwaiting]; rfl) ?_
      rw [hpublished, hbefore, hseen]
      rfl

/-- The threads of a connection change nothing that was handled. -/
theorem Started.Sound.display_moved {started : Started C} (h : started.Sound J hmac)
    {act : ThreadAct C} {thread : NetworkThread C} (hstep : started.thread.Step J act thread) :
    ({ started with thread := thread } : Started C).display = started.display := by
  obtain ⟨more, hevents, -⟩ := hstep.emits h.orderly
  have hseen : ({ started with thread := thread } : Started C).seen = started.seen := by
    unfold Started.seen
    dsimp only
    rw [hevents, List.take_append_of_le_length h.handled]
  unfold Started.display
  rw [hseen]

/-- A start button clears the display for a host and leaves it for a joiner. -/
theorem Screen.start_redisplays (screen : Screen C) {button : Button} (outside : Outside C)
    (hstage : screen.stage = button.stage) :
    screen.Redisplays (.update (.click outside)) (screen.start J hmac button outside) := by
  cases button with
  | host =>
      rcases screen.app.startHost_currentInvite outside.startManagedTor
        ⟨screen.connections.length⟩ with ⟨hnone, hinvite⟩ | ⟨start, hsome, hhosts, hinvite⟩
      · have hstart : (screen.app.start C J .host outside.startManagedTor
          ⟨screen.connections.length⟩).2 = none := hnone
        rw [Screen.start_of_none hstart]
        exact .kept hinvite rfl
      · have hstart : (screen.app.start C J .host outside.startManagedTor
          ⟨screen.connections.length⟩).2 = some start := hsome
        rw [Screen.start_of_some hstart]
        refine .hosted ⟨hstage, outside, rfl, by simp [hsome]⟩ hinvite ?_
        rw [Screen.published_of_current rfl]
        exact if_pos hhosts
  | join =>
      obtain ⟨hinvite, hjoins⟩ := screen.app.startJoin_currentInvite C J outside.startManagedTor
        ⟨screen.connections.length⟩
      rcases hstart : (screen.app.start C J .join outside.startManagedTor
        ⟨screen.connections.length⟩).2 with _ | start
      · rw [Screen.start_of_none hstart]
        exact .kept hinvite rfl
      · have hjoin : (Started.new J hmac outside start).start.hosts = false := hjoins start hstart
        rw [Screen.start_of_some hstart]
        refine .kept hinvite ?_
        rw [Screen.published_of_current rfl, hjoin, if_neg (by simp)]
        apply Screen.published_congr
        simp only [Screen.connections, Option.toList_none, List.append_nil, List.map_append]
        rw [Started.map_display Started.display_dropped]

/-- Sending the draft leaves the display alone. -/
theorem Screen.send_redisplays (screen : Screen C) (act : ScreenAct C) :
    screen.Redisplays act screen.send := by
  unfold Screen.send
  split
  · exact .kept rfl rfl
  · refine .kept (FaunaApp.sendMessage_currentInvite _ _) (Screen.published_congr ?_)
    simp only [Screen.connections, List.map_append]
    rw [Started.map_display]
    intro started
    generalize (screen.app.sendMessage (screen.current.any (·.thread.session.live))).2 = body
    cases body <;> rfl

/-- What a frame does where it stands, for the invite on display. -/
theorem Screen.react_redisplays {screen : Screen C} (h : screen.Sound J hmac)
    (gesture : Gesture C) :
    screen.Redisplays (.update gesture) (screen.react J hmac gesture) := by
  rcases screen.react_cases J hmac gesture with
    ⟨-, hreact⟩ | ⟨button, outside, hstage, rfl, hreact⟩ | hreact | hreact
  · rw [hreact]
    exact Screen.drain_redisplays h _
  · rw [hreact]
    exact screen.start_redisplays outside hstage
  · rw [hreact]
    exact screen.send_redisplays _
  · rw [hreact]
    rcases screen.app.widget_currentInvite screen.stage gesture with
      hsame | ⟨hinvite, hstage, text, rfl⟩
    · exact .kept hsame rfl
    · exact .edited ⟨hstage, text, rfl⟩ hinvite rfl

/-- Every step keeps the invite on display, or it is edited, a host is started, or a host's invite
has come. -/
theorem Screen.Step.redisplays {screen screen' : Screen C} {act : ScreenAct C}
    (h : screen.Sound J hmac) (hstep : screen.Step J hmac act screen') :
    screen.Redisplays act screen' := by
  cases hstep with
  | updated gesture =>
      -- to come to the next stage changes nothing
      cases Screen.react_redisplays h gesture with
      | kept hinvite hpublished => exact .kept hinvite hpublished
      | edited hact hinvite hpublished => exact .edited hact hinvite hpublished
      | hosted hact hinvite hpublished => exact .hosted hact hinvite hpublished
      | announced hnone hinvite hpublished => exact .announced hnone hinvite hpublished
  | @current started act thread hcurrent hthreads hstep =>
      refine .kept rfl (Screen.published_congr ?_)
      have hmoved := (h.of_current hcurrent).display_moved hstep
      simp [Screen.connections, hcurrent, hmoved]
  | @replaced before started after act thread hreplaced hthreads hstep =>
      refine .kept rfl (Screen.published_congr ?_)
      have hsound : started.Sound J hmac :=
        h.connections started (Screen.mem_connections.2 (Or.inl (by simp [hreplaced])))
      have hmoved := hsound.display_moved hstep
      simp [Screen.connections, hreplaced, hmoved]

/-! ## Every run -/

/-- There is no invite on display that no host has published. -/
theorem Screen.published_of_displayed {screen : Screen C}
    (h : (screens C J hmac).Reachable screen) (hinvite : screen.app.currentInvite ≠ []) :
    screen.published ≠ none := by
  have hinit : ∀ s, (screens C J hmac).init s → s.app.currentInvite ≠ [] → s.published ≠ none := by
    rintro s rfl hdisplayed
    exact absurd rfl hdisplayed
  have hstep : ∀ (s : Screen C) (act : ScreenAct C) (t : Screen C), (screens C J hmac).Reachable s →
      (s.app.currentInvite ≠ [] → s.published ≠ none) → (screens C J hmac).step s act t →
      t.app.currentInvite ≠ [] → t.published ≠ none := by
    intro s act t hreachable hs hst hdisplayed
    cases Screen.Step.redisplays (.of_reachable hreachable) hst with
    | kept hsame hpublished =>
        rw [hsame] at hdisplayed
        rw [hpublished]
        exact hs hdisplayed
    | edited hact hbefore hpublished =>
        rw [hpublished]
        exact hs hbefore
    | hosted hact hnone => exact absurd hnone hdisplayed
    | announced hnone hsame hpublished => simp [hpublished]
  have hshown : screen.app.currentInvite ≠ [] → screen.published ≠ none := h.induction hinit hstep
  exact hshown hinvite

/-- While nobody edits it, the invite on display is the one that was published. -/
theorem Screen.displayed_of_unedited {screen : Screen C}
    (h : ((screens C J hmac).restrict fun screen act => ¬ screen.EditsInvite act).Reachable
      screen) : screen.app.currentInvite = screen.published.getD [] := by
  let L := (screens C J hmac).restrict fun screen act => ¬ screen.EditsInvite act
  have hinit : ∀ s, L.init s → s.app.currentInvite = s.published.getD [] := by
    rintro s rfl
    rfl
  have hstep : ∀ (s : Screen C) (act : ScreenAct C) (t : Screen C), L.Reachable s →
      s.app.currentInvite = s.published.getD [] → L.step s act t →
      t.app.currentInvite = t.published.getD [] := by
    rintro s act t hreachable hs ⟨hkeep, hst⟩
    cases Screen.Step.redisplays (.of_reachable hreachable.of_restrict) hst with
    | kept hsame hpublished => rw [hsame, hpublished, hs]
    | edited hact => exact absurd hact hkeep
    | hosted hact hinvite hpublished =>
        rw [hinvite, hpublished]
        rfl
    | announced hnone hinvite hpublished =>
        rw [hinvite, hpublished]
        rfl
  exact h.induction hinit hstep

/-- A published invite that is not on display any more does not come back. -/
theorem Screen.undisplayed_of_run {screen screen' : Screen C} {acts : List (ScreenAct C)}
    (h : (screens C J hmac).Reachable screen) (hinvite : screen.app.currentInvite = [])
    (hpublished : screen.published ≠ none)
    (hrun : ((screens C J hmac).restrict fun screen act => ¬ screen.StartsHost act).Run screen acts
      screen') : screen'.app.currentInvite = [] := by
  have hstep : ∀ (s : Screen C) (act : ScreenAct C) (t : Screen C),
      (screens C J hmac).Reachable s ∧ s.app.currentInvite = [] ∧ s.published ≠ none →
      ((screens C J hmac).restrict fun screen act => ¬ screen.StartsHost act).step s act t →
      (screens C J hmac).Reachable t ∧ t.app.currentInvite = [] ∧ t.published ≠ none := by
    rintro s act t ⟨hreachable, hs, hsome⟩ ⟨hkeep, hst⟩
    refine ⟨hreachable.step hst, ?_⟩
    cases Screen.Step.redisplays (.of_reachable hreachable) hst with
    | kept hsame hsame' => exact ⟨hsame.trans hs, by rwa [hsame']⟩
    | edited hact hbefore => exact absurd hs hbefore
    | hosted hact => exact absurd hact hkeep
    | announced hnone => exact absurd hnone hsome
  exact (hrun.invariant hstep ⟨h, hinvite, hpublished⟩).2.1

/-! ## A host that is replaced -/

/-- What a thread of the current connection does, it does in the app. -/
theorem Screen.run_current {screen : Screen C} {started : Started C}
    (hcurrent : screen.current = some started) {replies attempts : ℕ} {start : Start}
    {acts : List (ThreadAct C)} {thread : NetworkThread C} (hthreads : ∀ act ∈ acts, act.ofThreads)
    (hrun : (networkThreads C J hmac replies attempts start).Run started.thread acts thread) :
    (screens C J hmac).Run screen (acts.map .current)
      { screen with current := some { started with thread := thread } } := by
  generalize hthread : started.thread = before at hrun
  induction hrun generalizing screen started with
  | nil thread =>
      obtain rfl := hthread
      rw [← hcurrent]
      exact .nil screen
  | @cons before thread after act acts hstep _ ih =>
      obtain rfl := hthread
      have hfirst : (screens C J hmac).step screen (.current act)
          { screen with current := some { started with thread := thread } } :=
        .current hcurrent (hthreads act List.mem_cons_self) hstep
      exact .cons hfirst (@ih _ { started with thread := thread } rfl
        (fun act hact => hthreads act (List.mem_cons_of_mem _ hact)) rfl)

/-- The user goes through some widgets. -/
theorem Screen.run_updates (screen : Screen C) (gestures : List (Gesture C)) :
    (screens C J hmac).Run screen (gestures.map .update)
      (gestures.foldl (Screen.update J hmac) screen) := by
  induction gestures generalizing screen with
  | nil => exact .nil screen
  | cons gesture gestures ih => exact .cons (.updated gesture) (ih _)

/-- What the outside gives to a start, in the runs below. -/
def outsideOnce : Outside Crates.transparent :=
  ⟨torStarts, transparentIdentity, transparentExchange, 0, 0⟩

/-- The user turns Tor off and starts a host, in the first frame. -/
def hostGestures : List (Gesture Crates.transparent) :=
  [.leave, .leave, .toggle] ++ List.replicate 7 .leave ++ [.click outsideOnce]

/-- The user enters an invite and joins, in a later frame. -/
def joinGestures : List (Gesture Crates.transparent) :=
  List.replicate 11 .leave ++ [.enter "x".toList, .click outsideOnce]

/-- The window, when a host has been started. -/
def hostApp : FaunaApp :=
  { FaunaApp.new with
    torEnabled := false
    connection := some ⟨0⟩
    status := "Davet olusturuluyor".toList }

/-- The window, when the invite of that host is on display. -/
def displayApp (invite : Text) (messages : List MessageLine) : FaunaApp :=
  { hostApp with
    currentInvite := invite
    messages := messages
    status := "Davet hazir, karsi tarafi bekliyor".toList }

/-- The connection of that host. -/
def hostStarted : Started Crates.transparent :=
  .new SerdeJson.records (fun _ message => message) outsideOnce hostStart

/-- These gestures start the host. -/
theorem foldl_hostGestures :
    hostGestures.foldl (Screen.update SerdeJson.records fun _ message => message) .new =
      ⟨hostApp, .currentInvite, [], some hostStarted⟩ := rfl

/-- The host emits its invite, and the next frame shows it. -/
theorem exists_displayed : ∃ invite thread messages, invite ≠ [] ∧
    (screens Crates.transparent SerdeJson.records fun _ message => message).Reachable
      ⟨displayApp invite messages, .displayName, [], some ⟨hostStart, thread, 1⟩⟩ := by
  have htrace : ∃ invite rest, invite ≠ [] ∧ Routine.Trace (preparation Crates.transparent
      SerdeJson.records (fun _ message => message) 0 0 transparentIdentity hostStart)
      [⟨.bind "127.0.0.1:0".toList, .ok ()⟩, ⟨.localAddr, .ok "127.0.0.1:5".toList⟩,
        ⟨.emit (.inviteCreated invite), ()⟩] rest :=
    ⟨_, _, List.cons_ne_nil _ _, .call (.call (.call (.nil _)))⟩
  obtain ⟨invite, rest, hinvite, htrace⟩ := htrace
  have hhosted : (screens Crates.transparent SerdeJson.records fun _ message => message).Reachable
      ⟨hostApp, .currentInvite, [], some hostStarted⟩ := by
    rw [← foldl_hostGestures]
    exact (Lts.Reachable.of_init rfl).run (Screen.run_updates _ _)
  let thread : NetworkThread Crates.transparent := { hostStarted.thread with
    preparing := rest
    session := { hostStarted.thread.session with events := [.inviteCreated invite] } }
  have hcalls := @NetworkThread.run_calls Crates.transparent SerdeJson.records
    (fun _ message => message) 0 0 hostStart hostStarted.thread rfl _ _ htrace
  have hannounced := hhosted.run (Screen.run_current rfl (by simp [ThreadAct.ofThreads]) hcalls)
  have hdrained := hannounced.run (Screen.run_updates _ (List.replicate 6 .leave))
  obtain ⟨messages, hhandle⟩ : ∃ messages,
      hostApp.handle (.inviteCreated invite) = displayApp invite messages := by
    unfold FaunaApp.handle
    dsimp only
    split <;> exact ⟨_, rfl⟩
  refine ⟨invite, thread, messages, hinvite, ?_⟩
  rw [← hhandle]
  exact hdrained

/-- The user hosts a chat, and joins another one while the invite is on display: it still is, and
leads to the chat that was replaced. -/
theorem exists_replaced_host :
    ∃ screen, (screens Crates.transparent SerdeJson.records fun _ message => message).Reachable
      screen ∧ screen.app.currentInvite ≠ [] ∧
        screen.current.map (·.start.hosts) = some false := by
  obtain ⟨invite, thread, messages, hinvite, hreachable⟩ := exists_displayed
  exact ⟨_, hreachable.run (Screen.run_updates _ joinGestures), hinvite, rfl⟩

/-! ## The result -/

/-- In every run of the app, frame by frame and call by call, whatever the user does with the
widgets and whatever the outside answers: an invite that is on display comes from the host that was
started last, replaced or not. It is the only one that this host has announced, and names the
identity that the host shows to whoever connects, its name and one address. While nobody edits it,
exactly the text that this host announced is on display, and none before it did. One that was
emptied does not come back until another host is started. -/
theorem invite_on_display {screen : Screen C} (h : (screens C J hmac).Reachable screen) :
    (screen.app.currentInvite ≠ [] → ∃ host invite, screen.lastHost = some host ∧
      invites host.seen = [invite] ∧ invites host.thread.session.events = [invite] ∧
      host.Invites J invite) ∧
    (((screens C J hmac).restrict fun screen act => ¬ screen.EditsInvite act).Reachable screen →
      screen.app.currentInvite = screen.published.getD []) ∧
    (screen.app.currentInvite = [] → screen.published ≠ none → ∀ acts screen',
      ((screens C J hmac).restrict fun screen act => ¬ screen.StartsHost act).Run screen acts
        screen' → screen'.app.currentInvite = []) := by
  refine ⟨?_, Screen.displayed_of_unedited, ?_⟩
  · intro hinvite
    obtain ⟨invite, hpublished⟩ := Option.ne_none_iff_exists'.1
      (Screen.published_of_displayed h hinvite)
    obtain ⟨host, hhost, hhead⟩ := Option.bind_eq_some_iff.1 hpublished
    have hmem : host ∈ screen.connections := by
      rw [← List.mem_reverse]
      exact List.mem_of_find?_eq_some hhost
    have hseen : invite ∈ invites host.seen := List.mem_of_head? hhead
    have hall := host.invites_seen_append_waiting
    obtain ⟨hnames, hone⟩ := ((Screen.Sound.of_reachable h).connections host hmem).invites
      (by rw [← hall]; exact List.mem_append_left _ hseen)
    refine ⟨host, invite, hhost, ?_, hone, hnames⟩
    rw [hone] at hall
    rcases List.append_eq_singleton_iff.1 hall with ⟨hnone, -⟩ | ⟨hsome, -⟩
    · rw [hnone] at hseen
      cases hseen
    · exact hsome
  · intro hinvite hpublished acts screen' hrun
    exact Screen.undisplayed_of_run h hinvite hpublished hrun

/-- A joiner has replaced the host, and the invite of the host is still on display. -/
theorem invite_on_display_replaced_host :
    ∃ (screen : Screen Crates.transparent) (host : Started Crates.transparent) (invite : Text),
      screen.current.map (·.start.hosts) = some false ∧ screen.lastHost = some host ∧
        invites host.seen = [invite] ∧ invites host.thread.session.events = [invite] ∧
        host.Invites SerdeJson.records invite := by
  obtain ⟨screen, hreachable, hinvite, hjoins⟩ := exists_replaced_host
  obtain ⟨host, invite, hdisplay⟩ := (invite_on_display hreachable).1 hinvite
  exact ⟨screen, host, invite, hjoins, hdisplay⟩

end Fauna.Desktop
