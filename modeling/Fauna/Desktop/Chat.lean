import Fauna.Desktop.World
import Fauna.Net.Delivery

/-!
# Two windows and the session between them

Two desktop apps that are joined by one session, from the button presses that started it on. The
users edit, press start buttons and send; the windows drain; the threads of the session and the
network take their steps, in any order, with any chunking and with cuts anywhere. A window that
starts another chat drops its end of the session; what it does with other sessions is left open.
`Chat.shown` is what a window has appended to its messages through the session.

* `remote_lines_are_local_lines`: what one window shows as received is what the other shows as
  sent, in order and unchanged, as far as it has come.
-/

namespace Fauna.Desktop

open Fauna.Lib Fauna.Core Fauna.Wire Fauna.Net FaunaApp

/-- Two windows, the sessions' ends, and what each window has appended through the session. -/
structure Chat (C : Crates) where
  app : Side → FaunaApp
  link : Link C
  shown : Side → List MessageLine

/-- What happens in a chat. Where a window's connection is another one, the answer of its channel
and the events that wait there come from outside. -/
inductive ChatAct (C : Crates)
  | edit (side : Side) (fields : FaunaApp)
  | startHost (side : Side) (startManagedTor : Option Text → Except Text TorRuntime)
      (handle : ConnectionHandle)
  | startJoin (side : Side) (startManagedTor : Option Text → Except Text TorRuntime)
      (handle : ConnectionHandle)
  | sendMessage (side : Side) (receiverAlive : Bool)
  | drainNetworkEvents (side : Side) (events : List NetworkEvent)
  | network (move : Move C)

variable {C : Crates}

/-- A step that is not a user's, nor the end of a process. -/
def moveOfThreads : Move C → Bool
  | .act _ label => ofThreads label
  | .sever _ _ => true

variable (J : SerdeJson) (handle : Side → ConnectionHandle)

/-- The connection of a window is the session of the chat. -/
def Chat.joined (chat : Chat C) (side : Side) : Prop :=
  (chat.app side).connection = some (handle side)

instance (chat : Chat C) (side : Side) : Decidable (chat.joined handle side) :=
  inferInstanceAs (Decidable (_ = _))

/-- A window that has done something with another connection, or with none. -/
def Chat.apart (chat : Chat C) (side : Side) (app : FaunaApp) : Chat C :=
  { chat with app := Function.update chat.app side app }

/-- A window that has done something with the session: what it appended is shown through it. -/
def Chat.through (chat : Chat C) (side : Side) (app : FaunaApp) (session : Session C) : Chat C where
  app := Function.update chat.app side app
  link := chat.link.put side session
  shown := Function.update chat.shown side
    (chat.shown side ++ app.messages.drop (chat.app side).messages.length)

/-- A window whose start button was pressed: when its connection was replaced, its handle of the
session is dropped. -/
def Chat.restarted (chat : Chat C) (side : Side) (app : FaunaApp) : Chat C :=
  if chat.joined handle side ∧ app.connection ≠ some (handle side) then
    { chat.apart side app with
      link := chat.link.put side { chat.link.session side with inputOpen := false } }
  else chat.apart side app

/-- One step of a chat. A start gets a handle of its own. -/
def Chat.step (chat : Chat C) : ChatAct C → Option (Chat C)
  | .edit side fields => some (chat.apart side ((chat.app side).edit fields))
  | .startHost side startManagedTor next =>
      if next = handle side then none
      else some (chat.restarted handle side ((chat.app side).startHost startManagedTor next).1)
  | .startJoin side startManagedTor next =>
      if next = handle side then none
      else some (chat.restarted handle side ((chat.app side).startJoin C J startManagedTor next).1)
  | .sendMessage side receiverAlive =>
      if chat.joined handle side then
        let session := chat.link.session side
        let result := (chat.app side).sendMessage session.live
        some (chat.through side result.1 (submit session result.2))
      else some (chat.apart side ((chat.app side).sendMessage receiverAlive).1)
  | .drainNetworkEvents side events =>
      if chat.joined handle side then
        let session := chat.link.session side
        some (chat.through side ((chat.app side).drainNetworkEvents session.events)
          { session with events := [] })
      else some (chat.apart side ((chat.app side).drainNetworkEvents events))
  | .network move =>
      if moveOfThreads move then
        (chat.link.step J move).map fun link => { chat with link := link }
      else none

/-- A chat begins when both windows have been pressed: each holds its handle of a session that is
about to connect. What else the windows hold is what they did before. -/
structure Chat.Begins (chat : Chat C) : Prop where
  joined : ∀ side, chat.joined handle side
  session : ∃ config : Side → Config C, (∀ side, (config side).program = .desktop) ∧
    chat.link = Link.new config .preparing
  shown : ∀ side, chat.shown side = []

variable (C) in
/-- The chats of two desktop apps. -/
def chats : Lts (Chat C) (ChatAct C) := .ofStep (Chat.Begins handle) (Chat.step J handle)

variable {J handle}

/-! ## Where the threads go -/

/-- A step that a thread takes by itself is no user's. -/
theorem moveOfThreads_of_internal {move : Move C} (h : move.internal) :
    moveOfThreads move = true := by
  cases move with
  | sever side count => cases h
  | act side label =>
      cases label with
      | submit | closeInput | exit | failInput => cases h
      | _ => rfl

/-- Where the threads of a session go, the chat goes, and nothing is shown meanwhile. -/
theorem Chat.run_network {config : Side → Config C} {main : Main C} {link link' : Link C}
    {moves : List (Move C)} (hinternal : ∀ move ∈ moves, move.internal)
    (hrun : (network J config main).Run link moves link') (chat : Chat C) :
    (chats C J handle).Run { chat with link := link } (moves.map .network)
      { chat with link := link' } := by
  induction hrun with
  | nil link => exact .nil _
  | @cons link middle link' move moves hstep _ ih =>
      obtain ⟨hmove, hinternal⟩ := List.forall_mem_cons.1 hinternal
      have hlink : link.step J move = some middle := hstep
      refine .cons ?_ (ih hinternal)
      show (if moveOfThreads move then _ else none) = _
      rw [if_pos (moveOfThreads_of_internal hmove), hlink]
      rfl

/-! ## What the threads do to what is typed and heard -/

/-- Every body that a step reports waits as an event. -/
theorem Change.reports {s s' : Session C} {l : Label C} {bytes : Bytes}
    (h : Net.Change J s l s' bytes) : ∃ bodies, s'.reported = s.reported ++ bodies ∧
      incomings s'.events = incomings s.events ++ bodies := by
  have hquiet {t : Session C} (hreported : t.reported = s.reported)
      (hevents : incomings t.events = incomings s.events) : ∃ bodies,
      t.reported = s.reported ++ bodies ∧ incomings t.events = incomings s.events ++ bodies :=
    ⟨[], by rw [hreported, List.append_nil], by rw [hevents, List.append_nil]⟩
  have hmoved {t : Session C} (ht : s.Moved t) : ∃ bodies,
      t.reported = s.reported ++ bodies ∧ incomings t.events = incomings s.events ++ bodies := by
    obtain ⟨main, receiver, queue, rfl⟩ := ht
    exact hquiet rfl rfl
  have htaken {t : Session C} {line rest : Bytes} (ht : Taken J s line rest t) :
      ∃ bodies, t.reported = s.reported ++ bodies ∧
        incomings t.events = incomings s.events ++ bodies := by
    cases ht with
    | accepted => exact hquiet rfl (by simp [Session.accept, incomings])
    | refused => exact hmoved (s.fail_moved _)
    | @reported key _ body => exact ⟨[body], rfl, by simp [Session.report, incomings]⟩
    | broken => exact hquiet rfl rfl
  cases h with
  | announced hmain hevent =>
      refine hquiet rfl ?_
      rcases hevent with ⟨text, rfl⟩ | ⟨text, rfl⟩ <;> simp [incomings]
  | @concluded failure =>
      refine hquiet rfl ?_
      cases s.config.program <;> cases failure <;> simp [mainEvents, failureEvents, incomings]
  | @stopped fault =>
      refine hquiet rfl ?_
      cases s.config.program <;> cases fault <;> simp [receiverEvents, endEvents, incomings]
  | unsealed => exact hmoved (s.fail_moved _)
  | filled => exact hmoved (s.refill_moved _)
  | unread => exact hmoved (s.readFails_moved _)
  | read hreading | readLast hreading => exact htaken (.of_onLine hreading _ _)
  | _ => exact hquiet rfl rfl

/-- A step of the threads types nothing, and every body it reports waits as an event. -/
theorem Change.heard {s s' : Session C} {l : Label C} {bytes : Bytes}
    (h : Net.Change J s l s' bytes) (hthreads : ofThreads l = true) :
    s'.submitted = s.submitted ∧ ∃ bodies, s'.reported = s.reported ++ bodies ∧
      incomings s'.events = incomings s.events ++ bodies := by
  refine ⟨h.submitted_eq ?_, Change.reports h⟩
  rintro line rfl
  cases hthreads

/-- Threads leave what was submitted, and emit each body as they report it. -/
theorem Link.heard {link link' : Link C} {move : Move C} (hstep : link.step J move = some link')
    (hthreads : moveOfThreads move = true) (side : Side) :
    (link'.session side).config = (link.session side).config ∧
    (link'.session side).submitted = (link.session side).submitted ∧
      ∃ bodies, (link'.session side).reported = (link.session side).reported ++ bodies ∧
        incomings (link'.session side).events = incomings (link.session side).events ++ bodies := by
  rcases Link.session_step hstep side with hsame | ⟨label, bytes, rfl, hchange⟩
  · rw [hsame]
    exact ⟨rfl, rfl, [], by simp, by simp⟩
  · exact ⟨hchange.writes.1, Change.heard hchange hthreads⟩

/-- What `send_message` appends, and what it queues. -/
theorem sendMessage_lines (receiverAlive : Bool) (app : FaunaApp) :
    ∃ lines, (app.sendMessage receiverAlive).1.messages = app.messages ++ lines ∧
      linesOf .ofRemote lines = [] ∧
      linesOf .ofLocal lines = (app.sendMessage receiverAlive).2.toList ∧
      ((app.sendMessage receiverAlive).2 ≠ none → receiverAlive = true) := by
  rcases app.sendMessage_cases receiverAlive with
    ⟨-, hsend⟩ | ⟨-, -, report, hsend⟩ | ⟨-, -, halive, hsend⟩
  · rw [hsend]
    exact ⟨[], (List.append_nil _).symm, rfl, rfl, fun h => absurd rfl h⟩
  · rw [hsend]
    exact ⟨[_], rfl, rfl, rfl, fun h => absurd rfl h⟩
  · rw [hsend]
    exact ⟨[_], rfl, rfl, rfl, fun _ => halive⟩

/-! ## The invariant -/

variable (J) in
/-- How what the windows have appended fits to what the session's ends have taken and reported. -/
structure Chat.Sound (chat : Chat C) : Prop where
  link : chat.link.Sound J
  desktop : ∀ side, (chat.link.session side).config.program = .desktop
  /-- The lines of the user are the lines that were queued. -/
  typed : ∀ side, linesOf .ofLocal (chat.shown side) = (chat.link.session side).submitted
  /-- The lines of the peer and the bodies still waiting are the bodies reported. -/
  heard : ∀ side, linesOf .ofRemote (chat.shown side) ++
    incomings (chat.link.session side).events = (chat.link.session side).reported

/-- A chat that begins has shown and queued nothing. -/
theorem Chat.Begins.sound {chat : Chat C} (h : chat.Begins handle) : chat.Sound J := by
  obtain ⟨config, hdesktop, hlink⟩ := h.session
  refine ⟨?_, ?_, ?_, ?_⟩
  · rw [hlink]
    exact .new config (Or.inl rfl)
  · intro side
    rw [hlink]
    exact hdesktop side
  · intro side
    rw [hlink, h.shown]
    rfl
  · intro side
    rw [hlink, h.shown]
    rfl

/-- A window does something with the session. -/
theorem Chat.Sound.through {chat : Chat C} (h : chat.Sound J) (side : Side) {app : FaunaApp}
    {session : Session C} {lines : List MessageLine}
    (hmessages : app.messages = (chat.app side).messages ++ lines)
    (hlink : (chat.link.put side session).Sound J)
    (hconfig : session.config = (chat.link.session side).config)
    (htyped : session.submitted = (chat.link.session side).submitted ++ linesOf .ofLocal lines)
    (hreported : session.reported = (chat.link.session side).reported)
    (hheard : linesOf .ofRemote lines ++ incomings session.events =
      incomings (chat.link.session side).events) :
    (chat.through side app session).Sound J := by
  have hshown : (chat.through side app session).shown side = chat.shown side ++ lines := by
    simp [Chat.through, hmessages]
  have hother : (chat.through side app session).shown side.other = chat.shown side.other := by
    simp [Chat.through]
  refine ⟨hlink, ?_, ?_, ?_⟩
  · intro t
    rcases side.eq_or_eq_other t with rfl | rfl
    · simp only [Chat.through, Link.put_session_self, hconfig, h.desktop]
    · simp only [Chat.through, Link.put_session_other, h.desktop]
  · intro t
    rcases side.eq_or_eq_other t with rfl | rfl
    · rw [hshown, linesOf_append, h.typed]
      simp only [Chat.through, Link.put_session_self, htyped]
    · rw [hother, h.typed]
      simp only [Chat.through, Link.put_session_other]
  · intro t
    rcases side.eq_or_eq_other t with rfl | rfl
    · rw [hshown, linesOf_append]
      simp only [Chat.through, Link.put_session_self, hreported]
      rw [List.append_assoc, hheard, h.heard]
    · rw [hother]
      simp only [Chat.through, Link.put_session_other, h.heard]

/-- A window does something else. -/
theorem Chat.Sound.apart {chat : Chat C} (h : chat.Sound J) (side : Side) (app : FaunaApp) :
    (chat.apart side app).Sound J :=
  ⟨h.link, h.desktop, h.typed, h.heard⟩

/-- The window drops its handle of the session, or keeps it. -/
theorem Chat.Sound.restarted {chat : Chat C} (h : chat.Sound J) (side : Side) (app : FaunaApp) :
    (chat.restarted handle side app).Sound J := by
  unfold Chat.restarted
  split
  · have hclosed : (chat.link.put side
        { chat.link.session side with inputOpen := false }).Sound J :=
      h.link.put side ((h.link.well side).stop rfl rfl rfl rfl rfl rfl (Or.inl ⟨rfl, rfl⟩)
        (Or.inl rfl)) rfl rfl rfl rfl rfl rfl
    refine ⟨hclosed, ?_, ?_, ?_⟩
    · intro t
      rcases side.eq_or_eq_other t with rfl | rfl
      · simpa using h.desktop t
      · simpa using h.desktop _
    · intro t
      rcases side.eq_or_eq_other t with rfl | rfl
      · simpa [Chat.apart] using h.typed t
      · simpa [Chat.apart] using h.typed _
    · intro t
      rcases side.eq_or_eq_other t with rfl | rfl
      · simpa [Chat.apart] using h.heard t
      · simpa [Chat.apart] using h.heard _
  · exact h.apart side app

/-- A line sent is shown as it is queued. -/
theorem Chat.Sound.sendMessage {chat : Chat C} (h : chat.Sound J) (side : Side) :
    (chat.through side ((chat.app side).sendMessage (chat.link.session side).live).1
      (submit (chat.link.session side)
        ((chat.app side).sendMessage (chat.link.session side).live).2)).Sound J := by
  obtain ⟨lines, hmessages, hremote, hlocal, halive⟩ :=
    sendMessage_lines (chat.link.session side).live (chat.app side)
  cases hqueued : ((chat.app side).sendMessage (chat.link.session side).live).2 with
  | none =>
      rw [hqueued] at hlocal
      exact h.through side hmessages
        (h.link.put side (h.link.well side) rfl rfl rfl rfl rfl rfl) rfl
        (by rw [hlocal]; exact (List.append_nil _).symm) rfl (by rw [hremote]; rfl)
  | some body =>
      rw [hqueued] at hlocal
      have hlive := halive (by rw [hqueued]; exact nofun)
      exact h.through side hmessages
        (h.link.put side ((h.link.well side).submit hlive body) rfl rfl rfl rfl rfl rfl) rfl
        (by rw [hlocal]; rfl) rfl (by rw [hremote]; rfl)

/-- A drained body is shown as it leaves the channel. -/
theorem Chat.Sound.drain {chat : Chat C} (h : chat.Sound J) {side : Side}
    (hjoined : chat.joined handle side) :
    (chat.through side ((chat.app side).drainNetworkEvents (chat.link.session side).events)
      { chat.link.session side with events := [] }).Sound J := by
  have hconnection : (chat.app side).connection ≠ none := by
    rw [hjoined]
    exact nofun
  obtain ⟨lines, hmessages, hremote, hlocal⟩ :=
    drainNetworkEvents_messages hconnection (chat.link.session side).events
  have hdrained : ({ chat.link.session side with events := [] } : Session C).Well :=
    (h.link.well side).stop rfl rfl rfl rfl rfl rfl (Or.inl ⟨rfl, rfl⟩) (Or.inl rfl)
  exact h.through side hmessages (h.link.put side hdrained rfl rfl rfl rfl rfl rfl) rfl
    (by rw [hlocal]; exact (List.append_nil _).symm) rfl (by rw [hremote]; exact List.append_nil _)

/-- Every step keeps the chat sound. -/
theorem Chat.Sound.step {chat chat' : Chat C} {act : ChatAct C} (h : chat.Sound J)
    (hstep : chat.step J handle act = some chat') : chat'.Sound J := by
  cases act with
  | edit side fields =>
      obtain rfl := Option.some.inj hstep
      exact h.apart side _
  | startHost side startManagedTor next | startJoin side startManagedTor next =>
      simp only [Chat.step, Option.ite_none_left_eq_some] at hstep
      obtain ⟨-, hstep⟩ := hstep
      obtain rfl := Option.some.inj hstep
      exact h.restarted side _
  | sendMessage side receiverAlive =>
      simp only [Chat.step] at hstep
      split_ifs at hstep with hjoined
      · obtain rfl := Option.some.inj hstep
        exact h.sendMessage side
      · obtain rfl := Option.some.inj hstep
        exact h.apart side _
  | drainNetworkEvents side events =>
      simp only [Chat.step] at hstep
      split_ifs at hstep with hjoined
      · obtain rfl := Option.some.inj hstep
        exact h.drain hjoined
      · obtain rfl := Option.some.inj hstep
        exact h.apart side _
  | network move =>
      simp only [Chat.step, Option.ite_none_right_eq_some] at hstep
      obtain ⟨hthreads, hstep⟩ := hstep
      obtain ⟨link, hlink, rfl⟩ := Option.map_eq_some_iff.1 hstep
      refine ⟨h.link.step hlink, ?_, ?_, ?_⟩
      · intro side
        rw [(Link.heard hlink hthreads side).1]
        exact h.desktop side
      · intro side
        rw [(Link.heard hlink hthreads side).2.1]
        exact h.typed side
      · intro side
        obtain ⟨-, -, bodies, hreported, hevents⟩ := Link.heard hlink hthreads side
        rw [hreported, hevents, ← List.append_assoc, h.heard]

/-- A window queues every line it shows. -/
theorem Chat.Sound.kept {chat : Chat C} (h : chat.Sound J) (side : Side) (lines : List Text) :
    (chat.link.session side).kept lines = lines := by
  simp [Session.kept, skips, h.desktop]

/-- Every reachable chat is sound. -/
theorem Chat.Sound.of_reachable {chat : Chat C} (h : (chats C J handle).Reachable chat) :
    chat.Sound J := by
  refine h.invariant ?_ ?_
  · intro chat hbegins
    exact Chat.Begins.sound hbegins
  · intro chat act chat' hsound hstep
    exact hsound.step hstep

/-- At each moment the lines that one window has appended for its peer through the session are a
prefix of the lines that the other window has appended for its user, character for character and
in order. -/
theorem remote_lines_are_local_lines {chat : Chat C} (h : (chats C J handle).Reachable chat)
    (side : Side) :
    linesOf .ofRemote (chat.shown side.other) <+: linesOf .ofLocal (chat.shown side) := by
  have hsound := Chat.Sound.of_reachable h
  calc linesOf .ofRemote (chat.shown side.other)
      <+: (chat.link.session side.other).reported := ⟨_, hsound.heard side.other⟩
    _ <+: (chat.link.session side).sent.map Prod.fst := (hsound.link.flow side).reported
    _ <+: (chat.link.session side).kept (chat.link.session side).submitted :=
        (hsound.link.well side).typed
    _ = linesOf .ofLocal (chat.shown side) := by rw [hsound.kept, hsound.typed]

/-- Two windows that have just been pressed, with a draft in each. -/
def pressedChat : Chat Crates.transparent where
  app _ := { FaunaApp.new with connection := some ⟨0⟩, draftMessage := "a".toList }
  link := Link.new (transparentPair (fun _ => .desktop) fun _ => "Kivan".toList) .preparing
  shown _ := []

/-- The chat after the host has sent its draft, before anybody is connected. -/
def typedChat : Chat Crates.transparent :=
  pressedChat.through .host ((pressedChat.app .host).sendMessage true).1
    (submit (pressedChat.link.session .host) (some "a".toList))

/-- The host's user has sent a line, and then both ends got their socket. -/
def connectedChat : Chat Crates.transparent :=
  { typedChat with
    link := (typedChat.link.after .host .connect
      { typedChat.link.session .host with main := .starting } []).after .joiner .connect
      { typedChat.link.session .joiner with main := .starting } [] }

/-- From two pressed windows to a line sent and both ends connected. -/
theorem connectedChat_run : pressedChat.Begins (fun _ => ⟨0⟩) ∧
    (chats _ SerdeJson.records fun _ => ⟨0⟩).Run pressedChat [.sendMessage .host true,
      .network (.act .host .connect), .network (.act .joiner .connect)] connectedChat :=
  ⟨⟨fun _ => rfl, ⟨_, fun _ => rfl, rfl⟩, fun _ => rfl⟩, .cons rfl (.cons rfl (.single rfl))⟩

/-- Its link is one that an orderly run has come to, but for the draft that was queued. -/
theorem connectedChat_steady : connectedChat.link.Steady SerdeJson.records
    (transparentPair (fun _ => .desktop) fun _ => "Kivan".toList) := by
  have hsound : typedChat.Sound SerdeJson.records := connectedChat_run.1.sound.sendMessage .host
  have htyped : typedChat.link.Steady SerdeJson.records
      (transparentPair (fun _ => .desktop) fun _ => "Kivan".toList) :=
    (Link.Steady.new _).put .host hsound.link rfl rfl rfl rfl rfl rfl rfl nofun
  have hhost := htyped.step (transparentPair_invited _ _) seals_transparent
    (show (Move.act Side.host .connect).orderly from trivial) rfl
  exact hhost.step (transparentPair_invited _ _) seals_transparent
    (show (Move.act Side.joiner .connect).orderly from trivial) rfl

/-- Once the threads of that chat have come to rest, the joiner's window shows the line. -/
theorem remote_lines_are_local_lines_received :
    ∃ chat : Chat Crates.transparent, linesOf .ofRemote (chat.shown .joiner) = ["a".toList] ∧
      linesOf .ofRemote (chat.shown .joiner) <+: linesOf .ofLocal (chat.shown .host) := by
  have hconnected : ∀ side, (connectedChat.link.session side).main ≠ .preparing := by
    rintro (side | side) <;> simp [connectedChat, Link.after]
  obtain ⟨moves, link, hinternal, hrun, hquiet⟩ := Lts.exists_quiescent
    (internal_acc (J := SerdeJson.records) _ .preparing connectedChat.link)
  have hreported : (link.session .joiner).reported = ["a".toList] :=
    (connectedChat_steady.delivered (transparentPair_invited _ _) seals_transparent hconnected
      hinternal hrun hquiet .host).2
  obtain ⟨hbegins, hconnects⟩ := connectedChat_run
  have hrested : (chats _ SerdeJson.records fun _ => ⟨0⟩).Reachable
      { connectedChat with link := link } :=
    ⟨_, _, hbegins, hconnects.append (Chat.run_network hinternal hrun connectedChat)⟩
  -- the next frame takes what was reported
  obtain ⟨chat, hdrain⟩ : ∃ chat, Chat.step SerdeJson.records (fun _ => ⟨0⟩)
      { connectedChat with link := link } (.drainNetworkEvents .joiner []) = some chat := ⟨_, rfl⟩
  have hchat : (chats _ SerdeJson.records fun _ => ⟨0⟩).Reachable chat := hrested.step hdrain
  refine ⟨chat, ?_, remote_lines_are_local_lines hchat .host⟩
  have hheard := (Chat.Sound.of_reachable hchat).heard .joiner
  obtain rfl := Option.some.inj hdrain
  exact (List.append_nil _).symm.trans (hheard.trans hreported)

end Fauna.Desktop
