import Fauna.Dial.Connect
import Fauna.Dial.Host
import Fauna.Net.Flow

/-!
# The threads of one connection

What `start_host_thread` and `start_join_thread` spawn, from the arguments they are given to the
end: `host_network` or `join_network` up to the socket, a routine that calls the outside, and then
the session over the socket with its two threads. What the reads of the socket have returned, the
lines that `receive_loop` has made of it and what this has returned are kept for the record.

* `preparation_emits`: before there is a socket, a host emits its status and at most one invite, and
  a joiner its status.
* `Effect.of_change`: what a step of the session does to the events.
-/

namespace Fauna.Desktop

open Fauna.Lib Fauna.Core Fauna.Wire Fauna.Net Fauna.Dial Fauna.Tor

variable {C : Crates}

/-! ## The code -/

/-- The display name of a start. -/
def Start.name : Start → Text
  | .host name _ _ _ | .join name _ _ => name

/-- The start of a host. -/
def Start.hosts : Start → Bool
  | .host _ _ _ _ => true
  | .join _ _ _ => false

/-- `host_network` and `join_network` up to the handshake, with the key that `run_session` is given
to expect. -/
def preparation (C : Crates) (J : SerdeJson) (hmac : Bytes → Bytes → Bytes) (replies attempts : ℕ)
    (identity : DeviceIdentity C.primitives) : Start → Action (Option Text)
  | .host name bind publicAddr torConfig => do
      hostNetwork C J hmac replies identity name bind publicAddr torConfig
      return none
  | .join _ invite torSocksAddr => do
      let expected ← joinNetwork C J attempts invite torSocksAddr
      return some expected

/-- The threads of a connection, with what they have read. -/
structure NetworkThread (C : Crates) where
  /-- What `host_network` or `join_network` has yet to do, while there is no socket. -/
  preparing : Action (Option Text)
  session : Session C
  /-- What the reads of the socket have returned. -/
  received : Bytes
  /-- The lines that `receive_loop` has read. -/
  lines : List Bytes
  /-- What `receive_loop` has returned. -/
  returned : Option Fault

/-- The thread that a start spawns; `exchange` is the keypair it will generate. -/
def NetworkThread.new (J : SerdeJson) (hmac : Bytes → Bytes → Bytes) (replies attempts : ℕ)
    (identity : DeviceIdentity C.primitives) (exchange : ExchangeKeypair C.primitives)
    (start : Start) : NetworkThread C where
  preparing := preparation C J hmac replies attempts identity start
  session := .new ⟨.desktop, identity, start.name, none, exchange⟩ .preparing
  received := []
  lines := []
  returned := none

/-- The events that a call emits. -/
def eventsOf : Call → List NetworkEvent
  | .emit event => [event]
  | _ => []

/-- `run_session` is called with the key to expect. -/
def begin (session : Session C) (expected : Option Text) : Session C :=
  { session with
    config := { session.config with expected := expected }
    main := .starting }

/-- The lines that a step of `receive_loop` has read; the end of the stream is none. -/
def linesRead (session : Session C) : Label C → List Bytes
  | .readLine =>
      match session.receiver.buffer.bind takeLine with
      | some (line, _) => [line]
      | none => []
  | .readEnd =>
      match session.receiver.buffer with
      | none | some [] => []
      | some line => [line]
  | _ => []

/-- What `receive_loop` has returned, after a step of its thread. -/
def loopResult (returned : Option Fault) : Receiver C → Receiver C → Option Fault
  | .looping _ _, .returned fault => some fault
  | _, _ => returned

@[simp] theorem loopResult_self (returned : Option Fault) (receiver : Receiver C) :
    loopResult returned receiver receiver = returned := by
  cases receiver <;> rfl

/-- The labels that stand for `host_network` and `join_network`. -/
def ofPreparation : Label C → Bool
  | .announce _ | .connect | .failConnect _ => true
  | _ => false

/-- A step of a connection. -/
inductive ThreadAct (C : Crates)
  /-- `host_network` or `join_network` makes a call, which is answered. -/
  | call (answered : Routine.Answered Call.Answer)
  /-- It is through: `run_session` is called, or the error is returned. -/
  | prepared
  /-- A step of the session, of the user or of the network. -/
  | network (label : Label C)

/-- The steps of the threads, in any order. -/
inductive NetworkThread.Step (J : SerdeJson) (thread : NetworkThread C) :
    ThreadAct C → NetworkThread C → Prop
  | called {answered rest} (hmain : thread.session.main = .preparing)
      (hcall : Routine.Step thread.preparing answered rest) :
      Step J thread (.call answered) { thread with
        preparing := rest
        session := { thread.session with
          events := thread.session.events ++ eventsOf answered.1 } }
  | begun {expected} (hmain : thread.session.main = .preparing)
      (hdone : thread.preparing = .done expected) :
      Step J thread .prepared { thread with session := begin thread.session expected }
  | failed {fault} (hmain : thread.session.main = .preparing)
      (hfail : thread.preparing = .fail fault) :
      Step J thread .prepared { thread with session := thread.session.fail fault }
  | moved {label session bytes} (hlabel : ofPreparation label = false)
      (hchange : thread.session.react J label = some (session, bytes)) :
      Step J thread (.network label) { thread with
        session := session
        received := thread.received ++ label.taken
        lines := thread.lines ++ linesRead thread.session label
        returned := loopResult thread.returned thread.session.receiver session.receiver }

/-- The runs of the threads that a start spawns, whatever keys they generate. -/
def networkThreads (C : Crates) (J : SerdeJson) (hmac : Bytes → Bytes → Bytes)
    (replies attempts : ℕ) (start : Start) : Lts (NetworkThread C) (ThreadAct C) where
  init thread := ∃ identity exchange,
    thread = .new J hmac replies attempts identity exchange start
  step thread act thread' := thread.Step J act thread'

/-! ## What is emitted before there is a socket -/

/-- A call that emits nothing but a status. -/
def EmitsStatus (c : Call) : Prop := ∀ event ∈ eventsOf c, event.kind = .status

/-- Calls on the control port emit nothing. -/
theorem emitsStatus_of_throughControl {c : Call} (h : ThroughControl c) : EmitsStatus c := by
  cases c with
  | emit event => exact absurd h id
  | _ =>
      intro event hevent
      cases hevent

/-- Nor do calls on the SOCKS proxy. -/
theorem emitsStatus_of_throughProxy {c : Call} (h : ThroughProxy c) : EmitsStatus c := by
  cases c with
  | emit event => exact absurd h id
  | _ =>
      intro event hevent
      cases hevent

/-- A status is a status. -/
theorem emitsStatus_status (text : Text) : EmitsStatus (.emit (.status text)) := by
  intro event hevent
  rw [List.mem_singleton.1 hevent]
  rfl

/-- Publishing calls the control port and nothing else. -/
theorem all_publishOnionService (hmac : Bytes → Bytes → Bytes) (replies : ℕ) (controlAddr : Text)
    (servicePort : ℕ) (localAddr : Text) :
    (publishOnionService hmac replies controlAddr servicePort localAddr).All ThroughControl := by
  apply (TorControl.all_connect controlAddr).bind
  intro _
  apply (TorControl.all_authenticate hmac replies).bind
  intro _
  apply (TorControl.all_command replies _).bind
  intro lines
  split <;> trivial

/-- Finding the address to advertise emits statuses only. -/
theorem all_advertisedAddr (hmac : Bytes → Bytes → Bytes) (replies : ℕ)
    (publicAddr localAddr : Text)
    (torConfig : Option TorConfig) :
    (advertisedAddr hmac replies publicAddr localAddr torConfig).All EmitsStatus := by
  cases torConfig with
  | none => trivial
  | some config =>
      refine ⟨emitsStatus_status _, fun _ => ?_⟩
      apply ((all_publishOnionService hmac replies _ _ _).mono fun _ =>
        emitsStatus_of_throughControl).bind
      intro serviceId
      refine ⟨emitsStatus_status _, fun _ => ⟨?_, fun _ => trivial⟩⟩
      exact nofun

/-- Joining emits statuses only, until there is a socket. -/
theorem all_joinNetwork (J : SerdeJson) (attempts : ℕ) (inviteText torSocksAddr : Text) :
    (joinNetwork C J attempts inviteText torSocksAddr).All EmitsStatus := by
  have hdecode (unreadable : Text) :
      (decodeInvite C J unreadable inviteText).All EmitsStatus := by
    unfold decodeInvite
    split <;> trivial
  have hfirst (missing : Text) (invite : Invite Text) :
      (firstAddress missing invite).All EmitsStatus := by
    unfold firstAddress
    split <;> trivial
  have hdial (address : Text) :
      (connectToInviteAddress attempts address torSocksAddr true).All EmitsStatus := by
    rcases connectToInviteAddress_eq attempts address torSocksAddr true with
      ⟨target, -, heq⟩ | ⟨endpoint, -, -, -, heq⟩ | ⟨-, fault, heq⟩
    · rw [heq]
      apply (Action.all_emit (emitsStatus_status _) true).bind
      intro _
      exact all_connectViaSocks5WithRetry _ _ _ (fun _ => emitsStatus_of_throughProxy) nofun
        (fun _ _ => Action.all_emit (emitsStatus_status _) true) attempts 1
    · rw [heq]
      exact ⟨nofun, fun answer => Action.all_orContext _ answer⟩
    · rw [heq]
      trivial
  apply (hdecode _).bind
  intro invite
  apply (hfirst _ invite).bind
  intro address
  apply (hdial address).bind
  intro _
  refine ⟨nofun, fun answer => ?_⟩
  exact (Action.all_orContext _ answer).bind fun _ => trivial

/-- What may be emitted after these events, while there is no socket. -/
def Preparatory (host : Bool) (events : List NetworkEvent) : NetworkEvent → Prop
  | .status _ => True
  | .inviteCreated _ => host = true ∧ ∀ event ∈ events, event.kind ≠ .inviteCreated
  | _ => False

/-- A status may come at any time. -/
theorem Preparatory.of_status {host : Bool} {events : List NetworkEvent} {event : NetworkEvent}
    (h : event.kind = .status) : Preparatory host events event := by
  cases event with
  | status text => trivial
  | _ => cases h

/-- The outside, for the events that it is handed. -/
def eventLog : Lts (List NetworkEvent) (Routine.Answered Call.Answer) where
  init events := events = []
  step events answered events' := events' = events ++ eventsOf answered.1

/-- Whatever a routine emits is preparatory. -/
abbrev Prepares {α : Type} (host : Bool) (action : Action α) (events : List NetworkEvent) : Prop :=
  action.Holds eventLog (fun events c => ∀ event ∈ eventsOf c, Preparatory host events event)
    (fun _ _ => True) events

/-- An action that emits statuses only is preparatory. -/
theorem Prepares.of_all {α : Type} {host : Bool} {action : Action α} (h : action.All EmitsStatus)
    (events : List NetworkEvent) : Prepares host action events :=
  h.holds (fun _ _ _ hc event hevent => .of_status (hc event hevent)) (fun _ _ _ _ _ _ => trivial)
    trivial

/-- `host_network` emits no invite before the one that it makes of its address. -/
theorem hostNetwork_emits (J : SerdeJson) (hmac : Bytes → Bytes → Bytes) (replies : ℕ)
    (identity : DeviceIdentity C.primitives) (name bind publicAddr : Text)
    (torConfig : Option TorConfig) :
    Prepares true (hostNetwork C J hmac replies identity name bind publicAddr torConfig) [] := by
  refine ⟨nofun, ?_⟩
  rintro (message | _) _ rfl
  · trivial
  refine ⟨nofun, ?_⟩
  rintro (message | localAddr) _ rfl
  · trivial
  have hkeeps : ∀ (events : List NetworkEvent) (answered : Routine.Answered Call.Answer)
      (events' : List NetworkEvent), (∀ event ∈ events, event.kind ≠ .inviteCreated) →
      EmitsStatus answered.1 → eventLog.step events answered events' →
      ∀ event ∈ events', event.kind ≠ .inviteCreated := by
    rintro events answered _ hevents hstatus rfl event hevent
    rcases List.mem_append.1 hevent with hevent | hevent
    · exact hevents event hevent
    · rw [hstatus event hevent]
      exact nofun
  show Prepares true (advertisedAddr hmac replies publicAddr localAddr torConfig >>= _) []
  apply (all_advertisedAddr hmac replies publicAddr localAddr torConfig).holds_bind
    (fun _ _ _ hc event hevent => .of_status (hc event hevent)) hkeeps (by simp) (fun _ _ => trivial)
  intro advertised events hevents
  have hencode : Routine.All EmitsStatus (Routine.ofExcept
      (liftCore (inviteEncode C J ((Invite.new identity name).withAddress advertised))) :
        Action Text) := .ofExcept _
  apply hencode.holds_bind (fun _ _ _ hc event hevent => .of_status (hc event hevent)) hkeeps hevents
    (fun _ _ => trivial)
  intro invite events' hevents'
  refine ⟨?_, fun _ events'' _ => Prepares.of_all (all_awaitPeer nofun nofun) events''⟩
  intro event hevent
  rw [List.mem_singleton.1 hevent]
  exact ⟨rfl, hevents'⟩

/-- Before there is a socket, a host emits its status and at most one invite, and a joiner its
status. -/
theorem preparation_emits (J : SerdeJson) (hmac : Bytes → Bytes → Bytes) (replies attempts : ℕ)
    (identity : DeviceIdentity C.primitives) (start : Start) :
    Prepares start.hosts (preparation C J hmac replies attempts identity start) [] := by
  cases start with
  | join name invite torSocksAddr =>
      apply Prepares.of_all
      apply (all_joinNetwork J attempts invite torSocksAddr).bind
      intro expected
      trivial
  | host name bind publicAddr torConfig =>
      apply Routine.holds_bind.2
      apply (hostNetwork_emits J hmac replies identity name bind publicAddr torConfig).mono
      intro result events _
      cases result <;> trivial

/-! ## What a step of the session does -/

/-- What a session keeps holds when `run_session` is called. -/
theorem well_begin {s : Session C} (h : s.Well) (hmain : s.main = .preparing)
    (expected : Option Text) : (begin s expected).Well := by
  obtain ⟨hwritten, hpeer⟩ := h.early (Or.inl hmain)
  refine ⟨h.quiet, fun _ => ⟨hwritten, hpeer⟩, nofun, nofun, h.looping, ?_, h.sealed_sent,
    Or.inl ⟨hwritten, (h.quiet hpeer).1⟩, ?_, h.typed⟩
  · intro hello key hp
    cases hpeer.symm.trans hp
  · intro _
    exact h.queued (by simp [Session.live, hmain])

/-- What a step of a desktop session does to its events. -/
inductive Effect (J : SerdeJson) (s : Session C) (s' : Session C) : Prop
  /-- Nothing is emitted; the receive thread is there only if it was. -/
  | silent (hevents : s'.events = s.events) (hpeer : s'.peer = s.peer)
      (hrunning : s'.receiver.running = true → s.receiver.running = true)
  | accepted {buffer rest hello key} (hmain : s.main = .awaitingHello buffer)
      (hs' : s' = s.accept hello key rest)
  | reported {key buffer line rest body} (hreceiver : s.receiver = .looping key buffer)
      (hbody : receiveOnce J .desktop key line = .ok body) (hs' : s' = s.report key rest body)
  | refused {key buffer line fault} (hreceiver : s.receiver = .looping key buffer)
      (hbody : receiveOnce J .desktop key line = .error fault)
      (hs' : s' = { s with receiver := .returned fault })
  | disconnected {message} (hreceiver : s.receiver = .returned (.error message))
      (hs' : s' = { s with receiver := .ended, events := s.events ++ [.disconnected message] })
  | failed {message} (hmain : s.main = .returned (some message))
      (hs' : s' = { s with main := .ended, events := s.events ++ [.error message] })

variable {J : SerdeJson}

/-- A step that leaves the events and the receive thread alone. -/
theorem Effect.still {s s' : Session C} (hevents : s'.events = s.events)
    (hpeer : s'.peer = s.peer) (hreceiver : s'.receiver = s.receiver) : Effect J s s' := by
  refine .silent hevents hpeer ?_
  rw [hreceiver]
  exact id

/-- What becomes of a line. -/
theorem Effect.of_taken {s s' : Session C} {line rest : Bytes}
    (hprogram : s.config.program = .desktop) (ht : Taken J s line rest s') : Effect J s s' := by
  cases ht with
  | accepted hmain => exact .accepted hmain rfl
  | @refused buffer fault =>
      obtain ⟨main, queue, hfail⟩ : ∃ main queue, s.fail fault = { s with
          main := main, queue := queue } := by
        cases fault <;> exact ⟨_, _, rfl⟩
      rw [hfail]
      exact .still rfl rfl rfl
  | reported hmain hreceiver hbody =>
      rw [hprogram] at hbody
      exact .reported hreceiver hbody rfl
  | broken hmain hreceiver hbody =>
      rw [hprogram] at hbody
      exact .refused hreceiver hbody rfl

/-- What the steps of a desktop session do, but for those that stand for `host_network` and
`join_network`. -/
theorem Effect.of_change {s s' : Session C} {l : Label C} {bytes : Bytes}
    (hprogram : s.config.program = .desktop) (hlabel : ofPreparation l = false)
    (h : Net.Change J s l s' bytes) : Effect J s s' := by
  cases h with
  | typed | closed | lostInput | greeted | ungreeted | skipped | wrote | unsent | finished =>
      exact .still rfl rfl rfl
  | exited => exact .silent rfl rfl nofun
  | announced | connected | unconnected => cases hlabel
  | @unsealed nonce key line rest fault => cases fault <;> exact .still rfl rfl rfl
  | filled =>
      unfold Session.refill
      split
      · exact .still rfl rfl rfl
      · next key b hreceiver hmain =>
        refine .silent rfl rfl ?_
        rw [hreceiver]
        exact id
      · exact .still rfl rfl rfl
  | read hreading | readLast hreading => exact .of_taken hprogram (.of_onLine hreading _ _)
  | unread hreading =>
      unfold Session.readFails
      split
      · exact .still rfl rfl rfl
      · next hmain =>
        refine .silent rfl rfl fun _ => ?_
        unfold Session.reading at hreading
        split at hreading
        · next hawaiting => exact absurd hawaiting (hmain _)
        · obtain ⟨key, hreceiver⟩ := Receiver.buffer_eq_some.1 hreading
          rw [hreceiver]
          rfl
  | @concluded failure hmain hjoined =>
      rw [hprogram]
      cases failure with
      | none => exact .still (List.append_nil _) rfl rfl
      | some message => exact .failed hmain rfl
  | @stopped fault hreceiver =>
      rw [hprogram]
      cases fault with
      | error message => exact .disconnected hreceiver rfl
      | panic => exact .silent (List.append_nil _) rfl nofun

end Fauna.Desktop
