import Fauna.Desktop.Chat
import Fauna.Desktop.Reading
import Fauna.Desktop.Shown

/-!
# The order of the events of a connection

The session thread and the receive thread of a connection share one channel to the window. Whatever
the outside answers, whatever bytes the peer sends and wherever something fails, in any order of
their steps: what comes over the channel is in the order that the window relies on, and the bodies
in it are those of the lines that the session key decrypts.

* `Permits`: what may follow some events, and `EventsInOrder.of_disciplined`, what that makes of a
  log.
* `NetworkThread.Orderly`: what every step keeps, beside `NetworkThread.Reads`.
* `network_event_discipline`: the result for every run.
-/

namespace Fauna.Desktop

open Fauna.Lib Fauna.Core Fauna.Wire Fauna.Net Fauna.Dial FaunaApp

variable {C : Crates} {J : SerdeJson}

/-! ## Logs of events -/

/-- An event of this kind is among them. -/
def Has (events : List NetworkEvent) (kind : EventKind) : Prop := ∃ event ∈ events, event.kind = kind

/-- A kind among events in two parts is in one of them. -/
@[simp] theorem has_append {events events' : List NetworkEvent} {kind : EventKind} :
    Has (events ++ events') kind ↔ Has events kind ∨ Has events' kind := by
  simp only [Has, List.mem_append, or_and_right, exists_or]

/-- There is no kind among no events. -/
@[simp] theorem has_nil {kind : EventKind} : ¬ Has [] kind := by
  rintro ⟨event, hevent, -⟩
  cases hevent

/-- The kind of a single event. -/
@[simp] theorem has_singleton {event : NetworkEvent} {kind : EventKind} :
    Has [event] kind ↔ event.kind = kind := by
  simp [Has]

/-- An event of another kind changes nothing. -/
theorem has_append_of_ne {events : List NetworkEvent} {event : NetworkEvent} {kind : EventKind}
    (h : event.kind ≠ kind) : Has (events ++ [event]) kind ↔ Has events kind := by
  rw [has_append, has_singleton, or_iff_left h]

/-- The order that the window relies on: the events of one connection, of a host or of a joiner. -/
structure EventsInOrder (host : Bool) (events : List NetworkEvent) : Prop where
  /-- These come at most once. -/
  once : ∀ kind, kind ∈ [EventKind.inviteCreated, .connected, .disconnected, .error] →
    events.countP (·.kind = kind) ≤ 1
  /-- An invite comes from a host only, and before `Connected`. -/
  inviteCreated : ∀ before event after, events = before ++ event :: after →
    event.kind = .inviteCreated → host = true ∧ ¬ Has before .connected
  /-- A body comes after `Connected` and before `Disconnected`. -/
  incoming : ∀ before event after, events = before ++ event :: after →
    event.kind = .incoming → Has before .connected ∧ ¬ Has before .disconnected
  disconnected : ∀ before event after, events = before ++ event :: after →
    event.kind = .disconnected → Has before .connected
  /-- An error without an earlier `Connected` is the last event. -/
  error : ∀ before event after, events = before ++ event :: after →
    event.kind = .error → Has before .connected ∨ after = []

/-- What may come after some events. -/
def Permits (host : Bool) (before : List NetworkEvent) (event : NetworkEvent) : Prop :=
  (Has before .error → Has before .connected) ∧
    match event.kind with
    | .inviteCreated => host = true ∧ ¬ Has before .inviteCreated ∧ ¬ Has before .connected
    | .status => True
    | .connected => ¬ Has before .connected
    | .incoming => Has before .connected ∧ ¬ Has before .disconnected
    | .disconnected => Has before .connected ∧ ¬ Has before .disconnected
    | .error => ¬ Has before .error

section Permits

variable {host : Bool} {before events : List NetworkEvent} {event : NetworkEvent}

/-- When an invite may be announced. -/
theorem Permits.inviteCreated (h : Permits host before event)
    (hkind : event.kind = .inviteCreated) :
    host = true ∧ ¬ Has before .inviteCreated ∧ ¬ Has before .connected := by
  have h' := h.2
  rwa [hkind] at h'

/-- When a body may be reported. -/
theorem Permits.incoming (h : Permits host before event) (hkind : event.kind = .incoming) :
    Has before .connected ∧ ¬ Has before .disconnected := by
  have h' := h.2
  rwa [hkind] at h'

/-- When the end of the stream may be reported. -/
theorem Permits.disconnected (h : Permits host before event) (hkind : event.kind = .disconnected) :
    Has before .connected ∧ ¬ Has before .disconnected := by
  have h' := h.2
  rwa [hkind] at h'

/-- What comes only once has not come before. -/
theorem Permits.once (h : Permits host before event)
    (hkind : event.kind ∈ [EventKind.inviteCreated, .connected, .disconnected, .error]) :
    ¬ Has before event.kind := by
  have h' := h.2
  cases hevent : event.kind <;> rw [hevent] at h' hkind
  case inviteCreated => exact h'.2.1
  case connected => exact h'
  case disconnected => exact h'.2
  case error => exact h'
  case status => simp at hkind
  case incoming => simp at hkind

/-- Where every event was permitted, they are in order. -/
theorem EventsInOrder.of_disciplined (h : Disciplined (Permits host) events) :
    EventsInOrder host events := by
  refine ⟨?_, ?_, ?_, ?_, ?_⟩
  · intro kind hkind
    apply h.countP_le_one
    intro before event hpermits hevent earlier hmem
    simp only [decide_eq_true_eq] at hevent
    subst hevent
    simp only [decide_eq_false_iff_not]
    intro hearlier
    exact hpermits.once hkind ⟨earlier, hmem, hearlier⟩
  · intro before event after hsplit hkind
    obtain ⟨hhost, -, hconnected⟩ := (h before event after hsplit).inviteCreated hkind
    exact ⟨hhost, hconnected⟩
  · intro before event after hsplit hkind
    exact (h before event after hsplit).incoming hkind
  · intro before event after hsplit hkind
    exact ((h before event after hsplit).disconnected hkind).1
  · intro before event after hsplit hkind
    cases after with
    | nil => exact Or.inr rfl
    | cons next after =>
        left
        have hsplit' : events = (before ++ [event]) ++ next :: after := by simp [hsplit]
        have hconnected : Has (before ++ [event]) .connected :=
          (h _ next after hsplit').1 (by simp [hkind])
        simpa [hkind] using hconnected

end Permits

/-! ## The order is kept -/

/-- What is emitted without a socket is a status or an invite. -/
theorem Preparatory.kind_eq {host : Bool} {events : List NetworkEvent} {event : NetworkEvent}
    (h : Preparatory host events event) : event.kind = .status ∨ event.kind = .inviteCreated := by
  cases event with
  | status => exact Or.inl rfl
  | inviteCreated => exact Or.inr rfl
  | _ => cases h

/-- It is permitted where nothing has failed or connected. -/
theorem Preparatory.permits {host : Bool} {events : List NetworkEvent} {event : NetworkEvent}
    (h : Preparatory host events event) (herror : ¬ Has events .error)
    (hconnected : ¬ Has events .connected) : Permits host events event := by
  refine ⟨fun herror' => absurd herror' herror, ?_⟩
  cases event with
  | status => trivial
  | inviteCreated =>
      obtain ⟨hhost, hinvite⟩ := h
      refine ⟨hhost, ?_, hconnected⟩
      rintro ⟨earlier, hmem, hkind⟩
      exact hinvite earlier hmem hkind
  | _ => cases h

/-- A call emits one event or none. -/
theorem eventsOf_eq (c : Call) : eventsOf c = [] ∨ ∃ event, eventsOf c = [event] := by
  cases c with
  | emit event => exact Or.inr ⟨event, rfl⟩
  | _ => exact Or.inl rfl

/-- What the events of a connection have to do with where its threads are. -/
structure NetworkThread.Orderly (host : Bool) (thread : NetworkThread C) : Prop where
  desktop : thread.session.config.program = .desktop
  well : thread.session.Well
  preparing : thread.session.main = .preparing →
    Prepares host thread.preparing thread.session.events
  disciplined : Disciplined (Permits host) thread.session.events
  connected : Has thread.session.events .connected ↔ thread.session.peer.isSome = true
  running : thread.session.receiver.running = true → thread.session.peer.isSome = true
  disconnected : Has thread.session.events .disconnected →
    thread.session.peer.isSome = true ∧ thread.session.receiver.running = false
  error : Has thread.session.events .error → thread.session.main = .ended
  /-- The bodies are those that the receive loop has reported. -/
  bodies : incomings thread.session.events = thread.session.reported

/-- A thread that has just begun has emitted nothing. -/
theorem NetworkThread.Orderly.new (J : SerdeJson) (hmac : Bytes → Bytes → Bytes)
    (replies attempts : ℕ) (identity : DeviceIdentity C.primitives)
    (exchange : ExchangeKeypair C.primitives) (start : Start) :
    (NetworkThread.new J hmac replies attempts identity exchange start).Orderly start.hosts where
  desktop := rfl
  well := .new _ (Or.inl rfl)
  preparing _ := preparation_emits J hmac replies attempts identity start
  disciplined := .nil
  connected := iff_of_false has_nil nofun
  running h := by cases h
  disconnected h := absurd h has_nil
  error h := absurd h has_nil
  bodies := rfl

/-- A call of the routine keeps the order of the events. -/
theorem NetworkThread.Orderly.called {host : Bool} {thread : NetworkThread C}
    (h : thread.Orderly host) (hmain : thread.session.main = .preparing)
    {answered : Routine.Answered Call.Answer} {rest : Action (Option Text)}
    (hcall : Routine.Step thread.preparing answered rest) :
    ({ thread with
      preparing := rest
      session := { thread.session with
        events := thread.session.events ++ eventsOf answered.1 } } : NetworkThread C).Orderly host := by
  have herror : ¬ Has thread.session.events .error := by
    intro herror
    cases hmain.symm.trans (h.error herror)
  have hpeer : thread.session.peer = none := (h.well.early (Or.inl hmain)).2
  have hconnected : ¬ Has thread.session.events .connected := by
    rw [h.connected, hpeer]
    exact nofun
  have hprepares := h.preparing hmain
  generalize hpreparing : thread.preparing = preparing at hcall hprepares
  cases hcall with
  | answered c next answer =>
      obtain ⟨hemits, hnext⟩ := hprepares
      have hsame {kind : EventKind} (hkind : kind ≠ .status) (hkind' : kind ≠ .inviteCreated) :
          Has (thread.session.events ++ eventsOf c) kind ↔ Has thread.session.events kind := by
        rw [has_append, or_iff_left]
        rintro ⟨event, hevent, rfl⟩
        rcases (hemits event hevent).kind_eq with hstatus | hinvite
        · exact hkind hstatus
        · exact hkind' hinvite
      refine ⟨h.desktop, ?_, fun _ => hnext answer _ rfl, ?_, ?_, h.running, ?_, ?_, ?_⟩
      · exact h.well.stop rfl rfl rfl rfl rfl rfl (Or.inl ⟨rfl, rfl⟩) (Or.inl rfl)
      · rcases eventsOf_eq c with hnone | ⟨event, hone⟩
        · simpa only [hnone, List.append_nil] using h.disciplined
        · simp only [hone]
          apply h.disciplined.append
          exact (hemits event (by simp [hone])).permits herror hconnected
      · exact (hsame (by decide) (by decide)).trans h.connected
      · intro hdisconnected
        exact h.disconnected ((hsame (by decide) (by decide)).1 hdisconnected)
      · intro herror'
        exact h.error ((hsame (by decide) (by decide)).1 herror')
      · have hnone : incomings (eventsOf c) = [] := by
          rw [incomings, List.filterMap_eq_nil_iff]
          intro event hevent
          rcases (hemits event hevent).kind_eq with hkind | hkind <;> cases event <;>
            first | rfl | cases hkind
        rw [incomings_append, hnone, List.append_nil, h.bodies]

/-- `run_session` is called, or an error is returned, with what was emitted before. -/
theorem NetworkThread.Orderly.through {host : Bool} {thread : NetworkThread C}
    (h : thread.Orderly host) (hmain : thread.session.main = .preparing) {session : Session C}
    (hprogram : session.config.program = .desktop) (hwell : session.Well)
    (hmain' : session.main ≠ .preparing) (hevents : session.events = thread.session.events)
    (hpeer : session.peer = thread.session.peer)
    (hreceiver : session.receiver = thread.session.receiver)
    (hreported : session.reported = thread.session.reported) :
    ({ thread with session := session } : NetworkThread C).Orderly host := by
  refine ⟨hprogram, hwell, fun hm => absurd hm hmain', ?_, ?_, ?_, ?_, ?_, ?_⟩
  · rw [hevents]
    exact h.disciplined
  · rw [hevents, hpeer]
    exact h.connected
  · rw [hreceiver, hpeer]
    exact h.running
  · rw [hevents, hreceiver, hpeer]
    exact h.disconnected
  · rw [hevents]
    intro herror
    cases hmain.symm.trans (h.error herror)
  · rw [hevents, hreported]
    exact h.bodies

/-- While the receive thread runs, the connection is announced and its end is not. -/
theorem NetworkThread.Orderly.of_running {host : Bool} {thread : NetworkThread C}
    (h : thread.Orderly host) (hrunning : thread.session.receiver.running = true) :
    thread.session.peer.isSome = true ∧ Has thread.session.events .connected ∧
      ¬ Has thread.session.events .disconnected ∧ thread.session.main ≠ .preparing := by
  have hpeer := h.running hrunning
  refine ⟨hpeer, h.connected.2 hpeer, ?_, ?_⟩
  · intro hdisconnected
    simpa [hrunning] using (h.disconnected hdisconnected).2
  · intro hmain
    simp [(h.well.early (Or.inl hmain)).2] at hpeer

/-- A step of the session keeps it. -/
theorem NetworkThread.Orderly.moved {host : Bool} {thread : NetworkThread C}
    (h : thread.Orderly host) {label : Label C} {session : Session C} {bytes : Bytes}
    (hlabel : ofPreparation label = false)
    (hchange : Net.Change J thread.session label session bytes) (received : Bytes)
    (lines : List Bytes) (returned : Option Fault) :
    (⟨thread.preparing, session, received, lines, returned⟩ : NetworkThread C).Orderly host := by
  have hprogram : session.config.program = .desktop := by
    rw [hchange.writes.1]
    exact h.desktop
  have hwell : session.Well := h.well.of_change hchange
  have hended : thread.session.main = .ended → session.main = .ended := hchange.main_ended
  have hbodies : incomings session.events = session.reported := by
    obtain ⟨bodies, hreported, hevents⟩ := Change.reports hchange
    rw [hreported, hevents, h.bodies]
  cases Effect.of_change h.desktop hlabel hchange with
  | silent hevents hpeer hrunning =>
      refine ⟨hprogram, hwell, ?_, ?_, ?_, ?_, ?_, ?_, hbodies⟩
      · intro hmain
        simp only [hevents]
        exact h.preparing (hchange.main_preparing hmain)
      · simp only [hevents]
        exact h.disciplined
      · simp only [hevents, hpeer]
        exact h.connected
      · intro hrunning'
        simp only [hpeer]
        exact h.running (hrunning hrunning')
      · intro hdisconnected
        simp only [hevents] at hdisconnected
        obtain ⟨hsome, hstopped⟩ := h.disconnected hdisconnected
        refine ⟨by simpa only [hpeer] using hsome, ?_⟩
        by_contra hrunning'
        simp [hrunning (by simpa using hrunning')] at hstopped
      · intro herror
        simp only [hevents] at herror
        exact hended (h.error herror)
  | @accepted buffer rest hello key hmain hs' =>
      obtain rfl := hs'
      have hpeer : thread.session.peer = none := (h.well.awaiting buffer hmain).2
      have hconnected : ¬ Has thread.session.events .connected := by
        rw [h.connected, hpeer]
        exact nofun
      have hdisconnected : ¬ Has thread.session.events .disconnected := by
        intro hdisconnected
        simpa [hpeer] using (h.disconnected hdisconnected).1
      have herror : ¬ Has thread.session.events .error := by
        intro herror
        cases hmain.symm.trans (h.error herror)
      refine ⟨hprogram, hwell, nofun, ?_, ?_, fun _ => rfl, ?_, ?_, hbodies⟩
      · exact h.disciplined.append ⟨fun herror' => absurd herror' herror, hconnected⟩
      · exact iff_of_true (has_append.2 (Or.inr (has_singleton.2 rfl))) rfl
      · intro hdisconnected'
        exact absurd ((has_append_of_ne (by simp [NetworkEvent.kind])).1 hdisconnected')
          hdisconnected
      · intro herror'
        exact absurd ((has_append_of_ne (by simp [NetworkEvent.kind])).1 herror') herror
  | @reported key buffer line rest body hreceiver hbody hs' =>
      obtain rfl := hs'
      obtain ⟨hpeer, hconnected, hdisconnected, hmain⟩ := h.of_running (by rw [hreceiver]; rfl)
      refine ⟨hprogram, hwell, fun hm => absurd hm hmain, ?_, ?_, fun _ => hpeer, ?_, ?_, hbodies⟩
      · exact h.disciplined.append ⟨fun _ => hconnected, hconnected, hdisconnected⟩
      · exact iff_of_true (has_append.2 (Or.inl hconnected)) hpeer
      · intro hdisconnected'
        exact absurd ((has_append_of_ne (by simp [NetworkEvent.kind])).1 hdisconnected')
          hdisconnected
      · intro herror
        exact h.error ((has_append_of_ne (by simp [NetworkEvent.kind])).1 herror)
  | @refused key buffer line fault hreceiver hbody hs' =>
      obtain rfl := hs'
      obtain ⟨hpeer, hconnected, hdisconnected, hmain⟩ := h.of_running (by rw [hreceiver]; rfl)
      exact ⟨hprogram, hwell, fun hm => absurd hm hmain, h.disciplined, h.connected,
        fun _ => hpeer, fun hdisconnected' => absurd hdisconnected' hdisconnected, h.error, hbodies⟩
  | @disconnected message hreceiver hs' =>
      obtain rfl := hs'
      obtain ⟨hpeer, hconnected, hdisconnected, hmain⟩ := h.of_running (by rw [hreceiver]; rfl)
      refine ⟨hprogram, hwell, fun hm => absurd hm hmain, ?_, ?_, nofun, fun _ => ⟨hpeer, rfl⟩, ?_,
        hbodies⟩
      · exact h.disciplined.append ⟨fun _ => hconnected, hconnected, hdisconnected⟩
      · exact iff_of_true (has_append.2 (Or.inl hconnected)) hpeer
      · intro herror
        exact h.error ((has_append_of_ne (by simp [NetworkEvent.kind])).1 herror)
  | @failed message hmain hs' =>
      obtain rfl := hs'
      have herror : ¬ Has thread.session.events .error := by
        intro herror
        cases hmain.symm.trans (h.error herror)
      refine ⟨hprogram, hwell, nofun, ?_, ?_, h.running, ?_, fun _ => rfl, hbodies⟩
      · exact h.disciplined.append ⟨fun herror' => absurd herror' herror, herror⟩
      · exact (has_append_of_ne (by simp [NetworkEvent.kind])).trans h.connected
      · intro hdisconnected
        exact h.disconnected ((has_append_of_ne (by simp [NetworkEvent.kind])).1 hdisconnected)

/-- Every step of the thread keeps it. -/
theorem NetworkThread.Orderly.step {host : Bool} {thread thread' : NetworkThread C}
    {act : ThreadAct C} (h : thread.Orderly host) (hstep : thread.Step J act thread') :
    thread'.Orderly host := by
  cases hstep with
  | called hmain hcall => exact h.called hmain hcall
  | begun hmain hdone =>
      exact h.through hmain h.desktop (well_begin h.well hmain _) nofun rfl rfl rfl rfl
  | @failed fault hmain hfail =>
      cases fault with
      | error message => exact h.through hmain h.desktop (h.well.fail _) nofun rfl rfl rfl rfl
      | panic => exact h.through hmain h.desktop (h.well.fail _) nofun rfl rfl rfl rfl
  | moved hlabel hchange => exact h.moved hlabel (.of_react hchange) _ _ _

/-! ## Every run -/

variable {hmac : Bytes → Bytes → Bytes} {replies attempts : ℕ} {start : Start}

/-- What every run keeps, with the labels that have led there. -/
theorem NetworkThread.orderly_and_reads {first thread : NetworkThread C}
    {acts : List (ThreadAct C)}
    (hfirst : (networkThreads C J hmac replies attempts start).init first)
    (hrun : (networkThreads C J hmac replies attempts start).Run first acts thread) :
    thread.Orderly start.hosts ∧ thread.Reads J acts := by
  have hstep : ∀ acts (thread : NetworkThread C) act thread',
      thread.Orderly start.hosts ∧ thread.Reads J acts → thread.Step J act thread' →
      thread'.Orderly start.hosts ∧ thread'.Reads J (acts ++ [act]) := by
    rintro acts thread act thread' ⟨horderly, hreads⟩ hstep
    exact ⟨horderly.step hstep, hreads.step horderly.well hstep⟩
  obtain ⟨identity, exchange, rfl⟩ := hfirst
  have hnew : (NetworkThread.new J hmac replies attempts identity exchange start).Orderly
      start.hosts ∧ (NetworkThread.new J hmac replies attempts identity exchange start).Reads J [] :=
    ⟨.new J hmac replies attempts identity exchange start, .new⟩
  exact hrun.history hstep hnew

/-- What every reachable state keeps. -/
theorem NetworkThread.Orderly.of_reachable {thread : NetworkThread C}
    (h : (networkThreads C J hmac replies attempts start).Reachable thread) :
    thread.Orderly start.hosts := by
  obtain ⟨first, acts, hfirst, hrun⟩ := h
  exact (NetworkThread.orderly_and_reads hfirst hrun).1

/-! ## A peer that visits a host -/

/-- The start of a host without Tor. -/
def hostStart : Start := .host "Kivan".toList "127.0.0.1:0".toList "127.0.0.1:45123".toList none

/-- The session of that host, when it has emitted its invite and a peer has connected. -/
def hostedSession (invite : Text) : Session Crates.transparent :=
  { Session.new windowConfig .starting with events := [.inviteCreated invite] }

/-- Where `host_network` or `join_network` gets, the connection gets. -/
theorem NetworkThread.run_calls {thread : NetworkThread C}
    (hmain : thread.session.main = .preparing)
    {history : List (Routine.Answered Call.Answer)} {rest : Action (Option Text)}
    (htrace : Routine.Trace thread.preparing history rest) :
    (networkThreads C J hmac replies attempts start).Run thread (history.map .call) { thread with
      preparing := rest
      session := { thread.session with
        events := thread.session.events ++ history.flatMap fun answered => eventsOf answered.1 } } := by
  generalize hpreparing : thread.preparing = preparing at htrace
  induction htrace generalizing thread with
  | nil p =>
      simp only [List.flatMap_nil, List.append_nil, ← hpreparing]
      exact .nil thread
  | @cons p q r answered history hcall _ ih =>
      obtain rfl := hpreparing
      simp only [List.flatMap_cons, ← List.append_assoc]
      exact .cons (.called hmain hcall) (ih hmain rfl)

/-- A host comes to its session, with its invite announced. -/
theorem exists_hosted : ∃ invite,
    (networkThreads Crates.transparent SerdeJson.records (fun _ message => message) 0 0
      hostStart).Reachable ⟨.done none, hostedSession invite, [], [], none⟩ := by
  have htrace : ∃ invite, Routine.Trace (preparation Crates.transparent SerdeJson.records
      (fun _ message => message) 0 0 transparentIdentity hostStart)
      [⟨.bind "127.0.0.1:0".toList, .ok ()⟩, ⟨.localAddr, .ok "127.0.0.1:5".toList⟩,
        ⟨.emit (.inviteCreated invite), ()⟩, ⟨.accept, .ok "127.0.0.1:6".toList⟩,
        ⟨.tryClone, .ok ()⟩] (.done none) :=
    ⟨_, .call (.call (.call (.call (.call (.nil _)))))⟩
  obtain ⟨invite, htrace⟩ := htrace
  have hinit : (networkThreads Crates.transparent SerdeJson.records (fun _ message => message) 0 0
      hostStart).Reachable (.new SerdeJson.records (fun _ message => message) 0 0
        transparentIdentity transparentExchange hostStart) := .of_init ⟨_, _, rfl⟩
  have hcalled := hinit.run (NetworkThread.run_calls rfl htrace)
  exact ⟨invite, hcalled.step (.begun rfl rfl)⟩

/-- A peer sends its hello and one body, and leaves. -/
theorem NetworkThread.run_visit {session : Session C} (hmain : session.main = .starting)
    (hreceiver : session.receiver = .unspawned) (hprogram : session.config.program = .desktop)
    {hello : HelloFrame Text} {key : SessionKey C.primitives}
    (hkey : establish session.config.program session.config.exchange session.config.expected hello =
      .ok key) {nonce : Nonce C.primitives} {body : Text} {frame : ChatFrame Text}
    (hseal : sealChat key nonce body = .ok frame) (preparing : Action (Option Text))
    (received : Bytes) (lines : List Bytes) (returned : Option Fault) :
    ∃ labels thread, (networkThreads C J hmac replies attempts start).Run
        ⟨preparing, session, received, lines, returned⟩ labels thread ∧
      thread.session.peer = some (hello, key) ∧
      thread.session.events = session.events ++ [.connected hello.displayName, .incoming body,
        .disconnected "karsi taraf baglantiyi kapatti".toList] ∧
      thread.lines = lines ++ [jsonLine J (chatRecord frame)] := by
  have hgreet : greet J session.config.program session.config.exchange session.config.expected
      (jsonLine J (helloRecord hello)) = .ok (hello, key) :=
    greet_eq_ok.2 ⟨readHello_jsonLine _ _, hkey⟩
  let greeted := session.wroteHello (.awaitingHello (jsonLine J (helloRecord hello)))
  let joined := greeted.accept hello key []
  let told := joined.report key [] body
  have hwrite : session.react J .writeHello = some (session.wroteHello (.awaitingHello []),
      jsonLine J (helloRecord session.config.hello)) := by
    simp only [Session.react]
    rw [hmain]
  have hfill : (session.wroteHello (.awaitingHello [])).react J
      (.fill (jsonLine J (helloRecord hello))) = some (greeted, []) :=
    Session.react_fill rfl (jsonLine_ne_nil J _)
  have haccept : greeted.react J .readLine = some (joined, []) := by
    have hawaiting : greeted.main = .awaitingHello (jsonLine J (helloRecord hello)) := rfl
    have honLine : greeted.onLine J (jsonLine J (helloRecord hello)) [] = joined :=
      Session.onLine_of_greet hawaiting hgreet []
    rw [Session.react_readLine rfl (takeLine_jsonLine J _), honLine]
  have hrefill : joined.react J (.fill (jsonLine J (chatRecord frame))) =
      some (joined.refill (jsonLine J (chatRecord frame)), []) :=
    Session.react_fill rfl (jsonLine_ne_nil J _)
  have hreport : (joined.refill (jsonLine J (chatRecord frame))).react J .readLine =
      some (told, []) := by
    have honLine : (joined.refill (jsonLine J (chatRecord frame))).onLine J
        (jsonLine J (chatRecord frame)) [] = told := by
      have hsending : (joined.refill (jsonLine J (chatRecord frame))).main = .sending key := rfl
      have hlooping : (joined.refill (jsonLine J (chatRecord frame))).receiver =
          .looping key (jsonLine J (chatRecord frame)) := rfl
      exact Session.onLine_of_body hsending hlooping (receiveOnce_jsonLine hseal) []
    rw [Session.react_readLine rfl (takeLine_jsonLine J _), honLine]
  have hend : told.react J .readEnd =
      some ({ told with receiver := .returned (closed .desktop) }, []) := by
    have hsending : told.main = .sending key := rfl
    have hlooping : told.receiver = .looping key [] := rfl
    have hclosed : receiveOnce J told.config.program key [] = .error (closed .desktop) := by
      rw [receiveOnce_nil, show told.config.program = .desktop from hprogram]
    rw [← Session.onLine_of_fault hsending hlooping hclosed []]
    rfl
  have hfinish : ({ told with receiver := .returned (closed .desktop) } : Session C).react J
      .finishReceiver = some ({ told with
        receiver := .ended
        events := told.events ++ [.disconnected "karsi taraf baglantiyi kapatti".toList] }, []) := by
    simp only [Session.react]
    rw [show told.config.program = .desktop from hprogram]
    rfl
  refine ⟨_, _, .cons (.moved rfl hwrite) (.cons (.moved rfl hfill) (.cons (.moved rfl haccept)
    (.cons (.moved rfl hrefill) (.cons (.moved rfl hreport) (.cons (.moved rfl hend)
      (.single (.moved rfl hfinish))))))), rfl, ?_, ?_⟩
  · simp [told, joined, greeted, Session.report, Session.accept, Session.wroteHello]
  · have hfirst : linesRead greeted .readLine = [] := by
      simp [linesRead, greeted, Session.wroteHello, hreceiver, Receiver.buffer]
    have hsecond : linesRead (joined.refill (jsonLine J (chatRecord frame))) .readLine =
        [jsonLine J (chatRecord frame)] := by
      have hbuffer : (joined.refill (jsonLine J (chatRecord frame))).receiver.buffer =
          some (jsonLine J (chatRecord frame)) := rfl
      simp [linesRead, hbuffer, takeLine_jsonLine]
    simp only [hfirst, hsecond]
    simp [linesRead, told, Session.report, Receiver.buffer]

/-- A peer that joins the host, sends one body and leaves. -/
theorem exists_visited : ∃ invite key frame thread,
    (networkThreads Crates.transparent SerdeJson.records (fun _ message => message) 0 0
      hostStart).Reachable thread ∧ thread.session.peer = some (peerHello, key) ∧
    thread.session.events = [.inviteCreated invite, .connected "p".toList, .incoming "a".toList,
      .disconnected "karsi taraf baglantiyi kapatti".toList] ∧
    thread.lines = [jsonLine SerdeJson.records (chatRecord frame)] := by
  obtain ⟨invite, hhosted⟩ := exists_hosted
  obtain ⟨key, hkey⟩ := exists_peerKey
  have hseal : ∃ frame, sealChat key ⟨List.replicate 24 0, rfl⟩ "a".toList = .ok frame := ⟨_, rfl⟩
  obtain ⟨frame, hseal⟩ := hseal
  have hsession : (hostedSession invite).main = .starting := rfl
  obtain ⟨labels, thread, hrun, hpeer, hevents, hlines⟩ :=
    NetworkThread.run_visit hsession rfl rfl hkey hseal (.done none) [] [] none
  exact ⟨invite, key, frame, thread, hhosted.run hrun, hpeer, hevents, hlines⟩

/-! ## The result -/

/-- Whatever a start was given, whatever the outside answers, whatever the peer and the user send and
wherever it fails: as many of the events as are delivered are in order, and the bodies among the
events are those that the receive loop has reported. Before there is a key there are none. Then the
bytes that were read are the line of the accepted hello, the lines of the receive loop and what is
left, and the bodies are those of these lines, up to one that does not decrypt. Where the loop has
returned without such a line, the stream has ended and nothing is left, or a read has failed and no
whole line is left. -/
theorem network_event_discipline {first thread : NetworkThread C} {acts : List (ThreadAct C)}
    (hfirst : (networkThreads C J hmac replies attempts start).init first)
    (hrun : (networkThreads C J hmac replies attempts start).Run first acts thread) :
    (∀ delivered, delivered <+: thread.session.events → EventsInOrder start.hosts delivered ∧
      incomings delivered <+: incomings thread.session.events) ∧
      incomings thread.session.events = thread.session.reported ∧
      (thread.session.peer = none → incomings thread.session.events = []) ∧
      ∀ hello key, thread.session.peer = some (hello, key) →
        ∃ greeting tail, thread.Reading J acts hello key greeting tail := by
  obtain ⟨horderly, hreads⟩ := NetworkThread.orderly_and_reads hfirst hrun
  refine ⟨?_, horderly.bodies, ?_, hreads.reading⟩
  · intro delivered hdelivered
    have hdisciplined := horderly.disciplined.of_isPrefix hdelivered
    exact ⟨.of_disciplined hdisciplined, hdelivered.filterMap _⟩
  · intro hpeer
    rw [horderly.bodies]
    exact (horderly.well.quiet hpeer).2

/-- A peer that joins this host sends one body and leaves. -/
theorem network_event_discipline_visited : ∃ (invite : Text)
    (key : SessionKey Crates.transparent.primitives) (frame : ChatFrame Text)
    (acts : List (ThreadAct Crates.transparent)) (thread : NetworkThread Crates.transparent),
    EventsInOrder true [.inviteCreated invite, .connected "p".toList, .incoming "a".toList,
      .disconnected "karsi taraf baglantiyi kapatti".toList] ∧
    thread.lines = [jsonLine SerdeJson.records (chatRecord frame)] ∧
    thread.session.reported = ["a".toList] ∧
    ∃ greeting tail, thread.Reading SerdeJson.records acts peerHello key greeting tail := by
  obtain ⟨invite, key, frame, thread, ⟨first, acts, hfirst, hrun⟩, hpeer, hevents, hlines⟩ :=
    exists_visited
  obtain ⟨hdelivered, hbodies, -, hreading⟩ := network_event_discipline hfirst hrun
  rw [hevents] at hdelivered hbodies
  refine ⟨invite, key, frame, acts, thread, ?_, hlines, hbodies.symm, hreading peerHello key hpeer⟩
  exact (hdelivered _ (List.prefix_refl _)).1

end Fauna.Desktop
