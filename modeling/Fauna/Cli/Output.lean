import Fauna.Cli.Terminal
import Fauna.Desktop.Reading

/-!
# What the command line program shows

Over every run of `fauna host` and `fauna join`: the lines on stdout are those of the command, of
the session and of the bodies that decrypt, in this order, and what is on stderr tells why the loops
have ended. Nothing that the peer, the user or the network does makes the process panic.

* `Effect.of_change`: what a step of the session makes of the bytes of the peer.
* `Terminal.Shows`, `Terminal.Closes`: what every step keeps of stdout and of stderr.
* `terminal_shows`: the result for every run.
-/

namespace Fauna.Cli

open Fauna.Lib Fauna.Core Fauna.Wire Fauna.Net Fauna.Dial
open Fauna.Desktop (NetworkThread ThreadAct ofPreparation linesRead loopResult loopResult_self Heard)

variable {C : Crates} {J : SerdeJson}

/-! ## Nothing panics -/

/-- The reader of the CLI takes any line without a panic. -/
theorem readJsonLine_ne_panic {α : Type} (fromJson : Json → Option α) (bytes : Bytes) :
    Cli.readJsonLine J fromJson bytes ≠ .error .panic := by
  refine bind_ne_panic (readLine_ne_panic _ _) ?_
  intro line
  split <;> simp

/-- No line that comes for a hello makes the main thread panic. -/
theorem greet_ne_panic (exchange : ExchangeKeypair C.primitives) (expected : Option Text)
    (line : Bytes) : greet J .cli exchange expected line ≠ .error .panic :=
  bind_ne_panic (readJsonLine_ne_panic _ _) fun hello =>
    bind_ne_panic (establish_ne_panic _ _ _ _) fun _ => by simp [pure, Except.pure]

/-- No line makes the receive thread panic. -/
theorem receiveOnce_ne_panic (key : SessionKey C.primitives) (line : Bytes) :
    receiveOnce J .cli key line ≠ .error .panic :=
  bind_ne_panic (readJsonLine_ne_panic _ _) fun frame => openChat_ne_panic key frame

/-- A body that cannot be encrypted is an error. -/
theorem sealChat_ne_panic (key : SessionKey C.primitives) (nonce : Nonce C.primitives)
    (body : Text) : sealChat key nonce body ≠ .error .panic :=
  bind_ne_panic (liftCore_ne_panic _) fun _ => by simp [pure, Except.pure]

/-! ## What a step of the session does -/

/-- What a step does to the peer of the session and to what is reported. -/
inductive Effect (s s' : Session C) : Prop
  /-- Nothing; the receive thread is there only if it was. -/
  | silent (hpeer : s'.peer = s.peer) (hreported : s'.reported = s.reported)
      (hrunning : s'.receiver.running = true → s.receiver.running = true)
  | accepted {buffer rest hello key} (hmain : s.main = .awaitingHello buffer)
      (hs' : s' = s.accept hello key rest)
  | reported {key buffer rest body} (hreceiver : s.receiver = .looping key buffer)
      (hs' : s' = s.report key rest body)

/-- A step that leaves the receive thread alone. -/
theorem Effect.still {s s' : Session C} (hpeer : s'.peer = s.peer)
    (hreported : s'.reported = s.reported) (hreceiver : s'.receiver = s.receiver) : Effect s s' := by
  refine .silent hpeer hreported ?_
  rw [hreceiver]
  exact id

/-- What becomes of a line. -/
theorem Effect.of_taken {s s' : Session C} {line rest : Bytes} (ht : Taken J s line rest s') :
    Effect s s' := by
  cases ht with
  | accepted hmain => exact .accepted hmain rfl
  | @refused buffer fault => cases fault <;> exact .still rfl rfl rfl
  | reported hmain hreceiver => exact .reported hreceiver rfl
  | broken hmain hreceiver =>
      refine .silent rfl rfl ?_
      rw [hreceiver]
      exact id

/-- What a step of the session makes of the bytes of the peer. -/
theorem Effect.of_change {s s' : Session C} {l : Label C} {bytes : Bytes}
    (h : Net.Change J s l s' bytes) : Effect s s' := by
  cases h with
  | typed | closed | announced | connected | unconnected | lostInput | greeted | ungreeted | skipped
  | wrote | unsent | finished | concluded => exact .still rfl rfl rfl
  | exited | stopped => exact .silent rfl rfl nofun
  | @unsealed nonce key line rest fault => cases fault <;> exact .still rfl rfl rfl
  | filled =>
      unfold Session.refill
      split
      · exact .still rfl rfl rfl
      · next key b hreceiver hmain =>
        refine .silent rfl rfl ?_
        rw [hreceiver]
        exact id
      · exact .still rfl rfl rfl
  | read hreading | readLast hreading => exact .of_taken (.of_onLine hreading _ _)
  | unread hreading =>
      unfold Session.readFails
      split
      · exact .still rfl rfl rfl
      · next hmain =>
        refine .silent rfl rfl fun _ => ?_
        unfold Session.reading at hreading
        split at hreading
        · next hawaiting => exact absurd hawaiting (hmain _)
        · obtain ⟨key, hreceiver⟩ := Receiver.buffer_eq_some.1 hreading
          rw [hreceiver]
          rfl

/-- The main thread is in the handshake. -/
def Shaking (s : Session C) : Prop := s.main = .starting ∨ ∃ buffer, s.main = .awaitingHello buffer

/-- Before the handshake is over there is no peer. -/
theorem Shaking.peer_eq_none {s : Session C} (h : Shaking s) (hs : s.Well) : s.peer = none := by
  rcases h with hmain | ⟨buffer, hmain⟩
  · exact (hs.early (Or.inr hmain)).2
  · exact (hs.awaiting buffer hmain).2

/-- Before the handshake is over the send loop is still to come. -/
theorem Shaking.live {s : Session C} (h : Shaking s) : s.live = true := by
  rcases h with hmain | ⟨buffer, hmain⟩ <;> simp [Session.live, hmain]

/-- Why `send_loop` has returned: the end of the input, or the error of stdin, of the encryption of
a line that was typed or of its write. -/
inductive SendEnds (key : SessionKey C.primitives) (acts : List (ThreadAct C))
    (typed : List Text) : Option Text → Prop
  | input (hend : ThreadAct.network .finishInput ∈ acts) : SendEnds key acts typed none
  | stdin {message} (hfail : ThreadAct.network (.failInput message) ∈ acts) :
      SendEnds key acts typed (some message)
  | sealing {nonce line message} (hsend : ThreadAct.network (.sendNext nonce) ∈ acts)
      (htyped : line ∈ typed) (hseal : sealChat key nonce line = .error (.error message)) :
      SendEnds key acts typed (some message)
  | socket {nonce count message line frame}
      (hfail : ThreadAct.network (.failSend nonce count message) ∈ acts)
      (htyped : line ∈ typed) (hseal : sealChat key nonce line = .ok frame) :
      SendEnds key acts typed (some message)

/-- How the send loop has ended stays true of a longer run. -/
theorem SendEnds.mono {key : SessionKey C.primitives} {acts acts' : List (ThreadAct C)}
    {typed typed' : List Text} {failure : Option Text} (h : SendEnds key acts typed failure)
    (hsub : acts ⊆ acts') (hlines : typed ⊆ typed') : SendEnds key acts' typed' failure := by
  cases h with
  | input hend => exact .input (hsub hend)
  | stdin hfail => exact .stdin (hsub hfail)
  | sealing hsend htyped hseal => exact .sealing (hsub hsend) (hlines htyped) hseal
  | socket hfail htyped hseal => exact .socket (hsub hfail) (hlines htyped) hseal

/-- What a step does to the main thread, after its preparation and before it returns. -/
inductive Turn (s : Session C) (l : Label C) (s' : Session C) : Prop
  | same (hmain : s'.main = s.main) (hpeer : s'.peer = s.peer)
  /-- The handshake goes on, or fails. -/
  | shaking (hmain : Shaking s) (hpeer' : s'.peer = none)
      (hmain' : Shaking s' ∨ ∃ message, s'.main = .returned (some message))
  | shaken {key} (hmain : Shaking s) (hmain' : s'.main = .sending key)
  /-- The send loop returns. -/
  | left {key failure} (hmain : s.main = .sending key) (hmain' : s'.main = .returned failure)
      (hpeer : s'.peer = s.peer) (hends : SendEnds key [.network l] s.submitted failure)

/-- The turn of a session whose reading thread has taken a line. -/
theorem Turn.of_taken {s s' : Session C} {l : Label C} {line rest : Bytes} (hs : s.Well)
    (hprogram : s.config.program = .cli) (ht : Taken J s line rest s') : Turn s l s' := by
  cases ht with
  | @accepted buffer hello key hmain hgreet => exact .shaken (Or.inr ⟨buffer, hmain⟩) rfl
  | @refused buffer fault hmain hgreet =>
      rw [hprogram] at hgreet
      cases fault with
      | panic => exact absurd hgreet (greet_ne_panic _ _ _)
      | error message =>
          exact .shaking (Or.inr ⟨buffer, hmain⟩) (hs.awaiting buffer hmain).2
            (Or.inr ⟨message, rfl⟩)
  | reported | broken => exact .same rfl rfl

/-- Every step of the session, but for the end of the process and of `main`, is a turn. -/
theorem Turn.of_change {s s' : Session C} {l : Label C} {bytes : Bytes} (hs : s.Well)
    (hprogram : s.config.program = .cli) (hlabel : ofPreparation l = false) (hexit : l ≠ .exit)
    (hreturns : l ≠ .finishMain) (h : Net.Change J s l s' bytes) : Turn s l s' := by
  cases h with
  | typed | closed | skipped | wrote | stopped => exact .same rfl rfl
  | exited => exact absurd rfl hexit
  | concluded => exact absurd rfl hreturns
  | announced | connected | unconnected => cases hlabel
  | greeted hmain =>
      exact .shaking (Or.inl hmain) (hs.early (Or.inr hmain)).2 (Or.inl (Or.inr ⟨[], rfl⟩))
  | ungreeted hmain =>
      exact .shaking (Or.inl hmain) (hs.early (Or.inr hmain)).2 (Or.inr ⟨_, rfl⟩)
  | lostInput _ hmain => exact .left hmain rfl rfl (.stdin (List.mem_singleton_self _))
  | unsent hmain hqueue hskips hseal =>
      exact .left hmain rfl rfl
        (.socket (List.mem_singleton_self _) (hs.next_typed hmain hqueue hskips) hseal)
  | finished hmain => exact .left hmain rfl rfl (.input (List.mem_singleton_self _))
  | @unsealed nonce key line rest fault hmain hqueue hskips hseal =>
      cases fault with
      | panic => exact absurd hseal (sealChat_ne_panic _ _ _)
      | error message =>
          exact .left hmain rfl rfl
            (.sealing (List.mem_singleton_self _) (hs.next_typed hmain hqueue hskips) hseal)
  | filled =>
      unfold Session.refill
      split
      · next buffer hmain =>
        exact .shaking (Or.inr ⟨buffer, hmain⟩) (hs.awaiting buffer hmain).2
          (Or.inl (Or.inr ⟨_, rfl⟩))
      · exact .same rfl rfl
      · exact .same rfl rfl
  | unread =>
      unfold Session.readFails
      split
      · next buffer hmain =>
        exact .shaking (Or.inr ⟨buffer, hmain⟩) (hs.awaiting buffer hmain).2 (Or.inr ⟨_, rfl⟩)
      · exact .same rfl rfl
  | read hreading | readLast hreading => exact .of_taken hs hprogram (.of_onLine hreading _ _)

/-- A session that is live or has a peer was so before. -/
theorem Turn.begun {s s' : Session C} {l : Label C} (h : Turn s l s')
    (hbegun : s'.live = true ∨ s'.peer.isSome = true) : s.live = true ∨ s.peer.isSome = true := by
  cases h with
  | same hmain hpeer => rwa [Session.live, hmain, hpeer] at hbegun
  | shaking hmain | shaken hmain => exact Or.inl hmain.live
  | left hmain => simp [Session.live, hmain]

/-- A preparation is not over by a step of the session. -/
theorem Turn.preparing {s s' : Session C} {l : Label C} (h : Turn s l s')
    (hpreparing : s.main = .preparing) : s'.main = .preparing := by
  cases h with
  | same hmain => rw [hmain, hpreparing]
  | shaking hmain | shaken hmain =>
      rcases hmain with hmain | ⟨buffer, hmain⟩ <;> cases hpreparing.symm.trans hmain
  | left hmain => cases hpreparing.symm.trans hmain

/-! ## What the receive thread returns -/

/-- The receive thread does not panic. -/
theorem returned_ne_panic {thread : NetworkThread C} {acts : List (ThreadAct C)}
    (h : thread.Reads J acts) (hcli : thread.session.config.program = .cli) {fault : Fault}
    (hreturned : thread.returned = some fault) : fault ≠ .panic := by
  rintro rfl
  cases hpeer : thread.session.peer with
  | none => cases (h.unread hpeer).2.1.symm.trans hreturned
  | some peer =>
      obtain ⟨greeting, tail, hreading⟩ := h.reading peer.1 peer.2 hpeer
      have hheard := hreading.heard
      rw [hcli, hreturned] at hheard
      generalize thread.lines = lines at hheard
      cases hheard with
      | refused hheard hline => exact receiveOnce_ne_panic _ _ hline

/-- What it has returned stays. -/
theorem loopResult_of_some {thread : NetworkThread C} {acts : List (ThreadAct C)}
    (h : thread.Reads J acts) (hs : thread.session.Well) {fault : Fault}
    (hreturned : thread.returned = some fault) (receiver : Receiver C) :
    loopResult thread.returned thread.session.receiver receiver = some fault := by
  cases hreceiver : thread.session.receiver with
  | looping key buffer =>
      obtain ⟨hello, hpeer⟩ := hs.looping key buffer hreceiver
      obtain ⟨greeting, tail, hreading⟩ := h.reading hello key hpeer
      cases (hreading.looping key buffer hreceiver).1.symm.trans hreturned
  | unspawned | returned | ended => exact hreturned

/-- When the receive thread has been joined, it has handed over an error. -/
theorem exists_error_of_joined {thread : NetworkThread C} {acts : List (ThreadAct C)}
    (h : thread.Reads J acts) (hcli : thread.session.config.program = .cli)
    (hexit : ThreadAct.network .exit ∉ acts) (hpeer : thread.session.peer.isSome = true)
    (hjoined : thread.session.receiver.running = false) :
    ∃ message, thread.returned = some (.error message) := by
  obtain ⟨⟨hello, key⟩, hsome⟩ := Option.isSome_iff_exists.1 hpeer
  obtain ⟨greeting, tail, hreading⟩ := h.reading hello key hsome
  cases hreturned : thread.returned with
  | none =>
      rcases hreading.through hreturned with hlooping | hgone
      · simp [hlooping, Receiver.running] at hjoined
      · exact absurd hgone hexit
  | some fault =>
      cases fault with
      | error message => exact ⟨message, rfl⟩
      | panic => exact absurd rfl (returned_ne_panic h hcli hreturned)

/-! ## What is on stdout and on stderr -/

/-- All that a session has printed. -/
def shown (s : Session C) : List Text := established s.peer ++ s.reported.map bodyLine

/-- Without a peer nothing of a session is on stdout. -/
theorem shown_of_none {s : Session C} (hs : s.Well) (hpeer : s.peer = none) : shown s = [] := by
  rw [shown, hpeer, (hs.quiet hpeer).2]
  rfl

/-- A step that changes neither the peer nor the bodies says nothing. -/
theorem said_of_same {s s' : Session C} (hpeer : s'.peer = s.peer)
    (hreported : s'.reported = s.reported) : said s s' = [] := by
  cases hnone : s.peer <;> simp [said, hpeer, hreported, hnone, established]

/-- What a step says is what it adds to stdout. -/
theorem shown_append_said {s s' : Session C} (hs : s.Well) (heffect : Effect s s') :
    shown s ++ said s s' = shown s' := by
  cases heffect with
  | silent hpeer hreported =>
      rw [said_of_same hpeer hreported, List.append_nil, shown, shown, hpeer, hreported]
  | @accepted buffer rest hello key hmain hs' =>
      obtain rfl := hs'
      have hnone := (hs.awaiting buffer hmain).2
      simp [shown, said, hnone, (hs.quiet hnone).2, Session.accept, established]
  | @reported key buffer rest body hreceiver hs' =>
      obtain rfl := hs'
      obtain ⟨hello, hsome⟩ := hs.looping key buffer hreceiver
      simp [shown, said, hsome, Session.report]

/-- All that a send loop has made the process print. -/
def sendComplaint (s : Session C) : List Text :=
  match s.peer, s.main with
  | some _, .returned failure => sendEnd failure
  | _, _ => []

/-- Without a peer there is no complaint of the send loop. -/
theorem sendComplaint_of_none {s : Session C} (hpeer : s.peer = none) : sendComplaint s = [] := by
  rw [sendComplaint, hpeer]

/-- A step that leaves the send loop where it is adds no complaint. -/
theorem complained_of_same {s s' : Session C} (hmain : s'.main = s.main) :
    complained s s' = [] := by
  unfold complained
  rw [hmain]
  cases s.main <;> rfl

/-- What a step complains is what it adds to stderr. -/
theorem sendComplaint_append_complained {s s' : Session C} {l : Label C} (hs : s.Well)
    (hturn : Turn s l s') :
    sendComplaint s ++ complained s s' = sendComplaint s' := by
  cases hturn with
  | same hmain hpeer =>
      rw [complained_of_same hmain, List.append_nil, sendComplaint, sendComplaint, hmain, hpeer]
  | shaking hmain hpeer' hmain' =>
      rw [sendComplaint_of_none (hmain.peer_eq_none hs), sendComplaint_of_none hpeer',
        List.nil_append, complained]
      rcases hmain with hmain | ⟨buffer, hmain⟩ <;> rw [hmain]
  | @shaken key hmain hmain' =>
      rw [sendComplaint_of_none (hmain.peer_eq_none hs), List.nil_append, complained, sendComplaint,
        hmain']
      cases s'.peer <;> cases s.main <;> rfl
  | @left key failure hmain hmain' hpeer =>
      obtain ⟨hello, hsome⟩ := hs.sending key hmain
      simp [sendComplaint, complained, hmain, hmain', hpeer, hsome]

variable (J) in
/-- What every step keeps of a terminal. -/
structure Terminal.Shows (command : Command) (acts : List (ThreadAct C)) (terminal : Terminal C) :
    Prop where
  cli : terminal.thread.session.config.program = .cli
  well : terminal.thread.session.Well
  preparing : terminal.thread.session.main = .preparing →
    Prints (command.Banner C J terminal.thread.session.config.identity)
      (command.Opens C J terminal.thread.session.config.identity) terminal.thread.preparing
      terminal.stdout
  stdout : terminal.thread.session.main ≠ .preparing → ∃ banner,
    terminal.stdout = banner ++ shown terminal.thread.session ∧
      command.Banner C J terminal.thread.session.config.identity banner ∧
      (terminal.thread.session.live = true ∨ terminal.thread.session.peer.isSome = true →
        command.Opens C J terminal.thread.session.config.identity
          terminal.thread.session.config.expected banner)
  reads : terminal.thread.Reads J acts
  running : ThreadAct.network .exit ∉ acts

/-- Where the send loop of a session has returned, it is known why. -/
def Leaves (acts : List (ThreadAct C)) (s : Session C) : Prop :=
  ∀ hello key failure, s.peer = some (hello, key) → s.main = .returned failure →
    SendEnds key acts s.submitted failure

/-- What is on stderr, by what `main` has returned. -/
def Terminal.Closes (acts : List (ThreadAct C)) (terminal : Terminal C) : Prop :=
  match terminal.result with
  | none => terminal.thread.session.main ≠ .ended ∧
      terminal.stderr = sendComplaint terminal.thread.session ∧
      (terminal.thread.session.peer = none → terminal.thread.session.main ≠ .returned none) ∧
      Leaves acts terminal.thread.session
  | some (.error _) => terminal.thread.session.main = .ended ∧
      terminal.thread.session.peer = none ∧ terminal.stderr = []
  | some (.ok _) => terminal.thread.session.main = .ended ∧
      terminal.thread.session.receiver.running = false ∧
      ∃ hello key failure message, terminal.thread.session.peer = some (hello, key) ∧
        terminal.thread.returned = some (.error message) ∧
        SendEnds key acts terminal.thread.session.submitted failure ∧
        terminal.stderr = sendEnd failure ++ receiveEnd (some (.error message))

/-! ## Every step keeps it -/

variable {command : Command} {acts : List (ThreadAct C)}

/-- A process that has just begun shows nothing. -/
theorem Terminal.Shows.new (identity : DeviceIdentity C.primitives)
    (exchange : ExchangeKeypair C.primitives) :
    (Terminal.new J identity exchange command).Shows J command [] where
  cli := rfl
  well := .new _ (Or.inl rfl)
  preparing _ := command.prints identity
  stdout hmain := absurd rfl hmain
  reads := .new
  running := List.not_mem_nil

/-- A call of the command keeps what is shown. -/
theorem Terminal.Shows.called {terminal : Terminal C} (h : terminal.Shows J command acts)
    {answered : Routine.Answered Call.Answer} {thread : NetworkThread C}
    (hstep : terminal.thread.Step J (.call answered) thread) :
    ({ terminal with
      thread := thread
      stdout := terminal.stdout ++ printed answered.1 } : Terminal C).Shows J command
        (acts ++ [.call answered]) := by
  have hreads := h.reads.step h.well hstep
  cases hstep with
  | called hmain hcall =>
      have hwell : ({ terminal.thread.session with
          events := terminal.thread.session.events ++ Desktop.eventsOf answered.1 } :
            Session C).Well :=
        h.well.stop rfl rfl rfl rfl rfl rfl (Or.inl ⟨rfl, rfl⟩) (Or.inl rfl)
      have hprints := h.preparing hmain
      generalize hpreparing : terminal.thread.preparing = preparing at hcall hprints
      cases hcall with
      | answered c next answer =>
          refine ⟨h.cli, hwell, fun _ => hprints.2 answer _ rfl, fun hmain' => absurd hmain hmain',
            hreads, ?_⟩
          simpa using h.running

/-- `run_session` is called, or an error is returned. -/
theorem Terminal.Shows.prepared {terminal : Terminal C} (h : terminal.Shows J command acts)
    {thread : NetworkThread C} (hstep : terminal.thread.Step J .prepared thread) :
    ({ terminal with thread := thread } : Terminal C).Shows J command (acts ++ [.prepared]) := by
  have hreads := h.reads.step h.well hstep
  have hrunning : ThreadAct.network .exit ∉ acts ++ [.prepared] := by simpa using h.running
  have hprints := h.preparing
  cases hstep with
  | @begun expected hmain hdone =>
      have hpeer : terminal.thread.session.peer = none := (h.well.early (Or.inl hmain)).2
      have hshown := shown_of_none h.well hpeer
      have hwell := Desktop.well_begin h.well hmain expected
      have hopens := hprints hmain
      rw [hdone] at hopens
      refine ⟨h.cli, hwell, nofun, fun _ => ?_, hreads, hrunning⟩
      refine ⟨terminal.stdout, ?_, Command.Opens.banner hopens, fun _ => hopens⟩
      exact (congrArg (terminal.stdout ++ ·) hshown).trans (List.append_nil _) |>.symm
  | @failed fault hmain hfail =>
      have hpeer : terminal.thread.session.peer = none := (h.well.early (Or.inl hmain)).2
      have hshown := shown_of_none h.well hpeer
      have hends := hprints hmain
      rw [hfail] at hends
      cases fault with
      | panic => exact absurd rfl hends.1
      | error message =>
          refine ⟨h.cli, h.well.fail (.error message), nofun, fun _ => ?_, hreads, hrunning⟩
          refine ⟨terminal.stdout, ?_, hends.2, ?_⟩
          · exact (congrArg (terminal.stdout ++ ·) hshown).trans (List.append_nil _) |>.symm
          · rintro (hlive | hsome)
            · cases hlive
            · exact absurd (hpeer ▸ hsome) nofun

/-- A step of the session that neither ends a preparation nor begins a session. -/
theorem Terminal.Shows.moved {terminal : Terminal C} (h : terminal.Shows J command acts)
    {label : Label C} {session : Session C} {bytes : Bytes} (hexit : label ≠ .exit)
    (hchange : Net.Change J terminal.thread.session label session bytes)
    (hpreparing : terminal.thread.session.main = .preparing → session.main = .preparing)
    (hbegun : session.live = true ∨ session.peer.isSome = true →
      terminal.thread.session.live = true ∨ terminal.thread.session.peer.isSome = true)
    (stderr : List Text) (result : Option (Except Text Unit)) :
    (⟨⟨terminal.thread.preparing, session, terminal.thread.received ++ label.taken,
        terminal.thread.lines ++ linesRead terminal.thread.session label,
        loopResult terminal.thread.returned terminal.thread.session.receiver session.receiver⟩,
      terminal.stdout ++ said terminal.thread.session session, stderr, result⟩ :
        Terminal C).Shows J command (acts ++ [.network label]) := by
  have hconfig : session.config = terminal.thread.session.config := hchange.writes.1
  have heffect := Effect.of_change hchange
  have hwell := h.well.of_change hchange
  have hshown := shown_append_said h.well heffect
  refine ⟨?_, hwell, ?_, ?_, h.reads.moved h.well hchange, ?_⟩
  · rw [hconfig]
    exact h.cli
  · intro hmain
    have hpeer : session.peer = none := (hwell.early (Or.inl hmain)).2
    have hsaid : said terminal.thread.session session = [] := by
      rw [shown_of_none hwell hpeer] at hshown
      exact (List.append_eq_nil_iff.1 hshown).2
    simp only [hconfig, hsaid, List.append_nil]
    exact h.preparing (hchange.main_preparing hmain)
  · intro hmain
    obtain ⟨banner, hstdout, hbanner, hopens⟩ := h.stdout fun hm => hmain (hpreparing hm)
    refine ⟨banner, ?_, ?_, ?_⟩
    · rw [hstdout, List.append_assoc, hshown]
    · rw [hconfig]
      exact hbanner
    · rw [hconfig]
      exact fun hbegun' => hopens (hbegun hbegun')
  · simpa [eq_comm] using ⟨h.running, hexit⟩

/-- Every step of the process keeps what is shown. -/
theorem Terminal.Shows.step {terminal terminal' : Terminal C} (h : terminal.Shows J command acts)
    {act : ThreadAct C} (hstep : terminal.Step J act terminal') :
    terminal'.Shows J command (acts ++ [act]) := by
  cases hstep with
  | called hstep => exact h.called hstep
  | prepared hstep => exact h.prepared hstep
  | @moved label thread hexit hreturns hstep =>
      cases hstep with
      | moved hlabel hreact =>
          have hchange := Net.Change.of_react hreact
          have hturn := Turn.of_change h.well h.cli hlabel hexit hreturns hchange
          exact h.moved hexit hchange hturn.preparing hturn.begun _ _
  | @finished failure thread hmain hstep =>
      have hkept (stderr : List Text) (result : Option (Except Text Unit)) :
          (⟨thread, terminal.stdout, stderr, result⟩ : Terminal C).Shows J command
            (acts ++ [.network .finishMain]) := by
        cases hstep with
        | @moved _ session bytes hlabel hreact =>
            have hchange := Net.Change.of_react hreact
            have hpreparing : terminal.thread.session.main = .preparing →
                session.main = .preparing := by
              intro hm
              cases hmain.symm.trans hm
            have hend : session.main = .ended ∧ session.peer = terminal.thread.session.peer ∧
                session.reported = terminal.thread.session.reported := by
              cases hchange with
              | concluded => exact ⟨rfl, rfl, rfl⟩
            have hbegun : session.live = true ∨ session.peer.isSome = true →
                terminal.thread.session.live = true ∨
                  terminal.thread.session.peer.isSome = true := by
              rw [Session.live, hend.1, hend.2.1]
              rintro (hlive | hsome)
              · cases hlive
              · exact Or.inr hsome
            have hexit : Label.finishMain (C := C) ≠ .exit := by
              intro heq
              cases heq
            have hmoved := h.moved hexit hchange hpreparing hbegun stderr result
            rw [said_of_same hend.2.1 hend.2.2, List.append_nil] at hmoved
            exact hmoved
      unfold Terminal.finish
      split <;> exact hkept _ _

/-- Once the main thread has ended, no receive thread is spawned. -/
theorem Effect.stopped {s s' : Session C} (h : Effect s s') (hmain : s.main = .ended)
    (hstopped : s.receiver.running = false) : s'.receiver.running = false := by
  cases h with
  | silent _ _ hrunning =>
      rw [← Bool.not_eq_true] at hstopped ⊢
      exact fun hrunning' => hstopped (hrunning hrunning')
  | accepted hawaiting => cases hmain.symm.trans hawaiting
  | reported hlooping =>
      rw [hlooping] at hstopped
      cases hstopped

/-- A main thread that has ended does nothing. -/
theorem Turn.ended {s s' : Session C} {l : Label C} (h : Turn s l s') (hmain : s.main = .ended) :
    s'.main = .ended ∧ s'.peer = s.peer ∧ complained s s' = [] := by
  cases h with
  | same hsame hpeer => exact ⟨hsame.trans hmain, hpeer, complained_of_same hsame⟩
  | shaking hshaking | shaken hshaking =>
      rcases hshaking with hm | ⟨buffer, hm⟩ <;> cases hmain.symm.trans hm
  | left hm => cases hmain.symm.trans hm

/-- Before `main` returns, the main thread has not ended, and a send loop without a peer has not
returned. -/
theorem Turn.running {s s' : Session C} {l : Label C} (h : Turn s l s') (hs : s.Well)
    (hmain : s.main ≠ .ended) (hreturned : s.peer = none → s.main ≠ .returned none) :
    s'.main ≠ .ended ∧ (s'.peer = none → s'.main ≠ .returned none) := by
  cases h with
  | same hsame hpeer =>
      rw [hsame, hpeer]
      exact ⟨hmain, hreturned⟩
  | shaking _ _ hmain' =>
      rcases hmain' with (hm | ⟨buffer, hm⟩) | ⟨message, hm⟩ <;> simp [hm]
  | shaken _ hm => simp [hm]
  | @left key failure hm hm' hpeer =>
      obtain ⟨hello, hsome⟩ := hs.sending key hm
      simp [hm', hpeer, hsome]

/-- A send loop that returns does so in a step that says why. -/
theorem Turn.leaves {s s' : Session C} {l : Label C} (h : Turn s l s') (hs : s.Well)
    (htyped : s.submitted ⊆ s'.submitted) (hleaves : Leaves acts s) :
    Leaves (acts ++ [.network l]) s' := by
  intro hello key failure hpeer hreturned
  cases h with
  | same hmain hsame =>
      have hbefore := hleaves hello key failure (hsame ▸ hpeer) (hmain ▸ hreturned)
      exact hbefore.mono (List.subset_append_left _ _) htyped
  | shaking _ hnone => cases hnone.symm.trans hpeer
  | shaken _ hmain => cases hmain.symm.trans hreturned
  | @left key' failure' hmain hmain' hsame hends =>
      obtain ⟨hello', hsome⟩ := hs.sending key' hmain
      obtain ⟨-, rfl⟩ := Prod.mk.inj (Option.some.inj (hsome.symm.trans (hsame ▸ hpeer)))
      obtain rfl := Main.returned.inj (hmain'.symm.trans hreturned)
      exact hends.mono (List.subset_append_right _ _) htyped

/-- A step of the session keeps what is known of the end. -/
theorem Terminal.Closes.moved {terminal : Terminal C} (h : terminal.Closes acts)
    (hshows : terminal.Shows J command acts) {label : Label C} {session : Session C}
    (heffect : Effect terminal.thread.session session)
    (hturn : Turn terminal.thread.session label session)
    (htyped : terminal.thread.session.submitted ⊆ session.submitted)
    (preparing : Action (Option Text))
    (received : Bytes) (lines : List Bytes) (stdout : List Text) :
    (⟨⟨preparing, session, received, lines,
        loopResult terminal.thread.returned terminal.thread.session.receiver session.receiver⟩,
      stdout, terminal.stderr ++ complained terminal.thread.session session, terminal.result⟩ :
        Terminal C).Closes (acts ++ [.network label]) := by
  unfold Terminal.Closes at h ⊢
  split at h
  · next hresult =>
    obtain ⟨hmain, hstderr, hreturned, hleaves⟩ := h
    obtain ⟨hmain', hreturned'⟩ := hturn.running hshows.well hmain hreturned
    rw [hresult]
    refine ⟨hmain', ?_, hreturned', hturn.leaves hshows.well htyped hleaves⟩
    rw [hstderr, sendComplaint_append_complained hshows.well hturn]
  · next message hresult =>
    obtain ⟨hmain, hpeer, hstderr⟩ := h
    obtain ⟨hmain', hpeer', hquiet⟩ := hturn.ended hmain
    rw [hresult]
    exact ⟨hmain', hpeer'.trans hpeer, by rw [hstderr, hquiet]; rfl⟩
  · next hresult =>
    obtain ⟨hmain, hstopped, hello, key, failure, message, hpeer, hreturned, hends, hstderr⟩ := h
    obtain ⟨hmain', hpeer', hquiet⟩ := hturn.ended hmain
    rw [hresult]
    refine ⟨hmain', heffect.stopped hmain hstopped, hello, key, failure, message,
      hpeer'.trans hpeer, ?_, hends.mono (List.subset_append_left _ _) htyped, ?_⟩
    · exact loopResult_of_some hshows.reads hshows.well hreturned _
    · rw [hquiet, List.append_nil, hstderr]

/-- Before `main` returns. -/
theorem Terminal.Closes.of_running {terminal : Terminal C} (h : terminal.Closes acts)
    (hmain : terminal.thread.session.main ≠ .ended) : terminal.result = none ∧
      terminal.stderr = sendComplaint terminal.thread.session ∧
      (terminal.thread.session.peer = none → terminal.thread.session.main ≠ .returned none) ∧
      Leaves acts terminal.thread.session := by
  unfold Terminal.Closes at h
  split at h
  · next hresult => exact ⟨hresult, h.2⟩
  · next message hresult => exact absurd h.1 hmain
  · next hresult => exact absurd h.1 hmain

/-- Nothing is printed to stderr before the handshake. -/
theorem Terminal.Closes.unprinted {terminal : Terminal C} (h : terminal.Closes acts)
    (hs : terminal.thread.session.Well) (hmain : terminal.thread.session.main = .preparing)
    {thread : NetworkThread C} (hpeer : thread.session.peer = terminal.thread.session.peer)
    (hmain' : thread.session.main = .preparing ∨ thread.session.main = .starting ∨
      ∃ message, thread.session.main = .returned (some message)) (stdout : List Text)
    (acts' : List (ThreadAct C)) :
    ({ terminal with thread := thread, stdout := stdout } : Terminal C).Closes acts' := by
  have hnone : terminal.thread.session.peer = none := (hs.early (Or.inl hmain)).2
  have hlive : terminal.thread.session.main ≠ .ended := by
    rw [hmain]
    exact nofun
  obtain ⟨hresult, hstderr, -⟩ := h.of_running hlive
  unfold Terminal.Closes
  rw [hresult]
  refine ⟨?_, ?_, fun _ => ?_, ?_⟩
  · rcases hmain' with hm | hm | ⟨message, hm⟩ <;> simp [hm]
  · rw [hstderr, sendComplaint_of_none hnone, sendComplaint_of_none (hpeer.trans hnone)]
  · rcases hmain' with hm | hm | ⟨message, hm⟩ <;> simp [hm]
  · intro hello key failure hsome
    cases (hpeer.trans hnone).symm.trans hsome

/-- `main` returns. -/
theorem Terminal.Closes.finished {terminal : Terminal C} (h : terminal.Closes acts)
    (hshows : terminal.Shows J command acts) {failure : Option Text} {session : Session C}
    {bytes : Bytes} (hmain : terminal.thread.session.main = .returned failure)
    (hchange : Net.Change J terminal.thread.session .finishMain session bytes)
    (preparing : Action (Option Text)) (received : Bytes) (lines : List Bytes) :
    (terminal.finish failure ⟨preparing, session, received, lines,
      loopResult terminal.thread.returned terminal.thread.session.receiver session.receiver⟩).Closes
        (acts ++ [.network .finishMain]) := by
  have hlive : terminal.thread.session.main ≠ .ended := by
    rw [hmain]
    exact nofun
  obtain ⟨-, hstderr, hreturned, hleaves⟩ := h.of_running hlive
  have hend : session.main = .ended ∧ session.peer = terminal.thread.session.peer ∧
      session.receiver = terminal.thread.session.receiver ∧
      terminal.thread.session.receiver.running = false := by
    cases hchange with
    | concluded _ hjoined => exact ⟨rfl, rfl, rfl, hjoined hshows.cli⟩
  obtain ⟨hmain', hpeer', hreceiver', hjoined⟩ := hend
  unfold Terminal.finish
  cases hpeer : terminal.thread.session.peer with
  | none =>
      cases failure with
      | none => exact absurd hmain (hreturned hpeer)
      | some message =>
          exact ⟨hmain', hpeer'.trans hpeer, hstderr.trans (sendComplaint_of_none hpeer)⟩
  | some peer =>
      obtain ⟨message, hfault⟩ := exists_error_of_joined hshows.reads hshows.cli hshows.running
        (by rw [hpeer]; rfl) hjoined
      have hends : SendEnds peer.2 (acts ++ [.network .finishMain]) session.submitted failure :=
        (hleaves peer.1 peer.2 failure hpeer hmain).mono (List.subset_append_left _ _)
          hchange.submitted_subset
      refine ⟨hmain', by rwa [hreceiver'], peer.1, peer.2, failure, message, hpeer'.trans hpeer, ?_,
        hends, ?_⟩
      · rw [hreceiver', loopResult_self, hfault]
      · simp [hstderr, hfault, sendComplaint, hpeer, hmain]

/-- Every step of the process keeps what is known of the end. -/
theorem Terminal.Closes.step {terminal terminal' : Terminal C} (h : terminal.Closes acts)
    (hshows : terminal.Shows J command acts) {act : ThreadAct C}
    (hstep : terminal.Step J act terminal') : terminal'.Closes (acts ++ [act]) := by
  cases hstep with
  | called hstep =>
      cases hstep with
      | called hmain => exact h.unprinted hshows.well hmain rfl (Or.inl hmain) _ _
  | prepared hstep =>
      cases hstep with
      | begun hmain =>
          refine h.unprinted hshows.well hmain ?_ (Or.inr (Or.inl ?_)) _ _
          · rfl
          · rfl
      | @failed fault hmain hfail =>
          cases fault with
          | error message =>
              refine h.unprinted hshows.well hmain ?_ (Or.inr (Or.inr ⟨message, ?_⟩)) _ _
              · rfl
              · rfl
          | panic =>
              have hprints := hshows.preparing hmain
              rw [hfail] at hprints
              exact absurd rfl hprints.1
  | @moved label thread hexit hreturns hstep =>
      cases hstep with
      | moved hlabel hreact =>
          have hchange := Net.Change.of_react hreact
          exact h.moved hshows (.of_change hchange)
            (.of_change hshows.well hshows.cli hlabel hexit hreturns hchange)
            hchange.submitted_subset _ _ _ _
  | finished hmain hstep =>
      cases hstep with
      | moved hlabel hreact => exact h.finished hshows hmain (.of_react hreact) _ _ _

/-! ## Every run -/

/-- What every run keeps, with the labels that have led there. -/
theorem Terminal.shows_and_closes {first terminal : Terminal C}
    (hfirst : (terminals C J command).init first)
    (hrun : (terminals C J command).Run first acts terminal) :
    terminal.Shows J command acts ∧ terminal.Closes acts := by
  have hstep : ∀ acts (terminal : Terminal C) act terminal',
      terminal.Shows J command acts ∧ terminal.Closes acts → terminal.Step J act terminal' →
      terminal'.Shows J command (acts ++ [act]) ∧ terminal'.Closes (acts ++ [act]) := by
    rintro acts terminal act terminal' ⟨hshows, hcloses⟩ hstep
    exact ⟨hshows.step hstep, hcloses.step hshows hstep⟩
  obtain ⟨identity, exchange, rfl⟩ := hfirst
  have hnew : (Terminal.new J identity exchange command).Shows J command [] ∧
      (Terminal.new J identity exchange command).Closes [] :=
    ⟨.new identity exchange, nofun, rfl, fun _ => nofun, nofun⟩
  exact hrun.history hstep hnew

variable (J) in
/-- What whoever looks at the terminal can rely on. -/
structure Terminal.Reliable (command : Command) (acts : List (ThreadAct C)) (terminal : Terminal C) :
    Prop where
  cli : terminal.thread.session.config.program = .cli
  /-- First what the command prints, all of it where there is a session, then that session and its
  bodies, and nothing else. -/
  stdout : ∃ banner, terminal.stdout = banner ++ shown terminal.thread.session ∧
    command.Banner C J terminal.thread.session.config.identity banner ∧
    (terminal.thread.session.peer.isSome = true →
      command.Opens C J terminal.thread.session.config.identity
        terminal.thread.session.config.expected banner)
  unheard : terminal.thread.session.peer = none → terminal.thread.session.reported = []
  /-- The hello is one that shows the key expected; it is the first line of the stream, and the
  bodies are those of the lines after it. -/
  bodies : ∀ hello key, terminal.thread.session.peer = some (hello, key) →
    establish .cli terminal.thread.session.config.exchange terminal.thread.session.config.expected
      hello = .ok key ∧
    ∃ greeting tail, terminal.thread.Reading J acts hello key greeting tail
  /-- The receive thread does not panic. -/
  receives : ∀ fault, terminal.thread.returned = some fault → fault ≠ .panic
  /-- Nor does the main thread: it does not end but by the return of `main`. -/
  running : terminal.result = none → terminal.thread.session.main ≠ .ended ∧
    terminal.stderr = sendComplaint terminal.thread.session ∧
    Leaves acts terminal.thread.session
  /-- `main` returns an error only where there has been no session. -/
  failed : ∀ message, terminal.result = some (.error message) →
    terminal.thread.session.peer = none ∧ terminal.stderr = []
  /-- After a session it returns none, and only when the receive thread has ended; then what this
  has returned is on stderr, and before it why the send loop has failed, if it has. -/
  returned : terminal.result = some (.ok ()) →
    terminal.thread.session.receiver.running = false ∧
    ∃ hello key failure message, terminal.thread.session.peer = some (hello, key) ∧
      SendEnds key acts terminal.thread.session.submitted failure ∧
      terminal.thread.returned = some (.error message) ∧
      terminal.stderr = sendEnd failure ++ ["receive loop ended: ".toList ++ message]

/-! ## A peer that visits a host -/

/-- Where a routine gets, the process gets. -/
theorem Terminal.run_calls {terminal : Terminal C}
    (hmain : terminal.thread.session.main = .preparing)
    {history : List (Routine.Answered Call.Answer)} {rest : Action (Option Text)}
    (htrace : Routine.Trace terminal.thread.preparing history rest) :
    (terminals C J command).Run terminal (history.map .call) { terminal with
      thread := { terminal.thread with
        preparing := rest
        session := { terminal.thread.session with
          events := terminal.thread.session.events ++
            history.flatMap fun answered => Desktop.eventsOf answered.1 } }
      stdout := terminal.stdout ++ history.flatMap fun answered => printed answered.1 } := by
  generalize hpreparing : terminal.thread.preparing = preparing at htrace
  induction htrace generalizing terminal with
  | nil p =>
      simp only [List.flatMap_nil, List.append_nil, ← hpreparing]
      exact .nil terminal
  | @cons p q r answered history hcall _ ih =>
      obtain rfl := hpreparing
      simp only [List.flatMap_cons, ← List.append_assoc]
      exact .cons (.called (.called hmain hcall)) (ih hmain rfl)

/-- The session of a host of the CLI whose peer has connected. -/
def hostConfig : Config Crates.transparent :=
  ⟨.cli, transparentIdentity, "Kivan".toList, none, transparentExchange⟩

/-- The host, when its peer has connected. -/
def hosted (stdout : List Text) : Terminal Crates.transparent :=
  ⟨⟨.done none, .new hostConfig .starting, [], [], none⟩, stdout, [], none⟩

/-- A host of the CLI comes to its session. -/
theorem exists_hosted : ∃ stdout, (terminals Crates.transparent SerdeJson.records
    (.host "Kivan".toList "127.0.0.1:5".toList none)).Reachable (hosted stdout) := by
  have htrace : ∃ text, Routine.Trace ((Command.host "Kivan".toList "127.0.0.1:5".toList
      none).preparation Crates.transparent SerdeJson.records transparentIdentity)
      [⟨.bind "127.0.0.1:5".toList, .ok ()⟩,
        ⟨.printLine ("Fauna direct chat is listening on ".toList ++ "127.0.0.1:5".toList), ()⟩,
        ⟨.printLine "Share this invite with the other device:".toList, ()⟩,
        ⟨.printLine text, ()⟩, ⟨.printLine [], ()⟩,
        ⟨.printLine "Waiting for one peer...".toList, ()⟩,
        ⟨.accept, .ok "127.0.0.1:6".toList⟩,
        ⟨.printLine ("Peer connected from ".toList ++ "127.0.0.1:6".toList), ()⟩,
        ⟨.tryClone, .ok ()⟩] (.done none) :=
    ⟨_, .call (.call (.call (.call (.call (.call (.call (.call (.call (.nil _)))))))))⟩
  obtain ⟨text, htrace⟩ := htrace
  have hinit : (terminals Crates.transparent SerdeJson.records (.host "Kivan".toList
      "127.0.0.1:5".toList none)).Reachable (.new SerdeJson.records transparentIdentity
        transparentExchange (.host "Kivan".toList "127.0.0.1:5".toList none)) :=
    .of_init ⟨_, _, rfl⟩
  exact ⟨_, (hinit.run (Terminal.run_calls rfl htrace)).step (.prepared (.begun rfl rfl))⟩

/-- A step of the session is one of the process. -/
theorem Terminal.step_of_react {terminal : Terminal C} {label : Label C} {session : Session C}
    {bytes : Bytes} (hreact : terminal.thread.session.react J label = some (session, bytes))
    (hlabel : ofPreparation label = false) (hexit : label ≠ .exit)
    (hreturns : label ≠ .finishMain) :
    (terminals C J command).step terminal (.network label)
      ⟨⟨terminal.thread.preparing, session, terminal.thread.received ++ label.taken,
          terminal.thread.lines ++ linesRead terminal.thread.session label,
          loopResult terminal.thread.returned terminal.thread.session.receiver session.receiver⟩,
        terminal.stdout ++ said terminal.thread.session session,
        terminal.stderr ++ complained terminal.thread.session session, terminal.result⟩ :=
  .moved hexit hreturns (.moved hlabel hreact)

/-- The session of that host, when its peer has been accepted and has sent one body. -/
def toldSession (hello : HelloFrame Text) (key : SessionKey Crates.transparent.primitives) :
    Session Crates.transparent :=
  (((Session.new hostConfig .starting).wroteHello .starting).accept hello key []).report key []
    "a".toList

/-- It accepts a peer and reports one body. -/
theorem exists_told : ∃ (terminal : Terminal Crates.transparent) (hello : HelloFrame Text)
    (key : SessionKey Crates.transparent.primitives),
    (terminals Crates.transparent SerdeJson.records (.host "Kivan".toList "127.0.0.1:5".toList
      none)).Reachable terminal ∧ terminal.thread.session = toldSession hello key := by
  obtain ⟨stdout, hhosted⟩ := exists_hosted
  have hanyone : ∀ e, (none : Option Text) = some e → e = transparentIdentity.publicKeyBase64 :=
    nofun
  obtain ⟨key, hkey, -⟩ := establish_createHello Crates.transparent.lawful .cli .cli
    transparentIdentity transparentIdentity "Kivan".toList "p".toList transparentExchange
    transparentExchange hanyone hanyone
  have hseal : ∃ frame, sealChat key ⟨List.replicate 24 0, rfl⟩ "a".toList = .ok frame := ⟨_, rfl⟩
  obtain ⟨frame, hseal⟩ := hseal
  let hello := createHello transparentIdentity "p".toList transparentExchange
  let greeting := jsonLine SerdeJson.records (helloRecord hello)
  let line := jsonLine SerdeJson.records (chatRecord frame)
  let greeted := (Session.new hostConfig .starting).wroteHello (.awaitingHello greeting)
  let joined := greeted.accept hello key []
  have hgreet : greet SerdeJson.records .cli transparentExchange none greeting = .ok (hello, key) :=
    greet_eq_ok.2 ⟨readHello_jsonLine _ _, hkey⟩
  have hwrite : (Session.new hostConfig .starting).react SerdeJson.records .writeHello =
      some ((Session.new hostConfig .starting).wroteHello (.awaitingHello []),
        jsonLine SerdeJson.records (helloRecord hostConfig.hello)) := rfl
  have hfill : ((Session.new hostConfig .starting).wroteHello (.awaitingHello [])).react
      SerdeJson.records (.fill greeting) = some (greeted, []) :=
    Session.react_fill rfl (jsonLine_ne_nil _ _)
  have haccept : greeted.react SerdeJson.records .readLine = some (joined, []) := by
    have hawaiting : greeted.main = .awaitingHello greeting := rfl
    have honLine : greeted.onLine SerdeJson.records greeting [] = joined :=
      Session.onLine_of_greet hawaiting hgreet []
    rw [Session.react_readLine rfl (takeLine_jsonLine _ _), honLine]
  have hrefill : joined.react SerdeJson.records (.fill line) = some (joined.refill line, []) :=
    Session.react_fill rfl (jsonLine_ne_nil _ _)
  have hreport : (joined.refill line).react SerdeJson.records .readLine =
      some (toldSession hello key, []) := by
    have hsending : (joined.refill line).main = .sending key := rfl
    have hlooping : (joined.refill line).receiver = .looping key line := rfl
    have honLine : (joined.refill line).onLine SerdeJson.records line [] = toldSession hello key :=
      Session.onLine_of_body hsending hlooping (receiveOnce_jsonLine hseal) []
    rw [Session.react_readLine rfl (takeLine_jsonLine _ _), honLine]
  have hstarted := hhosted.step (Terminal.step_of_react hwrite rfl nofun nofun)
  have hjoined := (hstarted.step (Terminal.step_of_react hfill rfl nofun nofun)).step
    (Terminal.step_of_react haccept rfl nofun nofun)
  have htold := (hjoined.step (Terminal.step_of_react hrefill rfl nofun nofun)).step
    (Terminal.step_of_react hreport rfl nofun nofun)
  exact ⟨_, hello, key, htold, rfl⟩

/-- The peer leaves, and the input is closed. -/
theorem exists_returned : ∃ terminal : Terminal Crates.transparent,
    (terminals Crates.transparent SerdeJson.records (.host "Kivan".toList "127.0.0.1:5".toList
      none)).Reachable terminal ∧ terminal.result = some (.ok ()) ∧
    terminal.thread.session.reported = ["a".toList] := by
  obtain ⟨told, hello, key, htold, hsession⟩ := exists_told
  let ended : Session Crates.transparent := { toldSession hello key with receiver := .ended }
  let left : Session Crates.transparent := ({ ended with inputOpen := false }).leave none
  have hend : told.thread.session.react SerdeJson.records .readEnd =
      some ({ toldSession hello key with receiver := .returned (closed .cli) }, []) := by
    have hclosed : receiveOnce SerdeJson.records .cli key [] = .error (closed .cli) :=
      receiveOnce_nil key
    have hsending : (toldSession hello key).main = .sending key := rfl
    have hlooping : (toldSession hello key).receiver = .looping key [] := rfl
    rw [hsession, ← Session.onLine_of_fault hsending hlooping hclosed []]
    rfl
  have hstop : ({ toldSession hello key with receiver := .returned (closed .cli) } :
      Session _).react SerdeJson.records .finishReceiver = some (ended, []) := rfl
  have hclose : ended.react SerdeJson.records .closeInput =
      some ({ ended with inputOpen := false }, []) := rfl
  have hleave : ({ ended with inputOpen := false } : Session _).react SerdeJson.records
      .finishInput = some (left, []) := rfl
  have hreturn : ∃ session, left.react SerdeJson.records .finishMain = some (session, []) ∧
      session.reported = ["a".toList] := ⟨_, rfl, rfl⟩
  obtain ⟨session, hreturn, hreported⟩ := hreturn
  have hended := (htold.step (Terminal.step_of_react hend rfl nofun nofun)).step
    (Terminal.step_of_react hstop rfl nofun nofun)
  have hleft := (hended.step (Terminal.step_of_react hclose rfl nofun nofun)).step
    (Terminal.step_of_react hleave rfl nofun nofun)
  exact ⟨_, hleft.step (.finished rfl (.moved rfl hreturn)), rfl, hreported⟩

/-- Whatever the command, whatever its calls are answered, whatever the peer sends and the user
types, and wherever it fails, in any order of the steps of the two threads. -/
theorem terminal_shows {first terminal : Terminal C} (hfirst : (terminals C J command).init first)
    (hrun : (terminals C J command).Run first acts terminal) : terminal.Reliable J command acts := by
  obtain ⟨hshows, hcloses⟩ := Terminal.shows_and_closes hfirst hrun
  have hwell := hshows.well
  refine ⟨hshows.cli, ?_, fun hpeer => (hwell.quiet hpeer).2, ?_, ?_, ?_, ?_, ?_⟩
  · by_cases hmain : terminal.thread.session.main = .preparing
    · have hpeer : terminal.thread.session.peer = none := (hwell.early (Or.inl hmain)).2
      refine ⟨terminal.stdout, ?_, ?_, ?_⟩
      · rw [shown_of_none hwell hpeer, List.append_nil]
      · exact (hshows.preparing hmain).known_lines fun _ => Command.Opens.banner
      · intro hsome
        simp [hpeer] at hsome
    · obtain ⟨banner, hstdout, hbanner, hopens⟩ := hshows.stdout hmain
      exact ⟨banner, hstdout, hbanner, fun hsome => hopens (Or.inr hsome)⟩
  · intro hello key hpeer
    have hagreed := (hwell.agreed hello key hpeer).2
    rw [hshows.cli] at hagreed
    exact ⟨hagreed, hshows.reads.reading hello key hpeer⟩
  · exact fun fault => returned_ne_panic hshows.reads hshows.cli
  · intro hresult
    rw [Terminal.Closes, hresult] at hcloses
    obtain ⟨hmain, hstderr, -, hleaves⟩ := hcloses
    exact ⟨hmain, hstderr, hleaves⟩
  · intro message hresult
    rw [Terminal.Closes, hresult] at hcloses
    exact hcloses.2
  · intro hresult
    rw [Terminal.Closes, hresult] at hcloses
    obtain ⟨-, hstopped, hello, key, failure, message, hpeer, hreturned, hends, hstderr⟩ := hcloses
    exact ⟨hstopped, hello, key, failure, message, hpeer, hends, hreturned, hstderr⟩

/-- A peer that has sent one body leaves, the host closes its input, and `main` returns. -/
theorem terminal_shows_visit : ∃ (acts : List (ThreadAct Crates.transparent))
    (terminal : Terminal Crates.transparent),
    terminal.result = some (.ok ()) ∧ terminal.thread.session.reported = ["a".toList] ∧
    terminal.Reliable SerdeJson.records (.host "Kivan".toList "127.0.0.1:5".toList none) acts := by
  obtain ⟨terminal, ⟨first, acts, hfirst, hrun⟩, hresult, hreported⟩ := exists_returned
  exact ⟨acts, terminal, hresult, hreported, terminal_shows hfirst hrun⟩

end Fauna.Cli
