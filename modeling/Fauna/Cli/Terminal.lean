import Fauna.Desktop.Thread

/-!
# The command line program at its terminal

`fauna host` and `fauna join`, from their arguments to what `main` returns: `host` and `join` up to
the socket, a routine that calls the outside, and then `run_session` with its receive thread. Every
line that they print is kept, and so is what the reads of the socket have returned. That the user
ends the process (Ctrl+C) is left out: it only stops what is said here. So is a stdout or a stderr
that takes no more lines, on which `println!` and `eprintln!` would panic.

* `Command.Banner`, `Command.Opens`: what may be printed before there is a socket, and what has been
  when the session begins.
* `Command.prints`: that nothing else is, and that nothing panics.
-/

namespace Fauna.Cli

open Fauna.Lib Fauna.Core Fauna.Wire Fauna.Net Fauna.Dial Fauna.Dial.Action
open Fauna.Desktop (NetworkThread ThreadAct)

variable {C : Crates}

/-! ## The code -/

/-- `host` of the CLI up to the handshake. -/
def host (C : Crates) (J : SerdeJson) (identity : DeviceIdentity C.primitives) (name bind : Text)
    (publicAddr : Option Text) : Action Unit := do
  orContext ("could not bind direct chat listener to ".toList ++ bind) (← ask (.bind bind))
  let advertisedAddr := publicAddr.getD bind
  let invite := (Invite.new identity name).withAddress advertisedAddr
  ask (.printLine ("Fauna direct chat is listening on ".toList ++ bind))
  ask (.printLine "Share this invite with the other device:".toList)
  let text ← Routine.ofExcept (liftCore (inviteEncode C J invite))
  ask (.printLine text)
  ask (.printLine [])
  ask (.printLine "Waiting for one peer...".toList)
  let remoteAddr ← orContext "could not accept peer".toList (← ask .accept)
  ask (.printLine ("Peer connected from ".toList ++ remoteAddr))
  orContext "could not clone stream".toList (← ask .tryClone)

/-- The subcommands that chat. -/
inductive Command
  | host (name bind : Text) (publicAddr : Option Text)
  | join (name invite : Text)

/-- `--name`. -/
def Command.name : Command → Text
  | .host name _ _ | .join name _ => name

/-- `host` or `join` up to the handshake, with the key that `run_session` is given to expect. -/
def Command.preparation (C : Crates) (J : SerdeJson) (identity : DeviceIdentity C.primitives) :
    Command → Action (Option Text)
  | .host name bind publicAddr => do
      Cli.host C J identity name bind publicAddr
      return none
  | .join _ invite => do
      let expected ← Dial.Cli.join C J invite
      return some expected

/-- The process, with what it has printed. -/
structure Terminal (C : Crates) where
  thread : NetworkThread C
  stdout : List Text
  stderr : List Text
  /-- What `main` has returned. The error is printed after it, and is not among these lines. -/
  result : Option (Except Text Unit)

/-- The process that has been started; `exchange` is the keypair it will generate. -/
def Terminal.new (J : SerdeJson) (identity : DeviceIdentity C.primitives)
    (exchange : ExchangeKeypair C.primitives) (command : Command) : Terminal C where
  thread := {
    preparing := command.preparation C J identity
    session := .new ⟨.cli, identity, command.name, none, exchange⟩ .preparing
    received := []
    lines := []
    returned := none }
  stdout := []
  stderr := []
  result := none

/-- What a call prints. -/
def printed : Call → List Text
  | .printLine line => [line]
  | _ => []

/-- What is printed once a hello is accepted. -/
def established : Option (HelloFrame Text × SessionKey C.primitives) → List Text
  | some (hello, _) => ["Encrypted session established with ".toList ++ hello.displayName,
      "Type a message and press Enter. Ctrl+C exits.".toList]
  | none => []

/-- What `receive_loop` prints of a body. -/
def bodyLine (body : Text) : Text := "< ".toList ++ body

/-- What is printed when `send_loop` has returned. -/
def sendEnd : Option Text → List Text
  | some message => ["send loop ended: ".toList ++ message]
  | none => []

/-- What is printed of what `receive_loop` has returned, when its thread has been joined. -/
def receiveEnd : Option Fault → List Text
  | some (.error message) => ["receive loop ended: ".toList ++ message]
  | some .panic => ["receive loop ended unexpectedly".toList]
  | none => []

/-- What a step of the session prints: the session that is established, and the bodies. -/
def said (s s' : Session C) : List Text :=
  (if s.peer.isNone then established s'.peer else []) ++
    (s'.reported.drop s.reported.length).map bodyLine

/-- What it prints where it ends the send loop. -/
def complained (s s' : Session C) : List Text :=
  match s.main, s'.main with
  | .sending _, .returned failure => sendEnd failure
  | _, _ => []

/-- `run_session` returns: an error of the handshake, or after both loops. -/
def Terminal.finish (terminal : Terminal C) (failure : Option Text) (thread : NetworkThread C) :
    Terminal C :=
  match terminal.thread.session.peer, failure with
  | none, some message => { terminal with thread := thread, result := some (.error message) }
  | _, _ => { terminal with
      thread := thread
      stderr := terminal.stderr ++ receiveEnd terminal.thread.returned
      result := some (.ok ()) }

variable (J : SerdeJson)

/-- The steps of the process. -/
inductive Terminal.Step (terminal : Terminal C) : ThreadAct C → Terminal C → Prop
  | called {answered thread} (hstep : terminal.thread.Step J (.call answered) thread) :
      Terminal.Step terminal (.call answered) { terminal with
        thread := thread
        stdout := terminal.stdout ++ printed answered.1 }
  | prepared {thread} (hstep : terminal.thread.Step J .prepared thread) :
      Terminal.Step terminal .prepared { terminal with thread := thread }
  | moved {label thread} (hexit : label ≠ .exit) (hmain : label ≠ .finishMain)
      (hstep : terminal.thread.Step J (.network label) thread) :
      Terminal.Step terminal (.network label) { terminal with
        thread := thread
        stdout := terminal.stdout ++ said terminal.thread.session thread.session
        stderr := terminal.stderr ++ complained terminal.thread.session thread.session }
  | finished {failure thread} (hmain : terminal.thread.session.main = .returned failure)
      (hstep : terminal.thread.Step J (.network .finishMain) thread) :
      Terminal.Step terminal (.network .finishMain) (terminal.finish failure thread)

variable (C) in
/-- The runs of a command, whatever keys it generates. -/
def terminals (command : Command) : Lts (Terminal C) (ThreadAct C) where
  init terminal := ∃ identity exchange, terminal = .new J identity exchange command
  step := Terminal.Step J

/-! ## What is printed before there is a socket -/

variable {J}

/-- The outside, for the lines that it is handed. -/
def printLog : Lts (List Text) (Routine.Answered Call.Answer) where
  init lines := lines = []
  step lines answered lines' := lines' = lines ++ printed answered.1

/-- What a routine ends with: no panic, what is known of the lines after an error, and more where it
is through. -/
def EndsWith {α : Type} (known : List Text → Prop) (whole : α → List Text → Prop) :
    Except Fault α → List Text → Prop
  | .ok a, lines => whole a lines
  | .error fault, lines => fault ≠ .panic ∧ known lines

/-- At every point of a routine the lines printed are known, and it ends as it should. -/
abbrev Prints {α : Type} (known : List Text → Prop) (whole : α → List Text → Prop)
    (action : Action α) (lines : List Text) : Prop :=
  action.Holds printLog (fun lines _ => known lines) (EndsWith known whole) lines

section Prints

variable {α : Type} {known : List Text → Prop} {whole : α → List Text → Prop} {lines : List Text}

/-- An error prints nothing more. -/
theorem Prints.bail (message : Text) (h : known lines) :
    Prints known whole (Action.bail message) lines := by
  refine ⟨?_, h⟩
  intro hpanic
  cases hpanic

/-- The lines are known at every point, its end included. -/
theorem Prints.known_lines {action : Action α} (h : Prints known whole action lines)
    (hwhole : ∀ a, whole a lines → known lines) : known lines := by
  cases action with
  | done a => exact hwhole a h
  | fail fault => exact h.2
  | call c next => exact h.1

/-- A call that prints nothing. -/
theorem Prints.quiet {c : Call} {next : c.Answer → Action α} (hquiet : printed c = [])
    (hlines : known lines) (hnext : ∀ answer, Prints known whole (next answer) lines) :
    Prints known whole (.call c next) lines := by
  refine ⟨hlines, ?_⟩
  rintro answer _ rfl
  simpa only [hquiet, List.append_nil] using hnext answer

/-- A line is printed. -/
theorem Prints.line {line : Text} {next : Unit → Action α} (hlines : known lines)
    (hnext : Prints known whole (next ()) (lines ++ [line])) :
    Prints known whole (.call (.printLine line) next) lines := by
  refine ⟨hlines, ?_⟩
  rintro ⟨⟩ _ rfl
  exact hnext

end Prints

/-- All that a host prints before the handshake. -/
def hostLines (bind text remoteAddr : Text) : List Text :=
  ["Fauna direct chat is listening on ".toList ++ bind,
    "Share this invite with the other device:".toList, text, [], "Waiting for one peer...".toList,
    "Peer connected from ".toList ++ remoteAddr]

variable (C J) in
/-- What a command may have printed before the handshake: a part of the lines of a host, with the
invite of its identity, or the address that a joiner dials. -/
def Command.Banner (identity : DeviceIdentity C.primitives) : Command → List Text → Prop
  | .host name bind publicAddr, lines => ∃ text remoteAddr,
      inviteEncode C J ((Invite.new identity name).withAddress (publicAddr.getD bind)) = .ok text ∧
        lines <+: hostLines bind text remoteAddr
  | .join _ inviteText, lines => lines = [] ∨ ∃ invite first address,
      inviteDecode C J inviteText = .ok invite ∧ invite.addresses.head? = some first ∧
        Cli.normalizeAddress first = .ok address ∧
        lines = ["Connecting to ".toList ++ address ++ "...".toList]

variable (C J) in
/-- What it has printed when `run_session` is called, with the key that this is given to expect:
none for a host, and the one that the invite names for a joiner. -/
def Command.Opens (identity : DeviceIdentity C.primitives) :
    Command → Option Text → List Text → Prop
  | .host name bind publicAddr, expected, lines => expected = none ∧ ∃ text remoteAddr,
      inviteEncode C J ((Invite.new identity name).withAddress (publicAddr.getD bind)) = .ok text ∧
        lines = hostLines bind text remoteAddr
  | .join _ inviteText, expected, lines => ∃ invite first address,
      inviteDecode C J inviteText = .ok invite ∧ invite.addresses.head? = some first ∧
        Cli.normalizeAddress first = .ok address ∧ expected = some invite.publicKey ∧
        lines = ["Connecting to ".toList ++ address ++ "...".toList]

/-- All lines of a command are a beginning of them. -/
theorem Command.Opens.banner {identity : DeviceIdentity C.primitives} {command : Command}
    {expected : Option Text} {lines : List Text} (h : command.Opens C J identity expected lines) :
    command.Banner C J identity lines := by
  cases command with
  | host name bind publicAddr =>
      obtain ⟨-, text, remoteAddr, hencode, rfl⟩ := h
      exact ⟨text, remoteAddr, hencode, List.prefix_refl _⟩
  | join name inviteText =>
      obtain ⟨invite, first, address, hdecode, hfirst, hnormal, -, rfl⟩ := h
      exact Or.inr ⟨invite, first, address, hdecode, hfirst, hnormal, rfl⟩

/-- What a host prints before the handshake. -/
theorem host_prints (identity : DeviceIdentity C.primitives) (name bind : Text)
    (publicAddr : Option Text) :
    Prints ((Command.host name bind publicAddr).Banner C J identity)
      (fun _ => (Command.host name bind publicAddr).Opens C J identity none)
      (host C J identity name bind publicAddr) [] := by
  have hknown (remoteAddr : Text) (count : ℕ) :
      (Command.host name bind publicAddr).Banner C J identity ((hostLines bind (inviteScheme ++
        invitePayload C J ((Invite.new identity name).withAddress (publicAddr.getD bind)))
          remoteAddr).take count) :=
    ⟨_, remoteAddr, inviteEncode_eq _, List.take_prefix _ _⟩
  refine Prints.quiet rfl (hknown [] 0) ?_
  rintro (message | _)
  · exact Prints.bail _ (hknown [] 0)
  refine Prints.line (hknown [] 0) (Prints.line (hknown [] 1) (Prints.line (hknown [] 2) ?_))
  refine Prints.line (hknown [] 3) (Prints.line (hknown [] 4) ?_)
  refine Prints.quiet rfl (hknown [] 5) ?_
  rintro (message | remoteAddr)
  · exact Prints.bail _ (hknown [] 5)
  refine Prints.line (hknown [] 5) ?_
  refine Prints.quiet rfl (hknown remoteAddr 6) ?_
  rintro (message | _)
  · exact Prints.bail _ (hknown remoteAddr 6)
  · exact ⟨rfl, _, remoteAddr, inviteEncode_eq _, rfl⟩

/-- The normalizer of the CLI never panics. -/
theorem normalizeAddress_ne_panic (address : Text) :
    Cli.normalizeAddress address ≠ .error .panic := by
  unfold Cli.normalizeAddress normalizeAddressWith
  split
  · split <;> simp
  · split <;> simp

/-- What a joiner prints before the handshake. -/
theorem join_prints (identity : DeviceIdentity C.primitives) (name inviteText : Text) :
    Prints ((Command.join name inviteText).Banner C J identity)
      (fun expected => (Command.join name inviteText).Opens C J identity (some expected))
      (Dial.Cli.join C J inviteText) [] := by
  have hnone : (Command.join name inviteText).Banner C J identity [] := Or.inl rfl
  unfold Dial.Cli.join decodeInvite
  rcases hdecode : inviteDecode C J inviteText with fault | invite
  · exact Prints.bail _ hnone
  rw [Routine.done_bind]
  unfold firstAddress
  rcases haddresses : invite.addresses with _ | ⟨first, more⟩
  · exact Prints.bail _ hnone
  rw [Routine.done_bind]
  have hfirst : invite.addresses.head? = some first := by rw [haddresses]; rfl
  rcases hnormal : Cli.normalizeAddress first with fault | address
  · refine ⟨?_, hnone⟩
    rintro rfl
    exact normalizeAddress_ne_panic first hnormal
  have hdials : (Command.join name inviteText).Banner C J identity
      ["Connecting to ".toList ++ address ++ "...".toList] :=
    Or.inr ⟨invite, first, address, hdecode, hfirst, hnormal, rfl⟩
  refine Prints.line hnone (Prints.quiet rfl hdials ?_)
  rintro (message | _)
  · exact Prints.bail _ hdials
  refine Prints.quiet rfl hdials ?_
  rintro (message | _)
  · exact Prints.bail _ hdials
  · exact ⟨invite, first, address, hdecode, hfirst, hnormal, rfl, rfl⟩

/-- What a command prints before the handshake. -/
theorem Command.prints (identity : DeviceIdentity C.primitives) (command : Command) :
    Prints (command.Banner C J identity) (command.Opens C J identity)
      (command.preparation C J identity) [] := by
  cases command with
  | host name bind publicAddr =>
      apply Routine.holds_bind.2
      apply (host_prints identity name bind publicAddr).mono
      intro result lines hlines
      cases result <;> exact hlines
  | join name invite =>
      apply Routine.holds_bind.2
      apply (join_prints identity name invite).mono
      intro result lines hlines
      cases result <;> exact hlines

end Fauna.Cli
