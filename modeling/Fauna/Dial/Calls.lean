import Fauna.Lib.Routine
import Fauna.Wire.PeerBytes

/-!
# The calls of the code before a session

`host_network` and `join_network` up to the handshake, the CLI's `host` and `join`, and the Tor
client code are routines that call the operating system. `Call` lists these calls, each with the
type of its answer; an answer that can fail carries the text of its error. A connection is dialed
for one of three ends, and a call names it: the peer itself, Tor's SOCKS proxy, or Tor's control
port.
-/

namespace Fauna.Dial

open Fauna.Lib Fauna.Core Fauna.Wire

/-- What a `TcpStream::connect` is for. -/
inductive Route
  /-- The peer at the address of an invite. -/
  | direct
  /-- The SOCKS proxy of Tor. -/
  | proxy
  /-- The control port of Tor. -/
  | control
  deriving DecidableEq

/-- The calls. `writeAll`, `readExact` and `readLine` are on the connection dialed last. -/
inductive Call
  /-- `events.send(event).ok()` -/
  | emit (event : NetworkEvent)
  /-- `println!` -/
  | printLine (line : Text)
  /-- `thread::sleep` -/
  | sleep (seconds : ℕ)
  /-- `TcpListener::bind` -/
  | bind (address : Text)
  /-- `listener.local_addr()`, as the text it is used as -/
  | localAddr
  /-- `listener.accept()`, with the text of the remote address -/
  | accept
  /-- `TcpStream::connect` -/
  | connect (route : Route) (address : Text)
  /-- `stream.try_clone()` -/
  | tryClone
  /-- `stream.write_all(bytes)` -/
  | writeAll (bytes : Bytes)
  /-- `stream.read_exact(&mut [0; count])` -/
  | readExact (count : ℕ)
  /-- `reader.read_line(&mut line)`; no text is the end of the stream -/
  | readLine
  /-- `read_control_cookie()` -/
  | readControlCookie
  /-- `OsRng.fill_bytes(&mut [0; count])` -/
  | fillBytes (count : ℕ)
  /-- A read that is never answered. -/
  | block
  deriving DecidableEq

/-- The type of the answer to a call. -/
@[reducible] def Call.Answer : Call → Type
  | .emit _ | .printLine _ | .sleep _ => Unit
  | .bind _ | .connect _ _ | .tryClone | .writeAll _ => Except Text Unit
  | .localAddr | .accept | .readLine => Except Text Text
  | .readControlCookie => Except Text Bytes
  | .readExact count => Except Text { bytes : Bytes // bytes.length = count }
  | .fillBytes count => { bytes : Bytes // bytes.length = count }
  | .block => Empty

/-- A routine of the two programs. -/
abbrev Action (α : Type) := Routine Call.Answer Fault α

namespace Action

variable {α : Type}

/-- A single call. -/
def ask (c : Call) : Action c.Answer := Routine.ask c

/-- `bail!`. -/
def bail (message : Text) : Action α := .fail (.error message)

/-- The `?` on an answer. -/
def orFail : Except Text α → Action α
  | .ok a => .done a
  | .error message => bail message

/-- `with_context` on an answer: an error is known by the text of its context. -/
def orContext (context : Text) : Except Text α → Action α
  | .ok a => .done a
  | .error _ => bail context

/-- An error that is matched on, as the text of its `to_string`; a panic is not. -/
def caught : Fault → Option Text
  | .error message => some message
  | .panic => none

/-- `events.send(event).ok()`, where there are events. -/
def emit (events : Bool) (event : NetworkEvent) : Action Unit :=
  if events then ask (.emit event) else .done ()

/-- `stream.write_all(bytes)?`. -/
def writeAll (bytes : Bytes) : Action Unit := do orFail (← ask (.writeAll bytes))

/-- `stream.read_exact(&mut buffer)?`. -/
def readExact (count : ℕ) : Action { bytes : Bytes // bytes.length = count } := do
  orFail (← ask (.readExact count))

/-- `TcpStream::connect(address).with_context(..)?`. -/
def connect (route : Route) (address context : Text) : Action Unit := do
  orContext context (← ask (.connect route address))

/-- An error that is returned, and no panic. -/
def Returned (fault : Fault) : Prop := ∃ message, fault = .error message

/-- An error that the code returns is no panic. -/
theorem raises_bail (message : Text) : (bail message : Action α).Raises Returned :=
  ⟨message, rfl⟩

/-- Nor is one that it passes on. -/
theorem raises_orFail (r : Except Text α) : (orFail r).Raises Returned := by
  cases r with
  | ok a => trivial
  | error message => exact raises_bail message

/-- Nor is one that it gives a context. -/
theorem raises_orContext (context : Text) (r : Except Text α) :
    (orContext context r).Raises Returned := by
  cases r with
  | ok a => trivial
  | error message => exact raises_bail context

/-- Passing an error on calls nothing. -/
theorem all_orFail {kind : Call → Prop} (r : Except Text α) : (orFail r).All kind := by
  cases r <;> trivial

/-- Giving it a context calls nothing either. -/
theorem all_orContext {kind : Call → Prop} (context : Text) (r : Except Text α) :
    (orContext context r).All kind := by
  cases r <;> trivial

/-- Emitting calls nothing else. -/
theorem all_emit {kind : Call → Prop} {event : NetworkEvent} (h : kind (.emit event))
    (events : Bool) : (emit events event).All kind := by
  unfold emit
  split
  · exact ⟨h, fun _ => trivial⟩
  · trivial

end Action

end Fauna.Dial
