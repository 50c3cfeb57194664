import Fauna.Lib.Transition
import Fauna.Wire.PeerBytes

/-!
# One session, step by step

`run_session` of either program as a machine: the thread that handshakes and then runs the send
loop, the receive thread it spawns, the queue of typed lines, and the events. A step is a label;
what the outside decides (the bytes a read returns, whether a call on the socket fails, the
nonce that is drawn, what the user types) is part of the label, and `Session.react` says what the
session makes of it and what it writes to the socket.

The socket is held by two clones. The reader belongs to the main thread until the handshake is
over and then to the receive thread; the writer belongs to the main thread until its send loop
ends. `Session.closed` is the state in which neither is left.
-/

namespace Fauna.Net

open Fauna.Lib Fauna.Core Fauna.Wire

/-- What a session is started with: the arguments of `run_session`, the keypair it generates, and
the program it is part of. -/
structure Config (C : Crates) where
  program : Program
  identity : DeviceIdentity C.primitives
  displayName : Text
  expected : Option Text
  exchange : ExchangeKeypair C.primitives

/-- The hello a session writes. -/
def Config.hello {C : Crates} (config : Config C) : HelloFrame Text :=
  createHello config.identity config.displayName config.exchange

/-- Where the thread of `run_session` is. -/
inductive Main (C : Crates)
  /-- In `host_network` or `join_network`, before there is a socket. -/
  | preparing
  /-- About to write the hello. -/
  | starting
  /-- Reading the remote hello. -/
  | awaitingHello (buffer : Bytes)
  /-- In the send loop. -/
  | sending (key : SessionKey C.primitives)
  /-- The send loop is over, or there was none; the writer and the queue are dropped. -/
  | returned (failure : Option Text)
  | ended

/-- Where the receive thread is. -/
inductive Receiver (C : Crates)
  | unspawned
  /-- In `receive_loop`. -/
  | looping (key : SessionKey C.primitives) (buffer : Bytes)
  /-- `receive_loop` has returned and the reader is dropped. -/
  | returned (fault : Fault)
  | ended

/-- The receive thread has not ended: `run_session` of the CLI would wait to join it. -/
def Receiver.running {C : Crates} : Receiver C → Bool
  | .looping _ _ | .returned _ => true
  | _ => false

/-- What the receive thread has buffered, while it reads. -/
def Receiver.buffer {C : Crates} : Receiver C → Option Bytes
  | .looping _ buffer => some buffer
  | _ => none

/-- The events for the end of a main thread. -/
def mainEvents : Program → Option Text → List NetworkEvent
  | .desktop, some message => failureEvents (.error message)
  | _, _ => []

/-- The events for the end of a receive thread; the CLI prints its error. -/
def receiverEvents : Program → Fault → List NetworkEvent
  | .desktop, fault => endEvents fault
  | .cli, _ => []

/-- A session, with the history of what it accepted, wrote and reported. -/
structure Session (C : Crates) where
  config : Config C
  main : Main C
  receiver : Receiver C
  /-- Typed lines that the send loop has not taken yet. -/
  queue : List Text
  /-- Somebody can still type: the `Sender` is alive, or stdin is open. -/
  inputOpen : Bool
  /-- Events that were emitted and not drained yet. -/
  events : List NetworkEvent
  /-- The accepted hello and the session key. -/
  peer : Option (HelloFrame Text × SessionKey C.primitives)
  /-- What was typed. -/
  submitted : List Text
  /-- The bodies the send loop wrote, or tried to, with their frames. -/
  sent : List (Text × ChatFrame Text)
  /-- The records written, or tried to. -/
  written : List Record
  /-- The bodies the receive loop reported. -/
  reported : List Text

variable {C : Crates}

/-- A session whose main thread stands at `main`. -/
def Session.new (config : Config C) (main : Main C) : Session C :=
  ⟨config, main, .unspawned, [], true, [], none, [], [], [], []⟩

/-- The thread of `run_session` still owns the queue: sending to it succeeds. -/
def Session.live (session : Session C) : Bool :=
  match session.main with
  | .returned _ | .ended => false
  | _ => true

/-- What the thread that reads has buffered, if one reads. -/
def Session.reading (session : Session C) : Option Bytes :=
  match session.main with
  | .awaitingHello buffer => some buffer
  | _ => session.receiver.buffer

/-- What has been read of the stream and not used, as long as more may be read. -/
def Session.inbox (session : Session C) : Option Bytes :=
  match session.main with
  | .preparing | .starting => some []
  | _ => session.reading

/-- No clone of the socket is left. -/
def Session.closed (session : Session C) : Bool :=
  !session.live && session.reading.isNone

/-- `send_loop` of the CLI skips blank lines; the window never queues one. -/
def skips : Program → Text → Bool
  | .cli, line => trim line = []
  | .desktop, _ => false

/-- A step of a session. -/
inductive Label (C : Crates)
  /-- The user types a line, closes the input (by the end of stdin, or because the window drops
  its handle), or ends the process. -/
  | submit (line : Text)
  | closeInput
  | exit
  /-- Reading stdin fails. -/
  | failInput (message : Text)
  /-- `host_network` and `join_network` before the socket. -/
  | announce (event : NetworkEvent)
  | connect
  | failConnect (message : Text)
  /-- The hello is written, or the write fails after `count` bytes. -/
  | writeHello
  | failHello (count : ℕ) (message : Text)
  /-- The send loop takes a line and writes it, or the write fails after `count` bytes. -/
  | sendNext (nonce : Nonce C.primitives)
  | failSend (nonce : Nonce C.primitives) (count : ℕ) (message : Text)
  /-- The send loop finds the queue empty and the input closed. -/
  | finishInput
  /-- A read of the socket returns bytes; a line is complete; the stream has ended; the read
  fails. -/
  | fill (bytes : Bytes)
  | readLine
  | readEnd
  | failRead (message : Text)
  /-- The code after `run_session`, and after `receive_loop`. -/
  | finishMain
  | finishReceiver

/-- The send loop, or what comes before it, returns. -/
def Session.leave (session : Session C) (failure : Option Text) : Session C :=
  { session with main := .returned failure, queue := [] }

/-- A panic of the main thread unwinds it. -/
def Session.fail (session : Session C) : Fault → Session C
  | .error message => session.leave (some message)
  | .panic => { session with main := .ended, queue := [] }

/-- The frame of a line that the send loop took. -/
def Session.wrote (session : Session C) (line : Text) (frame : ChatFrame Text)
    (rest : List Text) : Session C :=
  { session with
    queue := rest
    sent := session.sent ++ [(line, frame)]
    written := session.written ++ [chatRecord frame] }

/-- The hello that was written, or tried to. -/
def Session.wroteHello (session : Session C) (main : Main C) : Session C :=
  { session with main := main, written := session.written ++ [helloRecord session.config.hello] }

/-- The remote hello is accepted: the session is announced and the receive thread takes over the
reader with what is left in its buffer. -/
def Session.accept (session : Session C) (hello : HelloFrame Text)
    (key : SessionKey C.primitives) (rest : Bytes) : Session C :=
  { session with
    main := .sending key
    receiver := .looping key rest
    peer := some (hello, key)
    events := session.events ++ [.connected hello.displayName] }

/-- The receive loop reports a body. -/
def Session.report (session : Session C) (key : SessionKey C.primitives) (rest : Bytes)
    (body : Text) : Session C :=
  { session with
    receiver := .looping key rest
    reported := session.reported ++ [body]
    events := session.events ++ [.incoming body] }

variable (J : SerdeJson)

/-- The thread that reads has a line, and `rest` is left in its buffer. -/
def Session.onLine (session : Session C) (line rest : Bytes) : Session C :=
  match session.main, session.receiver with
  | .awaitingHello _, _ =>
      match greet J session.config.program session.config.exchange session.config.expected line with
      | .ok (hello, key) => session.accept hello key rest
      | .error fault => session.fail fault
  | _, .looping key _ =>
      match receiveOnce J session.config.program key line with
      | .ok body => session.report key rest body
      | .error fault => { session with receiver := .returned fault }
  | _, _ => session

/-- Where the thread that reads stands, with another buffer. -/
def Session.refill (session : Session C) (buffer : Bytes) : Session C :=
  match session.main, session.receiver with
  | .awaitingHello _, _ => { session with main := .awaitingHello buffer }
  | _, .looping key _ => { session with receiver := .looping key buffer }
  | _, _ => session

/-- The read of the thread that reads fails. -/
def Session.readFails (session : Session C) (message : Text) : Session C :=
  match session.main with
  | .awaitingHello _ => session.leave (some message)
  | _ => { session with receiver := .returned (.error message) }

/-- The session after a step, and what it writes to the socket. -/
def Session.react (session : Session C) : Label C → Option (Session C × Bytes)
  | .submit line =>
      if session.inputOpen ∧ session.live then
        some ({ session with queue := session.queue ++ [line],
                             submitted := session.submitted ++ [line] }, [])
      else none
  | .closeInput => if session.inputOpen then some ({ session with inputOpen := false }, []) else none
  | .exit => some ({ session with main := .ended, receiver := .ended, queue := [],
                                  inputOpen := false }, [])
  | .failInput message =>
      match session.config.program, session.main with
      | .cli, .sending _ => some (session.leave (some message), [])
      | _, _ => none
  | .announce event =>
      match session.main, event with
      | .preparing, .status _ | .preparing, .inviteCreated _ =>
          some ({ session with events := session.events ++ [event] }, [])
      | _, _ => none
  | .connect =>
      match session.main with
      | .preparing => some ({ session with main := .starting }, [])
      | _ => none
  | .failConnect message =>
      match session.main with
      | .preparing => some (session.leave (some message), [])
      | _ => none
  | .writeHello =>
      match session.main with
      | .starting => some (session.wroteHello (.awaitingHello []),
          jsonLine J (helloRecord session.config.hello))
      | _ => none
  | .failHello count message =>
      match session.main with
      | .starting => some ((session.wroteHello .starting).leave (some message),
          (jsonLine J (helloRecord session.config.hello)).take count)
      | _ => none
  | .sendNext nonce =>
      match session.main, session.queue with
      | .sending key, line :: rest =>
          if skips session.config.program line then some ({ session with queue := rest }, [])
          else
            match sealChat key nonce line with
            | .ok frame => some (session.wrote line frame rest, jsonLine J (chatRecord frame))
            | .error fault => some (session.fail fault, [])
      | _, _ => none
  | .failSend nonce count message =>
      match session.main, session.queue with
      | .sending key, line :: rest =>
          if skips session.config.program line then none
          else
            match sealChat key nonce line with
            | .ok frame => some ((session.wrote line frame rest).leave (some message),
                (jsonLine J (chatRecord frame)).take count)
            | .error _ => none
      | _, _ => none
  | .finishInput =>
      match session.main, session.queue with
      | .sending _, [] => if session.inputOpen then none else some (session.leave none, [])
      | _, _ => none
  | .fill bytes =>
      match session.reading with
      | some buffer =>
          if bytes ≠ [] ∧ takeLine buffer = none then
            some (session.refill (buffer ++ bytes), [])
          else none
      | none => none
  | .readLine =>
      match session.reading with
      | some buffer =>
          match takeLine buffer with
          | some (line, rest) => some (session.onLine J line rest, [])
          | none => none
      | none => none
  | .readEnd =>
      match session.reading with
      | some buffer => if takeLine buffer = none then some (session.onLine J buffer [], []) else none
      | none => none
  | .failRead message =>
      match session.reading with
      | some buffer => if takeLine buffer = none then some (session.readFails message, []) else none
      | none => none
  | .finishMain =>
      match session.main with
      | .returned failure =>
          if session.config.program = .cli ∧ session.receiver.running then none
          else some ({ session with
            main := .ended
            events := session.events ++ mainEvents session.config.program failure }, [])
      | _ => none
  | .finishReceiver =>
      match session.receiver with
      | .returned fault => some ({ session with
            receiver := .ended
            events := session.events ++ receiverEvents session.config.program fault }, [])
      | _ => none

end Fauna.Net
