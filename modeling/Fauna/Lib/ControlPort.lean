import Fauna.Lib.Hex
import Fauna.Lib.Lines

/-!
# A control port with cookie authentication

The server's side of a control connection that takes the SAFECOOKIE method only. A challenge of
the client is answered with the server's hash and nonce, a login with the client's hash of that
challenge is granted, and any other login is refused and ends the connection.

* `receive_line`: a command is handled once the end of its line has arrived.
* `handle_challenge`, `handle_login`, `handle_bare`: what a server answers.
-/

namespace Fauna.Lib

/-- A server. It sends its hashes in one of the two letter cases, and some text with a refusal. -/
structure ControlServer where
  hmac : Bytes → Bytes → Bytes
  cookie : Bytes
  nonce : Bytes
  upper : Bool
  refusal : Text

/-- A control connection, as the server has it. -/
structure ControlSession where
  /-- Neither side has closed it. -/
  isOpen : Bool
  /-- The start of a command that has not ended yet. -/
  received : Bytes
  /-- The lines that are sent and not yet read. -/
  replies : List Text
  /-- The client's nonce of the last challenge. -/
  challenge : Option Bytes
  /-- A login was granted. -/
  authenticated : Bool

namespace ControlSession

/-- A connection that was just accepted. -/
def accepted : ControlSession := ⟨true, [], [], none, false⟩

/-- A line is sent. -/
def reply (session : ControlSession) (line : Text) : ControlSession :=
  { session with replies := session.replies ++ [line ++ "\r\n".toList] }

/-- A line is sent, and the connection is closed. -/
def refuse (session : ControlSession) (line : Text) : ControlSession :=
  { session.reply line with isOpen := false }

end ControlSession

namespace ControlServer

/-- The hash that proves the server knows the cookie. -/
def serverHash (server : ControlServer) (clientNonce : Bytes) : Bytes :=
  server.hmac (utf8Encode "Tor safe cookie authentication server-to-controller hash".toList)
    (server.cookie ++ clientNonce ++ server.nonce)

/-- The hash that proves the client knows the cookie. -/
def clientHash (server : ControlServer) (clientNonce : Bytes) : Bytes :=
  server.hmac (utf8Encode "Tor safe cookie authentication controller-to-server hash".toList)
    (server.cookie ++ clientNonce ++ server.nonce)

/-- The answer to a challenge. -/
def challengeReply (server : ControlServer) (clientNonce : Bytes) : Text :=
  "250 AUTHCHALLENGE SERVERHASH=".toList ++ Hex.encode server.upper (server.serverHash clientNonce) ++
    " SERVERNONCE=".toList ++ Hex.encode server.upper server.nonce

/-- A login proves that the client knows the cookie. -/
def grants (server : ControlServer) (session : ControlSession) (argument : Text) : Bool :=
  match session.challenge, argument with
  | some clientNonce, ' ' :: hash => Hex.decode hash == some (server.clientHash clientNonce)
  | _, _ => false

/-- A command, without the end of its line. -/
def handle (server : ControlServer) (session : ControlSession) (command : Text) : ControlSession :=
  match "AUTHCHALLENGE SAFECOOKIE ".toList.isPrefixOf? command with
  | some nonce =>
      match Hex.decode nonce with
      | some clientNonce =>
          { session.reply (server.challengeReply clientNonce) with challenge := some clientNonce }
      | none => session.refuse "513 Invalid base16 client nonce".toList
  | none =>
      match "AUTHENTICATE".toList.isPrefixOf? command with
      | some argument =>
          if server.grants session argument then
            { session.reply "250 OK".toList with authenticated := true }
          else session.refuse ("515 ".toList ++ server.refusal)
      | none =>
          if session.authenticated then session.reply "510 Unrecognized command".toList
          else session.refuse "514 Authentication required.".toList

/-- A line without its end. -/
def withoutEnd (line : Text) : Text :=
  let line := line.dropLast
  if line.getLast? = some '\r' then line.dropLast else line

/-- A whole line, which ends a command. -/
def handleLine (server : ControlServer) (session : ControlSession) (line : Bytes) :
    ControlSession :=
  match utf8Decode line with
  | some line => server.handle session (withoutEnd line)
  | none => session.refuse "514 Authentication required.".toList

/-- Some bytes arrive, from a client that waits for each reply before it goes on. -/
def receive (server : ControlServer) (session : ControlSession) (bytes : Bytes) : ControlSession :=
  match takeLine (session.received ++ bytes) with
  | none => { session with received := session.received ++ bytes }
  | some (line, rest) => server.handleLine { session with received := rest } line

variable {server : ControlServer} {session : ControlSession} {command : Text}

/-- A challenge is taken in either letter case. -/
theorem handle_challenge (upper : Bool) (clientNonce : Bytes) :
    server.handle session ("AUTHCHALLENGE SAFECOOKIE ".toList ++ Hex.encode upper clientNonce) =
      { session.reply (server.challengeReply clientNonce) with challenge := some clientNonce } := by
  have hstart : "AUTHCHALLENGE SAFECOOKIE ".toList.isPrefixOf?
      ("AUTHCHALLENGE SAFECOOKIE ".toList ++ Hex.encode upper clientNonce) =
        some (Hex.encode upper clientNonce) :=
    List.isPrefixOf?_eq_some_iff_append_eq.2 rfl
  unfold handle
  rw [hstart]
  show (match Hex.decode (Hex.encode upper clientNonce) with
    | some clientNonce => _
    | none => _) = _
  rw [Hex.decode_encode]

/-- A bare login is refused, whatever came before it. -/
theorem handle_bare : server.handle session "AUTHENTICATE".toList =
    session.refuse ("515 ".toList ++ server.refusal) := by
  have hgrants : server.grants session [] = false := by
    unfold grants
    split
    next h => cases h
    rfl
  show (if server.grants session [] then _ else _) = _
  rw [hgrants]
  rfl

/-- The client's hash of the last challenge is granted. -/
theorem handle_login {clientNonce : Bytes} (h : session.challenge = some clientNonce)
    (upper : Bool) : server.handle session ("AUTHENTICATE ".toList ++
      Hex.encode upper (server.clientHash clientNonce)) =
        { session.reply "250 OK".toList with authenticated := true } := by
  have hgrants : server.grants session
      (' ' :: Hex.encode upper (server.clientHash clientNonce)) = true := by
    unfold grants
    rw [h]
    show (Hex.decode (Hex.encode upper (server.clientHash clientNonce)) == _) = true
    rw [Hex.decode_encode, beq_self_eq_true]
  show (if server.grants session (' ' :: Hex.encode upper (server.clientHash clientNonce)) then _
    else _) = _
  rw [hgrants]
  rfl

/-- The end of its line is no part of a command. -/
theorem withoutEnd_append (command : Text) : withoutEnd (command ++ "\r\n".toList) = command := by
  have hlast : (command ++ "\r\n".toList).dropLast = command ++ ['\r'] := by
    rw [List.dropLast_append_of_ne_nil (by decide)]
    rfl
  rw [withoutEnd, hlast, List.getLast?_concat, if_pos rfl, List.dropLast_concat]

/-- A command and the end of its line are one line. -/
theorem takeLine_command (hcommand : '\n' ∉ command) :
    takeLine (utf8Encode command ++ utf8Encode "\r\n".toList) =
      some (utf8Encode (command ++ "\r\n".toList), []) := by
  have hbody : newline ∉ utf8Encode (command ++ ['\r']) := by
    rw [newline_mem_utf8Encode]
    simpa using hcommand
  have hcut := takeLine_append_newline hbody []
  have hnewline : [newline] = utf8Encode ['\n'] := rfl
  rw [hnewline, ← utf8Encode_append, List.append_assoc] at hcut
  rw [← utf8Encode_append]
  exact hcut

/-- The connection once the command is written, without the end of its line. -/
theorem receive_start (hsession : session.received = []) (hcommand : '\n' ∉ command) :
    server.receive session (utf8Encode command) =
      { session with received := utf8Encode command } := by
  have hnone : takeLine (session.received ++ utf8Encode command) = none := by
    rw [hsession, List.nil_append, takeLine_eq_none_iff]
    exact fun h => hcommand ((newline_mem_utf8Encode command).1 h)
  rw [receive, hnone, hsession]
  rfl

/-- A command is handled once the end of its line is written. -/
theorem receive_line (hsession : session.received = []) (hcommand : '\n' ∉ command) :
    server.receive (server.receive session (utf8Encode command)) (utf8Encode "\r\n".toList) =
      server.handle session command := by
  have hclear : { session with received := [] } = session := by rw [← hsession]
  rw [receive_start hsession hcommand, receive, takeLine_command hcommand]
  show server.handleLine { session with received := [] } _ = _
  rw [hclear, handleLine, utf8Decode_utf8Encode]
  show server.handle session (withoutEnd _) = _
  rw [withoutEnd_append]

end ControlServer

end Fauna.Lib
