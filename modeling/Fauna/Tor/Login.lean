import Fauna.Tor.Control
import Fauna.Lib.ControlPort

/-!
# Logging in to a control port

`TorControl::connect` and `TorControl::authenticate` against a control server with cookie
authentication. The first `AUTHENTICATE` is refused, the server closes the connection, and the
challenge that follows goes to the closed connection.

* `meets_authenticateSafeCookie`: on a connection that is open, the challenge logs in.
* `cookie_login_never`: after the first `AUTHENTICATE` it does not.
-/

namespace Fauna.Tor

open Fauna.Lib Fauna.Core Fauna.Wire Fauna.Dial Fauna.Dial.Action

/-! ## The server at the other end -/

/-- What the code gets from a control server. A closed connection has what was sent before, and
then its end or an error. -/
def Serves (server : ControlServer) (session : ControlSession) :
    Routine.Answered Call.Answer → ControlSession → Prop
  | ⟨.connect .control _, answer⟩, next => answer = .ok () ∧ next = .accepted
  | ⟨.writeAll bytes, answer⟩, next =>
      if session.isOpen then answer = .ok () ∧ next = server.receive session bytes
      else next = session
  | ⟨.readLine, answer⟩, next =>
      match session.replies with
      | line :: rest => answer = .ok line ∧ next = { session with replies := rest }
      | [] => session.isOpen = false ∧ (∀ line, answer = .ok line → line = []) ∧ next = session
  | ⟨.readControlCookie, answer⟩, next => answer = .ok server.cookie ∧ next = session
  | ⟨.fillBytes _, _⟩, next => next = session
  | _, _ => False

/-- A control server as a transition system. -/
def controlPort (server : ControlServer) : Lts ControlSession (Routine.Answered Call.Answer) where
  init _ := True
  step := Serves server

/-- `TorControl::connect` and `authenticate`. -/
def login (hmac : Bytes → Bytes → Bytes) (rounds : ℕ) (controlAddr : Text) : Action Unit := do
  TorControl.connect controlAddr
  TorControl.authenticate hmac rounds

/-- In every run against the server the calls are answered, and the end is as stated. -/
abbrev Meets {α : Type} (server : ControlServer) (post : Except Fault α → ControlSession → Prop)
    (action : Action α) (session : ControlSession) : Prop :=
  action.Holds (controlPort server) (Routine.Answers (controlPort server)) post session

section Calls

variable {α : Type} {server : ControlServer} {session : ControlSession}

/-- On an open connection the server receives what is written. -/
theorem meets_writeAll {bytes : Bytes} {post : Except Fault Unit → ControlSession → Prop}
    (hopen : session.isOpen = true) (h : post (.ok ()) (server.receive session bytes)) :
    Meets server post (writeAll bytes) session := by
  have hstep {answer : Except Text Unit} {next : ControlSession} :
      (controlPort server).step session ⟨.writeAll bytes, answer⟩ next ↔
        answer = .ok () ∧ next = server.receive session bytes := by
    show (if session.isOpen then _ else _) ↔ _
    rw [if_pos hopen]
  constructor
  · exact ⟨.ok (), _, hstep.2 ⟨rfl, rfl⟩⟩
  · intro answer next hnext
    obtain ⟨rfl, rfl⟩ := hstep.1 hnext
    exact h

/-- A command on an open connection, up to its reply. -/
theorem meets_command {rounds : ℕ} {command : Text}
    {post : Except Fault (List Text) → ControlSession → Prop} (hopen : session.isOpen = true)
    (hreceived : session.received = []) (hcommand : '\n' ∉ command)
    (h : Meets server post (readReply rounds []) (server.handle session command)) :
    Meets server post (TorControl.command rounds command) session := by
  unfold TorControl.command
  apply Routine.holds_bind.2
  apply meets_writeAll hopen
  apply Routine.holds_bind.2
  have hstart : server.receive session (utf8Encode command) =
      { session with received := utf8Encode command } :=
    ControlServer.receive_start hreceived hcommand
  apply meets_writeAll
  · rw [hstart]
    exact hopen
  · rw [ControlServer.receive_line hreceived hcommand]
    exact h

/-- The reply is one line: an end of success, or an error. -/
theorem meets_readReply {rounds : ℕ} {line : Text} {rest : List Text}
    {post : Except Fault (List Text) → ControlSession → Prop}
    (hreplies : session.replies = line :: rest) (hline : line ≠ [])
    (h : if "250 ".toList.isPrefixOf (trimEnd line) then
        post (.ok [trimEnd line]) { session with replies := rest }
      else ("5".toList.isPrefixOf (trimEnd line) || "4".toList.isPrefixOf (trimEnd line)) ∧
        ∀ message, post (.error (.error message)) { session with replies := rest }) :
    Meets server post (readReply (rounds + 1) []) session := by
  have hstep {answer : Except Text Text} {next : ControlSession} :
      (controlPort server).step session ⟨.readLine, answer⟩ next ↔
        answer = .ok line ∧ next = { session with replies := rest } := by
    show (match session.replies with
      | line :: rest => answer = .ok line ∧ next = { session with replies := rest }
      | [] => _) ↔ _
    rw [hreplies]
  rw [readReply]
  apply Routine.holds_bind.2
  constructor
  · exact ⟨.ok line, _, hstep.2 ⟨rfl, rfl⟩⟩
  · intro answer next hnext
    obtain ⟨rfl, rfl⟩ := hstep.1 hnext
    show Meets server post (if line = [] then _ else _) _
    rw [if_neg hline]
    show Meets server post (if "250 ".toList.isPrefixOf (trimEnd line) then _ else _) _
    split at h
    · next hdone =>
      rw [if_pos hdone]
      exact h
    · next hdone =>
      rw [if_neg hdone, if_pos h.1]
      exact h.2 _

end Calls

/-! ## The challenge on an open connection -/

section Challenge

variable {server : ControlServer} {clientNonce : Bytes}

/-- A field of the server's answer has no whitespace in it. -/
theorem any_isWhitespace_field {name : Text} (hname : name.any isWhitespace = false)
    {bytes : Bytes} : (name ++ Hex.encode server.upper bytes).any isWhitespace = false := by
  rw [List.any_append, hname, any_isWhitespace_encode]
  rfl

/-- The server's answer to a challenge, word by word. -/
theorem challengeReply_eq : server.challengeReply clientNonce =
    "250".toList ++ ' ' :: ("AUTHCHALLENGE".toList ++
      ' ' :: (("SERVERHASH=".toList ++ Hex.encode server.upper (server.serverHash clientNonce)) ++
        ' ' :: ("SERVERNONCE=".toList ++ Hex.encode server.upper server.nonce))) := by
  have hstart : "250 AUTHCHALLENGE SERVERHASH=".toList =
      "250".toList ++ ' ' :: ("AUTHCHALLENGE".toList ++ ' ' :: "SERVERHASH=".toList) := rfl
  have hmiddle : " SERVERNONCE=".toList = ' ' :: "SERVERNONCE=".toList := rfl
  unfold ControlServer.challengeReply
  simp only [hstart, hmiddle, List.append_assoc, List.cons_append]

/-- The words of the reply to a challenge. -/
theorem splitWhitespace_challengeReply : splitWhitespace (server.challengeReply clientNonce) =
    ["250".toList, "AUTHCHALLENGE".toList,
      "SERVERHASH=".toList ++ Hex.encode server.upper (server.serverHash clientNonce),
      "SERVERNONCE=".toList ++ Hex.encode server.upper server.nonce] := by
  rw [challengeReply_eq, splitWhitespace_append (by decide) (by decide),
    splitWhitespace_append (by decide) (by decide),
    splitWhitespace_append (List.append_ne_nil_of_left_ne_nil (by decide) _)
      (any_isWhitespace_field (by decide)),
    splitWhitespace_word (List.append_ne_nil_of_left_ne_nil (by decide) _)
      (any_isWhitespace_field (by decide))]

/-- The code finds the hash of the server among them. -/
theorem readField_serverHash : readField (server.challengeReply clientNonce) "SERVERHASH=".toList =
    .ok (Hex.encode server.upper (server.serverHash clientNonce)) := by
  rw [readField, splitWhitespace_challengeReply]
  rfl

/-- And its nonce. -/
theorem readField_serverNonce :
    readField (server.challengeReply clientNonce) "SERVERNONCE=".toList =
      .ok (Hex.encode server.upper server.nonce) := by
  rw [readField, splitWhitespace_challengeReply]
  rfl

/-- The server's answer to a challenge ends in no whitespace. -/
theorem trimEnd_challengeReply :
    trimEnd (server.challengeReply clientNonce) = server.challengeReply clientNonce := by
  have hfield : trimEnd ("SERVERNONCE=".toList ++ Hex.encode server.upper server.nonce) =
      "SERVERNONCE=".toList ++ Hex.encode server.upper server.nonce :=
    trimEnd_eq_self (any_isWhitespace_field (by decide))
  have hsplit : server.challengeReply clientNonce = ("250 AUTHCHALLENGE SERVERHASH=".toList ++
      Hex.encode server.upper (server.serverHash clientNonce) ++ [' ']) ++
        ("SERVERNONCE=".toList ++ Hex.encode server.upper server.nonce) := by
    have hmiddle : " SERVERNONCE=".toList = [' '] ++ "SERVERNONCE=".toList := rfl
    unfold ControlServer.challengeReply
    simp only [hmiddle, List.append_assoc]
  rw [hsplit, trimEnd_append, hfield,
    if_neg (List.append_ne_nil_of_left_ne_nil (by decide) _)]

/-- A command that ends in hexadecimal text is one line. -/
theorem newline_not_mem_command {name : Text} (hname : '\n' ∉ name) (bytes : Bytes) :
    '\n' ∉ name ++ hexEncode bytes := by
  intro h
  rcases List.mem_append.1 h with h | h
  · exact hname h
  · exact List.any_eq_false.1 any_isWhitespace_encode '\n' h rfl

/-- On an open connection the challenge of the code logs in, whatever the nonces are and whichever
letter case the server sends its hashes in. -/
theorem meets_authenticateSafeCookie (server : ControlServer) (rounds : ℕ) :
    Meets server (fun result next => result = .ok () ∧ next.authenticated = true)
      (TorControl.authenticateSafeCookie server.hmac (rounds + 1) server.cookie) .accepted := by
  constructor
  · exact ⟨⟨List.replicate 32 0, rfl⟩, .accepted, rfl⟩
  rintro ⟨clientNonce, hlength⟩ t rfl
  show Meets server _ (TorControl.command (rounds + 1) _ >>= _) _
  apply Routine.holds_bind.2
  apply meets_command rfl rfl (newline_not_mem_command (by decide) _)
  rw [hexEncode, ControlServer.handle_challenge]
  apply meets_readReply rfl
  · exact List.append_ne_nil_of_right_ne_nil _ (by decide)
  rw [trimEnd_append_newline, trimEnd_challengeReply]
  show Meets server _ (Routine.ofExcept (readField (server.challengeReply clientNonce)
    "SERVERHASH=".toList) >>= _) _
  rw [readField_serverHash, readField_serverNonce]
  show Meets server _ (Routine.ofExcept (hexDecode (Hex.encode server.upper server.nonce)) >>= _) _
  rw [hexDecode_encode]
  show Meets server _ (if !eqIgnoreAsciiCase (Hex.encode server.upper
    (server.serverHash clientNonce)) (hexEncode (server.serverHash clientNonce)) then _ else _) _
  rw [eqIgnoreAsciiCase_encode]
  show Meets server _ (TorControl.command (rounds + 1) ("AUTHENTICATE ".toList ++
    Hex.encode true (server.clientHash clientNonce)) >>= _) _
  apply Routine.holds_bind.2
  apply meets_command rfl rfl (newline_not_mem_command (by decide) _)
  rw [hexEncode, ControlServer.handle_login rfl]
  apply meets_readReply rfl
  · exact List.append_ne_nil_of_right_ne_nil _ (by decide)
  · exact ⟨rfl, rfl⟩

end Challenge

/-! ## A closed connection -/

/-- A connection that the server has closed, and on which nothing is left to read. -/
structure Closed (session : ControlSession) : Prop where
  isOpen : session.isOpen = false
  replies : session.replies = []

/-- The end in an error, on the closed connection. -/
def Fails {α : Type} (session : ControlSession) (result : Except Fault α) (next : ControlSession) :
    Prop := next = session ∧ ∃ message, result = .error (.error message)

section Closed

variable {α : Type} {server : ControlServer} {session : ControlSession}

/-- Writing changes nothing on a closed connection, whether it is an error or not. -/
theorem Closed.writeAll_bind (h : Closed session) (bytes : Bytes) {next : Unit → Action α}
    (hnext : Meets server (Fails session) (next ()) session) :
    Meets server (Fails session) (writeAll bytes >>= next) session := by
  have hstep {answer : Except Text Unit} {next : ControlSession} :
      (controlPort server).step session ⟨.writeAll bytes, answer⟩ next ↔ next = session := by
    show (if session.isOpen then _ else _) ↔ _
    rw [h.isOpen]
    rfl
  constructor
  · exact ⟨.ok (), session, hstep.2 rfl⟩
  · intro answer t ht
    obtain rfl := hstep.1 ht
    cases answer with
    | ok _ => exact hnext
    | error message => exact ⟨rfl, message, rfl⟩

/-- There is no reply on a closed connection. -/
theorem Closed.readReply (h : Closed session) (rounds : ℕ) (lines : List Text) :
    Meets server (Fails session) (readReply (rounds + 1) lines) session := by
  have hstep {answer : Except Text Text} {next : ControlSession} :
      (controlPort server).step session ⟨.readLine, answer⟩ next ↔
        (∀ line, answer = .ok line → line = []) ∧ next = session := by
    show (match session.replies with
      | _ :: _ => _
      | [] => session.isOpen = false ∧ _) ↔ _
    rw [h.replies, h.isOpen]
    exact and_iff_right rfl
  constructor
  · exact ⟨.ok [], session, hstep.2 ⟨fun _ hline => (Except.ok.inj hline).symm, rfl⟩⟩
  · intro answer t ht
    obtain ⟨hanswer, rfl⟩ := hstep.1 ht
    cases answer with
    | ok line =>
        obtain rfl := hanswer line rfl
        exact ⟨rfl, _, rfl⟩
    | error message => exact ⟨rfl, message, rfl⟩

/-- No command succeeds on a closed connection. -/
theorem Closed.command (h : Closed session) (rounds : ℕ) (command : Text) :
    Meets server (Fails session) (TorControl.command (rounds + 1) command) session := by
  unfold TorControl.command
  apply h.writeAll_bind
  apply h.writeAll_bind
  exact h.readReply rounds []

/-- No challenge succeeds on a closed connection. -/
theorem Closed.authenticateSafeCookie (h : Closed session) (rounds : ℕ) (cookie : Bytes) :
    Meets server (Fails session)
      (TorControl.authenticateSafeCookie server.hmac (rounds + 1) cookie) session := by
  constructor
  · exact ⟨⟨List.replicate 32 0, rfl⟩, session, rfl⟩
  · rintro clientNonce t rfl
    show Meets server _ (TorControl.command (rounds + 1) _ >>= _) _
    apply Routine.holds_bind.2
    apply (h.command rounds _).mono
    rintro result t ⟨rfl, message, rfl⟩
    exact ⟨rfl, message, rfl⟩

end Closed

/-! ## The first login -/

/-- A bare `AUTHENTICATE` is refused, and the connection is closed. -/
theorem meets_authenticate (server : ControlServer) (rounds : ℕ) :
    Meets server (fun result next => Closed next ∧ ∃ message, result = .error (.error message))
      (TorControl.command (rounds + 1) "AUTHENTICATE".toList) .accepted := by
  apply meets_command rfl rfl (by decide)
  rw [ControlServer.handle_bare]
  apply meets_readReply rfl
  · exact List.append_ne_nil_of_right_ne_nil _ (by decide)
  · have hline : "515".toList <+: trimEnd ("515 ".toList ++ server.refusal ++ "\r\n".toList) :=
      List.isPrefixOf_iff_prefix.1 (isPrefixOf_trimEnd (s := "515".toList) (by decide) _)
    obtain ⟨rest, hrest⟩ := hline
    rw [← hrest]
    exact ⟨rfl, fun message => ⟨⟨rfl, rfl⟩, message, rfl⟩⟩

/-- Whatever the server and the nonces are, the login comes to its end, and it ends in an error. -/
theorem meets_login (server : ControlServer) (rounds : ℕ) (controlAddr : Text)
    (session : ControlSession) :
    Meets server (fun result _ => ∃ message, result = .error (.error message))
      (login server.hmac (rounds + 1) controlAddr) session := by
  constructor
  · exact ⟨.ok (), .accepted, rfl, rfl⟩
  rintro answer t ⟨rfl, rfl⟩
  show Meets server _ (TorControl.authenticate server.hmac (rounds + 1)) .accepted
  apply Routine.holds_bind.2
  apply Routine.holds_attempt.2
  apply (meets_authenticate server rounds).mono
  rintro result t ⟨hclosed, message, rfl⟩
  constructor
  · exact ⟨.ok server.cookie, t, rfl, rfl⟩
  rintro cookie u ⟨rfl, rfl⟩
  apply (hclosed.authenticateSafeCookie rounds server.cookie).mono
  rintro result v ⟨-, hfail⟩
  exact hfail

/-- Every run of the login against the server that comes to its end returns `Ok`. -/
def LogsIn (server : ControlServer) (rounds : ℕ) (controlAddr : Text) : Prop :=
  ∀ session history result next,
    Routine.Trace (login server.hmac rounds controlAddr) history (.ofExcept result) →
      (controlPort server).Run session history next → result = .ok ()

/-- A run of the login that comes to its end. -/
theorem login_error {server : ControlServer} {rounds : ℕ} {controlAddr : Text}
    {session next : ControlSession} {history : List (Routine.Answered Call.Answer)}
    {result : Except Fault Unit}
    (htrace : Routine.Trace (login server.hmac (rounds + 1) controlAddr) history
      (.ofExcept result))
    (hrun : (controlPort server).Run session history next) :
    ∃ message, result = .error (.error message) :=
  Routine.holds_ofExcept.1 ((meets_login server rounds controlAddr session).trace htrace hrun)

/-- No run of the login against such a server returns `Ok`. -/
theorem not_logsIn (server : ControlServer) (rounds : ℕ) (controlAddr : Text) :
    ¬ LogsIn server (rounds + 1) controlAddr := by
  intro h
  obtain ⟨history, result, next, htrace, hrun⟩ :=
    (meets_login server rounds controlAddr .accepted).exists_trace
  obtain ⟨message, hfail⟩ := login_error htrace hrun
  have hok := h _ _ _ _ htrace hrun
  rw [hfail] at hok
  cases hok

/-- Whatever the cookie, the nonces and the letter case are, a login with a cookie does not succeed:
every run of it ends in an error. -/
theorem cookie_login_never (server : ControlServer) (rounds : ℕ) (controlAddr : Text) :
    ¬ LogsIn server (rounds + 1) controlAddr ∧ ∀ session history result next,
      Routine.Trace (login server.hmac (rounds + 1) controlAddr) history (.ofExcept result) →
        (controlPort server).Run session history next →
          ∃ message, result = .error (.error message) :=
  ⟨not_logsIn server rounds controlAddr, fun _ _ _ _ => login_error⟩

/-- A hash of 32 bytes, each of which sums up the label and the message in its own way. -/
def checksums (label message : Bytes) : Bytes :=
  (List.range 32).map fun i =>
    .ofNat ((label ++ message).foldl (fun sum byte => 3 * sum + byte.toNat + i) 0)

/-- The control port of Tor Browser, with a cookie of zeros. -/
def torBrowser : ControlServer where
  hmac := checksums
  cookie := List.replicate 32 0
  nonce := List.replicate 32 0
  upper := true
  refusal := "Authentication failed: Wrong length on authentication cookie.".toList

/-- Nor does it against Tor Browser. -/
theorem tor_browser_login : ¬ LogsIn torBrowser 1 "127.0.0.1:9151".toList :=
  not_logsIn torBrowser 0 _

end Fauna.Tor
