import Fauna.Dial.Onion
import Fauna.Tor.Replies
import Fauna.Lib.ControlPort
import Fauna.Lib.Threads

/-!
# Hosts and joiners over the Tor network

The outside of any number of threads with Tor. The onion services of the network belong to all of
them; each has its own listener and its own connection to a Tor process without a password, as the
program itself starts it. Tor keeps a service with its port, the computer it was registered on and
the address to connect to there, and makes a new id for each. Its proxy connects to registered
services only. Everything may fail at any time, and nothing has to be granted.

* `Serves.changes`: what a call of a thread can change, and `torNetwork_rely`.
* `within_command`: a command on the control port, and its reply.
* `over_connectViaSocks5`: a connection through the proxy.
-/

namespace Fauna.Dial

open Fauna.Lib Fauna.Core Fauna.Wire Fauna.Tor Fauna.Dial.Action

/-! ## The network -/

/-- An onion service. -/
structure Service (ι : Type) where
  /-- The party on whose computer it was registered. -/
  owner : ι
  id : Text
  port : UInt16
  /-- The address on that computer that Tor connects to. -/
  target : Text

/-- The connection that a thread has dialed last. -/
inductive Connection (ι : Type)
  /-- There is none, or it has failed. -/
  | lost
  /-- To the control port: the start of a command, and the lines that are not read yet. -/
  | control (received : Bytes) (replies : List Text)
  /-- To the proxy: what was written, what is not read yet, and the service it was connected to. -/
  | proxy (received unread : Bytes) (reached : Option (Service ι))

/-- What a thread has of its own. -/
structure Own (ι : Type) where
  party : ι
  /-- The address of its listener. -/
  listener : Option Text
  connection : Connection ι
  /-- The invites it has emitted. -/
  announced : List Text

/-- A thread that has done nothing yet. -/
def Own.fresh {ι : Type} (party : ι) : Own ι := ⟨party, none, .lost, []⟩

/-- The services of the network, and what one thread has. -/
abbrev TorState (ι : Type) := List (Service ι) × Own ι

variable {ι : Type}

/-- A connection that was just accepted. -/
def Connection.dialed : Route → Connection ι
  | .direct => .lost
  | .proxy => .proxy [] [] none
  | .control => .control [] []

/-- What Tor makes of a command that a party has sent: the services, and the lines of its reply. -/
inductive Handles (services : List (Service ι)) (party : ι) :
    Text → List (Service ι) → List Text → Prop
  | authenticate : Handles services party "AUTHENTICATE".toList services ["250 OK".toList]
  | added {id target key : Text} {port : UInt16} (hid : IsServiceId id)
      (hnew : ∀ service ∈ services, service.id ≠ id) :
      Handles services party (addOnion port.toNat target)
        (services ++ [⟨party, id, port, target⟩])
        ["250-ServiceID=".toList ++ id, "250-PrivateKey=ED25519-V3:".toList ++ key,
          "250 OK".toList]
  | refused {command reply : Text} (hreply : IsFailure reply) :
      Handles services party command services [reply]

/-- What the proxy makes of all that was written to it: what it sends, and the service it has
connected to. -/
inductive Relays (services : List (Service ι)) : Bytes → Bytes → Option (Service ι) → Prop
  | chosen : Relays services Socks5.greeting Socks5.noAuthentication none
  | granted {service : Service ι} {request reply : Bytes} (hservice : service ∈ services)
      (hrequest : Socks5.decodeRequest request =
        some (service.id ++ ".onion".toList, service.port))
      (hreply : Socks5.Granted reply) :
      Relays services (Socks5.greeting ++ request) reply (some service)
  | refused {request bound : Bytes} {code : UInt8} {target : Text × UInt16}
      (hrequest : Socks5.decodeRequest request = some target) (hcode : code ≠ 0)
      (hbound : Socks5.Bound 1 bound) :
      Relays services (Socks5.greeting ++ request) ([5, code, 0, 1] ++ bound) none
  | waiting {received : Bytes} : Relays services received [] none

/-- What becomes of the services and of a connection once some bytes are written to it. -/
def Writes (services : List (Service ι)) (party : ι) (bytes : Bytes) :
    Connection ι → List (Service ι) → Connection ι → Prop
  | .lost, services', connection => services' = services ∧ connection = .lost
  | .control received replies, services', connection =>
      match takeLine (received ++ bytes) with
      | none => services' = services ∧ connection = .control (received ++ bytes) replies
      | some (line, rest) => ∃ command lines, utf8Decode line = some command ∧
          Handles services party (ControlServer.withoutEnd command) services' lines ∧
          connection = .control rest (replies ++ lines.map (· ++ "\r\n".toList))
  | .proxy received unread _, services', connection => services' = services ∧
      ∃ sent reached, Relays services (received ++ bytes) sent reached ∧
        connection = .proxy (received ++ bytes) (unread ++ sent) reached

/-- The same, with another connection. -/
def TorState.holding (s : TorState ι) (connection : Connection ι) : TorState ι :=
  (s.1, { s.2 with connection := connection })

/-- What a call of a thread may do. -/
def Serves (s : TorState ι) : Routine.Answered Call.Answer → TorState ι → Prop
  | ⟨.bind _, .ok _⟩, t => ∃ address, '\n' ∉ address ∧
      t = (s.1, { s.2 with listener := some address })
  | ⟨.localAddr, answer⟩, t => t = s ∧ ∀ address, answer = .ok address →
      s.2.listener = some address
  | ⟨.emit (.inviteCreated text), _⟩, t =>
      t = (s.1, { s.2 with announced := s.2.announced ++ [text] })
  | ⟨.connect route _, .ok _⟩, t => t = s.holding (.dialed route)
  | ⟨.connect _ _, .error _⟩, t => t = s.holding .lost
  | ⟨.writeAll bytes, .ok _⟩, t => ∃ services connection,
      Writes s.1 s.2.party bytes s.2.connection services connection ∧
        t = (services, { s.2 with connection := connection })
  | ⟨.writeAll _, .error _⟩, t => t = s.holding .lost
  | ⟨.readLine, answer⟩, t =>
      (∃ received line rest, s.2.connection = .control received (line :: rest) ∧
        answer = .ok line ∧ t = s.holding (.control received rest)) ∨
      (∀ line, answer = .ok line → line = []) ∧ t = s.holding .lost
  | ⟨.readExact _, .ok bytes⟩, t => ∃ received rest reached,
      s.2.connection = .proxy received (bytes.1 ++ rest) reached ∧
        t = s.holding (.proxy received rest reached)
  | ⟨.readExact _, .error _⟩, t => t = s.holding .lost
  | _, t => t = s

/-- The network as one thread sees it. -/
def torNetwork : Lts (TorState ι) (Routine.Answered Call.Answer) where
  init _ := True
  step := Serves

/-! ## One call -/

variable {s t : TorState ι} {e : Routine.Answered Call.Answer}

/-- What a write leaves of the services. -/
theorem Writes.services {services services' : List (Service ι)} {party : ι} {bytes : Bytes}
    {connection connection' : Connection ι}
    (h : Writes services party bytes connection services' connection') :
    services' = services ∨ ∃ command lines, Handles services party command services' lines := by
  cases connection with
  | lost => exact Or.inl h.1
  | proxy received unread reached => exact Or.inl h.1
  | control received replies =>
      simp only [Writes] at h
      split at h
      · exact Or.inl h.1
      · obtain ⟨command, lines, -, hhandles, -⟩ := h
        exact Or.inr ⟨_, lines, hhandles⟩

/-- What a call can change. -/
theorem Serves.changes (h : Serves s e t) :
    t.2.party = s.2.party ∧
    (t.1 = s.1 ∨ ∃ command lines, Handles s.1 s.2.party command t.1 lines) ∧
    (t.2.listener = s.2.listener ∨ ∃ address, e.1 = .bind address) ∧
    (t.2.announced = s.2.announced ∨ ∃ text, e.1 = .emit (.inviteCreated text) ∧
      t.2.announced = s.2.announced ++ [text]) := by
  have same {connection : Connection ι} (ht : t = s.holding connection) : t.2.party = s.2.party ∧
      (t.1 = s.1 ∨ ∃ command lines, Handles s.1 s.2.party command t.1 lines) ∧
      (t.2.listener = s.2.listener ∨ ∃ address, e.1 = .bind address) ∧
      (t.2.announced = s.2.announced ∨ ∃ text, e.1 = .emit (.inviteCreated text) ∧
        t.2.announced = s.2.announced ++ [text]) := by
    subst ht
    exact ⟨rfl, Or.inl rfl, Or.inl rfl, Or.inl rfl⟩
  have same' (ht : t = s) := same (show t = s.holding s.2.connection from ht)
  unfold Serves at h
  split at h
  · obtain ⟨address, -, rfl⟩ := h
    exact ⟨rfl, Or.inl rfl, Or.inr ⟨_, rfl⟩, Or.inl rfl⟩
  · exact same' h.1
  · subst h
    exact ⟨rfl, Or.inl rfl, Or.inl rfl, Or.inr ⟨_, rfl, rfl⟩⟩
  · exact same h
  · exact same h
  · obtain ⟨services, connection, hwrites, rfl⟩ := h
    exact ⟨rfl, hwrites.services, Or.inl rfl, Or.inl rfl⟩
  · exact same h
  · obtain ⟨received, line, rest, -, -, ht⟩ | ⟨-, ht⟩ := h
    · exact same ht
    · exact same ht
  · obtain ⟨received, rest, reached, -, ht⟩ := h
    exact same ht
  · exact same h
  · exact same' h

/-- No command removes a service. -/
theorem Handles.subset {services services' : List (Service ι)} {party : ι} {command : Text}
    {lines : List Text} (h : Handles services party command services' lines) :
    services ⊆ services' := by
  cases h with
  | authenticate | refused _ => exact List.Subset.refl _
  | added _ _ => exact List.subset_append_left _ _

/-- Services are not taken away. -/
theorem torNetwork_rely :
    Routine.Rely (fun a b : List (Service ι) => a ⊆ b) torNetwork where
  refl _ := List.Subset.refl _
  trans _ _ _ := List.Subset.trans
  guarantee _ _ _ h := by
    rcases (Serves.changes h).2.1 with hsame | ⟨command, lines, hhandles⟩
    · rw [hsame]
      exact List.Subset.refl _
    · exact hhandles.subset

/-- No two services have one id. -/
def DistinctIds (services : List (Service ι)) : Prop :=
  ∀ a ∈ services, ∀ b ∈ services, a.id = b.id → a = b

/-- No call makes two services share an id. -/
theorem Serves.distinctIds (hs : DistinctIds s.1) (h : Serves s e t) : DistinctIds t.1 := by
  rcases h.changes.2.1 with hsame | ⟨command, lines, hhandles⟩
  · rwa [hsame]
  · generalize t.1 = services at hhandles
    cases hhandles with
    | authenticate | refused _ => exact hs
    | added _ hnew =>
        intro a ha b hb hid
        rcases List.mem_append.1 ha with ha | ha <;> rcases List.mem_append.1 hb with hb | hb
        · exact hs a ha b hb hid
        · rw [List.mem_singleton.1 hb] at hid
          exact absurd hid (hnew a ha)
        · rw [List.mem_singleton.1 ha] at hid
          exact absurd hid.symm (hnew b hb)
        · rw [List.mem_singleton.1 ha, List.mem_singleton.1 hb]

/-! ## A command and its reply -/

/-- Whatever the other threads do, the calls of a routine are permitted, and it ends as stated. -/
abbrev Within {α : Type} (permits : TorState ι → Call → Prop)
    (post : Except Fault α → TorState ι → Prop) (action : Action α) (s : TorState ι) : Prop :=
  action.Holds (Routine.interfered (fun a b => a ⊆ b) torNetwork) permits post s

/-- Whatever the other threads do, what a routine returns is as stated. -/
abbrev Over {α : Type} (permits : TorState ι → Call → Prop) (returns : α → TorState ι → Prop)
    (action : Action α) (s : TorState ι) : Prop :=
  Within permits (fun result t => ∀ a, result = .ok a → returns a t) action s

/-- Nothing of a command or a reply is left on the connection to the control port. -/
def Quiet (s : TorState ι) : Prop :=
  s.2.connection = .lost ∨ s.2.connection = .control [] []

/-- All that has become of a thread is another connection, and that is quiet. -/
def Steady (s t : TorState ι) : Prop :=
  Quiet t ∧ t.2 = { s.2 with connection := t.2.connection }

/-- Two steady stretches are one. -/
theorem Steady.trans {u : TorState ι} (hst : Steady s t) (htu : Steady t u) : Steady s u := by
  refine ⟨htu.1, ?_⟩
  rw [htu.2, hst.2]

section Over

variable {α β : Type} {permits : TorState ι → Call → Prop} {returns : α → TorState ι → Prop}

/-- What is returned at once is as stated. -/
theorem over_done {a : α} (h : returns a s) : Over permits returns (.done a) s := by
  rintro a' ⟨⟩
  exact h

/-- A routine that fails returns nothing. -/
theorem over_fail (fault : Fault) : Over permits returns (.fail fault) s := by
  rintro a ⟨⟩

/-- What comes next starts where the first part has ended. -/
theorem over_bind {action : Action β} {next : β → Action α}
    (h : Over permits (fun b t => Over permits returns (next b) t) action s) :
    Over permits returns (action >>= next) s := by
  refine Routine.holds_bind.2 (h.mono fun result t hresult => ?_)
  cases result with
  | ok b => exact hresult b rfl
  | error fault => exact fun a ha => by cases ha

/-- What is written is heard by the network as it stands by then. -/
theorem within_writeAll {post : Except Fault Unit → TorState ι → Prop} {bytes : Bytes}
    (hpermits : permits s (.writeAll bytes)) (h : ∀ before services connection, s.1 ⊆ before →
      Writes before s.2.party bytes s.2.connection services connection →
        post (.ok ()) (services, { s.2 with connection := connection }))
    (herror : ∀ fault before, post (.error fault) (before, { s.2 with connection := .lost })) :
    Within permits post (writeAll bytes) s := by
  refine ⟨hpermits, ?_⟩
  rintro answer t ⟨before, hbefore, hstep⟩
  cases answer with
  | error message =>
      obtain rfl : t = (before, { s.2 with connection := .lost }) := hstep
      exact herror _ _
  | ok _ =>
      obtain ⟨services, connection, hwrites, rfl⟩ := hstep
      exact h before services connection hbefore hwrites

/-- A line of a reply after which there are more. -/
def GoesOn (line : Text) : Prop := ¬ IsSuccess line ∧ ¬ IsFailure line

/-- A reply that has arrived, and of which the reader goes on after each line but the last. -/
theorem within_readReply (hpermits : ∀ s, permits s .readLine ∧ permits s .block)
    {reply : List Text} (hreply : ∀ line ∈ reply.dropLast, GoesOn line)
    (rounds : ℕ) (lines : List Text)
    (hs : s.2.connection = .control [] (reply.map (· ++ "\r\n".toList))) :
    Within permits (fun result t => s.1 ⊆ t.1 ∧ Steady s t ∧
      ∀ lines', result = .ok lines' → lines' = lines ++ reply.map trimEnd)
      (readReply rounds lines) s := by
  induction rounds generalizing reply lines s with
  | zero =>
      refine ⟨(hpermits s).2, ?_⟩
      rintro ⟨⟩
  | succ rounds ih =>
      refine ⟨(hpermits s).1, ?_⟩
      rintro answer t ⟨before, hbefore,
        ⟨received, line, rest, hconnection, rfl, rfl⟩ | ⟨hend, rfl⟩⟩
      · rw [hs] at hconnection
        obtain ⟨rfl, hlines⟩ := Connection.control.inj hconnection
        obtain ⟨line, reply, rfl, rfl, rfl⟩ := List.map_eq_cons_iff.1 hlines
        show Within permits _ (if line ++ "\r\n".toList = [] then _ else _) _
        rw [if_neg (by simp)]
        show Within permits _ (if "250 ".toList.isPrefixOf (trimEnd (line ++ "\r\n".toList)) then _
          else _) _
        rw [trimEnd_append_newline]
        have hlast (h : ¬ GoesOn line) : reply = [] := by
          cases reply with
          | nil => rfl
          | cons next reply => exact absurd (hreply line List.mem_cons_self) h
        split
        · next hsuccess =>
          obtain rfl := hlast fun h => h.1 (isPrefixOf_trimEnd_iff_isSuccess.1 hsuccess)
          refine ⟨hbefore, ⟨Or.inr rfl, rfl⟩, ?_⟩
          rintro _ ⟨⟩
          rfl
        · split
          · next hfailure =>
            obtain rfl := hlast fun h => h.2 (isPrefixOf_trimEnd_iff_isFailure.1 hfailure)
            refine ⟨hbefore, ⟨Or.inr rfl, rfl⟩, ?_⟩
            rintro _ ⟨⟩
          · have hmore := ih (s := (before, { s.2 with
                connection := .control [] (reply.map (· ++ "\r\n".toList)) }))
              (fun line' hline' => hreply line' ?_) (lines ++ [trimEnd line]) rfl
            · refine hmore.mono fun result t ⟨hsub, hsteady, hlines'⟩ => ?_
              refine ⟨List.Subset.trans hbefore hsub, hsteady, fun lines' h => ?_⟩
              rw [hlines' lines' h, List.append_assoc]
              rfl
            · cases reply with
              | nil => cases hline'
              | cons next reply => exact List.mem_cons_of_mem _ hline'
      · -- the connection has ended
        cases answer with
        | error message =>
            refine ⟨hbefore, ⟨Or.inl rfl, rfl⟩, ?_⟩
            rintro _ ⟨⟩
        | ok line =>
            obtain rfl := hend line rfl
            refine ⟨hbefore, ⟨Or.inl rfl, rfl⟩, ?_⟩
            rintro _ ⟨⟩

/-- There is no reply on a connection that has failed. -/
theorem within_readReply_lost (hpermits : ∀ s, permits s .readLine ∧ permits s .block)
    (rounds : ℕ) (lines : List Text) (hs : s.2.connection = .lost) :
    Within permits (fun result t => Steady s t ∧ ∀ lines', result ≠ .ok lines')
      (readReply rounds lines) s := by
  cases rounds with
  | zero =>
      refine ⟨(hpermits s).2, ?_⟩
      rintro ⟨⟩
  | succ rounds =>
      refine ⟨(hpermits s).1, ?_⟩
      rintro answer t ⟨before, hbefore,
        ⟨received, line, rest, hconnection, -, -⟩ | ⟨hend, rfl⟩⟩
      · rw [hs] at hconnection
        cases hconnection
      · cases answer with
        | error message =>
            refine ⟨⟨Or.inl rfl, rfl⟩, ?_⟩
            rintro _ ⟨⟩
        | ok line =>
            obtain rfl := hend line rfl
            refine ⟨⟨Or.inl rfl, rfl⟩, ?_⟩
            rintro _ ⟨⟩

/-- The reader goes on after each line of a reply of Tor but the last. -/
theorem Handles.goesOn {services services' : List (Service ι)} {party : ι} {command : Text}
    {reply : List Text} (h : Handles services party command services' reply) {line : Text}
    (hline : line ∈ reply.dropLast) : GoesOn line := by
  have hmid {rest : Text} : GoesOn ("250-".toList ++ rest) := by
    constructor
    · rintro ⟨rest', hrest', -⟩
      have hmark := congrArg (·[3]?) hrest'
      simp at hmark
    · simp [IsFailure]
  cases h with
  | authenticate => cases hline
  | refused _ => cases hline
  | added _ _ =>
      rcases List.mem_cons.1 hline with rfl | hline
      · exact hmid
      · obtain rfl := List.mem_singleton.1 hline
        exact hmid

/-- A command leaves nothing on the connection. Where it succeeds, Tor has handled it, and the
lines are those of its reply. -/
theorem within_command (hpermits : ∀ s c, ThroughControl c → permits s c) (rounds : ℕ)
    {command : Text} (hcommand : '\n' ∉ command) (hs : Quiet s) :
    Within permits (fun result t => Steady s t ∧ ∀ lines, result = .ok lines →
      ∃ before after reply, s.1 ⊆ before ∧ after ⊆ t.1 ∧
        Handles before s.2.party command after reply ∧ lines = reply.map trimEnd)
      (TorControl.command rounds command) s := by
  have hread : ∀ s, permits s .readLine ∧ permits s .block :=
    fun s => ⟨hpermits s _ trivial, hpermits s _ trivial⟩
  have hlost {before : List (Service ι)} : Steady s (before, { s.2 with connection := .lost }) :=
    ⟨Or.inl rfl, rfl⟩
  apply Routine.holds_bind.2
  refine within_writeAll (hpermits _ _ trivial) ?_ fun _ _ => ⟨hlost, by rintro _ ⟨⟩⟩
  rintro before _ _ hbefore hwrites
  apply Routine.holds_bind.2
  rcases hs with hs | hs
  · rw [hs] at hwrites
    obtain ⟨rfl, rfl⟩ := hwrites
    refine within_writeAll (hpermits _ _ trivial) ?_ fun _ _ => ⟨hlost, by rintro _ ⟨⟩⟩
    rintro before' _ _ - ⟨rfl, rfl⟩
    refine (within_readReply_lost hread rounds [] rfl).mono fun result t hresult => ?_
    exact ⟨⟨hresult.1.1, hresult.1.2⟩, fun lines hlines => absurd hlines (hresult.2 lines)⟩
  · have hstart : takeLine (utf8Encode command) = none := by
      rw [takeLine_eq_none_iff]
      exact fun h => hcommand ((newline_mem_utf8Encode command).1 h)
    rw [hs, Writes, List.nil_append, hstart] at hwrites
    obtain ⟨rfl, rfl⟩ := hwrites
    refine within_writeAll (hpermits _ _ trivial) ?_ fun _ _ => ⟨hlost, by rintro _ ⟨⟩⟩
    rintro before' after _ hbefore' hwrites
    rw [Writes, ControlServer.takeLine_command hcommand] at hwrites
    obtain ⟨line, reply, hline, hhandles, rfl⟩ := hwrites
    rw [utf8Decode_utf8Encode] at hline
    obtain rfl := Option.some.inj hline
    rw [ControlServer.withoutEnd_append] at hhandles
    refine (within_readReply (s := (after, { s.2 with
      connection := .control [] (reply.map (· ++ "\r\n".toList)) })) hread
      (fun _ => hhandles.goesOn) rounds [] rfl).mono fun result t hresult => ?_
    obtain ⟨hafter, hsteady, hlines⟩ := hresult
    exact ⟨⟨hsteady.1, hsteady.2⟩, fun lines h =>
      ⟨before', after, reply, List.Subset.trans hbefore hbefore', hafter, hhandles, hlines lines h⟩⟩

/-! ## A connection through the proxy -/

/-- The thread is connected to a service with this host and port. -/
def ConnectedTo (host : Text) (port : UInt16) (s : TorState ι) : Prop :=
  ∃ service ∈ s.1, service.id ++ ".onion".toList = host ∧ service.port = port ∧
    ∃ received unread, s.2.connection = .proxy received unread (some service)

/-- The bytes that are read come off the front of what the proxy sent. -/
theorem over_readExact {count : ℕ}
    {returns : { bytes : Bytes // bytes.length = count } → TorState ι → Prop}
    (hpermits : permits s (.readExact count)) (h : ∀ before received rest reached bytes,
      s.1 ⊆ before → s.2.connection = .proxy received (bytes.1 ++ rest) reached →
        returns bytes (before, { s.2 with connection := .proxy received rest reached })) :
    Over permits returns (readExact count) s := by
  refine ⟨hpermits, ?_⟩
  rintro answer t ⟨before, hbefore, hstep⟩
  cases answer with
  | error message => exact over_fail _
  | ok bytes =>
      obtain ⟨received, rest, reached, hconnection, rfl⟩ := hstep
      exact over_done (h before received rest reached bytes hbefore hconnection)

/-- What is read does not change what the thread is connected to. -/
theorem ConnectedTo.readExact {host : Text} {port : UInt16} (hs : ConnectedTo host port s)
    {count : ℕ} (hpermits : permits s (.readExact count)) :
    Over permits (fun _ t => ConnectedTo host port t) (readExact count) s := by
  apply over_readExact hpermits
  rintro before received rest reached bytes hbefore hconnection
  obtain ⟨service, hservice, hid, hport, received', unread', hreached⟩ := hs
  rw [hreached] at hconnection
  obtain ⟨-, -, rfl⟩ := Connection.proxy.inj hconnection
  exact ⟨service, hbefore hservice, hid, hport, received, rest, rfl⟩

/-- Skipping the bound address leaves the connection to the service. -/
theorem ConnectedTo.skipBound {host : Text} {port : UInt16} (hs : ConnectedTo host port s)
    (hpermits : ∀ s count, permits s (.readExact count)) (addressType : UInt8) :
    Over permits (fun _ t => ConnectedTo host port t) (skipBound addressType) s := by
  have done {t : TorState ι} (ht : ConnectedTo host port t) :
      Over permits (fun _ t => ConnectedTo host port t) (.done ()) t := over_done ht
  unfold Tor.skipBound
  split
  · exact over_bind ((hs.readExact (hpermits _ 6)).mono fun _ _ h a ha => done (h a ha))
  · refine over_bind ((hs.readExact (hpermits _ 1)).mono fun _ t h first hfirst => ?_)
    have ht := h first hfirst
    obtain ⟨first, hone⟩ := first
    obtain ⟨length, rfl⟩ := List.length_eq_one_iff.1 hone
    exact over_bind ((ht.readExact (hpermits _ _)).mono fun _ _ h a ha => done (h a ha))
  · exact over_bind ((hs.readExact (hpermits _ 18)).mono fun _ _ h a ha => done (h a ha))
  · exact over_fail _

/-- What the proxy has sent after the greeting. -/
theorem Relays.greeting {services : List (Service ι)} {sent : Bytes}
    {reached : Option (Service ι)} (h : Relays services Socks5.greeting sent reached) :
    sent = Socks5.noAuthentication ∨ sent = [] := by
  generalize hreceived : Socks5.greeting = received at h
  cases h with
  | chosen => exact Or.inl rfl
  | waiting => exact Or.inr rfl
  | granted _ hrequest _ | refused hrequest _ _ =>
      rw [List.self_eq_append_right] at hreceived
      subst hreceived
      cases hrequest

/-- What the proxy has sent after the request for a host and port. -/
theorem Relays.request {services : List (Service ι)} {request sent : Bytes}
    {reached : Option (Service ι)} {host : Text} {port : UInt16}
    (hrequest : Socks5.decodeRequest request = some (host, port))
    (h : Relays services (Socks5.greeting ++ request) sent reached) :
    (∃ service ∈ services, service.id ++ ".onion".toList = host ∧ service.port = port ∧
      reached = some service) ∨
    (∃ code rest, sent = 5 :: code :: rest ∧ code ≠ 0) ∨ sent = [] := by
  generalize hreceived : Socks5.greeting ++ request = received at h
  cases h with
  | chosen =>
      rw [List.append_right_eq_self] at hreceived
      subst hreceived
      cases hrequest
  | granted hservice hdecode _ =>
      obtain rfl := List.append_cancel_left hreceived
      obtain ⟨hhost, hport⟩ := Prod.mk.inj (Option.some.inj (hdecode.symm.trans hrequest))
      exact Or.inl ⟨_, hservice, hhost, hport, rfl⟩
  | refused _ hcode _ => exact Or.inr (Or.inl ⟨_, _, rfl, hcode⟩)
  | waiting => exact Or.inr (Or.inr rfl)

/-- Where the proxy is asked for a host and port and the connection is handed out, it goes to a
service with this host and port. -/
theorem over_connectViaSocks5 (hpermits : ∀ s c, ThroughProxy c → permits s c)
    (socksAddr host : Text) (port : UInt16) (s : TorState ι) :
    Over permits (fun _ t => ConnectedTo host port t) (connectViaSocks5 socksAddr host port) s := by
  apply over_bind
  refine ⟨hpermits _ _ trivial, ?_⟩
  rintro answer t ⟨before, hbefore, hstep⟩
  cases answer with
  | error message => exact over_fail _
  | ok _ =>
  obtain rfl : t = (before, { s.2 with connection := .proxy [] [] none }) := hstep
  apply over_done
  apply over_bind
  refine within_writeAll (hpermits _ _ trivial) ?_ fun _ _ => by rintro _ ⟨⟩
  rintro before _ _ hbefore ⟨rfl, sent, reached, hrelays, rfl⟩ _ ⟨⟩
  have hchosen := Relays.greeting hrelays
  apply over_bind
  apply over_readExact (hpermits _ _ trivial)
  rintro before' received rest reached' ⟨response, htwo⟩ hbefore' hconnection
  obtain ⟨rfl, hsent, rfl⟩ := Connection.proxy.inj hconnection
  -- the choice of the method is all there is to read
  obtain rfl : rest = [] := by
    have hlength := congrArg List.length hsent
    rcases hchosen with rfl | rfl
    · exact List.eq_nil_of_length_eq_zero (by simpa [htwo, Socks5.noAuthentication] using hlength)
    · simp [htwo] at hlength
      omega
  split
  · exact over_fail _
  split
  · exact over_fail _
  next hhost =>
  have hrequest : Socks5.decodeRequest (connectRequest host port) = some (host, port) :=
    Socks5.decodeRequest_eq (not_lt.1 hhost) port
  apply over_bind
  refine within_writeAll (hpermits _ _ trivial) ?_ fun _ _ => by rintro _ ⟨⟩
  rintro services _ _ - ⟨rfl, sent', reached', hrelays', rfl⟩ _ ⟨⟩
  apply over_bind
  apply over_readExact (hpermits _ _ trivial)
  rintro services' received rest reached'' ⟨header, hfour⟩ hservices hconnection'
  obtain ⟨rfl, hsent', rfl⟩ := Connection.proxy.inj hconnection'
  obtain ⟨version, code, reserved, addressType, rfl⟩ := List.length_eq_four.1 hfour
  show Over permits _ (if version ≠ 0x05 ∨ code ≠ 0x00 then _ else _) _
  split
  · exact over_fail _
  next hheader =>
  rcases Relays.request hrequest hrelays' with
    ⟨service, hservice, hid, hport, rfl⟩ | ⟨code', rest', rfl, hcode⟩ | rfl
  · exact ConnectedTo.skipBound ⟨service, hservices hservice, hid, hport, _, _, rfl⟩
      (fun s count => hpermits s _ trivial) addressType
  · obtain ⟨-, hrefused⟩ := List.cons.inj hsent'
    obtain ⟨rfl, -⟩ := List.cons.inj hrefused
    exact absurd (Or.inr hcode) hheader
  · cases hsent'

/-- The same with retries, which may go on whatever happens. -/
theorem over_connectViaSocks5WithRetry (socksAddr host : Text) (port : UInt16)
    (onRetry : ℕ → Text → Action Unit) (rounds attempt : ℕ) (s : TorState ι) :
    Over (fun _ _ => True) (fun _ t => ConnectedTo host port t)
      (connectViaSocks5WithRetry socksAddr host port onRetry rounds attempt) s := by
  induction rounds generalizing attempt s with
  | zero => exact over_fail _
  | succ rounds ih =>
      apply over_bind
      apply Routine.holds_attempt.2
      apply (over_connectViaSocks5 (fun _ _ _ => trivial) socksAddr host port s).mono
      intro result t hresult
      cases result with
      | ok _ =>
          rintro _ ⟨⟩
          exact over_done (hresult () rfl)
      | error fault =>
          cases fault with
          | panic => rintro _ ⟨⟩
          | error error =>
              rintro _ ⟨⟩
              apply Routine.Holds.after (.trivial _) (fun _ _ _ => trivial)
                (fun fault t => by rintro _ ⟨⟩)
              exact fun _ t => ⟨trivial, fun _ u _ => ih (attempt + 1) u⟩

end Over

end Fauna.Dial
