import Fauna.Dial.TorNetwork
import Fauna.Tor.Login

/-!
# Hosts and joiners meet

Any number of `host_network` and `join_network` with Tor, up to the session, over the Tor network,
in every interleaving and whatever fails: the connection that a joiner of an announced invite comes
to goes to a service that the host of this invite has registered, and so to the host's own listener
(`onion_rendezvous`).

* `settles_authenticate`: a login leaves nothing on the connection.
* `over_hostNetwork`: what a host with Tor knows when it emits its invite.
* `over_joinNetwork`: where a joiner of an onion invite is connected.
-/

namespace Fauna.Dial

open Fauna.Lib Fauna.Core Fauna.Wire Fauna.Desktop Fauna.Tor Fauna.Dial.Action

variable {ι α β : Type} {permits : TorState ι → Call → Prop} {s t : TorState ι}

/-! ## Logging in -/

/-- However it ends, nothing of it is left on the connection, and nothing else has changed. -/
def Settles (permits : TorState ι → Call → Prop) (action : Action α) : Prop :=
  ∀ s, Quiet s → Within permits (fun _ t => Steady s t) action s

/-- Two parts that settle settle one after the other. -/
theorem Settles.bind {action : Action β} {next : β → Action α} (h : Settles permits action)
    (hnext : ∀ b, Settles permits (next b)) : Settles permits (action >>= next) := by
  intro s hs
  refine Routine.holds_bind.2 ((h s hs).mono fun result t hst => ?_)
  cases result with
  | ok b => exact (hnext b t hst.1).mono fun _ _ htu => hst.trans htu
  | error fault => exact hst

/-- A result settles. -/
theorem settles_ofExcept (result : Except Fault α) :
    Settles permits (Routine.ofExcept result : Action α) :=
  fun _ hs => Routine.holds_ofExcept.2 ⟨hs, rfl⟩

/-- A command reads its reply to the end. -/
theorem settles_command (hpermits : ∀ s c, ThroughControl c → permits s c) (rounds : ℕ)
    {command : Text} (hcommand : '\n' ∉ command) :
    Settles permits (TorControl.command rounds command) :=
  fun _ hs => (within_command hpermits rounds hcommand hs).mono fun _ _ h => h.1

/-- A call that is answered without the connection. -/
theorem settles_ask {c : Call} (hpermits : ∀ s c, ThroughControl c → permits s c)
    (hc : ThroughControl c) {next : c.Answer → Action α}
    (hsame : ∀ (s : TorState ι) answer t, Serves s ⟨c, answer⟩ t → t = s)
    (hnext : ∀ answer, Settles permits (next answer)) :
    Settles permits (ask c >>= next) := by
  intro s hs
  refine ⟨hpermits s c hc, ?_⟩
  rintro answer t ⟨before, -, hstep⟩
  obtain rfl := hsame (before, s.2) answer t hstep
  exact (hnext answer (before, s.2) hs).mono fun _ _ h => h

/-- The login by cookie leaves nothing on the connection. -/
theorem settles_authenticateSafeCookie (hpermits : ∀ s c, ThroughControl c → permits s c)
    (hmac : Bytes → Bytes → Bytes) (rounds : ℕ) (cookie : Bytes) :
    Settles permits (TorControl.authenticateSafeCookie hmac rounds cookie) := by
  refine settles_ask (c := .fillBytes 32) hpermits trivial (fun _ _ _ h => h) fun clientNonce => ?_
  refine (settles_command hpermits rounds (newline_not_mem_command (by decide) _)).bind ?_
  intro lines
  split
  · exact fun _ hs => ⟨hs, rfl⟩
  · refine (settles_ofExcept _).bind fun serverHash => ?_
    refine (settles_ofExcept _).bind fun serverNonce => ?_
    dsimp only
    split
    · exact fun _ hs => ⟨hs, rfl⟩
    · refine (settles_command hpermits rounds (newline_not_mem_command (by decide) _)).bind ?_
      exact fun _ _ hs => ⟨hs, rfl⟩

/-- The whole login leaves nothing there either. -/
theorem settles_authenticate (hpermits : ∀ s c, ThroughControl c → permits s c)
    (hmac : Bytes → Bytes → Bytes) (rounds : ℕ) :
    Settles permits (TorControl.authenticate hmac rounds) := by
  have hbare : '\n' ∉ "AUTHENTICATE".toList := by decide
  have hcommand := settles_command hpermits rounds hbare
  have hattempt : Settles permits ((TorControl.command rounds "AUTHENTICATE".toList).attempt caught)
    := by
    intro s hs
    refine Routine.holds_attempt.2 ((hcommand s hs).mono fun result t h => ?_)
    cases result with
    | ok lines => exact h
    | error fault => cases fault <;> exact h
  refine hattempt.bind fun result => ?_
  cases result with
  | ok lines => exact fun _ hs => ⟨hs, rfl⟩
  | error message =>
      refine settles_ask (c := .readControlCookie) hpermits trivial (fun _ _ _ h => h)
        fun answer => ?_
      cases answer with
      | error message => exact fun _ hs => ⟨hs, rfl⟩
      | ok cookie => exact settles_authenticateSafeCookie hpermits hmac rounds cookie

/-! ## Hosting -/

/-- The thread has registered a service for its listener, at this port. -/
def Registered (port : UInt16) (service : Service ι) (s : TorState ι) : Prop :=
  service ∈ s.1 ∧ service.owner = s.2.party ∧ s.2.listener = some service.target ∧
    service.port = port ∧ IsServiceId service.id

/-- Trimming leaves the line with a service id alone. -/
theorem trimEnd_serviceId {id : Text} (h : IsServiceId id) :
    trimEnd ("250-ServiceID=".toList ++ id) = "250-ServiceID=".toList ++ id := by
  rw [trimEnd_append, trimEnd_eq_self h.any_isWhitespace, if_neg h.1]

/-- Two such commands are one only for the same port and address. -/
theorem addOnion_inj {port port' : UInt16} {target target' : Text} :
    addOnion port.toNat target = addOnion port'.toNat target' ↔
      port = port' ∧ target = target' := by
  have hcomma (n : ℕ) : ',' ∉ decimal n := fun h => by
    have hdigit := isDigit_of_mem_decimal h
    revert hdigit
    decide
  unfold addOnion
  rw [List.append_assoc, List.append_assoc, List.append_cancel_left_eq,
    append_cons_inj (hcomma _) (hcomma _)]
  refine and_congr_left fun _ => ⟨fun h => ?_, fun h => by rw [h]⟩
  have hparse := congrArg parseU16 h
  rw [parseU16_decimal port.toNat_lt, parseU16_decimal port'.toNat_lt] at hparse
  exact UInt16.toNat_inj.1 (Option.some.inj hparse)

/-- The service id of a reply to `ADD_ONION` is that of a new service. -/
theorem Handles.serviceId {services services' : List (Service ι)} {party : ι} {port : UInt16}
    {target serviceId : Text} {reply : List Text}
    (h : Handles services party (addOnion port.toNat target) services' reply)
    (hid : (reply.map trimEnd).findSome? "250-ServiceID=".toList.isPrefixOf? = some serviceId) :
    IsServiceId serviceId ∧ ⟨party, serviceId, port, target⟩ ∈ services' := by
  have hstart : "ADD_ONION".toList <+: addOnion port.toNat target :=
    (List.prefix_append "ADD_ONION".toList " NEW:ED25519-V3 Flags=Detach Port=".toList).trans
      ((List.prefix_append _ _).trans (List.prefix_append _ _))
  generalize hcommand : addOnion port.toNat target = command at h hstart
  cases h with
  | authenticate => exact absurd hstart (by decide)
  | @refused _ line hreply =>
      rw [List.map_singleton, List.findSome?_singleton,
        List.isPrefixOf?_eq_some_iff_append_eq] at hid
      obtain ⟨rest, hrest⟩ := List.rdropWhile_prefix isWhitespace line
      rw [← hrest, ← trimEnd, ← hid] at hreply
      simp [IsFailure] at hreply
  | added hservice hnew =>
      obtain ⟨rfl, rfl⟩ := addOnion_inj.1 hcommand
      rw [List.map_cons, trimEnd_serviceId hservice, List.findSome?_cons,
        List.isPrefixOf?_eq_some_iff_append_eq.2 rfl] at hid
      obtain rfl := Option.some.inj hid
      exact ⟨hservice, List.mem_append_right _ List.mem_cons_self⟩

/-- `ADD_ONION` is one line. -/
theorem newline_not_mem_addOnion (port : ℕ) {target : Text} (h : '\n' ∉ target) :
    '\n' ∉ addOnion port target := by
  have hdecimal : '\n' ∉ decimal port := fun h => by
    have hdigit := isDigit_of_mem_decimal h
    revert hdigit
    decide
  have hstart : '\n' ∉ "ADD_ONION NEW:ED25519-V3 Flags=Detach Port=".toList := by decide
  have htarget : '\n' ∉ ',' :: target := List.not_mem_cons_of_ne_of_not_mem (by decide) h
  intro hmem
  rcases List.mem_append.1 hmem with hmem | hmem
  · exact (List.mem_append.1 hmem).elim hstart hdecimal
  · exact htarget hmem

/-- An onion service that was published belongs to the thread, and leads to the address it was
published for. -/
theorem over_publishOnionService (hpermits : ∀ s c, ThroughControl c → permits s c)
    (hmac : Bytes → Bytes → Bytes) (rounds : ℕ) (controlAddr : Text) (port : UInt16)
    {localAddr : Text} (hlocal : '\n' ∉ localAddr) (s : TorState ι) :
    Over permits (fun host t => t.2 = { s.2 with connection := t.2.connection } ∧ ∃ id,
      IsServiceId id ∧ host = id ++ ".onion".toList ∧ ⟨s.2.party, id, port, localAddr⟩ ∈ t.1)
      (publishOnionService hmac rounds controlAddr port.toNat localAddr) s := by
  apply over_bind
  refine ⟨hpermits _ _ trivial, ?_⟩
  rintro answer t ⟨before, -, hstep⟩
  cases answer with
  | error message => exact over_fail _
  | ok _ =>
  obtain rfl : t = (before, { s.2 with connection := .control [] [] }) := hstep
  apply over_done
  apply over_bind
  refine (settles_authenticate hpermits hmac rounds _ (Or.inr rfl)).mono ?_
  intro result t hst _ _
  apply over_bind
  have hcommand := newline_not_mem_addOnion port.toNat hlocal
  refine (within_command hpermits rounds hcommand hst.1).mono ?_
  intro result u ⟨htu, hresult⟩ lines hlines
  obtain ⟨before', after, reply, -, hafter, hhandles, rfl⟩ := hresult lines hlines
  have hown := (hst.trans htu).2
  dsimp only
  split
  · exact over_fail _
  · next serviceId hid =>
    obtain ⟨hservice, hmem⟩ := hhandles.serviceId hid
    have hparty : t.2.party = s.2.party := by rw [hst.2]
    rw [hparty] at hmem
    apply over_done
    refine ⟨hown, serviceId, hservice, ?_, hafter hmem⟩
    rw [hservice.trim_eq]

/-- An invite with a service that the thread has registered for its listener. -/
def KnownInvite (C : Crates) (J : SerdeJson) (identity : DeviceIdentity C.primitives)
    (name : Text) (port : UInt16) (text : Text) (s : TorState ι) : Prop :=
  ∃ service, Registered port service s ∧
    inviteEncode C J ((Invite.new identity name).withAddress ("onion://".toList ++
      (service.id ++ ".onion".toList) ++ ':' :: decimal port.toNat)) = .ok text

/-- A host listens before it emits an invite, and knows the invites that it emits. -/
def HostPermits (known : Text → TorState ι → Prop) (s : TorState ι) : Call → Prop
  | .emit (.inviteCreated text) => known text s
  | .bind _ => s.2.announced = []
  | _ => True

/-- A host may call the control port at any time. -/
theorem hostPermits_throughControl {known : Text → TorState ι → Prop} (s : TorState ι) (c : Call)
    (h : ThroughControl c) : HostPermits known s c := by
  unfold HostPermits
  split
  · exact h.elim
  · exact h.elim
  · trivial

/-- Waiting for a peer is permitted. -/
theorem over_awaitPeer {known : Text → TorState ι → Prop} (s : TorState ι) :
    Over (HostPermits known) (fun _ _ => True) awaitPeer s := by
  refine ⟨trivial, ?_⟩
  rintro answer t -
  cases answer with
  | error message => exact over_fail _
  | ok remote =>
      refine ⟨trivial, ?_⟩
      rintro answer u -
      cases answer with
      | error message => exact over_fail _
      | ok _ => exact over_done trivial

/-- A host with Tor emits an invite only once its service is registered. -/
theorem over_hostNetwork (C : Crates) (J : SerdeJson) (hmac : Bytes → Bytes → Bytes) (rounds : ℕ)
    (identity : DeviceIdentity C.primitives) (name bind publicAddr controlAddr socksAddr : Text)
    (port : UInt16) (hs : s.2.announced = []) :
    Over (HostPermits (KnownInvite C J identity name port)) (fun _ _ => True)
      (hostNetwork C J hmac rounds identity name bind publicAddr
        (some ⟨controlAddr, socksAddr, port.toNat⟩)) s := by
  refine ⟨hs, ?_⟩
  rintro answer t ⟨before, -, hstep⟩
  cases answer with
  | error message => exact over_fail _
  | ok _ =>
  obtain ⟨address, haddress, rfl⟩ := hstep
  refine ⟨trivial, ?_⟩
  rintro answer t ⟨before', -, rfl, hlocal⟩
  cases answer with
  | error message => exact over_fail _
  | ok localAddr =>
  obtain rfl : address = localAddr := Option.some.inj (hlocal localAddr rfl)
  show Over _ _ (advertisedAddr hmac rounds publicAddr address _ >>= _) _
  apply over_bind
  refine ⟨trivial, ?_⟩
  rintro _ t ⟨before'', -, rfl⟩
  show Over _ _ (publishOnionService hmac rounds controlAddr port.toNat address >>= _) _
  apply over_bind
  refine (over_publishOnionService hostPermits_throughControl hmac rounds controlAddr port
    haddress _).mono ?_
  intro result t hresult host hhost
  obtain ⟨hown, id, hservice, rfl, hmem⟩ := hresult host hhost
  refine ⟨trivial, ?_⟩
  rintro _ u ⟨more, hmore, rfl⟩
  refine ⟨trivial, ?_⟩
  rintro _ u ⟨more', hmore', rfl⟩
  apply over_done
  -- the invite is emitted with the service among those of the network
  refine ⟨⟨_, ⟨hmore' (hmore hmem), ?_, ?_, rfl, hservice⟩, rfl⟩, ?_⟩
  · show s.2.party = t.2.party
    rw [hown]
  · show t.2.listener = some address
    rw [hown]
  · exact fun _ u _ => over_awaitPeer u

/-! ## Joining -/

/-- A joiner of an onion invite is connected to a service with the host and port of the invite. -/
theorem over_joinNetwork {C : Crates} {J : SerdeJson} {text host : Text} {port : UInt16}
    {invite : Invite Text} (hhost : ".onion".toList <:+: host)
    (hdecode : inviteDecode C J text = .ok invite)
    (haddress : invite.addresses = ["onion://".toList ++ host ++ ':' :: decimal port.toNat])
    (rounds : ℕ) (socksAddr : Text) (s : TorState ι) :
    Over (fun _ _ => True) (fun key t => key = invite.publicKey ∧ ConnectedTo host port t)
      (joinNetwork C J rounds text socksAddr) s := by
  rw [joinNetwork_onion hhost hdecode haddress]
  refine ⟨trivial, ?_⟩
  rintro _ t -
  show Over _ _ (connectViaSocks5WithRetry socksAddr host port (reportRetry true) rounds 1 >>= _) _
  apply over_bind
  refine (over_connectViaSocks5WithRetry socksAddr host port (reportRetry true) rounds 1 t).mono ?_
  intro result u hresult _ hok
  obtain ⟨service, hservice, hid, hport, hconnection⟩ := hresult () hok
  refine ⟨trivial, ?_⟩
  rintro answer v ⟨more, hmore, rfl⟩
  cases answer with
  | error message => exact over_fail _
  | ok _ => exact over_done ⟨rfl, service, hmore hservice, hid, hport, hconnection⟩

/-! ## All of them -/

/-- A host or a joiner with Tor. -/
inductive Party (C : Crates)
  | host (identity : DeviceIdentity C.primitives)
      (name bind publicAddr controlAddr socksAddr : Text) (port : UInt16)
  | join (invite socksAddr : Text)

/-- What the thread of a party does, up to `run_session`, and the public key that this one expects
of the peer. -/
def Party.thread {C : Crates} (J : SerdeJson) (hmac : Bytes → Bytes → Bytes) (rounds : ℕ) :
    Party C → Action (Option Text)
  | .host identity name bind publicAddr controlAddr socksAddr port => do
      hostNetwork C J hmac rounds identity name bind publicAddr
        (some ⟨controlAddr, socksAddr, port.toNat⟩)
      return none
  | .join invite socksAddr => do
      let publicKey ← joinNetwork C J rounds invite socksAddr
      return some publicKey

section Parties

variable [DecidableEq ι] (C : Crates) (J : SerdeJson) (hmac : Bytes → Bytes → Bytes) (rounds : ℕ)
  (parties : ι → Party C)

/-- The threads of all parties over the Tor network, which may have other services too. -/
def meeting : Lts (Routine.Threads ι Call.Answer Fault (Option Text) (List (Service ι)) (Own ι))
    (ι × Routine.Answered Call.Answer) :=
  Routine.interleaving torNetwork fun s => DistinctIds s.shared ∧ ∀ i, s.own i = .fresh i ∧
    s.rest i = (parties i).thread J hmac rounds

end Parties

variable {C : Crates} {J : SerdeJson} {identity : DeviceIdentity C.primitives} {name : Text}
  {port : UInt16}

/-- What the other threads do changes nothing of what a thread knows. -/
theorem KnownInvite.mono {text : Text} (h : KnownInvite C J identity name port text s)
    (hservices : s.1 ⊆ t.1) (hparty : t.2.party = s.2.party)
    (hlistener : t.2.listener = s.2.listener) : KnownInvite C J identity name port text t := by
  obtain ⟨service, ⟨hmem, howner, htarget, hport, hid⟩, hencode⟩ := h
  exact ⟨service, ⟨hservices hmem, howner.trans hparty.symm, hlistener.trans htarget, hport, hid⟩,
    hencode⟩

/-- More services take nothing away from what a host may do. -/
theorem hostPermits_stable : Routine.Stable (fun a b : List (Service ι) => a ⊆ b)
    (HostPermits (KnownInvite C J identity name port))
    (fun (_ : Except Fault (Option Text)) (_ : TorState ι) => True) where
  permits a b own c hab h := by
    unfold HostPermits at h ⊢
    split at h
    · exact h.mono hab rfl rfl
    · exact h
    · trivial
  post _ _ _ _ _ h := h

/-- The invites that a thread has emitted, each with a service of its own. -/
def Announced (C : Crates) (J : SerdeJson) (identity : DeviceIdentity C.primitives) (name : Text)
    (port : UInt16) (s : TorState ι) : Prop :=
  ∀ text ∈ s.2.announced, KnownInvite C J identity name port text s

/-- A permitted call leaves every announced invite with its service. -/
theorem Announced.serves {e : Routine.Answered Call.Answer}
    (hs : Announced C J identity name port s)
    (hpermits : HostPermits (KnownInvite C J identity name port) s e.1) (h : Serves s e t) :
    Announced C J identity name port t := by
  have hservices := torNetwork_rely.guarantee s e t h
  obtain ⟨hparty, -, hlistener, hannounced⟩ := h.changes
  intro text htext
  rcases hlistener with hlistener | ⟨address, hbind⟩
  · have known (h : KnownInvite C J identity name port text s) :
        KnownInvite C J identity name port text t := h.mono hservices hparty hlistener
    rcases hannounced with hsame | ⟨text', hemit, hmore⟩
    · rw [hsame] at htext
      exact known (hs text htext)
    · rw [hmore] at htext
      rcases List.mem_append.1 htext with htext | htext
      · exact known (hs text htext)
      · obtain rfl := List.mem_singleton.1 htext
        rw [hemit] at hpermits
        exact known hpermits
  · -- the thread has not emitted anything before it listens
    rw [hbind] at hpermits
    rcases hannounced with hsame | ⟨text', hemit, -⟩
    · rw [hsame, show s.2.announced = [] from hpermits] at htext
      cases htext
    · rw [hbind] at hemit
      cases hemit

section Parties

variable [DecidableEq ι] {hmac : Bytes → Bytes → Bytes} {rounds : ℕ} {parties : ι → Party C}
  {w : Routine.Threads ι Call.Answer Fault (Option Text) (List (Service ι)) (Own ι)}

/-- No two services of a meeting share an id. -/
theorem distinctIds_of_meeting (hw : (meeting C J hmac rounds parties).Reachable w) :
    DistinctIds w.shared := by
  have hinit : ∀ s, (meeting C J hmac rounds parties).init s → DistinctIds s.shared :=
    fun s hs => hs.1
  have hstep : ∀ s e t, DistinctIds s.shared → (meeting C J hmac rounds parties).step s e t →
      DistinctIds t.shared := by
    rintro s ⟨j, e⟩ t hs ⟨shared, own, rest, -, hstep, rfl⟩
    exact Serves.distinctIds hs hstep
  exact hw.invariant hinit hstep

/-- A host knows each invite that it has emitted. -/
theorem announced_of_meeting (hw : (meeting C J hmac rounds parties).Reachable w) {i : ι}
    {bind publicAddr controlAddr socksAddr : Text}
    (hi : parties i = .host identity name bind publicAddr controlAddr socksAddr port) :
    (w.own i).party = i ∧ Announced C J identity name port (w.shared, w.own i) := by
  let keeps : TorState ι → Prop := fun s => s.2.party = i ∧ Announced C J identity name port s
  have hstarts : ∀ s, (meeting C J hmac rounds parties).init s →
      (s.rest i).Holds (Routine.interfered (fun a b => a ⊆ b) torNetwork)
        (HostPermits (KnownInvite C J identity name port)) (fun _ _ => True)
        (s.shared, s.own i) := by
    rintro s ⟨-, hstart⟩
    obtain ⟨hown, hrest⟩ := hstart i
    rw [hrest, hi, hown]
    have hhost : Over (HostPermits (KnownInvite C J identity name port)) (fun _ _ => True)
        ((Party.host identity name bind publicAddr controlAddr socksAddr port).thread J hmac rounds)
        (s.shared, Own.fresh i) := by
      apply over_bind
      refine (over_hostNetwork C J hmac rounds identity name bind publicAddr controlAddr socksAddr
        port rfl).mono ?_
      exact fun _ _ _ _ _ => over_done trivial
    exact hhost.mono fun _ _ _ => trivial
  have hinit : ∀ s, (meeting C J hmac rounds parties).init s → keeps (s.shared, s.own i) := by
    rintro s ⟨-, hstart⟩
    obtain ⟨hown, -⟩ := hstart i
    show (s.own i).party = i ∧ ∀ text ∈ (s.own i).announced, _
    rw [hown]
    exact ⟨rfl, by rintro _ ⟨⟩⟩
  have hothers : ∀ a b own, a ⊆ b → keeps (a, own) → keeps (b, own) :=
    fun a b own hab h => ⟨h.1, fun text htext => (h.2 text htext).mono hab rfl rfl⟩
  have hkeeps : ∀ s e t, keeps s → HostPermits (KnownInvite C J identity name port) s e.1 →
      torNetwork.step s e t → keeps t := by
    intro s e t hs hpermits h
    exact ⟨(Serves.changes h).1.trans hs.1, hs.2.serves hpermits h⟩
  exact Routine.kept_own torNetwork_rely hostPermits_stable hstarts hinit hothers hkeeps hw

/-- Where a joiner of an onion invite ends up. -/
theorem connected_of_meeting (hw : (meeting C J hmac rounds parties).Reachable w) {j : ι}
    {text host socksAddr : Text} (hj : parties j = .join text socksAddr)
    {invite : Invite Text} (hhost : ".onion".toList <:+: host)
    (hdecode : inviteDecode C J text = .ok invite)
    (haddress : invite.addresses = ["onion://".toList ++ host ++ ':' :: decimal port.toNat])
    {key : Option Text} (hdone : w.rest j = .done key) :
    key = some invite.publicKey ∧ ConnectedTo host port (w.shared, w.own j) := by
  let returns : Option Text → TorState ι → Prop :=
    fun key s => key = some invite.publicKey ∧ ConnectedTo host port s
  have hstable : Routine.Stable (fun a b : List (Service ι) => a ⊆ b)
      (fun _ (_ : Call) => True) (fun (result : Except Fault (Option Text)) s =>
        ∀ key, result = .ok key → returns key s) := by
    refine ⟨fun _ _ _ _ _ _ => trivial, fun a b own result hab h key hkey => ?_⟩
    obtain ⟨heq, service, hservice, hrest⟩ := h key hkey
    exact ⟨heq, service, hab hservice, hrest⟩
  have hstarts : ∀ s, (meeting C J hmac rounds parties).init s →
      Over (fun _ _ => True) returns (s.rest j) (s.shared, s.own j) := by
    rintro s ⟨-, hstart⟩
    obtain ⟨-, hrest⟩ := hstart j
    rw [hrest, hj]
    apply over_bind
    refine (over_joinNetwork hhost hdecode haddress rounds socksAddr _).mono ?_
    intro result t hresult publicKey hkey
    obtain ⟨rfl, hconnected⟩ := hresult publicKey hkey
    exact over_done ⟨rfl, hconnected⟩
  have hend := Routine.holds_rest torNetwork_rely hstable hstarts hw
  rw [hdone] at hend
  exact hend key rfl

/-- Whatever the parties and the network do: every invite that a host with Tor has emitted is the
way to a service that leads to the listener of this host; and a joiner of this invite that goes on
to its session is connected to this service, and expects the public key of this host. -/
theorem onion_rendezvous (hw : (meeting C J hmac rounds parties).Reachable w) {i : ι}
    {bind publicAddr controlAddr socksAddr : Text}
    (hi : parties i = .host identity name bind publicAddr controlAddr socksAddr port) {text : Text}
    (htext : text ∈ (w.own i).announced) :
    ∃ service ∈ w.shared, service.owner = i ∧ (w.own i).listener = some service.target ∧
      OnionWay C J text (service.id ++ ".onion".toList) port ∧
      ∀ (j : ι) (socksAddr' : Text) (key : Option Text), parties j = .join text socksAddr' →
        w.rest j = .done key → key = some identity.publicKeyBase64 ∧
          ∃ received unread, (w.own j).connection = .proxy received unread (some service) := by
  obtain ⟨hparty, hannounced⟩ := announced_of_meeting hw hi
  obtain ⟨service, ⟨hmem, howner, htarget, hport, -⟩, hencode⟩ := hannounced text htext
  have hdecode := inviteDecode_encode C hencode
  have honion : ".onion".toList <:+: service.id ++ ".onion".toList :=
    (List.suffix_append _ _).isInfix
  refine ⟨service, hmem, howner.trans hparty, htarget, onionWay honion hdecode rfl, ?_⟩
  intro j socksAddr' key hj hdone
  obtain ⟨rfl, service', hmem', hid, -, hconnection⟩ :=
    connected_of_meeting hw hj honion hdecode rfl hdone
  obtain rfl := distinctIds_of_meeting hw service' hmem' service hmem (List.append_cancel_right hid)
  exact ⟨rfl, hconnection⟩

end Parties

/-- A host, and a joiner of its invite. -/
def pair : Bool → Party Crates.transparent
  | true => .host transparentIdentity "a".toList "127.0.0.1:0".toList [] "127.0.0.1:9151".toList
      "127.0.0.1:9150".toList 45123
  | false => .join onionText "127.0.0.1:9150".toList

/-- What the host does until it waits for a peer. -/
def hostCalls : List (Routine.Answered Call.Answer) :=
  [⟨.bind "127.0.0.1:0".toList, .ok ()⟩, ⟨.localAddr, .ok "127.0.0.1:50000".toList⟩,
    ⟨.emit (.status "Tor onion servisi hazirlaniyor".toList), ()⟩,
    ⟨.connect .control "127.0.0.1:9151".toList, .ok ()⟩] ++
  commandCalls "AUTHENTICATE".toList ["250 OK\r\n".toList] ++
  commandCalls (addOnion 45123 "127.0.0.1:50000".toList)
    ["250-ServiceID=a2\r\n".toList, "250-PrivateKey=ED25519-V3:\r\n".toList,
      "250 OK\r\n".toList] ++
  [⟨.emit (.status "Onion servisi yayinlandi; Tor aginda duyurulmasi bekleniyor".toList), ()⟩,
    ⟨.sleep 8, ()⟩, ⟨.emit (.inviteCreated onionText), ()⟩]

/-- What the joiner does until its session begins. -/
def joinCalls : List (Routine.Answered Call.Answer) :=
  [⟨.emit (.status "Tor uzerinden onion adresine baglaniyor".toList), ()⟩,
    ⟨.connect .proxy "127.0.0.1:9150".toList, .ok ()⟩, ⟨.writeAll Socks5.greeting, .ok ()⟩,
    ⟨.readExact 2, .ok ⟨[5, 0], rfl⟩⟩, ⟨.writeAll (connectRequest "a2.onion".toList 45123), .ok ()⟩,
    ⟨.readExact 4, .ok ⟨[5, 0, 0, 1], rfl⟩⟩, ⟨.readExact 6, .ok ⟨[0, 0, 0, 0, 0, 0], rfl⟩⟩,
    ⟨.tryClone, .ok ()⟩]

/-- The host publishes its service, announces it and waits. -/
theorem trace_hostCalls : Routine.Trace ((pair true).thread SerdeJson.records (fun _ _ => []) 3)
    hostCalls (awaitPeer >>= fun _ => .done none) :=
  .call (.call (.call (.call (.call (.call (.call (.call (.call (.call (.call (.call (.call (.call
    (.call (.nil _)))))))))))))))

/-- The joiner finds it through its proxy. -/
theorem trace_joinCalls : Routine.Trace ((pair false).thread SerdeJson.records (fun _ _ => []) 3)
    joinCalls (.done (some transparentIdentity.publicKeyBase64)) := by
  have hthread : (pair false).thread SerdeJson.records (fun _ _ => []) 3 = (do
      let publicKey ← joinNetwork Crates.transparent SerdeJson.records 3 onionText
        "127.0.0.1:9150".toList
      return some publicKey) := rfl
  have hhost : ".onion".toList <:+: "a2.onion".toList :=
    (List.suffix_append "a2".toList ".onion".toList).isInfix
  have hdecode : inviteDecode Crates.transparent SerdeJson.records onionText = .ok onionInvite :=
    inviteDecode_encode Crates.transparent (inviteEncode_eq onionInvite)
  have haddress : onionInvite.addresses = ["onion://".toList ++ "a2.onion".toList ++
    ':' :: decimal (45123 : UInt16).toNat] := rfl
  rw [hthread, joinNetwork_onion hhost hdecode haddress]
  exact .call (.call (.call (.call (.call (.call (.call (.call (.nil _))))))))

/-- The service of the host. -/
def metService : Service Bool := ⟨true, "a2".toList, 45123, "127.0.0.1:50000".toList⟩

/-- The host, once it has emitted its invite. -/
def metHost : Own Bool := ⟨true, some "127.0.0.1:50000".toList, .control [] [], [onionText]⟩

/-- The joiner, once it is connected. -/
def metJoiner : Own Bool :=
  ⟨false, none, .proxy (Socks5.greeting ++ connectRequest "a2.onion".toList 45123) []
    (some metService), []⟩

/-- The network answers the host so. -/
theorem run_hostCalls : torNetwork.Run ([], .fresh true) hostCalls ([metService], metHost) := by
  have hadded : Handles [] true (addOnion 45123 "127.0.0.1:50000".toList) [metService]
      ["250-ServiceID=a2".toList, "250-PrivateKey=ED25519-V3:".toList, "250 OK".toList] :=
    @Handles.added Bool [] true "a2".toList "127.0.0.1:50000".toList [] 45123
      ⟨by decide, by simp⟩ (by simp)
  refine .cons ⟨"127.0.0.1:50000".toList, by decide, rfl⟩ ?_
  refine .cons ⟨rfl, fun _ h => congrArg some (Except.ok.inj h)⟩ ?_
  refine .cons rfl ?_
  refine .cons rfl ?_
  refine .cons ⟨[], .control (utf8Encode "AUTHENTICATE".toList) [], ⟨rfl, rfl⟩, rfl⟩ ?_
  refine .cons ⟨[], .control [] ["250 OK\r\n".toList], ⟨_, _, rfl, .authenticate, rfl⟩, rfl⟩ ?_
  refine .cons (Or.inl ⟨[], _, [], rfl, rfl, rfl⟩) ?_
  refine .cons ⟨[], .control (utf8Encode (addOnion 45123 "127.0.0.1:50000".toList)) [],
    ⟨rfl, rfl⟩, rfl⟩ ?_
  refine .cons ⟨[metService], .control [] ["250-ServiceID=a2\r\n".toList,
    "250-PrivateKey=ED25519-V3:\r\n".toList, "250 OK\r\n".toList], ⟨_, _, rfl, hadded, rfl⟩, rfl⟩ ?_
  refine .cons (Or.inl ⟨[], _, _, rfl, rfl, rfl⟩) ?_
  refine .cons (Or.inl ⟨[], _, _, rfl, rfl, rfl⟩) ?_
  refine .cons (Or.inl ⟨[], _, _, rfl, rfl, rfl⟩) ?_
  refine .cons rfl ?_
  refine .cons rfl ?_
  exact .single rfl

/-- The network answers the joiner so. -/
theorem run_joinCalls :
    torNetwork.Run ([metService], .fresh false) joinCalls ([metService], metJoiner) := by
  have hrequest : Socks5.decodeRequest (connectRequest "a2.onion".toList 45123) =
      some ("a2.onion".toList, 45123) := Socks5.decodeRequest_eq (by decide) 45123
  refine .cons rfl ?_
  refine .cons rfl ?_
  refine .cons ⟨[metService], .proxy Socks5.greeting [5, 0] none, ⟨rfl, _, _, .chosen, rfl⟩, rfl⟩ ?_
  refine .cons ⟨_, [], _, rfl, rfl⟩ ?_
  refine .cons ⟨[metService], .proxy (Socks5.greeting ++ connectRequest "a2.onion".toList 45123)
    [5, 0, 0, 1, 0, 0, 0, 0, 0, 0] (some metService), ⟨rfl, _, _, .granted List.mem_cons_self
      hrequest ⟨0, 1, [0, 0, 0, 0, 0, 0], rfl, .ipv4 rfl⟩, rfl⟩, rfl⟩ ?_
  refine .cons ⟨_, [0, 0, 0, 0, 0, 0], _, rfl, rfl⟩ ?_
  refine .cons ⟨_, [], _, rfl, rfl⟩ ?_
  exact .single rfl

/-- The threads of the pair. -/
def pairThreads (i : Bool) : Action (Option Text) :=
  (pair i).thread SerdeJson.records (fun _ _ => []) 3

/-- The pair, once the host has emitted its invite. -/
def hosting : Routine.Threads Bool Call.Answer Fault (Option Text) (List (Service Bool))
    (Own Bool) where
  shared := [metService]
  own := Function.update Own.fresh true metHost
  rest := Function.update pairThreads true (awaitPeer >>= fun _ => .done none)

/-- The pair, once the joiner goes on to its session. -/
def met : Routine.Threads Bool Call.Answer Fault (Option Text) (List (Service Bool))
    (Own Bool) where
  shared := [metService]
  own := Function.update hosting.own false metJoiner
  rest := Function.update hosting.rest false (.done (some transparentIdentity.publicKeyBase64))

/-- A host and a joiner meet. -/
theorem met_reachable :
    (meeting Crates.transparent SerdeJson.records (fun _ _ => []) 3 pair).Reachable met := by
  have hhost : (meeting Crates.transparent SerdeJson.records (fun _ _ => []) 3 pair).Run
      ⟨[], Own.fresh, pairThreads⟩ (hostCalls.map (Prod.mk true)) hosting :=
    Routine.run_alone trace_hostCalls run_hostCalls rfl rfl
  have hjoin : (meeting Crates.transparent SerdeJson.records (fun _ _ => []) 3 pair).Run
      hosting (joinCalls.map (Prod.mk false)) met :=
    Routine.run_alone trace_joinCalls run_joinCalls rfl rfl
  exact ⟨_, _, ⟨by rintro _ ⟨⟩, fun i => ⟨rfl, rfl⟩⟩, hhost.append hjoin⟩

/-- The joiner is connected to the host. -/
theorem onion_rendezvous_pair : ∃ service ∈ met.shared, service.owner = true ∧
    (met.own true).listener = some service.target ∧
    ∃ received unread, (met.own false).connection = .proxy received unread (some service) := by
  have htext : onionText ∈ (met.own true).announced := show onionText ∈ [onionText] from
    List.mem_cons_self
  obtain ⟨service, hmem, howner, htarget, -, hjoin⟩ :=
    onion_rendezvous met_reachable (i := true) rfl htext
  exact ⟨service, hmem, howner, htarget, (hjoin false _ _ rfl rfl).2⟩

end Fauna.Dial
