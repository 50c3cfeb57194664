import Fauna.Dial.Address
import Fauna.Tor.Control
import Fauna.Wire.Invites

/-!
# What a host publishes

`host_network` up to the handshake. It listens, finds the address that it advertises, over Tor or
directly, and emits an invite with that address.

* `announces_direct_iff`: the invite of a host without Tor, and all that it did before.
* `announces_onion`: the invite of a host with Tor, and the reply that its onion address comes from.
-/

namespace Fauna.Dial

open Fauna.Lib Fauna.Core Fauna.Wire Fauna.Desktop Fauna.Tor Fauna.Dial.Action

/-! ## The code -/

/-- The address that `host_network` advertises. -/
def advertisedAddr (hmac : Bytes → Bytes → Bytes) (rounds : ℕ) (publicAddr localAddr : Text) :
    Option TorConfig → Action Text
  | some config => do
      ask (.emit (.status "Tor onion servisi hazirlaniyor".toList))
      let serviceId ←
        publishOnionService hmac rounds config.controlAddr config.servicePort localAddr
      ask (.emit (.status
        "Onion servisi yayinlandi; Tor aginda duyurulmasi bekleniyor".toList))
      ask (.sleep 8)
      return "onion://".toList ++ serviceId ++ ':' :: decimal config.servicePort
  | none => return normalizeDirectPublicAddr publicAddr localAddr

/-- The end of `host_network` up to the handshake: it waits for a peer. -/
def awaitPeer : Action Unit := do
  let _ ← orContext "baglanti kabul edilemedi".toList (← ask .accept)
  orContext "socket klonlanamadi".toList (← ask .tryClone)

/-- `host_network` up to the handshake. -/
def hostNetwork (C : Crates) (J : SerdeJson) (hmac : Bytes → Bytes → Bytes) (rounds : ℕ)
    (identity : DeviceIdentity C.primitives) (name bind publicAddr : Text)
    (torConfig : Option TorConfig) : Action Unit := do
  orContext (bind ++ " adresinde dinleme baslatilamadi".toList) (← ask (.bind bind))
  let localAddr ← orContext "local adres okunamadi".toList (← ask .localAddr)
  let advertised ← advertisedAddr hmac rounds publicAddr localAddr torConfig
  let invite ← Routine.ofExcept
    (liftCore (inviteEncode C J ((Invite.new identity name).withAddress advertised)))
  ask (.emit (.inviteCreated invite))
  awaitPeer

section Announces

variable (C : Crates) (J : SerdeJson) (hmac : Bytes → Bytes → Bytes) (rounds : ℕ)
  (identity : DeviceIdentity C.primitives) (name bind publicAddr : Text)

/-- After these calls `host_network` comes to emit an invite. -/
def Announces (torConfig : Option TorConfig) (history : List (Routine.Answered Call.Answer))
    (invite : Text) : Prop :=
  ∃ next, Routine.Trace (hostNetwork C J hmac rounds identity name bind publicAddr torConfig)
    history (.call (.emit (.inviteCreated invite)) next)

end Announces

/-! ## Without Tor -/

variable {C : Crates} {J : SerdeJson} {hmac : Bytes → Bytes → Bytes} {rounds : ℕ}
  {identity : DeviceIdentity C.primitives} {name bind publicAddr : Text}
  {history : List (Routine.Answered Call.Answer)} {invite : Text}

/-- Every invite that a routine emits is known from the calls before it. -/
abbrev Announcing {α : Type} (known : List (Routine.Answered Call.Answer) → Text → Prop)
    (post : Except Fault α → List (Routine.Answered Call.Answer) → Prop) (action : Action α)
    (history : List (Routine.Answered Call.Answer)) : Prop :=
  action.Holds Routine.memory
    (fun history c => ∀ invite, c = .emit (.inviteCreated invite) → known history invite) post history

/-- A call that emits no invite. -/
def Unannounced (c : Call) : Prop := ∀ invite, c ≠ .emit (.inviteCreated invite)

/-- A routine that emits no invite knows all it emits. -/
theorem Announcing.of_all {α : Type} {known : List (Routine.Answered Call.Answer) → Text → Prop}
    {action : Action α} (h : action.All Unannounced)
    (history : List (Routine.Answered Call.Answer)) :
    Announcing known (fun _ _ => True) action history :=
  h.holds (fun _ _ _ hc invite heq => absurd heq (hc invite)) (fun _ _ _ _ _ _ => trivial) trivial

/-- Waiting for a peer accepts and clones, and calls nothing else. -/
theorem all_awaitPeer {kind : Call → Prop} (haccept : kind .accept) (hclone : kind .tryClone) :
    awaitPeer.All kind := by
  refine ⟨haccept, fun answer => ?_⟩
  apply (all_orContext _ answer).bind
  intro _
  exact ⟨hclone, fun answer => all_orContext _ answer⟩

/-- Once the address is known, its invite is emitted, and no other. -/
theorem announcing_invite {known : List (Routine.Answered Call.Answer) → Text → Prop}
    {advertised : Text} (h : ∀ invite,
      inviteEncode C J ((Invite.new identity name).withAddress advertised) = .ok invite →
        known history invite) :
    Announcing known (fun _ _ => True) (do
      let invite ← Routine.ofExcept
        (liftCore (inviteEncode C J ((Invite.new identity name).withAddress advertised)))
      ask (.emit (.inviteCreated invite))
      awaitPeer) history := by
  refine ⟨?_, fun _ history' _ =>
    Announcing.of_all (all_awaitPeer (fun _ => by simp) fun _ => by simp) history'⟩
  intro invite hc
  simp only [Call.emit.injEq, NetworkEvent.inviteCreated.injEq] at hc
  exact h invite (congrArg Except.ok hc)

/-- A host without Tor emits one invite, once it listens and knows its own address. -/
theorem announces_direct_iff :
    Announces C J hmac rounds identity name bind publicAddr none history invite ↔
      ∃ localAddr, history = [⟨.bind bind, .ok ()⟩, ⟨.localAddr, .ok localAddr⟩] ∧
        inviteEncode C J ((Invite.new identity name).withAddress
          (normalizeDirectPublicAddr publicAddr localAddr)) = .ok invite := by
  constructor
  · rintro ⟨next, h⟩
    have hall : Announcing (fun history invite => ∃ localAddr,
        history = [⟨.bind bind, .ok ()⟩, ⟨.localAddr, .ok localAddr⟩] ∧
          inviteEncode C J ((Invite.new identity name).withAddress
            (normalizeDirectPublicAddr publicAddr localAddr)) = .ok invite) (fun _ _ => True)
        (hostNetwork C J hmac rounds identity name bind publicAddr none) [] := by
      refine ⟨fun _ hc => (by cases hc), ?_⟩
      rintro (message | _) _ rfl
      · trivial
      refine ⟨fun _ hc => (by cases hc), ?_⟩
      rintro (message | localAddr) _ rfl
      · trivial
      · exact announcing_invite fun invite hencode => ⟨localAddr, rfl, hencode⟩
    exact (Routine.Holds.of_memory hall h).1 invite rfl
  · rintro ⟨localAddr, rfl, hencode⟩
    obtain rfl := Except.ok.inj hencode
    exact ⟨fun _ => awaitPeer, Routine.Trace.call (Routine.Trace.call (.nil _))⟩

/-! ## With Tor -/

/-- A reply, line by line as it is read. -/
def replyCalls (reply : List Text) : List (Routine.Answered Call.Answer) :=
  reply.map fun line => ⟨.readLine, .ok line⟩

/-- A command and its reply. -/
def commandCalls (command : Text) (reply : List Text) : List (Routine.Answered Call.Answer) :=
  ⟨.writeAll (utf8Encode command), .ok ()⟩ :: ⟨.writeAll (utf8Encode "\r\n".toList), .ok ()⟩ ::
    replyCalls reply

/-- The command that registers an onion service. -/
def addOnion (servicePort : ℕ) (localAddr : Text) : Text :=
  "ADD_ONION NEW:ED25519-V3 Flags=Detach Port=".toList ++ decimal servicePort ++ ',' :: localAddr

/-- The service id of a reply. -/
def replyServiceId (reply : List Text) : Option Text :=
  reply.findSome? fun line => "250-ServiceID=".toList.isPrefixOf? (trimEnd line)

variable {known : List (Routine.Answered Call.Answer) → Text → Prop}

/-- A call on the control port emits no invite. -/
theorem unannounced_of_throughControl {c : Call} (h : ThroughControl c) : Unannounced c := by
  rintro invite rfl
  exact h

/-- What a reply leaves of the history, and its lines. -/
theorem announcing_readReply (rounds : ℕ) (lines : List Text)
    (history : List (Routine.Answered Call.Answer)) :
    Announcing known (fun result history' => ∀ lines', result = .ok lines' → ∃ reply,
      history' = history ++ replyCalls reply ∧ lines' = lines ++ reply.map trimEnd)
      (readReply rounds lines) history := by
  induction rounds generalizing lines history with
  | zero => exact ⟨fun _ hc => (by cases hc), fun answer => answer.elim⟩
  | succ rounds ih =>
      refine ⟨fun _ hc => (by cases hc), ?_⟩
      rintro (message | line) _ rfl
      · rintro lines' hlines
        cases hlines
      show Announcing known _ (if line = [] then _ else _) _
      split
      · rintro lines' hlines
        cases hlines
      split
      · rintro lines' hlines
        obtain rfl := Except.ok.inj hlines
        exact ⟨[line], rfl, rfl⟩
      split
      · rintro lines' hlines
        cases hlines
      · apply (ih _ _).mono
        rintro result history' hresult lines' hlines
        obtain ⟨reply, rfl, rfl⟩ := hresult lines' hlines
        refine ⟨line :: reply, ?_, ?_⟩
        · rw [List.append_assoc]
          rfl
        · rw [List.append_assoc]
          rfl

/-- What a command returns are the lines of the reply that was read. -/
theorem announcing_command (rounds : ℕ) (command : Text)
    (history : List (Routine.Answered Call.Answer)) :
    Announcing known (fun result history' => ∀ lines, result = .ok lines → ∃ reply,
      history' = history ++ commandCalls command reply ∧ lines = reply.map trimEnd)
      (TorControl.command rounds command) history := by
  refine ⟨fun _ hc => (by cases hc), ?_⟩
  rintro (message | _) _ rfl
  · rintro lines hlines
    cases hlines
  refine ⟨fun _ hc => (by cases hc), ?_⟩
  rintro (message | _) _ rfl
  · rintro lines hlines
    cases hlines
  apply (announcing_readReply rounds [] _).mono
  rintro result history' hresult lines hlines
  obtain ⟨reply, rfl, rfl⟩ := hresult lines hlines
  refine ⟨reply, ?_, rfl⟩
  rw [List.append_assoc, List.append_assoc]
  rfl

/-- An onion service has the id of the first such line of a reply to `ADD_ONION`. -/
theorem announcing_publishOnionService (controlAddr : Text) (servicePort : ℕ) (localAddr : Text)
    (history : List (Routine.Answered Call.Answer)) :
    Announcing known (fun result history' => ∀ host, result = .ok host → ∃ reply serviceId,
      commandCalls (addOnion servicePort localAddr) reply <:+: history' ∧
        replyServiceId reply = some serviceId ∧ host = trim serviceId ++ ".onion".toList)
      (publishOnionService hmac rounds controlAddr servicePort localAddr) history := by
  have hafter {α β : Type} {post : Except Fault β → List (Routine.Answered Call.Answer) → Prop}
      {first : Action α} {next : α → Action β} (hfirst : first.All ThroughControl)
      (herror : ∀ e t, post (.error e) t) (hnext : ∀ a t, Announcing known post (next a) t)
      (history : List (Routine.Answered Call.Answer)) :
      Announcing known post (first >>= next) history :=
    Routine.Holds.after hfirst (fun _ _ hc invite heq => absurd heq
      (unannounced_of_throughControl hc invite)) herror hnext
  apply hafter (TorControl.all_connect controlAddr) (fun _ _ _ h => by cases h)
  intro _ history
  apply hafter (TorControl.all_authenticate hmac rounds) (fun _ _ _ h => by cases h)
  intro _ history
  apply Routine.holds_bind.2
  apply (announcing_command rounds _ history).mono
  intro result history' hresult
  cases result with
  | error e => exact fun host h => by cases h
  | ok lines =>
      obtain ⟨reply, rfl, rfl⟩ := hresult lines rfl
      have hfind : (reply.map trimEnd).findSome? "250-ServiceID=".toList.isPrefixOf? =
          replyServiceId reply := List.findSome?_map
      dsimp only
      rw [hfind]
      split
      · exact fun host h => by cases h
      · next serviceId hid =>
        intro host hhost
        exact ⟨reply, serviceId, (List.suffix_append _ _).isInfix, hid, (Except.ok.inj hhost).symm⟩

/-- The address of a host with Tor is the onion service that it registered. -/
theorem announcing_advertisedAddr (config : TorConfig) (localAddr : Text)
    (history : List (Routine.Answered Call.Answer)) :
    Announcing known (fun result history' => ∀ advertised, result = .ok advertised →
      ∃ reply serviceId,
        commandCalls (addOnion config.servicePort localAddr) reply <:+: history' ∧
          replyServiceId reply = some serviceId ∧
          advertised = "onion://".toList ++ (trim serviceId ++ ".onion".toList) ++
            ':' :: decimal config.servicePort)
      (advertisedAddr hmac rounds publicAddr localAddr (some config)) history := by
  refine ⟨fun _ hc => (by cases hc), ?_⟩
  rintro _ _ rfl
  show Announcing known _
    (publishOnionService hmac rounds config.controlAddr config.servicePort localAddr >>= _) _
  apply Routine.holds_bind.2
  apply (announcing_publishOnionService config.controlAddr config.servicePort localAddr _).mono
  intro result history' hresult
  cases result with
  | error e => exact fun advertised h => by cases h
  | ok host =>
      obtain ⟨reply, serviceId, hreply, hid, rfl⟩ := hresult host rfl
      refine ⟨fun _ hc => (by cases hc), ?_⟩
      rintro _ _ rfl
      refine ⟨fun _ hc => (by cases hc), ?_⟩
      rintro _ _ rfl advertised hadvertised
      refine ⟨reply, serviceId, ?_, hid, (Except.ok.inj hadvertised).symm⟩
      rw [List.append_assoc]
      exact hreply.trans (List.prefix_append _ _).isInfix

/-- What a host with Tor emits is an invite with the onion service that it registered. -/
theorem announces_onion {config : TorConfig}
    (h : Announces C J hmac rounds identity name bind publicAddr (some config) history invite) :
    ∃ localAddr reply serviceId,
      commandCalls (addOnion config.servicePort localAddr) reply <:+: history ∧
        replyServiceId reply = some serviceId ∧
        inviteEncode C J ((Invite.new identity name).withAddress ("onion://".toList ++
          (trim serviceId ++ ".onion".toList) ++ ':' :: decimal config.servicePort)) = .ok invite := by
  obtain ⟨next, h⟩ := h
  have hall : Announcing (fun history invite => ∃ localAddr reply serviceId,
      commandCalls (addOnion config.servicePort localAddr) reply <:+: history ∧
        replyServiceId reply = some serviceId ∧
        inviteEncode C J ((Invite.new identity name).withAddress ("onion://".toList ++
          (trim serviceId ++ ".onion".toList) ++ ':' :: decimal config.servicePort)) = .ok invite)
      (fun _ _ => True)
      (hostNetwork C J hmac rounds identity name bind publicAddr (some config)) [] := by
    refine ⟨fun _ hc => (by cases hc), ?_⟩
    rintro (message | _) _ rfl
    · trivial
    refine ⟨fun _ hc => (by cases hc), ?_⟩
    rintro (message | localAddr) _ rfl
    · trivial
    show Announcing _ _
      (advertisedAddr hmac rounds publicAddr localAddr (some config) >>= _) _
    apply Routine.holds_bind.2
    apply (announcing_advertisedAddr config localAddr _).mono
    intro result history' hresult
    cases result with
    | error e => trivial
    | ok advertised =>
        obtain ⟨reply, serviceId, hreply, hid, rfl⟩ := hresult advertised rfl
        exact announcing_invite fun invite hencode =>
          ⟨localAddr, reply, serviceId, hreply, hid, hencode⟩
  exact (Routine.Holds.of_memory hall h).1 invite rfl

end Fauna.Dial
