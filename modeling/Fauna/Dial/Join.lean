import Fauna.Dial.Connect
import Fauna.Wire.Invites

/-!
# What a joiner checks of its invite

A joiner of either program decodes its invite, dials the first address, and goes on with the
`public_key` of the invite as the key it expects in the remote hello. The other fields of the
invite play no part.

* `Program.join_done`: the key that a joiner goes on with is the one of its invite.
* `Program.join_congr`: the routine of a joiner as a function of two fields of the invite.
* `joiner_binds_public_key`: what is known of the peer once `verify_hello` has passed.
-/

namespace Fauna.Dial

open Fauna.Lib Fauna.Core Fauna.Wire

variable {C : Crates} {J : SerdeJson}

/-- `join_network`, or `join` of the CLI, up to the handshake. -/
def Program.join (C : Crates) (J : SerdeJson) (program : Program) (rounds : ℕ)
    (inviteText torSocksAddr : Text) : Action Text :=
  match program with
  | .cli => Cli.join C J inviteText
  | .desktop => joinNetwork C J rounds inviteText torSocksAddr

/-- A joiner that was given an invite text gets past `verify_hello` with a remote hello. -/
def Verifies (C : Crates) (J : SerdeJson) (program : Program) (rounds : ℕ)
    (inviteText torSocksAddr : Text) (hello : HelloFrame Text) : Prop :=
  ∃ history expected,
    Routine.Trace (Program.join C J program rounds inviteText torSocksAddr) history
        (.done expected) ∧
      program.verifyHello C.primitives hello (some expected) = .ok ()

/-- What a routine hands out is this key. -/
def HandsOut (action : Action Text) (key : Text) : Prop :=
  ∀ history, action.Holds Routine.memory (fun _ _ => True)
    (fun result _ => ∀ a, result = .ok a → a = key) history

/-- A key that is returned is handed out. -/
theorem HandsOut.done (key : Text) : HandsOut (.done key) key :=
  fun _ _ h => (Except.ok.inj h).symm

/-- What comes before does not change what is handed out. -/
theorem HandsOut.after {α : Type} {first : Action α} {next : α → Action Text} {key : Text}
    (h : ∀ a, HandsOut (next a) key) : HandsOut (first >>= next) key := by
  intro history
  apply Routine.Holds.after (.trivial first) (fun _ _ _ => trivial)
  · intro fault t a ha
    cases ha
  · intro a t
    exact h a t

/-- What comes after the invite is decoded decides what is handed out. -/
theorem decodeInvite_done {unreadable inviteText expected : Text}
    {next : Invite Text → Action Text} {history : List (Routine.Answered Call.Answer)}
    (hnext : ∀ invite, HandsOut (next invite) invite.publicKey)
    (h : Routine.Trace (decodeInvite C J unreadable inviteText >>= next) history (.done expected)) :
    ∃ invite, inviteDecode C J inviteText = .ok invite ∧ expected = invite.publicKey := by
  unfold decodeInvite at h
  cases hdecode : inviteDecode C J inviteText with
  | error e =>
      rw [hdecode] at h
      cases (Routine.trace_fail_iff.1 h).2
  | ok invite =>
      rw [hdecode] at h
      exact ⟨invite, rfl, (hnext invite []).of_memory h expected rfl⟩

/-- A joiner goes on with the public key of its invite. -/
theorem Program.join_done {program : Program} {rounds : ℕ} {inviteText torSocksAddr : Text}
    {history : List (Routine.Answered Call.Answer)} {expected : Text}
    (h : Routine.Trace (Program.join C J program rounds inviteText torSocksAddr) history
      (.done expected)) :
    ∃ invite, inviteDecode C J inviteText = .ok invite ∧ expected = invite.publicKey := by
  cases program with
  | cli =>
      refine decodeInvite_done (fun invite => ?_) h
      apply HandsOut.after
      intro address
      apply HandsOut.after
      intro endpoint
      apply HandsOut.after
      intro _
      apply HandsOut.after
      intro _
      apply HandsOut.after
      intro cloned
      apply HandsOut.after
      intro _
      exact .done _
  | desktop =>
      refine decodeInvite_done (fun invite => ?_) h
      apply HandsOut.after
      intro address
      apply HandsOut.after
      intro _
      apply HandsOut.after
      intro cloned
      apply HandsOut.after
      intro _
      exact .done _

/-- Two invites with one public key and one first address make one joiner. -/
theorem Program.join_congr {inviteText inviteText' : Text} {invite invite' : Invite Text}
    (h : inviteDecode C J inviteText = .ok invite) (h' : inviteDecode C J inviteText' = .ok invite')
    (haddress : invite'.addresses.head? = invite.addresses.head?)
    (hkey : invite'.publicKey = invite.publicKey) (program : Program) (rounds : ℕ)
    (torSocksAddr : Text) : Program.join C J program rounds inviteText' torSocksAddr =
      Program.join C J program rounds inviteText torSocksAddr := by
  have hfirst (missing : Text) : firstAddress missing invite' = firstAddress missing invite := by
    unfold firstAddress
    cases ha : invite.addresses <;> cases ha' : invite'.addresses <;> simp_all
  cases program with
  | cli =>
      show Cli.join C J inviteText' = Cli.join C J inviteText
      unfold Cli.join decodeInvite
      simp only [h, h', Routine.done_bind, hfirst, hkey]
  | desktop =>
      show joinNetwork C J rounds inviteText' torSocksAddr =
        joinNetwork C J rounds inviteText torSocksAddr
      unfold joinNetwork decodeInvite
      simp only [h, h', Routine.done_bind, hfirst, hkey]

/-- Whatever invite text a joiner of either program was given, and whatever hello it was sent: if
it gets past `verify_hello`, then the hello shows the public key that the invite names, as a text,
and the peer id verified is the one of that key. The peer id, the display name and the version of
the invite, and its other addresses, are not looked at: with any others in their place the joiner
gets past `verify_hello` with the same hellos. -/
theorem joiner_binds_public_key {program : Program} {rounds : ℕ} {inviteText torSocksAddr : Text}
    {hello : HelloFrame Text} (h : Verifies C J program rounds inviteText torSocksAddr hello) :
    ∃ invite publicKey, inviteDecode C J inviteText = .ok invite ∧
      hello.identityPublicKey = invite.publicKey ∧ C.decode invite.publicKey = some publicKey ∧
      hello.peerId = .fromPublicKey C.primitives publicKey ∧
      ∀ invite' inviteText', inviteDecode C J inviteText' = .ok invite' →
        invite'.addresses.head? = invite.addresses.head? → invite'.publicKey = invite.publicKey →
          Verifies C J program rounds inviteText' torSocksAddr hello := by
  obtain ⟨history, expected, htrace, hverify⟩ := h
  obtain ⟨invite, hdecode, rfl⟩ := Program.join_done htrace
  obtain ⟨hexpected, publicKey, signature, hkey, -, -, hpeer, -⟩ := verifyHello_eq_ok.1 hverify
  have hshown := hexpected _ rfl
  refine ⟨invite, publicKey, hdecode, hshown, hshown ▸ hkey, hpeer, ?_⟩
  intro invite' inviteText' hdecode' haddress hpublic
  refine ⟨history, invite.publicKey, ?_, hverify⟩
  rw [Program.join_congr hdecode hdecode' haddress hpublic]
  exact htrace

/-- An invite of version 2 with a peer id that is not its key's. -/
def strayInvite : Invite Text where
  version := 2
  peerId := ⟨"fauna-0".toList⟩
  displayName := []
  publicKey := transparentIdentity.publicKeyBase64
  addresses := ["192.168.1.10:45123".toList]

/-- The text of it. -/
def strayText : Text :=
  inviteScheme ++ invitePayload Crates.transparent SerdeJson.records strayInvite

/-- The invite decodes, whatever its peer id and version are. -/
theorem inviteDecode_strayText :
    inviteDecode Crates.transparent SerdeJson.records strayText = .ok strayInvite :=
  inviteDecode_encode _ (inviteEncode_eq strayInvite)

/-- A joiner that was given it gets past `verify_hello` with the hello of the key's owner. -/
theorem strayText_verifies : Verifies Crates.transparent SerdeJson.records .cli 0 strayText []
    (createHello transparentIdentity [] transparentExchange) := by
  let endpoint := "192.168.1.10:45123".toList
  refine ⟨[⟨.printLine ("Connecting to ".toList ++ endpoint ++ "...".toList), ()⟩,
    ⟨.connect .direct endpoint, .ok ()⟩, ⟨.tryClone, .ok ()⟩], strayInvite.publicKey, ?_, ?_⟩
  · rw [Program.join, Cli.join, decodeInvite, inviteDecode_strayText]
    exact .call (.call (.call (.nil _)))
  · apply verifyHello_createHello Crates.transparent.lawful
    rintro _ ⟨⟩
    rfl

/-- It is joined with the identity of its public key. -/
theorem joiner_binds_public_key_stray :
    ∃ invite publicKey,
      inviteDecode Crates.transparent SerdeJson.records strayText = .ok invite ∧
      (createHello transparentIdentity [] transparentExchange).identityPublicKey =
        invite.publicKey ∧
      Crates.transparent.decode invite.publicKey = some publicKey ∧
      (createHello transparentIdentity [] transparentExchange).peerId =
        .fromPublicKey Crates.transparent.primitives publicKey := by
  obtain ⟨invite, publicKey, hdecode, hshown, hkey, hpeer, -⟩ :=
    joiner_binds_public_key strayText_verifies
  exact ⟨invite, publicKey, hdecode, hshown, hkey, hpeer⟩

/-- A joiner goes past `verify_hello` with an invite whose peer id is not the one verified, and with
an invite of another version. -/
theorem stray_invite_accepted :
    (¬ ∀ (C : Crates) (J : SerdeJson) program rounds inviteText torSocksAddr hello invite,
      Verifies C J program rounds inviteText torSocksAddr hello →
        inviteDecode C J inviteText = .ok invite → invite.peerId = hello.peerId) ∧
    ¬ ∀ (C : Crates) (J : SerdeJson) program rounds inviteText torSocksAddr hello invite,
      Verifies C J program rounds inviteText torSocksAddr hello →
        inviteDecode C J inviteText = .ok invite → invite.version = 1 := by
  constructor
  · intro h
    have hpeer := h _ _ _ _ _ _ _ _ strayText_verifies inviteDecode_strayText
    revert hpeer
    decide
  · intro h
    have hversion := h _ _ _ _ _ _ _ _ strayText_verifies inviteDecode_strayText
    revert hversion
    decide

end Fauna.Dial
