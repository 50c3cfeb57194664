import Fauna.Dial.Connect
import Fauna.Dial.Host

/-!
# What a host without Tor advertises, and what its joiner dials

A host without Tor puts into its invite what the user gave as its public address, or its own local
address. A joiner of that invite dials it, or refuses it: as no endpoint, as an onion address that
it would dial over Tor, or as one that points to the joiner's own computer.

* `dials_iff`: which addresses the joiner dials as they are.
* `direct_invite_dialed_iff`: for which public texts the joiner dials where the host listens.
-/

namespace Fauna.Dial

open Fauna.Lib Fauna.Core Fauna.Wire Fauna.Desktop Fauna.Tor Fauna.Dial.Action

/-! ## The joiner's side -/

/-- An address that stands for an endpoint on another computer, and is no onion address. -/
def Dialable (address : Text) : Prop :=
  ¬ ".onion".toList <:+: stripOnionScheme address ∧
    ∃ endpoint, Endpoint address endpoint ∧ isLoopback endpoint = false

/-- Whatever the configuration is, for this address the joiner dials that endpoint, and does nothing
else. -/
def Dials (address endpoint : Text) : Prop :=
  ∀ rounds torSocksAddr events, connectToInviteAddress rounds address torSocksAddr events =
    connect .direct endpoint (endpoint ++ " adresine baglanilamadi".toList)

/-- An address is dialed exactly when it is dialable. -/
theorem dials_iff {address : Text} :
    (∃ endpoint, Endpoint address endpoint ∧ Dials address endpoint) ↔ Dialable address := by
  constructor
  · rintro ⟨endpoint, -, hdials⟩
    rcases connectToInviteAddress_eq 0 address [] false with
      ⟨target, -, heq⟩ | ⟨endpoint', honion, hendpoint', hloopback, -⟩ | ⟨-, fault, heq⟩
    · rw [hdials 0 [] false] at heq
      cases heq
    · exact ⟨honion, endpoint', hendpoint', hloopback⟩
    · rw [hdials 0 [] false] at heq
      cases heq
  · rintro ⟨honion, endpoint, hendpoint, hloopback⟩
    refine ⟨endpoint, hendpoint, fun rounds torSocksAddr events => ?_⟩
    rcases connectToInviteAddress_eq rounds address torSocksAddr events with
      ⟨target, hparse, -⟩ | ⟨endpoint', -, hendpoint', -, heq⟩ | ⟨hrefused, -⟩
    · exact absurd (parseOnionAddress_eq_ok_some_iff.1 hparse).1 honion
    · rw [heq, hendpoint'.unique hendpoint]
    · rcases hrefused with honion' | hloopback'
      · exact absurd honion' honion
      · rw [hloopback' endpoint hendpoint] at hloopback
        cases hloopback

/-- The joiner refuses an address, whatever the configuration is. -/
def Refuses (address : Text) : Prop :=
  ∀ rounds torSocksAddr events,
    ∃ fault, connectToInviteAddress rounds address torSocksAddr events = .fail fault

/-- It is refused exactly when it is neither that nor an onion address. -/
theorem refuses_iff {address : Text} : Refuses address ↔
    ¬ Dialable address ∧ ∀ target, parseOnionAddress address ≠ .ok (some target) := by
  constructor
  · intro h
    obtain ⟨fault, hfail⟩ := h 1 [] true
    rcases connectToInviteAddress_eq 1 address [] true with
      ⟨target, -, heq⟩ | ⟨endpoint, -, -, -, heq⟩ | ⟨hrefused, fault', heq⟩
    · rw [hfail] at heq
      cases heq
    · rw [hfail] at heq
      cases heq
    · refine ⟨?_, fun target hparse => ?_⟩
      · rintro ⟨honion, endpoint, hendpoint, hloopback⟩
        rcases hrefused with honion' | hloopback'
        · exact honion honion'
        · rw [hloopback' endpoint hendpoint] at hloopback
          cases hloopback
      · unfold connectToInviteAddress at heq
        rw [hparse] at heq
        cases heq
  · rintro ⟨hdialable, hparse⟩ rounds torSocksAddr events
    rcases connectToInviteAddress_eq rounds address torSocksAddr events with
      ⟨target, htarget, -⟩ | ⟨endpoint, honion, hendpoint, hloopback, -⟩ | ⟨-, hfail⟩
    · exact absurd htarget (hparse target)
    · exact absurd ⟨honion, endpoint, hendpoint, hloopback⟩ hdialable
    · exact hfail

/-- A joiner of an invite text dials the endpoint of the advertised address for its first
address. -/
def Reaches (C : Crates) (J : SerdeJson) (text advertised : Text) : Prop :=
  ∃ invite first endpoint, inviteDecode C J text = .ok invite ∧
    invite.addresses.head? = some first ∧ Endpoint advertised endpoint ∧ Dials first endpoint

/-- Every joiner of an invite text refuses its first address. -/
def RefusedByAll (C : Crates) (J : SerdeJson) (text : Text) : Prop :=
  ∃ invite first, inviteDecode C J text = .ok invite ∧ invite.addresses.head? = some first ∧
    Refuses first

/-! ## The host's side -/

/-- Where a host without Tor is to be reached: at the address that was given, or at its own where
none or port 0 was given. -/
def hostAddress (publicText localAddr : Text) : Text :=
  if trim publicText = [] ∨ ":0".toList <:+ trim publicText then localAddr else trim publicText

/-- Trimming twice is trimming once. -/
theorem trim_trim (text : Text) : trim (trim text) = trim text := by
  have hstart : (trim text).dropWhile isWhitespace = trim text := by
    apply List.dropWhile_eq_self_iff.2
    intro hlength
    have hpre : trim text <+: text.dropWhile isWhitespace := List.rdropWhile_prefix _ _
    rw [hpre.getElem hlength]
    exact List.dropWhile_get_zero_not _ _ _
  rw [trim, hstart]
  exact List.rdropWhile_idempotent _ _

/-- The address that the host advertises. -/
theorem normalizeDirectPublicAddr_trim (publicText localAddr : Text) :
    normalizeDirectPublicAddr (trim publicText) localAddr = hostAddress publicText localAddr := by
  unfold normalizeDirectPublicAddr hostAddress
  rw [trim_trim]
  dsimp only
  by_cases hblank : trim publicText = []
  · rw [if_pos hblank, if_pos (Or.inl hblank)]
  · rw [if_neg hblank]
    by_cases hport : ":0".toList <:+ trim publicText
    · rw [if_pos hport, if_pos (Or.inr hport)]
    · rw [if_neg hport, if_neg (not_or.2 ⟨hblank, hport⟩)]

/-- A host that starts with Tor off has no Tor configuration, and passes on the trimmed public
address. -/
theorem startHost_direct {startManagedTor : Option Text → Except Text TorRuntime}
    {handle : ConnectionHandle} {app : FaunaApp} {name bind publicAddr : Text}
    {torConfig : Option TorConfig} (htor : app.torEnabled = false)
    (h : (app.startHost startManagedTor handle).2 = some (.host name bind publicAddr torConfig)) :
    torConfig = none ∧ publicAddr = trim app.publicAddr := by
  have hprepare : app.prepareTorConfig startManagedTor = (.ok none, app) := by
    unfold FaunaApp.prepareTorConfig
    rw [htor]
    rfl
  unfold FaunaApp.startHost at h
  rw [hprepare] at h
  dsimp only at h
  generalize (if app.torEnabled = true then trim app.bindAddr
    else normalizeDirectBindAddr (trim app.bindAddr)) = bind' at h
  split at h
  · cases h
  split at h
  · cases h
  · injection h with h
    injection h with hname hbind hpublic htorConfig
    exact ⟨htorConfig.symm, hpublic.symm⟩

/-! ## From the host to the joiner -/

/-- With Tor off and these fields of the window `start_host` starts a host, whose listener has this
address and whose thread emits this text. -/
def Publishes (C : Crates) (J : SerdeJson) (app : FaunaApp) (localAddr text : Text) : Prop :=
  app.torEnabled = false ∧ ∃ startManagedTor handle name bind publicAddr torConfig hmac rounds,
    ∃ (identity : DeviceIdentity C.primitives) (history : List (Routine.Answered Call.Answer)),
      (app.startHost startManagedTor handle).2 = some (.host name bind publicAddr torConfig) ∧
      ⟨.localAddr, .ok localAddr⟩ ∈ history ∧
      Announces C J hmac rounds identity name bind publicAddr torConfig history text

/-- What is published is an invite with the address of the host. -/
theorem Publishes.decode {C : Crates} {J : SerdeJson} {app : FaunaApp} {localAddr text : Text}
    (h : Publishes C J app localAddr text) : ∃ invite, inviteDecode C J text = .ok invite ∧
      invite.addresses = [hostAddress app.publicAddr localAddr] := by
  obtain ⟨htor, startManagedTor, handle, name, bind, publicAddr, torConfig, hmac, rounds, identity,
    history, hstart, hlocal, hannounces⟩ := h
  obtain ⟨rfl, rfl⟩ := startHost_direct htor hstart
  obtain ⟨localAddr', rfl, hencode⟩ := announces_direct_iff.1 hannounces
  have hsame : localAddr = localAddr' := by simpa using hlocal
  subst hsame
  rw [normalizeDirectPublicAddr_trim] at hencode
  exact ⟨_, inviteDecode_encode C hencode, rfl⟩

/-- A host that starts can publish, whatever the address of its listener is. -/
theorem exists_publishes (C : Crates) (J : SerdeJson) (identity : DeviceIdentity C.primitives)
    {startManagedTor : Option Text → Except Text TorRuntime} {handle : ConnectionHandle}
    {app : FaunaApp} {name bind publicAddr : Text} {torConfig : Option TorConfig}
    (htor : app.torEnabled = false)
    (h : (app.startHost startManagedTor handle).2 = some (.host name bind publicAddr torConfig))
    (localAddr : Text) : ∃ text, Publishes C J app localAddr text := by
  obtain ⟨rfl, -⟩ := startHost_direct htor h
  have hannounces : Announces C J (fun _ _ => []) 0 identity name bind publicAddr none
      [⟨.bind bind, .ok ()⟩, ⟨.localAddr, .ok localAddr⟩]
      (inviteScheme ++ invitePayload C J ((Invite.new identity name).withAddress
        (normalizeDirectPublicAddr publicAddr localAddr))) :=
    announces_direct_iff.2 ⟨localAddr, rfl, inviteEncode_eq _⟩
  exact ⟨_, htor, startManagedTor, handle, name, bind, publicAddr, none, fun _ _ => [], 0, identity,
    _, h, List.mem_cons_of_mem _ List.mem_cons_self, hannounces⟩

/-- A joiner reaches the host exactly when its address is dialable. -/
theorem reaches_iff {C : Crates} {J : SerdeJson} {app : FaunaApp} {localAddr text : Text}
    (h : Publishes C J app localAddr text) :
    Reaches C J text (hostAddress app.publicAddr localAddr) ↔
      Dialable (hostAddress app.publicAddr localAddr) := by
  obtain ⟨invite, hdecode, haddresses⟩ := h.decode
  rw [← dials_iff]
  constructor
  · rintro ⟨invite', first, endpoint, hdecode', hfirst, hendpoint, hdials⟩
    obtain rfl := Except.ok.inj (hdecode.symm.trans hdecode')
    rw [haddresses] at hfirst
    obtain rfl := Option.some.inj hfirst
    exact ⟨endpoint, hendpoint, hdials⟩
  · rintro ⟨endpoint, hendpoint, hdials⟩
    exact ⟨invite, _, endpoint, hdecode, by rw [haddresses]; rfl, hendpoint, hdials⟩

/-- Every joiner refuses the invite exactly when that address is refused. -/
theorem refusedByAll_iff {C : Crates} {J : SerdeJson} {app : FaunaApp} {localAddr text : Text}
    (h : Publishes C J app localAddr text) :
    RefusedByAll C J text ↔ Refuses (hostAddress app.publicAddr localAddr) := by
  obtain ⟨invite, hdecode, haddresses⟩ := h.decode
  constructor
  · rintro ⟨invite', first, hdecode', hfirst, hrefuses⟩
    obtain rfl := Except.ok.inj (hdecode.symm.trans hdecode')
    rw [haddresses] at hfirst
    obtain rfl := Option.some.inj hfirst
    exact hrefuses
  · intro hrefuses
    exact ⟨invite, _, hdecode, by rw [haddresses]; rfl, hrefuses⟩

/-- For every display name, bind text and public text with which a host without Tor starts and emits
its invite: the joiner dials the endpoint of the host exactly where the address of the host stands
for an endpoint on another computer, and is no onion address. Every joiner refuses the invite
exactly where this is not so, unless the address is read as an onion target. -/
theorem direct_invite_dialed_iff (C : Crates) (J : SerdeJson) (app : FaunaApp)
    (localAddr text : Text) (h : Publishes C J app localAddr text) :
    (Reaches C J text (hostAddress app.publicAddr localAddr) ↔
      Dialable (hostAddress app.publicAddr localAddr)) ∧
    (RefusedByAll C J text ↔ ¬ Dialable (hostAddress app.publicAddr localAddr) ∧
      ∀ target, parseOnionAddress (hostAddress app.publicAddr localAddr) ≠ .ok (some target)) :=
  ⟨reaches_iff h, (refusedByAll_iff h).trans refuses_iff⟩

/-- A window with Tor off. -/
def directWindow (bindAddr publicAddr : Text) : FaunaApp :=
  { FaunaApp.new with torEnabled := false, bindAddr := bindAddr, publicAddr := publicAddr }

/-- An address of the local network reaches the host. -/
theorem direct_invite_dialed_lan : ∃ text,
    Publishes Crates.transparent SerdeJson.records
      (directWindow "0.0.0.0:45123".toList "192.168.1.10:45123".toList) "0.0.0.0:45123".toList text ∧
    Reaches Crates.transparent SerdeJson.records text "192.168.1.10:45123".toList := by
  have hstart : ((directWindow "0.0.0.0:45123".toList "192.168.1.10:45123".toList).startHost
      (fun _ => .error []) ⟨0⟩).2 = some (.host "Kivan".toList "0.0.0.0:45123".toList
        "192.168.1.10:45123".toList none) := rfl
  obtain ⟨text, hpublishes⟩ := exists_publishes Crates.transparent SerdeJson.records
    transparentIdentity rfl hstart "0.0.0.0:45123".toList
  refine ⟨text, hpublishes, (direct_invite_dialed_iff _ _ _ _ _ hpublishes).1.2 ⟨by decide, ?_⟩⟩
  exact ⟨_, .hostPort (by decide) (by decide), by decide⟩

/-- The invite of the local test preset is refused by every joiner, also on the same computer. -/
theorem local_preset_refused :
    ¬ ∀ (C : Crates) (J : SerdeJson) app localAddr text, Publishes C J app localAddr text →
      Reaches C J text (hostAddress app.publicAddr localAddr) ∧ ¬ RefusedByAll C J text := by
  intro h
  have hstart : ((directWindow "127.0.0.1:45123".toList "127.0.0.1:45123".toList).startHost
      (fun _ => .error []) ⟨0⟩).2 = some (.host "Kivan".toList "127.0.0.1:45123".toList
        "127.0.0.1:45123".toList none) := rfl
  obtain ⟨text, hpublishes⟩ := exists_publishes Crates.transparent SerdeJson.records
    transparentIdentity rfl hstart "127.0.0.1:45123".toList
  obtain ⟨-, endpoint, hendpoint, hloopback⟩ :=
    (reaches_iff hpublishes).1 (h _ _ _ _ _ hpublishes).1
  have hself : Endpoint "127.0.0.1:45123".toList "127.0.0.1:45123".toList :=
    .hostPort (by decide) (by decide)
  have hsame : endpoint = "127.0.0.1:45123".toList := hendpoint.unique hself
  rw [hsame] at hloopback
  revert hloopback
  decide

end Fauna.Dial
