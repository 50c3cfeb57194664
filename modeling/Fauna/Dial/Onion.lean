import Fauna.Dial.Connect
import Fauna.Dial.Host

/-!
# The way of an onion address

A host with Tor registers a port, and puts the onion service it gets with that port in its invite.
A joiner finds the onion address in the invite, turns Tor on, and asks the SOCKS proxy for a
connection to the service at that port.

* `parseOnionAddress_onion`: what is written as an onion address is read as one.
* `joinsOverTor`: a joiner of a text with an onion address goes on over Tor, or not at all.
* `onion_round_trip`: the whole way.
-/

namespace Fauna.Dial

open Fauna.Lib Fauna.Core Fauna.Wire Fauna.Desktop Fauna.Tor Fauna.Dial.Action

/-! ## Reading an onion address -/

/-- A port is read back from its decimal digits. -/
theorem parseU16_decimal {n : ℕ} (h : n < 65536) : parseU16 (decimal n) = some n := by
  have hvalue : Nat.ofDigitChars 10 (decimal n) 0 = n := Nat.ofDigitChars_ten_toDigits
  have hne : decimal n ≠ [] := Nat.toDigits_ne_nil
  have hdigits : (decimal n).all Char.isDigit = true := by
    rw [List.all_eq_true]
    exact fun c hc => isDigit_of_mem_decimal hc
  unfold parseU16
  extract_lets digits
  have hunsigned : digits = decimal n := by
    unfold digits
    split
    · next rest hsign =>
      have hplus : '+' ∈ decimal n := hsign ▸ List.mem_cons_self
      exact absurd (isDigit_of_mem_decimal hplus) (by decide)
    · rfl
  have haccepted : digits ≠ [] ∧ digits.all Char.isDigit = true ∧
      Nat.ofDigitChars 10 digits 0 < 65536 := by
    rw [hunsigned, hvalue]
    exact ⟨hne, hdigits, h⟩
  rw [if_pos haccepted, hunsigned, hvalue]

/-- An onion host with a port is read as an onion target. -/
theorem parseOnionAddress_onion {host : Text} (h : ".onion".toList <:+: host) (port : UInt16) :
    parseOnionAddress ("onion://".toList ++ host ++ ':' :: decimal port.toNat) =
      .ok (some ⟨host, port⟩) := by
  have hstrip : stripOnionScheme ("onion://".toList ++ host ++ ':' :: decimal port.toNat) =
      host ++ ':' :: decimal port.toNat := by
    rw [stripOnionScheme, List.append_assoc, List.isPrefixOf?_eq_some_iff_append_eq.2 rfl]
    rfl
  rw [parseOnionAddress_eq_ok_some_iff, hstrip]
  refine ⟨h.trans (List.prefix_append _ _).isInfix, decimal port.toNat, port.toNat, rfl, ?_,
    parseU16_decimal port.toNat_lt, ?_⟩
  · exact fun hcolon => absurd (isDigit_of_mem_decimal hcolon) (by decide)
  · exact (UInt16.ofNat_toNat).symm

/-- An address that is read as an onion target has `.onion` in it. -/
theorem onion_infix_of_parseOnionAddress {address : Text} {target : OnionTarget}
    (h : parseOnionAddress address = .ok (some target)) : ".onion".toList <:+: address := by
  have honion := (parseOnionAddress_eq_ok_some_iff.1 h).1
  unfold stripOnionScheme at honion
  cases hscheme : "onion://".toList.isPrefixOf? address with
  | none => rwa [hscheme] at honion
  | some rest =>
      rw [hscheme] at honion
      rw [← List.isPrefixOf?_eq_some_iff_append_eq.1 hscheme]
      exact honion.trans (List.suffix_append _ _).isInfix

/-! ## Joining over Tor -/

/-- The window in which `start_join` prepares Tor for an onion invite. -/
def torOn (app : FaunaApp) : FaunaApp :=
  if app.torEnabled then app
  else { app with torEnabled := true, torAutoStart := true }.pushSystem
    "Onion daveti algilandi; Tor modu otomatik acildi.".toList

/-- Tor is on where it was turned on. -/
theorem torOn_torEnabled (app : FaunaApp) : (torOn app).torEnabled = true := by
  unfold torOn
  split
  · assumption
  · rfl

/-- An invite with an address that is read as an onion target is one that the window takes for an
onion invite. -/
theorem inviteContainsOnionAddress_of_parse {C : Crates} {J : SerdeJson} {text address : Text}
    {invite : Invite Text} {target : OnionTarget} (hdecode : inviteDecode C J text = .ok invite)
    (haddress : address ∈ invite.addresses)
    (hparse : parseOnionAddress address = .ok (some target)) :
    inviteContainsOnionAddress C J text = true := by
  unfold inviteContainsOnionAddress
  rw [hdecode]
  show invite.addresses.any _ = true
  exact List.any_eq_true.2 ⟨address, haddress,
    decide_eq_true (onion_infix_of_parseOnionAddress hparse)⟩

/-- With this text `start_join` goes on only with Tor on, and with the SOCKS address of the Tor
configuration that was prepared. -/
def JoinsOverTor (C : Crates) (J : SerdeJson) (text : Text) : Prop :=
  ∀ startManagedTor handle (app : FaunaApp) start, trim app.joinInvite = text →
    (app.startJoin C J startManagedTor handle).2 = some start →
      (app.startJoin C J startManagedTor handle).1.torEnabled = true ∧
      ∃ config, ((torOn app).prepareTorConfig startManagedTor).1 = .ok (some config) ∧
        start = .join (trim app.displayName) text config.socksAddr

/-- Preparing Tor leaves it on or off, and has a configuration only where it is on. -/
theorem prepareTorConfig_torEnabled {startManagedTor : Option Text → Except Text TorRuntime}
    {app app' : FaunaApp} {torConfig : Option TorConfig}
    (h : app.prepareTorConfig startManagedTor = (.ok torConfig, app')) :
    app'.torEnabled = app.torEnabled ∧ torConfig.isSome = app.torEnabled := by
  have hmanaged : (app.ensureManagedTor startManagedTor).2.torEnabled = app.torEnabled := by
    unfold FaunaApp.ensureManagedTor
    split
    · rfl
    · dsimp only
      split <;> rfl
  unfold FaunaApp.prepareTorConfig at h
  split at h
  · next hoff =>
    obtain ⟨hconfig, rfl⟩ := Prod.mk.inj h
    obtain rfl := Except.ok.inj hconfig
    exact ⟨rfl, by simpa using hoff⟩
  next hon =>
  have hready : (if app.torAutoStart then app.ensureManagedTor startManagedTor
      else (.ok (), app)).2.torEnabled = app.torEnabled := by
    split
    · exact hmanaged
    · rfl
  dsimp only at h
  split at h
  · cases (Prod.mk.inj h).1
  · obtain ⟨hconfig, rfl⟩ := Prod.mk.inj h
    obtain rfl := Except.ok.inj hconfig
    exact ⟨hready, by simpa using hon⟩

/-- An onion invite is joined over Tor. -/
theorem joinsOverTor {C : Crates} {J : SerdeJson} {text : Text}
    (h : inviteContainsOnionAddress C J text = true) : JoinsOverTor C J text := by
  rintro startManagedTor handle app start rfl hstart
  have hready : (if inviteContainsOnionAddress C J (trim app.joinInvite) && !app.torEnabled then
      { app with torEnabled := true, torAutoStart := true }.pushSystem
        "Onion daveti algilandi; Tor modu otomatik acildi.".toList
      else app) = torOn app := by
    rw [h, torOn]
    cases app.torEnabled <;> rfl
  unfold FaunaApp.startJoin at hstart ⊢
  dsimp only at hstart ⊢
  rw [hready] at hstart ⊢
  split at hstart
  · cases hstart
  next hnonempty =>
  rw [if_neg hnonempty]
  cases hprepare : (torOn app).prepareTorConfig startManagedTor with
  | mk result app' =>
  rw [hprepare] at hstart
  cases result with
  | error error => cases hstart
  | ok torConfig =>
      obtain ⟨happ, hconfig⟩ := prepareTorConfig_torEnabled hprepare
      rw [torOn_torEnabled] at happ hconfig
      obtain ⟨config, rfl⟩ := Option.isSome_iff_exists.1 hconfig
      exact ⟨happ, config, rfl, (Option.some.inj hstart).symm⟩

/-! ## Asking the proxy -/

/-- What `connect_via_socks5` asks the proxy for: this host and port where the host fits in a
request, and nothing where it does not. -/
structure AsksFor (socksAddr host : Text) (port : UInt16) : Prop where
  /-- Whatever is written is the greeting or the request. -/
  written : ∀ history rest bytes answer,
    Routine.Trace (connectViaSocks5 socksAddr host port) history rest →
      ⟨.writeAll bytes, answer⟩ ∈ history → bytes = Socks5.greeting ∨
        (utf8Encode host).length ≤ 255 ∧ Socks5.decodeRequest bytes = some (host, port)
  /-- Once the proxy has taken the greeting, a host that fits is asked for. -/
  asked : (utf8Encode host).length ≤ 255 → ∃ request next,
    Socks5.decodeRequest request = some (host, port) ∧
      Routine.Trace (connectViaSocks5 socksAddr host port)
        [⟨.connect .proxy socksAddr, .ok ()⟩, ⟨.writeAll Socks5.greeting, .ok ()⟩,
          ⟨.readExact 2, .ok ⟨Socks5.noAuthentication, rfl⟩⟩] (.call (.writeAll request) next)
  /-- A host that does not fit is refused. -/
  refused : 255 < (utf8Encode host).length → ∀ history result,
    Routine.Trace (connectViaSocks5 socksAddr host port) history (.ofExcept result) →
      ∃ fault, result = .error fault

/-- `connect_via_socks5` asks the proxy for its host and port. -/
theorem connectViaSocks5_asksFor (socksAddr host : Text) (port : UInt16) :
    AsksFor socksAddr host port where
  written := by
    intro history rest bytes answer htrace hmem
    have hall : (connectViaSocks5 socksAddr host port).All fun c => ∀ bytes, c = .writeAll bytes →
        bytes = Socks5.greeting ∨
          (utf8Encode host).length ≤ 255 ∧ Socks5.decodeRequest bytes = some (host, port) := by
      apply all_connectViaSocks5
      · rintro bytes ⟨⟩
      · rintro bytes ⟨⟩
        exact Or.inl rfl
      · rintro hhost bytes ⟨⟩
        exact Or.inr ⟨hhost, Socks5.decodeRequest_eq hhost port⟩
      · rintro count bytes ⟨⟩
    exact hall.of_trace htrace hmem bytes rfl
  asked := by
    intro hhost
    have hrest : ∃ rest, Routine.Trace (connectViaSocks5 socksAddr host port)
        [⟨.connect .proxy socksAddr, .ok ()⟩, ⟨.writeAll Socks5.greeting, .ok ()⟩,
          ⟨.readExact 2, .ok ⟨Socks5.noAuthentication, rfl⟩⟩] rest ∧
        ∃ next, rest = .call (.writeAll (connectRequest host port)) next := by
      refine ⟨_, .call (.call (.call (.nil _))), ?_⟩
      apply Exists.intro
      have hfits (a b : Action Unit) : (if (utf8Encode host).length > 255 then a else b) = b :=
        if_neg (not_lt.2 hhost)
      exact hfits _ _
    obtain ⟨rest, htrace, next, rfl⟩ := hrest
    exact ⟨_, next, Socks5.decodeRequest_eq hhost port, htrace⟩
  refused := by
    intro hhost history result htrace
    have hfails : (connectViaSocks5 socksAddr host port).Holds Routine.memory (fun _ _ => True)
        (fun result _ => ∃ fault, result = .error fault) [] := by
      apply Routine.Holds.after (.trivial _) (fun _ _ _ => trivial) fun e _ => ⟨e, rfl⟩
      intro _ _
      apply Routine.Holds.after (.trivial _) (fun _ _ _ => trivial) fun e _ => ⟨e, rfl⟩
      intro _ _
      apply Routine.Holds.after (.trivial _) (fun _ _ _ => trivial) fun e _ => ⟨e, rfl⟩
      intro response _
      split
      · exact ⟨_, rfl⟩
      · exact ⟨_, rfl⟩
    exact Routine.holds_ofExcept.1 (hfails.of_memory htrace)

/-! ## The whole way -/

/-- A service id: it is not empty, and its characters are those of base32 in lower case. -/
def IsServiceId (id : Text) : Prop :=
  id ≠ [] ∧ ∀ c ∈ id, c ∈ "abcdefghijklmnopqrstuvwxyz234567".toList

/-- No whitespace is in a service id. -/
theorem IsServiceId.any_isWhitespace {id : Text} (h : IsServiceId id) :
    id.any isWhitespace = false := by
  apply List.any_eq_false.2
  intro c hc
  have halphabet :
      "abcdefghijklmnopqrstuvwxyz234567".toList.all (fun c => !isWhitespace c) = true := by
    decide
  simpa using List.all_eq_true.1 halphabet c (h.2 c hc)

/-- So trimming leaves it alone. -/
theorem IsServiceId.trim_eq {id : Text} (h : IsServiceId id) : trim id = id := by
  have hword := h.any_isWhitespace
  have hstart : id.dropWhile isWhitespace = id := by
    cases id with
    | nil => rfl
    | cons c id =>
        rw [List.dropWhile_cons_of_neg (List.any_eq_false.1 hword c List.mem_cons_self)]
  rw [trim, hstart, trimEnd_eq_self hword]

/-- A joiner of an invite whose one address is that of an onion host. -/
theorem joinNetwork_onion {C : Crates} {J : SerdeJson} {text host : Text} {port : UInt16}
    (hhost : ".onion".toList <:+: host) {invite : Invite Text}
    (hdecode : inviteDecode C J text = .ok invite)
    (haddress : invite.addresses = ["onion://".toList ++ host ++ ':' :: decimal port.toNat])
    (rounds : ℕ) (torSocksAddr : Text) : joinNetwork C J rounds text torSocksAddr = (do
      emit true (.status "Tor uzerinden onion adresine baglaniyor".toList)
      connectViaSocks5WithRetry torSocksAddr host port (reportRetry true) rounds 1
      orContext "socket klonlanamadi".toList (← ask .tryClone)
      return invite.publicKey) := by
  unfold joinNetwork decodeInvite firstAddress
  rw [hdecode]
  simp only [Routine.done_bind, haddress]
  unfold connectToInviteAddress
  rw [parseOnionAddress_onion hhost port]
  rfl

/-- The way of an onion host and its port from the text of an invite to the proxy of a joiner. -/
structure OnionWay (C : Crates) (J : SerdeJson) (text host : Text) (port : UInt16) : Prop where
  /-- The invite is read back, and its one address is that of the host and port. -/
  decoded : ∃ invite address, inviteDecode C J text = .ok invite ∧ invite.addresses = [address] ∧
    address = "onion://".toList ++ host ++ ':' :: decimal port.toNat ∧
    parseOnionAddress address = .ok (some ⟨host, port⟩)
  /-- The joiner's window sees the onion address. -/
  contained : inviteContainsOnionAddress C J text = true
  /-- It goes on over Tor only. -/
  joins : JoinsOverTor C J text
  /-- The joiner's thread dials the host and port, and nothing else. -/
  dialed : ∀ rounds torSocksAddr, ∃ publicKey, joinNetwork C J rounds text torSocksAddr = (do
    emit true (.status "Tor uzerinden onion adresine baglaniyor".toList)
    connectViaSocks5WithRetry torSocksAddr host port (reportRetry true) rounds 1
    orContext "socket klonlanamadi".toList (← ask .tryClone)
    return publicKey)
  /-- The proxy is asked for the host and port. -/
  asked : ∀ torSocksAddr, AsksFor torSocksAddr host port

/-- From an invite with an onion address to the request that the proxy gets. -/
theorem onionWay {C : Crates} {J : SerdeJson} {text host : Text} {port : UInt16}
    (hhost : ".onion".toList <:+: host) {invite : Invite Text}
    (hdecode : inviteDecode C J text = .ok invite)
    (haddress : invite.addresses = ["onion://".toList ++ host ++ ':' :: decimal port.toNat]) :
    OnionWay C J text host port := by
  have hparse := parseOnionAddress_onion hhost port
  have hcontained : inviteContainsOnionAddress C J text = true :=
    inviteContainsOnionAddress_of_parse hdecode (haddress ▸ List.mem_cons_self) hparse
  refine ⟨⟨invite, _, hdecode, haddress, rfl, hparse⟩, hcontained, joinsOverTor hcontained, ?_,
    fun torSocksAddr => connectViaSocks5_asksFor torSocksAddr host port⟩
  exact fun rounds torSocksAddr =>
    ⟨invite.publicKey, joinNetwork_onion hhost hdecode haddress rounds torSocksAddr⟩

/-- Where the first address of an invite is read as an onion target, `start_join` has turned Tor
on. -/
theorem joinsOverTor_of_parse {C : Crates} {J : SerdeJson} {text address : Text}
    {invite : Invite Text} {target : OnionTarget} (hdecode : inviteDecode C J text = .ok invite)
    (haddress : invite.addresses.head? = some address)
    (hparse : parseOnionAddress address = .ok (some target)) : JoinsOverTor C J text := by
  apply joinsOverTor
  exact inviteContainsOnionAddress_of_parse hdecode (List.mem_of_mem_head? haddress) hparse

/-- The port that a host registers with Tor is the port of its invite and the port that its joiner
dials, for every service id that Tor returns and every reply that it comes in; and whichever
invite's first address is an onion target, its joiner has turned Tor on. -/
theorem onion_round_trip (C : Crates) (J : SerdeJson) :
    (∀ hmac rounds (identity : DeviceIdentity C.primitives) name bind publicAddr config
        (port : UInt16) history text, config.servicePort = port.toNat →
      Announces C J hmac rounds identity name bind publicAddr (some config) history text →
        ∃ localAddr reply serviceId,
          commandCalls (addOnion port.toNat localAddr) reply <:+: history ∧
          replyServiceId reply = some serviceId ∧
          (IsServiceId serviceId → OnionWay C J text (serviceId ++ ".onion".toList) port)) ∧
    ∀ text invite address target, inviteDecode C J text = .ok invite →
      invite.addresses.head? = some address → parseOnionAddress address = .ok (some target) →
        JoinsOverTor C J text := by
  constructor
  · intro hmac rounds identity name bind publicAddr config port history text hport h
    obtain ⟨localAddr, reply, serviceId, hreply, hid, hencode⟩ := announces_onion h
    rw [hport] at hreply hencode
    refine ⟨localAddr, reply, serviceId, hreply, hid, fun hservice => ?_⟩
    rw [hservice.trim_eq] at hencode
    exact onionWay (List.suffix_append _ _).isInfix (inviteDecode_encode C hencode) rfl
  · intro text invite address target
    exact joinsOverTor_of_parse

/-- The ports of Tor Browser, and the service port of a new window. -/
def onionConfig : TorConfig := ⟨"127.0.0.1:9151".toList, "127.0.0.1:9150".toList, 45123⟩

/-- A host that registers the service `a2`. -/
def onionCalls : List (Routine.Answered Call.Answer) :=
  [⟨.bind "127.0.0.1:0".toList, .ok ()⟩, ⟨.localAddr, .ok "127.0.0.1:50000".toList⟩,
    ⟨.emit (.status "Tor onion servisi hazirlaniyor".toList), ()⟩,
    ⟨.connect .control "127.0.0.1:9151".toList, .ok ()⟩] ++
  commandCalls "AUTHENTICATE".toList ["250 OK\r\n".toList] ++
  commandCalls (addOnion 45123 "127.0.0.1:50000".toList)
    ["250-ServiceID=a2\r\n".toList, "250 OK\r\n".toList] ++
  [⟨.emit (.status "Onion servisi yayinlandi; Tor aginda duyurulmasi bekleniyor".toList), ()⟩,
    ⟨.sleep 8, ()⟩]

/-- The invite of that host. -/
def onionInvite : Invite Text :=
  (Invite.new transparentIdentity "a".toList).withAddress "onion://a2.onion:45123".toList

/-- The text of that invite. -/
def onionText : Text :=
  inviteScheme ++ invitePayload Crates.transparent SerdeJson.records onionInvite

/-- With these calls the host announces this invite. -/
theorem onionCalls_announce : Announces Crates.transparent SerdeJson.records (fun _ _ => []) 2
    transparentIdentity "a".toList "127.0.0.1:0".toList [] (some onionConfig) onionCalls onionText :=
  ⟨fun _ => awaitPeer, .call (.call (.call (.call (.call (.call (.call (.call (.call (.call (.call
    (.call (.call (.nil _)))))))))))))⟩

/-- The one service id that Tor has returned in these calls. -/
theorem onionCalls_serviceId {command serviceId : Text} {reply : List Text}
    (hreply : commandCalls command reply <:+: onionCalls)
    (hid : replyServiceId reply = some serviceId) : serviceId = "a2".toList := by
  obtain ⟨line, hline, hprefix⟩ := List.exists_of_findSome?_eq_some hid
  have hread : ⟨.readLine, .ok line⟩ ∈ replyCalls reply := List.mem_map.2 ⟨line, hline, rfl⟩
  have hmem : ⟨.readLine, .ok line⟩ ∈ onionCalls := hreply.subset (.tail _ (.tail _ hread))
  obtain rfl | rfl | rfl : line = "250 OK\r\n".toList ∨ line = "250-ServiceID=a2\r\n".toList ∨
      line = "250 OK\r\n".toList := by
    simpa [onionCalls, commandCalls, replyCalls] using hmem
  · cases hprefix
  · exact (Option.some.inj hprefix).symm
  · cases hprefix

/-- The host that announced `a2.onion` is asked for under that name. -/
theorem onion_round_trip_a2 :
    (∃ localAddr reply, commandCalls (addOnion 45123 localAddr) reply <:+: onionCalls ∧
      replyServiceId reply = some "a2".toList ∧
      OnionWay Crates.transparent SerdeJson.records onionText "a2.onion".toList 45123) ∧
    JoinsOverTor Crates.transparent SerdeJson.records onionText := by
  obtain ⟨hhosted, hjoined⟩ := onion_round_trip Crates.transparent SerdeJson.records
  constructor
  · obtain ⟨localAddr, reply, serviceId, hreply, hid, hway⟩ :=
      hhosted _ _ _ _ _ _ onionConfig 45123 _ _ rfl onionCalls_announce
    obtain rfl := onionCalls_serviceId hreply hid
    exact ⟨localAddr, reply, hreply, hid, hway ⟨by simp, by simp⟩⟩
  · exact hjoined onionText onionInvite _ ⟨"a2.onion".toList, 45123⟩
      (inviteDecode_encode _ (inviteEncode_eq onionInvite)) rfl
      (parseOnionAddress_onion (List.suffix_append "a2".toList _).isInfix 45123)

end Fauna.Dial
