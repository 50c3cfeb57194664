import Fauna.Dial.Address
import Fauna.Tor.Socks

/-!
# Dialing the address of an invite

`connect_to_invite_address` and `join_network` of the desktop, and `join` of the CLI, up to the
handshake. A routine is sheltered where it never dials a peer directly: what it hands out it dialed
through the SOCKS proxy.

* `connectToInviteAddress_eq`: the three ways of `connect_to_invite_address`.
* `onion_sheltered_iff`: for each program, the addresses it never dials directly.
-/

namespace Fauna.Dial

open Fauna.Lib Fauna.Core Fauna.Wire Fauna.Desktop Fauna.Tor Fauna.Dial.Action

/-! ## The code -/

/-- What `connect_to_invite_address` reports of a failed attempt. -/
def reportRetry (events : Bool) (attempt : ℕ) (error : Text) : Action Unit :=
  emit events (.status ("Tor baglantisi deneniyor (".toList ++ decimal attempt ++ "): ".toList ++
    error))

/-- `connect_to_invite_address`, where the clock allows `rounds` attempts over Tor. -/
def connectToInviteAddress (rounds : ℕ) (address torSocksAddr : Text) (events : Bool) :
    Action Unit := do
  match ← Routine.ofExcept (parseOnionAddress address) with
  | some target => do
      emit events (.status "Tor uzerinden onion adresine baglaniyor".toList)
      connectViaSocks5WithRetry torSocksAddr target.host target.port (reportRetry events) rounds 1
  | none => do
      let address ← Routine.ofExcept (Desktop.normalizeAddress address)
      if isLoopback address then
        bail (address ++ (" sadece bu bilgisayari gosterir. Baska bilgisayarda kullanmak icin " ++
          "host tarafinda Tor modunu acip yeni davet olustur.").toList)
      else connect .direct address (address ++ " adresine baglanilamadi".toList)

/-- `Invite::decode(text).context(message)?`. -/
def decodeInvite (C : Crates) (J : SerdeJson) (unreadable : Text) (inviteText : Text) :
    Action (Invite Text) :=
  match inviteDecode C J inviteText with
  | .ok invite => .done invite
  | .error _ => bail unreadable

/-- `invite.addresses.first()`. -/
def firstAddress (missing : Text) (invite : Invite Text) : Action Text :=
  match invite.addresses with
  | [] => bail missing
  | address :: _ => .done address

/-- `join_network` up to the handshake, with the key that it goes on to expect. -/
def joinNetwork (C : Crates) (J : SerdeJson) (rounds : ℕ) (inviteText torSocksAddr : Text) :
    Action Text := do
  let invite ← decodeInvite C J "davet linki okunamadi".toList inviteText
  let address ← firstAddress "davet linkinde adres yok".toList invite
  connectToInviteAddress rounds address torSocksAddr true
  orContext "socket klonlanamadi".toList (← ask .tryClone)
  return invite.publicKey

/-- `join` of the CLI up to the handshake, with the key that it goes on to expect. -/
def Cli.join (C : Crates) (J : SerdeJson) (inviteText : Text) : Action Text := do
  let invite ← decodeInvite C J "invalid invite".toList inviteText
  let address ← firstAddress "invite does not contain a direct address".toList invite
  let address ← Routine.ofExcept (Cli.normalizeAddress address)
  ask (.printLine ("Connecting to ".toList ++ address ++ "...".toList))
  connect .direct address ("could not connect to ".toList ++ address)
  orContext "could not clone stream".toList (← ask .tryClone)
  return invite.publicKey

/-! ## What is dialed -/

/-- A call that dials no peer directly. -/
def Indirect : Call → Prop
  | .connect .direct _ => False
  | _ => True

/-- The proxy was dialed. -/
def Proxied (history : List (Routine.Answered Call.Answer)) : Prop :=
  ∃ socksAddr, ⟨.connect .proxy socksAddr, .ok ()⟩ ∈ history

/-- No peer is dialed directly, and what is handed out was dialed through the SOCKS proxy. -/
def Sheltered {α : Type} (action : Action α) : Prop :=
  ∀ history rest, Routine.Trace action history rest →
    (∀ e ∈ history, Indirect e.1) ∧ ∀ a, rest = .done a → Proxied history

/-- `Sheltered`, along the routine. -/
def Shelters {α : Type} (action : Action α) (history : List (Routine.Answered Call.Answer)) :
    Prop :=
  action.Holds Routine.memory (fun _ c => Indirect c)
    (fun result history => ∀ a, result = .ok a → Proxied history) history

/-- What shelters from the start on is sheltered. -/
theorem Shelters.sheltered {α : Type} {action : Action α} (h : Shelters action []) :
    Sheltered action := by
  intro history rest htrace
  refine ⟨fun e he => ?_, ?_⟩
  · obtain ⟨_, hindirect⟩ := Routine.Holds.permitted h htrace (Routine.memory_run [] history) he
    exact hindirect
  · rintro a rfl
    exact Routine.Holds.of_memory h htrace a rfl

/-- A proxy that was dialed stays so. -/
theorem Proxied.append {history : List (Routine.Answered Call.Answer)} (h : Proxied history)
    (more : List (Routine.Answered Call.Answer)) : Proxied (history ++ more) := by
  obtain ⟨socksAddr, hmem⟩ := h
  exact ⟨socksAddr, List.mem_append_left _ hmem⟩

/-- Once the proxy is dialed, calls that dial nobody else keep the shelter. -/
theorem Shelters.of_all {α : Type} {action : Action α}
    {history : List (Routine.Answered Call.Answer)} (h : action.All Indirect)
    (hproxied : Proxied history) : Shelters action history := by
  have hkept : action.Holds Routine.memory (fun _ c => Indirect c) (fun _ => Proxied) history := by
    refine h.holds (fun _ _ _ hc => hc) ?_ hproxied
    rintro history' e _ hproxied' _ rfl
    exact hproxied'.append [e]
  exact hkept.mono fun _ _ hproxied' _ _ => hproxied'

/-- What a sequence does first need not dial anything. -/
theorem Shelters.after {α β : Type} {first : Action α} {next : α → Action β}
    {history : List (Routine.Answered Call.Answer)} (h : first.All Indirect)
    (hnext : ∀ a history, Shelters (next a) history) : Shelters (first >>= next) history :=
  Routine.Holds.after h (fun _ _ hc => hc) (fun _ _ _ ha => by cases ha) hnext

/-- A call through the proxy dials no peer directly. -/
theorem indirect_of_throughProxy {c : Call} (h : ThroughProxy c) : Indirect c := by
  cases c with
  | connect route address =>
      cases route with
      | direct => exact h
      | proxy | control => trivial
  | _ => trivial

/-- The dialing of the proxy is the shelter of a connection over SOCKS. -/
theorem connectViaSocks5_shelters (socksAddr host : Text) (port : UInt16)
    (history : List (Routine.Answered Call.Answer)) :
    Shelters (connectViaSocks5 socksAddr host port) history := by
  refine ⟨trivial, ?_⟩
  rintro answer history' rfl
  cases answer with
  | error error => exact fun a ha => by cases ha
  | ok _ =>
      have hall := (all_throughProxy socksAddr host port).mono fun _ => indirect_of_throughProxy
      exact Shelters.of_all (hall.2 (.ok ()))
        ⟨socksAddr, List.mem_append_right _ List.mem_cons_self⟩

/-- However often it is tried, the proxy stands between. -/
theorem connectViaSocks5WithRetry_shelters (socksAddr host : Text) (port : UInt16)
    {onRetry : ℕ → Text → Action Unit}
    (hretry : ∀ attempt error, (onRetry attempt error).All Indirect)
    (rounds attempt : ℕ) (history : List (Routine.Answered Call.Answer)) :
    Shelters (connectViaSocks5WithRetry socksAddr host port onRetry rounds attempt) history := by
  induction rounds generalizing attempt history with
  | zero => exact fun a ha => by cases ha
  | succ rounds ih =>
      rw [connectViaSocks5WithRetry]
      apply Routine.holds_bind.2
      apply Routine.holds_attempt.2
      apply (connectViaSocks5_shelters socksAddr host port history).mono
      intro result history' hresult
      cases result with
      | ok _ => exact fun a _ => hresult () rfl
      | error fault =>
          cases fault with
          | panic => exact fun a ha => by cases ha
          | error error =>
              apply Shelters.after (hretry attempt error)
              intro _ history''
              exact ⟨trivial, fun _ _ _ => ih (attempt + 1) _⟩

/-- The ways of `connect_to_invite_address`. -/
theorem connectToInviteAddress_eq (rounds : ℕ) (address torSocksAddr : Text) (events : Bool) :
    (∃ target, parseOnionAddress address = .ok (some target) ∧
      connectToInviteAddress rounds address torSocksAddr events = do
        emit events (.status "Tor uzerinden onion adresine baglaniyor".toList)
        connectViaSocks5WithRetry torSocksAddr target.host target.port (reportRetry events) rounds 1) ∨
    (∃ endpoint, ¬ ".onion".toList <:+: stripOnionScheme address ∧ Endpoint address endpoint ∧
      isLoopback endpoint = false ∧
      connectToInviteAddress rounds address torSocksAddr events =
        connect .direct endpoint (endpoint ++ " adresine baglanilamadi".toList)) ∨
    ((".onion".toList <:+: stripOnionScheme address ∨
        ∀ endpoint, Endpoint address endpoint → isLoopback endpoint = true) ∧
      ∃ fault, connectToInviteAddress rounds address torSocksAddr events = .fail fault) := by
  unfold connectToInviteAddress
  cases hparse : parseOnionAddress address with
  | error fault =>
      refine Or.inr (Or.inr ⟨Or.inl ?_, fault, rfl⟩)
      by_contra honion
      rw [parseOnionAddress_eq_ok_none_iff.2 honion] at hparse
      cases hparse
  | ok target =>
      cases target with
      | some target => exact Or.inl ⟨target, rfl, rfl⟩
      | none =>
          have honion := parseOnionAddress_eq_ok_none_iff.1 hparse
          right
          cases hnormal : Desktop.normalizeAddress address with
          | error fault =>
              refine Or.inr ⟨Or.inr fun endpoint h => ?_, fault, rfl⟩
              exact absurd h (normalizeAddressWith_eq_error hnormal endpoint)
          | ok endpoint =>
              have hendpoint := normalizeAddressWith_eq_ok_iff.1 hnormal
              by_cases hloopback : isLoopback endpoint = true
              · refine Or.inr ⟨Or.inr fun endpoint' h => ?_, ?_⟩
                · rwa [h.unique hendpoint]
                · exact ⟨_, if_pos hloopback⟩
              · exact Or.inl ⟨endpoint, honion, hendpoint, by simpa using hloopback,
                  if_neg hloopback⟩

/-- A direct dial that is answered is no shelter. -/
theorem not_sheltered_connect (endpoint context : Text) :
    ¬ Sheltered (connect .direct endpoint context) := by
  intro h
  have htrace : Routine.Trace (connect .direct endpoint context)
      [⟨.connect .direct endpoint, .ok ()⟩] (.done ()) := .single (.answered _ _ _)
  exact (h _ _ htrace).1 _ List.mem_cons_self

/-- Which addresses are never dialed directly: those with `.onion`, and those that are refused. -/
theorem connectToInviteAddress_sheltered_iff {address : Text} :
    (∀ rounds torSocksAddr events,
      Sheltered (connectToInviteAddress rounds address torSocksAddr events)) ↔
      ".onion".toList <:+: stripOnionScheme address ∨
        ∀ endpoint, Endpoint address endpoint → isLoopback endpoint = true := by
  constructor
  · intro h
    rcases connectToInviteAddress_eq 0 address [] false with
      ⟨target, hparse, -⟩ | ⟨endpoint, -, -, -, heq⟩ | ⟨hrefused, -⟩
    · exact Or.inl (parseOnionAddress_eq_ok_some_iff.1 hparse).1
    · exact absurd (heq ▸ h 0 [] false) (not_sheltered_connect _ _)
    · exact hrefused
  · intro h rounds torSocksAddr events
    apply Shelters.sheltered
    rcases connectToInviteAddress_eq rounds address torSocksAddr events with
      ⟨target, -, heq⟩ | ⟨endpoint, honion, hendpoint, hloopback, -⟩ | ⟨-, fault, heq⟩
    · rw [heq]
      apply Shelters.after (all_emit trivial events)
      intro _ history
      exact connectViaSocks5WithRetry_shelters torSocksAddr target.host target.port
        (fun _ _ => all_emit trivial events) rounds 1 history
    · rcases h with h | h
      · exact absurd h honion
      · rw [h endpoint hendpoint] at hloopback
        cases hloopback
    · rw [heq]
      exact fun a ha => by cases ha

/-- `join` of the CLI dials what its normalizer takes, and refuses the rest. -/
theorem Cli.join_sheltered_iff {C : Crates} {J : SerdeJson} {inviteText address : Text}
    {invite : Invite Text} (hdecode : inviteDecode C J inviteText = .ok invite)
    (haddress : invite.addresses.head? = some address) :
    Sheltered (Cli.join C J inviteText) ↔ ∀ endpoint, ¬ Endpoint address endpoint := by
  obtain ⟨rest, haddresses⟩ : ∃ rest, invite.addresses = address :: rest := by
    rwa [List.head?_eq_some_iff] at haddress
  unfold Cli.join decodeInvite firstAddress
  rw [hdecode]
  simp only [Routine.done_bind, haddresses]
  cases hnormal : Cli.normalizeAddress address with
  | error fault =>
      refine ⟨fun _ => normalizeAddressWith_eq_error hnormal, fun _ => Shelters.sheltered ?_⟩
      exact fun a ha => by cases ha
  | ok endpoint =>
      have hendpoint := normalizeAddressWith_eq_ok_iff.1 hnormal
      refine ⟨fun h => ?_, fun h => absurd hendpoint (h endpoint)⟩
      have hindirect := (h [⟨.printLine _, ()⟩, ⟨.connect .direct endpoint, .ok ()⟩] _
        (Routine.Trace.call (Routine.Trace.call (.nil _)))).1
      exact (hindirect _ (List.mem_cons_of_mem _ List.mem_cons_self)).elim

/-! ## Onion addresses -/

/-- The host of an address: what stands before its last colon, after `onion://` or `/ip4/`. -/
def hostPart (address : Text) : Text :=
  let address := match "onion://".toList.isPrefixOf? address with
    | some rest => rest
    | none => ("/ip4/".toList.isPrefixOf? address).getD address
  ((rsplitOnce ':' address).map Prod.fst).getD address

/-- An address with the onion scheme, or whose host is an onion name in any letter case. -/
def OnionAddress (address : Text) : Prop :=
  "onion://".toList <+: address ∨ ".onion".toList <:+ (hostPart address).map Char.toLower

/-- For every text of an address, an onion address or not, and every configuration: the desktop
never dials it directly exactly where it holds `.onion` in lower case after the onion scheme is
stripped, or stands for no endpoint, or for one that points to this computer; the CLI never does
exactly where it stands for no endpoint. -/
theorem onion_sheltered_iff (address : Text) :
    ((∀ rounds torSocksAddr events,
      Sheltered (connectToInviteAddress rounds address torSocksAddr events)) ↔
        ".onion".toList <:+: stripOnionScheme address ∨
          ∀ endpoint, Endpoint address endpoint → isLoopback endpoint = true) ∧
    ((∀ (C : Crates) (J : SerdeJson) inviteText invite, inviteDecode C J inviteText = .ok invite →
      invite.addresses.head? = some address → Sheltered (Cli.join C J inviteText)) ↔
        ∀ endpoint, ¬ Endpoint address endpoint) := by
  refine ⟨connectToInviteAddress_sheltered_iff, ?_, ?_⟩
  · intro h
    let invite := (Invite.new transparentIdentity []).withAddress address
    have hencode : inviteEncode Crates.transparent SerdeJson.records invite = .ok _ := rfl
    have hdecode := inviteDecode_encode Crates.transparent hencode
    exact (Cli.join_sheltered_iff hdecode rfl).1 (h _ _ _ invite hdecode rfl)
  · intro h C J inviteText invite hdecode haddress
    exact (Cli.join_sheltered_iff hdecode haddress).2 h

/-- An onion address in upper case is dialed directly by both programs. -/
theorem onion_dialed_directly :
    ¬ ∀ address, OnionAddress address →
      (∀ rounds torSocksAddr events,
        Sheltered (connectToInviteAddress rounds address torSocksAddr events)) ∧
      ∀ (C : Crates) (J : SerdeJson) inviteText invite, inviteDecode C J inviteText = .ok invite →
        invite.addresses.head? = some address → Sheltered (Cli.join C J inviteText) := by
  intro h
  have honion : OnionAddress "example.ONION:45123".toList := Or.inr (by decide)
  have hendpoint : Endpoint "example.ONION:45123".toList "example.ONION:45123".toList :=
    .hostPort (by decide) (by decide)
  rcases connectToInviteAddress_sheltered_iff.1 (h _ honion).1 with hlower | hloopback
  · revert hlower
    decide
  · have hpoints := hloopback _ hendpoint
    revert hpoints
    decide

end Fauna.Dial
