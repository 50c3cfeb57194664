import Fauna.Desktop.App
import Fauna.Lib.Cut

/-!
# Addresses in an invite

How the programs read the address of an invite and how the desktop's host writes one: the two
normalizers, the onion addresses, and what the host advertises when Tor is off. An address is any
text; what makes one an endpoint for `TcpStream::connect` is decided here.

* `normalizeAddressWith_eq_ok_iff`: which addresses the normalizers take, and as what.
* `parseOnionAddress_eq_ok_none_iff`: which addresses the desktop takes for no onion address.
-/

namespace Fauna.Dial

open Fauna.Lib Fauna.Core Fauna.Wire Fauna.Desktop

/-- The body of `normalize_address`, over the text of its error. -/
def normalizeAddressWith (unsupported : Text) (address : Text) : Except Fault Text :=
  match "/ip4/".toList.isPrefixOf? address with
  | some rest =>
      match splitOnce "/tcp/".toList rest with
      | some (host, port) => .ok (host ++ ':' :: port)
      | none => .error (.error (unsupported ++ address))
  | none => if ':' ∈ address then .ok address else .error (.error (unsupported ++ address))

/-- `normalize_address` of `fauna-cli`. -/
def Cli.normalizeAddress : Text → Except Fault Text :=
  normalizeAddressWith "unsupported address format: ".toList

/-- `normalize_address` of `fauna-desktop`. -/
def Desktop.normalizeAddress : Text → Except Fault Text :=
  normalizeAddressWith "desteklenmeyen adres formati: ".toList

/-- `OnionTarget`. -/
structure OnionTarget where
  host : Text
  port : UInt16
  deriving DecidableEq

/-- `address.strip_prefix("onion://").unwrap_or(address)`. -/
def stripOnionScheme (address : Text) : Text :=
  ("onion://".toList.isPrefixOf? address).getD address

/-- `parse_onion_address`. -/
def parseOnionAddress (address : Text) : Except Fault (Option OnionTarget) :=
  let address := stripOnionScheme address
  if ¬ ".onion".toList <:+: address then .ok none
  else
    match rsplitOnce ':' address with
    | none => .error (.error ("onion adresinde port yok: ".toList ++ address))
    | some (host, port) =>
        match parseU16 port with
        | none => .error (.error ("onion port okunamadi: ".toList ++ address))
        | some port => .ok (some ⟨host, .ofNat port⟩)

/-- `normalize_direct_public_addr`. -/
def normalizeDirectPublicAddr (address localAddr : Text) : Text :=
  let address := trim address
  if address = [] then localAddr
  else if ":0".toList <:+ address then localAddr
  else address

/-- The addresses that point to this computer only. -/
def isLoopback (address : Text) : Bool :=
  "127.".toList.isPrefixOf address || "localhost:".toList.isPrefixOf address

/-- The endpoint an address stands for: `/ip4/h/tcp/p` stands for `h:p`, and another text with a
colon for itself. -/
inductive Endpoint : Text → Text → Prop
  | multiaddr {host port : Text} (h : splitOnce "/tcp/".toList (host ++ "/tcp/".toList ++ port) =
      some (host, port)) :
      Endpoint ("/ip4/".toList ++ host ++ "/tcp/".toList ++ port) (host ++ ':' :: port)
  | hostPort {address : Text} (hscheme : ¬ "/ip4/".toList <+: address) (hcolon : ':' ∈ address) :
      Endpoint address address

/-- The normalizers take exactly the addresses that stand for an endpoint. -/
theorem normalizeAddressWith_eq_ok_iff {unsupported address endpoint : Text} :
    normalizeAddressWith unsupported address = .ok endpoint ↔ Endpoint address endpoint := by
  unfold normalizeAddressWith
  constructor
  · intro h
    split at h
    · next rest hrest =>
      rw [List.isPrefixOf?_eq_some_iff_append_eq] at hrest
      subst hrest
      split at h
      · next host port hsplit =>
        obtain rfl := Except.ok.inj h
        obtain rfl := splitOnce_eq_some hsplit
        rw [← List.append_assoc, ← List.append_assoc]
        exact .multiaddr hsplit
      · cases h
    · next hnone =>
      split at h
      · next hcolon =>
        obtain rfl := Except.ok.inj h
        exact .hostPort (isPrefixOf?_eq_none_iff.1 hnone) hcolon
      · cases h
  · intro h
    cases h with
    | @multiaddr host port hsplit =>
        have hrest : "/ip4/".toList.isPrefixOf?
            ("/ip4/".toList ++ host ++ "/tcp/".toList ++ port) =
              some (host ++ "/tcp/".toList ++ port) :=
          List.isPrefixOf?_eq_some_iff_append_eq.2 (by simp)
        rw [hrest]
        simp only [hsplit]
    | hostPort hscheme hcolon =>
        rw [isPrefixOf?_eq_none_iff.2 hscheme]
        exact if_pos hcolon

/-- What the normalizers refuse does not stand for an endpoint. -/
theorem normalizeAddressWith_eq_error {unsupported address : Text} {fault : Fault}
    (h : normalizeAddressWith unsupported address = .error fault) (endpoint : Text) :
    ¬ Endpoint address endpoint := by
  intro hendpoint
  rw [normalizeAddressWith_eq_ok_iff.2 hendpoint] at h
  cases h

/-- An address stands for one endpoint at most. -/
theorem Endpoint.unique {address endpoint endpoint' : Text} (h : Endpoint address endpoint)
    (h' : Endpoint address endpoint') : endpoint = endpoint' := by
  have hnormal : normalizeAddressWith [] address = .ok endpoint :=
    normalizeAddressWith_eq_ok_iff.2 h
  rw [normalizeAddressWith_eq_ok_iff.2 h'] at hnormal
  exact (Except.ok.inj hnormal).symm

/-- An address is no onion address exactly when `.onion` is nowhere in it. -/
theorem parseOnionAddress_eq_ok_none_iff {address : Text} :
    parseOnionAddress address = .ok none ↔ ¬ ".onion".toList <:+: stripOnionScheme address := by
  unfold parseOnionAddress
  constructor
  · intro h
    dsimp only at h
    split at h
    · assumption
    · split at h
      · cases h
      · split at h <;> cases h
  · intro h
    exact if_pos h

/-- An onion target is what stands before and after the last colon. -/
theorem parseOnionAddress_eq_ok_some_iff {address : Text} {target : OnionTarget} :
    parseOnionAddress address = .ok (some target) ↔
      ".onion".toList <:+: stripOnionScheme address ∧ ∃ port n,
        stripOnionScheme address = target.host ++ ':' :: port ∧ ':' ∉ port ∧
        parseU16 port = some n ∧ target.port = .ofNat n := by
  unfold parseOnionAddress
  constructor
  · intro h
    dsimp only at h
    split at h
    · cases h
    next honion =>
    split at h
    · cases h
    next host port hsplit =>
    split at h
    · cases h
    next n hport =>
    obtain rfl := Option.some.inj (Except.ok.inj h)
    obtain ⟨hcut, hcolon⟩ := rsplitOnce_eq_some_iff.1 hsplit
    exact ⟨not_not.1 honion, port, n, hcut, hcolon, hport, rfl⟩
  · rintro ⟨honion, port, n, hcut, hcolon, hport, htarget⟩
    dsimp only
    rw [if_neg (not_not.2 honion), rsplitOnce_eq_some_iff.2 ⟨hcut, hcolon⟩]
    simp only [hport]
    rw [← htarget]

end Fauna.Dial
