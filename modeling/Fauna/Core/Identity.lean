import Fauna.Core.Primitives

/-!
# Keys, identities and sealed messages

`fauna-core`, its text formats apart: the long-term signing identity (`identity.rs`), the invite
that names it (`invite.rs`), the session key (`crypto.rs`) and the exchange keypair of one session
(`key_exchange.rs`). The arrays of fixed
size that the code holds are structures whose fields say how long they are, and each function that
can fail has one lemma saying when it succeeds and with what.

`peers_derive_the_same_session_key` and `session_key_encrypts_and_decrypts` are the two facts the
unit tests of the crate try on one input each, for all inputs.
-/

namespace Fauna.Core

variable {Str Bytes : Type}

/-! ## `identity.rs` -/

/-- `PeerId`, the name a public key is known by. -/
structure PeerId (Str : Type) where
  asStr : Str
  deriving DecidableEq

/-- `PeerId::from_public_key`. -/
def PeerId.fromPublicKey (P : Primitives Str Bytes) (publicKey : Bytes) : PeerId Str :=
  ⟨P.peerIdText (P.digest publicKey)⟩

/-- `DeviceIdentity`: a signing key. -/
structure DeviceIdentity (P : Primitives Str Bytes) where
  signingKey : Bytes
  hasLength : P.hasLength 32 signingKey = true

namespace DeviceIdentity

variable {P : Primitives Str Bytes}

/-- `public_key`. -/
def publicKey (identity : DeviceIdentity P) : Bytes := P.verifyingKey identity.signingKey

/-- `peer_id`. -/
def peerId (identity : DeviceIdentity P) : PeerId Str :=
  .fromPublicKey P identity.publicKey

/-- `public_key_base64`. -/
def publicKeyBase64 (identity : DeviceIdentity P) : Str := P.encode identity.publicKey

variable (P) in
/-- `URL_SAFE_NO_PAD.decode(input)?`. -/
def decodeBase64 (input : Str) : Except FaunaError Bytes :=
  match P.decode input with
  | some bytes => .ok bytes
  | none => .error .base64

variable (P) in
/-- `public_key_from_base64`. -/
def publicKeyFromBase64 (input : Str) : Except FaunaError Bytes := do
  let bytes ← decodeBase64 P input
  ensure (P.hasLength 32 bytes) .invalidKey
  ensure (P.isVerifyingKey bytes) .invalidKey
  return bytes

/-- `sign`. -/
def sign (identity : DeviceIdentity P) (message : Bytes) : Bytes :=
  P.sign identity.signingKey message

variable (P) in
/-- `verify`. -/
def verify (publicKey message signature : Bytes) : Except FaunaError Unit := do
  ensure (P.isSignature signature) .signature
  ensure (P.verify publicKey message signature) .signature

end DeviceIdentity

/-- `ExportedIdentity`: what an identity is kept as outside the program. -/
structure ExportedIdentity (Str : Type) where
  peerId : PeerId Str
  secretKey : Str
  publicKey : Str
  deriving DecidableEq

namespace DeviceIdentity

variable {P : Primitives Str Bytes}

/-- `from_secret_key_bytes`. -/
def fromSecretKeyBytes (secretKey : Bytes) (h : P.hasLength 32 secretKey = true) :
    DeviceIdentity P := ⟨secretKey, h⟩

variable (P) in
/-- `from_export`. -/
def fromExport (exported : ExportedIdentity Str) : Except FaunaError (DeviceIdentity P) := do
  let bytes ← decodeBase64 P exported.secretKey
  if h : P.hasLength 32 bytes = true then return fromSecretKeyBytes bytes h
  else .error .invalidKey

/-- `export`. -/
def toExport (identity : DeviceIdentity P) : ExportedIdentity Str where
  peerId := identity.peerId
  secretKey := P.encode identity.signingKey
  publicKey := identity.publicKeyBase64

/-- `decode_base64` yields what the crate decodes and nothing more. -/
theorem decodeBase64_eq_ok {input : Str} {bytes : Bytes} :
    decodeBase64 P input = .ok bytes ↔ P.decode input = some bytes := by
  unfold decodeBase64
  cases P.decode input <;> simp

/-- A public key is taken exactly when it decodes to 32 bytes that are a verifying key. -/
theorem publicKeyFromBase64_eq_ok {input : Str} {key : Bytes} :
    publicKeyFromBase64 P input = .ok key ↔
      P.decode input = some key ∧ P.hasLength 32 key = true ∧ P.isVerifyingKey key = true := by
  unfold publicKeyFromBase64
  simp only [bind_eq_ok, decodeBase64_eq_ok, ensure_eq_ok, exists_const]
  constructor
  · rintro ⟨bytes, hdecode, hlength, hkey, h⟩
    obtain rfl : bytes = key := by simpa [pure, Except.pure] using h
    exact ⟨hdecode, hlength, hkey⟩
  · rintro ⟨hdecode, hlength, hkey⟩
    exact ⟨key, hdecode, hlength, hkey, rfl⟩

/-- `verify` succeeds exactly on a well-formed signature that the key verifies. -/
theorem verify_eq_ok {publicKey message signature : Bytes} :
    verify P publicKey message signature = .ok () ↔
      P.isSignature signature = true ∧ P.verify publicKey message signature = true := by
  unfold verify
  simp [bind_eq_ok]

/-- An identity reads its own public key back. -/
theorem publicKeyFromBase64_publicKeyBase64 (hP : P.Lawful) (identity : DeviceIdentity P) :
    publicKeyFromBase64 P identity.publicKeyBase64 = .ok identity.publicKey :=
  publicKeyFromBase64_eq_ok.2 ⟨hP.decode_encode _,
    hP.verifyingKey_length _ identity.hasLength,
    hP.isVerifyingKey_verifyingKey _ identity.hasLength⟩

/-- What an identity signs verifies under its public key. -/
theorem identity_can_sign_and_verify (hP : P.Lawful) (identity : DeviceIdentity P)
    (message : Bytes) : verify P identity.publicKey message (identity.sign message) = .ok () :=
  verify_eq_ok.2 ⟨hP.isSignature_sign _ _ identity.hasLength, hP.verify_sign _ _ identity.hasLength⟩

/-- An export is read by its secret key alone. -/
theorem fromExport_eq_ok {exported : ExportedIdentity Str} {identity : DeviceIdentity P} :
    fromExport P exported = .ok identity ↔
      P.decode exported.secretKey = some identity.signingKey := by
  unfold fromExport
  rw [bind_eq_ok]
  constructor
  · rintro ⟨bytes, hbytes, h⟩
    split at h
    · obtain rfl := Except.ok.inj h
      exact decodeBase64_eq_ok.1 hbytes
    · cases h
  · intro h
    exact ⟨identity.signingKey, decodeBase64_eq_ok.2 h, dif_pos identity.hasLength⟩

/-- An identity reads its own export back. -/
theorem fromExport_toExport (hP : P.Lawful) (identity : DeviceIdentity P) :
    fromExport P identity.toExport = .ok identity :=
  fromExport_eq_ok.2 (hP.decode_encode identity.signingKey)

end DeviceIdentity

/-! ## `invite.rs` -/

/-- `Invite`: what a host hands to the person who is to join. -/
structure Invite (Str : Type) where
  version : UInt8
  peerId : PeerId Str
  displayName : Str
  publicKey : Str
  addresses : List Str
  deriving DecidableEq

namespace Invite

/-- `Invite::new`. -/
def new {P : Primitives Str Bytes} (identity : DeviceIdentity P) (displayName : Str) :
    Invite Str where
  version := 1
  peerId := identity.peerId
  displayName := displayName
  publicKey := identity.publicKeyBase64
  addresses := []

/-- `with_address`. -/
def withAddress (invite : Invite Str) (address : Str) : Invite Str :=
  { invite with addresses := invite.addresses ++ [address] }

@[simp] theorem new_publicKey {P : Primitives Str Bytes} (identity : DeviceIdentity P)
    (displayName : Str) : (new identity displayName).publicKey = identity.publicKeyBase64 := rfl

@[simp] theorem withAddress_publicKey (invite : Invite Str) (address : Str) :
    (invite.withAddress address).publicKey = invite.publicKey := rfl

end Invite

/-! ## `crypto.rs` -/

/-- `SessionKey`: 32 bytes. -/
@[ext] structure SessionKey (P : Primitives Str Bytes) where
  bytes : Bytes
  hasLength : P.hasLength 32 bytes = true

/-- The 24 bytes `OsRng` fills for one message. -/
@[ext] structure Nonce (P : Primitives Str Bytes) where
  bytes : Bytes
  hasLength : P.hasLength 24 bytes = true

/-- `EncryptedMessage`. -/
structure EncryptedMessage (Str : Type) where
  nonce : Str
  ciphertext : Str
  deriving DecidableEq

namespace SessionKey

variable {P : Primitives Str Bytes}

instance [DecidableEq Bytes] : DecidableEq (SessionKey P) := fun k k' =>
  decidable_of_iff (k.bytes = k'.bytes) SessionKey.ext_iff.symm

/-- `SessionKey::encrypt`, with the nonce it draws as an argument. -/
def encrypt (key : SessionKey P) (nonce : Nonce P) (plaintext : Bytes) :
    Except FaunaError (EncryptedMessage Str) :=
  match P.aeadEncrypt key.bytes nonce.bytes plaintext with
  | some ciphertext => .ok ⟨P.encode nonce.bytes, P.encode ciphertext⟩
  | none => .error .crypto

/-- `SessionKey::decrypt`. -/
def decrypt (key : SessionKey P) (message : EncryptedMessage Str) : Except FaunaError Bytes := do
  let nonce ← DeviceIdentity.decodeBase64 P message.nonce
  ensure (P.hasLength 24 nonce) .invalidKey
  let ciphertext ← DeviceIdentity.decodeBase64 P message.ciphertext
  match P.aeadDecrypt key.bytes nonce ciphertext with
  | some plaintext => .ok plaintext
  | none => .error .crypto

/-- A sealed message is the cipher text under the session key with its nonce, both encoded. -/
theorem encrypt_eq_ok {key : SessionKey P} {nonce : Nonce P} {plaintext : Bytes}
    {message : EncryptedMessage Str} :
    key.encrypt nonce plaintext = .ok message ↔
      ∃ ciphertext, P.aeadEncrypt key.bytes nonce.bytes plaintext = some ciphertext ∧
        message = ⟨P.encode nonce.bytes, P.encode ciphertext⟩ := by
  unfold encrypt
  cases P.aeadEncrypt key.bytes nonce.bytes plaintext <;> simp [eq_comm]

/-- Decryption yields exactly what the cipher opens for a 24-byte nonce. -/
theorem decrypt_eq_ok {key : SessionKey P} {message : EncryptedMessage Str} {plaintext : Bytes} :
    key.decrypt message = .ok plaintext ↔
      ∃ nonce ciphertext, P.decode message.nonce = some nonce ∧ P.hasLength 24 nonce = true ∧
        P.decode message.ciphertext = some ciphertext ∧
        P.aeadDecrypt key.bytes nonce ciphertext = some plaintext := by
  unfold decrypt
  simp only [bind_eq_ok, DeviceIdentity.decodeBase64_eq_ok, ensure_eq_ok, exists_const]
  constructor
  · rintro ⟨nonce, hnonce, hlength, ciphertext, hciphertext, h⟩
    refine ⟨nonce, ciphertext, hnonce, hlength, hciphertext, ?_⟩
    cases hd : P.aeadDecrypt key.bytes nonce ciphertext with
    | none => simp [hd] at h
    | some p => simpa [hd] using h
  · rintro ⟨nonce, ciphertext, hnonce, hlength, hciphertext, h⟩
    exact ⟨nonce, hnonce, hlength, ciphertext, hciphertext, by simp [h]⟩

/-- What a key encrypts it decrypts. -/
theorem session_key_encrypts_and_decrypts (hP : P.Lawful) {key : SessionKey P} {nonce : Nonce P}
    {plaintext : Bytes} {message : EncryptedMessage Str}
    (h : key.encrypt nonce plaintext = .ok message) : key.decrypt message = .ok plaintext := by
  obtain ⟨ciphertext, hencrypt, rfl⟩ := encrypt_eq_ok.1 h
  exact decrypt_eq_ok.2 ⟨nonce.bytes, ciphertext, hP.decode_encode _, nonce.hasLength,
    hP.decode_encode _, hP.aeadDecrypt_encrypt _ _ _ _ hencrypt⟩

end SessionKey

/-! ## `key_exchange.rs` -/

/-- `ExchangeKeypair`: a secret scalar and the public key that belongs to it. -/
structure ExchangeKeypair (P : Primitives Str Bytes) where
  secretKey : Bytes
  publicKey : Bytes
  hasLength : P.hasLength 32 secretKey = true
  publicKey_eq : publicKey = P.exchangeKey secretKey

namespace ExchangeKeypair

variable {P : Primitives Str Bytes}

/-- `ExchangeKeypair::generate`, with the random secret as an argument. -/
def generate (secretKey : Bytes) (h : P.hasLength 32 secretKey = true) : ExchangeKeypair P :=
  ⟨secretKey, P.exchangeKey secretKey, h, rfl⟩

/-- `public_key_base64`. -/
def publicKeyBase64 (exchange : ExchangeKeypair P) : Str := P.encode exchange.publicKey

/-- `derive_session_key`. -/
def deriveSessionKey (exchange : ExchangeKeypair P) (remotePublicKey : Str) :
    Except FaunaError (SessionKey P) := do
  let bytes ← DeviceIdentity.decodeBase64 P remotePublicKey
  ensure (P.hasLength 32 bytes) .invalidKey
  return ⟨P.digest (P.diffieHellman exchange.secretKey bytes), P.digest_length _⟩

/-- The session key is the digest of the shared secret with the remote key, which has 32 bytes. -/
theorem deriveSessionKey_eq_ok {exchange : ExchangeKeypair P} {remotePublicKey : Str}
    {key : SessionKey P} :
    exchange.deriveSessionKey remotePublicKey = .ok key ↔
      ∃ bytes, P.decode remotePublicKey = some bytes ∧ P.hasLength 32 bytes = true ∧
        key.bytes = P.digest (P.diffieHellman exchange.secretKey bytes) := by
  unfold deriveSessionKey
  simp only [bind_eq_ok, DeviceIdentity.decodeBase64_eq_ok, ensure_eq_ok, exists_const]
  constructor
  · rintro ⟨bytes, hdecode, hlength, h⟩
    obtain rfl := Except.ok.inj h
    exact ⟨bytes, hdecode, hlength, rfl⟩
  · rintro ⟨bytes, hdecode, hlength, h⟩
    exact ⟨bytes, hdecode, hlength, congrArg Except.ok (SessionKey.ext h.symm)⟩

/-- Two keypairs that read each other's public key derive one session key. -/
theorem peers_derive_the_same_session_key (hP : P.Lawful) (alice bob : ExchangeKeypair P) :
    ∃ key, alice.deriveSessionKey bob.publicKeyBase64 = .ok key ∧
      bob.deriveSessionKey alice.publicKeyBase64 = .ok key := by
  have hlength (e : ExchangeKeypair P) : P.hasLength 32 e.publicKey = true := by
    rw [e.publicKey_eq]
    exact hP.exchangeKey_length _ e.hasLength
  refine ⟨⟨P.digest (P.diffieHellman alice.secretKey bob.publicKey), P.digest_length _⟩, ?_, ?_⟩
  · exact deriveSessionKey_eq_ok.2 ⟨bob.publicKey, hP.decode_encode _, hlength bob, rfl⟩
  · refine deriveSessionKey_eq_ok.2 ⟨alice.publicKey, hP.decode_encode _, hlength alice, ?_⟩
    rw [alice.publicKey_eq, bob.publicKey_eq,
      hP.diffieHellman_comm _ _ alice.hasLength bob.hasLength]

end ExchangeKeypair

end Fauna.Core
