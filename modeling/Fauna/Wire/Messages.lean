import Fauna.Core.Identity

/-!
# The two messages of a session

A session of either program sends one hello and then chat frames. This module has both frames and
the code of `run_session` that makes and takes them, over any `Primitives`: `createHello`,
`verifyHello` and the key derivation after it (`establish`), and the sealing and opening of one
chat body. The two programs check a hello in the same order and differ in their texts only.

* `verifyHello_eq_ok`, `establish_eq_ok`: exactly which hellos are accepted, and the key.
* `establish_createHello`: two parties that read each other's hello accept it and hold one key.
* `openChat_sealChat`: a chat frame opens to the body it was made from.
* `establish_ne_panic`, `openChat_ne_panic`: nothing a peer can put in a frame makes them panic.
-/

namespace Fauna.Wire

open Fauna.Lib Fauna.Core

variable {Str Bytes : Type} {P : Primitives Str Bytes}

/-- The two programs that speak the protocol. -/
inductive Program
  | cli
  | desktop
  deriving DecidableEq, Repr

/-- `HelloFrame`. -/
structure HelloFrame (Str : Type) where
  peerId : PeerId Str
  displayName : Str
  identityPublicKey : Str
  exchangePublicKey : Str
  signature : Str
  deriving DecidableEq

/-- `ChatFrame`. -/
structure ChatFrame (Str : Type) where
  nonce : Str
  ciphertext : Str
  deriving DecidableEq

/-! ## Hellos -/

/-- `create_hello`, the same in both programs. The signature covers the text of the exchange key
and nothing else. -/
def createHello (identity : DeviceIdentity P) (displayName : Str) (exchange : ExchangeKeypair P) :
    HelloFrame Str where
  peerId := identity.peerId
  displayName := displayName
  identityPublicKey := identity.publicKeyBase64
  exchangePublicKey := exchange.publicKeyBase64
  signature := P.encode (identity.sign (P.asBytes exchange.publicKeyBase64))

/-- What `verify_hello` says when it refuses. -/
structure HelloTexts where
  unexpectedIdentity : Text
  wrongPeerId : Text
  signatureEncoding : Text

/-- `URL_SAFE_NO_PAD.decode(input).context(message)?`. -/
def decodeContext (P : Primitives Str Bytes) (message : Text) (input : Str) :
    Except Fault Bytes :=
  match P.decode input with
  | some bytes => .ok bytes
  | none => .error (.error message)

variable [DecidableEq Str]

/-- The first check of `verify_hello`: a joiner expects the key its invite names, a host expects
nobody in particular. -/
def checkExpected (message : Text) (hello : HelloFrame Str) :
    Option Str → Except Fault Unit
  | some expected => ensure (hello.identityPublicKey = expected) (.error message)
  | none => .ok ()

/-- The body of `verify_hello`, over the texts of one program. -/
def verifyHelloWith (P : Primitives Str Bytes) (texts : HelloTexts) (hello : HelloFrame Str)
    (expectedPublicKey : Option Str) : Except Fault Unit := do
  checkExpected texts.unexpectedIdentity hello expectedPublicKey
  let publicKey ← liftCore (DeviceIdentity.publicKeyFromBase64 P hello.identityPublicKey)
  ensure (PeerId.fromPublicKey P publicKey = hello.peerId) (.error texts.wrongPeerId)
  let signature ← decodeContext P texts.signatureEncoding hello.signature
  liftCore (DeviceIdentity.verify P publicKey (P.asBytes hello.exchangePublicKey) signature)

/-- `verify_hello` of `fauna-cli`. -/
def Cli.verifyHello (P : Primitives Str Bytes) : HelloFrame Str → Option Str → Except Fault Unit :=
  verifyHelloWith P
    { unexpectedIdentity := "remote identity does not match invite".toList
      wrongPeerId := "remote peer id does not match public key".toList
      signatureEncoding := "invalid hello signature encoding".toList }

/-- `verify_hello` of `fauna-desktop`. -/
def Desktop.verifyHello (P : Primitives Str Bytes) :
    HelloFrame Str → Option Str → Except Fault Unit :=
  verifyHelloWith P
    { unexpectedIdentity := "baglanan cihaz davet kimligiyle eslesmedi".toList
      wrongPeerId := "peer id public key ile eslesmedi".toList
      signatureEncoding := "imza okunamadi".toList }

/-- `verify_hello` of the program a party runs. -/
def Program.verifyHello (P : Primitives Str Bytes) :
    Program → HelloFrame Str → Option Str → Except Fault Unit
  | .cli => Cli.verifyHello P
  | .desktop => Desktop.verifyHello P

/-- What `run_session` does with the remote hello before it announces the session. -/
def establish (program : Program) (exchange : ExchangeKeypair P)
    (expectedPublicKey : Option Str) (remoteHello : HelloFrame Str) :
    Except Fault (SessionKey P) := do
  program.verifyHello P remoteHello expectedPublicKey
  liftCore (exchange.deriveSessionKey remoteHello.exchangePublicKey)

omit [DecidableEq Str] in
/-- Decoding under an error text succeeds exactly when the crate decodes. -/
theorem decodeContext_eq_ok {message : Text} {input : Str} {bytes : Bytes} :
    decodeContext P message input = .ok bytes ↔ P.decode input = some bytes := by
  unfold decodeContext
  cases P.decode input <;> simp

/-- With no expected key every hello passes, otherwise only that key's. -/
theorem checkExpected_eq_ok {message : Text} {hello : HelloFrame Str} {expected : Option Str}
    {u : Unit} : checkExpected message hello expected = .ok u ↔
      ∀ e, expected = some e → hello.identityPublicKey = e := by
  cases expected <;> simp [checkExpected]

/-- What a hello must satisfy to be verified, whichever program's texts are used. -/
theorem verifyHelloWith_eq_ok {texts : HelloTexts} {hello : HelloFrame Str}
    {expected : Option Str} :
    verifyHelloWith P texts hello expected = .ok () ↔
      (∀ e, expected = some e → hello.identityPublicKey = e) ∧
        ∃ publicKey signature, P.decode hello.identityPublicKey = some publicKey ∧
          P.hasLength 32 publicKey = true ∧ P.isVerifyingKey publicKey = true ∧
          hello.peerId = .fromPublicKey P publicKey ∧
          P.decode hello.signature = some signature ∧ P.isSignature signature = true ∧
          P.verify publicKey (P.asBytes hello.exchangePublicKey) signature = true := by
  unfold verifyHelloWith
  simp only [bind_eq_ok, liftCore_eq_ok, ensure_eq_ok, checkExpected_eq_ok, decodeContext_eq_ok,
    DeviceIdentity.publicKeyFromBase64_eq_ok, DeviceIdentity.verify_eq_ok, decide_eq_true_eq,
    exists_const]
  constructor
  · rintro ⟨h, key, ⟨hdecode, hlength, hkey⟩, hpeer, signature, hsig, his, hverify⟩
    exact ⟨h, key, signature, hdecode, hlength, hkey, hpeer.symm, hsig, his, hverify⟩
  · rintro ⟨h, key, signature, hdecode, hlength, hkey, hpeer, hsig, his, hverify⟩
    exact ⟨h, key, ⟨hdecode, hlength, hkey⟩, hpeer.symm, signature, hsig, his, hverify⟩

/-- Exactly which hellos are accepted, by either program. -/
theorem verifyHello_eq_ok {program : Program} {hello : HelloFrame Str} {expected : Option Str} :
    program.verifyHello P hello expected = .ok () ↔
      (∀ e, expected = some e → hello.identityPublicKey = e) ∧
        ∃ publicKey signature, P.decode hello.identityPublicKey = some publicKey ∧
          P.hasLength 32 publicKey = true ∧ P.isVerifyingKey publicKey = true ∧
          hello.peerId = .fromPublicKey P publicKey ∧
          P.decode hello.signature = some signature ∧ P.isSignature signature = true ∧
          P.verify publicKey (P.asBytes hello.exchangePublicKey) signature = true := by
  cases program <;> exact verifyHelloWith_eq_ok

/-- A session key is set up from a verified hello and its exchange key. -/
theorem establish_eq_ok {program : Program} {exchange : ExchangeKeypair P}
    {expected : Option Str} {hello : HelloFrame Str} {key : SessionKey P} :
    establish program exchange expected hello = .ok key ↔
      program.verifyHello P hello expected = .ok () ∧
        exchange.deriveSessionKey hello.exchangePublicKey = .ok key := by
  unfold establish
  rw [bind_eq_ok]
  simp only [liftCore_eq_ok]
  exact ⟨fun ⟨_, h⟩ => h, fun h => ⟨(), h⟩⟩

/-- Verification answers every hello with a value or an error. -/
theorem verifyHello_ne_panic (program : Program) (hello : HelloFrame Str)
    (expected : Option Str) : program.verifyHello P hello expected ≠ .error .panic := by
  have h (texts : HelloTexts) : verifyHelloWith P texts hello expected ≠ .error .panic := by
    unfold verifyHelloWith
    refine bind_ne_panic ?_ fun _ => bind_ne_panic (liftCore_ne_panic _) fun _ =>
      bind_ne_panic ensure_ne_panic fun _ => bind_ne_panic ?_ fun _ => liftCore_ne_panic _
    · cases expected with
      | none => simp [checkExpected]
      | some e => exact ensure_ne_panic
    · unfold decodeContext
      cases P.decode hello.signature <;> simp
  cases program <;> exact h _

/-- Setting up a session does not panic, whatever the hello. -/
theorem establish_ne_panic (program : Program) (exchange : ExchangeKeypair P)
    (expected : Option Str) (hello : HelloFrame Str) :
    establish program exchange expected hello ≠ .error .panic :=
  bind_ne_panic (verifyHello_ne_panic program hello expected) fun _ => liftCore_ne_panic _

omit [DecidableEq Str] in
/-- The identity a hello of `createHello` shows is the one that made it. -/
@[simp] theorem createHello_identityPublicKey (identity : DeviceIdentity P) (displayName : Str)
    (exchange : ExchangeKeypair P) :
    (createHello identity displayName exchange).identityPublicKey = identity.publicKeyBase64 := rfl

omit [DecidableEq Str] in
@[simp] theorem createHello_exchangePublicKey (identity : DeviceIdentity P) (displayName : Str)
    (exchange : ExchangeKeypair P) :
    (createHello identity displayName exchange).exchangePublicKey = exchange.publicKeyBase64 := rfl

/-- A hello that an honest party made is accepted by whoever expects that party or nobody in
particular. -/
theorem verifyHello_createHello (hP : P.Lawful) (program : Program) (identity : DeviceIdentity P)
    (displayName : Str) (exchange : ExchangeKeypair P) {expected : Option Str}
    (hexpected : ∀ e, expected = some e → e = identity.publicKeyBase64) :
    program.verifyHello P (createHello identity displayName exchange) expected = .ok () := by
  have hkey := DeviceIdentity.publicKeyFromBase64_eq_ok.1
    (DeviceIdentity.publicKeyFromBase64_publicKeyBase64 hP identity)
  have hsign := DeviceIdentity.verify_eq_ok.1
    (DeviceIdentity.identity_can_sign_and_verify hP identity (P.asBytes exchange.publicKeyBase64))
  exact verifyHello_eq_ok.2 ⟨fun e he => (hexpected e he).symm, identity.publicKey, _,
    hkey.1, hkey.2.1, hkey.2.2, rfl, hP.decode_encode _, hsign.1, hsign.2⟩

/-- Two parties that read each other's hello accept it and hold one key. -/
theorem establish_createHello (hP : P.Lawful) (program program' : Program)
    (identity identity' : DeviceIdentity P) (displayName displayName' : Str)
    (exchange exchange' : ExchangeKeypair P) {expected expected' : Option Str}
    (hexpected : ∀ e, expected = some e → e = identity'.publicKeyBase64)
    (hexpected' : ∀ e, expected' = some e → e = identity.publicKeyBase64) :
    ∃ key, establish program exchange expected (createHello identity' displayName' exchange') =
        .ok key ∧
      establish program' exchange' expected' (createHello identity displayName exchange) =
        .ok key := by
  obtain ⟨key, hkey, hkey'⟩ :=
    ExchangeKeypair.peers_derive_the_same_session_key hP exchange exchange'
  refine ⟨key, establish_eq_ok.2 ⟨?_, hkey⟩, establish_eq_ok.2 ⟨?_, hkey'⟩⟩
  · exact verifyHello_createHello hP program identity' displayName' exchange' hexpected
  · exact verifyHello_createHello hP program' identity displayName exchange hexpected'

/-! ## Chat frames -/

omit [DecidableEq Str]

/-- The frame a send loop writes for one body. -/
def sealChat (key : SessionKey P) (nonce : Nonce P) (body : Str) :
    Except Fault (ChatFrame Str) := do
  let encrypted ← liftCore (key.encrypt nonce (P.asBytes body))
  return { nonce := encrypted.nonce, ciphertext := encrypted.ciphertext }

/-- What `receive_loop` reports for one frame. -/
def openChat (key : SessionKey P) (frame : ChatFrame Str) : Except Fault Str := do
  let plaintext ← liftCore (key.decrypt { nonce := frame.nonce, ciphertext := frame.ciphertext })
  return P.fromUtf8Lossy plaintext

/-- A sent frame is its body's bytes under the session key and a fresh nonce. -/
theorem sealChat_eq_ok {key : SessionKey P} {nonce : Nonce P} {body : Str}
    {frame : ChatFrame Str} :
    sealChat key nonce body = .ok frame ↔
      ∃ ciphertext, P.aeadEncrypt key.bytes nonce.bytes (P.asBytes body) = some ciphertext ∧
        frame = ⟨P.encode nonce.bytes, P.encode ciphertext⟩ := by
  unfold sealChat
  simp only [bind_eq_ok, liftCore_eq_ok, SessionKey.encrypt_eq_ok]
  constructor
  · rintro ⟨message, ⟨ciphertext, hencrypt, rfl⟩, h⟩
    obtain rfl := Except.ok.inj h
    exact ⟨ciphertext, hencrypt, rfl⟩
  · rintro ⟨ciphertext, hencrypt, rfl⟩
    exact ⟨_, ⟨ciphertext, hencrypt, rfl⟩, rfl⟩

/-- A received body is what the session key opens, read as UTF-8 with replacements. -/
theorem openChat_eq_ok {key : SessionKey P} {frame : ChatFrame Str} {body : Str} :
    openChat key frame = .ok body ↔
      ∃ nonce ciphertext plaintext, P.decode frame.nonce = some nonce ∧
        P.hasLength 24 nonce = true ∧ P.decode frame.ciphertext = some ciphertext ∧
        P.aeadDecrypt key.bytes nonce ciphertext = some plaintext ∧
        body = P.fromUtf8Lossy plaintext := by
  unfold openChat
  simp only [bind_eq_ok, liftCore_eq_ok, SessionKey.decrypt_eq_ok]
  constructor
  · rintro ⟨plaintext, ⟨nonce, ciphertext, hnonce, hlength, hciphertext, hdecrypt⟩, h⟩
    exact ⟨nonce, ciphertext, plaintext, hnonce, hlength, hciphertext, hdecrypt,
      (Except.ok.inj h).symm⟩
  · rintro ⟨nonce, ciphertext, plaintext, hnonce, hlength, hciphertext, hdecrypt, rfl⟩
    exact ⟨plaintext, ⟨nonce, ciphertext, hnonce, hlength, hciphertext, hdecrypt⟩, rfl⟩

/-- Opening a frame does not panic, whatever it holds. -/
theorem openChat_ne_panic (key : SessionKey P) (frame : ChatFrame Str) :
    openChat key frame ≠ .error .panic :=
  bind_ne_panic (liftCore_ne_panic _) fun _ => by simp [pure, Except.pure]

/-- A chat frame opens, under the key that sealed it, to the body it was made from. -/
theorem openChat_sealChat (hP : P.Lawful) {key : SessionKey P} {nonce : Nonce P} {body : Str}
    {frame : ChatFrame Str} (h : sealChat key nonce body = .ok frame) :
    openChat key frame = .ok body := by
  obtain ⟨message, hencrypt, hframe⟩ := bind_eq_ok.1 h
  obtain rfl := Except.ok.inj hframe
  have hdecrypt : key.decrypt message = .ok (P.asBytes body) :=
    SessionKey.session_key_encrypts_and_decrypts hP (liftCore_eq_ok.1 hencrypt)
  refine bind_eq_ok.2 ⟨P.asBytes body, liftCore_eq_ok.2 hdecrypt, ?_⟩
  exact congrArg Except.ok (hP.fromUtf8Lossy_asBytes body)

end Fauna.Wire
