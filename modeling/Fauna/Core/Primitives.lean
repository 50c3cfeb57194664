import Fauna.Lib.Base64
import Fauna.Lib.JsonText

/-!
# What the code takes from other crates

`fauna-core` computes on two kinds of value, strings and byte strings, with the operations of
`base64`, `sha2`, `ed25519-dalek`, `x25519-dalek` and `chacha20poly1305`. `Primitives Str Bytes`
names those operations over arbitrary types, and everything in `Fauna.Core` and the two hello
functions of the programs are written over it. It is read in two ways:

* over texts and bytes (`Crates.primitives`), where the crates are a parameter and their
  documented laws are the fields of `Crates`;
* over symbolic terms (`Fauna.Symbolic`), where the cryptography is ideal.

`Primitives.Lawful` is what both readings share: the round trips an honest run relies on.
-/

namespace Fauna.Core

open Fauna.Lib

/-- The operations of `std` and of other crates that `fauna-core` is written with. Keys,
digests, signatures and ciphertexts are byte strings; where the code holds a fixed-size array,
`hasLength` is the check its `try_into` makes. -/
structure Primitives (Str Bytes : Type) where
  /-- `str::as_bytes` -/
  asBytes : Str → Bytes
  /-- `String::from_utf8_lossy` -/
  fromUtf8Lossy : Bytes → Str
  /-- `<[u8; n]>::try_from(bytes).is_ok()` -/
  hasLength : ℕ → Bytes → Bool
  /-- `URL_SAFE_NO_PAD.encode` -/
  encode : Bytes → Str
  /-- `URL_SAFE_NO_PAD.decode` -/
  decode : Str → Option Bytes
  /-- `Sha256::digest` -/
  digest : Bytes → Bytes
  digest_length : ∀ b, hasLength 32 (digest b) = true
  /-- `format!("fauna-{}", hex::encode(&digest[..16]))` -/
  peerIdText : Bytes → Str
  /-- `SigningKey::verifying_key` -/
  verifyingKey : Bytes → Bytes
  /-- `VerifyingKey::from_bytes(..).is_ok()` -/
  isVerifyingKey : Bytes → Bool
  /-- `SigningKey::sign` -/
  sign : Bytes → Bytes → Bytes
  /-- `Signature::from_slice(..).is_ok()` -/
  isSignature : Bytes → Bool
  /-- `VerifyingKey::verify(message, signature).is_ok()` -/
  verify : Bytes → Bytes → Bytes → Bool
  /-- `PublicKey::from(&StaticSecret)` -/
  exchangeKey : Bytes → Bytes
  /-- `StaticSecret::diffie_hellman` -/
  diffieHellman : Bytes → Bytes → Bytes
  /-- `XChaCha20Poly1305::encrypt` under a key and a nonce -/
  aeadEncrypt : Bytes → Bytes → Bytes → Option Bytes
  /-- `XChaCha20Poly1305::decrypt` under a key and a nonce -/
  aeadDecrypt : Bytes → Bytes → Bytes → Option Bytes

/-- The round trips an honest run relies on. -/
structure Primitives.Lawful {Str Bytes : Type} (P : Primitives Str Bytes) : Prop where
  decode_encode : ∀ b, P.decode (P.encode b) = some b
  fromUtf8Lossy_asBytes : ∀ s, P.fromUtf8Lossy (P.asBytes s) = s
  verifyingKey_length : ∀ s, P.hasLength 32 s = true → P.hasLength 32 (P.verifyingKey s) = true
  isVerifyingKey_verifyingKey :
    ∀ s, P.hasLength 32 s = true → P.isVerifyingKey (P.verifyingKey s) = true
  isSignature_sign : ∀ s m, P.hasLength 32 s = true → P.isSignature (P.sign s m) = true
  verify_sign :
    ∀ s m, P.hasLength 32 s = true → P.verify (P.verifyingKey s) m (P.sign s m) = true
  exchangeKey_length : ∀ s, P.hasLength 32 s = true → P.hasLength 32 (P.exchangeKey s) = true
  diffieHellman_comm : ∀ s t, P.hasLength 32 s = true → P.hasLength 32 t = true →
    P.diffieHellman s (P.exchangeKey t) = P.diffieHellman t (P.exchangeKey s)
  aeadDecrypt_encrypt :
    ∀ k n p c, P.aeadEncrypt k n p = some c → P.aeadDecrypt k n c = some p

/-! ## Errors -/

/-- `FaunaError`. -/
inductive FaunaError
  | base64
  | crypto
  | invalidKey
  | json
  | signature
  deriving DecidableEq

/-- The text `FaunaError` displays as. -/
def FaunaError.message : FaunaError → Text
  | .base64 => "base64 decode failed".toList
  | .crypto => "crypto operation failed".toList
  | .invalidKey => "invalid key material".toList
  | .json => "json serialization failed".toList
  | .signature => "signature verification failed".toList

/-- How a function of the two programs fails: with an `anyhow::Error`, known by the text of its
`to_string`, or with a panic that unwinds the thread. -/
inductive Fault
  | error (message : Text)
  | panic
  deriving DecidableEq

/-- The `?` that turns a `FaunaError` into an `anyhow::Error`. -/
def liftCore {α : Type} : Except FaunaError α → Except Fault α
  | .ok a => .ok a
  | .error e => .error (.error e.message)

@[simp] theorem liftCore_ok {α : Type} (a : α) :
    liftCore (.ok a : Except FaunaError α) = .ok a := rfl

/-- The `?` of a computation that may fail: what a bind that succeeded went through. -/
theorem bind_eq_ok {ε α β : Type} {x : Except ε α} {f : α → Except ε β} {b : β} :
    (x >>= f) = .ok b ↔ ∃ a, x = .ok a ∧ f a = .ok b := by
  cases x <;> simp [bind, Except.bind]

/-- `bail!`, or a `map_err` on a failed check. -/
def ensure {ε : Type} (condition : Bool) (e : ε) : Except ε Unit :=
  if condition then .ok () else .error e

/-- A check succeeds exactly when its condition holds. -/
@[simp] theorem ensure_eq_ok {ε : Type} {condition : Bool} {e : ε} {u : Unit} :
    ensure condition e = .ok u ↔ condition = true := by
  cases condition <;> simp [ensure]

/-- An error of `fauna-core` is an error of the program, and nothing else changes. -/
theorem liftCore_eq_ok {α : Type} {r : Except FaunaError α} {a : α} :
    liftCore r = .ok a ↔ r = .ok a := by
  cases r <;> simp [liftCore]

/-- The core library never panics. -/
theorem liftCore_ne_panic {α : Type} (r : Except FaunaError α) :
    liftCore r ≠ .error .panic := by
  cases r <;> simp [liftCore]

/-- A bind panics only where one of its parts does. -/
theorem bind_ne_panic {α β : Type} {x : Except Fault α} {f : α → Except Fault β}
    (hx : x ≠ .error .panic) (hf : ∀ a, f a ≠ .error .panic) : (x >>= f) ≠ .error .panic := by
  cases x with
  | error e => simpa [bind, Except.bind] using hx
  | ok a => exact hf a

/-- A failed check is an error and never a panic. -/
theorem ensure_ne_panic {condition : Bool} {message : Text} :
    ensure condition (Fault.error message) ≠ .error .panic := by
  cases condition <;> simp [ensure]

/-! ## The crates over texts and bytes -/

/-- `hex::encode`. -/
def hexEncode (bs : Bytes) : Text :=
  bs.flatMap fun b => [hexDigit (b.toNat / 16), hexDigit (b.toNat % 16)]

/-- The other crates, with the laws their documentation gives. -/
structure Crates where
  encode : Bytes → Text
  decode : Text → Option Bytes
  decode_encode : ∀ b, decode (encode b) = some b
  decode_injective : ∀ s s' b, decode s = some b → decode s' = some b → s = s'
  decode_alphabet : ∀ s b, decode s = some b → ∀ c ∈ s, c ∈ Base64.alphabet
  digest : Bytes → Bytes
  digest_length : ∀ b, (digest b).length = 32
  verifyingKey : Bytes → Bytes
  isVerifyingKey : Bytes → Bool
  verifyingKey_length : ∀ s, s.length = 32 → (verifyingKey s).length = 32
  isVerifyingKey_verifyingKey : ∀ s, s.length = 32 → isVerifyingKey (verifyingKey s) = true
  sign : Bytes → Bytes → Bytes
  sign_length : ∀ s m, s.length = 32 → (sign s m).length = 64
  verify : Bytes → Bytes → Bytes → Bool
  verify_sign : ∀ s m, s.length = 32 → verify (verifyingKey s) m (sign s m) = true
  exchangeKey : Bytes → Bytes
  exchangeKey_length : ∀ s, s.length = 32 → (exchangeKey s).length = 32
  diffieHellman : Bytes → Bytes → Bytes
  diffieHellman_comm : ∀ s t, s.length = 32 → t.length = 32 →
    diffieHellman s (exchangeKey t) = diffieHellman t (exchangeKey s)
  aeadEncrypt : Bytes → Bytes → Bytes → Option Bytes
  aeadDecrypt : Bytes → Bytes → Bytes → Option Bytes
  aeadDecrypt_encrypt : ∀ k n p c, aeadEncrypt k n p = some c → aeadDecrypt k n c = some p

namespace Crates

/-- The operations over texts and bytes: the crates' own, and those of `std`. -/
def primitives (C : Crates) : Primitives Text Bytes where
  asBytes := utf8Encode
  fromUtf8Lossy := Lib.fromUtf8Lossy
  hasLength n b := b.length == n
  encode := C.encode
  decode := C.decode
  digest := C.digest
  digest_length b := by simpa using C.digest_length b
  peerIdText d := "fauna-".toList ++ hexEncode (d.take 16)
  verifyingKey := C.verifyingKey
  isVerifyingKey := C.isVerifyingKey
  sign := C.sign
  isSignature b := b.length == 64
  verify := C.verify
  exchangeKey := C.exchangeKey
  diffieHellman := C.diffieHellman
  aeadEncrypt := C.aeadEncrypt
  aeadDecrypt := C.aeadDecrypt

/-- The length check of a byte slice compares its length. -/
@[simp] theorem primitives_hasLength (C : Crates) (n : ℕ) (b : Bytes) :
    C.primitives.hasLength n b = true ↔ b.length = n := by
  simp [primitives]

/-- The operations over texts and bytes meet the laws of the primitives. -/
theorem lawful (C : Crates) : C.primitives.Lawful where
  decode_encode := C.decode_encode
  fromUtf8Lossy_asBytes := fromUtf8Lossy_utf8Encode
  verifyingKey_length s hs :=
    (primitives_hasLength C _ _).2 (C.verifyingKey_length s (by simpa using hs))
  isVerifyingKey_verifyingKey s hs := C.isVerifyingKey_verifyingKey s (by simpa using hs)
  isSignature_sign s m hs := by
    simpa [primitives] using C.sign_length s m (by simpa using hs)
  verify_sign s m hs := C.verify_sign s m (by simpa using hs)
  exchangeKey_length s hs :=
    (primitives_hasLength C _ _).2 (C.exchangeKey_length s (by simpa using hs))
  diffieHellman_comm s t hs ht :=
    C.diffieHellman_comm s t (by simpa using hs) (by simpa using ht)
  aeadDecrypt_encrypt := C.aeadDecrypt_encrypt

/-- Bytes cut or filled with zeros to a given length. -/
private def fit (n : ℕ) (b : Bytes) : Bytes := (b ++ List.replicate n 0).take n

private theorem fit_length (n : ℕ) (b : Bytes) : (fit n b).length = n := by
  simp [fit]

/-- A stand-in for the crates with base64 as it is and transparent cryptography: it keeps every
law, hides nothing, and is what the development evaluates runs with. -/
def transparent : Crates where
  encode := Base64.encode
  decode := Base64.decode
  decode_encode := Base64.decode_encode
  decode_injective _ _ _ := Base64.decode_injective
  decode_alphabet _ _ h _ := Base64.mem_alphabet_of_decode h
  digest := fit 32
  digest_length := fit_length 32
  verifyingKey s := s
  isVerifyingKey b := b.length == 32
  verifyingKey_length _ h := h
  isVerifyingKey_verifyingKey _ h := by simpa using h
  sign s m := fit 32 s ++ fit 32 m
  sign_length s m _ := by simp [fit_length]
  verify v m g := g == fit 32 v ++ fit 32 m
  verify_sign _ _ _ := by simp
  exchangeKey s := s
  exchangeKey_length _ h := h
  diffieHellman s t := List.zipWith (· + ·) s t
  diffieHellman_comm s t _ _ := List.zipWith_comm_of_comm UInt8.add_comm
  aeadEncrypt k n p := some (fit 16 (k ++ n) ++ p)
  aeadDecrypt k n c := if c.take 16 = fit 16 (k ++ n) then some (c.drop 16) else none
  aeadDecrypt_encrypt k n p c h := by
    obtain rfl := Option.some.inj h
    have h₁ : (fit 16 (k ++ n) ++ p).take 16 = fit 16 (k ++ n) := List.take_left' (fit_length _ _)
    have h₂ : (fit 16 (k ++ n) ++ p).drop 16 = p := List.drop_left' (fit_length _ _)
    rw [h₁, h₂, if_pos rfl]

end Crates

end Fauna.Core
