import Fauna.Core.Identity

/-!
# Exporting and importing an identity

What becomes of an identity that is exported and imported again, and of an export that was made or
changed by somebody else. Of the three fields of an export `from_export` reads the secret key.

* `export_import`: which exports are imported, as what, and which of them are exported again.
* `foreign_export_imported`: an export whose other fields belong to nobody.
-/

namespace Fauna.Core

open Fauna.Lib DeviceIdentity

/-- An identity is read back from its export. An export is read where its secret key is the text of
32 bytes; the identity that is read has this text for its secret key, and its export is the one
that was read exactly where that one's peer id and public key belong to its secret key. They are
not looked at: with any others in their place the same identity is read. -/
theorem export_import (C : Crates) :
    (∀ identity : DeviceIdentity C.primitives,
      fromExport C.primitives identity.toExport = .ok identity) ∧
    ∀ exported : ExportedIdentity Text,
      ((∃ identity, fromExport C.primitives exported = .ok identity) ↔
        ∃ bytes, C.decode exported.secretKey = some bytes ∧ bytes.length = 32) ∧
      ∀ identity, fromExport C.primitives exported = .ok identity →
        identity.toExport.secretKey = exported.secretKey ∧
        (identity.toExport = exported ↔
          exported.peerId = identity.peerId ∧ exported.publicKey = identity.publicKeyBase64) ∧
        ∀ peerId publicKey, fromExport C.primitives
          { exported with peerId := peerId, publicKey := publicKey } = .ok identity := by
  refine ⟨fromExport_toExport C.lawful, fun exported => ⟨?_, fun identity h => ?_⟩⟩
  · constructor
    · rintro ⟨identity, h⟩
      exact ⟨identity.signingKey, fromExport_eq_ok.1 h,
        (C.primitives_hasLength 32 _).1 identity.hasLength⟩
    · rintro ⟨bytes, hdecode, hlength⟩
      have hbytes : C.primitives.hasLength 32 bytes = true :=
        (C.primitives_hasLength 32 bytes).2 hlength
      exact ⟨fromSecretKeyBytes bytes hbytes, fromExport_eq_ok.2 hdecode⟩
  · have hdecode : C.decode exported.secretKey = some identity.signingKey := fromExport_eq_ok.1 h
    have hsecret : identity.toExport.secretKey = exported.secretKey :=
      C.decode_injective _ _ _ (C.decode_encode identity.signingKey) hdecode
    refine ⟨hsecret, ?_, fun peerId publicKey => fromExport_eq_ok.2 hdecode⟩
    obtain ⟨peerId, secretKey, publicKey⟩ := exported
    obtain rfl : _ = secretKey := hsecret
    constructor
    · intro heq
      exact ⟨congrArg (·.peerId) heq.symm, congrArg (·.publicKey) heq.symm⟩
    · rintro ⟨hpeer, hkey⟩
      obtain rfl : peerId = identity.peerId := hpeer
      obtain rfl : publicKey = identity.publicKeyBase64 := hkey
      rfl

/-- An identity whose secret key is one byte 32 times over. -/
def plainIdentity : DeviceIdentity Crates.transparent.primitives :=
  fromSecretKeyBytes (List.replicate 32 1) rfl

/-- An export with that secret key, and with the peer id and the public key of nobody. -/
def foreignExport : ExportedIdentity Text :=
  { plainIdentity.toExport with peerId := ⟨"fauna-0".toList⟩, publicKey := [] }

/-- An export naming another peer id and public key is imported as its secret key's identity. -/
theorem fromExport_foreignExport :
    fromExport Crates.transparent.primitives foreignExport = .ok plainIdentity :=
  fromExport_eq_ok.2 (Crates.transparent.decode_encode _)

theorem export_import_foreign :
    plainIdentity.toExport.secretKey = foreignExport.secretKey ∧
    (plainIdentity.toExport = foreignExport ↔ foreignExport.peerId = plainIdentity.peerId ∧
      foreignExport.publicKey = plainIdentity.publicKeyBase64) ∧
    ∀ peerId publicKey, fromExport Crates.transparent.primitives
      { foreignExport with peerId := peerId, publicKey := publicKey } = .ok plainIdentity :=
  ((export_import Crates.transparent).2 foreignExport).2 plainIdentity fromExport_foreignExport

/-- An export whose peer id and public key do not belong to its secret key is read, as an identity
with another export. -/
theorem foreign_export_imported :
    ¬ ∀ (C : Crates) (exported : ExportedIdentity Text) (identity : DeviceIdentity C.primitives),
      fromExport C.primitives exported = .ok identity → identity.toExport = exported := by
  intro h
  have hkey := congrArg (·.publicKey) (h _ _ _ fromExport_foreignExport)
  revert hkey
  decide

end Fauna.Core
