import Fauna.Wire.Frames

/-!
# The text of an invite

`Invite::encode` and `Invite::decode` of `fauna-core`. A payload is base64 of the invite's JSON, and
the scheme before it is optional; since the scheme has characters that are not base64, the two
cannot be taken for each other.

* `inviteDecode_payload`, `inviteDecode_scheme`: the payload is read with the scheme and without.
* `inviteDecode_eq_ok_alphabet`: what decodes is a payload of base64 after at most one scheme.
* `invite_text_exact`: the round trip, and the texts that are refused.
-/

namespace Fauna.Wire

open Fauna.Lib Fauna.Core

variable (C : Crates) (J : SerdeJson)

/-- The scheme of an invite link. -/
def inviteScheme : Text := "fauna://join/".toList

/-- What `encode` writes after the scheme. -/
def invitePayload (invite : Invite Text) : Text :=
  C.encode (utf8Encode (J.print (inviteRecord invite)))

/-- `decode`, once the scheme is stripped. -/
def decodePayload (payload : Text) : Except FaunaError (Invite Text) := do
  let json ← DeviceIdentity.decodeBase64 C.primitives payload
  match J.slice json >>= inviteFromJson with
  | some invite => .ok invite
  | none => .error .json

/-- The scheme stands at a place of a text. -/
def SchemeAt (input : Text) (place : ℕ) : Prop := inviteScheme <+: input.drop place

variable {C J}

theorem inviteEncode_eq (invite : Invite Text) :
    inviteEncode C J invite = .ok (inviteScheme ++ invitePayload C J invite) := rfl

/-- One scheme in front of a payload is removed before decoding. -/
theorem inviteDecode_scheme (payload : Text) :
    inviteDecode C J (inviteScheme ++ payload) = decodePayload C J payload := by
  have hscheme : "fauna://join/".toList.isPrefixOf (inviteScheme ++ payload) = true :=
    List.isPrefixOf_iff_prefix.2 (List.prefix_append _ _)
  unfold inviteDecode
  simp only [hscheme, if_true]
  rfl

/-- A text without the scheme is decoded as it stands. -/
theorem inviteDecode_of_no_scheme {input : Text} (h : ¬ inviteScheme <+: input) :
    inviteDecode C J input = decodePayload C J input := by
  have hscheme : "fauna://join/".toList.isPrefixOf input = false := by
    rw [Bool.eq_false_iff, ne_eq, List.isPrefixOf_iff_prefix]
    exact h
  unfold inviteDecode
  simp only [hscheme, Bool.false_eq_true, if_false]
  rfl

/-- Only base64 is decoded. -/
theorem decodePayload_eq_ok_alphabet {payload : Text} {invite : Invite Text}
    (h : decodePayload C J payload = .ok invite) : ∀ c ∈ payload, c ∈ Base64.alphabet := by
  obtain ⟨json, hjson, -⟩ := bind_eq_ok.1 h
  exact C.decode_alphabet _ _ (DeviceIdentity.decodeBase64_eq_ok.1 hjson)

/-- What decodes is base64 after at most one scheme. -/
theorem inviteDecode_eq_ok_alphabet {input : Text} {invite : Invite Text}
    (h : inviteDecode C J input = .ok invite) :
    ∃ payload, (input = inviteScheme ++ payload ∨ input = payload) ∧
      ∀ c ∈ payload, c ∈ Base64.alphabet := by
  by_cases hscheme : inviteScheme <+: input
  · obtain ⟨payload, rfl⟩ := hscheme
    rw [inviteDecode_scheme] at h
    exact ⟨payload, Or.inl rfl, decodePayload_eq_ok_alphabet h⟩
  · rw [inviteDecode_of_no_scheme hscheme] at h
    exact ⟨input, Or.inr rfl, decodePayload_eq_ok_alphabet h⟩

/-- The payload has only characters of the URL-safe alphabet. -/
theorem invitePayload_alphabet (invite : Invite Text) :
    ∀ c ∈ invitePayload C J invite, c ∈ Base64.alphabet :=
  C.decode_alphabet _ _ (C.decode_encode _)

/-- The payload is read back with the scheme and without it. -/
theorem inviteDecode_payload (invite : Invite Text) :
    inviteDecode C J (invitePayload C J invite) = .ok invite := by
  have hscheme : ¬ inviteScheme <+: invitePayload C J invite := by
    intro hprefix
    have hslash : '/' ∈ invitePayload C J invite := hprefix.subset (by decide)
    exact absurd (invitePayload_alphabet invite '/' hslash) (by decide)
  rw [inviteDecode_of_no_scheme hscheme, ← inviteDecode_scheme]
  exact inviteDecode_encode C (inviteEncode_eq invite)

/-- A scheme that is not at the start leaves its last slash in the payload. -/
theorem not_schemeAt_of_ok {input : Text} {invite : Invite Text}
    (h : inviteDecode C J input = .ok invite) {place : ℕ} (hplace : place ≠ 0) :
    ¬ SchemeAt input place := by
  rintro ⟨rest, hrest⟩
  obtain ⟨payload, hpayload, halphabet⟩ := inviteDecode_eq_ok_alphabet h
  have hslash : ∃ before, (input.drop inviteScheme.length).drop (place - 1) = '/' :: before := by
    refine ⟨rest, ?_⟩
    have hlength : inviteScheme.length + (place - 1) = place + 12 := by
      show 13 + (place - 1) = place + 12
      omega
    rw [List.drop_drop, hlength, ← List.drop_drop, ← hrest]
    rfl
  obtain ⟨before, hbefore⟩ := hslash
  have hmem : '/' ∈ input.drop inviteScheme.length :=
    List.mem_of_mem_drop (i := place - 1) (hbefore ▸ List.mem_cons_self)
  rcases hpayload with rfl | rfl
  · rw [List.drop_left] at hmem
    exact absurd (halphabet '/' hmem) (by decide)
  · exact absurd (halphabet '/' (List.mem_of_mem_drop hmem)) (by decide)

/-- No character of the alphabet is whitespace. -/
theorem isWhitespace_eq_false_of_mem_alphabet {c : Char} (h : c ∈ Base64.alphabet) :
    isWhitespace c = false := by
  have hall : Base64.alphabet.all (fun c => !isWhitespace c) = true := by decide
  simpa using List.all_eq_true.1 hall c h

/-- Neither the scheme nor a payload has whitespace in it. -/
theorem isWhitespace_eq_false_of_ok {input : Text} {invite : Invite Text}
    (h : inviteDecode C J input = .ok invite) {c : Char} (hc : c ∈ input) :
    isWhitespace c = false := by
  obtain ⟨payload, hpayload, halphabet⟩ := inviteDecode_eq_ok_alphabet h
  have hscheme : inviteScheme.all (fun c => !isWhitespace c) = true := by decide
  rcases hpayload with rfl | rfl
  · rcases List.mem_append.1 hc with hc | hc
    · simpa using List.all_eq_true.1 hscheme c hc
    · exact isWhitespace_eq_false_of_mem_alphabet (halphabet c hc)
  · exact isWhitespace_eq_false_of_mem_alphabet (halphabet c hc)

/-- The text of every invite, whatever its fields hold, is read back to that invite, with its
scheme and without; no two invites have one text; and a text with the scheme at two places or
anywhere but at the start, or with whitespace in it, is refused. -/
theorem invite_text_exact (C : Crates) (J : SerdeJson) :
    (∀ invite, ∃ payload, inviteEncode C J invite = .ok (inviteScheme ++ payload) ∧
      inviteDecode C J (inviteScheme ++ payload) = .ok invite ∧
      inviteDecode C J payload = .ok invite) ∧
    (∀ invite invite', inviteEncode C J invite = inviteEncode C J invite' → invite = invite') ∧
    ∀ input, (∃ place place', place ≠ place' ∧ SchemeAt input place ∧ SchemeAt input place') ∨
        (∃ place, place ≠ 0 ∧ SchemeAt input place) ∨ (∃ c ∈ input, isWhitespace c = true) →
      ∃ e, inviteDecode C J input = .error e := by
  refine ⟨fun invite => ⟨invitePayload C J invite, inviteEncode_eq invite,
    inviteDecode_encode C (inviteEncode_eq invite), inviteDecode_payload invite⟩, ?_, ?_⟩
  · intro invite invite' h
    have hdecode := inviteDecode_encode C (inviteEncode_eq (C := C) (J := J) invite)
    have hdecode' := inviteDecode_encode C (h.symm.trans (inviteEncode_eq invite))
    exact Except.ok.inj (hdecode.symm.trans hdecode')
  · intro input h
    cases hdecode : inviteDecode C J input with
    | error e => exact ⟨e, rfl⟩
    | ok invite =>
        rcases h with ⟨place, place', hne, hplace, hplace'⟩ | ⟨place, hne, hplace⟩ | ⟨c, hc, hspace⟩
        · by_cases hzero : place = 0
          · exact absurd hplace' (not_schemeAt_of_ok hdecode (hzero ▸ hne.symm))
          · exact absurd hplace (not_schemeAt_of_ok hdecode hzero)
        · exact absurd hplace (not_schemeAt_of_ok hdecode hne)
        · rw [isWhitespace_eq_false_of_ok hdecode hc] at hspace
          cases hspace

end Fauna.Wire
