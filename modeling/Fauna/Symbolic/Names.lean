import Fauna.Symbolic.Authentication

/-!
# Which fields of a hello are the host's own

A joiner that holds an honest host's invite pins down four fields of the hello it accepts: the key
is the invite's, the peer id is that key's, and the signature, which is that key's, covers the
exchange key. The display name is in none of these checks.

* `verifyHello_displayName`: over any primitives, `verify_hello` does not read the display name.
* `verifyHello_symbolic_iff`, `changed_field_iff`: which changes of one field pass `verify_hello`.
* `joiner_pins_four_fields`: the result for joiners, and `renamed_host` why the name is left out.
-/

namespace Fauna.Symbolic

open Fauna.Lib Fauna.Lib.DolevYao Fauna.Core Fauna.Wire

/-- The display name plays no part in `verify_hello`, whatever the primitives are. -/
theorem verifyHello_displayName {Str Bytes : Type} [DecidableEq Str] {P : Primitives Str Bytes}
    (program : Program) (hello : HelloFrame Str) (displayName : Str) (expected : Option Str) :
    program.verifyHello P { hello with displayName := displayName } expected =
      program.verifyHello P hello expected := by
  cases program with
  | cli | desktop =>
      cases expected <;> rfl

/-- What `verify_hello` checks of a hello of ideal terms. -/
theorem verifyHello_symbolic_iff {program : Program} {hello : HelloFrame Term}
    {expected : Option Term} : program.verifyHello symbolic hello expected = .ok () ↔
      (∀ e, expected = some e → hello.identityPublicKey = e) ∧
        ∃ k, hello.identityPublicKey = .verKey k ∧
          hello.peerId = .fromPublicKey symbolic (.verKey k) ∧
          hello.signature = .signature k hello.exchangePublicKey := by
  rw [verifyHello_eq_ok]
  apply and_congr_right
  intro _
  constructor
  · rintro ⟨publicKey, signature, hpub, -, hvalid, hpeer, hsig, -, hsigned⟩
    obtain rfl := Option.some.inj hpub
    obtain rfl := Option.some.inj hsig
    cases hk : hello.identityPublicKey with
    | verKey k =>
        rw [hk] at hpeer
        refine ⟨k, rfl, hpeer, ?_⟩
        simpa [symbolic, hk] using hsigned
    | _ => simp [symbolic, hk] at hvalid
  · rintro ⟨k, hk, hpeer, hsig⟩
    refine ⟨.verKey k, _, congrArg some hk, rfl, rfl, hpeer, congrArg some hsig, rfl, ?_⟩
    simp [symbolic]

/-- For any hello a joiner accepts and any replacement of one field: a change of the display name
passes `verify_hello`, and a change of any other field does not. -/
theorem changed_field_iff {program : Program} {hello : HelloFrame Term} {expected : Term}
    (h : program.verifyHello symbolic hello (some expected) = .ok ()) (x : Term) :
    program.verifyHello symbolic { hello with displayName := x } (some expected) = .ok () ∧
    (program.verifyHello symbolic { hello with peerId := ⟨x⟩ } (some expected) = .ok () ↔
      ⟨x⟩ = hello.peerId) ∧
    (program.verifyHello symbolic { hello with identityPublicKey := x } (some expected) = .ok () ↔
      x = hello.identityPublicKey) ∧
    (program.verifyHello symbolic { hello with exchangePublicKey := x } (some expected) = .ok () ↔
      x = hello.exchangePublicKey) ∧
    (program.verifyHello symbolic { hello with signature := x } (some expected) = .ok () ↔
      x = hello.signature) := by
  obtain ⟨hexpected, k, hk, hpeer, hsig⟩ := verifyHello_symbolic_iff.1 h
  have hkey := hexpected expected rfl
  refine ⟨by rwa [verifyHello_displayName], ⟨?_, ?_⟩, ⟨?_, ?_⟩, ⟨?_, ?_⟩, ⟨?_, ?_⟩⟩
  · intro hchanged
    obtain ⟨-, k', hk', hpeer', -⟩ := verifyHello_symbolic_iff.1 hchanged
    obtain rfl := Term.verKey.inj (hk.symm.trans hk')
    exact hpeer'.trans hpeer.symm
  · intro hsame
    rw [hsame]
    exact h
  · intro hchanged
    obtain ⟨hexpected', -⟩ := verifyHello_symbolic_iff.1 hchanged
    exact (hexpected' expected rfl).trans hkey.symm
  · rintro rfl
    exact h
  · intro hchanged
    obtain ⟨-, k', -, -, hsig'⟩ := verifyHello_symbolic_iff.1 hchanged
    exact (Term.signature.inj (hsig.symm.trans hsig')).2.symm
  · rintro rfl
    exact h
  · intro hchanged
    obtain ⟨-, k', hk', -, hsig'⟩ := verifyHello_symbolic_iff.1 hchanged
    obtain rfl := Term.verKey.inj (hk.symm.trans hk')
    exact hsig'.trans hsig.symm
  · rintro rfl
    exact h

/-- In every run, a joiner that was given the invite of host `h` and has accepted a hello has
accepted the peer id, identity key, exchange key and signature of the hello that the host wrote.
The display name is not among them: for any accepted hello and any replacement of a field, a change
of the display name passes `verify_hello`, and a change of one of the other four does not. -/
theorem joiner_pins_four_fields {W : Set ℕ} {s : State} (hs : (system W).Reachable s) {h j : ℕ}
    {host joiner : Session} (hhost : s.sessions[h]? = some host)
    (hjoiner : s.sessions[j]? = some joiner)
    (hinvite : joiner.expected = some (invite h host.displayName).publicKey)
    {hello : HelloFrame Term} {key : SessionKey symbolic}
    (hpeer : joiner.peer = some (hello, key)) :
    (host.started = true ∧ hello.peerId = (ownHello h host).peerId ∧
      hello.identityPublicKey = (ownHello h host).identityPublicKey ∧
      hello.exchangePublicKey = (ownHello h host).exchangePublicKey ∧
      hello.signature = (ownHello h host).signature) ∧
    ∀ (program : Program) (hello : HelloFrame Term) (expected x : Term),
      program.verifyHello symbolic hello (some expected) = .ok () →
        program.verifyHello symbolic { hello with displayName := x } (some expected) = .ok () ∧
        (program.verifyHello symbolic { hello with peerId := ⟨x⟩ } (some expected) = .ok () ↔
          ⟨x⟩ = hello.peerId) ∧
        (program.verifyHello symbolic { hello with identityPublicKey := x } (some expected) =
          .ok () ↔ x = hello.identityPublicKey) ∧
        (program.verifyHello symbolic { hello with exchangePublicKey := x } (some expected) =
          .ok () ↔ x = hello.exchangePublicKey) ∧
        (program.verifyHello symbolic { hello with signature := x } (some expected) = .ok () ↔
          x = hello.signature) := by
  refine ⟨?_, fun program hello expected x haccepted => changed_field_iff haccepted x⟩
  have hsound := sound hs
  have hestablish := ((hsound.sessions j joiner hjoiner).peer hello key hpeer).1
  obtain ⟨hexpected, k, hk, hid, hsig⟩ :=
    verifyHello_symbolic_iff.1 (establish_eq_ok.1 hestablish).1
  have hidentity : hello.identityPublicKey = (identity h).publicKeyBase64 := hexpected _ hinvite
  obtain rfl : k = .honest h := Term.verKey.inj (hk.symm.trans hidentity)
  obtain ⟨⟨host', hhost', hstarted⟩, hexchange⟩ :=
    honest_exchange_key hsound hjoiner hpeer hidentity
  obtain rfl := Option.some.inj (hhost.symm.trans hhost')
  refine ⟨hstarted, hid, hidentity, hexchange, ?_⟩
  rw [hsig, hexchange]
  rfl

/-- Host `0` and joiner `1`, with the display name of the host's hello replaced on its way. -/
def renamedHello : List Label :=
  [.host .desktop 10, .join .desktop 11 (invite 0 10).publicKey,
    .event 0 .start, .event 1 .start,
    .event 1 (.hello { ownHello 0 (.new .desktop 10 none) with displayName := .text 11 })]

/-- In `renamedHello`, the joiner has accepted the host's signature. -/
theorem joiner_pins_four_fields_renamed :
    ({ ownHello 0 (.new .desktop 10 none) with displayName := .text 11 } :
      HelloFrame Term).signature = .signature (.honest 0) (exchange 0).publicKeyBase64 :=
  (joiner_pins_four_fields (played_reachable ∅ renamedHello) (h := 0) (j := 1) rfl rfl rfl
    rfl).1.2.2.2.2

/-- The name a joiner shows need not be the one the host put in its hello. -/
theorem renamed_host :
    ¬ ∀ (W : Set ℕ) (s : State), (system W).Reachable s → ∀ (h j : ℕ) (host joiner : Session),
      s.sessions[h]? = some host → s.sessions[j]? = some joiner →
      joiner.expected = some (invite h host.displayName).publicKey →
      ∀ (hello : HelloFrame Term) (key : SessionKey symbolic), joiner.peer = some (hello, key) →
        hello.displayName = (ownHello h host).displayName := by
  intro h
  have hname := h ∅ (played renamedHello) (played_reachable ∅ renamedHello) 0 1 _ _ rfl rfl rfl _ _ rfl
  exact absurd hname (by decide)

end Fauna.Symbolic
