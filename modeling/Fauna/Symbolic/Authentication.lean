import Fauna.Symbolic.Invariant

/-!
# What a joiner with an honest host's invite has

The joiner's key is authenticated: the exchange key it used is the one the host signed, which is
the only term any signature of that host covers. Hence the session key has two honest exponents,
and the attacker derives neither the key nor a body that was sent under it and nowhere in the
open.

* `honest_exchange_key`: a hello that shows an honest identity carries that session's exchange key.
* `knows_key_iff`: the attacker derives a session key exactly when all other exponents are its own.
* `joiner_authentication_and_secrecy`: the result for joiners.
-/

namespace Fauna.Symbolic

open Fauna.Lib Fauna.Lib.DolevYao Fauna.Core Fauna.Wire

variable {W : Set ℕ} {s : State} {i : ℕ}

/-- A hello that shows the identity of an honest session carries the exchange key of that
session, which has written its hello. -/
theorem honest_exchange_key (hs : Sound W s) {session : Session} {frame : HelloFrame Term}
    {key : SessionKey symbolic} (hat : s.sessions[i]? = some session)
    (hpeer : session.peer = some (frame, key)) {h : ℕ}
    (hidentity : frame.identityPublicKey = (identity h).publicKeyBase64) :
    (∃ other : Session, s.sessions[h]? = some other ∧ other.started = true) ∧
      frame.exchangePublicKey = (exchange h).publicKeyBase64 := by
  obtain ⟨hkey, hknown⟩ := (hs.sessions i session hat).peer frame key hpeer
  obtain ⟨k, hk, -, hsig, -⟩ := accepted_hello hkey
  obtain rfl : k = .honest h := Term.verKey.inj (hk.symm.trans hidentity)
  have hpublic := hs.public_of_knows (hknown frame.signature (by simp [helloTerms]))
  rw [hsig] at hpublic
  obtain ⟨hforged | ⟨h', other, hother, hstarted, hh', hpoint⟩, -⟩ := hpublic
  · simp [Key.isHonest] at hforged
  · obtain rfl := Key.honest.inj hh'
    exact ⟨⟨other, hother, hstarted⟩, hpoint⟩

/-- The only term the attacker has seen an honest session sign is its exchange key. -/
theorem signs_one_exchange_key (hs : Sound W s) {h : ℕ} {t : Term}
    (ht : s.Knows W (.signature (.honest h) t)) : t = (exchange h).publicKeyBase64 := by
  obtain ⟨hforged | ⟨h', -, -, -, hh', hpoint⟩, -⟩ := hs.public_of_knows ht
  · simp [Key.isHonest] at hforged
  · obtain rfl := Key.honest.inj hh'
    exact hpoint

/-- The attacker derives the key of a session exactly when every exponent but the session's own
is the attacker's. -/
theorem knows_key_iff (hs : Sound W s) {session : Session} {frame : HelloFrame Term}
    {key : SessionKey symbolic} (hat : s.sessions[i]? = some session)
    (hpeer : session.peer = some (frame, key)) : s.Knows W key.bytes ↔ Exposed key.bytes := by
  have hsound := hs.sessions i session hat
  have hkey := hsound.key_eq hpeer
  refine ⟨?_, ?_⟩
  · intro h
    have hpublic := hs.public_of_knows h
    rwa [hkey, public_agreedKey, ← hkey] at hpublic
  · intro h
    rw [hkey] at h ⊢
    rcases agreedKey_cases i frame.exchangePublicKey with ⟨m, -, hm⟩ | ⟨u, hu⟩
    · rw [hm] at h ⊢
      have hattacker : ∀ k ∈ m, k.isHonest = false := by
        have hcount : honestCount m = 0 := by
          simpa [Exposed, honestCount_cons, Key.isHonest] using h
        intro k hk
        simpa using Multiset.countP_eq_zero.1 hcount k hk
      have hown : s.Knows W (.point {.honest i}) := by
        have hstarted := hsound.well.started (Or.inr (by simp [hpeer]))
        have hmem : (ownHello i session).exchangePublicKey ∈ helloTerms (ownHello i session) := by
          simp [helloTerms]
        exact .known (Or.inl (hsound.hello hstarted _ hmem))
      have hpoint := Derives.point_add hown hattacker
      rw [Multiset.add_comm, Multiset.singleton_add] at hpoint
      exact .digest hpoint
    · simp [hu, Exposed] at h

/-- A text the attacker knows was guessed, shown as a name, or sent under a key it knows. -/
theorem known_text (hs : Sound W s) {body : ℕ} (h : s.Knows W (.text body)) :
    body ∈ W ∨ (∃ (i : ℕ) (session : Session), s.sessions[i]? = some session ∧
        session.displayName = body) ∨
      ∃ (i : ℕ) (session : Session) (hello : HelloFrame Term) (key : SessionKey symbolic) (n : ℕ),
        s.sessions[i]? = some session ∧ session.peer = some (hello, key) ∧
          (n, body) ∈ session.sent ∧ s.Knows W key.bytes := by
  rcases hs.public_of_knows h with hW | hname | ⟨i, session, hello, key, n, hat, hpeer, hsent, hkey⟩
  · exact Or.inl hW
  · exact Or.inr (Or.inl hname)
  · exact Or.inr (Or.inr ⟨i, session, hello, key, n, hat, hpeer, hsent,
      (knows_key_iff hs hat hpeer).2 hkey⟩)

/-- Two honest exponents keep a key from getting out. -/
theorem not_exposed_honest (i h : ℕ) : ¬ Exposed (agreedKey i (.point {.honest h})) := by
  show ¬ honestCount (.honest i ::ₘ .honest h ::ₘ 0) ≤ 1
  simp [honestCount_cons, honestCount_singleton, Key.isHonest]

/-- A joiner that was given the invite of host `h`, and whose `verify_hello` has passed, used the
one exchange key that `h` has signed. The attacker derives neither the session key nor a body the
joiner sent, unless that body is a text it could guess, somebody's display name, or was sent once
more in a session with the attacker. -/
theorem joiner_authentication_and_secrecy (hs : (system W).Reachable s) {h j : ℕ}
    {host joiner : Session} (hhost : s.sessions[h]? = some host)
    (hjoiner : s.sessions[j]? = some joiner)
    (hinvite : joiner.expected = some (invite h host.displayName).publicKey)
    {hello : HelloFrame Term} {key : SessionKey symbolic}
    (hpeer : joiner.peer = some (hello, key)) :
    (host.started = true ∧ hello.exchangePublicKey = (exchange h).publicKeyBase64 ∧
      ∀ t, s.Knows W (.signature (.honest h) t) → t = (exchange h).publicKeyBase64) ∧
    ¬ s.Knows W key.bytes ∧
    ∀ n body, (n, body) ∈ joiner.sent → s.Knows W (.text body) →
      body ∈ W ∨ (∃ (i : ℕ) (session : Session), s.sessions[i]? = some session ∧
          session.displayName = body) ∨
        ∃ (i : ℕ) (session : Session) (hello' : HelloFrame Term) (key' : SessionKey symbolic)
          (n' : ℕ), s.sessions[i]? = some session ∧ session.peer = some (hello', key') ∧
            (n', body) ∈ session.sent ∧ s.Knows W key'.bytes := by
  have hsound := sound hs
  have hidentity : hello.identityPublicKey = (identity h).publicKeyBase64 := by
    obtain ⟨hkey, -⟩ := (hsound.sessions j joiner hjoiner).peer hello key hpeer
    obtain ⟨k, hk, hexpected, -⟩ := accepted_hello hkey
    rw [hk, ← hexpected _ hinvite]
    rfl
  obtain ⟨⟨host', hhost', hstarted⟩, hexchange⟩ :=
    honest_exchange_key hsound hjoiner hpeer hidentity
  obtain rfl := Option.some.inj (hhost.symm.trans hhost')
  refine ⟨⟨hstarted, hexchange, fun t ht => signs_one_exchange_key hsound ht⟩, ?_, ?_⟩
  · rw [knows_key_iff hsound hjoiner hpeer, (hsound.sessions j joiner hjoiner).key_eq hpeer,
      hexchange]
    exact not_exposed_honest j h
  · exact fun n body _ hbody => known_text hsound hbody

/-- Host `0` and joiner `1` of program `program`, left alone, read each other's hello. -/
def introduction (program : Program) : List Label :=
  let host := Session.new program 10 none
  let joiner := Session.new program 11 (some (invite 0 10).publicKey)
  [.host program 10, .join program 11 (invite 0 10).publicKey,
    .event 0 .start, .event 1 .start,
    .event 0 (.hello (ownHello 1 joiner)), .event 1 (.hello (ownHello 0 host))]

/-- The two sessions left alone, after the joiner has sent one body. -/
theorem joiner_authentication_and_secrecy_left_alone :
    let s := played (introduction .desktop ++ [.event 1 (.send 0 20)])
    ¬ s.Knows ∅ (agreedKey 1 (.point {.honest 0})) ∧ ¬ s.Knows ∅ (.text 20) := by
  intro s
  obtain ⟨-, hkey, hbody⟩ := joiner_authentication_and_secrecy
    (played_reachable ∅ (introduction .desktop ++ [.event 1 (.send 0 20)]))
    (h := 0) (j := 1) rfl rfl rfl rfl
  refine ⟨hkey, fun hknown => ?_⟩
  rcases hbody 0 20 (by decide) hknown with hW | ⟨i, session, hat, hname⟩ |
    ⟨i, session, hello, key, n, hat, hpeer, hsent, hknows⟩
  · exact hW
  · match i, hat with
    | 0, hat | 1, hat =>
        obtain rfl := Option.some.inj hat
        exact absurd hname (by decide)
  · match i, hat with
    | 0, hat =>
        obtain rfl := Option.some.inj hat
        exact absurd hsent (List.not_mem_nil)
    | 1, hat =>
        obtain rfl := Option.some.inj hat
        obtain ⟨-, rfl⟩ := Prod.mk.inj (Option.some.inj hpeer)
        exact hkey hknows

end Fauna.Symbolic
