import Fauna.Symbolic.Authentication

/-!
# What equal keys and reported bodies say about the peer

The signature of a hello covers the exchange key and neither the identities nor the roles, and
both directions of a session use one key with no label. So two sessions with one key need not
have recorded each other's identity (`re_signed_hello`), and a session may report a body it wrote
itself (`reflected_frame`). What does hold:

* `equal_keys_identities`: a session records the identity of the session it shares a key with or
  one that the attacker made, never that of a third session; with an honest host's invite it
  records exactly the host's, and shares its key with the host only.
* `reported_body_origin`: a body reported under a key that was agreed with an honest session was
  sealed, in the very frame it came in, by one of the two.
-/

namespace Fauna.Symbolic

open Fauna.Lib Fauna.Lib.DolevYao Fauna.Core Fauna.Wire

variable {W : Set ℕ} {s : State} {i j : ℕ}

/-- Two honest sessions that read each other's exchange key agree. -/
theorem agreedKey_comm (i j : ℕ) :
    agreedKey i (.point {.honest j}) = agreedKey j (.point {.honest i}) := by
  show Term.digest (.point (.honest i ::ₘ .honest j ::ₘ 0)) =
    .digest (.point (.honest j ::ₘ .honest i ::ₘ 0))
  rw [Multiset.cons_swap]

/-- A key with two honest exponents is held by the sessions these belong to and no other. -/
theorem agreedKey_owner {h : ℕ} {remote : Term}
    (heq : agreedKey j remote = agreedKey i (.point {.honest h})) : j = i ∨ j = h := by
  rcases agreedKey_cases j remote with ⟨m, -, hm⟩ | ⟨u, hu⟩
  · have hpoint : Key.honest j ::ₘ m = .honest i ::ₘ .honest h ::ₘ 0 :=
      Term.point.inj (Term.digest.inj (hm.symm.trans heq))
    have hmem : Key.honest j ∈ (.honest i ::ₘ .honest h ::ₘ 0 : Multiset Key) := by
      rw [← hpoint]
      exact Multiset.mem_cons_self _ _
    simpa using hmem
  · exact absurd (hu.symm.trans heq) (by simp [agreedKey, symbolic])

/-! ## Identities -/

/-- One side of `equal_keys_identities`. -/
theorem equal_keys_identity (hs : Sound W s) (hij : i ≠ j) {a b : Session}
    (ha : s.sessions[i]? = some a) (hb : s.sessions[j]? = some b)
    {helloA helloB : HelloFrame Term} {key : SessionKey symbolic}
    (hpeerA : a.peer = some (helloA, key)) (hpeerB : b.peer = some (helloB, key)) :
    (helloA.identityPublicKey = (identity j).publicKeyBase64 ∨
      ∃ n, helloA.identityPublicKey = .verKey (.attacker n)) ∧
    ∀ h name, a.expected = some (invite h name).publicKey →
      helloA.identityPublicKey = (identity j).publicKeyBase64 ∧ h = j := by
  -- an honest identity brings its own exchange key, and that makes its owner the other holder
  have honest {h : ℕ} (hidentity : helloA.identityPublicKey = (identity h).publicKeyBase64) :
      h = j := by
    obtain ⟨-, hexchange⟩ := honest_exchange_key hs ha hpeerA hidentity
    have hkeyA := (hs.sessions i a ha).key_eq hpeerA
    have hkeyB := (hs.sessions j b hb).key_eq hpeerB
    rw [hexchange] at hkeyA
    rcases agreedKey_owner (hkeyB.symm.trans hkeyA) with h' | h'
    · exact absurd h'.symm hij
    · exact h'.symm
  obtain ⟨k, hk, hexpected, -⟩ := accepted_hello ((hs.sessions i a ha).peer helloA key hpeerA).1
  refine ⟨?_, ?_⟩
  · cases k with
    | honest h =>
        obtain rfl := honest hk
        exact Or.inl hk
    | attacker n => exact Or.inr ⟨n, hk⟩
  · intro h name hinvite
    have hidentity : helloA.identityPublicKey = (identity h).publicKeyBase64 := by
      rw [hk, ← hexpected _ hinvite]
      rfl
    obtain rfl := honest hidentity
    exact ⟨hidentity, rfl⟩

/-- Two sessions that hold one key have each recorded the other's identity, or one the attacker
made; a session that was given an honest host's invite has recorded the other's, and the other is
that host. -/
theorem equal_keys_identities (hs : (system W).Reachable s) (hij : i ≠ j) {a b : Session}
    (ha : s.sessions[i]? = some a) (hb : s.sessions[j]? = some b)
    {helloA helloB : HelloFrame Term} {key : SessionKey symbolic}
    (hpeerA : a.peer = some (helloA, key)) (hpeerB : b.peer = some (helloB, key)) :
    ((helloA.identityPublicKey = (identity j).publicKeyBase64 ∨
        ∃ n, helloA.identityPublicKey = .verKey (.attacker n)) ∧
      ∀ h name, a.expected = some (invite h name).publicKey →
        helloA.identityPublicKey = (identity j).publicKeyBase64 ∧ h = j) ∧
    ((helloB.identityPublicKey = (identity i).publicKeyBase64 ∨
        ∃ n, helloB.identityPublicKey = .verKey (.attacker n)) ∧
      ∀ h name, b.expected = some (invite h name).publicKey →
        helloB.identityPublicKey = (identity i).publicKeyBase64 ∧ h = i) :=
  ⟨equal_keys_identity (sound hs) hij ha hb hpeerA hpeerB,
    equal_keys_identity (sound hs) (Ne.symm hij) hb ha hpeerB hpeerA⟩

/-- The hello the attacker makes of the exchange key of session `1`, signed with its own key. -/
def reSigned : HelloFrame Term where
  peerId := .fromPublicKey symbolic (.verKey (.attacker 0))
  displayName := .text 11
  identityPublicKey := .verKey (.attacker 0)
  exchangePublicKey := (exchange 1).publicKeyBase64
  signature := .signature (.attacker 0) (exchange 1).publicKeyBase64

/-- Host `0` and joiner `1` with the joiner's hello signed anew on its way. -/
def misbinding : List Label :=
  [.host .desktop 10, .join .desktop 11 (invite 0 10).publicKey,
    .event 0 .start, .event 1 .start, .event 0 (.hello reSigned),
    .event 1 (.hello (ownHello 0 (.new .desktop 10 none)))]

/-- In `misbinding` the joiner derives the key the host has derived. -/
private theorem misbinding_key :
    (some (ownHello 0 (.new .desktop 10 none), ⟨agreedKey 1 (.point {.honest 0}), rfl⟩) :
        Option (HelloFrame Term × SessionKey symbolic)) =
      some (ownHello 0 (.new .desktop 10 none), ⟨agreedKey 0 (.point {.honest 1}), rfl⟩) := by
  simp only [agreedKey_comm 1 0]

/-- In `misbinding`, the joiner has recorded the host and the host the attacker. -/
theorem equal_keys_identities_misbinding :
    (reSigned.identityPublicKey = (identity 1).publicKeyBase64 ∨
      ∃ n, reSigned.identityPublicKey = .verKey (.attacker n)) ∧
    (ownHello 0 (.new .desktop 10 none)).identityPublicKey = (identity 0).publicKeyBase64 := by
  have h := equal_keys_identities (played_reachable ∅ misbinding) (i := 0) (j := 1) (by decide)
    rfl rfl rfl misbinding_key
  exact ⟨h.1.1, (h.2.2 0 10 rfl).1⟩

/-- Equal keys do not mean matching identities: after `misbinding` the host and the joiner hold
one key, and the host has recorded the attacker as the owner of it. -/
theorem re_signed_hello :
    ¬ ∀ (W : Set ℕ) (s : State), (system W).Reachable s → ∀ (i j : ℕ), i ≠ j →
      ∀ (a b : Session), s.sessions[i]? = some a → s.sessions[j]? = some b →
      ∀ (helloA helloB : HelloFrame Term) (key : SessionKey symbolic),
        a.peer = some (helloA, key) → b.peer = some (helloB, key) →
        helloA.identityPublicKey = (identity j).publicKeyBase64 := by
  intro h
  have hidentity := h ∅ (played misbinding) (played_reachable ∅ misbinding) 0 1 (by decide)
    _ _ rfl rfl reSigned _ _ rfl misbinding_key
  exact absurd hidentity (by decide)

/-! ## Bodies -/

/-- A body a session reports under a key it agreed with honest session `j` was sealed, in the frame
it came in, by session `j` or by the session itself. -/
theorem reported_body_origin (hs : (system W).Reachable s) {a : Session}
    (ha : s.sessions[i]? = some a) {hello : HelloFrame Term} {key : SessionKey symbolic}
    (hpeer : a.peer = some (hello, key))
    (hhonest : hello.exchangePublicKey = (exchange j).publicKeyBase64)
    {frame : ChatFrame Term} {body : Term} (hreported : (frame, body) ∈ a.reported) :
    ∃ n m, body = .text m ∧ sealChat key (nonce n) (.text m) = .ok frame ∧
      ((n, m) ∈ a.sent ∨ ∃ (b : Session) (hello' : HelloFrame Term),
        s.sessions[j]? = some b ∧ b.peer = some (hello', key) ∧ (n, m) ∈ b.sent) := by
  have hsound := sound hs
  have hkey := (hsound.sessions i a ha).key_eq hpeer
  rw [hhonest] at hkey
  obtain ⟨hopen, hknown⟩ := (hsound.sessions i a ha).reported hello key hpeer frame body hreported
  obtain ⟨n, c, body, hn, -, hc, hdecrypt, rfl⟩ := openChat_eq_ok.1 hopen
  obtain rfl := Option.some.inj hn
  obtain rfl := Option.some.inj hc
  have hcipher : frame.ciphertext = .cipher key.bytes frame.nonce body := by
    cases hform : frame.ciphertext with
    | cipher k n q =>
        obtain ⟨⟨rfl, rfl⟩, rfl⟩ : (key.bytes = k ∧ frame.nonce = n) ∧ q = body := by
          simpa [symbolic, hform] using hdecrypt
        rfl
    | _ => simp [symbolic, hform] at hdecrypt
  have hpublic := hsound.public_of_knows (hknown frame.ciphertext (by simp [chatTerms]))
  rw [hcipher] at hpublic
  rcases hpublic with ⟨hexposed, -, -⟩ | ⟨⟨l, b, hello', key', n, m, hb, hpeer', hsent, hk, hn, hp⟩, -⟩
  · rw [hkey, public_agreedKey] at hexposed
    exact absurd hexposed (not_exposed_honest i j)
  · obtain rfl : key = key' := SessionKey.ext hk
    refine ⟨n, m, hp, sealChat_eq_ok.2 ⟨_, rfl, ?_⟩, ?_⟩
    · cases frame
      simp only at hcipher hn
      rw [hcipher, hn, hp]
      rfl
    · have howner := (hsound.sessions l b hb).key_eq hpeer'
      rcases agreedKey_owner (howner.symm.trans hkey) with rfl | rfl
      · obtain rfl := Option.some.inj (ha.symm.trans hb)
        exact Or.inl hsent
      · exact Or.inr ⟨b, hello', hb, hpeer', hsent⟩

/-- The frame host `0` seals in `reflection`. -/
def hostFrame : ChatFrame Term :=
  ⟨.nonce 0, .cipher (agreedKey 0 (.point {.honest 1})) (.nonce 0) (.text 20)⟩

/-- Host `0` and joiner `1`, and then the host's own frame delivered to the host. -/
def reflection : List Label :=
  introduction .desktop ++ [.event 0 (.send 0 20), .event 0 (.chat hostFrame)]

/-- In `reflection`, the host has reported the body it sent. -/
theorem reported_body_origin_reflection :
    ∃ n m, Term.text 20 = .text m ∧ sealChat (P := symbolic)
      ⟨agreedKey 0 (.point {.honest 1}), rfl⟩ (nonce n) (.text m) = .ok hostFrame := by
  have hreported : (hostFrame, .text 20) ∈ ((played reflection).sessions.map (·.reported)).flatten := by
    decide
  obtain ⟨n, m, hbody, hseal, -⟩ := reported_body_origin (played_reachable ∅ reflection)
    (i := 0) (j := 1) rfl rfl rfl hreported
  exact ⟨n, m, hbody, hseal⟩

/-- A reported body need not be the other party's: in `reflection` the joiner has sent nothing. -/
theorem reflected_frame :
    ¬ ∀ (W : Set ℕ) (s : State), (system W).Reachable s → ∀ (i j : ℕ), i ≠ j →
      ∀ (a : Session), s.sessions[i]? = some a →
      ∀ (hello : HelloFrame Term) (key : SessionKey symbolic), a.peer = some (hello, key) →
        hello.exchangePublicKey = (exchange j).publicKeyBase64 →
      ∀ frame body, (frame, body) ∈ a.reported →
        ∃ (b : Session) (n m : ℕ), s.sessions[j]? = some b ∧ body = .text m ∧ (n, m) ∈ b.sent := by
  intro h
  obtain ⟨b, n, m, hb, -, hsent⟩ := h ∅ (played reflection) (played_reachable ∅ reflection) 0 1
    (by decide) _ rfl _ _ rfl rfl hostFrame (.text 20) (by decide)
  obtain rfl := Option.some.inj hb
  exact absurd hsent List.not_mem_nil

end Fauna.Symbolic
