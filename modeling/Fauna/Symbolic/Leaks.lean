import Fauna.Lib.Leaks
import Fauna.Symbolic.Agreement

/-!
# When the signing key of a device gets out

The same sessions, against an attacker that also gets hold of signing keys, of any sessions and at
any time, and goes on attacking with them. A signing key signs hellos and nothing else, and the key
of a session is made of two exchange secrets. So what an attacker gains is to be taken for that
device from then on; a joiner that has accepted the hello of its host before the host's key got out
keeps its session (`forward_secrecy`).

* `LeakSound`: what every step keeps, where all that the sessions wrote is still public.
* `LeakSound.public_of_knows`: what the attacker knows, with the keys that got out.
* `LeakSound.reported_origin`: what a session reports under a key of two exchange secrets.
-/

namespace Fauna.Symbolic

open Fauna.Lib Fauna.Lib.DolevYao Fauna.Core Fauna.Wire

/-- A step of the system, or the signing key of session `i` gets out. -/
inductive LeakLabel
  | step (a : Label)
  | leak (i : ℕ)

/-- The sessions over a network of an attacker that gets hold of signing keys. -/
def leakySystem (W : Set ℕ) : Lts State LeakLabel where
  init s := s = ⟨[], []⟩
  step s a t :=
    match a with
    | .step a => (system W).step s a t
    | .leak i => t = { s with seen := s.seen ++ [(identity i).signingKey] }

/-- The signing keys that have got out. -/
def State.leaked (s : State) : Set Key := {k | .signKey k ∈ s.seen}

variable {W : Set ℕ} {s t : State} {i j h : ℕ}

/-! ## The invariant -/

/-- What every reachable state keeps: apart from the keys that got out, what was seen is public. -/
structure LeakSound (W : Set ℕ) (s : State) : Prop where
  seen : ∀ t ∈ s.seen, (∃ k, t = .signKey k) ∨ (policy W s).Public t
  sessions : ∀ (i : ℕ) (session : Session), s.sessions[i]? = some session →
    SoundAt W s i session

/-- A state has grown from itself. -/
theorem Grows.refl (s : State) : Grows s s :=
  ⟨List.Subset.refl _, fun _ session hat =>
    ⟨session, hat, rfl, id, fun _ => rfl, List.Subset.refl _⟩⟩

/-- A state that grows twice has grown. -/
theorem Grows.trans {u : State} (hst : Grows s t) (htu : Grows t u) : Grows s u := by
  refine ⟨fun v hv => htu.seen (hst.seen hv), fun i session hat => ?_⟩
  obtain ⟨session', hat', hname, hstarted, hpeer, hsent⟩ := hst.sessions i session hat
  obtain ⟨session'', hat'', hname', hstarted', hpeer', hsent'⟩ := htu.sessions i session' hat'
  refine ⟨session'', hat'', hname'.trans hname, fun hs => hstarted' (hstarted hs), fun hne => ?_,
    fun m hm => hsent' (hsent hm)⟩
  rw [hpeer' (by rwa [hpeer hne]), hpeer hne]

/-- A key that gets out changes no session. -/
theorem Grows.of_leak (s : State) (u : Term) : Grows s { s with seen := s.seen ++ [u] } :=
  ⟨List.subset_append_left _ _, fun _ session hat =>
    ⟨session, hat, rfl, id, fun _ => rfl, List.Subset.refl _⟩⟩

/-- A step, also one that leaks a key, keeps the invariant. -/
theorem LeakSound.step {a : LeakLabel} (hs : LeakSound W s) (hstep : (leakySystem W).step s a t) :
    Grows s t ∧ LeakSound W t := by
  cases a with
  | leak i =>
      obtain rfl : t = { s with seen := s.seen ++ [.signKey (.honest i)] } := hstep
      have hgrows := Grows.of_leak s (.signKey (.honest i))
      refine ⟨hgrows, fun u hu => ?_, fun j session hat => (hs.sessions j session hat).mono hgrows⟩
      rcases List.mem_append.1 hu with hu | hu
      · exact hs.seen u hu
      · exact Or.inl ⟨_, List.mem_singleton.1 hu⟩
  | step a =>
      obtain ⟨i, session, written, hc, hm⟩ := step_cases (show (system W).step s a t from hstep)
      have hgrows := Grows.of_change hc hm
      refine ⟨hgrows, fun u hu => ?_, fun j other hat => ?_⟩
      · rw [hm.seen] at hu
        rcases List.mem_append.1 hu with hu | hu
        · exact (hs.seen u hu).imp_right (hgrows.extends hs.sessions).public
        · exact Or.inr (written_public hs.sessions hc hm u hu)
      · by_cases hj : j = i
        · subst hj
          obtain rfl := Option.some.inj (hm.changed.symm.trans hat)
          exact .of_change hs.sessions hc hm
        · exact (hs.sessions j other ((hm.others j hj).symm.trans hat)).mono hgrows

/-- The invariant holds of every reachable state. -/
theorem leakSound (hs : (leakySystem W).Reachable s) : LeakSound W s := by
  refine hs.invariant ?_ fun s a t hs hstep => (hs.step hstep).2
  rintro s rfl
  exact ⟨by simp, by simp⟩

/-- Over a run, leaks included, the state only grows. -/
theorem grows_of_run {acts : List LeakLabel} (hs : LeakSound W s)
    (hrun : (leakySystem W).Run s acts t) : Grows s t := by
  induction hrun with
  | nil s => exact .refl s
  | cons hstep _ ih =>
      obtain ⟨hgrows, hsound⟩ := hs.step hstep
      exact hgrows.trans (ih hsound)

/-! ## What the attacker knows -/

/-- Whether a session key is public does not depend on what got out. -/
theorem publicWith_agreedKey {P : Policy} {leaked : Set Key} {remote : Term} :
    P.PublicWith leaked (agreedKey i remote) ↔ Exposed (agreedKey i remote) := by
  rcases agreedKey_cases i remote with ⟨m, -, hm⟩ | ⟨u, hu⟩
  · rw [hm]
    exact Iff.rfl
  · simp [hu, Exposed, Policy.PublicWith, Key.isHonest]

/-- What the attacker knows is public with the keys that got out. -/
theorem LeakSound.public_of_knows (hs : LeakSound W s) {u : Term} (hu : s.Knows W u) :
    (policy W s).PublicWith s.leaked u := by
  have hkeys : ∀ k n p, (policy W s).encrypted k n p →
      (policy W s).PublicWith s.leaked k → (policy W s).Public k := by
    rintro k n p ⟨i, session, hello, key, m, body, hat, hpeer, -, rfl, -⟩ hpublic
    rw [(hs.sessions i session hat).key_eq hpeer] at hpublic ⊢
    exact public_agreedKey.2 (publicWith_agreedKey.1 hpublic)
  refine Policy.derives_publicWith ?_ hu
  rintro u (hseen | ⟨n, hn, rfl⟩)
  · rcases hs.seen u hseen with ⟨k, rfl⟩ | hpublic
    · exact Or.inr hseen
    · exact hpublic.publicWith hkeys
  · exact Or.inl hn

/-- A hello that shows the identity of a session whose signing key has not got out carries the
exchange key of that session. -/
theorem LeakSound.exchange_key (hs : LeakSound W s) {session : Session} {frame : HelloFrame Term}
    {key : SessionKey symbolic} (hat : s.sessions[i]? = some session)
    (hpeer : session.peer = some (frame, key))
    (hidentity : frame.identityPublicKey = (identity h).publicKeyBase64)
    (hkept : (identity h).signingKey ∉ s.seen) :
    frame.exchangePublicKey = (exchange h).publicKeyBase64 := by
  obtain ⟨hkey, hknown⟩ := (hs.sessions i session hat).peer frame key hpeer
  obtain ⟨k, hk, -, hsig, -⟩ := accepted_hello hkey
  obtain rfl : k = .honest h := Term.verKey.inj (hk.symm.trans hidentity)
  have hpublic := hs.public_of_knows (hknown frame.signature (by simp [helloTerms]))
  rw [hsig] at hpublic
  obtain ⟨hforged | hleaked | ⟨h', other, -, -, hh', hpoint⟩, -⟩ := hpublic
  · simp [Key.isHonest] at hforged
  · exact absurd hleaked hkept
  · obtain rfl := Key.honest.inj hh'
    exact hpoint

/-- A key of two exchange secrets does not get out. -/
theorem LeakSound.not_knows_key (hs : LeakSound W s) {session : Session} {frame : HelloFrame Term}
    {key : SessionKey symbolic} (hat : s.sessions[i]? = some session)
    (hpeer : session.peer = some (frame, key))
    (hexchange : frame.exchangePublicKey = (exchange h).publicKeyBase64) :
    ¬ s.Knows W key.bytes := by
  intro hknown
  have hpublic := hs.public_of_knows hknown
  rw [(hs.sessions i session hat).key_eq hpeer, publicWith_agreedKey, hexchange] at hpublic
  exact not_exposed_honest i h hpublic

/-- What opens under a key is a ciphertext under that key. -/
theorem openChat_symbolic {key : SessionKey symbolic} {frame : ChatFrame Term} {body : Term}
    (hopen : openChat key frame = .ok body) :
    frame.ciphertext = .cipher key.bytes frame.nonce body := by
  obtain ⟨n, c, body, hn, -, hc, hdecrypt, rfl⟩ := openChat_eq_ok.1 hopen
  obtain rfl := Option.some.inj hn
  obtain rfl := Option.some.inj hc
  cases hform : frame.ciphertext with
  | cipher k n q =>
      obtain ⟨⟨rfl, rfl⟩, rfl⟩ : (key.bytes = k ∧ frame.nonce = n) ∧ q = body := by
        simpa [symbolic, hform] using hdecrypt
      rfl
  | _ => simp [symbolic, hform] at hdecrypt

/-- A text the attacker knows was guessed, shown as a name, or sent under a key with one honest
exponent. -/
theorem LeakSound.known_text (hs : LeakSound W s) {body : ℕ} (hbody : s.Knows W (.text body)) :
    body ∈ W ∨ (∃ (i : ℕ) (session : Session), s.sessions[i]? = some session ∧
        session.displayName = body) ∨
      ∃ (i : ℕ) (session : Session) (hello : HelloFrame Term) (key : SessionKey symbolic) (n : ℕ),
        s.sessions[i]? = some session ∧ session.peer = some (hello, key) ∧
          (n, body) ∈ session.sent ∧ Exposed key.bytes :=
  hs.public_of_knows hbody

/-- A body reported under a key of two exchange secrets was sealed, in the frame it came in, by
one of the two sessions. -/
theorem LeakSound.reported_origin (hs : LeakSound W s) {session : Session}
    {hello : HelloFrame Term} {key : SessionKey symbolic} (hat : s.sessions[i]? = some session)
    (hpeer : session.peer = some (hello, key))
    (hexchange : hello.exchangePublicKey = (exchange h).publicKeyBase64) {frame : ChatFrame Term}
    {body : Term} (hreported : (frame, body) ∈ session.reported) :
    ∃ (n m l : ℕ) (other : Session) (hello' : HelloFrame Term), body = .text m ∧
      sealChat key (nonce n) (.text m) = .ok frame ∧ (l = i ∨ l = h) ∧
        s.sessions[l]? = some other ∧ other.peer = some (hello', key) ∧ (n, m) ∈ other.sent := by
  have hkey := (hs.sessions i session hat).key_eq hpeer
  rw [hexchange] at hkey
  obtain ⟨hopen, hknown⟩ :=
    (hs.sessions i session hat).reported hello key hpeer frame body hreported
  have hcipher := openChat_symbolic hopen
  have hpublic := hs.public_of_knows (hknown frame.ciphertext (by simp [chatTerms]))
  rw [hcipher] at hpublic
  rcases hpublic with ⟨hexposed, -, -⟩ | ⟨⟨l, other, hello', key', n, m, hother, hpeer', hsent, hk,
    hn, hp⟩, -⟩
  · rw [hkey, publicWith_agreedKey] at hexposed
    exact absurd hexposed (not_exposed_honest i h)
  · obtain rfl : key = key' := SessionKey.ext hk
    refine ⟨n, m, l, other, hello', hp, sealChat_eq_ok.2 ⟨_, rfl, ?_⟩, ?_, hother, hpeer', hsent⟩
    · cases frame
      simp only at hcipher hn
      rw [hcipher, hn, hp]
      rfl
    · exact agreedKey_owner (((hs.sessions l other hother).key_eq hpeer').symm.trans hkey)

/-! ## Forward secrecy -/

/-- A joiner has accepted the hello of the host of its invite before the signing key of that host
got out. Whatever keys get out afterwards, those of the two included, and whatever the attacker
does with them: the attacker does not derive the session key, nobody else comes to hold it, the
joiner reports only what one of the two has sealed under it, and a text sent under it that the
attacker derives was guessed, shown as a name or sent once more under a key with one honest
exponent. -/
theorem forward_secrecy (hs : (leakySystem W).Reachable s) {joiner : Session} {name : ℕ}
    (hjoiner : s.sessions[j]? = some joiner)
    (hinvite : joiner.expected = some (invite h name).publicKey)
    {hello : HelloFrame Term} {key : SessionKey symbolic}
    (hpeer : joiner.peer = some (hello, key)) (hkept : (identity h).signingKey ∉ s.seen)
    {acts : List LeakLabel} (hrun : (leakySystem W).Run s acts t) :
    (hello.exchangePublicKey = (exchange h).publicKeyBase64 ∧ ¬ t.Knows W key.bytes) ∧
    (∀ (i : ℕ) (session : Session) (hello' : HelloFrame Term), t.sessions[i]? = some session →
      session.peer = some (hello', key) → i = j ∨ i = h) ∧
    (∀ (joiner' : Session) (frame : ChatFrame Term) (body : Term),
      t.sessions[j]? = some joiner' → (frame, body) ∈ joiner'.reported →
      ∃ (n m i : ℕ) (session : Session) (hello' : HelloFrame Term), body = .text m ∧
        sealChat key (nonce n) (.text m) = .ok frame ∧ (i = j ∨ i = h) ∧
          t.sessions[i]? = some session ∧ session.peer = some (hello', key) ∧
            (n, m) ∈ session.sent) ∧
    ∀ body : ℕ, t.Knows W (.text body) →
      body ∈ W ∨ (∃ (i : ℕ) (session : Session), t.sessions[i]? = some session ∧
          session.displayName = body) ∨
        ∃ (i : ℕ) (session : Session) (hello' : HelloFrame Term) (key' : SessionKey symbolic)
          (n : ℕ), t.sessions[i]? = some session ∧ session.peer = some (hello', key') ∧
            (n, body) ∈ session.sent ∧ Exposed key'.bytes ∧ key' ≠ key := by
  have hsound := leakSound hs
  have hlater : LeakSound W t := leakSound (hs.run hrun)
  have hidentity : hello.identityPublicKey = (identity h).publicKeyBase64 := by
    obtain ⟨hkey, -⟩ := (hsound.sessions j joiner hjoiner).peer hello key hpeer
    obtain ⟨k, hk, hexpected, -⟩ := accepted_hello hkey
    rw [hk, ← hexpected _ hinvite]
    rfl
  have hexchange := hsound.exchange_key hjoiner hpeer hidentity hkept
  -- the joiner keeps its key, and the key says the rest
  obtain ⟨joiner', hjoiner', -, -, hpeer', -⟩ :=
    (grows_of_run hsound hrun).sessions j joiner hjoiner
  rw [hpeer] at hpeer'
  have hpeer' := hpeer' (by simp)
  have hkey := (hlater.sessions j joiner' hjoiner').key_eq hpeer'
  rw [hexchange] at hkey
  refine ⟨⟨hexchange, hlater.not_knows_key hjoiner' hpeer' hexchange⟩, ?_, ?_, ?_⟩
  · intro i session hello' hat hheld
    exact agreedKey_owner (((hlater.sessions i session hat).key_eq hheld).symm.trans hkey)
  · intro joiner'' frame body hat hreported
    obtain rfl := Option.some.inj (hjoiner'.symm.trans hat)
    exact hlater.reported_origin hjoiner' hpeer' hexchange hreported
  · intro body hbody
    refine (hlater.known_text hbody).imp_right fun hsent => hsent.imp_right ?_
    rintro ⟨i, session, hello', key', n, hat, hheld, hmem, hexposed⟩
    refine ⟨i, session, hello', key', n, hat, hheld, hmem, hexposed, ?_⟩
    rintro rfl
    rw [hkey] at hexposed
    exact not_exposed_honest j h hexposed

/-- Where no key gets out, the system is the one it was. -/
theorem run_without_leaks {ls : List Label} (hrun : (system W).Run s ls t) :
    (leakySystem W).Run s (ls.map .step) t := by
  induction hrun with
  | nil s => exact .nil s
  | cons hstep _ ih => exact .cons hstep ih

/-- The joiner's body stays secret where both signing keys get out after it was sent. -/
theorem forward_secrecy_both_leak :
    let s := played (introduction .desktop ++ [.event 1 (.send 0 20)])
    let t : State := ⟨s.sessions, s.seen ++ [(identity 0).signingKey] ++ [(identity 1).signingKey]⟩
    ¬ t.Knows ∅ (agreedKey 1 (.point {.honest 0})) ∧ ¬ t.Knows ∅ (.text 20) := by
  intro s t
  have hs : (leakySystem ∅).Reachable s := by
    obtain ⟨s₀, ls, hinit, hrun⟩ := played_reachable ∅ (introduction .desktop ++
      [.event 1 (.send 0 20)])
    exact ⟨s₀, _, hinit, run_without_leaks hrun⟩
  have hrun : (leakySystem ∅).Run s [.leak 0, .leak 1] t := .cons rfl (.single rfl)
  obtain ⟨⟨-, hkey⟩, -, -, hbody⟩ := forward_secrecy hs (j := 1) rfl
    (show _ = some (invite 0 10).publicKey from rfl) rfl (by decide) hrun
  refine ⟨hkey, fun hknown => ?_⟩
  rcases hbody 20 hknown with hW | ⟨i, session, hat, hname⟩ |
    ⟨i, session, hello, key, n, hat, hpeer, hsent, -, hne⟩
  · exact hW
  · match i, hat with
    | 0, hat | 1, hat =>
        obtain rfl := Option.some.inj hat
        exact absurd hname (by decide)
  · match i, hat with
    | 0, hat =>
        obtain rfl := Option.some.inj hat
        exact absurd hsent List.not_mem_nil
    | 1, hat =>
        obtain rfl := Option.some.inj hat
        obtain ⟨-, rfl⟩ := Prod.mk.inj (Option.some.inj hpeer)
        exact hne rfl

end Fauna.Symbolic
