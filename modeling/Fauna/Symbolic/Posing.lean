import Fauna.Symbolic.Leaks
import Fauna.Symbolic.Names

/-!
# Whom the attacker can pose to

A host expects nobody in particular, and a joiner expects the public key of its invite, whoever made
that. Until it has accepted a hello, a session that expects no honest key can be taken by the
attacker in every reachable state: with a hello under any name that the attacker can write, which it
signs with a key of its own. It then says to the session what it likes, and reads all that the
session ever sends. A session that expects an honest key, or a text that is no key, is never taken.

* `Unpinned`: what the sessions that can be taken expect.
* `State.SentSeen`: what was sent is among what was seen.
* `attacker_poses`: the result.
-/

namespace Fauna.Symbolic

open Fauna.Lib Fauna.Lib.DolevYao Fauna.Core Fauna.Wire

variable {W : Set ℕ} {s t : State} {i : ℕ}

/-- No honest key is expected: anybody's, or one that the attacker made. -/
def Unpinned (expected : Option Term) : Prop :=
  ∀ e, expected = some e → ∃ n, e = .verKey (.attacker n)

/-! ## What every run keeps -/

/-- Over a run of the system the state only grows. -/
theorem grows_of_system_run {acts : List Label} (hrun : (system W).Run s acts t) : Grows s t := by
  induction hrun with
  | nil s => exact .refl s
  | cons hstep _ ih =>
      obtain ⟨i, session, written, hc, hm⟩ := step_cases hstep
      exact (Grows.of_change hc hm).trans ih

/-- A session that changes expects what it did. -/
theorem expected_of_change {session old : Session} {written : List Term}
    (hc : Change W s i session written) (hat : s.sessions[i]? = some old) :
    session.expected = old.expected := by
  cases hc with
  | host hnew | join hnew => cases hnew.symm.trans hat
  | start hat' | accept hat' | send hat' | report hat' | stop hat' =>
      rw [← Option.some.inj (hat'.symm.trans hat)]

/-- Whom a session expects does not change. -/
theorem expected_of_run {acts : List Label} (hrun : (system W).Run s acts t) {session : Session}
    (hat : s.sessions[i]? = some session) : ∃ session' : Session,
      t.sessions[i]? = some session' ∧ session'.expected = session.expected := by
  have hstep : ∀ (s : State) (a : Label) (t : State),
      (∃ session' : Session, s.sessions[i]? = some session' ∧
        session'.expected = session.expected) → (system W).step s a t →
      ∃ session' : Session, t.sessions[i]? = some session' ∧
        session'.expected = session.expected := by
    rintro s a t ⟨old, hold, hexpected⟩ hstep
    obtain ⟨j, changed, written, hc, hm⟩ := step_cases hstep
    by_cases hj : i = j
    · subst hj
      exact ⟨changed, hm.changed, (expected_of_change hc hold).trans hexpected⟩
    · exact ⟨old, (hm.others i hj).trans hold, hexpected⟩
  exact hrun.invariant hstep ⟨session, hat, rfl⟩

/-- Every body that was sent is among what was seen, under the key of its session. -/
def State.SentSeen (s : State) : Prop :=
  ∀ (i : ℕ) (session : Session), s.sessions[i]? = some session →
    ∀ (hello : HelloFrame Term) (key : SessionKey symbolic), session.peer = some (hello, key) →
      ∀ n body : ℕ, (n, body) ∈ session.sent →
        .cipher key.bytes (.nonce n) (.text body) ∈ s.seen

/-- A step keeps what was sent among what was seen. -/
theorem State.SentSeen.step (hs : Sound W s) (h : s.SentSeen) {a : Label}
    (hstep : (system W).step s a t) : t.SentSeen := by
  obtain ⟨j, changed, written, hc, hm⟩ := step_cases hstep
  intro i session hat hello key hpeer n body hsent
  have hold {old : Session} (hat : s.sessions[i]? = some old)
      (hpeer : old.peer = some (hello, key)) (hsent : (n, body) ∈ old.sent) :
      .cipher key.bytes (.nonce n) (.text body) ∈ t.seen := by
    rw [hm.seen]
    exact List.mem_append_left _ (h i old hat hello key hpeer n body hsent)
  by_cases hj : i = j
  · subst hj
    obtain rfl := Option.some.inj (hm.changed.symm.trans hat)
    cases hc with
    | host | join => cases hpeer
    | start hat' | report hat' | stop hat' => exact hold hat' hpeer hsent
    | accept hat' _ hnone =>
        rw [((hs.sessions i _ hat').well.quiet hnone).1] at hsent
        cases hsent
    | @send old hello' key' m body' frame hat' hpeer' hseal =>
        obtain ⟨-, rfl⟩ := Prod.mk.inj (Option.some.inj (hpeer'.symm.trans hpeer))
        rcases List.mem_append.1 hsent with hsent | hsent
        · exact hold hat' hpeer hsent
        · obtain ⟨rfl, rfl⟩ := Prod.mk.inj (List.mem_singleton.1 hsent)
          obtain ⟨ciphertext, hencrypt, rfl⟩ := sealChat_eq_ok.1 hseal
          obtain rfl := Option.some.inj hencrypt
          rw [hm.seen]
          exact List.mem_append_right _ (List.mem_cons_of_mem _ List.mem_cons_self)
  · exact hold ((hm.others i hj).symm.trans hat) hpeer hsent

/-- In every reachable state what was sent was seen. -/
theorem State.SentSeen.of_reachable (hs : (system W).Reachable s) : s.SentSeen := by
  have hinit : ∀ s, (system W).init s → s.SentSeen := by
    rintro s rfl i session hat
    simp at hat
  have hstep : ∀ s a t, (system W).Reachable s → s.SentSeen → (system W).step s a t →
      t.SentSeen := fun s a t hs h hstep => h.step (sound hs) hstep
  exact hs.induction hinit hstep

/-! ## Posing -/

/-- The hello that the attacker makes of its signing key number `n` and an exchange secret. -/
def posing (n : ℕ) (displayName : Term) : HelloFrame Term where
  peerId := .fromPublicKey symbolic (.verKey (.attacker n))
  displayName := displayName
  identityPublicKey := .verKey (.attacker n)
  exchangePublicKey := .point {.attacker 0}
  signature := .signature (.attacker n) (.point {.attacker 0})

/-- The key that session `i` derives from it. -/
def posedKey (i : ℕ) : SessionKey symbolic := ⟨agreedKey i (.point {.attacker 0}), rfl⟩

/-- The attacker can write the hello it poses with. -/
theorem knows_posing {displayName : Term} (hname : s.Knows W displayName) (n : ℕ) :
    ∀ t ∈ helloTerms (posing n displayName), s.Knows W t := by
  have hkey : s.Knows W (.verKey (.attacker n)) := .verKey (.signKey n)
  have hpoint : s.Knows W (.point {.attacker 0}) := .exp (.scalar 0) .base
  intro t ht
  simp only [helloTerms, posing, List.mem_cons, List.not_mem_nil, or_false] at ht
  rcases ht with rfl | rfl | rfl | rfl | rfl
  · exact .tag (.digest hkey)
  · exact hname
  · exact hkey
  · exact hpoint
  · exact .sign (.signKey n) hpoint

/-- A party that expects nobody else accepts it. -/
theorem establish_posing {program : Program} {expected : Option Term} {n : ℕ}
    (hexpected : ∀ e, expected = some e → e = .verKey (.attacker n)) (displayName : Term) :
    establish program (exchange i) expected (posing n displayName) = .ok (posedKey i) := by
  refine establish_eq_ok.2 ⟨verifyHello_symbolic_iff.2 ⟨?_, .attacker n, rfl, rfl, rfl⟩, ?_⟩
  · intro e he
    exact (hexpected e he).symm
  · exact ExchangeKeypair.deriveSessionKey_eq_ok.2 ⟨_, rfl, rfl, rfl⟩

/-- The key that is agreed on then is exposed. -/
theorem exposed_posedKey (i : ℕ) : Exposed (posedKey i).bytes := by
  show honestCount (.honest i ::ₘ .attacker 0 ::ₘ 0) ≤ 1
  simp [honestCount_cons, honestCount_singleton, Key.isHonest]

/-- An event of a session, as a step of the system. -/
theorem step_of_react {session session' : Session} {e : Event} {written : List Term}
    (hat : s.sessions[i]? = some session) (hknown : ∀ t ∈ e.terms, s.Knows W t)
    (hreact : session.react i e = some (session', written)) :
    ∃ t, (system W).step s (.event i e) t ∧ t.sessions[i]? = some session' := by
  refine ⟨⟨s.sessions.set i session', s.seen ++ written⟩, ⟨hknown, ?_⟩, ?_⟩
  · simp [State.next, hat, hreact]
  · have hi : i < s.sessions.length := (List.getElem?_eq_some_iff.1 hat).1
    simp [hi]

/-- The attacker's frame of a body. -/
def posedFrame (i : ℕ) (body : Term) : ChatFrame Term :=
  ⟨.nonce 0, .cipher (posedKey i).bytes (.nonce 0) body⟩

/-- A frame under that key opens to the body of the attacker. -/
theorem openChat_posedFrame (i : ℕ) (body : Term) :
    openChat (posedKey i) (posedFrame i body) = .ok body := by
  refine openChat_eq_ok.2 ⟨_, _, body, rfl, rfl, rfl, ?_, rfl⟩
  simp [symbolic, posedFrame]

/-- A session that reads the handshake is taken. -/
theorem taken_of_reading (hs : (system W).Reachable s) {session : Session}
    (hat : s.sessions[i]? = some session) (hpeer : session.peer = none)
    (hreading : session.reading = true) (hunpinned : Unpinned session.expected)
    {displayName body : Term} (hname : s.Knows W displayName) (hbody : s.Knows W body) :
    ∃ acts t session' hello key frame, (system W).Run s acts t ∧ t.sessions[i]? = some session' ∧
      session'.peer = some (hello, key) ∧ hello.displayName = displayName ∧
      t.Knows W key.bytes ∧ (frame, body) ∈ session'.reported := by
  obtain ⟨n, hn⟩ : ∃ n, ∀ e, session.expected = some e → e = .verKey (.attacker n) := by
    cases he : session.expected with
    | none => exact ⟨0, nofun⟩
    | some e =>
        obtain ⟨n, rfl⟩ := hunpinned e he
        exact ⟨n, fun e he => (Option.some.inj he).symm⟩
  have hhello : session.react i (.hello (posing n displayName)) =
      some ({ session with peer := some (posing n displayName, posedKey i) }, []) := by
    simp [Session.react, hreading, hpeer, establish_posing hn]
  have hknown : ∀ t ∈ (Event.hello (posing n displayName)).terms, s.Knows W t :=
    knows_posing hname n
  obtain ⟨u, hu, hatu⟩ := step_of_react hat hknown hhello
  have hgrows : Grows s u := grows_of_system_run (.single hu)
  have hkey : u.Knows W (posedKey i).bytes :=
    (knows_key_iff (sound (hs.step hu)) hatu rfl).2 (exposed_posedKey i)
  have hframe : ∀ t ∈ (Event.chat (posedFrame i body)).terms, u.Knows W t := by
    intro t ht
    simp only [Event.terms, chatTerms, posedFrame, List.mem_cons, List.not_mem_nil, or_false] at ht
    rcases ht with rfl | rfl
    · exact .nonce 0
    · exact .encrypt hkey (.nonce 0) (hgrows.knows hbody)
  have hchat : ({ session with peer := some (posing n displayName, posedKey i) } : Session).react i
      (.chat (posedFrame i body)) = some ({ session with
        peer := some (posing n displayName, posedKey i)
        reported := session.reported ++ [(posedFrame i body, body)] }, []) := by
    simp [Session.react, hreading, openChat_posedFrame]
  obtain ⟨v, hv, hatv⟩ := step_of_react hatu hframe hchat
  have hgrows' : Grows u v := grows_of_system_run (.single hv)
  exact ⟨_, v, _, _, _, _, .cons hu (.single hv), hatv, rfl, rfl, hgrows'.knows hkey,
    List.mem_append_right _ List.mem_cons_self⟩

/-- A session that expects an honest key, or no key, is not taken. -/
theorem not_knows_of_pinned (hs : (system W).Reachable s) {session : Session}
    (hat : s.sessions[i]? = some session) (hpinned : ¬ Unpinned session.expected)
    {hello : HelloFrame Term} {key : SessionKey symbolic}
    (hpeer : session.peer = some (hello, key)) : ¬ s.Knows W key.bytes := by
  have hsound := sound hs
  obtain ⟨k, hk, hexpected, -, hkey⟩ :=
    accepted_hello ((hsound.sessions i session hat).peer hello key hpeer).1
  cases k with
  | attacker n => exact absurd (fun e he => ⟨n, hexpected e he⟩) hpinned
  | honest h =>
      obtain ⟨-, hexchange⟩ := honest_exchange_key hsound hat hpeer (h := h) hk
      rw [knows_key_iff hsound hat hpeer, hkey, hexchange]
      exact not_exposed_honest i h

/-! ## The result -/

/-- A session that has not accepted a hello, and whose handshake is not over. If it expects no
honest key, then the attacker can take it from here, under any name and with any body that it can
write; and else no run from here leads to a state where the attacker knows its key. From any state
where the attacker does know its key on, it knows all that the session has sent. -/
theorem attacker_poses (hs : (system W).Reachable s) {session : Session}
    (hat : s.sessions[i]? = some session) (hpeer : session.peer = none)
    (hopen : session.started = true → session.reading = true) :
    (Unpinned session.expected → ∀ displayName body, s.Knows W displayName → s.Knows W body →
      ∃ acts t session' hello key frame, (system W).Run s acts t ∧
        t.sessions[i]? = some session' ∧ session'.peer = some (hello, key) ∧
        hello.displayName = displayName ∧ t.Knows W key.bytes ∧ (frame, body) ∈ session'.reported) ∧
    ∀ acts t session' hello key, (system W).Run s acts t → t.sessions[i]? = some session' →
      session'.peer = some (hello, key) → t.Knows W key.bytes →
      Unpinned session.expected ∧
        ∀ acts' u session'', (system W).Run t acts' u → u.sessions[i]? = some session'' →
          ∀ n body : ℕ, (n, body) ∈ session''.sent → u.Knows W (.text body) := by
  refine ⟨?_, ?_⟩
  · intro hunpinned displayName body hname hbody
    cases hstarted : session.started with
    | true => exact taken_of_reading hs hat hpeer (hopen hstarted) hunpinned hname hbody
    | false =>
        have hstart : session.react i .start = some ({ session with
            started := true
            reading := true }, helloTerms (ownHello i session)) := by
          simp [Session.react, hstarted]
        obtain ⟨u, hu, hatu⟩ := step_of_react hat (fun t ht => by cases ht) hstart
        have hgrows : Grows s u := grows_of_system_run (.single hu)
        obtain ⟨acts, t, session', hello, key, frame, hrun, hrest⟩ :=
          taken_of_reading (hs.step hu) hatu hpeer rfl hunpinned (hgrows.knows hname)
            (hgrows.knows hbody)
        exact ⟨_, t, session', hello, key, frame, .cons hu hrun, hrest⟩
  · intro acts t session' hello key hrun hat' hpeer' hknows
    refine ⟨?_, ?_⟩
    · obtain ⟨same, hsame, hexpected⟩ := expected_of_run hrun hat
      obtain rfl := Option.some.inj (hat'.symm.trans hsame)
      rw [← hexpected]
      by_contra hpinned
      exact not_knows_of_pinned (hs.run hrun) hat' hpinned hpeer' hknows
    · intro acts' u session'' hrun' hat'' n body hsent
      have hgrows := grows_of_system_run hrun'
      obtain ⟨same, hsame, -, -, hkept, -⟩ := hgrows.sessions i session' hat'
      obtain rfl := Option.some.inj (hat''.symm.trans hsame)
      have hpeer'' : session''.peer = some (hello, key) := by
        rw [hkept (by simp [hpeer']), hpeer']
      have hreachable := (hs.run hrun).run hrun'
      have hseen := State.SentSeen.of_reachable hreachable i _ hat'' hello key hpeer'' n body hsent
      exact .decrypt (.known (Or.inl hseen)) (hgrows.knows hknows)

/-- A host that waits, and a joiner with its invite. -/
theorem attacker_poses_host :
    let s := played [.host .desktop 10, .join .desktop 11 (invite 0 10).publicKey, .event 0 .start,
      .event 1 .start]
    (∃ acts t session hello key frame, (system {7}).Run s acts t ∧ t.sessions[0]? = some session ∧
      session.peer = some (hello, key) ∧ hello.displayName = .text 7 ∧ t.Knows {7} key.bytes ∧
        (frame, .text 7) ∈ session.reported) ∧
    ∀ acts t session hello key, (system {7}).Run s acts t → t.sessions[1]? = some session →
      session.peer = some (hello, key) → ¬ t.Knows {7} key.bytes := by
  intro s
  have hs : (system {7}).Reachable s := played_reachable {7} _
  have htext : s.Knows {7} (.text 7) := .known (Or.inr ⟨7, rfl, rfl⟩)
  refine ⟨?_, ?_⟩
  · exact (attacker_poses hs (i := 0) rfl rfl fun _ => rfl).1 nofun _ _ htext htext
  · intro acts t session hello key hrun hat hpeer hknows
    obtain ⟨n, hn⟩ := ((attacker_poses hs (i := 1) rfl rfl fun _ => rfl).2 acts t session hello key
      hrun hat hpeer hknows).1 _ rfl
    cases hn

end Fauna.Symbolic
