import Fauna.Symbolic.Model

/-!
# What holds in every reachable state of the symbolic system

`Change` says, once, what one step can do to one session; `Sound` is the invariant every later
result is read off from. Its first field bounds the attacker's knowledge by a `Policy` computed
from the state: an honest signature covers the session's own exchange key and nothing else, and
the body of an honest ciphertext is public only if the key is (`Exposed`).
-/

namespace Fauna.Symbolic

open Fauna.Lib Fauna.Lib.DolevYao Fauna.Core Fauna.Wire

/-! ## One step -/

/-- What one step can do: session `i` appears or changes, and something is written. -/
inductive Change (W : Set ℕ) (s : State) (i : ℕ) : Session → List Term → Prop
  | host {program displayName} (hnew : s.sessions[i]? = none) :
      Change W s i (.new program displayName none) (inviteTerms (invite i displayName))
  | join {program displayName expected} (hnew : s.sessions[i]? = none) :
      Change W s i (.new program displayName (some expected)) []
  | start {session : Session} (hat : s.sessions[i]? = some session)
      (hidle : session.started = false) :
      Change W s i { session with started := true, reading := true }
        (helloTerms (ownHello i session))
  | accept {session : Session} {frame key} (hat : s.sessions[i]? = some session)
      (hreading : session.reading = true) (hpeer : session.peer = none)
      (hkey : establish session.program (exchange i) session.expected frame = .ok key)
      (hknown : ∀ t ∈ helloTerms frame, s.Knows W t) :
      Change W s i { session with peer := some (frame, key) } []
  | send {session : Session} {hello key n body frame} (hat : s.sessions[i]? = some session)
      (hpeer : session.peer = some (hello, key))
      (hseal : sealChat key (nonce n) (.text body) = .ok frame) :
      Change W s i { session with sent := session.sent ++ [(n, body)] } (chatTerms frame)
  | report {session : Session} {hello key frame body} (hat : s.sessions[i]? = some session)
      (hpeer : session.peer = some (hello, key)) (hopen : openChat key frame = .ok body)
      (hknown : ∀ t ∈ chatTerms frame, s.Knows W t) :
      Change W s i { session with reported := session.reported ++ [(frame, body)] } []
  | stop {session : Session} (hat : s.sessions[i]? = some session) :
      Change W s i { session with reading := false } []

/-- The rest of the state is as it was. -/
structure Moved (s t : State) (i : ℕ) (session : Session) (written : List Term) : Prop where
  changed : t.sessions[i]? = some session
  others : ∀ j, j ≠ i → t.sessions[j]? = s.sessions[j]?
  seen : t.seen = s.seen ++ written

variable {W : Set ℕ} {s t : State} {i : ℕ}

/-- A reaction of session `i` is a change of it. -/
theorem Change.of_react {session session' : Session} {e : Event} {written : List Term}
    (hat : s.sessions[i]? = some session) (hknown : ∀ t ∈ e.terms, s.Knows W t)
    (h : session.react i e = some (session', written)) : Change W s i session' written := by
  cases e with
  | start =>
      simp only [Session.react, Option.ite_none_left_eq_some, Option.some.injEq, Prod.mk.injEq] at h
      obtain ⟨hidle, rfl, rfl⟩ := h
      exact .start hat (by simpa using hidle)
  | hello frame =>
      simp only [Session.react, Option.ite_none_right_eq_some] at h
      obtain ⟨⟨hreading, hpeer⟩, h⟩ := h
      cases hkey : establish session.program (exchange i) session.expected frame with
      | ok key =>
          simp only [hkey, Option.some.injEq, Prod.mk.injEq] at h
          obtain ⟨rfl, rfl⟩ := h
          exact .accept hat hreading hpeer hkey hknown
      | error _ =>
          simp only [hkey, Option.some.injEq, Prod.mk.injEq] at h
          obtain ⟨rfl, rfl⟩ := h
          exact .stop hat
  | send n body =>
      simp only [Session.react] at h
      split at h
      · rename_i hello key hpeer
        cases hseal : sealChat key (nonce n) (.text body) with
        | ok frame =>
            simp only [hseal, Option.some.injEq, Prod.mk.injEq] at h
            obtain ⟨rfl, rfl⟩ := h
            exact .send hat hpeer hseal
        | error _ => simp [hseal] at h
      · cases h
  | chat frame =>
      simp only [Session.react] at h
      split at h
      · rename_i hello key hpeer
        rw [Option.ite_none_right_eq_some] at h
        cases hopen : openChat key frame with
        | ok body =>
            simp only [hopen, Option.some.injEq, Prod.mk.injEq] at h
            obtain ⟨-, rfl, rfl⟩ := h
            exact .report hat hpeer hopen hknown
        | error _ =>
            simp only [hopen, Option.some.injEq, Prod.mk.injEq] at h
            obtain ⟨-, rfl, rfl⟩ := h
            exact .stop hat
      · cases h
  | garbage =>
      simp only [Session.react, Option.some.injEq, Prod.mk.injEq] at h
      obtain ⟨rfl, rfl⟩ := h
      exact .stop hat

private theorem moved_append (s : State) (session : Session) (written : List Term) :
    Moved s ⟨s.sessions ++ [session], s.seen ++ written⟩ s.sessions.length session written where
  changed := by simp
  others j hj := by
    rcases Nat.lt_or_gt_of_ne hj with hlt | hgt
    · exact List.getElem?_append_left hlt
    · simp only
      rw [List.getElem?_eq_none (by simp; omega), List.getElem?_eq_none (by omega)]
  seen := rfl

/-- Every step is a change of one session. -/
theorem step_cases {a : Label} (h : (system W).step s a t) :
    ∃ i session written, Change W s i session written ∧ Moved s t i session written := by
  obtain ⟨hallowed, hnext⟩ := h
  have hnew : s.sessions[s.sessions.length]? = none := List.getElem?_eq_none le_rfl
  cases a with
  | host program displayName =>
      obtain rfl := Option.some.inj hnext
      exact ⟨_, _, _, .host hnew, moved_append s _ _⟩
  | join program displayName expected =>
      obtain rfl := Option.some.inj hnext
      exact ⟨_, _, _, .join hnew, by simpa using moved_append s _ []⟩
  | event i e =>
      simp only [State.next, Option.bind_eq_bind, Option.bind_eq_some_iff, Prod.exists] at hnext
      obtain ⟨session, hat, session', written, hreact, hnext⟩ := hnext
      obtain rfl := Option.some.inj hnext
      refine ⟨i, session', written, .of_react hat hallowed hreact, ?_, ?_, rfl⟩
      · have hi : i < s.sessions.length := (List.getElem?_eq_some_iff.1 hat).1
        simp [hi]
      · intro j hj
        exact List.getElem?_set_ne (Ne.symm hj)

/-! ## Session keys -/

/-- The key session `i` derives from a remote exchange key. -/
def agreedKey (i : ℕ) (remote : Term) : Term :=
  symbolic.digest (symbolic.diffieHellman (.scalar (.honest i)) remote)

/-- The keys that are bound to get out: at most one honest exponent. -/
def Exposed : Term → Prop
  | .digest (.point m) => honestCount m ≤ 1
  | _ => False

/-- An agreed key is the digest of a point with one exponent more, or of a secret shared with what
is no point. -/
theorem agreedKey_cases (i : ℕ) (remote : Term) :
    (∃ m, remote = .point m ∧ agreedKey i remote = .digest (.point (.honest i ::ₘ m))) ∨
      (∃ u, agreedKey i remote = .digest (.shared (.honest i) u)) := by
  cases remote with
  | point m => exact Or.inl ⟨m, rfl, rfl⟩
  | _ => exact Or.inr ⟨_, rfl⟩

/-- Whether a session key may be public does not depend on what else was let out. -/
theorem public_agreedKey {P : Policy} {remote : Term} :
    P.Public (agreedKey i remote) ↔ Exposed (agreedKey i remote) := by
  rcases agreedKey_cases i remote with ⟨m, -, h⟩ | ⟨u, h⟩
  · rw [h]
    exact Iff.rfl
  · simp [h, Exposed, Policy.Public, Key.isHonest]

/-- What `run_session` has checked when it accepts a hello. -/
theorem accepted_hello {program : Program} {expected : Option Term} {frame : HelloFrame Term}
    {key : SessionKey symbolic} (h : establish program (exchange i) expected frame = .ok key) :
    ∃ k, frame.identityPublicKey = .verKey k ∧ (∀ e, expected = some e → e = .verKey k) ∧
      frame.signature = .signature k frame.exchangePublicKey ∧
      key.bytes = agreedKey i frame.exchangePublicKey := by
  obtain ⟨hverify, hkey⟩ := establish_eq_ok.1 h
  obtain ⟨hexpected, publicKey, signature, hpub, -, hvalid, -, hsig, -, hsigned⟩ :=
    verifyHello_eq_ok.1 hverify
  obtain ⟨bytes, hbytes, -, hkey⟩ := ExchangeKeypair.deriveSessionKey_eq_ok.1 hkey
  obtain rfl := Option.some.inj hbytes
  obtain rfl := Option.some.inj hpub
  obtain rfl := Option.some.inj hsig
  cases hk : frame.identityPublicKey with
  | verKey k =>
      refine ⟨k, rfl, ?_, ?_, hkey⟩
      · intro e he
        rw [← hk, hexpected e he]
      · simpa [symbolic, hk] using hsigned
  | _ => simp [symbolic, hk] at hvalid

/-! ## The invariant -/

/-- What the honest sessions of a state have let out. -/
def policy (W : Set ℕ) (s : State) : Policy where
  texts := {n | n ∈ W ∨ (∃ (i : ℕ) (session : Session), s.sessions[i]? = some session ∧
      session.displayName = n) ∨
    ∃ (i : ℕ) (session : Session) (hello : HelloFrame Term) (key : SessionKey symbolic) (m : ℕ),
      s.sessions[i]? = some session ∧ session.peer = some (hello, key) ∧
        (m, n) ∈ session.sent ∧ Exposed key.bytes}
  signed k t := ∃ (i : ℕ) (session : Session), s.sessions[i]? = some session ∧
    session.started = true ∧ k = .honest i ∧ t = .point {.honest i}
  encrypted k n p := ∃ (i : ℕ) (session : Session) (hello : HelloFrame Term)
    (key : SessionKey symbolic) (m body : ℕ), s.sessions[i]? = some session ∧
      session.peer = some (hello, key) ∧ (m, body) ∈ session.sent ∧
      k = key.bytes ∧ n = .nonce m ∧ p = .text body

/-- What one session keeps to itself. -/
structure Session.Well (session : Session) : Prop where
  started : session.reading = true ∨ session.peer ≠ none → session.started = true
  quiet : session.peer = none → session.sent = [] ∧ session.reported = []

/-- What is true of session `i` of a state. -/
structure SoundAt (W : Set ℕ) (s : State) (i : ℕ) (session : Session) : Prop where
  well : session.Well
  hello : session.started = true → ∀ t ∈ helloTerms (ownHello i session), t ∈ s.seen
  peer : ∀ frame key, session.peer = some (frame, key) →
    establish session.program (exchange i) session.expected frame = .ok key ∧
      ∀ t ∈ helloTerms frame, s.Knows W t
  reported : ∀ frame key, session.peer = some (frame, key) → ∀ chat body,
    (chat, body) ∈ session.reported →
      openChat key chat = .ok body ∧ ∀ t ∈ chatTerms chat, s.Knows W t

/-- The invariant of the system. -/
structure Sound (W : Set ℕ) (s : State) : Prop where
  seen : ∀ t ∈ s.seen, (policy W s).Public t
  sessions : ∀ (i : ℕ) (session : Session), s.sessions[i]? = some session →
    SoundAt W s i session

/-- What the attacker knows is public. -/
theorem Sound.public_of_knows (h : Sound W s) {u : Term} (hu : s.Knows W u) :
    (policy W s).Public u := by
  refine Policy.derives_public ?_ hu
  rintro u (hseen | ⟨n, hn, rfl⟩)
  · exact h.seen u hseen
  · exact Or.inl hn

/-- The key of an accepted hello. -/
theorem SoundAt.key_eq {session : Session} {frame : HelloFrame Term} {key : SessionKey symbolic}
    (h : SoundAt W s i session) (hpeer : session.peer = some (frame, key)) :
    key.bytes = agreedKey i frame.exchangePublicKey := by
  obtain ⟨k, -, -, -, hkey⟩ := accepted_hello (h.peer frame key hpeer).1
  exact hkey

/-- One state grows into another: sessions only ever gain. -/
structure Grows (s t : State) : Prop where
  seen : s.seen ⊆ t.seen
  sessions : ∀ (i : ℕ) (session : Session), s.sessions[i]? = some session →
    ∃ session' : Session, t.sessions[i]? = some session' ∧
      session'.displayName = session.displayName ∧ (session.started = true → session'.started = true) ∧
      (session.peer ≠ none → session'.peer = session.peer) ∧ session.sent ⊆ session'.sent

/-- A change of one session makes the state grow. -/
theorem Grows.of_change {session : Session} {written : List Term}
    (hc : Change W s i session written) (hm : Moved s t i session written) : Grows s t := by
  refine ⟨fun u hu => by rw [hm.seen]; exact List.mem_append_left _ hu, fun j old hat => ?_⟩
  by_cases hj : j = i
  · subst hj
    refine ⟨session, hm.changed, ?_⟩
    cases hc with
    | host hnew => simp [hnew] at hat
    | join hnew => simp [hnew] at hat
    | start hat' =>
        obtain rfl := Option.some.inj (hat.symm.trans hat')
        exact ⟨rfl, fun _ => rfl, fun _ => rfl, List.Subset.refl _⟩
    | accept hat' _ hpeer =>
        obtain rfl := Option.some.inj (hat.symm.trans hat')
        exact ⟨rfl, id, fun h => absurd hpeer h, List.Subset.refl _⟩
    | send hat' =>
        obtain rfl := Option.some.inj (hat.symm.trans hat')
        exact ⟨rfl, id, fun _ => rfl, List.subset_append_left _ _⟩
    | report hat' =>
        obtain rfl := Option.some.inj (hat.symm.trans hat')
        exact ⟨rfl, id, fun _ => rfl, List.Subset.refl _⟩
    | stop hat' =>
        obtain rfl := Option.some.inj (hat.symm.trans hat')
        exact ⟨rfl, id, fun _ => rfl, List.Subset.refl _⟩
  · exact ⟨old, (hm.others j hj).trans hat, rfl, id, fun _ => rfl, List.Subset.refl _⟩

/-- What is known stays known. -/
theorem Grows.knows (h : Grows s t) {u : Term} (hu : s.Knows W u) : t.Knows W u :=
  hu.mono fun _ hv => hv.imp_left fun hv => h.seen hv

/-- The policy of a later state extends that of the earlier one. -/
theorem Grows.extends (h : Grows s t) (hs : ∀ (i : ℕ) (session : Session),
    s.sessions[i]? = some session → SoundAt W s i session) :
    (policy W s).Extends (policy W t) where
  texts := by
    rintro n (hn | ⟨i, session, hat, rfl⟩ | ⟨i, session, hello, key, m, hat, hpeer, hsent, hkey⟩)
    · exact Or.inl hn
    · obtain ⟨session', hat', hname, -⟩ := h.sessions i session hat
      exact Or.inr (Or.inl ⟨i, session', hat', hname⟩)
    · obtain ⟨session', hat', -, -, hpeer', hsub⟩ := h.sessions i session hat
      refine Or.inr (Or.inr ⟨i, session', hello, key, m, hat', ?_, hsub hsent, hkey⟩)
      rw [hpeer' (by simp [hpeer]), hpeer]
  signed := by
    rintro k u ⟨i, session, hat, hstarted, hk, hu⟩
    obtain ⟨session', hat', -, hstarted', -⟩ := h.sessions i session hat
    exact ⟨i, session', hat', hstarted' hstarted, hk, hu⟩
  encrypted := by
    rintro k n p ⟨i, session, hello, key, m, body, hat, hpeer, hsent, hrest⟩
    obtain ⟨session', hat', -, -, hpeer', hsub⟩ := h.sessions i session hat
    refine ⟨i, session', hello, key, m, body, hat', ?_, hsub hsent, hrest⟩
    rw [hpeer' (by simp [hpeer]), hpeer]
  keys := by
    rintro k n p ⟨i, session, hello, key, m, body, hat, hpeer, -, rfl, -⟩ hpublic
    rw [(hs i session hat).key_eq hpeer, public_agreedKey] at hpublic ⊢
    exact hpublic

/-- What a change writes is public in the state after it. -/
theorem written_public {session : Session} {written : List Term} (hs : ∀ (i : ℕ)
    (session : Session), s.sessions[i]? = some session → SoundAt W s i session)
    (hc : Change W s i session written) (hm : Moved s t i session written) :
    ∀ u ∈ written, (policy W t).Public u := by
  intro u hu
  cases hc with
  | host hnew =>
      simp only [inviteTerms, List.mem_cons, List.not_mem_nil, or_false] at hu
      obtain rfl | rfl | rfl := hu
      · trivial
      · exact Or.inr (Or.inl ⟨i, _, hm.changed, rfl⟩)
      · trivial
  | join hnew => simp at hu
  | start hat hidle =>
      have hpoint : honestCount {Key.honest i} ≤ 1 := by
        simp [honestCount_singleton, Key.isHonest]
      simp only [helloTerms, List.mem_cons, List.not_mem_nil, or_false] at hu
      obtain rfl | rfl | rfl | rfl | rfl := hu
      · trivial
      · exact Or.inr (Or.inl ⟨i, _, hm.changed, rfl⟩)
      · trivial
      · exact hpoint
      · exact ⟨Or.inr ⟨i, _, hm.changed, rfl, rfl, rfl⟩, hpoint⟩
  | accept => simp at hu
  | @send session hello key n body frame hat hpeer hseal =>
      obtain ⟨ciphertext, hencrypt, rfl⟩ := sealChat_eq_ok.1 hseal
      obtain rfl := Option.some.inj hencrypt
      simp only [chatTerms, List.mem_cons, List.not_mem_nil, or_false] at hu
      have hmem : (n, body) ∈ session.sent ++ [(n, body)] := by simp
      obtain rfl | rfl := hu
      · trivial
      · refine Or.inr ⟨⟨i, _, hello, key, n, body, hm.changed, hpeer, hmem, rfl, rfl, rfl⟩, ?_⟩
        intro hkey
        rw [(hs i session hat).key_eq hpeer, public_agreedKey,
          ← (hs i session hat).key_eq hpeer] at hkey
        exact Or.inr (Or.inr ⟨i, _, hello, key, n, hm.changed, hpeer, hmem, hkey⟩)
  | report => simp at hu
  | stop => simp at hu

/-- What is true of a session stays true while the state grows around it. -/
theorem SoundAt.mono {session : Session} (h : SoundAt W s i session) (hgrows : Grows s t) :
    SoundAt W t i session where
  well := h.well
  hello hstarted u hu := hgrows.seen (h.hello hstarted u hu)
  peer frame key hpeer :=
    (h.peer frame key hpeer).imp_right fun hknown u hu => hgrows.knows (hknown u hu)
  reported frame key hpeer chat body hmem :=
    (h.reported frame key hpeer chat body hmem).imp_right fun hknown u hu =>
      hgrows.knows (hknown u hu)

/-- A change keeps what is true of the session it changes. -/
theorem SoundAt.of_change {session : Session} {written : List Term} (hs : ∀ (i : ℕ)
    (session : Session), s.sessions[i]? = some session → SoundAt W s i session)
    (hc : Change W s i session written) (hm : Moved s t i session written) :
    SoundAt W t i session := by
  have hgrows := Grows.of_change hc hm
  have hold {old : Session} (hat : s.sessions[i]? = some old) : SoundAt W t i old :=
    (hs i old hat).mono hgrows
  cases hc with
  | host | join =>
      exact ⟨⟨by simp [Session.new], by simp [Session.new]⟩, by simp [Session.new],
        by simp [Session.new], by simp [Session.new]⟩
  | start hat =>
      refine ⟨⟨fun _ => rfl, (hold hat).well.quiet⟩, fun _ u hu => ?_, (hold hat).peer,
        (hold hat).reported⟩
      rw [hm.seen]
      exact List.mem_append_right _ hu
  | accept hat hreading hpeer hkey hknown =>
      have hstarted := (hold hat).well.started (Or.inl hreading)
      obtain ⟨-, hreported⟩ := (hold hat).well.quiet hpeer
      refine ⟨⟨fun _ => hstarted, by simp⟩, (hold hat).hello, ?_, ?_⟩
      · intro frame key h
        obtain ⟨rfl, rfl⟩ := Prod.mk.inj (Option.some.inj h)
        exact ⟨hkey, fun u hu => hgrows.knows (hknown u hu)⟩
      · simp [hreported]
  | send hat hpeer hseal =>
      exact ⟨⟨(hold hat).well.started, by simp [hpeer]⟩, (hold hat).hello, (hold hat).peer,
        (hold hat).reported⟩
  | report hat hpeer hopen hknown =>
      refine ⟨⟨(hold hat).well.started, by simp [hpeer]⟩, (hold hat).hello, (hold hat).peer,
        fun frame key h chat body hmem => ?_⟩
      rcases List.mem_append.1 hmem with hmem | hmem
      · exact (hold hat).reported frame key h chat body hmem
      · obtain ⟨rfl, rfl⟩ := Prod.mk.inj (List.mem_singleton.1 hmem)
        obtain ⟨rfl, rfl⟩ := Prod.mk.inj (Option.some.inj (hpeer.symm.trans h))
        exact ⟨hopen, fun u hu => hgrows.knows (hknown u hu)⟩
  | stop hat =>
      exact ⟨⟨fun h => (hold hat).well.started (by simpa using Or.inr h),
        (hold hat).well.quiet⟩, (hold hat).hello, (hold hat).peer, (hold hat).reported⟩

/-- The invariant holds in every reachable state. -/
theorem sound (h : (system W).Reachable s) : Sound W s := by
  refine h.invariant ?_ ?_
  · rintro s rfl
    exact ⟨by simp, by simp⟩
  · intro s a t hs hstep
    obtain ⟨i, session, written, hc, hm⟩ := step_cases hstep
    have hgrows := Grows.of_change hc hm
    refine ⟨?_, ?_⟩
    · intro u hu
      rw [hm.seen] at hu
      rcases List.mem_append.1 hu with hu | hu
      · exact (hgrows.extends hs.sessions).public (hs.seen u hu)
      · exact written_public hs.sessions hc hm u hu
    · intro j other hat
      by_cases hj : j = i
      · subst hj
        obtain rfl := Option.some.inj (hm.changed.symm.trans hat)
        exact .of_change hs.sessions hc hm
      · exact (hs.sessions j other ((hm.others j hj).symm.trans hat)).mono hgrows

end Fauna.Symbolic
