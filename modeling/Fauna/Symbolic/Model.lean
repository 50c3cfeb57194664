import Fauna.Lib.DolevYao
import Fauna.Lib.Transition
import Fauna.Wire.Messages

/-!
# Any number of sessions against a network attacker

The functions of `Fauna.Core` and `Fauna.Wire.Messages` over symbolic terms: `symbolic` reads
every primitive as its ideal. A state holds all the sessions that were ever started and the list
of what they let out. The attacker reads everything, delivers to any session anything it can
derive (`Label.Allowed`), in any order and any number of times, and delivers nothing for as long
as it likes. Session number `i` owns the signing key and the exchange secret `Key.honest i`: each
`host` and each `join` generates its own.

`Session.react` is one session's reaction to one event, and the system is the interleaving of all
of them.
-/

namespace Fauna.Symbolic

open Fauna.Lib Fauna.Lib.DolevYao Fauna.Core Fauna.Wire

/-- The ideal primitives. A string is the bytes it is the text of, so `encode` is the identity. -/
def symbolic : Primitives Term Term where
  asBytes t := t
  fromUtf8Lossy t := t
  hasLength n t := match n, t with
    | 32, .signKey _ | 32, .verKey _ | 32, .scalar _ | 32, .point _ => true
    | 32, .shared _ _ | 32, .digest _ => true
    | 24, .nonce _ => true
    | _, _ => false
  encode t := t
  decode t := some t
  digest := .digest
  digest_length _ := rfl
  peerIdText := .tag
  verifyingKey
    | .signKey k => .verKey k
    | t => .tag t
  isVerifyingKey
    | .verKey _ => true
    | _ => false
  sign
    | .signKey k, m => .signature k m
    | t, _ => .tag t
  isSignature
    | .signature _ _ => true
    | _ => false
  verify
    | .verKey k, m, s => s = .signature k m
    | _, _, _ => false
  exchangeKey
    | .scalar k => .point {k}
    | t => .tag t
  diffieHellman
    | .scalar k, .point m => .point (k ::ₘ m)
    | .scalar k, t => .shared k t
    | t, _ => .tag t
  aeadEncrypt k n p := some (.cipher k n p)
  aeadDecrypt
    | k, n, .cipher k' n' p => if k = k' ∧ n = n' then some p else none
    | _, _, _ => none

/-- The identity of session `i`. -/
def identity (i : ℕ) : DeviceIdentity symbolic := ⟨.signKey (.honest i), rfl⟩

/-- The exchange keypair of session `i`. -/
def exchange (i : ℕ) : ExchangeKeypair symbolic := .generate (.scalar (.honest i)) rfl

/-- The nonce number `n`. -/
def nonce (n : ℕ) : Nonce symbolic := ⟨.nonce n, rfl⟩

/-- The invite of host number `i`; the address carries no key. -/
def invite (i displayName : ℕ) : Invite Term := .new (identity i) (.text displayName)

/-! ## One session -/

/-- One `run_session`, as far as the network sees it. -/
structure Session where
  program : Program
  displayName : ℕ
  /-- The public key of the joiner's invite; a host expects nobody in particular. -/
  expected : Option Term
  /-- The hello has been written. -/
  started : Bool
  /-- The accepted hello and the key derived from it. -/
  peer : Option (HelloFrame Term × SessionKey symbolic)
  /-- The handshake, or the receive loop after it, still reads. -/
  reading : Bool
  /-- The bodies written, each with the nonce it was sealed with. -/
  sent : List (ℕ × ℕ)
  /-- The bodies reported, each with the frame it came in. -/
  reported : List (ChatFrame Term × Term)
  deriving DecidableEq

/-- A session that has not been started. -/
def Session.new (program : Program) (displayName : ℕ) (expected : Option Term) : Session :=
  ⟨program, displayName, expected, false, none, false, [], []⟩

/-- What can happen to a session. -/
inductive Event
  /-- `run_session` begins and writes its hello. -/
  | start
  /-- The handshake reads this hello. -/
  | hello (frame : HelloFrame Term)
  /-- The send loop takes this body and draws this nonce. -/
  | send (nonce body : ℕ)
  /-- The receive loop reads this chat frame. -/
  | chat (frame : ChatFrame Term)
  /-- The next line is no frame, or the stream ends. -/
  | garbage
  deriving DecidableEq

/-- The terms of a hello. -/
def helloTerms (frame : HelloFrame Term) : List Term :=
  [frame.peerId.asStr, frame.displayName, frame.identityPublicKey, frame.exchangePublicKey,
    frame.signature]

/-- The terms of a chat frame. -/
def chatTerms (frame : ChatFrame Term) : List Term := [frame.nonce, frame.ciphertext]

/-- The hello of session `i`. -/
def ownHello (i : ℕ) (session : Session) : HelloFrame Term :=
  createHello (identity i) (.text session.displayName) (exchange i)

/-- The reaction of session `i` to an event: the session after it and what it writes. -/
def Session.react (i : ℕ) (session : Session) : Event → Option (Session × List Term)
  | .start =>
      if session.started then none
      else some ({ session with started := true, reading := true },
        helloTerms (ownHello i session))
  | .hello frame =>
      if session.reading ∧ session.peer = none then
        match establish session.program (exchange i) session.expected frame with
        | .ok key => some ({ session with peer := some (frame, key) }, [])
        | .error _ => some ({ session with reading := false }, [])
      else none
  | .send n body =>
      match session.peer with
      | some (_, key) =>
          match sealChat key (nonce n) (.text body) with
          | .ok frame => some ({ session with sent := session.sent ++ [(n, body)] },
              chatTerms frame)
          | .error _ => none
      | none => none
  | .chat frame =>
      match session.peer with
      | some (_, key) =>
          if session.reading then
            match openChat key frame with
            | .ok body => some ({ session with reported := session.reported ++ [(frame, body)] }, [])
            | .error _ => some ({ session with reading := false }, [])
          else none
      | none => none
  | .garbage => some ({ session with reading := false }, [])

/-! ## All of them -/

/-- All the sessions, by number, and everything that was let out. -/
structure State where
  sessions : List Session
  seen : List Term

/-- A step of the system. -/
inductive Label
  /-- Somebody hosts, and the invite gets around. -/
  | host (program : Program) (displayName : ℕ)
  /-- Somebody joins with an invite, of a host of this system or of the attacker, that names
  this public key. -/
  | join (program : Program) (displayName : ℕ) (expected : Term)
  /-- An event of session `i`. -/
  | event (i : ℕ) (e : Event)
  deriving DecidableEq

/-- The terms of an invite. -/
def inviteTerms (invite : Invite Term) : List Term :=
  [invite.peerId.asStr, invite.displayName, invite.publicKey]

/-- The state after a step, whatever the attacker knows. -/
def State.next (s : State) : Label → Option State
  | .host program displayName =>
      some ⟨s.sessions ++ [.new program displayName none],
        s.seen ++ inviteTerms (invite s.sessions.length displayName)⟩
  | .join program displayName expected =>
      some { s with sessions := s.sessions ++ [.new program displayName (some expected)] }
  | .event i e => do
      let session ← s.sessions[i]?
      let (session, written) ← session.react i e
      return ⟨s.sessions.set i session, s.seen ++ written⟩

/-- What the attacker can derive: it starts with the texts `W` and sees the rest. -/
def State.Knows (W : Set ℕ) (s : State) : Term → Prop :=
  Derives {t | t ∈ s.seen ∨ ∃ n ∈ W, t = .text n}

/-- The terms an event brings from the network. -/
def Event.terms : Event → List Term
  | .hello frame => helloTerms frame
  | .chat frame => chatTerms frame
  | _ => []

/-- The attacker delivers only what it can derive. -/
def Label.Allowed (W : Set ℕ) (s : State) : Label → Prop
  | .event _ e => ∀ t ∈ e.terms, s.Knows W t
  | _ => True

/-- The sessions of both programs over a network that belongs to the attacker, who can guess the
texts `W`. -/
def system (W : Set ℕ) : Lts State Label where
  init s := s = ⟨[], []⟩
  step s a t := a.Allowed W s ∧ s.next a = some t

/-! ## Playing a run

Whether a term can be derived is not decided here. `synth` is the part of `Derives` that builds
terms up, which is what a concrete attack needs, and `State.play` runs a list of labels whose
deliveries it accounts for. -/

/-- A term the attacker can build from what it has seen with its own keys. -/
def synth (seen : List Term) (t : Term) : Bool :=
  t ∈ seen || match t with
    | .nonce _ => true
    | .signKey k | .verKey k | .scalar k => !k.isHonest
    | .digest t | .tag t => synth seen t
    | .signature k t => !k.isHonest && synth seen t
    | .cipher k n p => synth seen k && synth seen n && synth seen p
    | _ => false

/-- The state a list of labels leads to. -/
def State.play (s : State) : List Label → Option State
  | [] => some s
  | .event i e :: ls =>
      if e.terms.all (synth s.seen) then (s.next (.event i e)).bind fun t => t.play ls else none
  | a :: ls => (s.next a).bind fun t => t.play ls

/-- What the attacker can put together it can derive. -/
theorem synth_derives {K : Set Term} {seen : List Term} (hK : ∀ t ∈ seen, t ∈ K) {t : Term}
    (h : synth seen t = true) : Derives K t := by
  have hsign {k : Key} (hk : k.isHonest = false) : Derives K (.signKey k) := by
    cases k with
    | honest n => simp [Key.isHonest] at hk
    | attacker n => exact .signKey n
  induction t with
  | nonce n => exact .nonce n
  | text n => exact .known (hK _ (by simpa [synth] using h))
  | point m => exact .known (hK _ (by simpa [synth] using h))
  | shared k t => exact .known (hK _ (by simpa [synth] using h))
  | signKey k =>
      rcases (by simpa [synth] using h : _ ∨ _) with h | h
      · exact .known (hK _ h)
      · exact hsign h
  | verKey k =>
      rcases (by simpa [synth] using h : _ ∨ _) with h | h
      · exact .known (hK _ h)
      · exact .verKey (hsign h)
  | scalar k =>
      rcases (by simpa [synth] using h : _ ∨ _) with h | h
      · exact .known (hK _ h)
      · cases k with
        | honest n => simp [Key.isHonest] at h
        | attacker n => exact .scalar n
  | digest t ih =>
      rcases (by simpa [synth] using h : _ ∨ _) with h | h
      · exact .known (hK _ h)
      · exact .digest (ih h)
  | tag t ih =>
      rcases (by simpa [synth] using h : _ ∨ _) with h | h
      · exact .known (hK _ h)
      · exact .tag (ih h)
  | signature k t ih =>
      rcases (by simpa [synth] using h : _ ∨ _) with h | ⟨hk, h⟩
      · exact .known (hK _ h)
      · exact .sign (hsign hk) (ih h)
  | cipher k n p ihk ihn ihp =>
      rcases (by simpa [synth] using h : _ ∨ _) with h | ⟨⟨hk, hn⟩, hp⟩
      · exact .known (hK _ h)
      · exact .encrypt (ihk hk) (ihn hn) (ihp hp)

/-- What `play` runs is a run of the system. -/
theorem State.play_run {W : Set ℕ} {s t : State} {ls : List Label} (h : s.play ls = some t) :
    (system W).Run s ls t := by
  induction ls generalizing s with
  | nil =>
      obtain rfl := Option.some.inj h
      exact .nil s
  | cons a ls ih =>
      cases a with
      | event i e =>
          rw [State.play, Option.ite_none_right_eq_some, Option.bind_eq_some_iff] at h
          obtain ⟨hall, u, hnext, hu⟩ := h
          refine .cons ⟨fun v hv => ?_, hnext⟩ (ih hu)
          exact synth_derives (fun w hw => Or.inl hw) (List.all_eq_true.1 hall v hv)
      | host program displayName =>
          obtain ⟨u, hnext, hu⟩ := Option.bind_eq_some_iff.1 h
          exact .cons ⟨trivial, hnext⟩ (ih hu)
      | join program displayName expected =>
          obtain ⟨u, hnext, hu⟩ := Option.bind_eq_some_iff.1 h
          exact .cons ⟨trivial, hnext⟩ (ih hu)

/-- The state a list of labels leads to from the beginning. -/
def played (ls : List Label) : State := (State.play ⟨[], []⟩ ls).getD ⟨[], []⟩

/-- What is played is reachable. -/
theorem played_reachable (W : Set ℕ) (ls : List Label) : (system W).Reachable (played ls) := by
  unfold played
  cases h : State.play ⟨[], []⟩ ls with
  | none => exact .of_init rfl
  | some s => exact ⟨⟨[], []⟩, ls, rfl, State.play_run h⟩

end Fauna.Symbolic
