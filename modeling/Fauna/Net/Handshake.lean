import Fauna.Net.Flow
import Fauna.Net.Progress

/-!
# The handshake over a reliable stream

Two parties of either program, joined by a stream that is not cut, where the joiner uses the invite
the host encoded. `Link.Healthy` is what every run keeps: a party is either still on its way
through the handshake or has accepted the other's hello and is reading chat frames. So no line is
ever refused, and when the threads come to rest both hellos have been accepted
(`Link.Healthy.quiescent`).

* `handshake_completes`: in every interleaving and chunking the handshake ends with both hellos
  unchanged and accepted and with one key.
-/

namespace Fauna.Net

open Fauna.Lib Fauna.Core Fauna.Wire

variable {C : Crates} {J : SerdeJson} {config : Side → Config C}

variable (J) in
/-- The joiner uses the invite that the host encoded. -/
structure Invited (config : Side → Config C) : Prop where
  host : (config .host).expected = none
  joiner : ∃ address text invite,
    inviteEncode C J ((Invite.new (config .host).identity (config .host).displayName).withAddress
      address) = .ok text ∧
    inviteDecode C J text = .ok invite ∧ (config .joiner).expected = some invite.publicKey

/-- The step leaves the connection and the processes up. -/
def Move.reliable : Move C → Prop
  | .act _ .exit => False
  | .act _ _ => True
  | .sever _ _ => False

variable (J) in
/-- Two parties that have just been connected, over a reliable stream. -/
def reliableNetwork (config : Side → Config C) : Lts (Link C) (Move C) :=
  (network J config .starting).restrict fun _ move => move.reliable

/-- Still on the way to the remote hello. -/
def Session.Greeting (s : Session C) : Prop :=
  (s.main = .starting ∨ ∃ buffer, s.main = .awaitingHello buffer) ∧ s.peer = none

/-- The remote hello is accepted and the receive loop reads on. -/
def Session.Established (s : Session C) : Prop :=
  ∃ peer key buffer, s.peer = some peer ∧ s.receiver = .looping key buffer

variable (J) in
/-- What the two parties of a reliable stream keep. -/
structure Link.Healthy (config : Side → Config C) (link : Link C) : Prop where
  sound : link.Sound J
  config_eq : ∀ side, (link.session side).config = config side
  uncut : ∀ side, link.cut side = false
  stage : ∀ side, (link.session side).Greeting ∨ (link.session side).Established

/-! ## Both parties accept -/

/-- A party expects the other one or nobody in particular. -/
theorem Invited.expects (h : Invited J config) (side : Side) :
    ∀ e, (config side).expected = some e → e = (config side.other).identity.publicKeyBase64 := by
  intro e he
  cases side with
  | host => cases h.host.symm.trans he
  | joiner =>
      obtain ⟨address, text, invite, hencode, hdecode, hexpected⟩ := h.joiner
      obtain rfl := Except.ok.inj (hdecode.symm.trans (inviteDecode_encode C hencode))
      rw [hexpected] at he
      exact (Option.some.inj he).symm

/-- A party accepts the hello the other one wrote. -/
theorem Invited.greet_eq_ok (h : Invited J config) (side : Side) :
    ∃ key, greet J (config side).program (config side).exchange (config side).expected
      (jsonLine J (helloRecord (config side.other).hello)) =
        .ok ((config side.other).hello, key) := by
  have hback := h.expects side.other
  rw [Side.other_other] at hback
  obtain ⟨key, hkey, -⟩ := establish_createHello C.lawful (config side).program
    (config side.other).program (config side).identity (config side.other).identity
    (config side).displayName (config side.other).displayName (config side).exchange
    (config side.other).exchange (h.expects side) hback
  exact ⟨key, Wire.greet_eq_ok.2 ⟨readHello_jsonLine _ _, hkey⟩⟩

/-- Over a stream that nothing is lost from, a whole line is the record the writer wrote next: its
hello, or a frame sealed under the key of its session. -/
theorem Flow.whole_line {w r : Session C} {wire : Bytes} {cut : Bool} (h : Flow J w r wire cut)
    (hw : w.Well) (hr : r.Well) {buffer line rest : Bytes} (hreading : r.reading = some buffer)
    (hline : takeLine buffer = some (line, rest)) :
    (r.peer = none → line = jsonLine J (helloRecord w.config.hello)) ∧
      ∀ peer, r.peer = some peer → ∃ body frame hello key nonce, w.peer = some (hello, key) ∧
        sealChat key nonce body = .ok frame ∧ line = jsonLine J (chatRecord frame) := by
  obtain ⟨lost, hstream, -⟩ := h.stream buffer (hr.inbox_of_reading hreading)
  obtain ⟨record, more, hrecords, rfl, -⟩ := whole_record hstream hline
  refine ⟨?_, ?_⟩
  · intro hpeer
    rw [Session.used, hpeer, (hr.quiet hpeer).2] at hrecords
    rcases hw.history with ⟨hnil, -⟩ | hwritten
    · rw [hnil] at hrecords
      cases hrecords
    · obtain ⟨rfl, -⟩ := List.cons.inj (hrecords.symm.trans hwritten)
      rfl
  · intro peer hpeer
    rw [Session.used, hpeer] at hrecords
    obtain ⟨m, hm, rfl, -⟩ := hw.drop_written (h.peer peer.1 peer.2 hpeer).2 hrecords
    obtain ⟨hello, key, nonce, hwpeer, hseal⟩ :=
      hw.sealed_sent m (List.mem_of_mem_drop (hm ▸ List.mem_cons_self))
    exact ⟨m.1, m.2, hello, key, nonce, hwpeer, hseal, rfl⟩

/-! ## The invariant -/

/-- A party that has not failed holds its end of the socket. -/
theorem Session.open_of_stage {s : Session C} (hw : s.Well)
    (h : s.Greeting ∨ s.Established) : s.closed = false := by
  unfold Session.closed
  rcases h with ⟨hmain, -⟩ | ⟨peer, key, buffer, hpeer, hreceiver⟩
  · have hlive : s.live = true := by
      rcases hmain with hm | ⟨buffer, hm⟩ <;> simp [Session.live, hm]
    rw [hlive]
    rfl
  · rw [(hw.inbox_of_peer hpeer rfl).2, hreceiver]
    simp [Receiver.buffer]

/-- No stream has ended between healthy parties. -/
theorem Link.Healthy.not_ended {link : Link C} (h : link.Healthy J config) (side : Side) :
    link.ended side = false := by
  rw [Link.ended, h.uncut, Session.open_of_stage (h.sound.well side) (h.stage side)]
  rfl

/-- No call on the socket of a healthy party fails. -/
theorem Link.Healthy.not_broken {link : Link C} (h : link.Healthy J config) (side : Side) :
    link.broken side = false := by
  rw [Link.broken, h.uncut, h.not_ended]
  rfl

/-- A step keeps the stage of a party that takes no line it refuses, as long as its process and
its calls on the socket do not fail. -/
theorem Session.stage_of_change {s s' : Session C} {l : Label C} {bytes : Bytes} (hw : s.Well)
    (hstage : s.Greeting ∨ s.Established) (hc : Change J s l s' bytes) (hexit : l ≠ .exit)
    (hcalls : l.fails = false ∧ l ≠ .readEnd ∧ ∀ message, l ≠ .failRead message)
    (hlines : ∀ buffer line rest, s.reading = some buffer → takeLine buffer = some (line, rest) →
      (s.peer = none → ∃ accepted, greet J s.config.program s.config.exchange s.config.expected
        line = .ok accepted) ∧
      ∀ hello key, s.peer = some (hello, key) → ∃ body,
        receiveOnce J s.config.program key line = .ok body) :
    s'.Greeting ∨ s'.Established := by
  -- a step of a thread that is past the handshake leaves the receive thread alone
  have hlater {t : Session C} (hmain : s.main ≠ .starting ∧ ∀ b, s.main ≠ .awaitingHello b)
      (hpeer : t.peer = s.peer) (hreceiver : t.receiver = s.receiver) :
      t.Greeting ∨ t.Established := by
    rcases hstage with ⟨hm | ⟨b, hm⟩, -⟩ | ⟨peer, key, buffer, hsome, hlooping⟩
    · exact absurd hm hmain.1
    · exact absurd hm (hmain.2 b)
    · exact Or.inr ⟨peer, key, buffer, hpeer.trans hsome, hreceiver.trans hlooping⟩
  have hsame {t : Session C} (hmain : t.main = s.main) (hpeer : t.peer = s.peer)
      (hreceiver : t.receiver = s.receiver) : t.Greeting ∨ t.Established := by
    unfold Session.Greeting Session.Established
    rw [hmain, hpeer, hreceiver]
    exact hstage
  have hsending {key : SessionKey C.primitives} (hmain : s.main = .sending key) :
      s.main ≠ .starting ∧ ∀ b, s.main ≠ .awaitingHello b := by
    rw [hmain]
    exact ⟨nofun, nofun⟩
  have hpreparing (hmain : s.main = .preparing) : False := by
    rcases hstage with ⟨hm | ⟨b, hm⟩, -⟩ | ⟨peer, key, buffer, hsome, -⟩
    · cases hmain.symm.trans hm
    · cases hmain.symm.trans hm
    · exact (hw.main_of_peer hsome).1 hmain
  cases hc with
  | exited => exact absurd rfl hexit
  | ungreeted | unsent => cases hcalls.1
  | readLast => exact absurd rfl hcalls.2.1
  | unread => exact absurd rfl (hcalls.2.2 _)
  | announced hmain | connected hmain | unconnected hmain => exact (hpreparing hmain).elim
  | typed | closed | skipped | wrote => exact hsame rfl rfl rfl
  | lostInput _ hmain | finished hmain => exact hlater (hsending hmain) rfl rfl
  | @unsealed _ _ _ _ fault hmain =>
      cases fault <;> exact hlater (hsending hmain) rfl rfl
  | concluded hmain =>
      refine hlater ⟨fun h => ?_, fun b h => ?_⟩ rfl rfl
      · cases hmain.symm.trans h
      · cases hmain.symm.trans h
  | greeted hmain =>
      exact Or.inl ⟨Or.inr ⟨[], rfl⟩, (hw.early (Or.inr hmain)).2⟩
  | stopped hreceiver =>
      rcases hstage with hgreeting | ⟨peer, key, buffer, -, hlooping⟩
      · exact Or.inl hgreeting
      · cases hreceiver.symm.trans hlooping
  | @filled buffer more hreading =>
      unfold Session.refill
      split
      · next hmain => exact Or.inl ⟨Or.inr ⟨_, rfl⟩, (hw.awaiting _ hmain).2⟩
      · next key b hreceiver _ =>
        obtain ⟨hello, hpeer⟩ := hw.looping key b hreceiver
        exact Or.inr ⟨_, key, _, hpeer, rfl⟩
      · exact hstage
  | @read buffer line rest hreading hline =>
      obtain ⟨hgreets, hopens⟩ := hlines buffer line rest hreading hline
      have htaken := Taken.of_onLine (J := J) hreading line rest
      generalize s.onLine J line rest = t at htaken
      cases htaken with
      | accepted => exact Or.inr ⟨_, _, _, rfl, rfl⟩
      | refused hmain hgreet =>
          obtain ⟨accepted, haccepted⟩ := hgreets (hw.awaiting _ hmain).2
          cases hgreet.symm.trans haccepted
      | reported hmain hreceiver hbody =>
          obtain ⟨hello, hpeer⟩ := hw.looping _ _ hreceiver
          exact Or.inr ⟨_, _, _, hpeer, rfl⟩
      | broken hmain hreceiver hbody =>
          obtain ⟨hello, hpeer⟩ := hw.looping _ _ hreceiver
          obtain ⟨body, hok⟩ := hopens hello _ hpeer
          cases hbody.symm.trans hok

/-- Two parties that have just been connected are healthy. -/
theorem Link.Healthy.new (config : Side → Config C) :
    (Link.new config .starting).Healthy J config :=
  ⟨.new config (Or.inr rfl), fun _ => rfl, fun _ => rfl, fun _ => Or.inl ⟨Or.inl rfl, rfl⟩⟩

/-- A party that takes a whole line accepts it. -/
theorem Link.Healthy.accepts (hinvited : Invited J config) {link : Link C}
    (h : link.Healthy J config) (side : Side) {buffer line rest : Bytes}
    (hreading : (link.session side).reading = some buffer)
    (hline : takeLine buffer = some (line, rest)) :
    ((link.session side).peer = none → ∃ accepted,
      greet J (link.session side).config.program (link.session side).config.exchange
        (link.session side).config.expected line = .ok accepted) ∧
    ∀ hello key, (link.session side).peer = some (hello, key) → ∃ body,
      receiveOnce J (link.session side).config.program key line = .ok body := by
  have hflow := h.sound.flow side.other
  have hback := h.sound.flow side
  rw [Side.other_other] at hflow
  obtain ⟨hfirst, hnext⟩ :=
    hflow.whole_line (h.sound.well _) (h.sound.well _) hreading hline
  refine ⟨?_, ?_⟩
  · intro hpeer
    obtain ⟨key, hkey⟩ := hinvited.greet_eq_ok side
    rw [hfirst hpeer, h.config_eq, h.config_eq]
    exact ⟨_, hkey⟩
  · intro hello key hpeer
    obtain ⟨body, frame, hello', key', nonce, hpeer', hseal, rfl⟩ := hnext _ hpeer
    obtain ⟨rfl, -⟩ := hflow.peer _ _ hpeer
    obtain ⟨rfl, -⟩ := hback.peer _ _ hpeer'
    obtain rfl := same_key (h.sound.well _) (h.sound.well _) hpeer hpeer'
    exact ⟨body, receiveOnce_jsonLine hseal⟩

/-- A reliable step keeps both parties healthy. -/
theorem Link.Healthy.step (hinvited : Invited J config) {link link' : Link C} {move : Move C}
    (h : link.Healthy J config) (hreliable : move.reliable)
    (hstep : link.step J move = some link') : link'.Healthy J config := by
  have hsound := h.sound.step hstep
  cases move with
  | sever side count => cases hreliable
  | act side label =>
      obtain ⟨hallows, session, bytes, hchange, rfl⟩ := Link.step_act hstep
      have hended := h.not_ended side.other
      have hbroken := h.not_broken side
      -- no call on the socket can fail
      have hcalls : label.fails = false ∧ label ≠ .readEnd ∧
          ∀ message, label ≠ .failRead message := by
        refine ⟨?_, ?_, ?_⟩
        · cases label with
          | failHello | failSend => cases hbroken.symm.trans hallows
          | _ => rfl
        · rintro rfl
          cases hended.symm.trans hallows.2
        · rintro message rfl
          cases hbroken.symm.trans hallows
      have hexit : label ≠ .exit := by
        rintro rfl
        exact hreliable
      refine ⟨hsound, ?_, ?_, ?_⟩
      · intro t
        rcases side.eq_or_eq_other t with rfl | rfl
        · rw [Link.after_session_self, hchange.writes.1, h.config_eq]
        · rw [Link.after_session_other, h.config_eq]
      · intro t
        rcases side.eq_or_eq_other t with rfl | rfl
        · rw [Link.after_cut_self, h.uncut, hcalls.1]
          rfl
        · rw [Link.after_cut_other, h.uncut]
      · intro t
        rcases side.eq_or_eq_other t with rfl | rfl
        · rw [Link.after_session_self]
          exact Session.stage_of_change (h.sound.well t) (h.stage t) hchange hexit hcalls
            fun _ _ _ hreading hline => h.accepts hinvited t hreading hline
        · rw [Link.after_session_other]
          exact h.stage _

/-- Both parties are healthy in every state a reliable stream can be in. -/
theorem Link.Healthy.of_reachable (hinvited : Invited J config) {link : Link C}
    (h : (reliableNetwork J config).Reachable link) : link.Healthy J config := by
  refine h.invariant ?_ fun link move link' hhealthy hstep => hhealthy.step hinvited hstep.1 hstep.2
  rintro link rfl
  exact .new config

/-! ## Where the threads come to rest -/

/-- The threads do not cut a connection or end a process. -/
theorem Move.reliable_of_internal {move : Move C} (h : move.internal) : move.reliable := by
  cases move with
  | sever side count => exact h
  | act side label =>
      cases label with
      | exit => cases h
      | _ => trivial

/-- A party that waits for the other's hello can go on, or the other one can. -/
theorem Link.Healthy.quiescent {link : Link C} (h : link.Healthy J config)
    (hquiet : (network J config .starting).Quiescent Move.internal link) (side : Side) :
    (link.session side).Established := by
  have hstarted (t : Side) : (link.session t).main ≠ .starting := by
    intro hmain
    have hnone := Link.react_eq_none hquiet t .writeHello rfl trivial
    simp [Session.react, hmain] at hnone
  rcases h.stage side with ⟨hmain, hpeer⟩ | hdone
  · obtain ⟨buffer, hmain⟩ := hmain.resolve_left (hstarted side)
    have hwell := h.sound.well side
    have hreading : (link.session side).reading = some buffer := by
      unfold Session.reading
      rw [hmain]
    obtain ⟨hline, hwire⟩ := Link.drained hquiet hreading
    -- the other party has written its hello, and nothing of it is left to come
    obtain ⟨records, hwritten⟩ : ∃ records, (link.session side.other).written =
        helloRecord (link.session side.other).config.hello :: records := by
      have hother := h.sound.well side.other
      rcases hother.history with ⟨hnil, -⟩ | hwritten
      · exfalso
        rcases h.stage side.other with ⟨hm, -⟩ | ⟨peer, key, b, hsome, -⟩
        · obtain ⟨b, hb⟩ := hm.resolve_left (hstarted _)
          exact (hother.awaiting b hb).1 hnil
        · exact (hother.agreed peer.1 peer.2 hsome).1 hnil
      · exact ⟨_, hwritten⟩
    have hflow := h.sound.flow side.other
    rw [Side.other_other] at hflow
    obtain ⟨lost, hstream, hlost⟩ := hflow.stream buffer (hwell.inbox_of_reading hreading)
    rw [hlost (h.uncut _), hwire, Session.used, hpeer, (hwell.quiet hpeer).2, hwritten] at hstream
    obtain ⟨body, -, hbody⟩ :=
      jsonLine_line (J := J) (helloRecord (link.session side.other).config.hello)
    rw [takeLine_eq_none_iff] at hline
    have hbuffer : buffer = jsonLine J (helloRecord (link.session side.other).config.hello) ++
        output J records := by simpa using hstream
    rw [hbuffer, hbody] at hline
    exact absurd (by simp) hline
  · exact hdone

/-- In every interleaving of the two parties and every chunking of the streams: a hello that a
party accepts is the other's own, unchanged, and passes `verify_hello`; two parties that have
accepted hold one key; a party that has not accepted yet is still on its way to the hello, so none
is refused; and the threads, left alone, come to rest, which they only do when both parties have
accepted. -/
theorem handshake_completes (hinvited : Invited J config) {link : Link C}
    (h : (reliableNetwork J config).Reachable link) :
    (∀ side hello key, (link.session side).peer = some (hello, key) →
      hello = (config side.other).hello ∧
        (config side).program.verifyHello C.primitives hello (config side).expected = .ok ()) ∧
    (∀ hello key hello' key', (link.session .host).peer = some (hello, key) →
      (link.session .joiner).peer = some (hello', key') → key = key') ∧
    (∀ side, (link.session side).peer = none → (link.session side).main = .starting ∨
      ∃ buffer, (link.session side).main = .awaitingHello buffer) ∧
    Acc ((network J config .starting).Internal Move.internal) link ∧
    ∀ moves link', (∀ move ∈ moves, move.internal) →
      (network J config .starting).Run link moves link' →
      (network J config .starting).Quiescent Move.internal link' →
      ∀ side, ((link'.session side).peer).isSome = true := by
  have hhealthy := Link.Healthy.of_reachable hinvited h
  have hhello (side : Side) (hello : HelloFrame Text) (key : SessionKey C.primitives)
      (hpeer : (link.session side).peer = some (hello, key)) :
      hello = (config side.other).hello := by
    have hflow := hhealthy.sound.flow side.other
    rw [Side.other_other] at hflow
    rw [(hflow.peer hello key hpeer).1, hhealthy.config_eq]
  refine ⟨fun side hello key hpeer => ⟨hhello side hello key hpeer, ?_⟩, ?_, ?_, ?_, ?_⟩
  · have hagreed := ((hhealthy.sound.well side).agreed hello key hpeer).2
    rw [hhealthy.config_eq] at hagreed
    exact (establish_eq_ok.1 hagreed).1
  · intro hello key hello' key' hpeer hpeer'
    have hhost := hhello .host hello key hpeer
    have hjoiner := hhello .joiner hello' key' hpeer'
    refine same_key (hhealthy.sound.well .host) (hhealthy.sound.well .joiner) ?_ ?_
    · rw [hhealthy.config_eq, hpeer', hjoiner]
      rfl
    · rw [hhealthy.config_eq, hpeer, hhost]
      rfl
  · intro side hpeer
    rcases hhealthy.stage side with hgreeting | ⟨peer, key, buffer, hsome, -⟩
    · exact hgreeting.1
    · cases hpeer.symm.trans hsome
  · exact internal_acc config .starting link
  · intro moves link' hinternal hrun hquiet side
    have hrun' : (reliableNetwork J config).Run link moves link' :=
      hrun.to_restrict fun move hmove => Move.reliable_of_internal (hinternal move hmove)
    obtain ⟨peer, -, -, hpeer, -⟩ :=
      (Link.Healthy.of_reachable hinvited (h.run hrun')).quiescent hquiet side
    rw [hpeer]
    rfl

/-- A host and a joiner of the transparent crates that uses the host's invite, each with its
program and its display name. -/
def transparentPair (program : Side → Program) (displayName : Side → Text) (side : Side) :
    Config Crates.transparent where
  program := program side
  identity := transparentIdentity
  displayName := displayName side
  expected := match side with
    | .host => none
    | .joiner => some transparentIdentity.publicKeyBase64
  exchange := transparentExchange

/-- The joiner of the pair uses the host's invite. -/
theorem transparentPair_invited (program : Side → Program) (displayName : Side → Text) :
    Invited SerdeJson.records (transparentPair program displayName) :=
  ⟨rfl, [], _, _, rfl, inviteDecode_encode _ rfl, rfl⟩

/-- A desktop host and a CLI joiner, with display names that quote and break lines. -/
def mixedPair : Side → Config Crates.transparent :=
  transparentPair (fun | .host => .desktop | .joiner => .cli)
    fun | .host => "nonce\n".toList | .joiner => "\"ciphertext".toList

/-- A desktop and a CLI reach a state in which both have accepted. -/
theorem handshake_completes_across_programs :
    ∃ moves link, (network SerdeJson.records mixedPair .starting).Run
      (Link.new mixedPair .starting) moves link ∧
        ∀ side, ((link.session side).peer).isSome = true := by
  obtain ⟨-, -, -, hends, hrest⟩ :=
    handshake_completes (transparentPair_invited _ _ : Invited SerdeJson.records mixedPair)
      (.of_init rfl)
  obtain ⟨moves, link, hinternal, hrun, hquiet⟩ := Lts.exists_quiescent hends
  exact ⟨moves, link, hrun, hrest moves link hinternal hrun hquiet⟩

end Fauna.Net
