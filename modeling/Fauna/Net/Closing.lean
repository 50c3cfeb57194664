import Fauna.Net.Handshake

/-!
# How a session ends

A peer sees the end of the stream only when every clone of the socket is gone. A send loop that
ends drops its writer; the reader stays with the receive loop, which ends only when the other
party's stream does. So a session ends from the side on which nothing is left
(`closing_ends_the_session`), and two send loops that have both ended leave two receive loops that
wait for each other (`two_inputs_closed`).
-/

namespace Fauna.Net

open Fauna.Lib Fauna.Core Fauna.Wire

variable {C : Crates} {J : SerdeJson} {config : Side → Config C}

/-- The send loop of a session has ended. -/
def Session.sendEnded (s : Session C) : Prop := s.peer.isSome = true ∧ s.live = false

/-! ## The end of the stream -/

/-- At rest, nobody reads a stream that has ended. -/
theorem Link.reading_of_ended {main : Main C} {link : Link C}
    (hquiet : (network J config main).Quiescent Move.internal link) {side : Side}
    (hended : link.ended side = true) : (link.session side.other).reading = none := by
  by_contra hne
  obtain ⟨buffer, hreading⟩ := Option.ne_none_iff_exists'.1 hne
  obtain ⟨hline, hwire⟩ := Link.drained hquiet hreading
  rw [Side.other_other] at hwire
  have hnone := Link.react_eq_none hquiet side.other .readEnd rfl
    (by rw [Link.allows, Side.other_other]; exact ⟨hwire, hended⟩)
  simp [Session.react, hreading, hline] at hnone

/-- At rest, a receive loop that has returned is over. -/
theorem Link.receiver_running {main : Main C} {link : Link C}
    (hquiet : (network J config main).Quiescent Move.internal link) {side : Side}
    (hreading : (link.session side).reading = none) :
    (link.session side).receiver.running = false := by
  cases hreceiver : (link.session side).receiver with
  | unspawned | ended => rfl
  | looping key buffer =>
      unfold Session.reading at hreading
      split at hreading
      · cases hreading
      · rw [hreceiver] at hreading
        cases hreading
  | returned fault =>
      have hnone := Link.react_eq_none hquiet side .finishReceiver rfl trivial
      simp [Session.react, hreceiver] at hnone

/-- In every quiescent state that can be reached: when one party holds no clone of the socket any
more, the other one's receive loop has returned, and it waits for no hello either. A send loop that
ends by itself closes nothing: where no process ends and the network cuts nothing, every receive
loop that was started reads on. -/
theorem closing_ends_the_session (config : Side → Config C) :
    (∀ link, (network J config .starting).Reachable link →
      (network J config .starting).Quiescent Move.internal link →
      ∀ side, (link.session side).closed = true →
        (link.session side.other).reading = none ∧
          (link.session side.other).receiver.running = false) ∧
    (Invited J config → ∀ link, (reliableNetwork J config).Reachable link →
      ∀ side, ((link.session side).peer).isSome = true →
        ∃ key buffer, (link.session side).receiver = .looping key buffer) := by
  refine ⟨?_, ?_⟩
  · intro link _ hquiet side hclosed
    have hended : link.ended side = true := by rw [Link.ended, hclosed, Bool.or_true]
    have hreading := Link.reading_of_ended hquiet hended
    exact ⟨hreading, Link.receiver_running hquiet hreading⟩
  · intro hinvited link hreachable side hpeer
    rcases (Link.Healthy.of_reachable hinvited hreachable).stage side with ⟨-, hnone⟩ | hdone
    · rw [hnone] at hpeer
      cases hpeer
    · obtain ⟨peer, key, buffer, -, hreceiver⟩ := hdone
      exact ⟨key, buffer, hreceiver⟩

/-- A session whose threads have ended does nothing by itself. -/
theorem Session.react_of_ended {s : Session C} (hmain : s.main = .ended)
    (hreceiver : s.receiver = .ended ∨ s.receiver = .unspawned) {label : Label C}
    (hinternal : label.external = false) : s.react J label = none := by
  have hreading : s.reading = none := by
    rcases hreceiver with h | h <;> simp [Session.reading, hmain, h, Receiver.buffer]
  cases label with
  | submit | closeInput | exit | failInput | announce | connect | failConnect => cases hinternal
  | fill | readLine | readEnd | failRead => simp [Session.react, hreading]
  | finishReceiver => rcases hreceiver with h | h <;> simp [Session.react, h]
  | writeHello | failHello | sendNext | failSend | finishInput | finishMain =>
      simp [Session.react, hmain]

/-- Where the threads go, an ended session stays as it is. -/
theorem Link.session_of_ended {main : Main C} {link link' : Link C} {moves : List (Move C)}
    {side : Side} (hinternal : ∀ move ∈ moves, move.internal)
    (hrun : (network J config main).Run link moves link')
    (hmain : (link.session side).main = .ended) (hreceiver : (link.session side).receiver = .ended) :
    link'.session side = link.session side := by
  have hstep (s : Link C) (move : Move C) (t : Link C) (hs : s.session side = link.session side)
      (h : ((network J config main).restrict fun _ move => move.internal).step s move t) :
      t.session side = link.session side := by
    obtain ⟨hmove, h⟩ := h
    cases move with
    | sever t count => cases hmove
    | act t label =>
        have hact : s.step J (.act t label) = some _ := h
        rw [Link.step, Option.ite_none_right_eq_some] at hact
        obtain ⟨-, hact⟩ := hact
        obtain ⟨⟨session, bytes⟩, hreact, rfl⟩ := Option.map_eq_some_iff.1 hact
        rcases t.eq_or_eq_other side with rfl | rfl
        · rw [hs, Session.react_of_ended hmain (Or.inl hreceiver) hmove] at hreact
          cases hreact
        · rw [Link.after_session_other, hs]
  exact (hrun.to_restrict hinternal).invariant hstep rfl

/-- The process of a host that has a session ends, and the threads go on until they rest. -/
theorem closing_ends_the_session_after_exit : ∃ link moves link',
    (∀ side, ((link.session side).peer).isSome ∧ (link.session side).receiver.running) ∧
    (network SerdeJson.records mixedPair .starting).Run link (.act .host .exit :: moves) link' ∧
    (link'.session .joiner).reading = none ∧
    (link'.session .joiner).receiver.running = false := by
  have hends := internal_acc (J := SerdeJson.records) mixedPair .starting
  obtain ⟨greeting, link, hinternal, hgreets, hquiet⟩ :=
    Lts.exists_quiescent (hends (Link.new mixedPair .starting))
  have hmet : (network SerdeJson.records mixedPair .starting).Reachable link :=
    ⟨_, greeting, rfl, hgreets⟩
  have hhealthy : link.Healthy SerdeJson.records mixedPair :=
    .of_reachable (transparentPair_invited _ _) ⟨_, greeting, rfl, hgreets.to_restrict fun move hmove =>
      Move.reliable_of_internal (hinternal move hmove)⟩
  -- the host's process ends, and stays as it is
  obtain ⟨left, hexit, hmain, hreceiver⟩ : ∃ left,
      link.step SerdeJson.records (.act .host .exit) = some left ∧
        (left.session .host).main = .ended ∧ (left.session .host).receiver = .ended :=
    ⟨_, Link.step_of_react trivial rfl, rfl, rfl⟩
  obtain ⟨moves, link', hinternal', hrun, hquiet'⟩ := Lts.exists_quiescent (hends left)
  have hhost := Link.session_of_ended hinternal' hrun hmain hreceiver
  have hclosed : (link'.session .host).closed = true := by
    rw [hhost, Session.closed, Session.live, Session.reading, hmain, hreceiver]
    rfl
  obtain ⟨hreading, hrunning⟩ := (closing_ends_the_session mixedPair).1 link'
    ((hmet.step hexit).run hrun) hquiet' .host hclosed
  refine ⟨link, moves, link', fun side => ?_, .cons hexit hrun, hreading, hrunning⟩
  obtain ⟨peer, key, buffer, hpeer, hlooping⟩ := hhealthy.quiescent hquiet side
  rw [hpeer, hlooping]
  exact ⟨rfl, rfl⟩

/-! ## Two send loops that have ended -/

/-- An input that is closed stays closed. -/
theorem Change.inputOpen {s s' : Session C} {l : Label C} {bytes : Bytes}
    (h : Change J s l s' bytes) (hclosed : s.inputOpen = false) : s'.inputOpen = false := by
  have hmoved {t : Session C} (ht : s.Moved t) : t.inputOpen = false := by
    obtain ⟨main, receiver, queue, rfl⟩ := ht
    exact hclosed
  have htaken {t : Session C} {line rest : Bytes} (ht : Taken J s line rest t) :
      t.inputOpen = false := by
    cases ht with
    | refused => exact hmoved (s.fail_moved _)
    | accepted | reported | broken => exact hclosed
  cases h with
  | closed | exited => rfl
  | unsealed => exact hmoved (s.fail_moved _)
  | filled => exact hmoved (s.refill_moved _)
  | unread => exact hmoved (s.readFails_moved _)
  | read hreading | readLast hreading => exact htaken (.of_onLine hreading _ _)
  | typed | lostInput | announced | connected | unconnected | greeted | ungreeted | skipped |
    wrote | unsent | finished | concluded | stopped => exact hclosed

/-- An input that has ended stays so. -/
theorem Link.inputs_closed {link link' : Link C} {move : Move C}
    (hstep : link.step J move = some link')
    (h : ∀ side, (link.session side).inputOpen = false) (side : Side) :
    (link'.session side).inputOpen = false := by
  rcases Link.session_step hstep side with hsame | ⟨label, bytes, -, hchange⟩
  · rw [hsame]
    exact h side
  · exact hchange.inputOpen (h side)

/-- With its input closed, a send loop comes to its end. -/
theorem Link.Healthy.send_loop_ends {link : Link C} (h : link.Healthy J config)
    (hquiet : (network J config .starting).Quiescent Move.internal link) {side : Side}
    (hinput : (link.session side).inputOpen = false) : (link.session side).sendEnded := by
  obtain ⟨peer, key, buffer, hpeer, -⟩ := h.quiescent hquiet side
  have hmain := (h.sound.well side).main_of_peer hpeer
  refine ⟨by rw [hpeer]; rfl, ?_⟩
  unfold Session.live
  cases hm : (link.session side).main with
  | preparing => exact absurd hm hmain.1
  | starting => exact absurd hm hmain.2.1
  | awaitingHello b => exact absurd hm (hmain.2.2 b)
  | returned failure => rfl
  | ended => rfl
  | sending key' =>
      have hqueue := Link.queue_eq_nil hquiet hm
      have hnone := Link.react_eq_none hquiet side .finishInput rfl trivial
      simp [Session.react, hm, hqueue, hinput] at hnone

/-- Two users who close their input when the session begins: the threads come to rest with both
send loops ended and both receive loops reading. -/
theorem two_inputs_closed (hinvited : Invited J config) :
    ∃ link, (network J config .starting).Reachable link ∧
      (network J config .starting).Quiescent Move.internal link ∧
      ∀ side, link.wire side = [] ∧ (link.session side).sendEnded ∧
        (link.session side).receiver.running = true := by
  let link₁ := (Link.new config .starting).after .host .closeInput
    { Session.new (config .host) .starting with inputOpen := false } []
  let link₂ := link₁.after .joiner .closeInput
    { Session.new (config .joiner) .starting with inputOpen := false } []
  have hreachable : (reliableNetwork J config).Reachable link₂ :=
    ⟨_, [.act .host .closeInput, .act .joiner .closeInput], rfl,
      .cons ⟨trivial, Link.step_of_react trivial rfl⟩
        (.cons ⟨trivial, Link.step_of_react trivial rfl⟩ (.nil _))⟩
  have hclosed : ∀ side, (link₂.session side).inputOpen = false := by
    intro side
    cases side <;> rfl
  obtain ⟨moves, link, hinternal, hrun, hquiet⟩ :=
    Lts.exists_quiescent (internal_acc (J := J) config .starting link₂)
  have hreachable' : (reliableNetwork J config).Reachable link :=
    hreachable.run (hrun.to_restrict fun move hmove =>
      Move.reliable_of_internal (hinternal move hmove))
  have hhealthy := Link.Healthy.of_reachable hinvited hreachable'
  have hstep (s : Link C) (move : Move C) (t : Link C)
      (hs : ∀ side, (s.session side).inputOpen = false)
      (h : (network J config .starting).step s move t) : ∀ side, (t.session side).inputOpen = false :=
    Link.inputs_closed h hs
  have hinputs := hrun.invariant hstep hclosed
  refine ⟨link, hreachable'.of_restrict, hquiet, fun side => ⟨?_, ?_, ?_⟩⟩
  · obtain ⟨peer, key, buffer, hpeer, hreceiver⟩ := hhealthy.quiescent hquiet side.other
    have hreading : (link.session side.other).reading = some buffer := by
      rw [((hhealthy.sound.well _).inbox_of_peer hpeer rfl).2, hreceiver]
      rfl
    simpa using (Link.drained hquiet hreading).2
  · exact hhealthy.send_loop_ends hquiet (hinputs side)
  · obtain ⟨peer, key, buffer, -, hreceiver⟩ := hhealthy.quiescent hquiet side
    rw [hreceiver]
    rfl

/-- Two CLI users who both close stdin leave both processes in their receive loops. -/
theorem send_loop_ends_alone :
    ¬ ∀ (C : Crates) (J : SerdeJson) (config : Side → Config C) (link : Link C),
      (network J config .starting).Reachable link →
      (network J config .starting).Quiescent Move.internal link → (∀ side, link.wire side = []) →
      ∀ side, (link.session side).sendEnded →
        (link.session side.other).receiver.running = false := by
  intro h
  obtain ⟨link, hreachable, hquiet, hrest⟩ := two_inputs_closed
    (transparentPair_invited (fun _ => .cli) fun _ => "a".toList)
  have hended := h _ _ _ link hreachable hquiet (fun side => (hrest side).1) .host
    (hrest .host).2.1
  rw [(hrest _).2.2] at hended
  cases hended

end Fauna.Net
