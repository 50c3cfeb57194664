import Fauna.Net.Closing

/-!
# Every line arrives

Two parties of either program over a stream that is not cut, from before there is a connection:
what is typed is queued until the handshake is over, an input may be closed at any time, and a send
loop ends when its queue is empty. `Link.Steady` is what every such run keeps. A party without a
socket is treated as one that has its socket and has not written yet (`Session.ready`), so that what
holds after the handshake began (`Link.Healthy`) holds here too.

* `every_line_delivered`: the threads, left alone, come to rest, and they only rest when each party
  has reported exactly what was typed at the other.
-/

namespace Fauna.Net

open Fauna.Lib Fauna.Core Fauna.Wire

variable {C : Crates} {J : SerdeJson} {config : Side → Config C}

/-- The step leaves the connection, the processes and stdin up, and comes to a connection. -/
def Move.orderly : Move C → Prop
  | .act _ .exit | .act _ (.failInput _) | .act _ (.failConnect _) => False
  | .act _ _ => True
  | .sever _ _ => False

variable (J) in
/-- Two parties that are about to be connected, over a reliable stream. -/
def orderlyNetwork (config : Side → Config C) : Lts (Link C) (Move C) :=
  (network J config .preparing).restrict fun _ move => move.orderly

variable (C) in
/-- Whatever is typed can be encrypted. -/
def Seals : Prop :=
  ∀ (key : SessionKey C.primitives) (nonce : Nonce C.primitives) (line : Text),
    ∃ frame, sealChat key nonce line = .ok frame

/-- A party with a socket. -/
def Session.ready (s : Session C) : Session C :=
  match s.main with
  | .preparing => { s with main := .starting }
  | _ => s

/-- Both parties with a socket. -/
def Link.ready (link : Link C) : Link C :=
  { link with session := fun side => (link.session side).ready }

variable (J) in
/-- What two parties keep over a reliable stream, connected or not. -/
structure Link.Steady (config : Side → Config C) (link : Link C) : Prop where
  sound : link.Sound J
  healthy : link.ready.Healthy J config
  /-- A send loop that has ended has sent everything. -/
  complete : ∀ side, (link.session side).live = false →
    (link.session side).sent.map Prod.fst =
      (link.session side).kept (link.session side).submitted

/-! ## Parties without a socket -/

/-- A session with a socket is ready as it is. -/
theorem Session.ready_of_ne {s : Session C} (h : s.main ≠ .preparing) : s.ready = s := by
  unfold Session.ready
  split
  · next hmain => exact absurd hmain h
  · rfl

/-- One without is ready as if it had just got its socket. -/
theorem Session.ready_of_eq {s : Session C} (h : s.main = .preparing) :
    s.ready = { s with main := .starting } := by
  unfold Session.ready
  rw [h]

/-- Getting the socket closes nothing. -/
theorem Session.ready_closed (s : Session C) : s.ready.closed = s.closed := by
  by_cases hmain : s.main = .preparing
  · rw [ready_of_eq hmain]
    simp [Session.closed, Session.live, hmain]
  · rw [ready_of_ne hmain]

/-- No stream ends by getting a socket. -/
theorem Link.ready_ended (link : Link C) (side : Side) :
    link.ready.ended side = link.ended side := by
  simp [Link.ended, Link.ready, Session.ready_closed]

/-- What the connection allows, it allows with both sockets there. -/
theorem Link.ready_allows {link : Link C} {side : Side} {label : Label C}
    (h : link.allows side label) : link.ready.allows side label := by
  cases label with
  | fill bytes => exact h
  | readEnd => exact ⟨h.1, (link.ready_ended side.other).trans h.2⟩
  | failRead message | failHello count message | failSend nonce count message =>
      have hbroken : link.ready.broken side = link.broken side :=
        congrArg (link.cut side || ·) (link.ready_ended side.other)
      exact hbroken.trans h
  | _ => trivial

/-- A step and the missing sockets may come in either order. -/
theorem Link.ready_after (link : Link C) (side : Side) (label : Label C) (session : Session C)
    (bytes : Bytes) : (link.after side label session bytes).ready =
      link.ready.after side label session.ready bytes := by
  unfold Link.ready Link.after
  congr 1
  funext t
  rcases side.eq_or_eq_other t with rfl | rfl
  · simp
  · simp

theorem Link.ready_session (link : Link C) (side : Side) :
    link.ready.session side = (link.session side).ready := rfl

/-- A step that neither reads nor writes changes its session alone. -/
theorem Link.after_quiet {link : Link C} {side : Side} {label : Label C} {session : Session C}
    (htaken : label.taken = []) (hfails : label.fails = false) :
    link.after side label session [] = link.put side session := by
  unfold Link.after Link.put
  congr 1
  · funext t
    by_cases hside : t = side
    · simp [hside, inFlight]
    · simp [hside, htaken]
  · funext t
    simp [hfails]

/-- What waits on the channel to the window is nothing that the other party sees. -/
theorem Link.Healthy.with_events {link : Link C} (h : link.Healthy J config) (side : Side)
    (events : List NetworkEvent) :
    (link.put side { link.session side with events := events }).Healthy J config := by
  refine ⟨h.sound.put side ?_ rfl rfl rfl rfl rfl rfl, ?_, h.uncut, ?_⟩
  · exact (h.sound.well side).stop rfl rfl rfl rfl rfl rfl (Or.inl ⟨rfl, rfl⟩) (Or.inl rfl)
  · intro t
    rcases side.eq_or_eq_other t with rfl | rfl
    · rw [Link.put_session_self]
      exact h.config_eq t
    · rw [Link.put_session_other]
      exact h.config_eq _
  · intro t
    rcases side.eq_or_eq_other t with rfl | rfl
    · rw [Link.put_session_self]
      exact h.stage t
    · rw [Link.put_session_other]
      exact h.stage _

/-! ## The invariant -/

/-- Two parties that have neither socket nor input yet are steady. -/
theorem Link.Steady.new (config : Side → Config C) :
    (Link.new config .preparing).Steady J config := by
  have hready : (Link.new config .preparing).ready = Link.new config .starting := rfl
  refine ⟨.new config (Or.inl rfl), ?_, fun side hlive => ?_⟩
  · rw [hready]
    exact .new config
  · cases hlive

/-- Without a socket nothing is read. -/
theorem Link.Steady.reading_of_preparing {link : Link C} (h : link.Steady J config) {side : Side}
    (hmain : (link.session side).main = .preparing) : (link.session side).reading = none := by
  have hready : link.ready.session side = { link.session side with main := .starting } :=
    Session.ready_of_eq hmain
  have hpeer : (link.session side).peer = none := by
    have hearly := ((h.healthy.sound.well side).early (Or.inr (by rw [hready]))).2
    rwa [hready] at hearly
  have hbuffer := (h.healthy.sound.well side).not_looping (by rw [hready]; exact hpeer)
  unfold Session.reading
  rw [hmain]
  rwa [hready] at hbuffer

/-- A step of a party without a socket is one of the party with a socket, or leads to it. -/
theorem Link.Steady.healthy_of_preparing (hinvited : Invited J config) {link : Link C}
    (h : link.Steady J config) {side : Side} {label : Label C} {session : Session C}
    {bytes : Bytes} (hmain : (link.session side).main = .preparing)
    (horderly : (Move.act side label).orderly)
    (hreact : (link.session side).react J label = some (session, bytes)) :
    (link.after side label session bytes).ready.Healthy J config := by
  have hready : link.ready.session side = { link.session side with main := .starting } :=
    Session.ready_of_eq hmain
  have hreading := h.reading_of_preparing hmain
  rw [Link.ready_after]
  have hsame {session' : Session C} (hallows : link.ready.allows side label)
      (hreact' : (link.ready.session side).react J label = some (session', bytes))
      (hsession : session.ready = session') :
      (link.ready.after side label session.ready bytes).Healthy J config := by
    rw [hsession]
    refine h.healthy.step hinvited ?_ (Link.step_of_react hallows hreact')
    cases label with
    | exit => exact horderly
    | _ => trivial
  cases label with
  | exit | failInput | failConnect => cases horderly
  | submit line =>
      cases Change.of_react hreact with
      | typed hopen hlive =>
          refine hsame trivial ?_ (Session.ready_of_eq hmain)
          rw [hready]
          simp [Session.react, hopen, Session.live]
  | closeInput =>
      cases Change.of_react hreact with
      | closed hopen =>
          refine hsame trivial ?_ (Session.ready_of_eq hmain)
          rw [hready]
          simp [Session.react, hopen]
  | finishReceiver =>
      cases Change.of_react hreact with
      | stopped hreceiver =>
          refine hsame trivial ?_ (Session.ready_of_eq hmain)
          rw [hready]
          simp [Session.react, hreceiver]
  | announce event =>
      cases Change.of_react hreact with
      | announced =>
          have hsession : ({ link.session side with
                events := (link.session side).events ++ [event] } : Session C).ready =
              { link.ready.session side with
                events := (link.session side).events ++ [event] } := by
            rw [hready]
            exact Session.ready_of_eq hmain
          rw [Link.after_quiet rfl rfl, hsession]
          exact h.healthy.with_events side _
  | connect =>
      cases Change.of_react hreact with
      | connected =>
          have hsession : ({ link.session side with main := .starting } : Session C).ready =
              link.ready.session side := by
            rw [hready]
            exact Session.ready_of_ne (by simp)
          rw [Link.after_quiet rfl rfl, hsession]
          exact h.healthy.with_events side (link.ready.session side).events
  | _ => simp [Session.react, hmain, hreading] at hreact

/-- A send loop that ends has sent everything, where nothing fails. -/
theorem Session.complete_of_change {s s' : Session C} {side : Side} {l : Label C} {bytes : Bytes}
    (hw : s.Well) (hseals : Seals C) (hc : Change J s l s' bytes)
    (horderly : (Move.act side l).orderly)
    (hcalls : l.fails = false ∧ l ≠ .readEnd ∧ ∀ message, l ≠ .failRead message)
    (hgreets : ∀ buffer line rest, s.reading = some buffer → takeLine buffer = some (line, rest) →
      s.peer = none → ∃ accepted, greet J s.config.program s.config.exchange s.config.expected
        line = .ok accepted)
    (h : s.live = false → s.sent.map Prod.fst = s.kept s.submitted) (hlive : s'.live = false) :
    s'.sent.map Prod.fst = s'.kept s'.submitted := by
  cases hc with
  | exited | lostInput | unconnected => cases horderly
  | ungreeted | unsent => cases hcalls.1
  | readLast => exact absurd rfl hcalls.2.1
  | unread => exact absurd rfl (hcalls.2.2 _)
  | typed hopen hlive' => cases hlive'.symm.trans hlive
  | announced hmain | skipped hmain | wrote hmain =>
      simp [Session.live, hmain, Session.wrote] at hlive
  | connected | greeted => cases hlive
  | closed | stopped => exact h hlive
  | unsealed hmain hqueue hskips hseal =>
      obtain ⟨frame, hframe⟩ := hseals _ _ _
      cases hseal.symm.trans hframe
  | finished hmain hqueue hclosed =>
      have hqueued := hw.queued (by simp [Session.live, hmain])
      rw [hqueue] at hqueued
      exact (List.append_nil _).symm.trans hqueued
  | filled hreading =>
      revert hlive
      unfold Session.refill
      split
      · intro hlive
        cases hlive
      · exact h
      · exact h
  | concluded hmain => exact h (by simp [Session.live, hmain])
  | @read buffer line rest hreading hline =>
      have htaken := Taken.of_onLine (J := J) hreading line rest
      generalize s.onLine J line rest = t at htaken hlive ⊢
      cases htaken with
      | accepted => cases hlive
      | refused hmain hgreet =>
          obtain ⟨accepted, haccepted⟩ := hgreets buffer line rest hreading hline
            (hw.awaiting _ hmain).2
          cases hgreet.symm.trans haccepted
      | reported | broken => exact h hlive

/-- Nothing on the socket fails. -/
theorem Link.Steady.calls_succeed {link : Link C} (h : link.Steady J config) {side : Side}
    {label : Label C} (hallows : link.allows side label) :
    label.fails = false ∧ label ≠ .readEnd ∧ ∀ message, label ≠ .failRead message := by
  have hended := h.healthy.not_ended side.other
  have hbroken := h.healthy.not_broken side
  have hready := Link.ready_allows hallows
  refine ⟨?_, ?_, ?_⟩
  · cases label with
    | failHello | failSend => cases hbroken.symm.trans hready
    | _ => rfl
  · rintro rfl
    cases hended.symm.trans hready.2
  · rintro message rfl
    cases hbroken.symm.trans hready

/-- The first line that a party reads is a hello that it accepts. -/
theorem Link.Steady.greets (hinvited : Invited J config) {link : Link C}
    (h : link.Steady J config) (side : Side) {buffer line rest : Bytes}
    (hreading : (link.session side).reading = some buffer)
    (hline : takeLine buffer = some (line, rest)) (hpeer : (link.session side).peer = none) :
    ∃ accepted, greet J (link.session side).config.program (link.session side).config.exchange
      (link.session side).config.expected line = .ok accepted := by
  by_cases hmain : (link.session side).main = .preparing
  · cases (h.reading_of_preparing hmain).symm.trans hreading
  · have hready : link.ready.session side = link.session side := Session.ready_of_ne hmain
    have haccepts := (h.healthy.accepts hinvited side (by rw [hready]; exact hreading) hline).1
    rw [hready] at haccepts
    exact haccepts hpeer

/-- An orderly step keeps the connection steady. -/
theorem Link.Steady.step (hinvited : Invited J config) (hseals : Seals C) {link link' : Link C}
    {move : Move C} (h : link.Steady J config) (horderly : move.orderly)
    (hstep : link.step J move = some link') : link'.Steady J config := by
  have hsound := h.sound.step hstep
  cases move with
  | sever side count => cases horderly
  | act side label =>
      rw [Link.step, Option.ite_none_right_eq_some] at hstep
      obtain ⟨hallows, hstep⟩ := hstep
      obtain ⟨⟨session, bytes⟩, hreact, rfl⟩ := Option.map_eq_some_iff.1 hstep
      have hchange := Change.of_react hreact
      refine ⟨hsound, ?_, ?_⟩
      · by_cases hmain : (link.session side).main = .preparing
        · exact h.healthy_of_preparing hinvited hmain horderly hreact
        · have hready : link.ready.session side = link.session side := Session.ready_of_ne hmain
          have hsession : session.ready = session :=
            Session.ready_of_ne fun hpreparing => hmain (hchange.main_preparing hpreparing)
          rw [Link.ready_after, hsession]
          refine h.healthy.step hinvited ?_
            (Link.step_of_react (Link.ready_allows hallows) (by rw [hready]; exact hreact))
          cases label with
          | exit => exact horderly
          | _ => trivial
      · intro t
        rcases side.eq_or_eq_other t with rfl | rfl
        · rw [Link.after_session_self]
          exact Session.complete_of_change (h.sound.well t) hseals hchange horderly
            (h.calls_succeed hallows) (fun _ _ _ => h.greets hinvited t) (h.complete t)
        · rw [Link.after_session_other]
          exact h.complete _

/-- Every state of an orderly network is steady. -/
theorem Link.Steady.of_reachable (hinvited : Invited J config) (hseals : Seals C) {link : Link C}
    (h : (orderlyNetwork J config).Reachable link) : link.Steady J config := by
  refine h.invariant ?_ fun link move link' hsteady hstep =>
    hsteady.step hinvited hseals hstep.1 hstep.2
  rintro link rfl
  exact .new config

/-! ## What a user does with one end -/

/-- A well-formed session stays so with its socket. -/
theorem Session.Well.ready {s : Session C} (h : s.Well) : s.ready.Well := by
  by_cases hmain : s.main = .preparing
  · rw [Session.ready_of_eq hmain]
    obtain ⟨hwritten, hpeer⟩ := h.early (Or.inl hmain)
    exact {
      quiet := h.quiet
      early := fun _ => ⟨hwritten, hpeer⟩
      awaiting := nofun
      sending := nofun
      looping := h.looping
      agreed := h.agreed
      sealed_sent := h.sealed_sent
      history := h.history
      queued := fun _ => h.queued (by simp [Session.live, hmain])
      typed := h.typed }
  · rwa [Session.ready_of_ne hmain]

/-- A replaced session may get its socket before or after. -/
theorem Link.put_ready (link : Link C) (side : Side) (s : Session C) :
    (link.put side s).ready = link.ready.put side s.ready := by
  unfold Link.ready Link.put
  congr 1
  funext t
  rcases side.eq_or_eq_other t with rfl | rfl <;> simp

/-- The other end sees nothing of what is queued, drained or closed at one. -/
theorem Link.Steady.put {link : Link C} (h : link.Steady J config) (side : Side) {s : Session C}
    (hsound : (link.put side s).Sound J) (hmain : s.main = (link.session side).main)
    (hreceiver : s.receiver = (link.session side).receiver)
    (hconfig : s.config = (link.session side).config) (hpeer : s.peer = (link.session side).peer)
    (hsent : s.sent = (link.session side).sent) (hwritten : s.written = (link.session side).written)
    (hreported : s.reported = (link.session side).reported)
    (hcomplete : s.live = false → s.sent.map Prod.fst = s.kept s.submitted) :
    (link.put side s).Steady J config := by
  -- with a socket, `s` differs from the session in the same fields only
  have hready : s.ready.main = (link.ready.session side).main ∧
      s.ready.receiver = (link.ready.session side).receiver ∧
      s.ready.config = (link.ready.session side).config ∧
      s.ready.peer = (link.ready.session side).peer ∧
      s.ready.sent = (link.ready.session side).sent ∧
      s.ready.written = (link.ready.session side).written ∧
      s.ready.reported = (link.ready.session side).reported := by
    rw [Link.ready_session]
    by_cases hpreparing : s.main = .preparing
    · rw [Session.ready_of_eq hpreparing, Session.ready_of_eq (hmain.symm.trans hpreparing)]
      exact ⟨rfl, hreceiver, hconfig, hpeer, hsent, hwritten, hreported⟩
    · rw [Session.ready_of_ne hpreparing,
        Session.ready_of_ne fun hs => hpreparing (hmain.trans hs)]
      exact ⟨hmain, hreceiver, hconfig, hpeer, hsent, hwritten, hreported⟩
  obtain ⟨hmain', hreceiver', hconfig', hpeer', hsent', hwritten', hreported'⟩ := hready
  have hinbox : s.ready.inbox = (link.ready.session side).inbox := by
    simp only [Session.inbox, Session.reading, hmain', hreceiver']
  have hself : s = (link.put side s).session side := Link.put_session_self.symm
  refine ⟨hsound, ?_, fun t hlive => ?_⟩
  · rw [Link.put_ready]
    refine ⟨h.healthy.sound.put side (Session.Well.ready ?_) hconfig' hpeer' hsent' hwritten'
      hreported' hinbox, ?_, h.healthy.uncut, ?_⟩
    · rw [hself]
      exact hsound.well side
    · intro t
      rcases side.eq_or_eq_other t with rfl | rfl
      · rw [Link.put_session_self, hconfig']
        exact h.healthy.config_eq t
      · rw [Link.put_session_other]
        exact h.healthy.config_eq _
    · intro t
      rcases side.eq_or_eq_other t with rfl | rfl
      · rw [Link.put_session_self]
        unfold Session.Greeting Session.Established
        rw [hmain', hpeer', hreceiver']
        exact h.healthy.stage t
      · rw [Link.put_session_other]
        exact h.healthy.stage _
  · rcases side.eq_or_eq_other t with rfl | rfl
    · rw [Link.put_session_self] at hlive ⊢
      exact hcomplete hlive
    · rw [Link.put_session_other] at hlive ⊢
      exact h.complete _ hlive

/-! ## Where the threads come to rest -/

/-- The threads cut nothing, and read no input that could fail. -/
theorem Move.orderly_of_internal {move : Move C} (h : move.internal) : move.orderly := by
  cases move with
  | sever side count => exact h
  | act side label =>
      cases label with
      | exit | failInput | failConnect => cases h
      | _ => trivial

/-- At rest, with a connection: each party has accepted the other one, and reported what was typed
there. -/
theorem Link.Steady.reported {link : Link C} (h : link.Steady J config)
    (hquiet : (network J config .preparing).Quiescent Move.internal link)
    (hconnected : ∀ side, (link.session side).main ≠ .preparing) (side : Side) :
    (link.session side).Established ∧ (link.session side.other).reported =
      (link.session side).kept (link.session side).submitted := by
  have hready : link.ready = link := by
    unfold Link.ready
    congr 1
    exact funext fun t => Session.ready_of_ne (hconnected t)
  have hhealthy := h.healthy
  rw [hready] at hhealthy
  refine ⟨hhealthy.quiescent hquiet side, ?_⟩
  obtain ⟨peer, key, buffer, hpeer, hreceiver⟩ := hhealthy.quiescent hquiet side.other
  obtain ⟨peer', -, -, hpeer', -⟩ := hhealthy.quiescent hquiet side
  have hmain := (h.sound.well side).main_of_peer hpeer'
  have hended (hlive : (link.session side).live = false) : (link.session side.other).reported =
      (link.session side).kept (link.session side).submitted :=
    (h.sound.sent_at_rest hquiet hreceiver (hhealthy.uncut side)).trans (h.complete side hlive)
  cases hm : (link.session side).main with
  | preparing => exact absurd hm hmain.1
  | starting => exact absurd hm hmain.2.1
  | awaitingHello b => exact absurd hm (hmain.2.2 b)
  | sending key' => exact h.sound.reported_at_rest hquiet hm hreceiver (hhealthy.uncut side)
  | returned failure => exact hended (by simp [Session.live, hm])
  | ended => exact hended (by simp [Session.live, hm])

/-- What a thread does by itself types nothing. -/
theorem Change.submitted_of_internal {s s' : Session C} {l : Label C} {bytes : Bytes}
    (h : Change J s l s' bytes) (hinternal : l.external = false) :
    s'.config = s.config ∧ s'.submitted = s.submitted := by
  refine ⟨h.writes.1, h.submitted_eq ?_⟩
  rintro line rfl
  cases hinternal

/-- Nothing was typed, and who had a socket has one. -/
def Session.Untyped (s s' : Session C) : Prop :=
  s'.config = s.config ∧ s'.submitted = s.submitted ∧
    (s'.main = .preparing → s.main = .preparing)

/-- The threads by themselves type nothing, and a party keeps its socket. -/
theorem Link.untyped_of_internal {link link' : Link C} {moves : List (Move C)} {main : Main C}
    (hinternal : ∀ move ∈ moves, move.internal)
    (hrun : (network J config main).Run link moves link')
    (side : Side) : (link.session side).Untyped (link'.session side) := by
  have hstep (s : Link C) (move : Move C) (t : Link C)
      (hs : (link.session side).Untyped (s.session side))
      (hstep : ((network J config main).restrict fun _ move => move.internal).step s move t) :
      (link.session side).Untyped (t.session side) := by
    obtain ⟨hconfig, hsubmitted, hmain⟩ := hs
    obtain ⟨hmove, hstep⟩ := hstep
    rcases Link.session_step hstep side with hsame | ⟨label, bytes, rfl, hchange⟩
    · rw [hsame]
      exact ⟨hconfig, hsubmitted, hmain⟩
    · obtain ⟨hconfig', hsubmitted'⟩ := hchange.submitted_of_internal hmove
      exact ⟨hconfig'.trans hconfig, hsubmitted'.trans hsubmitted,
        fun hpreparing => hmain (hchange.main_preparing hpreparing)⟩
  exact (hrun.to_restrict hinternal).invariant hstep ⟨rfl, rfl, id⟩

/-- From where both parties have their socket, the threads only rest when each has accepted the
other's hello and has reported what was typed there. -/
theorem Link.Steady.delivered (hinvited : Invited J config) (hseals : Seals C) {link link' : Link C}
    {moves : List (Move C)} (h : link.Steady J config)
    (hconnected : ∀ side, (link.session side).main ≠ .preparing)
    (hinternal : ∀ move ∈ moves, move.internal)
    (hrun : (network J config .preparing).Run link moves link')
    (hquiet : (network J config .preparing).Quiescent Move.internal link') (side : Side) :
    (∃ key, (link'.session side).peer = some ((config side.other).hello, key)) ∧
      (link'.session side.other).reported =
        (link.session side).kept (link.session side).submitted := by
  have hstep : ∀ (s : Link C) (move : Move C) (t : Link C), s.Steady J config →
      ((network J config .preparing).restrict fun _ move => move.internal).step s move t →
      t.Steady J config :=
    fun s move t hs hst => hs.step hinvited hseals (Move.orderly_of_internal hst.1) hst.2
  have hsteady := (hrun.to_restrict hinternal).invariant hstep h
  have htyped (t : Side) := Link.untyped_of_internal hinternal hrun t
  have hconnected' (t : Side) : (link'.session t).main ≠ .preparing :=
    fun hpreparing => hconnected t ((htyped t).2.2 hpreparing)
  obtain ⟨⟨⟨hello, key⟩, -, -, hpeer, -⟩, hreported⟩ := hsteady.reported hquiet hconnected' side
  obtain ⟨hconfig, hsubmitted, -⟩ := htyped side
  refine ⟨⟨key, ?_⟩, ?_⟩
  · have hflow := hsteady.sound.flow side.other
    rw [Side.other_other] at hflow
    have hother := hsteady.healthy.config_eq side.other
    rw [Link.ready_session, Session.ready_of_ne (hconnected' _)] at hother
    rw [hpeer, (hflow.peer hello key hpeer).1, hother]
  · rw [hreported, hsubmitted]
    unfold Session.kept
    rw [hconfig]

/-- Two parties of either program over a reliable stream, in every interleaving and chunking, where
lines are typed at any time, before there is a connection too, and an input may be closed at any
time: left alone, the threads come to rest. From where both parties have their socket they only rest
when each has accepted the other's hello and has reported exactly the lines that were typed at the
other, but for those that the CLI skips, in order. -/
theorem every_line_delivered (hinvited : Invited J config) (hseals : Seals C) {link : Link C}
    (h : (orderlyNetwork J config).Reachable link) :
    Acc ((network J config .preparing).Internal Move.internal) link ∧
      ((∀ side, (link.session side).main ≠ .preparing) → ∀ moves link',
        (∀ move ∈ moves, move.internal) →
        (network J config .preparing).Run link moves link' →
        (network J config .preparing).Quiescent Move.internal link' →
        ∀ side, (∃ key, (link'.session side).peer = some ((config side.other).hello, key)) ∧
          (link'.session side.other).reported =
            (link.session side).kept (link.session side).submitted) :=
  ⟨internal_acc config .preparing link, fun hconnected _ _ hinternal hrun hquiet =>
    (Link.Steady.of_reachable hinvited hseals h).delivered hinvited hseals hconnected hinternal hrun
      hquiet⟩

/-- The transparent crates encrypt whatever is typed. -/
theorem seals_transparent : Seals Crates.transparent := fun _ _ _ => ⟨_, rfl⟩

/-- The host's user types a line, and then both parties get their socket. -/
def typedLink : Link Crates.transparent :=
  (((Link.new mixedPair .preparing).after .host (.submit "a".toList)
    { Session.new (mixedPair .host) .preparing with
      queue := ["a".toList]
      submitted := ["a".toList] } []).after .host .connect
    { Session.new (mixedPair .host) .starting with
      queue := ["a".toList]
      submitted := ["a".toList] } []).after .joiner .connect
    (.new (mixedPair .joiner) .starting) []

/-- An orderly run types the line and connects both parties. -/
theorem typedLink_reachable : (orderlyNetwork SerdeJson.records mixedPair).Reachable typedLink :=
  ⟨_, [.act .host (.submit "a".toList), .act .host .connect, .act .joiner .connect], rfl,
    .cons ⟨trivial, rfl⟩ (.cons ⟨trivial, rfl⟩ (.single ⟨trivial, rfl⟩))⟩

/-- The threads bring a typed line to its reader. -/
theorem every_line_delivered_typed : ∃ link,
    (network SerdeJson.records mixedPair .preparing).Quiescent Move.internal link ∧
      (link.session .joiner).reported = ["a".toList] := by
  obtain ⟨hacc, hrest⟩ := every_line_delivered
    (transparentPair_invited _ _) seals_transparent typedLink_reachable
  obtain ⟨moves, link, hinternal, hrun, hquiet⟩ := Lts.exists_quiescent hacc
  have hconnected : ∀ side, (typedLink.session side).main ≠ .preparing := by
    rintro (side | side) <;> exact nofun
  exact ⟨link, hquiet, (hrest hconnected moves link hinternal hrun hquiet .host).2⟩

end Fauna.Net
