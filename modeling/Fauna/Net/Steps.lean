import Fauna.Net.Machine

/-!
# What a step of a session can do

`Change` lists, once, what each label does and when it can be taken; everything that is proved of
a session's steps goes through it. `Session.Well` is what a session keeps by itself: how its
threads, the accepted hello and the history of its writes fit together.
-/

namespace Fauna.Net

open Fauna.Lib Fauna.Core Fauna.Wire

variable {C : Crates} {J : SerdeJson}

/-- The steps of a session, each with its guard. -/
inductive Change (J : SerdeJson) (s : Session C) : Label C → Session C → Bytes → Prop
  | typed {line} (hopen : s.inputOpen = true) (hlive : s.live = true) :
      Change J s (.submit line)
        { s with queue := s.queue ++ [line], submitted := s.submitted ++ [line] } []
  | closed (hopen : s.inputOpen = true) : Change J s .closeInput { s with inputOpen := false } []
  | exited : Change J s .exit
      { s with main := .ended, receiver := .ended, queue := [], inputOpen := false } []
  | lostInput {key message} (hcli : s.config.program = .cli) (hmain : s.main = .sending key) :
      Change J s (.failInput message) (s.leave (some message)) []
  | announced {event} (hmain : s.main = .preparing)
      (hevent : (∃ text, event = .status text) ∨ ∃ text, event = .inviteCreated text) :
      Change J s (.announce event) { s with events := s.events ++ [event] } []
  | connected (hmain : s.main = .preparing) : Change J s .connect { s with main := .starting } []
  | unconnected {message} (hmain : s.main = .preparing) :
      Change J s (.failConnect message) (s.leave (some message)) []
  | greeted (hmain : s.main = .starting) :
      Change J s .writeHello (s.wroteHello (.awaitingHello []))
        (jsonLine J (helloRecord s.config.hello))
  | ungreeted {count message} (hmain : s.main = .starting) :
      Change J s (.failHello count message) ((s.wroteHello .starting).leave (some message))
        ((jsonLine J (helloRecord s.config.hello)).take count)
  | skipped {nonce key line rest} (hmain : s.main = .sending key) (hqueue : s.queue = line :: rest)
      (hskips : skips s.config.program line = true) :
      Change J s (.sendNext nonce) { s with queue := rest } []
  | wrote {nonce key line rest frame} (hmain : s.main = .sending key)
      (hqueue : s.queue = line :: rest) (hskips : skips s.config.program line = false)
      (hseal : sealChat key nonce line = .ok frame) :
      Change J s (.sendNext nonce) (s.wrote line frame rest) (jsonLine J (chatRecord frame))
  | unsealed {nonce key line rest fault} (hmain : s.main = .sending key)
      (hqueue : s.queue = line :: rest) (hskips : skips s.config.program line = false)
      (hseal : sealChat key nonce line = .error fault) :
      Change J s (.sendNext nonce) (s.fail fault) []
  | unsent {nonce count message key line rest frame} (hmain : s.main = .sending key)
      (hqueue : s.queue = line :: rest) (hskips : skips s.config.program line = false)
      (hseal : sealChat key nonce line = .ok frame) :
      Change J s (.failSend nonce count message) ((s.wrote line frame rest).leave (some message))
        ((jsonLine J (chatRecord frame)).take count)
  | finished {key} (hmain : s.main = .sending key) (hqueue : s.queue = [])
      (hclosed : s.inputOpen = false) : Change J s .finishInput (s.leave none) []
  | filled {buffer bytes} (hreading : s.reading = some buffer) (hne : bytes ≠ [])
      (hline : takeLine buffer = none) : Change J s (.fill bytes) (s.refill (buffer ++ bytes)) []
  | read {buffer line rest} (hreading : s.reading = some buffer)
      (hline : takeLine buffer = some (line, rest)) :
      Change J s .readLine (s.onLine J line rest) []
  | readLast {buffer} (hreading : s.reading = some buffer) (hline : takeLine buffer = none) :
      Change J s .readEnd (s.onLine J buffer []) []
  | unread {buffer message} (hreading : s.reading = some buffer) (hline : takeLine buffer = none) :
      Change J s (.failRead message) (s.readFails message) []
  | concluded {failure} (hmain : s.main = .returned failure)
      (hjoined : s.config.program = .cli → s.receiver.running = false) :
      Change J s .finishMain { s with
        main := .ended
        events := s.events ++ mainEvents s.config.program failure } []
  | stopped {fault} (hreceiver : s.receiver = .returned fault) :
      Change J s .finishReceiver { s with
        receiver := .ended
        events := s.events ++ receiverEvents s.config.program fault } []

/-- Every step is one of them. -/
theorem Change.of_react {s s' : Session C} {l : Label C} {bytes : Bytes}
    (h : s.react J l = some (s', bytes)) : Change J s l s' bytes := by
  cases l <;> simp only [Session.react] at h
  case submit line =>
    simp only [Option.ite_none_right_eq_some, Option.some.injEq, Prod.mk.injEq] at h
    obtain ⟨⟨hopen, hlive⟩, rfl, rfl⟩ := h
    exact .typed hopen hlive
  case closeInput =>
    simp only [Option.ite_none_right_eq_some, Option.some.injEq, Prod.mk.injEq] at h
    obtain ⟨hopen, rfl, rfl⟩ := h
    exact .closed hopen
  case exit =>
    obtain ⟨rfl, rfl⟩ := Prod.mk.inj (Option.some.inj h)
    exact .exited
  case failInput message =>
    split at h
    · next key hcli hmain =>
      obtain ⟨rfl, rfl⟩ := Prod.mk.inj (Option.some.inj h)
      exact .lostInput hcli hmain
    · cases h
  case announce event =>
    split at h
    · next text hmain =>
      obtain ⟨rfl, rfl⟩ := Prod.mk.inj (Option.some.inj h)
      exact .announced hmain (Or.inl ⟨text, rfl⟩)
    · next text hmain =>
      obtain ⟨rfl, rfl⟩ := Prod.mk.inj (Option.some.inj h)
      exact .announced hmain (Or.inr ⟨text, rfl⟩)
    · cases h
  case connect =>
    split at h
    · next hmain =>
      obtain ⟨rfl, rfl⟩ := Prod.mk.inj (Option.some.inj h)
      exact .connected hmain
    · cases h
  case failConnect message =>
    split at h
    · next hmain =>
      obtain ⟨rfl, rfl⟩ := Prod.mk.inj (Option.some.inj h)
      exact .unconnected hmain
    · cases h
  case writeHello =>
    split at h
    · next hmain =>
      obtain ⟨rfl, rfl⟩ := Prod.mk.inj (Option.some.inj h)
      exact .greeted hmain
    · cases h
  case failHello count message =>
    split at h
    · next hmain =>
      obtain ⟨rfl, rfl⟩ := Prod.mk.inj (Option.some.inj h)
      exact .ungreeted hmain
    · cases h
  case sendNext nonce =>
    split at h
    · next key line rest hmain hqueue =>
      split_ifs at h with hskips
      · obtain ⟨rfl, rfl⟩ := Prod.mk.inj (Option.some.inj h)
        exact .skipped hmain hqueue hskips
      · split at h
        · next frame hseal =>
          obtain ⟨rfl, rfl⟩ := Prod.mk.inj (Option.some.inj h)
          exact .wrote hmain hqueue (by simpa using hskips) hseal
        · next fault hseal =>
          obtain ⟨rfl, rfl⟩ := Prod.mk.inj (Option.some.inj h)
          exact .unsealed hmain hqueue (by simpa using hskips) hseal
    · cases h
  case failSend nonce count message =>
    split at h
    · next key line rest hmain hqueue =>
      split_ifs at h with hskips
      split at h
      · next frame hseal =>
        obtain ⟨rfl, rfl⟩ := Prod.mk.inj (Option.some.inj h)
        exact .unsent hmain hqueue (by simpa using hskips) hseal
      · cases h
    · cases h
  case finishInput =>
    split at h
    · next key hmain hqueue =>
      rw [Option.ite_none_left_eq_some] at h
      obtain ⟨hclosed, h⟩ := h
      obtain ⟨rfl, rfl⟩ := Prod.mk.inj (Option.some.inj h)
      exact .finished hmain hqueue (by simpa using hclosed)
    · cases h
  case fill bytes' =>
    split at h
    · next buffer hreading =>
      rw [Option.ite_none_right_eq_some] at h
      obtain ⟨⟨hne, hline⟩, h⟩ := h
      obtain ⟨rfl, rfl⟩ := Prod.mk.inj (Option.some.inj h)
      exact .filled hreading hne hline
    · cases h
  case readLine =>
    split at h
    · next buffer hreading =>
      split at h
      · next line rest hline =>
        obtain ⟨rfl, rfl⟩ := Prod.mk.inj (Option.some.inj h)
        exact .read hreading hline
      · cases h
    · cases h
  case readEnd =>
    split at h
    · next buffer hreading =>
      rw [Option.ite_none_right_eq_some] at h
      obtain ⟨hline, h⟩ := h
      obtain ⟨rfl, rfl⟩ := Prod.mk.inj (Option.some.inj h)
      exact .readLast hreading hline
    · cases h
  case failRead message =>
    split at h
    · next buffer hreading =>
      rw [Option.ite_none_right_eq_some] at h
      obtain ⟨hline, h⟩ := h
      obtain ⟨rfl, rfl⟩ := Prod.mk.inj (Option.some.inj h)
      exact .unread hreading hline
    · cases h
  case finishMain =>
    split at h
    · next failure hmain =>
      rw [Option.ite_none_left_eq_some] at h
      obtain ⟨hjoined, h⟩ := h
      obtain ⟨rfl, rfl⟩ := Prod.mk.inj (Option.some.inj h)
      exact .concluded hmain fun hcli => by simpa [hcli] using hjoined
    · cases h
  case finishReceiver =>
    split at h
    · next fault hreceiver =>
      obtain ⟨rfl, rfl⟩ := Prod.mk.inj (Option.some.inj h)
      exact .stopped hreceiver
    · cases h

/-! ## What only moves the threads -/

/-- The threads stand elsewhere and the queue may have changed; nothing else has. -/
def Session.Moved (s s' : Session C) : Prop :=
  ∃ main receiver queue, s' = { s with main := main, receiver := receiver, queue := queue }

/-- To leave the send loop moves the threads only. -/
theorem Session.leave_moved (s : Session C) (failure : Option Text) : s.Moved (s.leave failure) :=
  ⟨_, _, _, rfl⟩

/-- So does a fault of the main thread. -/
theorem Session.fail_moved (s : Session C) (fault : Fault) : s.Moved (s.fail fault) := by
  cases fault with
  | error message => exact s.leave_moved _
  | panic => exact ⟨_, _, _, rfl⟩

/-- So does a longer buffer. -/
theorem Session.refill_moved (s : Session C) (buffer : Bytes) : s.Moved (s.refill buffer) := by
  unfold Session.refill
  split <;> exact ⟨_, _, _, rfl⟩

/-- So does a read that fails. -/
theorem Session.readFails_moved (s : Session C) (message : Text) :
    s.Moved (s.readFails message) := by
  unfold Session.readFails
  split
  · exact s.leave_moved _
  · exact ⟨_, _, _, rfl⟩

/-! ## What becomes of a line -/

/-- A receive thread with a buffer is in its loop. -/
theorem Receiver.buffer_eq_some {receiver : Receiver C} {buffer : Bytes} :
    receiver.buffer = some buffer ↔ ∃ key, receiver = .looping key buffer := by
  cases receiver <;> simp [Receiver.buffer]

/-- What becomes of a line. -/
inductive Taken (J : SerdeJson) (s : Session C) (line rest : Bytes) : Session C → Prop
  | accepted {buffer hello key} (hmain : s.main = .awaitingHello buffer)
      (hgreet : greet J s.config.program s.config.exchange s.config.expected line =
        .ok (hello, key)) : Taken J s line rest (s.accept hello key rest)
  | refused {buffer fault} (hmain : s.main = .awaitingHello buffer)
      (hgreet : greet J s.config.program s.config.exchange s.config.expected line =
        .error fault) : Taken J s line rest (s.fail fault)
  | reported {key buffer body} (hmain : ∀ b, s.main ≠ .awaitingHello b)
      (hreceiver : s.receiver = .looping key buffer)
      (hbody : receiveOnce J s.config.program key line = .ok body) :
      Taken J s line rest (s.report key rest body)
  | broken {key buffer fault} (hmain : ∀ b, s.main ≠ .awaitingHello b)
      (hreceiver : s.receiver = .looping key buffer)
      (hbody : receiveOnce J s.config.program key line = .error fault) :
      Taken J s line rest { s with receiver := .returned fault }

/-- What the reading thread does with a line is one of the ways to take it. -/
theorem Taken.of_onLine {s : Session C} {buffer : Bytes} (hreading : s.reading = some buffer)
    (line rest : Bytes) : Taken J s line rest (s.onLine J line rest) := by
  unfold Session.onLine
  split
  · next b hmain =>
    split
    · next hello key hgreet => exact .accepted hmain hgreet
    · next fault hgreet => exact .refused hmain hgreet
  · next key b hreceiver hmain =>
    split
    · next body hbody => exact .reported hmain hreceiver hbody
    · next fault hbody => exact .broken hmain hreceiver hbody
  · next hmain hreceiver =>
    unfold Session.reading at hreading
    split at hreading
    · next h => exact absurd h (hmain _)
    · obtain ⟨key, h⟩ := Receiver.buffer_eq_some.1 hreading
      exact absurd h (hreceiver _ _)

/-- A hello that is accepted opens the session. -/
theorem Session.onLine_of_greet {s : Session C} {buffer line : Bytes} {hello : HelloFrame Text}
    {key : SessionKey C.primitives} (hmain : s.main = .awaitingHello buffer)
    (hgreet : greet J s.config.program s.config.exchange s.config.expected line =
      .ok (hello, key)) (rest : Bytes) : s.onLine J line rest = s.accept hello key rest := by
  simp only [Session.onLine, hmain, hgreet]

/-- A line that decrypts is reported. -/
theorem Session.onLine_of_body {s : Session C} {key key' : SessionKey C.primitives}
    {buffer line : Bytes} {body : Text} (hmain : s.main = .sending key')
    (hreceiver : s.receiver = .looping key buffer)
    (hbody : receiveOnce J s.config.program key line = .ok body) (rest : Bytes) :
    s.onLine J line rest = s.report key rest body := by
  simp only [Session.onLine, hmain, hreceiver, hbody]

/-- Any other line ends the receive loop. -/
theorem Session.onLine_of_fault {s : Session C} {key key' : SessionKey C.primitives}
    {buffer line : Bytes} {fault : Fault} (hmain : s.main = .sending key')
    (hreceiver : s.receiver = .looping key buffer)
    (hbody : receiveOnce J s.config.program key line = .error fault) (rest : Bytes) :
    s.onLine J line rest = { s with receiver := .returned fault } := by
  simp only [Session.onLine, hmain, hreceiver, hbody]

/-- A read of the socket, where nothing is buffered. -/
theorem Session.react_fill {s : Session C} {bytes : Bytes} (hreading : s.reading = some [])
    (hne : bytes ≠ []) : s.react J (.fill bytes) = some (s.refill bytes, []) := by
  simp only [Session.react, hreading]
  exact if_pos ⟨hne, rfl⟩

/-- A whole line in the buffer can be taken. -/
theorem Session.react_readLine {s : Session C} {buffer line rest : Bytes}
    (hreading : s.reading = some buffer) (hline : takeLine buffer = some (line, rest)) :
    s.react J .readLine = some (s.onLine J line rest, []) := by
  simp only [Session.react, hreading, hline]

/-! ## What a session keeps by itself -/

/-- The lines a session will send of those that were typed. -/
def Session.kept (s : Session C) (lines : List Text) : List Text :=
  lines.filter fun line => !skips s.config.program line

/-- How the threads, the accepted hello and the history of a session fit together. -/
structure Session.Well (s : Session C) : Prop where
  /-- Nothing is sent or reported before a hello is accepted. -/
  quiet : s.peer = none → s.sent = [] ∧ s.reported = []
  early : s.main = .preparing ∨ s.main = .starting → s.written = [] ∧ s.peer = none
  awaiting : ∀ buffer, s.main = .awaitingHello buffer → s.written ≠ [] ∧ s.peer = none
  sending : ∀ key, s.main = .sending key → ∃ hello, s.peer = some (hello, key)
  looping : ∀ key buffer, s.receiver = .looping key buffer → ∃ hello, s.peer = some (hello, key)
  agreed : ∀ hello key, s.peer = some (hello, key) → s.written ≠ [] ∧
    establish s.config.program s.config.exchange s.config.expected hello = .ok key
  /-- What was sent was sealed under the session key. -/
  sealed_sent : ∀ m ∈ s.sent, ∃ hello key nonce, s.peer = some (hello, key) ∧
    sealChat key nonce m.1 = .ok m.2
  /-- The writes are the hello and then the frames of what was sent. -/
  history : s.written = [] ∧ s.sent = [] ∨
    s.written = helloRecord s.config.hello :: s.sent.map fun m => chatRecord m.2
  /-- While the send loop may still come to them, the queue holds the typed lines not sent. -/
  queued : s.live = true → s.sent.map Prod.fst ++ s.kept s.queue = s.kept s.submitted
  typed : s.sent.map Prod.fst <+: s.kept s.submitted

/-- Once a hello is accepted, the main thread is past the handshake. -/
theorem Session.Well.main_of_peer {s : Session C} (h : s.Well)
    {peer : HelloFrame Text × SessionKey C.primitives} (hpeer : s.peer = some peer) :
    s.main ≠ .preparing ∧ s.main ≠ .starting ∧ ∀ buffer, s.main ≠ .awaitingHello buffer := by
  refine ⟨?_, ?_, ?_⟩
  · intro hm
    cases hpeer.symm.trans (h.early (Or.inl hm)).2
  · intro hm
    cases hpeer.symm.trans (h.early (Or.inr hm)).2
  · intro buffer hm
    cases hpeer.symm.trans (h.awaiting buffer hm).2

/-- A session is well before its first step. -/
theorem Session.Well.new (config : Config C) {main : Main C}
    (hmain : main = .preparing ∨ main = .starting) : (Session.new config main).Well where
  quiet _ := ⟨rfl, rfl⟩
  early _ := ⟨rfl, rfl⟩
  awaiting buffer h := by rcases hmain with rfl | rfl <;> cases h
  sending key h := by rcases hmain with rfl | rfl <;> cases h
  looping key buffer h := by cases h
  agreed hello key h := by cases h
  sealed_sent m h := by cases h
  history := Or.inl ⟨rfl, rfl⟩
  queued _ := rfl
  typed := List.prefix_refl _

/-- A step that keeps the history, and whose threads are where they were or have stopped. -/
theorem Session.Well.stop {s s' : Session C} (h : s.Well) (hconfig : s'.config = s.config)
    (hpeer : s'.peer = s.peer) (hsent : s'.sent = s.sent) (hwritten : s'.written = s.written)
    (hreported : s'.reported = s.reported) (hsubmitted : s'.submitted = s.submitted)
    (hmain : s'.main = s.main ∧ s.kept s'.queue = s.kept s.queue ∨ s'.live = false)
    (hreceiver : s'.receiver = s.receiver ∨ ∀ key buffer, s'.receiver ≠ .looping key buffer) :
    s'.Well := by
  have hkept (lines : List Text) : s'.kept lines = s.kept lines := by
    rw [Session.kept, Session.kept, hconfig]
  refine ⟨?_, ?_, ?_, ?_, ?_, ?_, ?_, ?_, ?_, ?_⟩
  · rw [hpeer, hsent, hreported]
    exact h.quiet
  · rw [hwritten, hpeer]
    rcases hmain with ⟨hmain, -⟩ | hdead
    · rw [hmain]
      exact h.early
    · rintro (hm | hm) <;> simp [Session.live, hm] at hdead
  · rw [hwritten, hpeer]
    rcases hmain with ⟨hmain, -⟩ | hdead
    · rw [hmain]
      exact h.awaiting
    · intro buffer hm
      simp [Session.live, hm] at hdead
  · rw [hpeer]
    rcases hmain with ⟨hmain, -⟩ | hdead
    · rw [hmain]
      exact h.sending
    · intro key hm
      simp [Session.live, hm] at hdead
  · rw [hpeer]
    rcases hreceiver with hreceiver | hstopped
    · rw [hreceiver]
      exact h.looping
    · exact fun key buffer hr => absurd hr (hstopped key buffer)
  · rw [hpeer, hwritten, hconfig]
    exact h.agreed
  · rw [hsent, hpeer]
    exact h.sealed_sent
  · rw [hwritten, hsent, hconfig]
    exact h.history
  · rw [hkept, hkept, hsent, hsubmitted]
    rcases hmain with ⟨hmain, hqueue⟩ | hdead
    · rw [Session.live, hmain, hqueue]
      exact h.queued
    · rw [hdead]
      intro hlive
      cases hlive
  · rw [hkept, hsent, hsubmitted]
    exact h.typed

/-- It is well after it has written its hello. -/
theorem Session.Well.greet {s : Session C} (h : s.Well) (hmain : s.main = .starting) :
    (s.wroteHello (.awaitingHello [])).Well := by
  obtain ⟨hwritten, hpeer⟩ := h.early (Or.inr hmain)
  obtain ⟨hsent, -⟩ := h.quiet hpeer
  refine ⟨h.quiet, ?_, ?_, ?_, h.looping, ?_, h.sealed_sent, ?_, ?_, h.typed⟩
  · rintro (hm | hm) <;> cases hm
  · exact fun _ _ => ⟨by simp [Session.wroteHello], hpeer⟩
  · intro key hm
    cases hm
  · intro hello key hp
    cases hpeer.symm.trans hp
  · exact Or.inr (by simp [Session.wroteHello, hwritten, hsent])
  · exact fun _ => h.queued (by simp [Session.live, hmain])

/-- What the send loop seals was typed. -/
theorem Session.Well.next_typed {s : Session C} (h : s.Well) {key : SessionKey C.primitives}
    {line : Text} {rest : List Text} (hmain : s.main = .sending key)
    (hqueue : s.queue = line :: rest) (hskips : skips s.config.program line = false) :
    line ∈ s.submitted := by
  have hqueued := h.queued (by simp [Session.live, hmain])
  have hkept : line ∈ s.kept s.queue := by simp [Session.kept, hqueue, hskips]
  have hmem : line ∈ s.kept s.submitted := by
    rw [← hqueued]
    exact List.mem_append_right _ hkept
  exact List.mem_of_mem_filter hmem

/-- It is well after its send loop has written a line. -/
theorem Session.Well.wrote {s : Session C} (h : s.Well) {key : SessionKey C.primitives}
    {nonce : Nonce C.primitives} {line : Text} {rest : List Text} {frame : ChatFrame Text}
    (hmain : s.main = .sending key) (hqueue : s.queue = line :: rest)
    (hskips : skips s.config.program line = false) (hseal : sealChat key nonce line = .ok frame) :
    (s.wrote line frame rest).Well := by
  obtain ⟨hello, hpeer⟩ := h.sending key hmain
  have hwritten := (h.agreed hello key hpeer).1
  have hqueued := h.queued (by simp [Session.live, hmain])
  have hline : s.kept (line :: rest) = line :: s.kept rest := by simp [Session.kept, hskips]
  have hqueued' : (s.sent ++ [(line, frame)]).map Prod.fst ++ s.kept rest =
      s.kept s.submitted := by
    rw [← hqueued, hqueue, hline]
    simp
  refine ⟨?_, ?_, ?_, h.sending, h.looping, ?_, ?_, Or.inr ?_, fun _ => hqueued', ?_⟩
  · intro hp
    cases hpeer.symm.trans hp
  · rintro (hm | hm) <;> cases hmain.symm.trans hm
  · intro _ hm
    cases hmain.symm.trans hm
  · exact fun hello' key' hp => ⟨by simp [Session.wrote], (h.agreed hello' key' hp).2⟩
  · intro m hm
    rcases List.mem_append.1 hm with hm | hm
    · exact h.sealed_sent m hm
    · obtain rfl := List.mem_singleton.1 hm
      exact ⟨hello, key, nonce, hpeer, hseal⟩
  · rcases h.history with ⟨hnil, -⟩ | hhistory
    · exact absurd hnil hwritten
    · simp [Session.wrote, hhistory]
  · exact ⟨s.kept rest, hqueued'⟩

/-- It is well after a line was typed. -/
theorem Session.Well.submit {s : Session C} (h : s.Well) (hlive : s.live = true) (line : Text) :
    ({ s with queue := s.queue ++ [line], submitted := s.submitted ++ [line] } : Session C).Well := by
  have hqueued := h.queued hlive
  refine ⟨h.quiet, h.early, h.awaiting, h.sending, h.looping, h.agreed, h.sealed_sent,
    h.history, fun _ => ?_, h.typed.trans ?_⟩
  · show s.sent.map Prod.fst ++ s.kept (s.queue ++ [line]) = s.kept (s.submitted ++ [line])
    simp only [Session.kept, List.filter_append] at hqueued ⊢
    rw [← List.append_assoc, hqueued]
  · show s.kept s.submitted <+: s.kept (s.submitted ++ [line])
    rw [Session.kept, Session.kept, List.filter_append]
    exact List.prefix_append _ _

/-- It is well with a longer buffer. -/
theorem Session.Well.refill {s : Session C} (h : s.Well) (buffer : Bytes) :
    (s.refill buffer).Well := by
  unfold Session.refill
  split
  · next b hmain =>
    refine ⟨h.quiet, ?_, fun _ _ => h.awaiting b hmain, ?_, h.looping, h.agreed, h.sealed_sent,
      h.history, fun _ => h.queued (by simp [Session.live, hmain]), h.typed⟩
    · rintro (hm | hm) <;> cases hm
    · intro _ hm
      cases hm
  · next key b hreceiver hmain =>
    refine ⟨h.quiet, h.early, h.awaiting, h.sending, ?_, h.agreed, h.sealed_sent, h.history,
      h.queued, h.typed⟩
    intro key' buffer' hr
    obtain ⟨rfl, -⟩ := Receiver.looping.inj hr
    exact h.looping _ _ hreceiver
  · exact h

/-- It is well after a fault of its main thread. -/
theorem Session.Well.fail {s : Session C} (h : s.Well) (fault : Fault) : (s.fail fault).Well := by
  cases fault with
  | error message => exact h.stop rfl rfl rfl rfl rfl rfl (Or.inr rfl) (Or.inl rfl)
  | panic => exact h.stop rfl rfl rfl rfl rfl rfl (Or.inr rfl) (Or.inl rfl)

/-- It is well after its send loop has returned. -/
theorem Session.Well.leave {s : Session C} (h : s.Well) (failure : Option Text) :
    (s.leave failure).Well :=
  h.stop rfl rfl rfl rfl rfl rfl (Or.inr rfl) (Or.inl rfl)

/-- It is well after its reading thread has taken a line. -/
theorem Session.Well.taken {s s' : Session C} {line rest : Bytes} (h : s.Well)
    (ht : Taken J s line rest s') : s'.Well := by
  cases ht with
  | @accepted buffer hello key hmain hgreet =>
      obtain ⟨hwritten, hpeer⟩ := h.awaiting buffer hmain
      obtain ⟨hsent, hreported⟩ := h.quiet hpeer
      obtain ⟨-, hkey⟩ := greet_eq_ok.1 hgreet
      refine ⟨?_, ?_, ?_, ?_, ?_, ?_, ?_, h.history, ?_, h.typed⟩
      · intro hp
        cases hp
      · rintro (hm | hm) <;> cases hm
      · intro _ hm
        cases hm
      · intro key' hm
        obtain rfl := Main.sending.inj hm
        exact ⟨hello, rfl⟩
      · intro key' buffer' hr
        obtain ⟨rfl, -⟩ := Receiver.looping.inj hr
        exact ⟨hello, rfl⟩
      · intro hello' key' hp
        obtain ⟨rfl, rfl⟩ := Prod.mk.inj (Option.some.inj hp)
        exact ⟨hwritten, hkey⟩
      · intro m hm
        rw [Session.accept, hsent] at hm
        cases hm
      · intro _
        exact h.queued (by simp [Session.live, hmain])
  | refused hmain hgreet => exact h.fail _
  | @reported key buffer body hmain hreceiver hbody =>
      obtain ⟨hello, hpeer⟩ := h.looping key buffer hreceiver
      refine ⟨?_, h.early, h.awaiting, h.sending, ?_, h.agreed, h.sealed_sent, h.history, h.queued,
        h.typed⟩
      · intro hp
        cases hpeer.symm.trans hp
      · intro key' buffer' hr
        obtain ⟨rfl, -⟩ := Receiver.looping.inj hr
        exact ⟨hello, hpeer⟩
  | broken hmain hreceiver hbody =>
      exact h.stop rfl rfl rfl rfl rfl rfl (Or.inl ⟨rfl, rfl⟩) (Or.inr fun _ _ hr => by cases hr)

/-- A session keeps itself well formed. -/
theorem Session.Well.of_change {s s' : Session C} {l : Label C} {bytes : Bytes} (h : s.Well)
    (hc : Change J s l s' bytes) : s'.Well := by
  cases hc with
  | typed hopen hlive => exact h.submit hlive _
  | closed hopen => exact h.stop rfl rfl rfl rfl rfl rfl (Or.inl ⟨rfl, rfl⟩) (Or.inl rfl)
  | exited =>
      exact h.stop rfl rfl rfl rfl rfl rfl (Or.inr rfl) (Or.inr fun _ _ hr => by cases hr)
  | lostInput hcli hmain => exact h.leave _
  | announced hmain hevent =>
      exact h.stop rfl rfl rfl rfl rfl rfl (Or.inl ⟨rfl, rfl⟩) (Or.inl rfl)
  | connected hmain =>
      refine ⟨h.quiet, fun _ => h.early (Or.inl hmain), ?_, ?_, h.looping, h.agreed, h.sealed_sent,
        h.history, fun _ => h.queued (by simp [Session.live, hmain]), h.typed⟩
      · intro _ hm
        cases hm
      · intro _ hm
        cases hm
  | unconnected hmain => exact h.leave _
  | greeted hmain => exact h.greet hmain
  | ungreeted hmain =>
      exact (h.greet hmain).stop rfl rfl rfl rfl rfl rfl (Or.inr rfl) (Or.inl rfl)
  | skipped hmain hqueue hskips =>
      refine h.stop rfl rfl rfl rfl rfl rfl (Or.inl ⟨rfl, ?_⟩) (Or.inl rfl)
      simp [Session.kept, hqueue, hskips]
  | wrote hmain hqueue hskips hseal => exact h.wrote hmain hqueue hskips hseal
  | unsealed hmain hqueue hskips hseal => exact h.fail _
  | unsent hmain hqueue hskips hseal => exact (h.wrote hmain hqueue hskips hseal).leave _
  | finished hmain hqueue hclosed => exact h.leave _
  | filled hreading hne hline => exact h.refill _
  | read hreading hline => exact h.taken (.of_onLine hreading _ _)
  | readLast hreading hline => exact h.taken (.of_onLine hreading _ _)
  | unread hreading hline =>
      unfold Session.readFails
      split
      · exact h.leave _
      · exact h.stop rfl rfl rfl rfl rfl rfl (Or.inl ⟨rfl, rfl⟩) (Or.inr fun _ _ hr => by cases hr)
  | concluded hmain hjoined => exact h.stop rfl rfl rfl rfl rfl rfl (Or.inr rfl) (Or.inl rfl)
  | stopped hreceiver =>
      exact h.stop rfl rfl rfl rfl rfl rfl (Or.inl ⟨rfl, rfl⟩) (Or.inr fun _ _ hr => by cases hr)

/-! ## What has ended -/

/-- A main thread that has ended stays so. -/
theorem Change.main_ended {s s' : Session C} {l : Label C} {bytes : Bytes}
    (h : Change J s l s' bytes) (hended : s.main = .ended) : s'.main = .ended := by
  have htaken {t : Session C} {line rest : Bytes} (ht : Taken J s line rest t) :
      t.main = .ended := by
    cases ht with
    | accepted hmain | refused hmain => cases hended.symm.trans hmain
    | reported | broken => exact hended
  cases h with
  | lostInput _ hmain => cases hended.symm.trans hmain
  | connected hmain | unconnected hmain | greeted hmain | ungreeted hmain =>
      cases hended.symm.trans hmain
  | unsealed hmain | unsent hmain | finished hmain => cases hended.symm.trans hmain
  | exited | concluded => rfl
  | filled =>
      unfold Session.refill
      split
      · next hmain => cases hended.symm.trans hmain
      · exact hended
      · exact hended
  | unread =>
      unfold Session.readFails
      split
      · next hmain => cases hended.symm.trans hmain
      · exact hended
  | read hreading | readLast hreading => exact htaken (.of_onLine hreading _ _)
  | typed | closed | announced | skipped | wrote | stopped => exact hended

/-- A main thread that is about to prepare was so before. -/
theorem Change.main_preparing {s s' : Session C} {l : Label C} {bytes : Bytes}
    (h : Change J s l s' bytes) (hpreparing : s'.main = .preparing) : s.main = .preparing := by
  have hfail {fault : Fault} : (s.fail fault).main ≠ .preparing := by
    cases fault <;> exact nofun
  have htaken {t : Session C} {line rest : Bytes} (ht : Taken J s line rest t)
      (hpreparing : t.main = .preparing) : s.main = .preparing := by
    cases ht with
    | accepted => cases hpreparing
    | refused => exact absurd hpreparing hfail
    | reported | broken => exact hpreparing
  cases h with
  | typed | closed | announced | skipped | wrote | stopped => exact hpreparing
  | exited | lostInput | connected | unconnected | greeted | ungreeted | unsent | finished |
    concluded => cases hpreparing
  | unsealed => exact absurd hpreparing hfail
  | filled =>
      unfold Session.refill at hpreparing
      split at hpreparing
      · cases hpreparing
      · exact hpreparing
      · exact hpreparing
  | unread =>
      unfold Session.readFails at hpreparing
      split at hpreparing
      · cases hpreparing
      · exact hpreparing
  | read hreading | readLast hreading => exact htaken (.of_onLine hreading _ _) hpreparing

/-- Only the user types. -/
theorem Change.submitted_eq {s s' : Session C} {l : Label C} {bytes : Bytes}
    (h : Change J s l s' bytes) (hl : ∀ line, l ≠ .submit line) : s'.submitted = s.submitted := by
  have hmoved {t : Session C} (ht : s.Moved t) : t.submitted = s.submitted := by
    obtain ⟨main, receiver, queue, rfl⟩ := ht
    rfl
  have htaken {t : Session C} {line rest : Bytes} (ht : Taken J s line rest t) :
      t.submitted = s.submitted := by
    cases ht with
    | refused => exact hmoved (s.fail_moved _)
    | accepted | reported | broken => rfl
  cases h with
  | typed => exact absurd rfl (hl _)
  | unsealed => exact hmoved (s.fail_moved _)
  | filled => exact hmoved (s.refill_moved _)
  | unread => exact hmoved (s.readFails_moved _)
  | read hreading | readLast hreading => exact htaken (.of_onLine hreading _ _)
  | _ => rfl

/-- What was typed stays typed. -/
theorem Change.submitted_subset {s s' : Session C} {l : Label C} {bytes : Bytes}
    (h : Change J s l s' bytes) : s.submitted ⊆ s'.submitted := by
  by_cases hl : ∃ line, l = .submit line
  · obtain ⟨line, rfl⟩ := hl
    cases h with
    | typed => exact List.subset_append_left _ _
  · rw [h.submitted_eq fun line heq => hl ⟨line, heq⟩]
    exact List.Subset.refl _

end Fauna.Net
