import Fauna.Desktop.Thread

/-!
# What is read of the peer's stream

The handshake reads one line of the stream, and `receive_loop` the lines after it, in the window and
in the CLI alike. Over every run, with the labels that have led there: the stream is cut into the
line of the hello, the lines of the loop and what is left, and what the loop has reported and
returned is what it made of these lines.

* `Cut`: how a stream is cut into lines, and what each read does to that.
* `NetworkThread.Reading`: what is known once a hello is accepted.
* `NetworkThread.Reads.step`: that every step of the threads keeps it.
-/

namespace Fauna.Desktop

open Fauna.Lib Fauna.Core Fauna.Wire Fauna.Net Fauna.Dial

variable {C : Crates} {J : SerdeJson}

/-! ## The lines of the stream -/

/-- The end of the stream is its end: no later read returns anything. -/
def EndsOnce (acts : List (ThreadAct C)) : Prop :=
  ∀ before after bytes, acts = before ++ ThreadAct.network .readEnd :: after →
    ThreadAct.network (.fill bytes) ∉ after

/-- How what was received is cut into lines; `tail` is what no line was made of yet. -/
structure Cut (acts : List (ThreadAct C)) (received : Bytes) (lines : List Bytes) (tail : Bytes) :
    Prop where
  joined : received = lines.flatten ++ tail
  /-- They are the lines of the stream. -/
  split : EndsOnce acts → splitLines received = lines ++ splitLines tail
  /-- As long as the stream has not ended, each has its line feed. -/
  whole : ThreadAct.network .readEnd ∉ acts →
    ∀ line ∈ lines, ∃ body, newline ∉ body ∧ line = body ++ [newline]
  /-- Once it has ended, nothing is left. -/
  ended : EndsOnce acts → ThreadAct.network .readEnd ∈ acts → tail = []

section Cut

variable {acts : List (ThreadAct C)} {act : ThreadAct C} {received tail : Bytes}
  {lines : List Bytes}

/-- What ends once has ended once before. -/
theorem EndsOnce.before (h : EndsOnce (acts ++ [act])) : EndsOnce acts := by
  intro before after bytes hsplit hfill
  refine h before (after ++ [act]) bytes ?_ (List.mem_append_left _ hfill)
  rw [hsplit, List.append_assoc, List.cons_append]

/-- Where something is read, the stream has not ended before. -/
theorem EndsOnce.not_ended {bytes : Bytes} (h : EndsOnce (acts ++ [.network (.fill bytes)])) :
    ThreadAct.network .readEnd ∉ acts := by
  intro hend
  obtain ⟨before, after, hsplit⟩ := List.append_of_mem hend
  refine h before (after ++ [.network (.fill bytes)]) bytes ?_ (by simp)
  rw [hsplit, List.append_assoc, List.cons_append]

/-- Nothing has been read. -/
theorem Cut.nil : Cut acts [] [] [] :=
  ⟨rfl, fun _ => rfl, fun _ _ hline => absurd hline List.not_mem_nil, fun _ _ => rfl⟩

/-- Another step. -/
theorem Cut.step (h : Cut acts received lines tail) (hact : act ≠ .network .readEnd) :
    Cut (acts ++ [act]) received lines tail := by
  have hmem : ThreadAct.network .readEnd ∈ acts ++ [act] ↔ ThreadAct.network .readEnd ∈ acts := by
    rw [List.mem_append, List.mem_singleton, or_iff_left fun heq => hact heq.symm]
  refine ⟨h.joined, fun honce => h.split honce.before, ?_, ?_⟩
  · rw [hmem]
    exact h.whole
  · rw [hmem]
    exact fun honce => h.ended honce.before

/-- A read returns bytes. -/
theorem Cut.fill (h : Cut acts received lines tail) (bytes : Bytes) :
    Cut (acts ++ [.network (.fill bytes)]) (received ++ bytes) lines (tail ++ bytes) := by
  have hstep : Cut (acts ++ [.network (.fill bytes)]) received lines tail := h.step nofun
  have hreceived : received ++ bytes = lines.flatten ++ (tail ++ bytes) := by
    rw [h.joined, List.append_assoc]
  refine ⟨hreceived, ?_, hstep.whole, ?_⟩
  · intro honce
    rw [hreceived, splitLines_flatten_append (h.whole honce.not_ended)]
  · intro honce hend
    rw [List.mem_append, or_iff_right honce.not_ended] at hend
    cases List.mem_singleton.1 hend

/-- A line is complete. -/
theorem Cut.line (h : Cut acts received lines tail) {line rest : Bytes}
    (hline : takeLine tail = some (line, rest)) :
    Cut (acts ++ [.network .readLine]) received (lines ++ [line]) rest := by
  obtain ⟨body, hbody, rfl, rfl⟩ := takeLine_eq_some hline
  have hstep : Cut (acts ++ [.network .readLine]) received lines (body ++ [newline] ++ rest) :=
    h.step nofun
  refine ⟨?_, ?_, ?_, ?_⟩
  · simp [h.joined]
  · intro honce
    rw [hstep.split honce, List.append_assoc body, List.singleton_append, splitLines_line hbody]
    simp
  · intro hopen line hmem
    rcases List.mem_append.1 hmem with hmem | hmem
    · exact hstep.whole hopen line hmem
    · exact ⟨body, hbody, List.mem_singleton.1 hmem⟩
  · intro honce hend
    simpa using hstep.ended honce hend

/-- The stream has ended: what is left is its last line, unless nothing is. -/
theorem Cut.last (h : Cut acts received lines tail) (hline : takeLine tail = none) :
    Cut (acts ++ [.network .readEnd]) received (lines ++ if tail = [] then [] else [tail]) [] := by
  have hlast := splitLines_of_not_mem (takeLine_eq_none_iff.1 hline)
  refine ⟨?_, ?_, ?_, fun _ _ => rfl⟩
  · rw [h.joined]
    split <;> simp [*]
  · intro honce
    rw [h.split honce.before, hlast]
    simp [splitLines]
  · intro hopen
    exact absurd (List.mem_append_right _ (List.mem_singleton_self _)) hopen

end Cut

/-! ## What the loop makes of its lines -/

variable (J) in
/-- A line holds a chat frame whose ciphertext decrypts under the key, and `body` is the lossy UTF-8
decoding of the plaintext. -/
def Decrypts (program : Program) (key : SessionKey C.primitives) (line : Bytes) (body : Text) :
    Prop :=
  ∃ frame nonce ciphertext plaintext, program.readChat J line = .ok frame ∧
    C.primitives.decode frame.nonce = some nonce ∧ C.primitives.hasLength 24 nonce = true ∧
    C.primitives.decode frame.ciphertext = some ciphertext ∧
    C.primitives.aeadDecrypt key.bytes nonce ciphertext = some plaintext ∧
    body = C.primitives.fromUtf8Lossy plaintext

/-- A line decrypts exactly where the receive loop reports its body. -/
theorem decrypts_iff {program : Program} {key : SessionKey C.primitives} {line : Bytes}
    {body : Text} : Decrypts J program key line body ↔ receiveOnce J program key line = .ok body := by
  unfold receiveOnce Decrypts
  simp only [bind_eq_ok, openChat_eq_ok]
  constructor
  · rintro ⟨frame, nonce, ciphertext, plaintext, hread, h⟩
    exact ⟨frame, hread, nonce, ciphertext, plaintext, h⟩
  · rintro ⟨frame, hread, nonce, ciphertext, plaintext, h⟩
    exact ⟨frame, nonce, ciphertext, plaintext, hread, h⟩

variable (J) in
/-- What `receive_loop` has made of its lines: the bodies that it has reported, what it has left of
the stream, and what it has returned. -/
inductive Heard (program : Program) (key : SessionKey C.primitives) (acts : List (ThreadAct C)) :
    List Bytes → List Text → Bytes → Option Fault → Prop
  /-- It has not returned. -/
  | looping {lines bodies tail} (hheard : List.Forall₂ (Decrypts J program key) lines bodies) :
      Heard program key acts lines bodies tail none
  /-- A line does not decrypt. What comes after it is not looked at. -/
  | refused {lines bodies line tail fault}
      (hheard : List.Forall₂ (Decrypts J program key) lines bodies)
      (hline : receiveOnce J program key line = .error fault) :
      Heard program key acts (lines ++ [line]) bodies tail (some fault)
  /-- The stream has ended, and nothing is left of it. -/
  | ended {lines bodies} (hheard : List.Forall₂ (Decrypts J program key) lines bodies)
      (hend : ThreadAct.network .readEnd ∈ acts) :
      Heard program key acts lines bodies [] (some (closed program))
  /-- A read has failed, and no whole line is left. -/
  | unread {lines bodies tail message}
      (hheard : List.Forall₂ (Decrypts J program key) lines bodies)
      (hread : ThreadAct.network (.failRead message) ∈ acts) (htail : newline ∉ tail) :
      Heard program key acts lines bodies tail (some (.error message))

/-- What the receive loop has made of its lines stays true of a longer run. -/
theorem Heard.step {program : Program} {key : SessionKey C.primitives} {acts : List (ThreadAct C)}
    {lines : List Bytes} {bodies : List Text} {tail : Bytes} {returned : Option Fault}
    (h : Heard J program key acts lines bodies tail returned) (act : ThreadAct C) :
    Heard J program key (acts ++ [act]) lines bodies tail returned := by
  cases h with
  | looping hheard => exact .looping hheard
  | refused hheard hline => exact .refused hheard hline
  | ended hheard hend => exact .ended hheard (List.mem_append_left _ hend)
  | unread hheard hread htail => exact .unread hheard (List.mem_append_left _ hread) htail

variable (J) in
/-- What the threads of a session have made of the peer's stream: the line of the hello that was
accepted, the lines of the loop, and `tail`. -/
structure NetworkThread.Reading (acts : List (ThreadAct C)) (thread : NetworkThread C)
    (hello : HelloFrame Text) (key : SessionKey C.primitives) (greeting tail : Bytes) : Prop where
  hello : greet J thread.session.config.program thread.session.config.exchange
    thread.session.config.expected greeting = .ok (hello, key)
  cut : Cut acts thread.received (greeting :: thread.lines) tail
  heard : Heard J thread.session.config.program key acts thread.lines thread.session.reported tail
    thread.returned
  /-- While the loop reads, it has returned nothing, and holds all that is left. -/
  looping : ∀ key' buffer, thread.session.receiver = .looping key' buffer →
    thread.returned = none ∧ key' = key ∧ buffer = tail
  stopped : ∀ fault, thread.session.receiver = .returned fault → thread.returned = some fault
  /-- Unless it reads, or the process has ended, it has returned. -/
  through : thread.returned = none →
    thread.session.receiver = .looping key tail ∨ ThreadAct.network .exit ∈ acts

section Reading

variable {acts : List (ThreadAct C)} {thread : NetworkThread C} {hello : HelloFrame Text}
  {key : SessionKey C.primitives} {greeting tail : Bytes}

/-- While the loop reads. -/
theorem NetworkThread.Reading.of_looping
    (hreceiver : thread.session.receiver = .looping key tail) (hreturned : thread.returned = none)
    (hhello : greet J thread.session.config.program thread.session.config.exchange
      thread.session.config.expected greeting = .ok (hello, key))
    (hcut : Cut acts thread.received (greeting :: thread.lines) tail)
    (hheard : List.Forall₂ (Decrypts J thread.session.config.program key) thread.lines
      thread.session.reported) : thread.Reading J acts hello key greeting tail where
  hello := hhello
  cut := hcut
  heard := by
    rw [hreturned]
    exact .looping hheard
  looping key' buffer hlooping := by
    obtain ⟨rfl, rfl⟩ := Receiver.looping.inj (hreceiver.symm.trans hlooping)
    exact ⟨hreturned, rfl, rfl⟩
  stopped fault hstopped := by cases hreceiver.symm.trans hstopped
  through _ := Or.inl hreceiver

/-- When the loop has returned. -/
theorem NetworkThread.Reading.of_returned {fault : Fault}
    (hreceiver : thread.session.receiver = .returned fault)
    (hreturned : thread.returned = some fault)
    (hhello : greet J thread.session.config.program thread.session.config.exchange
      thread.session.config.expected greeting = .ok (hello, key))
    (hcut : Cut acts thread.received (greeting :: thread.lines) tail)
    (hheard : Heard J thread.session.config.program key acts thread.lines thread.session.reported
      tail (some fault)) : thread.Reading J acts hello key greeting tail where
  hello := hhello
  cut := hcut
  heard := by
    rw [hreturned]
    exact hheard
  looping key' buffer hlooping := by cases hreceiver.symm.trans hlooping
  stopped fault' hstopped := by
    obtain rfl := Receiver.returned.inj (hreceiver.symm.trans hstopped)
    exact hreturned
  through hnone := by cases hnone.symm.trans hreturned

/-- What is known of a loop that reads. -/
theorem NetworkThread.Reading.bodies (h : thread.Reading J acts hello key greeting tail)
    (hreturned : thread.returned = none) :
    List.Forall₂ (Decrypts J thread.session.config.program key) thread.lines
      thread.session.reported := by
  have hheard := h.heard
  rw [hreturned] at hheard
  generalize thread.lines = lines at hheard ⊢
  cases hheard with
  | looping hheard => exact hheard

end Reading

/-! ## Every step keeps it -/

variable (J) in
/-- What every step of the threads keeps of what they read. -/
structure NetworkThread.Reads (acts : List (ThreadAct C)) (thread : NetworkThread C) : Prop where
  /-- Until a hello is accepted there is no line, and what was received is buffered. -/
  unread : thread.session.peer = none → thread.lines = [] ∧ thread.returned = none ∧
    ∀ buffer, thread.session.inbox = some buffer → Cut acts thread.received [] buffer
  reading : ∀ hello key, thread.session.peer = some (hello, key) →
    ∃ greeting tail, thread.Reading J acts hello key greeting tail

section Reads

variable {acts : List (ThreadAct C)} {thread : NetworkThread C}

/-- The empty line at the end of a stream is no hello. -/
theorem greet_nil {program : Program} {exchange : ExchangeKeypair C.primitives}
    {expected : Option Text} {result : HelloFrame Text × SessionKey C.primitives} :
    greet J program exchange expected [] ≠ .ok result := by
  cases program <;> exact nofun

/-- A receive thread that is in no loop returns nothing. -/
theorem loopResult_of_idle {returned : Option Fault} {receiver receiver' : Receiver C}
    (h : receiver.buffer = none) : loopResult returned receiver receiver' = returned := by
  cases receiver with
  | looping => cases h
  | _ => rfl

/-- A step that reads nothing. -/
theorem NetworkThread.Reads.idle (h : thread.Reads J acts) {act : ThreadAct C}
    {preparing : Action (Option Text)} {session : Session C} (hact : act ≠ .network .readEnd)
    (hconfig : session.config = thread.session.config ∨ thread.session.peer = none)
    (hpeer : session.peer = thread.session.peer)
    (hreported : session.reported = thread.session.reported)
    (hinbox : session.inbox = thread.session.inbox ∨ session.inbox = none)
    (hreceiver : session.receiver = thread.session.receiver ∨ session.receiver = .ended ∧
      (act = .network .exit ∨ ∃ fault, thread.session.receiver = .returned fault)) :
    (⟨preparing, session, thread.received, thread.lines, thread.returned⟩ :
      NetworkThread C).Reads J (acts ++ [act]) := by
  refine ⟨?_, ?_⟩
  · intro hnone
    obtain ⟨hlines, hreturned, hcut⟩ := h.unread (hpeer.symm.trans hnone)
    refine ⟨hlines, hreturned, fun buffer hbuffer => ?_⟩
    rcases hinbox with hsame | hgone
    · exact (hcut buffer (hsame.symm.trans hbuffer)).step hact
    · cases hgone.symm.trans hbuffer
  · intro hello key hsome
    have hsome' := hpeer.symm.trans hsome
    obtain ⟨greeting, tail, hreading⟩ := h.reading hello key hsome'
    have hconfig' : session.config = thread.session.config :=
      hconfig.resolve_right fun hnone => by cases hsome'.symm.trans hnone
    refine ⟨greeting, tail, ?_, hreading.cut.step hact, ?_, ?_, ?_, ?_⟩
    · simpa only [hconfig'] using hreading.hello
    · simpa only [hconfig', hreported] using hreading.heard.step act
    · intro key' buffer hlooping
      rcases hreceiver with hsame | ⟨hended, -⟩
      · exact hreading.looping key' buffer (hsame.symm.trans hlooping)
      · cases hended.symm.trans hlooping
    · intro fault hreturned
      rcases hreceiver with hsame | ⟨hended, -⟩
      · exact hreading.stopped fault (hsame.symm.trans hreturned)
      · cases hended.symm.trans hreturned
    · intro hnone
      rcases hreading.through hnone with hlooping | hexit
      · rcases hreceiver with hsame | ⟨-, rfl | ⟨fault, hreturned⟩⟩
        · exact Or.inl (hsame.trans hlooping)
        · exact Or.inr (List.mem_append_right _ (List.mem_singleton_self _))
        · cases hlooping.symm.trans hreturned
      · exact Or.inr (List.mem_append_left _ hexit)

/-- A read returns bytes. -/
theorem NetworkThread.Reads.filled (h : thread.Reads J acts) (hwell : thread.session.Well)
    {buffer : Bytes} (hreading : thread.session.reading = some buffer) (bytes : Bytes) :
    (⟨thread.preparing, thread.session.refill (buffer ++ bytes), thread.received ++ bytes,
      thread.lines, loopResult thread.returned thread.session.receiver
        (thread.session.refill (buffer ++ bytes)).receiver⟩ : NetworkThread C).Reads J
      (acts ++ [.network (.fill bytes)]) := by
  have hinbox := hwell.inbox_refill hreading (buffer ++ bytes)
  cases hpeer : thread.session.peer with
  | none =>
      obtain ⟨hlines, hreturned, hcut⟩ := h.unread hpeer
      have hmain : thread.session.main = .awaitingHello buffer := by
        unfold Session.reading at hreading
        split at hreading
        · next b hmain => rw [hmain, Option.some.inj hreading]
        · cases (hwell.not_looping hpeer).symm.trans hreading
      have hrefill : thread.session.refill (buffer ++ bytes) =
          { thread.session with main := .awaitingHello (buffer ++ bytes) } := by
        simp only [Session.refill, hmain]
      have hcut' := (hcut buffer (hwell.inbox_of_reading hreading)).fill bytes
      rw [hrefill] at hinbox ⊢
      refine ⟨fun _ => ⟨hlines, ?_, ?_⟩, ?_⟩
      · rw [loopResult_self, hreturned]
      · intro b hb
        obtain rfl := Option.some.inj (hinbox.symm.trans hb)
        exact hcut'
      · intro hello key hsome
        cases hpeer.symm.trans hsome
  | some peer =>
      obtain ⟨key, hlooping⟩ := Receiver.buffer_eq_some.1
        ((hwell.inbox_of_peer hpeer rfl).2.symm.trans hreading)
      obtain ⟨-, -, hawaiting⟩ := hwell.main_of_peer hpeer
      have hrefill : thread.session.refill (buffer ++ bytes) =
          { thread.session with receiver := .looping key (buffer ++ bytes) } := by
        unfold Session.refill
        split
        · next b hmain => exact absurd hmain (hawaiting b)
        · next key' b hreceiver _ =>
          obtain ⟨rfl, -⟩ := Receiver.looping.inj (hlooping.symm.trans hreceiver)
          rfl
        · next hmain hreceiver => exact absurd hlooping (hreceiver _ _)
      rw [hrefill]
      refine ⟨fun hnone => ?_, ?_⟩
      · cases hpeer.symm.trans hnone
      · intro hello key' hsome
        obtain ⟨greeting, tail, hread⟩ := h.reading hello key' hsome
        obtain ⟨hreturned, rfl, rfl⟩ := hread.looping key buffer hlooping
        refine ⟨greeting, buffer ++ bytes, .of_looping rfl ?_ hread.hello (hread.cut.fill bytes)
          (hread.bodies hreturned)⟩
        rw [hlooping, ← hreturned]
        rfl

/-- A line was taken, by the handshake or by the loop; at the end of the stream it may be blank, and
then it is none. -/
theorem NetworkThread.Reads.taken (h : thread.Reads J acts) (hwell : thread.session.Well)
    {session : Session C} {buffer line rest : Bytes} {act : ThreadAct C} {new lines : List Bytes}
    (hreading : thread.session.reading = some buffer) (ht : Taken J thread.session line rest session)
    (hcut : ∀ received before, Cut acts received before buffer →
      Cut (acts ++ [act]) received (before ++ new) rest)
    (hnew : new = [line] ∨ line = [] ∧ new = [] ∧ rest = [] ∧ act = .network .readEnd)
    (hlines : thread.session.peer ≠ none → lines = new)
    (hnone : thread.session.peer = none → lines = []) :
    (⟨thread.preparing, session, thread.received, thread.lines ++ lines,
      loopResult thread.returned thread.session.receiver session.receiver⟩ :
        NetworkThread C).Reads J (acts ++ [act]) := by
  -- the loop holds the buffer
  have hheld {key : SessionKey C.primitives} {b : Bytes}
      (hreceiver : thread.session.receiver = .looping key b) :
      ∃ hello, thread.session.peer = some (hello, key) ∧ b = buffer := by
    obtain ⟨hello, hpeer⟩ := hwell.looping key b hreceiver
    refine ⟨hello, hpeer, ?_⟩
    rw [(hwell.inbox_of_peer hpeer rfl).2, hreceiver] at hreading
    exact Option.some.inj hreading
  cases ht with
  | @accepted b hello key hmain hgreet =>
      have hpeer := (hwell.awaiting b hmain).2
      obtain ⟨hnil, hreturned, hbuffered⟩ := h.unread hpeer
      have hone : new = [line] := by
        rcases hnew with hone | ⟨rfl, -⟩
        · exact hone
        · exact absurd hgreet greet_nil
      have hcut' := hcut _ _ (hbuffered buffer (hwell.inbox_of_reading hreading))
      rw [hone] at hcut'
      refine ⟨fun hgone => ?_, ?_⟩
      · cases hgone
      · intro hello' key' hsome
        obtain ⟨rfl, rfl⟩ := Prod.mk.inj (Option.some.inj hsome)
        refine ⟨line, rest, .of_looping rfl ?_ hgreet ?_ ?_⟩
        · exact (loopResult_of_idle (hwell.not_looping hpeer)).trans hreturned
        · rw [hnil, hnone hpeer]
          exact hcut'
        · simp only [hnil, hnone hpeer, Session.accept, (hwell.quiet hpeer).2]
          exact .nil
  | @refused b fault hmain hgreet =>
      have hpeer := (hwell.awaiting b hmain).2
      obtain ⟨hnil, hreturned, -⟩ := h.unread hpeer
      have hidle := hwell.not_looping hpeer
      have hfail : (thread.session.fail fault).peer = none ∧
          (thread.session.fail fault).inbox = none := by
        cases fault <;> exact ⟨hpeer, hidle⟩
      obtain ⟨hpeer', hinbox⟩ := hfail
      refine ⟨fun _ => ⟨?_, ?_, ?_⟩, ?_⟩
      · rw [hnil, hnone hpeer, List.append_nil]
      · rw [loopResult_of_idle hidle, hreturned]
      · intro buffer' hbuffer
        cases hinbox.symm.trans hbuffer
      · intro hello key hsome
        cases hpeer'.symm.trans hsome
  | @reported key b body hmain hreceiver hbody =>
      obtain ⟨hello, hpeer, rfl⟩ := hheld hreceiver
      obtain ⟨greeting, tail, hread⟩ := h.reading hello key hpeer
      obtain ⟨hreturned, -, rfl⟩ := hread.looping key b hreceiver
      have hone : new = [line] := by
        rcases hnew with hone | ⟨rfl, -⟩
        · exact hone
        · rw [receiveOnce_nil] at hbody
          cases hbody
      obtain rfl : lines = [line] := by
        refine (hlines ?_).trans hone
        rw [hpeer]
        exact Option.some_ne_none _
      have hcut' := hcut _ _ hread.cut
      rw [hone] at hcut'
      refine ⟨fun hgone => ?_, ?_⟩
      · cases hpeer.symm.trans hgone
      · intro hello' key' hsome
        obtain ⟨rfl, rfl⟩ := Prod.mk.inj (Option.some.inj (hpeer.symm.trans hsome))
        refine ⟨greeting, rest, .of_looping rfl ?_ hread.hello hcut'
          (List.rel_append (hread.bodies hreturned) (.cons (decrypts_iff.2 hbody) .nil))⟩
        rw [hreceiver, ← hreturned]
        rfl
  | @broken key b fault hmain hreceiver hbody =>
      obtain ⟨hello, hpeer, rfl⟩ := hheld hreceiver
      obtain ⟨greeting, tail, hread⟩ := h.reading hello key hpeer
      obtain ⟨hreturned, -, rfl⟩ := hread.looping key b hreceiver
      have hheard := hread.bodies hreturned
      obtain rfl : lines = new := by
        apply hlines
        rw [hpeer]
        exact Option.some_ne_none _
      refine ⟨fun hgone => ?_, ?_⟩
      · cases hpeer.symm.trans hgone
      · intro hello' key' hsome
        obtain ⟨rfl, rfl⟩ := Prod.mk.inj (Option.some.inj (hpeer.symm.trans hsome))
        refine ⟨greeting, rest, .of_returned rfl ?_ hread.hello (hcut _ _ hread.cut) ?_⟩
        · rw [hreceiver]
          rfl
        · rcases hnew with rfl | ⟨rfl, rfl, rfl, rfl⟩
          · exact .refused hheard hbody
          · rw [receiveOnce_nil] at hbody
            obtain rfl := Except.error.inj hbody
            rw [List.append_nil]
            exact .ended hheard (List.mem_append_right _ (List.mem_singleton_self _))

/-- A read fails. -/
theorem NetworkThread.Reads.unreadable (h : thread.Reads J acts) (hwell : thread.session.Well)
    {buffer : Bytes} (hreading : thread.session.reading = some buffer)
    (hline : takeLine buffer = none) (message : Text) :
    (⟨thread.preparing, thread.session.readFails message, thread.received, thread.lines,
      loopResult thread.returned thread.session.receiver
        (thread.session.readFails message).receiver⟩ : NetworkThread C).Reads J
          (acts ++ [.network (.failRead message)]) := by
  unfold Session.readFails
  split
  · next b hmain =>
    have hinbox : (thread.session.leave (some message)).inbox = thread.session.inbox ∨
        (thread.session.leave (some message)).inbox = none :=
      hwell.inbox_of_dead rfl (Or.inl rfl)
    have hleave : (⟨thread.preparing, thread.session.leave (some message), thread.received,
        thread.lines, thread.returned⟩ : NetworkThread C).Reads J
          (acts ++ [.network (.failRead message)]) :=
      h.idle nofun (Or.inl rfl) rfl rfl hinbox (Or.inl rfl)
    rw [← loopResult_self thread.returned thread.session.receiver] at hleave
    exact hleave
  · next hawaiting =>
    have hlooping : thread.session.receiver.buffer = some buffer := by
      unfold Session.reading at hreading
      split at hreading
      · next b hmain => exact absurd hmain (hawaiting b)
      · exact hreading
    obtain ⟨key, hreceiver⟩ := Receiver.buffer_eq_some.1 hlooping
    obtain ⟨hello, hpeer⟩ := hwell.looping key buffer hreceiver
    obtain ⟨greeting, tail, hread⟩ := h.reading hello key hpeer
    obtain ⟨hreturned, -, rfl⟩ := hread.looping key buffer hreceiver
    refine ⟨fun hgone => ?_, ?_⟩
    · cases hpeer.symm.trans hgone
    · intro hello' key' hsome
      obtain ⟨rfl, rfl⟩ := Prod.mk.inj (Option.some.inj (hpeer.symm.trans hsome))
      refine ⟨greeting, buffer, .of_returned rfl ?_ hread.hello (hread.cut.step nofun) ?_⟩
      · rw [hreceiver]
        rfl
      · exact .unread (hread.bodies hreturned)
          (List.mem_append_right _ (List.mem_singleton_self _)) (takeLine_eq_none_iff.1 hline)

/-- A step of the session. -/
theorem NetworkThread.Reads.moved (h : thread.Reads J acts) (hwell : thread.session.Well)
    {label : Label C} {session : Session C} {bytes : Bytes}
    (hchange : Net.Change J thread.session label session bytes) :
    (⟨thread.preparing, session, thread.received ++ label.taken,
      thread.lines ++ linesRead thread.session label,
      loopResult thread.returned thread.session.receiver session.receiver⟩ : NetworkThread C).Reads J
        (acts ++ [.network label]) := by
  -- what reads nothing and takes no line
  have hidle {t : Session C} (hlabel : ThreadAct.network label ≠ .network .readEnd)
      (htaken : label.taken = []) (hlines : linesRead thread.session label = [])
      (hsame : t.config = thread.session.config ∧ t.peer = thread.session.peer ∧
        t.reported = thread.session.reported)
      (hinbox : t.inbox = thread.session.inbox ∨ t.inbox = none)
      (hreceiver : t.receiver = thread.session.receiver ∨ t.receiver = .ended ∧
        (ThreadAct.network label = .network .exit ∨
          ∃ fault, thread.session.receiver = .returned fault)) :
      (⟨thread.preparing, t, thread.received ++ label.taken,
        thread.lines ++ linesRead thread.session label,
        loopResult thread.returned thread.session.receiver t.receiver⟩ :
          NetworkThread C).Reads J (acts ++ [.network label]) := by
    have hresult : loopResult thread.returned thread.session.receiver t.receiver =
        thread.returned := by
      rcases hreceiver with hreceiver | ⟨hreceiver, -⟩
      · rw [hreceiver, loopResult_self]
      · rw [hreceiver]
        cases thread.session.receiver <;> rfl
    rw [htaken, hlines, List.append_nil, List.append_nil, hresult]
    exact h.idle hlabel (Or.inl hsame.1) hsame.2.1 hsame.2.2 hinbox hreceiver
  have hheld {buffer : Bytes} (hreading : thread.session.reading = some buffer)
      (hpeer : thread.session.peer ≠ none) : thread.session.receiver.buffer = some buffer := by
    obtain ⟨peer, hsome⟩ := Option.ne_none_iff_exists'.1 hpeer
    rw [← (hwell.inbox_of_peer hsome rfl).2, hreading]
  cases hchange with
  | @filled buffer bytes hreading =>
      have hlines : linesRead thread.session (.fill bytes) = [] := rfl
      rw [hlines, List.append_nil]
      exact h.filled hwell hreading bytes
  | @read buffer line rest hreading hline =>
      have htaken : (Label.readLine : Label C).taken = [] := rfl
      rw [htaken, List.append_nil]
      refine h.taken hwell hreading (.of_onLine hreading line rest)
        (fun received before hcut => hcut.line hline) (Or.inl rfl) ?_ ?_
      · intro hpeer
        simp [linesRead, hheld hreading hpeer, hline]
      · intro hnone
        simp [linesRead, hwell.not_looping hnone]
  | @readLast buffer hreading hline =>
      have htaken : (Label.readEnd : Label C).taken = [] := rfl
      rw [htaken, List.append_nil]
      refine h.taken hwell hreading (.of_onLine hreading buffer [])
        (fun received before hcut => hcut.last hline) ?_ ?_ ?_
      · split
        · next hnil => exact Or.inr ⟨hnil, rfl, rfl, rfl⟩
        · exact Or.inl rfl
      · intro hpeer
        cases buffer <;> simp [linesRead, hheld hreading hpeer]
      · intro hnone
        simp [linesRead, hwell.not_looping hnone]
  | @unread buffer message hreading hline =>
      have htaken : (Label.failRead message : Label C).taken = [] := rfl
      have hlines : linesRead thread.session (.failRead message) = [] := rfl
      rw [htaken, hlines, List.append_nil, List.append_nil]
      exact h.unreadable hwell hreading hline message
  | exited =>
      exact hidle nofun rfl rfl ⟨rfl, rfl, rfl⟩ (hwell.inbox_of_dead rfl (Or.inr rfl))
        (Or.inr ⟨rfl, Or.inl rfl⟩)
  | @stopped fault hreceiver =>
      exact hidle nofun rfl rfl ⟨rfl, rfl, rfl⟩ (Session.inbox_of_main rfl (Or.inr rfl))
        (Or.inr ⟨rfl, Or.inr ⟨fault, hreceiver⟩⟩)
  | @unsealed _ _ _ _ fault =>
      cases fault with
      | error | panic =>
        exact hidle nofun rfl rfl ⟨rfl, rfl, rfl⟩ (hwell.inbox_of_dead rfl (Or.inl rfl))
          (Or.inl rfl)
  | connected hmain =>
      refine hidle nofun rfl rfl ⟨rfl, rfl, rfl⟩ (Or.inl ?_) (Or.inl rfl)
      simp only [Session.inbox, hmain]
  | greeted hmain =>
      refine hidle nofun rfl rfl ⟨rfl, rfl, rfl⟩ (Or.inl ?_) (Or.inl rfl)
      simp only [Session.inbox, hmain]
      rfl
  | lostInput | unconnected | ungreeted | unsent | finished | concluded =>
      exact hidle nofun rfl rfl ⟨rfl, rfl, rfl⟩ (hwell.inbox_of_dead rfl (Or.inl rfl)) (Or.inl rfl)
  | typed | closed | announced | skipped | wrote =>
      exact hidle nofun rfl rfl ⟨rfl, rfl, rfl⟩ (Session.inbox_of_main rfl (Or.inl rfl))
        (Or.inl rfl)

/-- A step before there is a socket. -/
theorem NetworkThread.Reads.prepared (h : thread.Reads J acts) {act : ThreadAct C}
    {preparing : Action (Option Text)} {session : Session C}
    (hpeer : thread.session.peer = none) (hact : act ≠ .network .readEnd)
    (hpeer' : session.peer = thread.session.peer)
    (hreported : session.reported = thread.session.reported)
    (hreceiver : session.receiver = thread.session.receiver)
    (hinbox : session.inbox = thread.session.inbox ∨ session.inbox = none) :
    (⟨preparing, session, thread.received, thread.lines, thread.returned⟩ :
      NetworkThread C).Reads J (acts ++ [act]) :=
  h.idle hact (Or.inr hpeer) hpeer' hreported hinbox (Or.inl hreceiver)

/-- What every step of the threads keeps. -/
theorem NetworkThread.Reads.step (h : thread.Reads J acts) (hwell : thread.session.Well)
    {act : ThreadAct C} {thread' : NetworkThread C} (hstep : thread.Step J act thread') :
    thread'.Reads J (acts ++ [act]) := by
  have hpeer (hmain : thread.session.main = .preparing) : thread.session.peer = none :=
    (hwell.early (Or.inl hmain)).2
  cases hstep with
  | called hmain hcall =>
      exact h.prepared (hpeer hmain) nofun rfl rfl rfl (Session.inbox_of_main rfl (Or.inl rfl))
  | begun hmain hdone =>
      refine h.prepared (hpeer hmain) nofun rfl rfl rfl (Or.inl ?_)
      unfold Session.inbox
      rw [hmain]
      rfl
  | @failed fault hmain hfail =>
      cases fault with
      | error | panic =>
        exact h.prepared (hpeer hmain) nofun rfl rfl rfl (hwell.inbox_of_dead rfl (Or.inl rfl))
  | moved hlabel hchange => exact h.moved hwell (.of_react hchange)

/-- Before the first step. -/
theorem NetworkThread.Reads.new {preparing : Action (Option Text)} {config : Config C} :
    (⟨preparing, .new config .preparing, [], [], none⟩ : NetworkThread C).Reads J [] := by
  refine ⟨fun _ => ⟨rfl, rfl, fun buffer hbuffer => ?_⟩, nofun⟩
  obtain rfl := Option.some.inj hbuffer
  exact .nil

end Reads

end Fauna.Desktop
