import Fauna.Lib.Cut
import Fauna.Net.Link

/-!
# What one party reads is what the other wrote

`Flow` is the invariant of one direction of a connection: what the reader has buffered, what is
in flight and what a cut has lost are the records the writer wrote and the reader has not used,
one line each. `Link.Sound` has it in both directions, beside what each session keeps by itself;
every step of the parties and of the network keeps it (`Link.Sound.step`).

* `Flow.reported`: the bodies reported are a prefix of the bodies sent, through any cut.
* `Flow.peer`: a hello that is accepted is the other party's own.
* `same_key`: two parties that accepted each other's hello hold one key.
-/

namespace Fauna.Net

open Fauna.Lib Fauna.Core Fauna.Wire

variable {C : Crates} {J : SerdeJson}

variable (J) in
/-- The bytes of some records, one line each. -/
def output (records : List Record) : Bytes := (records.map (jsonLine J)).flatten

@[simp] theorem output_nil : output J [] = [] := rfl

@[simp] theorem output_cons (r : Record) (records : List Record) :
    output J (r :: records) = jsonLine J r ++ output J records := rfl

@[simp] theorem output_append (records records' : List Record) :
    output J (records ++ records') = output J records ++ output J records' := by
  simp [output]

/-- How many records of the peer a session has used: its hello, and a frame for each body it
reported. -/
def Session.used (s : Session C) : ℕ := (if s.peer.isSome then 1 else 0) + s.reported.length

variable (J) in
/-- One direction of a connection: what `w` writes and `r` reads. -/
structure Flow (w r : Session C) (wire : Bytes) (cut : Bool) : Prop where
  peer : ∀ hello key, r.peer = some (hello, key) → hello = w.config.hello ∧ w.written ≠ []
  reported : r.reported <+: w.sent.map Prod.fst
  /-- While more may be read, only a cut has lost anything. -/
  stream : ∀ buffer, r.inbox = some buffer → ∃ lost,
    buffer ++ wire ++ lost = output J (w.written.drop r.used) ∧ (cut = false → lost = [])

/-- Everything a connection keeps. -/
structure Link.Sound (J : SerdeJson) (link : Link C) : Prop where
  well : ∀ side, (link.session side).Well
  flow : ∀ side, Flow J (link.session side) (link.session side.other) (link.wire side)
    (link.cut side)

/-! ## The writer -/

/-- Where only the threads moved, the history is what it was. -/
theorem Session.Moved.history {s s' : Session C} (h : s.Moved s') : s'.config = s.config ∧
    s'.sent = s.sent ∧ s'.written = s.written ∧ s'.peer = s.peer ∧ s'.reported = s.reported := by
  obtain ⟨main, receiver, queue, rfl⟩ := h
  exact ⟨rfl, rfl, rfl, rfl, rfl⟩

/-- Taking a line writes nothing. -/
theorem Taken.quiet {s s' : Session C} {line rest : Bytes} (h : Taken J s line rest s') :
    s'.config = s.config ∧ s'.sent = s.sent ∧ s'.written = s.written := by
  cases h with
  | @refused _ fault =>
      obtain ⟨hconfig, hsent, hwritten, -⟩ := (s.fail_moved fault).history
      exact ⟨hconfig, hsent, hwritten⟩
  | accepted | reported | broken => exact ⟨rfl, rfl, rfl⟩

/-- What a step adds to the history of the writes, and which bytes of it reach the socket. -/
theorem Change.writes {s s' : Session C} {l : Label C} {bytes : Bytes} (h : Change J s l s' bytes) :
    s'.config = s.config ∧ s.sent <+: s'.sent ∧ ∃ records rest,
      s'.written = s.written ++ records ∧ output J records = bytes ++ rest ∧
        (l.fails = false → rest = []) := by
  have hquiet {t : Session C} (ht : t.config = s.config ∧ t.sent = s.sent ∧
      t.written = s.written) : t.config = s.config ∧ s.sent <+: t.sent ∧ ∃ records rest,
      t.written = s.written ++ records ∧ output J records = [] ++ rest ∧
        (l.fails = false → rest = []) := by
    obtain ⟨hconfig, hsent, hwritten⟩ := ht
    exact ⟨hconfig, by rw [hsent], [], [], by simp [hwritten], rfl, fun _ => rfl⟩
  have hmoved {t : Session C} (ht : s.Moved t) :
      t.config = s.config ∧ t.sent = s.sent ∧ t.written = s.written := by
    obtain ⟨hconfig, hsent, hwritten, -⟩ := ht.history
    exact ⟨hconfig, hsent, hwritten⟩
  cases h with
  | greeted hmain =>
      exact ⟨rfl, List.prefix_refl _, [_], [], rfl, by simp, fun _ => rfl⟩
  | @ungreeted count message hmain =>
      refine ⟨rfl, List.prefix_refl _, [_], (jsonLine J (helloRecord s.config.hello)).drop count,
        rfl, by simp, fun h => by cases h⟩
  | wrote hmain hqueue hskips hseal =>
      exact ⟨rfl, List.prefix_append _ _, [_], [], rfl, by simp, fun _ => rfl⟩
  | @unsent nonce count message key line rest frame hmain hqueue hskips hseal =>
      refine ⟨rfl, List.prefix_append _ _, [_], (jsonLine J (chatRecord frame)).drop count, rfl,
        by simp, fun h => by cases h⟩
  | unsealed => exact hquiet (hmoved (s.fail_moved _))
  | filled => exact hquiet (hmoved (s.refill_moved _))
  | unread => exact hquiet (hmoved (s.readFails_moved _))
  | read hreading | readLast hreading =>
      exact hquiet (Taken.of_onLine (J := J) hreading _ _).quiet
  | typed | closed | exited | lostInput | announced | connected | unconnected | skipped |
    finished | concluded | stopped => exact hquiet ⟨rfl, rfl, rfl⟩

/-- What the reader has used was written. -/
theorem Flow.used_le {w r : Session C} {wire : Bytes} {cut : Bool} (h : Flow J w r wire cut)
    (hw : w.Well) (hr : r.Well) : r.used ≤ w.written.length := by
  unfold Session.used
  cases hpeer : r.peer with
  | none => simp [(hr.quiet hpeer).2]
  | some p =>
      obtain ⟨-, hne⟩ := h.peer p.1 p.2 hpeer
      have hle := h.reported.length_le
      rcases hw.history with ⟨hnil, -⟩ | hwritten
      · exact absurd hnil hne
      · rw [List.length_map] at hle
        simp [hwritten]
        omega

/-- The writer takes a step. -/
theorem Flow.write {w w' r : Session C} {wire bytes : Bytes} {cut : Bool} {l : Label C}
    (h : Flow J w r wire cut) (hw : w.Well) (hr : r.Well) (hc : Change J w l w' bytes) :
    Flow J w' r (inFlight cut wire bytes) (cut || l.fails) := by
  obtain ⟨hconfig, hsent, records, rest, hwritten, hbytes, hrest⟩ := hc.writes
  refine ⟨?_, ?_, ?_⟩
  · intro hello key hpeer
    obtain ⟨hhello, hne⟩ := h.peer hello key hpeer
    rw [hconfig, hwritten]
    exact ⟨hhello, List.append_ne_nil_of_left_ne_nil hne _⟩
  · exact h.reported.trans (hsent.map _)
  · intro buffer hinbox
    obtain ⟨lost, hstream, hlost⟩ := h.stream buffer hinbox
    rw [hwritten, List.drop_append_of_le_length (h.used_le hw hr), output_append, ← hstream,
      hbytes]
    cases cut with
    | true => exact ⟨lost ++ (bytes ++ rest), by simp [inFlight], fun h => by cases h⟩
    | false =>
        obtain rfl := hlost rfl
        exact ⟨rest, by simp [inFlight], by simpa using hrest⟩

/-! ## The reader -/

/-- Without a peer there is no receive loop. -/
theorem Session.Well.not_looping {s : Session C} (h : s.Well) (hpeer : s.peer = none) :
    s.receiver.buffer = none := by
  rw [Option.eq_none_iff_forall_ne_some]
  intro buffer hbuffer
  obtain ⟨key, hreceiver⟩ := Receiver.buffer_eq_some.1 hbuffer
  obtain ⟨hello, hsome⟩ := h.looping key buffer hreceiver
  rw [hpeer] at hsome
  cases hsome

/-- Once a hello is accepted, the receive thread is the one that reads. -/
theorem Session.Well.inbox_of_peer {s : Session C} (h : s.Well)
    {peer : HelloFrame Text × SessionKey C.primitives} (hpeer : s.peer = some peer)
    {s' : Session C} (hmain : s'.main = s.main) :
    s'.inbox = s'.receiver.buffer ∧ s'.reading = s'.receiver.buffer := by
  obtain ⟨hpreparing, hstarting, hawaiting⟩ := h.main_of_peer hpeer
  have hreading : s'.reading = s'.receiver.buffer := by
    unfold Session.reading
    rw [hmain]
    split
    · next hm => exact absurd hm (hawaiting _)
    · rfl
  refine ⟨?_, hreading⟩
  unfold Session.inbox
  rw [hmain]
  split
  · next hm => exact absurd hm hpreparing
  · next hm => exact absurd hm hstarting
  · exact hreading

/-- A thread that stops reads no more, and the other one may go on. -/
theorem Session.Well.inbox_of_dead {s s' : Session C} (h : s.Well) (hdead : s'.live = false)
    (hreceiver : s'.receiver.buffer = s.receiver.buffer ∨ s'.receiver.buffer = none) :
    s'.inbox = s.inbox ∨ s'.inbox = none := by
  have hinbox : s'.inbox = s'.receiver.buffer := by
    unfold Session.inbox Session.reading
    unfold Session.live at hdead
    cases hmain : s'.main <;> simp [hmain] at hdead ⊢
  rw [hinbox]
  rcases hreceiver with hsame | hnone
  · rw [hsame]
    cases hbuffer : s.receiver.buffer with
    | none => exact Or.inr rfl
    | some buffer =>
        obtain ⟨key, hlooping⟩ := Receiver.buffer_eq_some.1 hbuffer
        obtain ⟨hello, hpeer⟩ := h.looping key buffer hlooping
        exact Or.inl ((h.inbox_of_peer hpeer rfl).1.trans hbuffer).symm
  · exact Or.inr hnone

/-- With its main thread where it was, a session reads what it read, or no more. -/
theorem Session.inbox_of_main {s s' : Session C} (hmain : s'.main = s.main)
    (hreceiver : s'.receiver.buffer = s.receiver.buffer ∨ s'.receiver.buffer = none) :
    s'.inbox = s.inbox ∨ s'.inbox = none := by
  unfold Session.inbox Session.reading
  rw [hmain]
  split
  · exact Or.inl rfl
  · exact Or.inl rfl
  · split
    · exact Or.inl rfl
    · exact hreceiver

/-- A step of the reader that uses nothing of what was sent. -/
theorem Flow.idle {w r r' : Session C} {wire : Bytes} {cut : Bool} (h : Flow J w r wire cut)
    (hpeer : r'.peer = r.peer) (hreported : r'.reported = r.reported)
    (hinbox : r'.inbox = r.inbox ∨ r'.inbox = none) : Flow J w r' wire cut := by
  refine ⟨?_, ?_, ?_⟩
  · rw [hpeer]
    exact h.peer
  · rw [hreported]
    exact h.reported
  · intro buffer hsome
    rcases hinbox with hsame | hnone
    · rw [Session.used, hpeer, hreported]
      exact h.stream buffer (hsame ▸ hsome)
    · cases hnone.symm.trans hsome

/-- A line that was taken from what is left of a stream of records is the first of them. -/
theorem whole_record {buffer wire lost line rest : Bytes} {records : List Record}
    (hstream : buffer ++ wire ++ lost = output J records)
    (hline : takeLine buffer = some (line, rest)) :
    ∃ r more, records = r :: more ∧ line = jsonLine J r ∧ rest ++ wire ++ lost = output J more := by
  cases records with
  | nil =>
      obtain ⟨rfl, -⟩ : buffer = [] ∧ wire = [] ∧ lost = [] := by simpa using hstream
      cases hline
  | cons r more =>
      obtain ⟨body, hbody, hr⟩ := jsonLine_line (J := J) r
      rw [output_cons, hr, List.append_assoc, List.append_assoc, List.singleton_append] at hstream
      obtain ⟨rfl, hrest⟩ := takeLine_eq_of_eq hbody hstream hline
      exact ⟨r, more, rfl, hr.symm, by rw [List.append_assoc, hrest]⟩

/-- What is left of a stream of records when it ends is a cut of the first of them. -/
theorem last_record {buffer lost : Bytes} {records : List Record} {cut : Bool}
    (hstream : buffer ++ lost = output J records) (hlost : cut = false → lost = [])
    (hline : takeLine buffer = none) (hne : buffer ≠ []) :
    ∃ r more, records = r :: more ∧ buffer <+: jsonLine J r ∧ cut = true := by
  cases records with
  | nil => exact absurd (List.append_eq_nil_iff.1 hstream).1 hne
  | cons r more =>
      obtain ⟨body, hbody, hr⟩ := jsonLine_line (J := J) r
      rw [output_cons, hr, List.append_assoc, List.singleton_append] at hstream
      rw [takeLine_eq_none_iff] at hline
      have hcut := (isPrefix_append_cons_iff hline).1 ⟨_, hstream⟩
      refine ⟨r, more, rfl, hr ▸ hcut.trans (List.prefix_append _ _), ?_⟩
      by_contra hfalse
      rw [hlost (by simpa using hfalse), List.append_nil] at hstream
      exact absurd (hstream ▸ by simp) hline

/-- A line that was taken from what is left of a stream of records: all of the first one, or a cut
of it where the stream has ended. -/
theorem next_record {buffer wire lost line rest : Bytes} {records : List Record} {cut : Bool}
    (hstream : buffer ++ wire ++ lost = output J records) (hlost : cut = false → lost = [])
    (hline : takeLine buffer = some (line, rest) ∨
      takeLine buffer = none ∧ wire = [] ∧ line = buffer ∧ rest = [])
    (hne : line ≠ []) :
    ∃ r more, records = r :: more ∧ line <+: jsonLine J r ∧
      ∃ lost', rest ++ wire ++ lost' = output J more ∧ (cut = false → lost' = []) := by
  rcases hline with hline | ⟨hline, rfl, rfl, rfl⟩
  · obtain ⟨r, more, hrecords, rfl, hrest⟩ := whole_record hstream hline
    exact ⟨r, more, hrecords, List.prefix_refl _, lost, hrest, hlost⟩
  · rw [List.append_nil] at hstream
    obtain ⟨r, more, hrecords, hcut, rfl⟩ := last_record hstream hlost hline hne
    exact ⟨r, more, hrecords, hcut, output J more, rfl, fun h => by cases h⟩

/-- Two parties that accepted each other's hello hold one key. -/
theorem same_key {w r : Session C} {key key' : SessionKey C.primitives} (hw : w.Well) (hr : r.Well)
    (hkey : r.peer = some (w.config.hello, key)) (hkey' : w.peer = some (r.config.hello, key')) :
    key' = key := by
  obtain ⟨-, h⟩ := establish_eq_ok.1 (hr.agreed _ _ hkey).2
  obtain ⟨-, h'⟩ := establish_eq_ok.1 (hw.agreed _ _ hkey').2
  obtain ⟨common, hcommon, hcommon'⟩ := ExchangeKeypair.peers_derive_the_same_session_key C.lawful
    r.config.exchange w.config.exchange
  rw [Except.ok.inj (h.symm.trans hcommon), Except.ok.inj (h'.symm.trans hcommon')]

/-- A hello is not read from an empty line. -/
theorem readHello_ne_nil {program : Program} {line : Bytes} {hello : HelloFrame Text}
    (h : program.readHello J line = .ok hello) : line ≠ [] := by
  rintro rfl
  cases program <;> cases h

/-- The next frame of the writer, with the body it was sealed from. -/
theorem Session.Well.drop_written {w : Session C} (hw : w.Well) (hne : w.written ≠ []) {n : ℕ}
    {r : Record} {more : List Record} (h : w.written.drop (1 + n) = r :: more) :
    ∃ m, w.sent.drop n = m :: w.sent.drop (n + 1) ∧ r = chatRecord m.2 ∧
      more = w.written.drop (1 + (n + 1)) := by
  rcases hw.history with ⟨hnil, -⟩ | hwritten
  · exact absurd hnil hne
  · rw [hwritten, Nat.add_comm 1 n, List.drop_succ_cons, ← List.map_drop] at h
    obtain ⟨m, ms, hm, rfl, rfl⟩ := List.map_eq_cons_iff.1 h
    have hms : ms = w.sent.drop (n + 1) := by
      rw [Nat.add_comm n 1, ← List.drop_drop]
      simpa using (congrArg List.tail hm).symm
    refine ⟨m, hms ▸ hm, rfl, ?_⟩
    rw [hwritten, Nat.add_comm 1, List.drop_succ_cons, ← List.map_drop, hms]

/-- What is being read is what may be read. -/
theorem Session.Well.inbox_of_reading {s : Session C} (h : s.Well) {buffer : Bytes}
    (hreading : s.reading = some buffer) : s.inbox = some buffer := by
  cases hpeer : s.peer with
  | some peer =>
      obtain ⟨hinbox, hreading'⟩ := h.inbox_of_peer hpeer rfl
      rw [hinbox, ← hreading', hreading]
  | none =>
      have hidle := h.not_looping hpeer
      unfold Session.reading at hreading
      split at hreading
      · next hm =>
        unfold Session.inbox Session.reading
        rw [hm]
        exact hreading
      · rw [hidle] at hreading
        cases hreading

/-- The reader accepts a hello. -/
theorem Flow.accept {w r : Session C} {wire buffer line rest : Bytes} {cut : Bool}
    (h : Flow J w r wire cut) (hw : w.Well) (hr : r.Well) (hmain : r.main = .awaitingHello buffer)
    (hline : takeLine buffer = some (line, rest) ∨
      takeLine buffer = none ∧ wire = [] ∧ line = buffer ∧ rest = [])
    {hello : HelloFrame Text} (hhello : r.config.program.readHello J line = .ok hello)
    (key : SessionKey C.primitives) : Flow J w (r.accept hello key rest) wire cut := by
  obtain ⟨-, hpeer⟩ := hr.awaiting buffer hmain
  obtain ⟨-, hreported⟩ := hr.quiet hpeer
  have hreading : r.reading = some buffer := by
    unfold Session.reading
    rw [hmain]
  have hzero : r.used = 0 := by simp [Session.used, hpeer, hreported]
  have hone : (r.accept hello key rest).used = 1 := by
    simp [Session.used, Session.accept, hreported]
  obtain ⟨lost, hstream, hlost⟩ := h.stream buffer (hr.inbox_of_reading hreading)
  obtain ⟨record, more, hrecords, hcut, lost', hstream', hlost'⟩ :=
    next_record hstream hlost hline (readHello_ne_nil hhello)
  rw [hzero, List.drop_zero] at hrecords
  -- the first record of a session is its hello
  rcases hw.history with ⟨hnil, -⟩ | hwritten
  · cases hnil.symm.trans hrecords
  · obtain ⟨rfl, -⟩ := List.cons.inj (hrecords.symm.trans hwritten)
    obtain rfl := readHello_cut hcut hhello
    refine ⟨?_, ?_, ?_⟩
    · intro hello' key' hpeer'
      obtain ⟨rfl, rfl⟩ := Prod.mk.inj (Option.some.inj hpeer')
      exact ⟨rfl, by simp [hwritten]⟩
    · show r.reported <+: _
      rw [hreported]
      exact List.nil_prefix
    · intro buffer' hbuffer'
      obtain rfl : rest = buffer' := Option.some.inj hbuffer'
      rw [hone, hrecords]
      exact ⟨lost', hstream', hlost'⟩

/-- The reader reports a body. -/
theorem Flow.report {w r : Session C} {wire buffer line rest : Bytes} {cut : Bool}
    (h : Flow J w r wire cut) (hback : ∀ hello key, w.peer = some (hello, key) →
      hello = r.config.hello) (hw : w.Well) (hr : r.Well) {key : SessionKey C.primitives}
    (hreceiver : r.receiver = .looping key buffer)
    (hline : takeLine buffer = some (line, rest) ∨
      takeLine buffer = none ∧ wire = [] ∧ line = buffer ∧ rest = [])
    {body : Text} (hbody : receiveOnce J r.config.program key line = .ok body) :
    Flow J w (r.report key rest body) wire cut := by
  obtain ⟨hello, hpeer⟩ := hr.looping key buffer hreceiver
  obtain ⟨rfl, hne⟩ := h.peer hello key hpeer
  have hinbox : r.inbox = some buffer := by
    rw [(hr.inbox_of_peer hpeer rfl).1, hreceiver]
    rfl
  have hused : r.used = 1 + r.reported.length := by simp [Session.used, hpeer]
  have hused' : (r.report key rest body).used = 1 + (r.reported.length + 1) := by
    simp [Session.used, Session.report, hpeer]
  obtain ⟨lost, hstream, hlost⟩ := h.stream buffer hinbox
  obtain ⟨record, more, hrecords, hcut, lost', hstream', hlost'⟩ :=
    next_record hstream hlost hline (by rintro rfl; simp at hbody)
  rw [hused] at hrecords
  obtain ⟨m, hm, rfl, rfl⟩ := hw.drop_written hne hrecords
  -- the frame was sealed under the key that the reader holds
  obtain ⟨hello', key', nonce, hpeer', hseal⟩ :=
    hw.sealed_sent m (List.mem_of_mem_drop (hm ▸ List.mem_cons_self))
  obtain rfl := hback hello' key' hpeer'
  obtain rfl := same_key hw hr hpeer hpeer'
  obtain ⟨frame, hframe, hopen⟩ := bind_eq_ok.1 hbody
  obtain rfl := readChat_cut hcut hframe
  obtain rfl := Except.ok.inj ((openChat_sealChat C.lawful hseal).symm.trans hopen)
  refine ⟨h.peer, ?_, ?_⟩
  · obtain ⟨later, hlater⟩ := h.reported
    have hlast := congrArg (List.drop r.reported.length) hlater
    rw [List.drop_left, ← List.map_drop, hm, List.map_cons] at hlast
    refine ⟨(w.sent.drop (r.reported.length + 1)).map Prod.fst, ?_⟩
    show (r.reported ++ [m.1]) ++ _ = _
    rw [List.append_assoc, List.singleton_append, ← hlast, hlater]
  · intro buffer' hbuffer'
    have hmain : (r.report key' rest m.1).main = r.main := rfl
    obtain rfl := Option.some.inj ((hr.inbox_of_peer hpeer hmain).1.symm.trans hbuffer')
    rw [hused']
    exact ⟨lost', hstream', hlost'⟩

/-- The reader takes a line. -/
theorem Flow.take {w r r' : Session C} {wire buffer line rest : Bytes} {cut : Bool}
    (h : Flow J w r wire cut) (hback : ∀ hello key, w.peer = some (hello, key) →
      hello = r.config.hello) (hw : w.Well) (hr : r.Well) (hreading : r.reading = some buffer)
    (hline : takeLine buffer = some (line, rest) ∨
      takeLine buffer = none ∧ wire = [] ∧ line = buffer ∧ rest = [])
    (ht : Taken J r line rest r') : Flow J w r' wire cut := by
  cases ht with
  | @accepted b hello key hmain hgreet =>
      obtain rfl : b = buffer := by
        unfold Session.reading at hreading
        rw [hmain] at hreading
        exact Option.some.inj hreading
      exact h.accept hw hr hmain hline (greet_eq_ok.1 hgreet).1 key
  | @refused b fault hmain hgreet =>
      cases fault with
      | error => exact h.idle rfl rfl (hr.inbox_of_dead rfl (Or.inl rfl))
      | panic => exact h.idle rfl rfl (hr.inbox_of_dead rfl (Or.inl rfl))
  | @reported key b body hmain hreceiver hbody =>
      obtain ⟨hello, hpeer⟩ := hr.looping key b hreceiver
      obtain rfl : b = buffer := by
        rw [(hr.inbox_of_peer hpeer rfl).2, hreceiver] at hreading
        exact Option.some.inj hreading
      exact h.report hback hw hr hreceiver hline hbody
  | broken hmain hreceiver hbody =>
      exact h.idle rfl rfl (Session.inbox_of_main rfl (Or.inr rfl))

/-- The refilled buffer is the inbox of the session that reads into it. -/
theorem Session.Well.inbox_refill {s : Session C} (h : s.Well) {buffer : Bytes}
    (hreading : s.reading = some buffer) (buffer' : Bytes) :
    (s.refill buffer').inbox = some buffer' := by
  cases hpeer : s.peer with
  | none =>
      unfold Session.reading at hreading
      split at hreading
      · next hm =>
        unfold Session.refill
        rw [hm]
        rfl
      · rw [h.not_looping hpeer] at hreading
        cases hreading
  | some peer =>
      obtain ⟨-, -, -, hsame, -⟩ := (s.refill_moved buffer').history
      obtain ⟨hinbox, -⟩ := (h.refill buffer').inbox_of_peer (hsame.trans hpeer) rfl
      rw [(h.inbox_of_peer hpeer rfl).2] at hreading
      obtain ⟨key, hreceiver⟩ := Receiver.buffer_eq_some.1 hreading
      rw [hinbox]
      unfold Session.refill
      split
      · next hm => exact absurd hm ((h.main_of_peer hpeer).2.2 _)
      · rfl
      · next hr => exact absurd hreceiver (hr _ _)

/-- The reader takes a step. -/
theorem Flow.read {w r r' : Session C} {wire bytes : Bytes} {cut : Bool} {l : Label C}
    (h : Flow J w r wire cut) (hback : ∀ hello key, w.peer = some (hello, key) →
      hello = r.config.hello) (hw : w.Well) (hr : r.Well) (hfill : l.taken <+: wire)
    (hend : l = .readEnd → wire = []) (hc : Change J r l r' bytes) :
    Flow J w r' (wire.drop l.taken.length) cut := by
  cases hc with
  | @filled buffer bytes hreading =>
      obtain ⟨-, -, -, hpeer, hreported⟩ := (r.refill_moved (buffer ++ bytes)).history
      refine ⟨?_, ?_, ?_⟩
      · rw [hpeer]
        exact h.peer
      · rw [hreported]
        exact h.reported
      · intro buffer' hbuffer'
        rw [hr.inbox_refill hreading] at hbuffer'
        obtain rfl := Option.some.inj hbuffer'
        obtain ⟨lost, hstream, hlost⟩ := h.stream buffer (hr.inbox_of_reading hreading)
        obtain ⟨later, rfl⟩ : bytes <+: wire := hfill
        refine ⟨lost, ?_, hlost⟩
        rw [Session.used, hpeer, hreported, ← Session.used, ← hstream]
        simp [Label.taken]
  | read hreading hline =>
      exact h.take hback hw hr hreading (Or.inl hline) (.of_onLine hreading _ _)
  | readLast hreading hline =>
      obtain rfl := hend rfl
      exact h.take hback hw hr hreading (Or.inr ⟨hline, rfl, rfl, rfl⟩) (.of_onLine hreading _ _)
  | unread hreading hline =>
      unfold Session.readFails
      split
      · exact h.idle rfl rfl (hr.inbox_of_dead rfl (Or.inl rfl))
      · exact h.idle rfl rfl (Session.inbox_of_main rfl (Or.inr rfl))
  | @unsealed _ _ _ _ fault =>
      cases fault with
      | error => exact h.idle rfl rfl (hr.inbox_of_dead rfl (Or.inl rfl))
      | panic => exact h.idle rfl rfl (hr.inbox_of_dead rfl (Or.inl rfl))
  | exited => exact h.idle rfl rfl (hr.inbox_of_dead rfl (Or.inr rfl))
  | stopped => exact h.idle rfl rfl (Session.inbox_of_main rfl (Or.inr rfl))
  | connected hmain =>
      exact h.idle rfl rfl (Or.inl (by unfold Session.inbox; rw [hmain]))
  | greeted hmain =>
      exact h.idle rfl rfl (Or.inl (by unfold Session.inbox; rw [hmain]; rfl))
  | lostInput | unconnected | ungreeted | unsent | finished | concluded =>
      exact h.idle rfl rfl (hr.inbox_of_dead rfl (Or.inl rfl))
  | typed | closed | announced | skipped | wrote =>
      exact h.idle rfl rfl (Session.inbox_of_main rfl (Or.inl rfl))

/-! ## Both directions -/

/-- A connection that begins is sound: nothing is written, read or in flight. -/
theorem Link.Sound.new (config : Side → Config C) {main : Main C}
    (hmain : main = .preparing ∨ main = .starting) : (Link.new config main).Sound J := by
  refine ⟨fun side => .new _ hmain, fun side => ⟨?_, List.nil_prefix, ?_⟩⟩
  · intro hello key h
    cases h
  · intro buffer hbuffer
    obtain rfl : buffer = [] := by
      rcases hmain with rfl | rfl <;> exact (Option.some.inj hbuffer).symm
    exact ⟨[], rfl, fun _ => rfl⟩

/-- Every step of the parties and of the network keeps a connection sound. -/
theorem Link.Sound.step {link link' : Link C} {move : Move C} (h : link.Sound J)
    (hstep : link.step J move = some link') : link'.Sound J := by
  cases move with
  | act side label =>
      obtain ⟨hallows, session, bytes, hchange, rfl⟩ := Link.step_act hstep
      have hother : ∀ t, t = side ∨ t = side.other := side.eq_or_eq_other
      refine ⟨?_, ?_⟩
      · intro t
        rcases hother t with rfl | rfl
        · simpa using (h.well t).of_change hchange
        · simpa using h.well _
      · intro t
        rcases hother t with rfl | rfl
        · simpa using (h.flow t).write (h.well _) (h.well _) hchange
        · have hback := h.flow side
          have hflow := h.flow side.other
          rw [Side.other_other] at hflow ⊢
          rw [Link.after_session_self, Link.after_session_other, Link.after_wire_other,
            Link.after_cut_other]
          refine hflow.read (fun hello key hp => (hback.peer hello key hp).1) (h.well _) (h.well _)
            ?_ ?_ hchange
          · cases label with
            | fill bytes => exact hallows
            | _ => exact List.nil_prefix
          · rintro rfl
            exact hallows.1
  | sever side count =>
      obtain rfl := Option.some.inj hstep
      refine ⟨h.well, fun t => ?_⟩
      rcases side.eq_or_eq_other t with rfl | rfl
      · obtain ⟨hpeer, hreported, hstream⟩ := h.flow t
        refine ⟨hpeer, hreported, fun buffer hbuffer => ?_⟩
        obtain ⟨lost, hlost, -⟩ := hstream buffer hbuffer
        refine ⟨(link.wire t).drop count ++ lost, ?_, fun h => by simp at h⟩
        rw [← hlost]
        simp only [Function.update_self, List.append_assoc]
        rw [← List.append_assoc (List.take count _), List.take_append_drop]
      · simpa using h.flow side.other

/-- What nobody across the connection sees may change. -/
theorem Link.Sound.put {link : Link C} (h : link.Sound J) (side : Side) {s : Session C}
    (hwell : s.Well) (hconfig : s.config = (link.session side).config)
    (hpeer : s.peer = (link.session side).peer) (hsent : s.sent = (link.session side).sent)
    (hwritten : s.written = (link.session side).written)
    (hreported : s.reported = (link.session side).reported)
    (hinbox : s.inbox = (link.session side).inbox) :
    (link.put side s).Sound J := by
  refine ⟨?_, ?_⟩
  · intro t
    rcases side.eq_or_eq_other t with rfl | rfl
    · rw [Link.put_session_self]
      exact hwell
    · rw [Link.put_session_other]
      exact h.well _
  · intro t
    rcases side.eq_or_eq_other t with rfl | rfl
    · have hflow := h.flow t
      rw [Link.put_session_self, Link.put_session_other]
      refine ⟨?_, ?_, ?_⟩
      · rw [hconfig, hwritten]
        exact hflow.peer
      · rw [hsent]
        exact hflow.reported
      · rw [hwritten]
        exact hflow.stream
    · have hflow := h.flow side.other
      rw [Side.other_other] at hflow ⊢
      rw [Link.put_session_self, Link.put_session_other]
      refine ⟨?_, ?_, ?_⟩
      · rw [hpeer]
        exact hflow.peer
      · rw [hreported]
        exact hflow.reported
      · rw [hinbox, Session.used, hpeer, hreported]
        exact hflow.stream

/-- When the threads are at rest, everything that was sent has been reported by a receive loop that
reads an uncut stream. -/
theorem Link.Sound.sent_at_rest {config : Side → Config C} {main : Main C} {link : Link C}
    (h : link.Sound J) (hquiet : (network J config main).Quiescent Move.internal link) {side : Side}
    {key : SessionKey C.primitives} {buffer : Bytes}
    (hreceiver : (link.session side.other).receiver = .looping key buffer)
    (hcut : link.cut side = false) :
    (link.session side.other).reported = (link.session side).sent.map Prod.fst := by
  have hw := h.well side
  have hflow := h.flow side
  obtain ⟨hello, hpeer⟩ := (h.well side.other).looping key buffer hreceiver
  have hreading : (link.session side.other).reading = some buffer := by
    rw [((h.well _).inbox_of_peer hpeer rfl).2, hreceiver]
    rfl
  obtain ⟨hline, hwire⟩ := Link.drained hquiet hreading
  rw [Side.other_other] at hwire
  obtain ⟨lost, hstream, hlost⟩ := hflow.stream buffer ((h.well _).inbox_of_reading hreading)
  rw [hwire, hlost hcut, List.append_nil, List.append_nil] at hstream
  -- a record that was not used would still be in the buffer
  have hused : (link.session side).written.drop (link.session side.other).used = [] := by
    cases hdrop : (link.session side).written.drop (link.session side.other).used with
    | nil => rfl
    | cons r more =>
        obtain ⟨body, -, hr⟩ := jsonLine_line (J := J) r
        rw [hdrop, output_cons, hr] at hstream
        rw [takeLine_eq_none_iff, hstream] at hline
        exact absurd (by simp) hline
  refine hflow.reported.eq_of_length_le ?_
  rw [List.drop_eq_nil_iff, Session.used, hpeer] at hused
  rcases hw.history with ⟨hnil, -⟩ | hwritten
  · exact absurd hnil (hflow.peer hello key hpeer).2
  · rw [hwritten] at hused
    simp at hused ⊢
    omega

/-- When the threads are at rest, everything that a running send loop was given has been reported
by a receive loop that reads an uncut stream. -/
theorem Link.Sound.reported_at_rest {config : Side → Config C} {main : Main C} {link : Link C}
    (h : link.Sound J) (hquiet : (network J config main).Quiescent Move.internal link) {side : Side}
    {key key' : SessionKey C.primitives} {buffer : Bytes}
    (hmain : (link.session side).main = .sending key)
    (hreceiver : (link.session side.other).receiver = .looping key' buffer)
    (hcut : link.cut side = false) :
    (link.session side.other).reported = (link.session side).kept (link.session side).submitted := by
  have hqueued := (h.well side).queued (by simp [Session.live, hmain])
  rw [Link.queue_eq_nil hquiet hmain] at hqueued
  rw [h.sent_at_rest hquiet hreceiver hcut, ← hqueued]
  exact (List.append_nil _).symm

/-- Every reachable connection is sound. -/
theorem Link.Sound.of_reachable {config : Side → Config C} {main : Main C} {link : Link C}
    (hmain : main = .preparing ∨ main = .starting)
    (h : (network J config main).Reachable link) : link.Sound J := by
  refine h.invariant ?_ fun link move link' hsound hstep => hsound.step hstep
  rintro link rfl
  exact .new config hmain

end Fauna.Net
