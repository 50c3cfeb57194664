import Fauna.Wire.Frames
import Mathlib.Data.List.Forall2

/-!
# What a session makes of the bytes its peer sends

The two readers of a session, as functions of the stream: the handshake, which reads one line,
and `receive_loop`, which reads the rest. `Reader` is the `BufReader` both use one after the
other; what it has buffered when the handshake ends is where the receive loop begins.

* `receiveLoop_eq_receiveLines`: the loop depends on the lines of the stream only.
* `receiver_reports_deliveries`: fed with whole frame lines of its peer, the loop reports exactly
  the bodies of the lines it is given, as often and in the order they come.
-/

namespace Fauna.Wire

open Fauna.Lib Fauna.Core

/-- A `BufReader` over a stream that ends: what it holds, and the chunks it has yet to ask for. -/
structure Reader where
  buffer : Bytes
  chunks : List Bytes

/-- All the bytes that are left to read. -/
def Reader.bytes (reader : Reader) : Bytes := reader.buffer ++ reader.chunks.flatten

@[simp] theorem Reader.bytes_mk (chunks : List Bytes) :
    Reader.bytes ⟨[], chunks⟩ = chunks.flatten := rfl

/-- The bytes `read_line` takes, and the reader after it. -/
def Reader.line (reader : Reader) : Bytes × Reader :=
  let p := readUntil reader.buffer reader.chunks
  (p.1, ⟨p.2.1, p.2.2⟩)

/-- However the stream is chunked, `read_line` takes the stream's next line. -/
theorem Reader.line_fst (reader : Reader) : reader.line.1 = (nextLine reader.bytes).1 :=
  congrArg Prod.fst (readUntil_eq_nextLine reader.buffer reader.chunks)

/-- Reading a line from chunks leaves what reading it from the whole stream leaves. -/
theorem Reader.line_snd (reader : Reader) : reader.line.2.bytes = (nextLine reader.bytes).2 :=
  congrArg Prod.snd (readUntil_eq_nextLine reader.buffer reader.chunks)

variable {C : Crates} (J : SerdeJson) (program : Program)

/-! ## The receive loop -/

/-- One round of `receive_loop`: read a frame, decrypt it, report it. -/
def receiveOnce (key : SessionKey C.primitives) (line : Bytes) : Except Fault Text := do
  let frame ← program.readChat J line
  openChat key frame

/-- What a reader says at the end of the stream. -/
def closed : Program → Fault
  | .cli => .error "peer disconnected".toList
  | .desktop => .error "karsi taraf baglantiyi kapatti".toList

variable {J program} in
/-- An empty read is the peer's end of the stream. -/
@[simp] theorem receiveOnce_nil (key : SessionKey C.primitives) :
    receiveOnce J program key [] = .error (closed program) := by
  cases program <;> rfl

/-- `receive_loop`: the bodies it reports, and the fault it ends with. -/
def receiveLoop (key : SessionKey C.primitives) (reader : Reader) : List Text × Fault :=
  match _h : receiveOnce J program key reader.line.1 with
  | .ok body =>
      let rest := receiveLoop key reader.line.2
      (body :: rest.1, rest.2)
  | .error fault => ([], fault)
termination_by reader.bytes.length
decreasing_by
  have hne : reader.bytes ≠ [] := by
    intro hnil
    rw [reader.line_fst, hnil, nextLine_nil, receiveOnce_nil] at _h
    cases _h
  rw [reader.line_snd]
  exact nextLine_length _ hne

/-- `receive_loop` over the lines of its stream. -/
def receiveLines (key : SessionKey C.primitives) : List Bytes → List Text × Fault
  | [] => ([], closed program)
  | line :: lines =>
      match receiveOnce J program key line with
      | .ok body =>
          let rest := receiveLines key lines
          (body :: rest.1, rest.2)
      | .error fault => ([], fault)

variable {J program}

/-- A line that opens is reported and the loop goes on with the rest. -/
theorem receiveLoop_of_ok {key : SessionKey C.primitives} {reader : Reader} {body : Text}
    (h : receiveOnce J program key reader.line.1 = .ok body) :
    receiveLoop J program key reader =
      (body :: (receiveLoop J program key reader.line.2).1,
        (receiveLoop J program key reader.line.2).2) := by
  rw [receiveLoop]
  split
  · next body' h' =>
    obtain rfl := Except.ok.inj (h.symm.trans h')
    rfl
  · next h' => cases h.symm.trans h'

/-- A line that fails ends the loop with its fault and reports nothing. -/
theorem receiveLoop_of_error {key : SessionKey C.primitives} {reader : Reader} {fault : Fault}
    (h : receiveOnce J program key reader.line.1 = .error fault) :
    receiveLoop J program key reader = ([], fault) := by
  rw [receiveLoop]
  split
  · next h' => cases h.symm.trans h'
  · next fault' h' => rw [Except.error.inj (h.symm.trans h')]

/-- The loop depends on the lines of its stream only, not on how they arrive. -/
theorem receiveLoop_eq_receiveLines (key : SessionKey C.primitives) (reader : Reader) :
    receiveLoop J program key reader = receiveLines J program key (splitLines reader.bytes) := by
  induction reader using receiveLoop.induct J program key with
  | case1 reader body h ih =>
      have hne : reader.bytes ≠ [] := by
        intro hnil
        rw [reader.line_fst, hnil, nextLine_nil, receiveOnce_nil] at h
        cases h
      rw [receiveLoop_of_ok h, ih, splitLines_eq hne, ← reader.line_fst, ← reader.line_snd,
        receiveLines, h]
  | case2 reader fault h =>
      rw [receiveLoop_of_error h]
      by_cases hnil : reader.bytes = []
      · rw [reader.line_fst, hnil, nextLine_nil, receiveOnce_nil] at h
        rw [hnil, splitLines, receiveLines, Except.error.inj h]
      · rw [splitLines_eq hnil, ← reader.line_fst, receiveLines, h]

/-- A round on a frame that was sealed under the key reports its body. -/
theorem receiveOnce_jsonLine {key : SessionKey C.primitives} {nonce : Nonce C.primitives}
    {body : Text} {frame : ChatFrame Text} (h : sealChat key nonce body = .ok frame) :
    receiveOnce J program key (jsonLine J (chatRecord frame)) = .ok body :=
  bind_eq_ok.2 ⟨frame, readChat_jsonLine program frame, openChat_sealChat C.lawful h⟩

/-! ## Whole frame lines in any order -/

/-- A written line holds one newline, at its end. -/
theorem jsonLine_line (r : Record) :
    ∃ body, newline ∉ body ∧ jsonLine J r = body ++ [newline] :=
  ⟨_, fun h => J.newline_not_mem_print r ((newline_mem_utf8Encode _).1 h), rfl⟩

/-- A written line is not empty. -/
theorem jsonLine_ne_nil (J : SerdeJson) (r : Record) : jsonLine J r ≠ [] := by
  simp [jsonLine]

/-- A written line is taken whole. -/
theorem takeLine_jsonLine (J : SerdeJson) (r : Record) :
    takeLine (jsonLine J r) = some (jsonLine J r, []) := by
  obtain ⟨body, hbody, hline⟩ := jsonLine_line (J := J) r
  rw [hline]
  exact takeLine_append_newline hbody []

/-- Lines that each hold a frame sealed under the key are reported one by one, and then the
stream has ended. -/
theorem receiveLines_frames {key : SessionKey C.primitives} {frames : List (ChatFrame Text)}
    {bodies : List Text}
    (h : List.Forall₂ (fun frame body => ∃ nonce, sealChat key nonce body = .ok frame)
      frames bodies) :
    receiveLines J program key (frames.map fun frame => jsonLine J (chatRecord frame)) =
      (bodies, closed program) := by
  induction h with
  | nil => rfl
  | cons hframe _ ih =>
      obtain ⟨nonce, hseal⟩ := hframe
      simp only [List.map_cons, receiveLines, receiveOnce_jsonLine hseal, ih]

/-- A body with the chat frame a send loop sealed it into. -/
structure SentFrame (key : SessionKey C.primitives) where
  nonce : Nonce C.primitives
  body : Text
  frame : ChatFrame Text
  sealed_eq : sealChat key nonce body = .ok frame

/-- The stream an attacker makes of the frame lines of a session: each delivery names one of the
frames, so that dropping, delaying, repeating and reordering are all a choice of deliveries. -/
def deliver (J : SerdeJson) {key : SessionKey C.primitives} (sent : List (SentFrame key))
    (deliveries : List (Fin sent.length)) : Bytes :=
  (deliveries.map fun d => jsonLine J (chatRecord (sent.get d).frame)).flatten

/-- On delivered frames the loop reports their bodies in the order of delivery. -/
theorem receiveLoop_deliver {key : SessionKey C.primitives} (sent : List (SentFrame key))
    (deliveries : List (Fin sent.length)) {reader : Reader}
    (hreader : reader.bytes = deliver J sent deliveries) :
    receiveLoop J program key reader =
      (deliveries.map fun d => (sent.get d).body, closed program) := by
  have hsplit : splitLines reader.bytes =
      (deliveries.map fun d => (sent.get d).frame).map fun f => jsonLine J (chatRecord f) := by
    rw [hreader, deliver, List.map_map]
    refine splitLines_flatten fun line hline => ?_
    obtain ⟨d, -, rfl⟩ := List.mem_map.1 hline
    exact jsonLine_line _
  rw [receiveLoop_eq_receiveLines, hsplit]
  refine receiveLines_frames ?_
  rw [List.forall₂_map_left_iff, List.forall₂_map_right_iff, List.forall₂_same]
  exact fun d _ => ⟨(sent.get d).nonce, (sent.get d).sealed_eq⟩

/-- The receiver reports what is delivered, one body for each frame line, in the order of the
delivery and as often as it is repeated. Where the deliveries neither repeat nor reorder frames,
that is an in-order subsequence of what was sent. -/
theorem receiver_reports_deliveries {key : SessionKey C.primitives} (sent : List (SentFrame key))
    (deliveries : List (Fin sent.length)) {reader : Reader}
    (hreader : reader.bytes = deliver J sent deliveries) :
    (receiveLoop J program key reader).1 = deliveries.map (fun d => (sent.get d).body) ∧
      (deliveries.Pairwise (· < ·) →
        (receiveLoop J program key reader).1.Sublist (sent.map (·.body))) := by
  rw [receiveLoop_deliver sent deliveries hreader]
  refine ⟨rfl, fun hordered => ?_⟩
  have hsublist := (List.map_getElem_sublist hordered).map (·.body)
  simpa [Function.comp_def] using hsublist

/-- A key of the transparent crates, and a body sealed under it. -/
def transparentKey : SessionKey Crates.transparent.primitives := ⟨List.replicate 32 0, rfl⟩

def transparentFrame (body : Text) : SentFrame transparentKey :=
  ⟨⟨List.replicate 24 0, rfl⟩, body, _, rfl⟩

/-- Two bodies sent. -/
def twoFrames : List (SentFrame transparentKey) :=
  [transparentFrame "a".toList, transparentFrame "b".toList]

/-- Both frames delivered as they were sent. -/
def inOrder : List (Fin twoFrames.length) := [⟨0, by decide⟩, ⟨1, by decide⟩]

/-- The second frame delivered first, and the first one twice. -/
def replayed : List (Fin twoFrames.length) := [⟨1, by decide⟩, ⟨0, by decide⟩, ⟨0, by decide⟩]

/-- Two frames delivered in order are reported in order. -/
theorem receiver_reports_deliveries_in_order :
    (receiveLoop SerdeJson.records .desktop transparentKey
      ⟨[], [deliver SerdeJson.records twoFrames inOrder]⟩).1.Sublist ["a".toList, "b".toList] :=
  (receiver_reports_deliveries twoFrames inOrder (by simp [Reader.bytes])).2 (by decide)

/-- The receiver keeps no memory of what it has accepted: a repeated frame is reported again, and
after a later one. -/
theorem replay_and_reorder :
    ¬ ∀ (C : Crates) (J : SerdeJson) (program : Program) (key : SessionKey C.primitives)
      (sent : List (SentFrame key)) (deliveries : List (Fin sent.length)) (reader : Reader),
      reader.bytes = deliver J sent deliveries →
        (receiveLoop J program key reader).1.Sublist (sent.map (·.body)) := by
  intro h
  have hsublist := h Crates.transparent SerdeJson.records .desktop transparentKey twoFrames
    replayed ⟨[], [deliver SerdeJson.records twoFrames replayed]⟩ (by simp [Reader.bytes])
  rw [receiveLoop_deliver twoFrames replayed (by simp [Reader.bytes])] at hsublist
  exact absurd hsublist (by decide)

end Fauna.Wire
