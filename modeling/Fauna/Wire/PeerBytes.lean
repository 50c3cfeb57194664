import Fauna.Wire.Receive

/-!
# What the desktop reports of arbitrary peer bytes

A remote peer sends any bytes, in any chunking, and closes. The two threads of a desktop session
turn what they read into events: a handshake that fails becomes one `Error`, a receive loop that
ends becomes one `Disconnected`. Both go through an `Err` that the function returns; a panic
unwinds past the code that would have sent the event.

The only panic is in `preview`, which slices the text of a refused line at byte 180.
`HelloTrap` and `ChatTrap` are the lines that lead there, `reported_iff` says that these are the
only bytes whose end goes unreported, and `silent_handshake` shows that such bytes exist.
-/

namespace Fauna.Wire

open Fauna.Lib Fauna.Core

variable {C : Crates} {J : SerdeJson}

/-- `NetworkEvent`, what the threads of a desktop session tell the window. -/
inductive NetworkEvent
  | inviteCreated (invite : Text)
  | status (status : Text)
  | connected (peerName : Text)
  | incoming (body : Text)
  | disconnected (reason : Text)
  | error (message : Text)
  deriving DecidableEq

/-- The constructors of `NetworkEvent`. -/
inductive EventKind
  | inviteCreated
  | status
  | connected
  | incoming
  | disconnected
  | error
  deriving DecidableEq

/-- The constructor of an event. -/
def NetworkEvent.kind : NetworkEvent → EventKind
  | .inviteCreated _ => .inviteCreated
  | .status _ => .status
  | .connected _ => .connected
  | .incoming _ => .incoming
  | .disconnected _ => .disconnected
  | .error _ => .error

/-! ## The two threads -/

variable (J) in
/-- `run_session` from the line of the remote hello to the session key. -/
def greet (program : Program) (exchange : ExchangeKeypair C.primitives) (expected : Option Text)
    (line : Bytes) : Except Fault (HelloFrame Text × SessionKey C.primitives) := do
  let hello ← program.readHello J line
  let key ← establish program exchange expected hello
  return (hello, key)

variable (J) in
/-- The handshake over its reader, which it hands on. -/
def handshake (program : Program) (exchange : ExchangeKeypair C.primitives)
    (expected : Option Text) (reader : Reader) :
    Except Fault (HelloFrame Text × SessionKey C.primitives × Reader) := do
  let (hello, key) ← greet J program exchange expected reader.line.1
  return (hello, key, reader.line.2)

/-- The event for a session thread that fails: `start_host_thread` and `start_join_thread` turn an
`Err` into an `Error`; a panic leaves the thread without one. -/
def failureEvents : Fault → List NetworkEvent
  | .error message => [.error message]
  | .panic => []

/-- The event for a `receive_loop` that ends: the thread turns its `Err` into a `Disconnected`. -/
def endEvents : Fault → List NetworkEvent
  | .error message => [.disconnected message]
  | .panic => []

/-- What the session thread emits for the handshake. -/
def handshakeEvents :
    Except Fault (HelloFrame Text × SessionKey C.primitives × Reader) → List NetworkEvent
  | .ok (hello, _, _) => [.connected hello.displayName]
  | .error fault => failureEvents fault

/-- What the receive thread emits: the bodies, and the end of the loop. -/
def receiveEvents (result : List Text × Fault) : List NetworkEvent :=
  result.1.map .incoming ++ endEvents result.2

variable (J) in
/-- The end of the session is reported: a handshake that fails emits one `Error`, and after one
that succeeds the receive thread emits one `Disconnected`, after all its `Incoming` events. -/
structure Reported (exchange : ExchangeKeypair C.primitives) (expected : Option Text)
    (reader : Reader) : Prop where
  failed : ∀ fault, handshake J .desktop exchange expected reader = .error fault →
    ∃ message : Text, handshakeEvents (C := C) (.error fault) = [.error message]
  ended : ∀ hello key rest, handshake J .desktop exchange expected reader = .ok (hello, key, rest) →
    ∃ (bodies : List Text) (message : Text),
      receiveEvents (receiveLoop J .desktop key rest) =
        bodies.map .incoming ++ [.disconnected message]

/-! ## Where the threads panic -/

variable (J) in
/-- A first line that the desktop refuses with a preview it cannot cut: a text that is not JSON,
or JSON without a peer id that is no chat frame either. -/
def HelloTrap (line : Bytes) : Prop :=
  ∃ text, utf8Decode line = some text ∧ Unpreviewable (trimEnd text) ∧
    ∀ value, J.value (trimEnd text) = some value →
      isChatFrame value = false ∧ lacksPeerId value = true

variable (J) in
/-- A later line that the desktop refuses with a preview it cannot cut: a text that is no chat
frame. -/
def ChatTrap (line : Bytes) : Prop :=
  ∃ text, utf8Decode line = some text ∧ Unpreviewable (trimEnd text) ∧
    fromText J chatFromJson (trimEnd text) = none

/-- After a first step that cannot panic, only the second can. -/
theorem bind_eq_panic {α β : Type} {x : Except Fault α} {f : α → Except Fault β}
    (hx : x ≠ .error .panic) :
    (x >>= f) = .error .panic ↔ ∃ a, x = .ok a ∧ f a = .error .panic := by
  cases x with
  | error e => simpa [bind, Except.bind] using fun h => hx (congrArg _ h)
  | ok a => simp [bind, Except.bind]

/-- The empty line is no trap, so a line that could be one was read. -/
private theorem readLine_of_unpreviewable {closed : String} {line : Bytes} {text : Text}
    (hdecode : utf8Decode line = some text) (htrap : Unpreviewable (trimEnd text)) :
    readLine closed line = .ok text := by
  refine readLine_eq_ok.2 ⟨?_, hdecode⟩
  rintro rfl
  obtain rfl : text = [] := by simpa [eq_comm] using hdecode
  exact absurd htrap (by decide)

/-- The desktop panics on a first line exactly when it refuses it with a preview it cannot cut. -/
theorem readHello_eq_panic_iff {line : Bytes} :
    Program.desktop.readHello J line = .error .panic ↔ HelloTrap J line := by
  rw [Program.readHello, Desktop.readHelloFrame, bind_eq_panic (readLine_ne_panic _ _)]
  constructor
  · rintro ⟨text, hread, h⟩
    obtain ⟨-, hdecode⟩ := readLine_eq_ok.1 hread
    cases hvalue : J.value (trimEnd text) with
    | none =>
        rw [hvalue] at h
        exact ⟨text, hdecode, refuse_eq_panic_iff.1 h, by simp [hvalue]⟩
    | some value =>
        simp only [hvalue, Desktop.helloFromValue] at h
        split_ifs at h with hchat hpeer
        · cases h
        · exact ⟨text, hdecode, refuse_eq_panic_iff.1 h, by simp [hvalue, hchat, hpeer]⟩
        · split at h <;> cases h
  · rintro ⟨text, hdecode, htrap, hvalue⟩
    refine ⟨text, readLine_of_unpreviewable hdecode htrap, ?_⟩
    cases hv : J.value (trimEnd text) with
    | none => exact refuse_eq_panic_iff.2 htrap
    | some value =>
        obtain ⟨hchat, hpeer⟩ := hvalue value hv
        simp only [Desktop.helloFromValue, hchat, hpeer, Bool.false_eq_true, if_false, if_true]
        exact refuse_eq_panic_iff.2 htrap

/-- The desktop panics on a later line exactly when it refuses it with a preview it cannot cut. -/
theorem readChat_eq_panic_iff {line : Bytes} :
    Program.desktop.readChat J line = .error .panic ↔ ChatTrap J line := by
  rw [Program.readChat, Desktop.readJsonLine, bind_eq_panic (readLine_ne_panic _ _)]
  constructor
  · rintro ⟨text, hread, h⟩
    obtain ⟨-, hdecode⟩ := readLine_eq_ok.1 hread
    cases hframe : fromText J chatFromJson (trimEnd text) with
    | none =>
        rw [hframe] at h
        exact ⟨text, hdecode, refuse_eq_panic_iff.1 h, hframe⟩
    | some frame => simp [hframe] at h
  · rintro ⟨text, hdecode, htrap, hframe⟩
    refine ⟨text, readLine_of_unpreviewable hdecode htrap, ?_⟩
    rw [hframe]
    exact refuse_eq_panic_iff.2 htrap

/-- A failed `bind` fails in its first or in its second part. -/
theorem bind_eq_panic_iff {α β : Type} {x : Except Fault α} {f : α → Except Fault β}
    (hf : ∀ a, f a ≠ .error .panic) : (x >>= f) = .error .panic ↔ x = .error .panic := by
  cases x with
  | error e => simp [bind, Except.bind]
  | ok a => simpa [bind, Except.bind] using hf a

/-- A greeting is accepted when it is read and verified, and it fixes the session key. -/
theorem greet_eq_ok {program : Program} {exchange : ExchangeKeypair C.primitives}
    {expected : Option Text} {line : Bytes} {hello : HelloFrame Text}
    {key : SessionKey C.primitives} :
    greet J program exchange expected line = .ok (hello, key) ↔
      program.readHello J line = .ok hello ∧ establish program exchange expected hello = .ok key := by
  rw [greet, bind_eq_ok]
  constructor
  · rintro ⟨hello', hhello, h⟩
    obtain ⟨key', hkey, h⟩ := bind_eq_ok.1 h
    obtain ⟨rfl, rfl⟩ := Prod.mk.inj (Except.ok.inj h)
    exact ⟨hhello, hkey⟩
  · rintro ⟨hhello, hkey⟩
    exact ⟨hello, hhello, bind_eq_ok.2 ⟨key, hkey, rfl⟩⟩

/-- Only reading can panic in a greeting, never the verification. -/
theorem greet_eq_panic_iff {exchange : ExchangeKeypair C.primitives} {expected : Option Text}
    {line : Bytes} : greet J .desktop exchange expected line = .error .panic ↔
      HelloTrap J line := by
  rw [greet, bind_eq_panic_iff, readHello_eq_panic_iff]
  exact fun hello => bind_ne_panic (establish_ne_panic _ _ _ _) fun _ => by
    simp [pure, Except.pure]

/-- A handshake reads one line, and what is left is what follows that line. -/
theorem handshake_eq_ok {program : Program} {exchange : ExchangeKeypair C.primitives}
    {expected : Option Text} {reader rest : Reader} {hello : HelloFrame Text}
    {key : SessionKey C.primitives} :
    handshake J program exchange expected reader = .ok (hello, key, rest) ↔
      program.readHello J reader.line.1 = .ok hello ∧
        establish program exchange expected hello = .ok key ∧ reader.line.2 = rest := by
  rw [handshake, bind_eq_ok]
  constructor
  · rintro ⟨⟨hello', key'⟩, hgreet, h⟩
    obtain ⟨hhello, hkey⟩ := greet_eq_ok.1 hgreet
    have h : (hello', key', reader.line.2) = (hello, key, rest) := Except.ok.inj h
    obtain ⟨rfl, rfl, rfl⟩ : hello' = hello ∧ key' = key ∧ reader.line.2 = rest := by
      simpa only [Prod.mk.injEq] using h
    exact ⟨hhello, hkey, rfl⟩
  · rintro ⟨hhello, hkey, rfl⟩
    exact ⟨(hello, key), greet_eq_ok.2 ⟨hhello, hkey⟩, rfl⟩

/-- Whether a handshake panics is decided by the first line of the stream. -/
theorem handshake_eq_panic_iff {exchange : ExchangeKeypair C.primitives} {expected : Option Text}
    {reader : Reader} : handshake J .desktop exchange expected reader = .error .panic ↔
      HelloTrap J (nextLine reader.bytes).1 := by
  rw [handshake, reader.line_fst, bind_eq_panic_iff fun _ => by simp [pure, Except.pure],
    greet_eq_panic_iff]

/-- Only reading can panic in one turn of the receive loop, never the decryption. -/
theorem receiveOnce_eq_panic_iff {key : SessionKey C.primitives} {line : Bytes} :
    receiveOnce J .desktop key line = .error .panic ↔ ChatTrap J line := by
  rw [receiveOnce, bind_eq_panic_iff (openChat_ne_panic key), readChat_eq_panic_iff]

/-- The loop panics at the first line that it cannot report, if that line is a trap. -/
theorem receiveLines_eq_panic_iff {key : SessionKey C.primitives} {lines : List Bytes} :
    (receiveLines J .desktop key lines).2 = .panic ↔
      ∃ before line after, lines = before ++ line :: after ∧
        (∀ l ∈ before, ∃ body, receiveOnce J .desktop key l = .ok body) ∧ ChatTrap J line := by
  induction lines with
  | nil => simp [receiveLines, closed]
  | cons line lines ih =>
      rw [receiveLines]
      cases hline : receiveOnce J .desktop key line with
      | ok body =>
          simp only
          rw [ih]
          constructor
          · rintro ⟨before, l, after, rfl, hbefore, htrap⟩
            exact ⟨line :: before, l, after, rfl, by simpa [hline] using hbefore, htrap⟩
          · rintro ⟨before, l, after, hlines, hbefore, htrap⟩
            cases before with
            | nil =>
                obtain ⟨rfl, rfl⟩ := List.cons.inj hlines
                rw [receiveOnce_eq_panic_iff.2 htrap] at hline
                cases hline
            | cons l' before =>
                obtain ⟨rfl, rfl⟩ := List.cons.inj hlines
                exact ⟨before, l, after, rfl, fun l hl => hbefore l (List.mem_cons_of_mem _ hl),
                  htrap⟩
      | error fault =>
          simp only
          constructor
          · rintro rfl
            exact ⟨[], line, lines, rfl, by simp, receiveOnce_eq_panic_iff.1 hline⟩
          · rintro ⟨before, l, after, hlines, hbefore, htrap⟩
            cases before with
            | nil =>
                obtain ⟨rfl, rfl⟩ := List.cons.inj hlines
                exact Except.error.inj (hline.symm.trans (receiveOnce_eq_panic_iff.2 htrap))
            | cons l' before =>
                obtain ⟨rfl, rfl⟩ := List.cons.inj hlines
                obtain ⟨body, hbody⟩ := hbefore _ List.mem_cons_self
                cases hline.symm.trans hbody

/-! ## When the end is reported -/

/-- The receive thread ends with a report exactly when it did not panic. -/
theorem receiveEvents_reported_iff {bodies : List Text} {fault : Fault} :
    (∃ (bodies' : List Text) (message : Text), receiveEvents (bodies, fault) =
      bodies'.map .incoming ++ [.disconnected message]) ↔ fault ≠ .panic := by
  cases fault with
  | error message => simpa using ⟨bodies, message, rfl⟩
  | panic =>
      simp only [ne_eq, not_true_eq_false, iff_false, not_exists, receiveEvents, endEvents,
        List.append_nil]
      intro bodies' message h
      have : NetworkEvent.disconnected message ∈ bodies.map NetworkEvent.incoming := by
        rw [h]
        simp
      simp at this

/-- The end of a session is reported exactly when no line is refused with a preview that cannot
be cut: not the first line, and, when the handshake succeeds, not the first later line that does
not open under the session key. -/
theorem reported_iff (exchange : ExchangeKeypair C.primitives) (expected : Option Text)
    (chunks : List Bytes) :
    Reported J exchange expected ⟨[], chunks⟩ ↔
      ¬ HelloTrap J (nextLine chunks.flatten).1 ∧
      ∀ hello key,
        Program.desktop.readHello J (nextLine chunks.flatten).1 = .ok hello →
        establish .desktop exchange expected hello = .ok key →
        ∀ before line after,
          splitLines (nextLine chunks.flatten).2 = before ++ line :: after →
          (∀ l ∈ before, ∃ body, receiveOnce J .desktop key l = .ok body) → ¬ ChatTrap J line := by
  have hhandshake {hello : HelloFrame Text} {key : SessionKey C.primitives} {rest : Reader} :
      handshake J .desktop exchange expected ⟨[], chunks⟩ = .ok (hello, key, rest) ↔
        Program.desktop.readHello J (nextLine chunks.flatten).1 = .ok hello ∧
          establish .desktop exchange expected hello = .ok key ∧
          (Reader.line ⟨[], chunks⟩).2 = rest := by
    rw [handshake_eq_ok, Reader.line_fst, Reader.bytes_mk]
  have hloop {key : SessionKey C.primitives} :
      (receiveLoop J .desktop key (Reader.line ⟨[], chunks⟩).2).2 = .panic ↔
        ∃ before line after, splitLines (nextLine chunks.flatten).2 = before ++ line :: after ∧
          (∀ l ∈ before, ∃ body, receiveOnce J .desktop key l = .ok body) ∧ ChatTrap J line := by
    rw [receiveLoop_eq_receiveLines, receiveLines_eq_panic_iff, Reader.line_snd, Reader.bytes_mk]
  constructor
  · intro h
    refine ⟨?_, ?_⟩
    · intro htrap
      obtain ⟨message, hmessage⟩ := h.failed .panic
        (handshake_eq_panic_iff.2 (by rwa [Reader.bytes_mk]))
      simp [handshakeEvents, failureEvents] at hmessage
    · intro hello key hhello hkey before line after hlines hbefore htrap
      have hended := h.ended hello key _ (hhandshake.2 ⟨hhello, hkey, rfl⟩)
      exact receiveEvents_reported_iff.1 hended
        (hloop.2 ⟨before, line, after, hlines, hbefore, htrap⟩)
  · rintro ⟨hfirst, hlater⟩
    refine ⟨?_, ?_⟩
    · intro fault hfault
      cases fault with
      | error message => exact ⟨message, rfl⟩
      | panic =>
          rw [handshake_eq_panic_iff, Reader.bytes_mk] at hfault
          exact absurd hfault hfirst
    · intro hello key rest hok
      obtain ⟨hhello, hkey, rfl⟩ := hhandshake.1 hok
      refine receiveEvents_reported_iff.2 fun hpanic => ?_
      obtain ⟨before, line, after, hlines, hbefore, htrap⟩ := hloop.1 hpanic
      exact hlater hello key hhello hkey before line after hlines hbefore htrap

/-! ## Bytes whose end goes unreported -/

/-- A first line of 180 characters, the last of which takes two bytes. -/
def splitCharacter : Text := List.replicate 179 'a' ++ ['é']

/-- A line whose 180th byte is inside a character traps the reader of hellos. -/
theorem helloTrap_splitCharacter :
    HelloTrap SerdeJson.records (utf8Encode splitCharacter ++ [newline]) := by
  have htrim : trimEnd (splitCharacter ++ ['\n']) = splitCharacter := by
    rw [trimEnd, List.rdropWhile_concat_pos _ _ _ (by decide), splitCharacter,
      List.rdropWhile_concat_neg _ _ _ (by decide)]
  refine ⟨splitCharacter ++ ['\n'], ?_, ?_, ?_⟩
  · rw [utf8Decode_eq_some_iff, utf8Encode_append]
    rfl
  · rw [htrim, splitCharacter, Unpreviewable, utf8Length_append, utf8Length_replicate]
    refine ⟨by decide, ?_⟩
    have h := isCharBoundary_append (List.replicate 179 'a') ['é'] 1
    rwa [utf8Length_replicate] at h
  · rw [htrim]
    intro value hvalue
    cases hvalue

/-- A keypair of the transparent crates. -/
def transparentExchange : ExchangeKeypair Crates.transparent.primitives :=
  .generate transparentKey.bytes transparentKey.hasLength

/-- An identity of the transparent crates. -/
def transparentIdentity : DeviceIdentity Crates.transparent.primitives :=
  ⟨transparentKey.bytes, transparentKey.hasLength⟩

/-- Peer bytes that panic the session thread, so that no event reports the end. -/
theorem silent_handshake :
    ¬ ∀ (C : Crates) (J : SerdeJson) (exchange : ExchangeKeypair C.primitives)
      (expected : Option Text) (chunks : List Bytes),
      Reported J exchange expected ⟨[], chunks⟩ := by
  intro h
  have hreported := h Crates.transparent SerdeJson.records transparentExchange none
    [utf8Encode splitCharacter ++ [newline]]
  have hline : newline ∉ utf8Encode splitCharacter := by
    rw [newline_mem_utf8Encode, splitCharacter, List.mem_append, List.mem_replicate]
    decide
  obtain ⟨message, hmessage⟩ := hreported.failed .panic (handshake_eq_panic_iff.2 (by
    rw [Reader.bytes_mk, List.flatten_singleton, nextLine_line hline]
    exact helloTrap_splitCharacter))
  simp [handshakeEvents, failureEvents] at hmessage

end Fauna.Wire
