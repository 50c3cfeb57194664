import Fauna.Lib.ControlReply
import Fauna.Tor.Control

/-!
# Commands and their replies

`TorControl::command` writes a command and reads lines until one begins with `250 `, or with a 4 or
a 5. A reply of the control protocol ends elsewhere: at its one line that has a space after the
code, whatever stands in the lines before it. What is consumed of a reply decides what the next
command on the connection reads.

* `run_readReply_passes`, `run_readReply_stops`: one line of a reply.
* `run_readReply_start`, `run_readReply_early`: the lines before its end line.
* `replies_consumed_iff`: the replies that are consumed exactly, and commands that each read their
  own.
* `bootstrapReply_misread`: a reply that is not, and what the next command makes of it.
-/

namespace Fauna.Tor

open Fauna.Lib Fauna.Core Fauna.Wire Fauna.Dial Fauna.Dial.Action

/-! ## The connection -/

/-- A connection to a control port: what is not yet read, whether the other side has ended it after
that, and what was written. -/
structure ControlStream where
  unread : Bytes
  ended : Bool
  written : Bytes

/-- What `read_line` makes of the bytes of a line. -/
def lineAnswer (line : Bytes) : Except Text Text :=
  match utf8Decode line with
  | some line => .ok line
  | none => .error "stream did not contain valid UTF-8".toList

/-- What the code gets from a connection. A read waits for a line, or for the end. -/
def ControlStream.answers : (c : Call) → ControlStream → Option (c.Answer × ControlStream)
  | .writeAll bytes, stream => some (.ok (), { stream with written := stream.written ++ bytes })
  | .readLine, stream =>
      match takeLine stream.unread with
      | some (line, rest) => some (lineAnswer line, { stream with unread := rest })
      | none =>
          if stream.ended then some (lineAnswer stream.unread, { stream with unread := [] })
          else none
  | _, _ => none

/-! ## Where the loop stops -/

/-- A line that `command` takes for the end of a reply: `250 `, and more than whitespace after
it. -/
def IsSuccess (line : Text) : Prop :=
  ∃ rest, line = "250 ".toList ++ rest ∧ ∃ c ∈ rest, isWhitespace c = false

/-- A line that `command` takes for an error. -/
def IsFailure (line : Text) : Prop := line.head? = some '4' ∨ line.head? = some '5'

/-- A line that `command` goes on after. -/
def Passes (line : Bytes) : Prop :=
  ∃ text, utf8Decode line = some text ∧ ¬ IsSuccess text ∧ ¬ IsFailure text

/-- What the loop takes for a success. -/
theorem isPrefixOf_trimEnd_iff_isSuccess {line : Text} :
    "250 ".toList.isPrefixOf (trimEnd line) = true ↔ IsSuccess line := by
  have hblank : trimEnd "250 ".toList = "250".toList := by decide
  rw [List.isPrefixOf_iff_prefix]
  constructor
  · intro h
    obtain ⟨rest, rfl⟩ := h.trans (List.rdropWhile_prefix isWhitespace line)
    refine ⟨rest, rfl, ?_⟩
    by_contra hall
    have hrest : trimEnd rest = [] := by
      rw [trimEnd, List.rdropWhile_eq_nil_iff]
      intro c hc
      by_contra hword
      exact hall ⟨c, hc, by simpa using hword⟩
    rw [trimEnd_append, if_pos hrest, hblank] at h
    exact absurd h (by decide)
  · rintro ⟨rest, rfl, c, hc, hword⟩
    have hrest : trimEnd rest ≠ [] := by
      rw [trimEnd, Ne, List.rdropWhile_eq_nil_iff]
      intro hall
      rw [hall c hc] at hword
      cases hword
    rw [trimEnd_append, if_neg hrest]
    exact List.prefix_append _ _

/-- The first character of a line that is no whitespace stays. -/
theorem isPrefixOf_trimEnd_singleton {c : Char} (hc : isWhitespace c = false) {line : Text} :
    [c].isPrefixOf (trimEnd line) = true ↔ line.head? = some c := by
  rw [List.isPrefixOf_iff_prefix]
  constructor
  · intro h
    obtain ⟨rest, rfl⟩ := h.trans (List.rdropWhile_prefix isWhitespace line)
    rfl
  · intro h
    obtain ⟨rest, rfl⟩ := List.head?_eq_some_iff.1 h
    have hself : trimEnd [c] = [c] := trimEnd_eq_self (by simp [hc])
    exact List.isPrefixOf_iff_prefix.1 (isPrefixOf_trimEnd hself rest)

/-- What it takes for a failure. -/
theorem isPrefixOf_trimEnd_iff_isFailure {line : Text} :
    ("5".toList.isPrefixOf (trimEnd line) || "4".toList.isPrefixOf (trimEnd line)) = true ↔
      IsFailure line := by
  rw [Bool.or_eq_true, IsFailure, or_comm]
  exact or_congr (isPrefixOf_trimEnd_singleton (by decide))
    (isPrefixOf_trimEnd_singleton (by decide))

/-! ## One line -/

/-- The end of a line does not matter to whether it is UTF-8. -/
theorem utf8Decode_crlf (line : Bytes) :
    utf8Decode (line ++ crlf) = (utf8Decode line).map (· ++ "\r\n".toList) := by
  have hline : line ++ crlf = line ++ [asciiByte '\r'] ++ [asciiByte '\n'] := by
    rw [List.append_assoc]
    rfl
  rw [hline, utf8Decode_append_ascii (by decide), utf8Decode_append_ascii (by decide),
    Option.map_map]
  congr 1
  funext text
  exact List.append_assoc _ _ _

/-- How the loop may end at a line, with the lines it read before. -/
inductive StopsWith (line : Bytes) (lines : List Text) : Except Fault (List Text) → Prop
  | success {text : Text} (hdecode : utf8Decode line = some text) (hsuccess : IsSuccess text) :
      StopsWith line lines (.ok (lines ++ [trimEnd text]))
  | failure (message : Text) (h : ∀ text, utf8Decode line = some text → ¬ IsSuccess text) :
      StopsWith line lines (.error (.error message))

section Reading

variable {rounds : ℕ} {lines : List Text} {line rest written : Bytes} {ended : Bool} {text : Text}

/-- One line is read off the stream, to its end. -/
theorem answers_readLine (hline : newline ∉ line) :
    ControlStream.answers .readLine ⟨line ++ crlf ++ rest, ended, written⟩ =
      some (lineAnswer (line ++ crlf), ⟨rest, ended, written⟩) := by
  rw [ControlStream.answers, takeLine_wire hline]

/-- The loop reads a line that is a text. -/
theorem run_readReply_text (hline : newline ∉ line) (hdecode : utf8Decode line = some text) :
    (readReply (rounds + 1) lines).run ControlStream.answers
      ⟨line ++ crlf ++ rest, ended, written⟩ =
      if "250 ".toList.isPrefixOf (trimEnd text) then
        some (.ok (lines ++ [trimEnd text]), ⟨rest, ended, written⟩)
      else if "5".toList.isPrefixOf (trimEnd text) || "4".toList.isPrefixOf (trimEnd text) then
        some (.error (.error ("Tor control komutu basarisiz: ".toList ++
          joinLines (lines ++ [trimEnd text]))), ⟨rest, ended, written⟩)
      else (readReply rounds (lines ++ [trimEnd text])).run ControlStream.answers
        ⟨rest, ended, written⟩ := by
  have hread : lineAnswer (line ++ crlf) = .ok (text ++ "\r\n".toList) := by
    rw [lineAnswer, utf8Decode_crlf, hdecode]
    rfl
  have hne : text ++ "\r\n".toList ≠ [] := List.append_ne_nil_of_right_ne_nil _ (by decide)
  rw [readReply, Routine.run_bind, Action.ask, Routine.ask, Routine.run, answers_readLine hline,
    hread]
  simp only [Option.bind_some, Routine.run, orFail, Routine.done_bind, if_neg hne,
    trimEnd_append_newline]
  split_ifs <;> rfl

/-- The loop reads a line that is no text. -/
theorem run_readReply_undecodable (hline : newline ∉ line) (hdecode : utf8Decode line = none) :
    (readReply (rounds + 1) lines).run ControlStream.answers
      ⟨line ++ crlf ++ rest, ended, written⟩ =
      some (.error (.error "stream did not contain valid UTF-8".toList),
        ⟨rest, ended, written⟩) := by
  have hread : lineAnswer (line ++ crlf) =
      .error "stream did not contain valid UTF-8".toList := by
    rw [lineAnswer, utf8Decode_crlf, hdecode]
    rfl
  rw [readReply, Routine.run_bind, Action.ask, Routine.ask, Routine.run, answers_readLine hline,
    hread]
  rfl

/-- After a line that is neither a success nor a failure the loop goes on. -/
theorem run_readReply_passes (hline : newline ∉ line) (hdecode : utf8Decode line = some text)
    (hsuccess : ¬ IsSuccess text) (hfailure : ¬ IsFailure text) :
    (readReply (rounds + 1) lines).run ControlStream.answers
      ⟨line ++ crlf ++ rest, ended, written⟩ =
      (readReply rounds (lines ++ [trimEnd text])).run ControlStream.answers
        ⟨rest, ended, written⟩ := by
  rw [run_readReply_text hline hdecode, if_neg (mt isPrefixOf_trimEnd_iff_isSuccess.1 hsuccess),
    if_neg (mt isPrefixOf_trimEnd_iff_isFailure.1 hfailure)]

variable (rounds lines rest written ended)

/-- A line that the loop does not go on after is read whole, and ends it. -/
theorem run_readReply_stops (hline : newline ∉ line) (h : ¬ Passes line) :
    ∃ result, (readReply (rounds + 1) lines).run ControlStream.answers
      ⟨line ++ crlf ++ rest, ended, written⟩ = some (result, ⟨rest, ended, written⟩) ∧
      StopsWith line lines result := by
  cases hdecode : utf8Decode line with
  | none =>
      refine ⟨_, run_readReply_undecodable hline hdecode, .failure _ ?_⟩
      intro text hdecode'
      cases hdecode.symm.trans hdecode'
  | some text =>
      rw [run_readReply_text hline hdecode]
      by_cases hsuccess : IsSuccess text
      · rw [if_pos (isPrefixOf_trimEnd_iff_isSuccess.2 hsuccess)]
        exact ⟨_, rfl, .success hdecode hsuccess⟩
      · have hfailure : IsFailure text := by
          by_contra hfailure
          exact h ⟨text, hdecode, hsuccess, hfailure⟩
        rw [if_neg (mt isPrefixOf_trimEnd_iff_isSuccess.1 hsuccess),
          if_pos (isPrefixOf_trimEnd_iff_isFailure.2 hfailure)]
        refine ⟨_, rfl, .failure _ ?_⟩
        rintro text' hdecode'
        obtain rfl := Option.some.inj (hdecode.symm.trans hdecode')
        exact hsuccess

/-! ## The lines before the end line -/

variable {start : List Bytes}

/-- The loop goes on after lines that let it. -/
theorem run_readReply_start (hstart : ∀ line ∈ start, newline ∉ line)
    (hpass : ∀ line ∈ start, Passes line) :
    ∃ texts, start.mapM utf8Decode = some texts ∧
      (readReply (start.length + rounds) lines).run ControlStream.answers
        ⟨wire start ++ rest, ended, written⟩ =
        (readReply rounds (lines ++ texts.map trimEnd)).run ControlStream.answers
          ⟨rest, ended, written⟩ := by
  induction start generalizing lines with
  | nil =>
      refine ⟨[], rfl, ?_⟩
      rw [List.length_nil, Nat.zero_add, List.map_nil, List.append_nil, wire_nil, List.nil_append]
  | cons line start ih =>
      obtain ⟨text, hdecode, hsuccess, hfailure⟩ := hpass line (by simp)
      obtain ⟨texts, htexts, hrun⟩ := ih (lines ++ [trimEnd text])
        (fun line' h => hstart line' (by simp [h])) (fun line' h => hpass line' (by simp [h]))
      refine ⟨text :: texts, by simp [hdecode, htexts], ?_⟩
      rw [wire_cons, List.append_assoc (line ++ crlf), List.length_cons, Nat.succ_add,
        run_readReply_passes (hstart line (by simp)) hdecode hsuccess hfailure, hrun,
        List.append_assoc]
      rfl

/-- Where a line does not let it, the loop ends before what follows these lines. -/
theorem run_readReply_early (hstart : ∀ line ∈ start, newline ∉ line)
    (h : ∃ line ∈ start, ¬ Passes line) :
    ∃ result later, (readReply (start.length + rounds) lines).run ControlStream.answers
      ⟨wire start ++ rest, ended, written⟩ = some (result, ⟨later ++ rest, ended, written⟩) := by
  induction start generalizing lines with
  | nil => simp at h
  | cons line start ih =>
      rw [wire_cons, List.append_assoc (line ++ crlf), List.length_cons, Nat.succ_add]
      by_cases hpass : Passes line
      · obtain ⟨text, hdecode, hsuccess, hfailure⟩ := hpass
        rw [run_readReply_passes (hstart line (by simp)) hdecode hsuccess hfailure]
        apply ih _ (fun line' h => hstart line' (by simp [h]))
        obtain ⟨stop, hmem, hstop⟩ := h
        rcases List.mem_cons.1 hmem with rfl | hmem
        · exact absurd ⟨text, hdecode, hsuccess, hfailure⟩ hstop
        · exact ⟨stop, hmem, hstop⟩
      · obtain ⟨result, hrun, -⟩ := run_readReply_stops _ lines (wire start ++ rest) written ended
          (hstart line (by simp)) hpass
        exact ⟨result, wire start, hrun⟩

end Reading

/-! ## A whole reply -/

/-- What `command` should return for a reply. -/
structure Answers (reply : ControlReply) (result : Except Fault (List Text)) : Prop where
  success : reply.code.first = 2 → ∃ texts, reply.lines.mapM utf8Decode = some texts ∧
    result = .ok (texts.map trimEnd)
  failure : reply.code.first = 4 ∨ reply.code.first = 5 →
    ∃ message, result = .error (.error message)

/-- On every connection with the reply at its front, a command reads the reply, leaves what comes
after it, and returns what it should; `n` rounds of the loop are enough. -/
def ConsumesExactly (reply : ControlReply) : Prop :=
  ∀ (command : Text) (rest written : Bytes) (ended : Bool), ∃ n, ∀ rounds ≥ n, ∃ result,
    (TorControl.command rounds command).run ControlStream.answers
      ⟨wire reply.lines ++ rest, ended, written⟩ =
      some (result, ⟨rest, ended, written ++ utf8Encode command ++ crlf⟩) ∧ Answers reply result

/-- An end line that the loop stops at: an error, or a 250 with a text that is not blank. -/
def EndLineFits (reply : ControlReply) : Prop :=
  reply.code.first = 4 ∨ reply.code.first = 5 ∨ reply.code = ⟨2, 5, 0⟩ ∧
    ∃ text, utf8Decode reply.text.1 = some text ∧ ∃ c ∈ text, isWhitespace c = false

/-- A reply whose end line is the first line that the loop stops at. -/
structure ReplyFits (reply : ControlReply) : Prop where
  start : ∀ line ∈ reply.start, Passes line
  endLine : EndLineFits reply

/-- A command is written, and then its reply is read. -/
theorem run_command {rounds : ℕ} {command : Text} {unread written : Bytes} {ended : Bool} :
    (TorControl.command rounds command).run ControlStream.answers ⟨unread, ended, written⟩ =
      (readReply rounds []).run ControlStream.answers
        ⟨unread, ended, written ++ utf8Encode command ++ crlf⟩ := rfl

section EndLine

variable {reply : ControlReply} {text : Text}

/-- An end line is a success exactly if its code is 250 and its text is not blank. -/
theorem isSuccess_endLine_iff : IsSuccess (reply.code.chars ++ ' ' :: text) ↔
    reply.code = ⟨2, 5, 0⟩ ∧ ∃ c ∈ text, isWhitespace c = false := by
  have hcode : (⟨2, 5, 0⟩ : StatusCode).chars = "250".toList := by decide
  constructor
  · rintro ⟨rest, h, hword⟩
    have hsplit : reply.code.chars ++ ' ' :: text = "250".toList ++ ' ' :: rest := h
    obtain ⟨hchars, hrest⟩ := List.append_inj hsplit rfl
    rw [← hcode, StatusCode.chars_inj] at hchars
    obtain rfl := (List.cons.inj hrest).2
    exact ⟨hchars, hword⟩
  · rintro ⟨hchars, hword⟩
    refine ⟨text, ?_, hword⟩
    rw [hchars, hcode]
    rfl

/-- An end line is a failure exactly if its code begins with 4 or 5. -/
theorem isFailure_endLine_iff : IsFailure (reply.code.chars ++ ' ' :: text) ↔
    reply.code.first = 4 ∨ reply.code.first = 5 := by
  have hhead {d : Fin 10} : (reply.code.chars ++ ' ' :: text).head? = some (digitChar d) ↔
      reply.code.first = d := by
    rw [← digitChar_inj]
    exact Option.some_inj
  exact or_congr (hhead (d := 4)) (hhead (d := 5))

/-- An end line is UTF-8 exactly if its text is. -/
theorem utf8Decode_endLine_eq_some : utf8Decode reply.endLine = some text ↔
    ∃ text', utf8Decode reply.text.1 = some text' ∧ reply.code.chars ++ ' ' :: text' = text := by
  rw [ControlReply.utf8Decode_endLine, Option.map_eq_some_iff]

/-- The loop stops at an end line that fits. -/
theorem not_passes_endLine (h : EndLineFits reply) : ¬ Passes reply.endLine := by
  rintro ⟨_, hdecode, hsuccess, hfailure⟩
  obtain ⟨text, htext, rfl⟩ := utf8Decode_endLine_eq_some.1 hdecode
  rw [isSuccess_endLine_iff] at hsuccess
  rw [isFailure_endLine_iff] at hfailure
  rcases h with hfour | hfive | ⟨hcode, text', htext', hword⟩
  · exact hfailure (.inl hfour)
  · exact hfailure (.inr hfive)
  · obtain rfl := Option.some.inj (htext.symm.trans htext')
    exact hsuccess ⟨hcode, hword⟩

variable {texts : List Text} {result : Except Fault (List Text)}

/-- At an end line that fits, the loop ends as it should. -/
theorem answers_of_stopsWith (hfits : EndLineFits reply)
    (htexts : reply.start.mapM utf8Decode = some texts)
    (hstop : StopsWith reply.endLine (texts.map trimEnd) result) : Answers reply result := by
  cases hstop with
  | @success line hdecode hsuccess =>
      have hall : reply.lines.mapM utf8Decode = some (texts ++ [line]) := by
        rw [ControlReply.lines, List.mapM_append, htexts, List.mapM_cons, hdecode]
        rfl
      obtain ⟨text, -, rfl⟩ := utf8Decode_endLine_eq_some.1 hdecode
      obtain ⟨hcode, -⟩ := isSuccess_endLine_iff.1 hsuccess
      constructor
      · intro _
        exact ⟨_, hall, by rw [List.map_append]; rfl⟩
      · intro herror
        rw [hcode] at herror
        exact absurd herror (by decide)
  | failure message h =>
      constructor
      · intro htwo
        rcases hfits with hfour | hfive | ⟨hcode, text, htext, hword⟩
        · exact absurd (htwo.symm.trans hfour) (by decide)
        · exact absurd (htwo.symm.trans hfive) (by decide)
        · exact absurd (isSuccess_endLine_iff.2 ⟨hcode, hword⟩)
            (h _ (utf8Decode_endLine_eq_some.2 ⟨text, htext, rfl⟩))
      · intro _
        exact ⟨message, rfl⟩

/-- Where the loop ends at an end line as it should, the end line fits. -/
theorem endLineFits_of_answers {lines : List Text} (hstop : StopsWith reply.endLine lines result)
    (hanswers : Answers reply result) : EndLineFits reply := by
  rcases reply.synchronous with htwo | herror
  · obtain ⟨texts, -, hresult⟩ := hanswers.success htwo
    cases hstop with
    | success hdecode hsuccess =>
        obtain ⟨text, htext, rfl⟩ := utf8Decode_endLine_eq_some.1 hdecode
        obtain ⟨hcode, hword⟩ := isSuccess_endLine_iff.1 hsuccess
        exact .inr (.inr ⟨hcode, text, htext, hword⟩)
    | failure message h => cases hresult
  · rcases herror with hfour | hfive
    · exact .inl hfour
    · exact .inr (.inl hfive)

end EndLine

/-- No line of a reply holds a newline. -/
theorem newline_not_mem_start {reply : ControlReply} {line : Bytes} (h : line ∈ reply.start) :
    newline ∉ line :=
  ControlReply.newline_not_mem (List.mem_append_left _ h)

/-- Nor does its end line. -/
theorem newline_not_mem_endLine {reply : ControlReply} : newline ∉ reply.endLine :=
  ControlReply.newline_not_mem (List.mem_append_right _ (List.mem_singleton_self _))

/-- A reply that fits is consumed exactly. -/
theorem ReplyFits.consumesExactly {reply : ControlReply} (h : ReplyFits reply) :
    ConsumesExactly reply := by
  intro command rest written ended
  refine ⟨reply.start.length + 1, fun rounds hrounds => ?_⟩
  obtain ⟨spare, rfl⟩ := Nat.exists_eq_add_of_le hrounds
  obtain ⟨texts, htexts, hstart⟩ := run_readReply_start (spare + 1) []
    (reply.endLine ++ crlf ++ rest) (written ++ utf8Encode command ++ crlf) ended
    (fun line => newline_not_mem_start) h.start
  obtain ⟨result, hend, hstop⟩ := run_readReply_stops spare (texts.map trimEnd) rest
    (written ++ utf8Encode command ++ crlf) ended newline_not_mem_endLine
    (not_passes_endLine h.endLine)
  refine ⟨result, ?_, answers_of_stopsWith h.endLine htexts hstop⟩
  rw [run_command, ControlReply.wire_lines, List.append_assoc, Nat.add_assoc, Nat.add_comm 1,
    hstart]
  exact hend

/-- The loop waits on an open connection with nothing to read. -/
theorem run_readReply_waits {rounds : ℕ} {lines : List Text} {written : Bytes} :
    (readReply rounds lines).run ControlStream.answers ⟨[], false, written⟩ = none := by
  cases rounds <;> rfl

/-- A reply that is consumed exactly fits. -/
theorem ConsumesExactly.replyFits {reply : ControlReply} (h : ConsumesExactly reply) :
    ReplyFits reply := by
  -- a connection that has the reply and nothing more
  obtain ⟨n, hn⟩ := h [] [] [] false
  obtain ⟨result, hrun, hanswers⟩ := hn (reply.start.length + (n + 1)) (by omega)
  rw [run_command, ControlReply.wire_lines, List.append_assoc] at hrun
  by_cases hstart : ∀ line ∈ reply.start, Passes line
  · obtain ⟨texts, -, hread⟩ := run_readReply_start (n + 1) [] (reply.endLine ++ crlf ++ [])
      ([] ++ utf8Encode [] ++ crlf) false (fun line => newline_not_mem_start) hstart
    rw [hread] at hrun
    by_cases hend : Passes reply.endLine
    · obtain ⟨text, hdecode, hsuccess, hfailure⟩ := hend
      rw [run_readReply_passes newline_not_mem_endLine hdecode hsuccess hfailure,
        run_readReply_waits] at hrun
      cases hrun
    · obtain ⟨result', hread', hstop⟩ := run_readReply_stops n ([] ++ texts.map trimEnd) []
        ([] ++ utf8Encode [] ++ crlf) false newline_not_mem_endLine hend
      rw [hread'] at hrun
      obtain ⟨rfl, -⟩ := Prod.mk.inj (Option.some.inj hrun)
      exact ⟨hstart, endLineFits_of_answers hstop hanswers⟩
  · obtain ⟨result', later, hread⟩ := run_readReply_early (n + 1) [] (reply.endLine ++ crlf ++ [])
      ([] ++ utf8Encode [] ++ crlf) false (fun line => newline_not_mem_start)
      (by simpa using hstart)
    rw [hread] at hrun
    obtain ⟨-, hstream⟩ := Prod.mk.inj (Option.some.inj hrun)
    have hunread : later ++ (reply.endLine ++ crlf ++ []) = [] :=
      congrArg ControlStream.unread hstream
    simp [crlf] at hunread

/-! ## Command after command -/

/-- The results of commands on one connection, each given after the one before it. -/
def runCommands (rounds : ℕ) :
    List Text → ControlStream → Option (List (Except Fault (List Text)) × ControlStream)
  | [], stream => some ([], stream)
  | command :: commands, stream => do
      let (result, stream) ← (TorControl.command rounds command).run ControlStream.answers stream
      let (results, stream) ← runCommands rounds commands stream
      return (result :: results, stream)

/-- What is written for commands. -/
def commandBytes (commands : List Text) : Bytes :=
  commands.flatMap fun command => utf8Encode command ++ crlf

/-- Each of the commands reads its own reply. -/
def ReadsOwn (exchanges : List (Text × ControlReply)) : Prop :=
  ∀ (rest written : Bytes) (ended : Bool), ∃ n, ∀ rounds ≥ n, ∃ results,
    runCommands rounds (exchanges.map Prod.fst)
      ⟨(exchanges.flatMap fun exchange => wire exchange.2.lines) ++ rest, ended, written⟩ =
      some (results, ⟨rest, ended, written ++ commandBytes (exchanges.map Prod.fst)⟩) ∧
    List.Forall₂ (fun exchange => Answers exchange.2) exchanges results

/-- Where every reply fits, every command reads its own. -/
theorem commands_aligned {exchanges : List (Text × ControlReply)}
    (h : ∀ exchange ∈ exchanges, ReplyFits exchange.2) : ReadsOwn exchanges := by
  induction exchanges with
  | nil =>
      intro rest written ended
      refine ⟨0, fun rounds _ => ⟨[], ?_, .nil⟩⟩
      rw [List.map_nil, commandBytes, List.flatMap_nil, List.flatMap_nil, List.nil_append,
        List.append_nil, runCommands]
  | cons exchange exchanges ih =>
      intro rest written ended
      obtain ⟨n, hfirst⟩ := (h exchange (by simp)).consumesExactly exchange.1
        ((exchanges.flatMap fun exchange => wire exchange.2.lines) ++ rest) written ended
      obtain ⟨m, hlater⟩ := ih (fun exchange' h' => h exchange' (by simp [h'])) rest
        (written ++ utf8Encode exchange.1 ++ crlf) ended
      refine ⟨max n m, fun rounds hrounds => ?_⟩
      obtain ⟨result, hrun, hanswers⟩ := hfirst rounds ((le_max_left n m).trans hrounds)
      obtain ⟨results, hruns, hall⟩ := hlater rounds ((le_max_right n m).trans hrounds)
      refine ⟨result :: results, ?_, .cons hanswers hall⟩
      rw [List.map_cons, List.flatMap_cons, List.append_assoc, runCommands, hrun]
      simp only [Option.bind_eq_bind, Option.bind_some, hruns]
      simp [commandBytes, List.append_assoc]

/-- A command consumes exactly the replies that fit, and as long as they do, each command on a
connection reads its own. -/
theorem replies_consumed_iff (reply : ControlReply) (exchanges : List (Text × ControlReply)) :
    (ConsumesExactly reply ↔ ReplyFits reply) ∧
      ((∀ exchange ∈ exchanges, ReplyFits exchange.2) → ReadsOwn exchanges) :=
  ⟨⟨ConsumesExactly.replyFits, ReplyFits.consumesExactly⟩, commands_aligned⟩

/-- The progress of a Tor process on a line of its own, which begins with a number. -/
def bootstrapReply : ControlReply where
  items := [.data ⟨2, 5, 0⟩ ⟨utf8Encode "status/bootstrap-phase=".toList, by decide⟩
    [⟨⟨utf8Encode "5 NOTICE PROGRESS=5".toList, by decide⟩, by decide⟩]]
  code := ⟨2, 5, 0⟩
  text := ⟨utf8Encode "OK".toList, by decide⟩
  synchronous := .inl rfl

/-- The command that asks for the progress fails at that line, and the same command, asked again on
the connection, takes the rest of the reply for its own. -/
theorem bootstrapReply_misread : ¬ ConsumesExactly bootstrapReply ∧
    runCommands 3 ["GETINFO status/bootstrap-phase".toList, "GETINFO status/bootstrap-phase".toList]
      ⟨wire bootstrapReply.lines ++ wire bootstrapReply.lines, false, []⟩ =
      some ([.error (.error ("Tor control komutu basarisiz: 250+status/bootstrap-phase= | " ++
          "5 NOTICE PROGRESS=5").toList),
        .ok [".".toList, "250 OK".toList]],
        ⟨wire bootstrapReply.lines, false, commandBytes
          ["GETINFO status/bootstrap-phase".toList, "GETINFO status/bootstrap-phase".toList]⟩) := by
  constructor
  · intro h
    obtain ⟨text, hdecode, -, hfailure⟩ :=
      h.replyFits.start (utf8Encode "5 NOTICE PROGRESS=5".toList) (by decide)
    rw [utf8Decode_utf8Encode] at hdecode
    obtain rfl := Option.some.inj hdecode
    exact hfailure (.inr rfl)
  · rfl

end Fauna.Tor
