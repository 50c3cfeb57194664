import Fauna.Lib.Lines

/-!
# Replies of a control port

A synchronous reply of the control protocol, as bytes: mid lines and data blocks in any number, and
one end line. Each of these begins with a status code of three digits and a character that says
which of them it is. A data block goes on with lines of any kind; a line with a single dot ends it,
and no other line of it is that one. All lines end in CRLF.

* `takeLine_wire`: what a reader takes from the bytes of a reply is its lines.
* `ControlReply.utf8Decode_endLine`: the end line as a text.
-/

namespace Fauna.Lib

/-- What stands on one line. -/
abbrev LineText := { bytes : Bytes // newline ∉ bytes }

/-- A status code. -/
structure StatusCode where
  first : Fin 10
  second : Fin 10
  third : Fin 10
  deriving DecidableEq

/-- The byte of a decimal digit. -/
def digitByte (d : Fin 10) : UInt8 := .ofNat (48 + d)

/-- The three digits of a code. -/
def StatusCode.bytes (code : StatusCode) : Bytes :=
  [digitByte code.first, digitByte code.second, digitByte code.third]

/-- What comes before the end line of a reply. -/
inductive ReplyItem
  | mid (code : StatusCode) (text : LineText)
  | data (code : StatusCode) (text : LineText) (lines : List { line : LineText // line.1 ≠ [46] })

/-- A synchronous reply: its code says success, or an error that passes or stays. -/
structure ControlReply where
  items : List ReplyItem
  code : StatusCode
  text : LineText
  synchronous : code.first = 2 ∨ code.first = 4 ∨ code.first = 5

/-- The lines of an item, without their ends. -/
def ReplyItem.lines : ReplyItem → List Bytes
  | .mid code text => [code.bytes ++ 45 :: text.1]
  | .data code text lines =>
      (code.bytes ++ 43 :: text.1) :: (lines.map fun line => line.1.1) ++ [[46]]

namespace ControlReply

/-- The lines before the end line. -/
def start (reply : ControlReply) : List Bytes := reply.items.flatMap ReplyItem.lines

/-- The end line. -/
def endLine (reply : ControlReply) : Bytes := reply.code.bytes ++ 32 :: reply.text.1

/-- All lines. -/
def lines (reply : ControlReply) : List Bytes := reply.start ++ [reply.endLine]

end ControlReply

/-- The end of a line. -/
def crlf : Bytes := [13, 10]

/-- Lines as they are sent. -/
def wire (lines : List Bytes) : Bytes := lines.flatMap (· ++ crlf)

@[simp] theorem wire_nil : wire [] = [] := rfl

@[simp] theorem wire_cons (line : Bytes) (lines : List Bytes) :
    wire (line :: lines) = line ++ crlf ++ wire lines := rfl

@[simp] theorem wire_append (lines lines' : List Bytes) :
    wire (lines ++ lines') = wire lines ++ wire lines' := List.flatMap_append

/-- A reader takes the first line that was sent, with its end. -/
theorem takeLine_wire {line : Bytes} (h : newline ∉ line) (rest : Bytes) :
    takeLine (line ++ crlf ++ rest) = some (line ++ crlf, rest) := by
  have hline : newline ∉ line ++ [13] := by
    rw [List.mem_append, not_or]
    exact ⟨h, by decide⟩
  have htake := takeLine_append_newline hline rest
  rw [List.append_assoc, List.append_assoc] at htake
  rw [List.append_assoc]
  exact htake

/-- What is sent of a reply ends with its end line. -/
theorem ControlReply.wire_lines (reply : ControlReply) :
    wire reply.lines = wire reply.start ++ (reply.endLine ++ crlf) := by
  rw [lines, wire_append, wire_cons, wire_nil, List.append_nil]

/-! ## Line feeds -/

/-- A digit is no line feed. -/
theorem newline_not_mem_digitByte (d : Fin 10) : newline ≠ digitByte d := by
  revert d
  decide

/-- There is no line feed in a code, a mark and a text. -/
theorem StatusCode.newline_not_mem (code : StatusCode) {mark : UInt8} (hmark : newline ≠ mark)
    (text : LineText) : newline ∉ code.bytes ++ mark :: text.1 := by
  simp [StatusCode.bytes, newline_not_mem_digitByte, hmark, text.2]

/-- No line of a reply has a line feed in it. -/
theorem ControlReply.newline_not_mem {reply : ControlReply} {line : Bytes}
    (h : line ∈ reply.lines) : newline ∉ line := by
  rcases List.mem_append.1 h with h | h
  · obtain ⟨item, -, h⟩ := List.mem_flatMap.1 h
    cases item with
    | mid code text =>
        rw [List.mem_singleton.1 h]
        exact code.newline_not_mem (by decide) text
    | data code text lines =>
        rw [ReplyItem.lines, List.mem_append, List.mem_cons, List.mem_map, List.mem_singleton] at h
        rcases h with (rfl | ⟨line', -, rfl⟩) | rfl
        · exact code.newline_not_mem (by decide) text
        · exact line'.1.2
        · decide
  · rw [List.mem_singleton.1 h]
    exact reply.code.newline_not_mem (by decide) reply.text

/-! ## The end line as a text -/

/-- A decimal digit. -/
def digitChar (d : Fin 10) : Char := .ofNat (48 + d)

/-- A status code as it is read. -/
def StatusCode.chars (code : StatusCode) : Text :=
  [digitChar code.first, digitChar code.second, digitChar code.third]

/-- Digits are told apart by their characters. -/
theorem digitChar_inj {d d' : Fin 10} : digitChar d = digitChar d' ↔ d = d' := by
  revert d d'
  decide

/-- So are codes. -/
theorem StatusCode.chars_inj {code code' : StatusCode} :
    code.chars = code'.chars ↔ code = code' := by
  obtain ⟨first, second, third⟩ := code
  obtain ⟨first', second', third'⟩ := code'
  simp [chars, digitChar_inj]

/-- A digit is encoded as its byte. -/
theorem utf8EncodeChar_digitChar (d : Fin 10) :
    String.utf8EncodeChar (digitChar d) = [digitByte d] := by
  revert d
  decide

/-- And a code as its bytes. -/
theorem StatusCode.utf8Encode_chars (code : StatusCode) : utf8Encode code.chars = code.bytes := by
  simp [chars, bytes, utf8EncodeChar_digitChar]

/-- The end line is a text where what follows the code is one. -/
theorem ControlReply.utf8Decode_endLine (reply : ControlReply) :
    utf8Decode reply.endLine =
      (utf8Decode reply.text.1).map (reply.code.chars ++ ' ' :: ·) := by
  have hstart : reply.endLine = utf8Encode (reply.code.chars ++ [' ']) ++ reply.text.1 := by
    rw [endLine, utf8Encode_append, StatusCode.utf8Encode_chars, List.append_assoc]
    rfl
  rw [hstart, utf8Decode_utf8Encode_append]
  simp only [List.append_assoc, List.singleton_append]

end Fauna.Lib
