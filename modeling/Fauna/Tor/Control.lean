import Fauna.Dial.Calls
import Fauna.Lib.Cut
import Fauna.Lib.Hex

/-!
# The control port of Tor

`TorControl` of `tor.rs`: a command and its reply, the login, and the onion service that is
published over it. `hmac` is HMAC-SHA256 of a key and a message.

* `hexDecode_encode`: what `hex_decode` makes of hexadecimal text in either case.
-/

namespace Fauna.Tor

open Fauna.Lib Fauna.Core Fauna.Wire Fauna.Dial Fauna.Dial.Action

/-! ## Texts -/

/-- `hex_encode`. -/
def hexEncode (bytes : Bytes) : Text := Hex.encode true bytes

/-- `u8::from_str_radix(text, 16)`. -/
def parseHexU8 (text : Text) : Option UInt8 :=
  let digits := match text with
    | '+' :: rest => rest
    | _ => text
  match digits.mapM hexValue with
  | some (d :: ds) =>
      let n := ds.foldl (fun n d => 16 * n + d) d
      if n < 256 then some (.ofNat n) else none
  | _ => none

/-- The loop of `hex_decode` over its pairs; a pair that ends inside a character cannot be cut. -/
def hexPairs : ℕ → Text → Except Fault Bytes
  | 0, _ => .ok []
  | pairs + 1, input =>
      match sliceTo input 2 with
      | none => .error .panic
      | some pair =>
          match parseHexU8 pair with
          | none => .error (.error "hex okunamadi".toList)
          | some byte => do
              let bytes ← hexPairs pairs (input.drop pair.length)
              return byte :: bytes

/-- `hex_decode`. -/
def hexDecode (input : Text) : Except Fault Bytes :=
  if utf8Length input % 2 ≠ 0 then .error (.error "hex veri tek uzunlukta".toList)
  else hexPairs (utf8Length input / 2) input

/-- `str::split_whitespace`. -/
def splitWhitespace (text : Text) : List Text := (text.splitOnP isWhitespace).filter (· ≠ [])

/-- `read_field`. -/
def readField (line name : Text) : Except Fault Text :=
  match (splitWhitespace line).findSome? name.isPrefixOf? with
  | some value => .ok value
  | none => .error (.error ("Tor yanitinda ".toList ++ name ++ " alani yok".toList))

/-- `str::eq_ignore_ascii_case`. -/
def eqIgnoreAsciiCase (a b : Text) : Bool := a.map Char.toLower == b.map Char.toLower

/-- `lines.join(" | ")`. -/
def joinLines (lines : List Text) : Text := " | ".toList.intercalate lines

/-- Trimming takes the last part, and goes on where nothing of it is left. -/
theorem trimEnd_append (s t : Text) :
    trimEnd (s ++ t) = if trimEnd t = [] then trimEnd s else s ++ trimEnd t := by
  unfold trimEnd List.rdropWhile
  rw [List.reverse_append, List.dropWhile_append]
  by_cases h : t.reverse.dropWhile isWhitespace = []
  · simp [h]
  · simp [h]

/-- A text without whitespace has none to trim. -/
theorem trimEnd_eq_self {t : Text} (h : t.any isWhitespace = false) : trimEnd t = t := by
  apply List.rdropWhile_eq_self_iff.2
  intro hne
  exact List.any_eq_false.1 h _ (List.getLast_mem hne)

/-- The end of a line is trimmed away. -/
theorem trimEnd_append_newline (s : Text) : trimEnd (s ++ "\r\n".toList) = trimEnd s := by
  rw [trimEnd_append, if_pos (by decide)]

/-- A start that ends in no whitespace stays. -/
theorem isPrefixOf_trimEnd {s : Text} (hs : trimEnd s = s) (t : Text) :
    s.isPrefixOf (trimEnd (s ++ t)) := by
  rw [List.isPrefixOf_iff_prefix, trimEnd_append]
  split
  · rw [hs]
  · exact List.prefix_append _ _

/-- The first word of a text. -/
theorem splitWhitespace_append {word : Text} (hne : word ≠ [])
    (hword : word.any isWhitespace = false) (rest : Text) :
    splitWhitespace (word ++ ' ' :: rest) = word :: splitWhitespace rest := by
  have hnone : ∀ c ∈ word, isWhitespace c = false := fun c hc => by
    simpa using List.any_eq_false.1 hword c hc
  rw [splitWhitespace, List.splitOnP_append_cons_of_forall_mem hnone ' ' rfl,
    List.filter_cons_of_pos (by simpa using hne), splitWhitespace]

/-- The only word of a text. -/
theorem splitWhitespace_word {word : Text} (hne : word ≠ [])
    (hword : word.any isWhitespace = false) : splitWhitespace word = [word] := by
  have hnone : ∀ c ∈ word, isWhitespace c = false := fun c hc => by
    simpa using List.any_eq_false.1 hword c hc
  rw [splitWhitespace, List.splitOnP_eq_singleton hnone,
    List.filter_cons_of_pos (by simpa using hne), List.filter_nil]

/-! ## Hexadecimal text -/

section Hex

variable {upper : Bool}

/-- The two digits of a byte are read as the byte. -/
theorem parseHexU8_digits (b : UInt8) :
    parseHexU8 [Hex.digit upper (b.toNat / 16), Hex.digit upper (b.toNat % 16)] = some b := by
  have hsign : Hex.digit upper (b.toNat / 16) ≠ '+' := by
    intro h
    have hvalue : hexValue (Hex.digit upper (b.toNat / 16)) = some (b.toNat / 16) :=
      Hex.hexValue_digit (Hex.high_lt b)
    rw [h] at hvalue
    cases hvalue
  have hlt := b.toNat_lt
  have hdigits : [Hex.digit upper (b.toNat / 16), Hex.digit upper (b.toNat % 16)].mapM hexValue =
      some [b.toNat / 16, b.toNat % 16] := by
    simp [Hex.hexValue_digit (Hex.high_lt b), Hex.hexValue_digit (Hex.low_lt b)]
  unfold parseHexU8
  split
  next h => exact absurd (List.cons.inj h).1 hsign
  show (match List.mapM hexValue _ with
    | some (d :: ds) => _
    | _ => none) = _
  rw [hdigits]
  show (if 16 * (b.toNat / 16) + b.toNat % 16 < 256 then _ else _) = _
  rw [if_pos (by omega)]
  exact congrArg some (Hex.ofNat_digits b)

/-- Encoded bytes are read back in pairs. -/
theorem hexPairs_encode (bytes : Bytes) :
    hexPairs bytes.length (Hex.encode upper bytes) = .ok bytes := by
  induction bytes with
  | nil => rfl
  | cons b bytes ih =>
      have hslice : sliceTo (Hex.encode upper (b :: bytes)) 2 =
          some [Hex.digit upper (b.toNat / 16), Hex.digit upper (b.toNat % 16)] := by
        rw [Hex.encode_cons, sliceTo, Hex.utf8Size_digit (Hex.high_lt b), if_pos (by decide),
          sliceTo, Hex.utf8Size_digit (Hex.low_lt b), if_pos (by decide), sliceTo]
        rfl
      rw [List.length_cons, hexPairs, hslice]
      show (match parseHexU8 _ with
        | none => _
        | some byte => hexPairs bytes.length (Hex.encode upper bytes) >>= _) = _
      rw [parseHexU8_digits, ih]
      rfl

/-- There is no whitespace in hexadecimal text. -/
theorem any_isWhitespace_encode {bytes : Bytes} :
    (Hex.encode upper bytes).any isWhitespace = false := by
  apply List.any_eq_false.2
  intro c hc
  simpa using Hex.forall_mem_encode (p := fun c => !isWhitespace c) (by decide) c hc

/-- `hex_decode` reads back both texts of some bytes. -/
theorem hexDecode_encode (bytes : Bytes) : hexDecode (Hex.encode upper bytes) = .ok bytes := by
  rw [hexDecode, Hex.utf8Length_encode, if_neg (by omega), Nat.mul_div_cancel_left _ (by decide),
    hexPairs_encode]

/-- A text with its hash in either letter case is equal to `hex_encode`, but for the case. -/
theorem eqIgnoreAsciiCase_encode (bytes : Bytes) :
    eqIgnoreAsciiCase (Hex.encode upper bytes) (hexEncode bytes) = true := by
  rw [eqIgnoreAsciiCase, hexEncode, Hex.map_toLower_encode, Hex.map_toLower_encode,
    beq_self_eq_true]

end Hex

/-! ## Commands -/

/-- The loop of `TorControl::command`, for a reply of at most `rounds` more lines. -/
def readReply : ℕ → List Text → Action (List Text)
  | 0, _ => do nomatch (← ask .block)
  | rounds + 1, lines => do
      let line ← orFail (← ask .readLine)
      if line = [] then bail "Tor control port kapandi".toList
      else
        let line := trimEnd line
        let lines := lines ++ [line]
        if "250 ".toList.isPrefixOf line then return lines
        else if "5".toList.isPrefixOf line || "4".toList.isPrefixOf line then
          bail ("Tor control komutu basarisiz: ".toList ++ joinLines lines)
        else readReply rounds lines

namespace TorControl

/-- `TorControl::connect`. -/
def connect (controlAddr : Text) : Action Unit :=
  Action.connect .control controlAddr
    ("Tor control port baglantisi kurulamadi: ".toList ++ controlAddr)

/-- `TorControl::command`. -/
def command (rounds : ℕ) (command : Text) : Action (List Text) := do
  writeAll (utf8Encode command)
  writeAll (utf8Encode "\r\n".toList)
  readReply rounds []

/-- The line that answers a challenge. -/
def challengeLine (lines : List Text) : Option Text :=
  (lines.find? fun line => "250 AUTHCHALLENGE".toList.isPrefixOf line).or
    (lines.find? fun line => "250-AUTHCHALLENGE".toList.isPrefixOf line)

/-- The label of the server's hash. -/
def serverLabel : Bytes :=
  utf8Encode "Tor safe cookie authentication server-to-controller hash".toList

/-- The label of the client's hash. -/
def clientLabel : Bytes :=
  utf8Encode "Tor safe cookie authentication controller-to-server hash".toList

/-- `safe_cookie_hmac`. -/
def safeCookieHmac (hmac : Bytes → Bytes → Bytes) (label cookie clientNonce serverNonce : Bytes) :
    Bytes := hmac label (cookie ++ clientNonce ++ serverNonce)

/-- `authenticate_safe_cookie`. -/
def authenticateSafeCookie (hmac : Bytes → Bytes → Bytes) (rounds : ℕ) (cookie : Bytes) :
    Action Unit := do
  let clientNonce ← ask (.fillBytes 32)
  let lines ← command rounds ("AUTHCHALLENGE SAFECOOKIE ".toList ++ hexEncode clientNonce.1)
  match challengeLine lines with
  | none => bail "Tor SAFECOOKIE challenge donmedi".toList
  | some challenge => do
      let serverHash ← Routine.ofExcept (readField challenge "SERVERHASH=".toList)
      let serverNonce ← Routine.ofExcept
        (readField challenge "SERVERNONCE=".toList >>= hexDecode)
      let expected := safeCookieHmac hmac serverLabel cookie clientNonce.1 serverNonce
      if !eqIgnoreAsciiCase serverHash (hexEncode expected) then
        bail "Tor SAFECOOKIE server hash dogrulanamadi".toList
      else
        let clientHash := safeCookieHmac hmac clientLabel cookie clientNonce.1 serverNonce
        let _ ← command rounds ("AUTHENTICATE ".toList ++ hexEncode clientHash)
        return ()

/-- `TorControl::authenticate`. -/
def authenticate (hmac : Bytes → Bytes → Bytes) (rounds : ℕ) : Action Unit := do
  match ← (command rounds "AUTHENTICATE".toList).attempt caught with
  | .ok _ => return ()
  | .error _ => do
      let cookie ← orFail (← ask .readControlCookie)
      authenticateSafeCookie hmac rounds cookie

end TorControl

/-- `publish_onion_service`, with the `service_id` of the `OnionService` it returns. -/
def publishOnionService (hmac : Bytes → Bytes → Bytes) (rounds : ℕ) (controlAddr : Text)
    (virtualPort : ℕ) (localAddr : Text) : Action Text := do
  TorControl.connect controlAddr
  TorControl.authenticate hmac rounds
  let lines ← TorControl.command rounds ("ADD_ONION NEW:ED25519-V3 Flags=Detach Port=".toList ++
    decimal virtualPort ++ ',' :: localAddr)
  match lines.findSome? "250-ServiceID=".toList.isPrefixOf? with
  | none => bail "Tor onion service id donmedi".toList
  | some serviceId => return trim serviceId ++ ".onion".toList

/-! ## What is called -/

/-- A call on the connection to a control port, or one that a login needs. -/
def ThroughControl : Call → Prop
  | .connect .control _ | .writeAll _ | .readLine | .readControlCookie | .fillBytes _ | .block => True
  | _ => False

/-- Reading a reply calls the control port only. -/
theorem all_readReply (rounds : ℕ) (lines : List Text) :
    (readReply rounds lines).All ThroughControl := by
  induction rounds generalizing lines with
  | zero => exact ⟨trivial, fun answer => answer.elim⟩
  | succ rounds ih =>
      refine ⟨trivial, fun answer => ?_⟩
      apply (all_orFail answer).bind
      intro line
      split
      · trivial
      dsimp only
      split
      · trivial
      split
      · trivial
      · exact ih _

/-- So does writing to it. -/
theorem all_writeAll (bytes : Bytes) : (writeAll bytes).All ThroughControl :=
  ⟨trivial, fun answer => all_orFail answer⟩

namespace TorControl

/-- So does connecting to it. -/
theorem all_connect (controlAddr : Text) : (connect controlAddr).All ThroughControl :=
  ⟨trivial, fun answer => all_orContext _ answer⟩

/-- So does a command. -/
theorem all_command (rounds : ℕ) (command : Text) :
    (TorControl.command rounds command).All ThroughControl :=
  (all_writeAll _).bind fun _ => (all_writeAll _).bind fun _ => all_readReply rounds []

/-- So does the login by cookie. -/
theorem all_authenticateSafeCookie (hmac : Bytes → Bytes → Bytes) (rounds : ℕ) (cookie : Bytes) :
    (authenticateSafeCookie hmac rounds cookie).All ThroughControl := by
  refine ⟨trivial, fun clientNonce => ?_⟩
  apply (all_command rounds _).bind
  intro lines
  split
  · trivial
  apply (Routine.All.ofExcept _).bind
  intro serverHash
  apply (Routine.All.ofExcept _).bind
  intro serverNonce
  dsimp only
  split
  · trivial
  · exact (all_command rounds _).bind fun _ => trivial

/-- So does the login. -/
theorem all_authenticate (hmac : Bytes → Bytes → Bytes) (rounds : ℕ) :
    (authenticate hmac rounds).All ThroughControl := by
  apply (all_command rounds _).attempt.bind
  intro result
  split
  · trivial
  refine ⟨trivial, fun answer => ?_⟩
  exact (all_orFail answer).bind fun cookie => all_authenticateSafeCookie hmac rounds cookie

end TorControl

end Fauna.Tor
