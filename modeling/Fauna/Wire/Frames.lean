import Fauna.Lib.JsonText
import Fauna.Lib.Lines
import Fauna.Wire.Messages
import Mathlib.Data.List.DropRight

/-!
# Frames as JSON documents

`serde_json` is a parameter (`SerdeJson`) with the behaviour a flat structure relies on. What the
`Serialize` and `Deserialize` derives make of `HelloFrame`, `ChatFrame` and `Invite` is modelled:
the members and their order, the aliases of the desktop, unknown members ignored, repeated ones
refused, and the array form. The two programs read a hello in two ways, the CLI straight from the
text and the desktop through a `Value` with checks of its own.

* `readHello_jsonLine`, `readChat_jsonLine`: either program reads back what either wrote;
  `readHello_cut`, `readChat_cut`: a cut of it yields the same or nothing.
* `inviteDecode_encode`: a joiner decodes the invite that was encoded.
* `refuse_eq_panic_iff`: exactly when the text of a refused line cannot be cut for the error.
-/

namespace Fauna.Wire

open Fauna.Lib Fauna.Core

/-- `serde_json`. -/
structure SerdeJson where
  /-- `to_writer` and `to_vec` of a flat structure: compact. -/
  print : Record → Text
  /-- `from_str::<Value>`: of members with one key the last counts, and the order is the map's. -/
  value : Text → Option Json
  /-- The document `from_str` of a derived type walks: the members as the text has them. -/
  document : Text → Option Json
  /-- The document `from_slice` of a derived type walks. -/
  slice : Bytes → Option Json
  /-- What the error of a failed `from_str` says. -/
  errorText : Text → Text
  slice_utf8Encode : ∀ t, slice (utf8Encode t) = document t
  document_print : ∀ r : Record, (r.map Prod.fst).Nodup → document (print r) = some r.toJson
  value_print : ∀ r : Record, (r.map Prod.fst).Nodup → ∃ members,
    value (print r) = some (.object members) ∧ members.Perm (r.map fun m => (m.1, m.2.toJson))
  value_nodup : ∀ t members, value t = some (.object members) → (members.map Prod.fst).Nodup
  document_cut : ∀ (r : Record) p, p <+: print r → p ≠ print r → document p = none
  value_cut : ∀ (r : Record) p, p <+: print r → p ≠ print r → value p = none
  newline_not_mem_print : ∀ r : Record, '\n' ∉ print r
  print_getLast? : ∀ r : Record, (print r).getLast? = some '}'

/-- The compact printer and reader of records, as a `serde_json` that knows no other documents
than records without repeated keys. -/
def SerdeJson.records : SerdeJson where
  print := Record.print
  value t := ((Record.read t).filter fun r => (r.map Prod.fst).Nodup).map Record.toJson
  document t := ((Record.read t).filter fun r => (r.map Prod.fst).Nodup).map Record.toJson
  slice bs := (utf8Decode bs).bind fun t =>
    ((Record.read t).filter fun r => (r.map Prod.fst).Nodup).map Record.toJson
  errorText _ := "expected value".toList
  slice_utf8Encode t := by rw [utf8Decode_utf8Encode, Option.bind_some]
  document_print r hr := by simp [Record.read_print, hr]
  value_print r hr := ⟨_, by simp [Record.read_print, hr, Record.toJson], List.Perm.refl _⟩
  value_nodup t members h := by
    obtain ⟨r, hr, hmembers⟩ := Option.map_eq_some_iff.1 h
    obtain rfl := Json.object.inj hmembers
    simpa [List.map_map, Function.comp_def] using (Option.filter_eq_some_iff.1 hr).2
  document_cut r p hp hne := by simp [Record.read_cut hp hne]
  value_cut r p hp hne := by simp [Record.read_cut hp hne]
  newline_not_mem_print := Record.newline_not_mem_print
  print_getLast? := Record.print_getLast?

/-! ## Derived types -/

/-- The one element of a list. -/
def only {α : Type} : List α → Option α
  | [a] => some a
  | _ => none

/-- The value of the one member under one of these names; none when there is no such member, or
more than one. -/
def member (names : List Text) (members : List (Text × Json)) : Option Json :=
  (only (members.filter fun m => m.1 ∈ names)).map Prod.snd

/-- `value.get(key)` on an object. -/
def get? (key : Text) (members : List (Text × Json)) : Option Json :=
  (members.find? fun m => m.1 = key).map Prod.snd

/-- A JSON string. -/
def asString : Json → Option Text
  | .string s => some s
  | _ => none

/-- A JSON array of strings. -/
def asStrings : Json → Option (List Text)
  | .array items => items.mapM asString
  | _ => none

/-- A JSON number that fits a byte. -/
def asByte : Json → Option UInt8
  | .number lexeme =>
      let n := Nat.ofDigitChars 10 lexeme 0
      if decimal n = lexeme ∧ n < 256 then some (.ofNat n) else none
  | _ => none

/-- The names of a member: its field's, and the alias. -/
def names (field : String) (aliases : List String) : List Text :=
  (field :: aliases).map String.toList

/-- The `Serialize` of `HelloFrame`. -/
def helloRecord (hello : HelloFrame Text) : Record :=
  [("peer_id".toList, .string hello.peerId.asStr), ("display_name".toList, .string hello.displayName),
    ("identity_public_key".toList, .string hello.identityPublicKey),
    ("exchange_public_key".toList, .string hello.exchangePublicKey),
    ("signature".toList, .string hello.signature)]

/-- The `Deserialize` of `HelloFrame`, over the aliases of its first four fields. -/
def helloFrom (peerId displayName identityPublicKey exchangePublicKey : List String) :
    Json → Option (HelloFrame Text)
  | .object members => do
      let peerId ← member (names "peer_id" peerId) members >>= asString
      let displayName ← member (names "display_name" displayName) members >>= asString
      let identityPublicKey ←
        member (names "identity_public_key" identityPublicKey) members >>= asString
      let exchangePublicKey ←
        member (names "exchange_public_key" exchangePublicKey) members >>= asString
      let signature ← member (names "signature" []) members >>= asString
      return ⟨⟨peerId⟩, displayName, identityPublicKey, exchangePublicKey, signature⟩
  | .array [peerId, displayName, identityPublicKey, exchangePublicKey, signature] => do
      return ⟨⟨← asString peerId⟩, ← asString displayName, ← asString identityPublicKey,
        ← asString exchangePublicKey, ← asString signature⟩
  | _ => none

/-- The `Deserialize` of the CLI's `HelloFrame`. -/
def Cli.helloFromJson : Json → Option (HelloFrame Text) := helloFrom [] [] [] []

/-- The `Deserialize` of the desktop's `HelloFrame`. -/
def Desktop.helloFromJson : Json → Option (HelloFrame Text) :=
  helloFrom ["peerId"] ["displayName"] ["identityPublicKey"] ["exchangePublicKey"]

/-- The `Serialize` of `ChatFrame`, the same in both programs. -/
def chatRecord (frame : ChatFrame Text) : Record :=
  [("nonce".toList, .string frame.nonce), ("ciphertext".toList, .string frame.ciphertext)]

/-- The `Deserialize` of `ChatFrame`, the same in both programs. -/
def chatFromJson : Json → Option (ChatFrame Text)
  | .object members => do
      let nonce ← member (names "nonce" []) members >>= asString
      let ciphertext ← member (names "ciphertext" []) members >>= asString
      return ⟨nonce, ciphertext⟩
  | .array [nonce, ciphertext] => do return ⟨← asString nonce, ← asString ciphertext⟩
  | _ => none

/-- The `Serialize` of `Invite`. -/
def inviteRecord (invite : Invite Text) : Record :=
  [("version".toList, .byte invite.version), ("peer_id".toList, .string invite.peerId.asStr),
    ("display_name".toList, .string invite.displayName),
    ("public_key".toList, .string invite.publicKey),
    ("addresses".toList, .strings invite.addresses)]

/-- The `Deserialize` of `Invite`. -/
def inviteFromJson : Json → Option (Invite Text)
  | .object members => do
      let version ← member (names "version" []) members >>= asByte
      let peerId ← member (names "peer_id" []) members >>= asString
      let displayName ← member (names "display_name" []) members >>= asString
      let publicKey ← member (names "public_key" []) members >>= asString
      let addresses ← member (names "addresses" []) members >>= asStrings
      return ⟨version, ⟨peerId⟩, displayName, publicKey, addresses⟩
  | .array [version, peerId, displayName, publicKey, addresses] => do
      return ⟨← asByte version, ⟨← asString peerId⟩, ← asString displayName,
        ← asString publicKey, ← asStrings addresses⟩
  | _ => none

/-! ## Reading a line -/

/-- `char::is_whitespace`. -/
def isWhitespace (c : Char) : Bool :=
  (9 ≤ c.toNat ∧ c.toNat ≤ 13) ∨ (0x2000 ≤ c.toNat ∧ c.toNat ≤ 0x200a) ∨
    c.toNat ∈ [0x20, 0x85, 0xa0, 0x1680, 0x2028, 0x2029, 0x202f, 0x205f, 0x3000]

/-- `str::trim_end`. -/
def trimEnd (t : Text) : Text := t.rdropWhile isWhitespace

/-- `str::trim`. -/
def trim (t : Text) : Text := trimEnd (t.dropWhile isWhitespace)

/-- `preview`: the first 180 bytes of a text. The slice panics inside a character. -/
def preview (input : Text) : Except Fault Text :=
  if utf8Length input ≤ 180 then .ok input
  else
    match sliceTo input 180 with
    | some start => .ok (start ++ "...".toList)
    | none => .error .panic

/-- Refuses a line, with a message that ends in a preview of it. -/
def refuse {α : Type} (message : String) (line : Text) : Except Fault α := do
  let start ← preview line
  .error (.error (message.toList ++ start))

/-- `read_line` on a stream that has ended or has a line: no bytes are the end of the stream. -/
def readLine (closed : String) (bytes : Bytes) : Except Fault Text :=
  match bytes, utf8Decode bytes with
  | [], _ => .error (.error closed.toList)
  | _, some line => .ok line
  | _, none => .error (.error "stream did not contain valid UTF-8".toList)

/-- `from_str` of a derived type. -/
def fromText {α : Type} (J : SerdeJson) (fromJson : Json → Option α) (line : Text) : Option α :=
  J.document line >>= fromJson

/-- `read_json_line` of `fauna-cli`, once `read_line` has the bytes. -/
def Cli.readJsonLine {α : Type} (J : SerdeJson) (fromJson : Json → Option α) (bytes : Bytes) :
    Except Fault α := do
  let line ← readLine "peer disconnected" bytes
  match fromText J fromJson (trimEnd line) with
  | some value => .ok value
  | none => .error (.error (J.errorText (trimEnd line)))

/-- `read_json_line` of `fauna-desktop`, once `read_line` has the bytes. -/
def Desktop.readJsonLine {α : Type} (J : SerdeJson) (fromJson : Json → Option α) (bytes : Bytes) :
    Except Fault α := do
  let line ← readLine "karsi taraf baglantiyi kapatti" bytes
  match fromText J fromJson (trimEnd line) with
  | some value => .ok value
  | none => refuse "gelen paket okunamadi: " (trimEnd line)

/-- The members `value.get` looks through; it finds nothing in a value that is no object. -/
def members : Json → List (Text × Json)
  | .object members => members
  | _ => []

/-- A chat frame where the hello should be. -/
def isChatFrame (value : Json) : Bool :=
  (get? "nonce".toList (members value)).isSome && (get? "ciphertext".toList (members value)).isSome

/-- A value with no peer id under either spelling. -/
def lacksPeerId (value : Json) : Bool :=
  (get? "peer_id".toList (members value)).isNone && (get? "peerId".toList (members value)).isNone

/-- `read_hello_frame` of `fauna-desktop` from the parsed `Value` on. -/
def Desktop.helloFromValue (line : Text) (value : Json) : Except Fault (HelloFrame Text) :=
  if isChatFrame value then
    .error (.error ("handshake yerine sifreli mesaj paketi geldi. Iki tarafta da en guncel " ++
      "Fauna surumunu acip yeni davet olustur.").toList)
  else if lacksPeerId value then
    refuse ("handshake paketinde peer_id yok. Eski davet veya eski Fauna surumu " ++
      "kullaniliyor olabilir: ") line
  else
    match Desktop.helloFromJson value with
    | some hello => .ok hello
    | none => .error (.error "handshake paketi okunamadi".toList)

/-- `read_hello_frame` of `fauna-desktop`, once `read_line` has the bytes. -/
def Desktop.readHelloFrame (J : SerdeJson) (bytes : Bytes) : Except Fault (HelloFrame Text) := do
  let line ← readLine "karsi taraf baglantiyi kapatti" bytes
  match J.value (trimEnd line) with
  | some value => Desktop.helloFromValue (trimEnd line) value
  | none => refuse "handshake JSON degil: " (trimEnd line)

/-- How a program reads the remote hello. -/
def Program.readHello (J : SerdeJson) : Program → Bytes → Except Fault (HelloFrame Text)
  | .cli => Cli.readJsonLine J Cli.helloFromJson
  | .desktop => Desktop.readHelloFrame J

/-- How a program reads a chat frame. -/
def Program.readChat (J : SerdeJson) : Program → Bytes → Except Fault (ChatFrame Text)
  | .cli => Cli.readJsonLine J chatFromJson
  | .desktop => Desktop.readJsonLine J chatFromJson

/-- What `write_json_line` writes. -/
def jsonLine (J : SerdeJson) (r : Record) : Bytes := utf8Encode (J.print r) ++ [newline]

/-- `Invite::encode`. Serializing an invite into memory never fails. -/
def inviteEncode (C : Crates) (J : SerdeJson) (invite : Invite Text) : Except FaunaError Text :=
  .ok ("fauna://join/".toList ++ C.encode (utf8Encode (J.print (inviteRecord invite))))

/-- `Invite::decode`. -/
def inviteDecode (C : Crates) (J : SerdeJson) (input : Text) : Except FaunaError (Invite Text) := do
  let scheme := "fauna://join/".toList
  let payload := if scheme.isPrefixOf input then input.drop scheme.length else input
  let json ← DeviceIdentity.decodeBase64 C.primitives payload
  match J.slice json >>= inviteFromJson with
  | some invite => .ok invite
  | none => .error .json

/-! ## What is written is read back -/

variable {J : SerdeJson} {program : Program}

/-- No member name of a hello occurs twice. -/
theorem helloRecord_nodup (hello : HelloFrame Text) : ((helloRecord hello).map Prod.fst).Nodup :=
  (by decide : (["peer_id", "display_name", "identity_public_key", "exchange_public_key",
    "signature"].map String.toList).Nodup)

/-- No member name of a chat frame occurs twice. -/
theorem chatRecord_nodup (frame : ChatFrame Text) : ((chatRecord frame).map Prod.fst).Nodup :=
  (by decide : (["nonce", "ciphertext"].map String.toList).Nodup)

/-- No member name of an invite occurs twice. -/
theorem inviteRecord_nodup (invite : Invite Text) : ((inviteRecord invite).map Prod.fst).Nodup :=
  (by decide : (["version", "peer_id", "display_name", "public_key",
    "addresses"].map String.toList).Nodup)

/-- A version number that was written reads back as itself. -/
theorem asByte_toJson (n : UInt8) : asByte (Field.byte n).toJson = some n := by
  have hn : Nat.ofDigitChars 10 (decimal n.toNat) 0 = n.toNat := Nat.ofDigitChars_ten_toDigits
  simp only [Field.toJson, asByte, hn]
  rw [if_pos ⟨trivial, n.toNat_lt⟩, UInt8.ofNat_toNat]

/-- A list of addresses that was written reads back as itself. -/
theorem asStrings_toJson (ss : List Text) : asStrings (Field.strings ss).toJson = some ss := by
  simp only [Field.toJson, asStrings]
  induction ss with
  | nil => rfl
  | cons s ss ih => simp [asString, ih]

/-- A derived `Deserialize` reads back what the derived `Serialize` wrote. -/
theorem inviteFromJson_toJson (invite : Invite Text) :
    inviteFromJson (inviteRecord invite).toJson = some invite := by
  show (asByte (Field.byte invite.version).toJson).bind _ = _
  rw [asByte_toJson]
  show (asStrings (Field.strings invite.addresses).toJson).bind _ = _
  rw [asStrings_toJson]
  rfl

/-- The only element of a list does not depend on the order. -/
theorem only_perm {α : Type} {l l' : List α} (h : l.Perm l') : only l = only l' := by
  match l', h with
  | [], h => rw [h.eq_nil]
  | [a], h => rw [List.perm_singleton.1 h]
  | a :: b :: rest, h =>
      match l, h with
      | [], h | [_], h => simpa using h.length_eq
      | _ :: _ :: _, _ => rfl

/-- The order of the members of an object does not matter to what is read from it. -/
theorem member_perm (names : List Text) {members members' : List (Text × Json)}
    (h : members.Perm members') : member names members = member names members' := by
  rw [member, member, only_perm (h.filter _)]

/-- A member is found exactly when its name is among the keys. -/
theorem isSome_get?_iff {key : Text} {members : List (Text × Json)} :
    (get? key members).isSome = true ↔ key ∈ members.map Prod.fst := by
  simp [get?, List.find?_isSome]

/-- Printed JSON ends in no whitespace, so trimming leaves it alone. -/
theorem trimEnd_print (r : Record) : trimEnd (J.print r) = J.print r := by
  obtain ⟨start, hstart⟩ := List.getLast?_eq_some_iff.1 (J.print_getLast? r)
  rw [hstart]
  exact List.rdropWhile_concat_neg _ _ _ (by decide)

/-- Trimming a written line removes its newline and nothing else. -/
theorem trimEnd_print_newline (r : Record) : trimEnd (J.print r ++ ['\n']) = J.print r := by
  rw [trimEnd, List.rdropWhile_concat_pos _ _ _ (by decide)]
  exact trimEnd_print r

/-- A line is read exactly when some bytes came and they are UTF-8. -/
theorem readLine_eq_ok {closed : String} {bytes : Bytes} {line : Text} :
    readLine closed bytes = .ok line ↔ bytes ≠ [] ∧ utf8Decode bytes = some line := by
  cases bytes with
  | nil => simp [readLine]
  | cons b bs => cases h : utf8Decode (b :: bs) <;> simp [readLine, h]

/-- A written line reads back as the printed record and its newline. -/
theorem readLine_jsonLine (closed : String) (r : Record) :
    readLine closed (jsonLine J r) = .ok (J.print r ++ ['\n']) := by
  refine readLine_eq_ok.2 ⟨by simp [jsonLine], ?_⟩
  have h : jsonLine J r = utf8Encode (J.print r ++ ['\n']) := by
    rw [utf8Encode_append]
    rfl
  rw [h, utf8Decode_utf8Encode]

/-- What a cut of a written line yields when the stream ends there: the whole text, the line feed
or not, or a text that is no document. -/
theorem readLine_cut {closed : String} {r : Record} {bytes : Bytes} {line : Text}
    (hcut : bytes <+: jsonLine J r) (h : readLine closed bytes = .ok line) :
    trimEnd line = J.print r ∨ trimEnd line <+: J.print r ∧ trimEnd line ≠ J.print r := by
  obtain ⟨-, hdecode⟩ := readLine_eq_ok.1 h
  have hbytes := utf8Encode_of_utf8Decode hdecode
  have hline : jsonLine J r = utf8Encode (J.print r ++ ['\n']) := by
    rw [utf8Encode_append]
    rfl
  rw [hline, ← hbytes, utf8Encode_isPrefix_iff, List.prefix_concat_iff] at hcut
  rcases hcut with rfl | hcut
  · exact Or.inl (trimEnd_print_newline r)
  · have htrim : trimEnd line <+: J.print r := (List.rdropWhile_prefix _ _).trans hcut
    by_cases heq : trimEnd line = J.print r
    · exact Or.inl heq
    · exact Or.inr ⟨htrim, heq⟩

/-! ### Hellos -/

/-- The order of a hello's members does not matter to its reader. -/
theorem helloFrom_perm (a b c d : List String) {members members' : List (Text × Json)}
    (h : members.Perm members') : helloFrom a b c d (.object members) =
      helloFrom a b c d (.object members') := by
  simp only [helloFrom, member_perm _ h]

/-- The desktop reads the hello out of the value it printed. -/
theorem Desktop.helloFromValue_print (line : Text) (hello : HelloFrame Text) {value : Json}
    (h : J.value (J.print (helloRecord hello)) = some value) :
    Desktop.helloFromValue line value = .ok hello := by
  obtain ⟨members, hvalue, hperm⟩ := J.value_print _ (helloRecord_nodup hello)
  obtain rfl := Option.some.inj (h.symm.trans hvalue)
  have hkey (key : Text) : (get? key members).isSome = true ↔
      key ∈ ["peer_id", "display_name", "identity_public_key", "exchange_public_key",
        "signature"].map String.toList := by
    rw [isSome_get?_iff, (hperm.map Prod.fst).mem_iff]
    exact Iff.rfl
  have hnonce : (get? "nonce".toList members).isSome = false := by
    rw [Bool.eq_false_iff, ne_eq, hkey]
    decide
  have hchat : isChatFrame (.object members) = false := by
    rw [isChatFrame, Wire.members, hnonce, Bool.false_and]
  have hpeer : (get? "peer_id".toList members).isNone = false := by
    rw [← Option.not_isSome, Bool.not_eq_false', hkey]
    decide
  have hlacks : lacksPeerId (.object members) = false := by
    rw [lacksPeerId, Wire.members, hpeer, Bool.false_and]
  have hhello : Desktop.helloFromJson (.object members) = some hello := by
    rw [Desktop.helloFromJson, helloFrom_perm _ _ _ _ hperm]
    rfl
  simp only [Desktop.helloFromValue, hchat, hlacks, hhello, Bool.false_eq_true, if_false]

/-- Either program reads back the hello that either program wrote. -/
theorem readHello_jsonLine (program : Program) (hello : HelloFrame Text) :
    program.readHello J (jsonLine J (helloRecord hello)) = .ok hello := by
  cases program with
  | cli =>
      refine bind_eq_ok.2 ⟨_, readLine_jsonLine _ _, ?_⟩
      rw [trimEnd_print_newline, fromText, J.document_print _ (helloRecord_nodup hello)]
      rfl
  | desktop =>
      obtain ⟨members, hvalue, -⟩ := J.value_print _ (helloRecord_nodup hello)
      refine bind_eq_ok.2 ⟨_, readLine_jsonLine _ _, ?_⟩
      rw [trimEnd_print_newline, hvalue]
      exact Desktop.helloFromValue_print _ hello hvalue

/-- Refusing a line yields no value. -/
theorem refuse_ne_ok {α : Type} {message : String} {line : Text} {a : α} :
    refuse message line ≠ .ok a := by
  unfold refuse
  intro h
  obtain ⟨_, -, h⟩ := bind_eq_ok.1 h
  cases h

/-- What a program reads from a cut of a hello is that hello, or nothing. -/
theorem readHello_cut {hello hello' : HelloFrame Text} {bytes : Bytes}
    (hcut : bytes <+: jsonLine J (helloRecord hello))
    (h : program.readHello J bytes = .ok hello') : hello' = hello := by
  cases program with
  | cli =>
      obtain ⟨line, hline, h⟩ := bind_eq_ok.1 h
      rcases readLine_cut hcut hline with hall | ⟨hpre, hne⟩
      · rw [hall, fromText, J.document_print _ (helloRecord_nodup hello)] at h
        exact (Except.ok.inj h).symm
      · rw [fromText, J.document_cut _ _ hpre hne] at h
        cases h
  | desktop =>
      obtain ⟨line, hline, h⟩ := bind_eq_ok.1 h
      rcases readLine_cut hcut hline with hall | ⟨hpre, hne⟩
      · obtain ⟨members, hvalue, -⟩ := J.value_print _ (helloRecord_nodup hello)
        simp only [hall, hvalue, Desktop.helloFromValue_print _ hello hvalue] at h
        exact (Except.ok.inj h).symm
      · rw [J.value_cut _ _ hpre hne] at h
        exact absurd h refuse_ne_ok

/-! ### Chat frames -/

/-- Either program reads back the chat frame that either program wrote. -/
theorem readChat_jsonLine (program : Program) (frame : ChatFrame Text) :
    program.readChat J (jsonLine J (chatRecord frame)) = .ok frame := by
  cases program with
  | cli | desktop =>
      refine bind_eq_ok.2 ⟨_, readLine_jsonLine _ _, ?_⟩
      rw [trimEnd_print_newline, fromText, J.document_print _ (chatRecord_nodup frame)]
      rfl

/-- What a program reads from a cut of a chat frame is that frame, or nothing. -/
theorem readChat_cut {frame frame' : ChatFrame Text} {bytes : Bytes}
    (hcut : bytes <+: jsonLine J (chatRecord frame))
    (h : program.readChat J bytes = .ok frame') : frame' = frame := by
  cases program with
  | cli | desktop =>
      obtain ⟨line, hline, h⟩ := bind_eq_ok.1 h
      rcases readLine_cut hcut hline with hall | ⟨hpre, hne⟩
      · rw [hall, fromText, J.document_print _ (chatRecord_nodup frame)] at h
        exact (Except.ok.inj h).symm
      · rw [fromText, J.document_cut _ _ hpre hne] at h
        first
        | cases h
        | exact absurd h refuse_ne_ok

/-! ### Invites -/

/-- A joiner decodes the invite that was encoded. -/
theorem inviteDecode_encode (C : Crates) {invite : Invite Text} {text : Text}
    (h : inviteEncode C J invite = .ok text) : inviteDecode C J text = .ok invite := by
  obtain rfl := Except.ok.inj h
  have hscheme : "fauna://join/".toList.isPrefixOf ("fauna://join/".toList ++
      C.encode (utf8Encode (J.print (inviteRecord invite)))) = true :=
    List.isPrefixOf_iff_prefix.2 (List.prefix_append _ _)
  unfold inviteDecode
  simp only [hscheme, if_true, List.drop_left]
  refine bind_eq_ok.2 ⟨_, DeviceIdentity.decodeBase64_eq_ok.2 (C.decode_encode _), ?_⟩
  rw [J.slice_utf8Encode, J.document_print _ (inviteRecord_nodup invite), Option.bind_eq_bind,
    Option.bind_some, inviteFromJson_toJson]

/-! ## Lines whose preview panics -/

/-- Byte 180 of a longer text falls inside a character. -/
def Unpreviewable (line : Text) : Prop := 180 < utf8Length line ∧ isCharBoundary line 180 = false

instance (line : Text) : Decidable (Unpreviewable line) :=
  inferInstanceAs (Decidable (_ ∧ _))

/-- Previewing a line panics exactly on the lines whose cut falls inside a character. -/
theorem preview_eq_panic_iff {line : Text} :
    preview line = .error .panic ↔ Unpreviewable line := by
  rw [preview, Unpreviewable, ← sliceTo_eq_none_iff]
  split_ifs with h
  · simp [Nat.not_lt.2 h]
  · cases sliceTo line 180 <;> simp [Nat.not_le.1 h]

/-- Refusing a line panics exactly when its preview cannot be cut. -/
theorem refuse_eq_panic_iff {α : Type} {message : String} {line : Text} :
    refuse (α := α) message line = .error .panic ↔ Unpreviewable line := by
  rw [← preview_eq_panic_iff, refuse]
  cases h : preview line with
  | error f => simp [bind, Except.bind]
  | ok start => simp [bind, Except.bind]

/-- Reading a line does not panic, whatever the bytes. -/
theorem readLine_ne_panic (closed : String) (bytes : Bytes) :
    readLine closed bytes ≠ .error .panic := by
  unfold readLine
  split <;> simp

end Fauna.Wire
