import Fauna.Wire.Frames
import Mathlib.Data.List.Nodup

/-!
# Which lines are hellos

The desktop reads a hello through a `Value`, with two checks of its own and an alias for four of
the fields; the CLI reads it straight from the text, without aliases. What either accepts is said
here in terms of the members of the object on the line.

* `member_eq_some_iff`: what is read under several names, in an object without repeated keys.
* `hello_grammar`: the lines the desktop accepts, and what of the CLI's lines is among them.
-/

namespace Fauna.Wire

open Fauna.Lib Fauna.Core

/-- The keys of an object. -/
def keys (members : List (Text × Json)) : List Text := members.map Prod.fst

/-- A string stands under exactly one of two names, and nothing under the other. -/
def OccursAs (members : List (Text × Json)) (name other s : Text) : Prop :=
  ((name, Json.string s) ∈ members ∧ other ∉ keys members) ∨
    ((other, Json.string s) ∈ members ∧ name ∉ keys members)

/-- The members of a hello. Other members do not matter, but for those of a chat frame. -/
structure HelloMembers (members : List (Text × Json)) (hello : HelloFrame Text) : Prop where
  noChatFrame : ¬ ("nonce".toList ∈ keys members ∧ "ciphertext".toList ∈ keys members)
  peerId : OccursAs members "peer_id".toList "peerId".toList hello.peerId.asStr
  displayName : OccursAs members "display_name".toList "displayName".toList hello.displayName
  identityPublicKey : OccursAs members "identity_public_key".toList "identityPublicKey".toList
    hello.identityPublicKey
  exchangePublicKey : OccursAs members "exchange_public_key".toList "exchangePublicKey".toList
    hello.exchangePublicKey
  signature : ("signature".toList, Json.string hello.signature) ∈ members

/-- The camelCase spellings. -/
def camelCase : List Text :=
  ["peerId", "displayName", "identityPublicKey", "exchangePublicKey"].map String.toList

/-- `from_str::<Value>` keeps the members of an object without repeated keys: the same keys, and
the same strings under them. -/
def SerdeJson.KeepsMembers (J : SerdeJson) : Prop :=
  ∀ text members value, J.document text = some (.object members) → (keys members).Nodup →
    J.value text = some value → ∃ members', value = .object members' ∧
      (keys members').Perm (keys members) ∧
      ∀ key s, (key, Json.string s) ∈ members' ↔ (key, Json.string s) ∈ members

/-- The printer of plain records keeps every member of an object. -/
theorem SerdeJson.records_keepsMembers : SerdeJson.records.KeepsMembers := by
  intro text members value hdocument _ hvalue
  obtain rfl := Option.some.inj (hdocument.symm.trans hvalue)
  exact ⟨members, rfl, .refl _, fun _ _ => Iff.rfl⟩

/-! ## Reading members -/

section Members

variable {members : List (Text × Json)}

/-- In an object without repeated keys, what is read under some names is what stands under one of
them, where nothing stands under the others. -/
theorem member_eq_some_iff (hkeys : (keys members).Nodup) {names : List Text} {json : Json} :
    member names members = some json ↔ ∃ name ∈ names, (name, json) ∈ members ∧
      ∀ other ∈ names, other ∈ keys members → other = name := by
  constructor
  · intro h
    obtain ⟨⟨name, json'⟩, honly, rfl⟩ := Option.map_eq_some_iff.1 h
    have hfilter : members.filter (fun m => m.1 ∈ names) = [(name, json')] := by
      unfold only at honly
      split at honly
      · next hfilter => rw [hfilter, Option.some.inj honly]
      · cases honly
    have hmem {m : Text × Json} : (m ∈ members ∧ m.1 ∈ names) ↔ m = (name, json') := by
      rw [← List.mem_singleton, ← hfilter, List.mem_filter, decide_eq_true_iff]
    obtain ⟨hmember, hname⟩ := hmem.2 rfl
    refine ⟨name, hname, hmember, fun other hother hkey => ?_⟩
    obtain ⟨m, hm, rfl⟩ := List.mem_map.1 hkey
    rw [hmem.1 ⟨hm, hother⟩]
  · rintro ⟨name, hname, hmember, hothers⟩
    have hfilter : members.filter (fun m => m.1 ∈ names) = [(name, json)] := by
      refine List.perm_singleton.1 ((List.perm_ext_iff_of_nodup
        ((List.Nodup.of_map _ hkeys).filter _) (List.nodup_singleton _)).2 fun m => ?_)
      rw [List.mem_filter, decide_eq_true_iff, List.mem_singleton]
      constructor
      · rintro ⟨hm, hnames⟩
        have hkey := hothers m.1 hnames (List.mem_map_of_mem hm)
        exact List.inj_on_of_nodup_map hkeys hm hmember hkey
      · rintro rfl
        exact ⟨hmember, hname⟩
    rw [member, hfilter]
    rfl

/-- A value is taken as a string only when it is one. -/
theorem asString_eq_some {json : Json} {s : Text} : asString json = some s ↔ json = .string s := by
  cases json with
  | string s' => simp [asString]
  | _ => simp [asString]

/-- A string under the one name of a field. -/
theorem member_asString_iff (hkeys : (keys members).Nodup) {name s : Text} :
    (member [name] members >>= asString) = some s ↔ (name, Json.string s) ∈ members := by
  simp [Option.bind_eq_some_iff, asString_eq_some, member_eq_some_iff hkeys]

/-- A string under one of the two names of a field. -/
theorem member_asString_iff_occursAs (hkeys : (keys members).Nodup) {name other s : Text}
    (hne : name ≠ other) :
    (member [name, other] members >>= asString) = some s ↔ OccursAs members name other s := by
  simp only [Option.bind_eq_bind, Option.bind_eq_some_iff, asString_eq_some, exists_eq_right,
    member_eq_some_iff hkeys, List.mem_cons, List.not_mem_nil, or_false, exists_eq_or_imp,
    exists_eq_left, forall_eq_or_imp, forall_eq, imp_true_iff, true_and, and_true]
  rw [OccursAs]
  constructor
  · rintro (⟨hmem, hother⟩ | ⟨hmem, hname⟩)
    · exact Or.inl ⟨hmem, fun h => hne (hother h).symm⟩
    · exact Or.inr ⟨hmem, fun h => hne (hname h)⟩
  · rintro (⟨hmem, hother⟩ | ⟨hmem, hname⟩)
    · exact Or.inl ⟨hmem, fun h => absurd h hother⟩
    · exact Or.inr ⟨hmem, fun h => absurd h hname⟩

/-- What a derived `Deserialize` of a hello reads from an object. -/
theorem helloFrom_object_eq_some {a b c d : List String} {hello : HelloFrame Text} :
    helloFrom a b c d (.object members) = some hello ↔
      (member (names "peer_id" a) members >>= asString) = some hello.peerId.asStr ∧
      (member (names "display_name" b) members >>= asString) = some hello.displayName ∧
      (member (names "identity_public_key" c) members >>= asString) =
        some hello.identityPublicKey ∧
      (member (names "exchange_public_key" d) members >>= asString) =
        some hello.exchangePublicKey ∧
      (member (names "signature" []) members >>= asString) = some hello.signature := by
  unfold helloFrom
  constructor
  · intro h
    obtain ⟨peerId, hpeer, h⟩ := Option.bind_eq_some_iff.1 h
    obtain ⟨displayName, hdisplay, h⟩ := Option.bind_eq_some_iff.1 h
    obtain ⟨identityPublicKey, hidentity, h⟩ := Option.bind_eq_some_iff.1 h
    obtain ⟨exchangePublicKey, hexchange, h⟩ := Option.bind_eq_some_iff.1 h
    obtain ⟨signature, hsignature, h⟩ := Option.bind_eq_some_iff.1 h
    obtain rfl := Option.some.inj h
    exact ⟨hpeer, hdisplay, hidentity, hexchange, hsignature⟩
  · rintro ⟨hpeer, hdisplay, hidentity, hexchange, hsignature⟩
    simp only [hpeer, hdisplay, hidentity, hexchange, hsignature]
    rfl

/-- The CLI reads a hello from the five members with its own spellings. -/
theorem Cli.helloFromJson_eq_some (hkeys : (keys members).Nodup) {hello : HelloFrame Text} :
    Cli.helloFromJson (.object members) = some hello ↔
      ("peer_id".toList, Json.string hello.peerId.asStr) ∈ members ∧
      ("display_name".toList, Json.string hello.displayName) ∈ members ∧
      ("identity_public_key".toList, Json.string hello.identityPublicKey) ∈ members ∧
      ("exchange_public_key".toList, Json.string hello.exchangePublicKey) ∈ members ∧
      ("signature".toList, Json.string hello.signature) ∈ members := by
  rw [Cli.helloFromJson, helloFrom_object_eq_some]
  exact and_congr (member_asString_iff hkeys) (and_congr (member_asString_iff hkeys)
    (and_congr (member_asString_iff hkeys) (and_congr (member_asString_iff hkeys)
      (member_asString_iff hkeys))))

/-- The desktop reads each of the first four under one of two spellings. -/
theorem Desktop.helloFromJson_eq_some (hkeys : (keys members).Nodup) {hello : HelloFrame Text} :
    Desktop.helloFromJson (.object members) = some hello ↔
      OccursAs members "peer_id".toList "peerId".toList hello.peerId.asStr ∧
      OccursAs members "display_name".toList "displayName".toList hello.displayName ∧
      OccursAs members "identity_public_key".toList "identityPublicKey".toList
        hello.identityPublicKey ∧
      OccursAs members "exchange_public_key".toList "exchangePublicKey".toList
        hello.exchangePublicKey ∧
      ("signature".toList, Json.string hello.signature) ∈ members := by
  rw [Desktop.helloFromJson, helloFrom_object_eq_some]
  exact and_congr (member_asString_iff_occursAs hkeys (by decide))
    (and_congr (member_asString_iff_occursAs hkeys (by decide))
      (and_congr (member_asString_iff_occursAs hkeys (by decide))
        (and_congr (member_asString_iff_occursAs hkeys (by decide))
          (member_asString_iff hkeys))))

/-- What stands under one of two names is one of the keys. -/
theorem OccursAs.mem_keys {name other s : Text} (h : OccursAs members name other s) :
    name ∈ keys members ∨ other ∈ keys members := by
  rcases h with ⟨hmem, -⟩ | ⟨hmem, -⟩
  · exact Or.inl (List.mem_map_of_mem hmem)
  · exact Or.inr (List.mem_map_of_mem hmem)

end Members

/-! ## The desktop's checks -/

/-- An object is taken for a chat frame when it has both members of one. -/
theorem isChatFrame_object {members : List (Text × Json)} :
    isChatFrame (.object members) = true ↔
      "nonce".toList ∈ keys members ∧ "ciphertext".toList ∈ keys members := by
  rw [isChatFrame, Bool.and_eq_true]
  exact and_congr isSome_get?_iff isSome_get?_iff

/-- An object has a peer id under either spelling of the name. -/
theorem lacksPeerId_object {members : List (Text × Json)} :
    lacksPeerId (.object members) = false ↔
      "peer_id".toList ∈ keys members ∨ "peerId".toList ∈ keys members := by
  rw [lacksPeerId, Bool.and_eq_false_iff, Option.isNone_eq_false_iff, Option.isNone_eq_false_iff]
  exact or_congr isSome_get?_iff isSome_get?_iff

/-- A value is taken for a hello exactly where it is an object with the members of one. -/
theorem Desktop.helloFromValue_eq_ok {line : Text} {value : Json} {hello : HelloFrame Text}
    (hkeys : ∀ members, value = .object members → (keys members).Nodup) :
    Desktop.helloFromValue line value = .ok hello ↔
      ∃ members, value = .object members ∧ HelloMembers members hello := by
  unfold Desktop.helloFromValue
  constructor
  · intro h
    split_ifs at h with hchat hlacks
    · exact absurd h refuse_ne_ok
    · cases hjson : Desktop.helloFromJson value with
      | none => rw [hjson] at h; cases h
      | some hello' =>
          rw [hjson] at h
          obtain rfl := Except.ok.inj h
          cases value with
          | object members =>
              obtain ⟨hpeer, hdisplay, hidentity, hexchange, hsignature⟩ :=
                (Desktop.helloFromJson_eq_some (hkeys members rfl)).1 hjson
              exact ⟨members, rfl, fun hpair => hchat (isChatFrame_object.2 hpair), hpeer,
                hdisplay, hidentity, hexchange, hsignature⟩
          | _ => exact absurd rfl hlacks
  · rintro ⟨members, rfl, hmembers⟩
    have hchat : ¬ isChatFrame (.object members) = true := fun h =>
      hmembers.noChatFrame (isChatFrame_object.1 h)
    have hlacks : lacksPeerId (.object members) = false :=
      lacksPeerId_object.2 hmembers.peerId.mem_keys
    have hjson : Desktop.helloFromJson (.object members) = some hello :=
      (Desktop.helloFromJson_eq_some (hkeys members rfl)).2 ⟨hmembers.peerId,
        hmembers.displayName, hmembers.identityPublicKey, hmembers.exchangePublicKey,
        hmembers.signature⟩
    rw [if_neg hchat, hlacks, hjson]
    rfl

/-! ## The lines -/

variable {J : SerdeJson} {line : Text} {value : Json}

/-- A nonempty line that parses is decided by its value alone. -/
theorem Desktop.readHelloFrame_eq (hline : line ≠ [])
    (hvalue : J.value (trimEnd line) = some value) :
    Desktop.readHelloFrame J (utf8Encode line) = Desktop.helloFromValue (trimEnd line) value := by
  have hread : readLine "karsi taraf baglantiyi kapatti" (utf8Encode line) = .ok line :=
    readLine_eq_ok.2 ⟨fun h => hline (utf8Encode_eq_nil.1 h), utf8Decode_utf8Encode line⟩
  unfold Desktop.readHelloFrame
  rw [hread]
  simp [bind, Except.bind, hvalue]

/-- What the CLI reads from a line is what it reads from the document on it. -/
theorem Cli.readJsonLine_eq_ok {α : Type} {fromJson : Json → Option α} {json : Json} {a : α}
    (hline : line ≠ []) (hjson : J.document (trimEnd line) = some json) :
    Cli.readJsonLine J fromJson (utf8Encode line) = .ok a ↔ fromJson json = some a := by
  have hread : readLine "peer disconnected" (utf8Encode line) = .ok line :=
    readLine_eq_ok.2 ⟨fun h => hline (utf8Encode_eq_nil.1 h), utf8Decode_utf8Encode line⟩
  have htext : fromText J fromJson (trimEnd line) = fromJson json := by
    rw [fromText, hjson]
    rfl
  unfold Cli.readJsonLine
  rw [hread]
  cases hfrom : fromJson json with
  | none => simp [bind, Except.bind, htext, hfrom]
  | some a' => simp [bind, Except.bind, htext, hfrom]

/-- Of the lines that `serde_json` parses to a value, the desktop takes those for a hello that are
an object with the members of one, and no others, and the fields are what stands in the members.
And whatever object without repeated keys, camelCase spellings or the two keys of a chat frame the
CLI takes for a hello, the desktop takes for the same one. -/
theorem hello_grammar (J : SerdeJson) (hJ : J.KeepsMembers) :
    (∀ line value, line ≠ [] → J.value (trimEnd line) = some value → ∀ hello,
      Desktop.readHelloFrame J (utf8Encode line) = .ok hello ↔
        ∃ members, value = .object members ∧ HelloMembers members hello) ∧
    ∀ line value members hello, line ≠ [] → J.value (trimEnd line) = some value →
      J.document (trimEnd line) = some (.object members) → (keys members).Nodup →
      (∀ key ∈ camelCase, key ∉ keys members) →
      ¬ ("nonce".toList ∈ keys members ∧ "ciphertext".toList ∈ keys members) →
      Cli.readJsonLine J Cli.helloFromJson (utf8Encode line) = .ok hello →
        Desktop.readHelloFrame J (utf8Encode line) = .ok hello := by
  have hgrammar : ∀ line value, line ≠ [] → J.value (trimEnd line) = some value → ∀ hello,
      Desktop.readHelloFrame J (utf8Encode line) = .ok hello ↔
        ∃ members, value = .object members ∧ HelloMembers members hello := by
    intro line value hline hvalue hello
    rw [Desktop.readHelloFrame_eq hline hvalue]
    exact Desktop.helloFromValue_eq_ok fun members hobject =>
      J.value_nodup _ members (hobject ▸ hvalue)
  refine ⟨hgrammar, ?_⟩
  intro line value members hello hline hvalue hdocument hkeys hcamel hchat hcli
  obtain ⟨members', rfl, hperm, hstrings⟩ := hJ _ _ _ hdocument hkeys hvalue
  have hkey {key : Text} : key ∈ keys members' ↔ key ∈ keys members := hperm.mem_iff
  obtain ⟨hpeer, hdisplay, hidentity, hexchange, hsignature⟩ :=
    (Cli.helloFromJson_eq_some hkeys).1 ((Cli.readJsonLine_eq_ok hline hdocument).1 hcli)
  have hoccurs {name other s : Text} (h : (name, Json.string s) ∈ members)
      (hother : other ∈ camelCase) : OccursAs members' name other s :=
    Or.inl ⟨(hstrings name s).2 h, fun hmem => hcamel other hother (hkey.1 hmem)⟩
  refine (hgrammar line _ hline hvalue hello).2 ⟨members', rfl, ?_⟩
  exact {
    noChatFrame := fun h => hchat ⟨hkey.1 h.1, hkey.1 h.2⟩
    peerId := hoccurs hpeer (by decide)
    displayName := hoccurs hdisplay (by decide)
    identityPublicKey := hoccurs hidentity (by decide)
    exchangePublicKey := hoccurs hexchange (by decide)
    signature := (hstrings _ _).2 hsignature }

/-- A hello. -/
def plainHello : HelloFrame Text :=
  ⟨⟨"fauna-0".toList⟩, "a".toList, "k".toList, "x".toList, "s".toList⟩

/-- It, with a member that neither program knows. -/
def plainRecord : Record := ("version".toList, .byte 1) :: helloRecord plainHello

/-- A hello with a member more is read by the desktop as the CLI reads it. -/
theorem hello_grammar_plain : Desktop.readHelloFrame SerdeJson.records
    (utf8Encode (SerdeJson.records.print plainRecord ++ ['\n'])) = .ok plainHello := by
  have hdocument : SerdeJson.records.document
      (trimEnd (SerdeJson.records.print plainRecord ++ ['\n'])) = some plainRecord.toJson := by
    rw [trimEnd_print_newline]
    exact SerdeJson.records.document_print _ (by decide)
  have hline : SerdeJson.records.print plainRecord ++ ['\n'] ≠ [] := by simp
  refine (hello_grammar SerdeJson.records SerdeJson.records_keepsMembers).2 _ _ _ plainHello
    hline hdocument hdocument (by decide) (by decide) (by decide) ?_
  exact (Cli.readJsonLine_eq_ok hline hdocument).2 rfl

end Fauna.Wire
