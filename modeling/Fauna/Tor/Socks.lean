import Fauna.Dial.Calls
import Fauna.Lib.Socks5

/-!
# Connecting through Tor's SOCKS proxy

`connect_via_socks5` of `tor.rs`, and its retries. `Proxy` is the proxy at the other end: it takes
what is written and sends a stream in chunks of any size, and the code reads it with `read_exact`.

* `raises_connectViaSocks5`: it returns its errors, and does not panic.
* `socks5_reply_exact`: which streams end in a connection, how much of them is read, and what was
  written; every other stream ends in an error.
-/

namespace Fauna.Tor

open Fauna.Lib Fauna.Core Fauna.Dial Fauna.Dial.Action

/-- `socks_reply_message`. -/
def socksReplyMessage (code : UInt8) : Text :=
  match code with
  | 0x01 => "genel SOCKS sunucu hatasi".toList
  | 0x02 => "kurallar baglantiya izin vermedi".toList
  | 0x03 => "ag erisilemiyor".toList
  | 0x04 => "hedef erisilemiyor; onion servisi henuz yayilmamis olabilir".toList
  | 0x05 => "baglanti reddedildi; host tarafinda sohbet henuz dinlemiyor olabilir".toList
  | 0x06 => "TTL suresi doldu".toList
  | 0x07 => "komut desteklenmiyor".toList
  | 0x08 => "adres tipi desteklenmiyor".toList
  | _ => "bilinmeyen SOCKS hatasi".toList

/-- The CONNECT request for a host; the length of the host is cut to a byte. -/
def connectRequest (host : Text) (port : UInt16) : Bytes :=
  [0x05, 0x01, 0x00, 0x03, .ofNat (utf8Encode host).length] ++ utf8Encode host ++
    Socks5.beBytes port

/-- The rest of the reply, which is skipped. -/
def skipBound (addressType : UInt8) : Action Unit :=
  match addressType with
  | 0x01 => do
      let _ ← readExact 6
      return ()
  | 0x03 => do
      let ⟨[length], _⟩ ← readExact 1
      let _ ← readExact (length.toNat + 2)
      return ()
  | 0x04 => do
      let _ ← readExact 18
      return ()
  | _ => bail "Tor SOCKS bilinmeyen adres tipi dondu".toList

/-- `connect_via_socks5`; what it returns is the connection it dialed. -/
def connectViaSocks5 (socksAddr host : Text) (port : UInt16) : Action Unit := do
  connect .proxy socksAddr ("Tor SOCKS adresine baglanilamadi: ".toList ++ socksAddr)
  writeAll [0x05, 0x01, 0x00]
  let response ← readExact 2
  if response.1 ≠ [0x05, 0x00] then
    bail "Tor SOCKS kimliksiz baglantiyi kabul etmedi".toList
  else if (utf8Encode host).length > 255 then
    bail "onion host cok uzun".toList
  else do
    writeAll (connectRequest host port)
    let ⟨[version, code, _, addressType], _⟩ ← readExact 4
    if version ≠ 0x05 ∨ code ≠ 0x00 then
      bail ("Tor SOCKS baglantisi reddedildi: ".toList ++ socksReplyMessage code)
    else skipBound addressType

/-- The text of an onion target. -/
def hostPort (host : Text) (port : UInt16) : Text := host ++ ':' :: decimal port.toNat

/-- `connect_via_socks5_with_retry`, where the clock allows `rounds` rounds of its loop. Whether
there was a last error or none, it says the same. -/
def connectViaSocks5WithRetry (socksAddr host : Text) (port : UInt16)
    (onRetry : ℕ → Text → Action Unit) (rounds : ℕ) (attempt : ℕ) : Action Unit :=
  match rounds with
  | 0 => bail (hostPort host port ++ " onion adresine Tor uzerinden baglanilamadi".toList)
  | rounds + 1 => do
      match ← (connectViaSocks5 socksAddr host port).attempt caught with
      | .ok () => return ()
      | .error error => do
          onRetry attempt error
          ask (.sleep 2)
          connectViaSocks5WithRetry socksAddr host port onRetry rounds (attempt + 1)

/-! ## What is called -/

/-- A call on the connection to a SOCKS proxy. -/
def ThroughProxy : Call → Prop
  | .connect .proxy _ | .writeAll _ | .readExact _ => True
  | _ => False

section All

variable {kind : Call → Prop}

/-- Reading bytes is one call. -/
theorem all_readExact {count : ℕ} (h : kind (.readExact count)) : (readExact count).All kind :=
  ⟨h, fun answer => all_orFail answer⟩

/-- Skipping the bound address reads bytes only. -/
theorem all_skipBound (hread : ∀ count, kind (.readExact count)) (addressType : UInt8) :
    (skipBound addressType).All kind := by
  unfold skipBound
  split
  · exact (all_readExact (hread 6)).bind fun _ => trivial
  · refine (all_readExact (hread 1)).bind fun first => ?_
    obtain ⟨first, hone⟩ := first
    obtain ⟨length, rfl⟩ := List.length_eq_one_iff.1 hone
    exact (all_readExact (hread _)).bind fun _ => trivial
  · exact (all_readExact (hread 18)).bind fun _ => trivial
  · trivial

/-- The calls on a connection to the proxy; the request is written where the host fits in it. -/
theorem all_connectViaSocks5 {socksAddr host : Text} {port : UInt16}
    (hconnect : kind (.connect .proxy socksAddr)) (hgreeting : kind (.writeAll Socks5.greeting))
    (hrequest : (utf8Encode host).length ≤ 255 → kind (.writeAll (connectRequest host port)))
    (hread : ∀ count, kind (.readExact count)) :
    (connectViaSocks5 socksAddr host port).All kind := by
  have hwrite {bytes : Bytes} (h : kind (.writeAll bytes)) : (writeAll bytes).All kind :=
    ⟨h, fun answer => all_orFail answer⟩
  unfold connectViaSocks5
  refine Routine.All.bind ⟨hconnect, fun answer => all_orContext _ answer⟩ fun _ => ?_
  apply (hwrite hgreeting).bind
  intro _
  apply (all_readExact (hread 2)).bind
  intro response
  split
  · trivial
  split
  · trivial
  next hhost =>
  apply (hwrite (hrequest (not_lt.1 hhost))).bind
  intro _
  apply (all_readExact (hread 4)).bind
  rintro ⟨header, hfour⟩
  obtain ⟨version, code, reserved, addressType, rfl⟩ := List.length_eq_four.1 hfour
  show Routine.All kind (if _ then _ else _)
  split
  · trivial
  · exact all_skipBound hread addressType

end All

/-- `connect_via_socks5` calls the proxy only. -/
theorem all_throughProxy (socksAddr host : Text) (port : UInt16) :
    (connectViaSocks5 socksAddr host port).All ThroughProxy :=
  all_connectViaSocks5 trivial trivial (fun _ => trivial) fun _ => trivial

/-- The retries sleep and report in between. -/
theorem all_connectViaSocks5WithRetry {kind : Call → Prop} (socksAddr host : Text) (port : UInt16)
    {onRetry : ℕ → Text → Action Unit} (hproxy : ∀ c, ThroughProxy c → kind c)
    (hsleep : kind (.sleep 2)) (hretry : ∀ attempt error, (onRetry attempt error).All kind)
    (rounds attempt : ℕ) :
    (connectViaSocks5WithRetry socksAddr host port onRetry rounds attempt).All kind := by
  induction rounds generalizing attempt with
  | zero => trivial
  | succ rounds ih =>
      rw [connectViaSocks5WithRetry]
      apply ((all_throughProxy socksAddr host port).mono hproxy).attempt.bind
      intro result
      cases result with
      | ok _ => trivial
      | error error =>
          apply (hretry attempt error).bind
          intro _
          exact ⟨hsleep, fun _ => ih (attempt + 1)⟩

/-! ## How it fails -/

/-- A read that fails is an error and no panic. -/
theorem raises_readExact (count : ℕ) : (readExact count).Raises Returned :=
  fun answer => raises_orFail answer

/-- So is an address that is not known. -/
theorem raises_skipBound (addressType : UInt8) : (skipBound addressType).Raises Returned := by
  unfold skipBound
  split
  · exact (raises_readExact 6).bind fun _ => trivial
  · refine (raises_readExact 1).bind fun first => ?_
    obtain ⟨first, hone⟩ := first
    obtain ⟨length, rfl⟩ := List.length_eq_one_iff.1 hone
    exact (raises_readExact _).bind fun _ => trivial
  · exact (raises_readExact 18).bind fun _ => trivial
  · exact raises_bail _

/-- `connect_via_socks5` never panics. -/
theorem raises_connectViaSocks5 (socksAddr host : Text) (port : UInt16) :
    (connectViaSocks5 socksAddr host port).Raises Returned := by
  have hwrite (bytes : Bytes) : (writeAll bytes).Raises Returned :=
    fun answer => raises_orFail answer
  unfold connectViaSocks5
  refine Routine.Raises.bind (fun answer => raises_orContext _ answer) fun _ => ?_
  apply (hwrite Socks5.greeting).bind
  intro _
  apply (raises_readExact 2).bind
  intro response
  split
  · exact raises_bail _
  split
  · exact raises_bail _
  apply (hwrite (connectRequest host port)).bind
  intro _
  apply (raises_readExact 4).bind
  rintro ⟨header, hfour⟩
  obtain ⟨version, code, reserved, addressType, rfl⟩ := List.length_eq_four.1 hfour
  show Routine.Raises Returned (if _ then _ else _)
  split
  · exact raises_bail _
  · exact raises_skipBound addressType

/-! ## The proxy at the other end -/

/-- The loop of `read_exact` over the chunks that arrive: the bytes it gathers, and what is left. -/
def gather : List Bytes → ℕ → Bytes × List Bytes
  | [], _ => ([], [])
  | chunk :: chunks, count =>
      if count ≤ chunk.length then (chunk.take count, chunk.drop count :: chunks)
      else
        let p := gather chunks (count - chunk.length)
        (chunk ++ p.1, p.2)

/-- A proxy that has accepted the connection: what it will send, and what has been written to it. -/
structure Proxy where
  chunks : List Bytes
  written : Bytes

/-- What the code gets from a proxy. -/
def Proxy.answers : (c : Call) → Proxy → Option (c.Answer × Proxy)
  | .connect .proxy _, proxy => some (.ok (), proxy)
  | .writeAll bytes, proxy => some (.ok (), { proxy with written := proxy.written ++ bytes })
  | .readExact count, proxy =>
      let p := gather proxy.chunks count
      some (if h : p.1.length = count then (.ok ⟨p.1, h⟩, { proxy with chunks := p.2 })
        else (.error "failed to fill whole buffer".toList, { proxy with chunks := [] }))
  | _, _ => none

/-- The same without the chunks. -/
structure Stream where
  unread : Bytes
  written : Bytes

/-- What the code gets from a stream. -/
def Stream.answers : (c : Call) → Stream → Option (c.Answer × Stream)
  | .connect .proxy _, stream => some (.ok (), stream)
  | .writeAll bytes, stream => some (.ok (), { stream with written := stream.written ++ bytes })
  | .readExact count, stream =>
      some (if h : (stream.unread.take count).length = count then
          (.ok ⟨stream.unread.take count, h⟩, { stream with unread := stream.unread.drop count })
        else (.error "failed to fill whole buffer".toList, { stream with unread := [] }))
  | _, _ => none

/-- The stream a proxy sends. -/
def Proxy.stream (proxy : Proxy) : Stream := ⟨proxy.chunks.flatten, proxy.written⟩

/-- Bytes gathered from chunks are the first bytes of the stream. -/
theorem gather_eq (chunks : List Bytes) (count : ℕ) :
    (gather chunks count).1 = chunks.flatten.take count ∧
      (gather chunks count).2.flatten = chunks.flatten.drop count := by
  induction chunks generalizing count with
  | nil => simp [gather]
  | cons chunk chunks ih =>
      rw [gather, List.flatten_cons]
      split
      · next h =>
        rw [List.take_append_of_le_length h, List.drop_append_of_le_length h]
        exact ⟨rfl, rfl⟩
      · next h =>
        obtain ⟨hfirst, hrest⟩ := ih (count - chunk.length)
        have hle : chunk.length ≤ count := by omega
        rw [List.take_append, List.drop_append, List.take_of_length_le hle,
          List.drop_of_length_le hle]
        exact ⟨congrArg (chunk ++ ·) hfirst, hrest⟩

/-- However the stream is chunked, the code gets the same. -/
theorem Proxy.answers_stream (c : Call) (proxy : Proxy) :
    Stream.answers c proxy.stream = (Proxy.answers c proxy).map (Prod.map id Proxy.stream) := by
  cases c with
  | connect route _ => cases route <;> rfl
  | writeAll bytes => rfl
  | readExact count =>
      obtain ⟨hfirst, hrest⟩ := gather_eq proxy.chunks count
      have htake : proxy.stream.unread.take count = (gather proxy.chunks count).1 := hfirst.symm
      simp only [Stream.answers, Proxy.answers, Option.map_some, htake]
      split
      · simp only [Prod.map, id, Proxy.stream, hrest]
      · rfl
  | _ => rfl

section Stream

variable {s t : Stream}

/-- Reading takes its bytes off the stream, or fails where there are too few. -/
theorem run_readExact (count : ℕ) : (readExact count).run Stream.answers s =
    some (if h : (s.unread.take count).length = count then
        (.ok ⟨s.unread.take count, h⟩, { s with unread := s.unread.drop count })
      else (.error (.error "failed to fill whole buffer".toList), { s with unread := [] })) := by
  show ((Stream.answers (.readExact count) s).bind _) = _
  simp only [Stream.answers, Option.bind_some]
  split <;> rfl

/-- What is read comes off the front of the stream. -/
theorem run_readExact_eq_ok {count : ℕ} {bytes : { bytes : Bytes // bytes.length = count }} :
    (readExact count).run Stream.answers s = some (.ok bytes, t) ↔
      s.unread = bytes.1 ++ t.unread ∧ t.written = s.written := by
  obtain ⟨bytes, rfl⟩ := bytes
  rw [run_readExact, Option.some.injEq]
  constructor
  · intro h
    split at h
    · obtain ⟨hbytes, rfl⟩ := Prod.mk.inj h
      have htake := congrArg Subtype.val (Except.ok.inj hbytes)
      exact ⟨by rw [← htake, List.take_append_drop], rfl⟩
    · cases (Prod.mk.inj h).1
  · obtain ⟨unread, written⟩ := s
    obtain ⟨unread', written'⟩ := t
    rintro ⟨rfl, rfl⟩
    simp

/-- Reading always comes to an end. -/
theorem isSome_run_readExact (count : ℕ) : ((readExact count).run Stream.answers s).isSome := by
  rw [run_readExact]
  rfl

/-! ## Which replies grant a connection -/

/-- What is skipped is the address that was bound. -/
theorem run_skipBound_eq_ok {addressType : UInt8} :
    (skipBound addressType).run Stream.answers s = some (.ok (), t) ↔
      ∃ bound, Socks5.Bound addressType bound ∧ s.unread = bound ++ t.unread ∧
        t.written = s.written := by
  constructor
  · intro h
    unfold skipBound at h
    split at h
    · obtain ⟨bytes, u, hread, hdone⟩ := Routine.run_bind_eq_ok.1 h
      obtain ⟨-, rfl⟩ := Prod.mk.inj (Option.some.inj hdone)
      obtain ⟨hunread, hwritten⟩ := run_readExact_eq_ok.1 hread
      exact ⟨bytes.1, .ipv4 bytes.2, hunread, hwritten⟩
    · obtain ⟨⟨first, hone⟩, u, hread, h⟩ := Routine.run_bind_eq_ok.1 h
      obtain ⟨length, rfl⟩ := List.length_eq_one_iff.1 hone
      obtain ⟨bytes, v, hskip, hdone⟩ := Routine.run_bind_eq_ok.1 h
      obtain ⟨-, rfl⟩ := Prod.mk.inj (Option.some.inj hdone)
      obtain ⟨hunread, hwritten⟩ := run_readExact_eq_ok.1 hread
      obtain ⟨hunread', hwritten'⟩ := run_readExact_eq_ok.1 hskip
      refine ⟨length :: bytes.1, .domainName bytes.2, ?_, hwritten'.trans hwritten⟩
      rw [hunread, hunread']
      rfl
    · obtain ⟨bytes, u, hread, hdone⟩ := Routine.run_bind_eq_ok.1 h
      obtain ⟨-, rfl⟩ := Prod.mk.inj (Option.some.inj hdone)
      obtain ⟨hunread, hwritten⟩ := run_readExact_eq_ok.1 hread
      exact ⟨bytes.1, .ipv6 bytes.2, hunread, hwritten⟩
    · cases h
  · rintro ⟨bound, hbound, hunread, hwritten⟩
    cases hbound with
    | ipv4 hlength =>
        exact Routine.run_bind_eq_ok.2
          ⟨⟨bound, hlength⟩, t, run_readExact_eq_ok.2 ⟨hunread, hwritten⟩, rfl⟩
    | @domainName length bytes hlength =>
        refine Routine.run_bind_eq_ok.2 ⟨⟨[length], rfl⟩, ⟨bytes ++ t.unread, s.written⟩,
          run_readExact_eq_ok.2 ⟨hunread, rfl⟩, Routine.run_bind_eq_ok.2 ?_⟩
        exact ⟨⟨bytes, hlength⟩, t, run_readExact_eq_ok.2 ⟨rfl, hwritten⟩, rfl⟩
    | ipv6 hlength =>
        exact Routine.run_bind_eq_ok.2
          ⟨⟨bound, hlength⟩, t, run_readExact_eq_ok.2 ⟨hunread, hwritten⟩, rfl⟩

/-- Exactly when the stream of a proxy ends in a connection. -/
theorem run_connectViaSocks5_eq_ok {socksAddr host : Text} {port : UInt16} :
    (connectViaSocks5 socksAddr host port).run Stream.answers s = some (.ok (), t) ↔
      (utf8Encode host).length ≤ 255 ∧ ∃ reply, Socks5.Granted reply ∧
        s.unread = Socks5.noAuthentication ++ reply ++ t.unread ∧
        t.written = s.written ++ Socks5.greeting ++ connectRequest host port := by
  constructor
  · intro h
    obtain ⟨_, s₁, hconnect, h⟩ := Routine.run_bind_eq_ok.1 h
    obtain ⟨-, rfl⟩ := Prod.mk.inj (Option.some.inj hconnect)
    obtain ⟨_, s₂, hgreeting, h⟩ := Routine.run_bind_eq_ok.1 h
    obtain ⟨-, rfl⟩ := Prod.mk.inj (Option.some.inj hgreeting)
    obtain ⟨⟨response, htwo⟩, s₃, hread, h⟩ := Routine.run_bind_eq_ok.1 h
    obtain ⟨hunread, hwritten⟩ := run_readExact_eq_ok.1 hread
    split at h
    · cases h
    next hresponse =>
    obtain rfl := not_not.1 hresponse
    split at h
    · cases h
    next hhost =>
    obtain ⟨_, s₄, hrequest, h⟩ := Routine.run_bind_eq_ok.1 h
    obtain ⟨-, rfl⟩ := Prod.mk.inj (Option.some.inj hrequest)
    obtain ⟨⟨header, hfour⟩, s₅, hheader, h⟩ := Routine.run_bind_eq_ok.1 h
    obtain ⟨hunread', hwritten'⟩ := run_readExact_eq_ok.1 hheader
    obtain ⟨version, code, reserved, addressType, rfl⟩ := List.length_eq_four.1 hfour
    simp only at h
    split at h
    · cases h
    next hgranted =>
    obtain ⟨rfl, rfl⟩ : version = 5 ∧ code = 0 := by simpa [not_or] using hgranted
    obtain ⟨bound, hbound, hskip, hwritten''⟩ := run_skipBound_eq_ok.1 h
    refine ⟨not_lt.1 hhost, 5 :: 0 :: reserved :: addressType :: bound,
      ⟨reserved, addressType, bound, rfl, hbound⟩, ?_, ?_⟩
    · have h₃ : s₃.unread = 5 :: 0 :: reserved :: addressType :: s₅.unread := hunread'
      have hs : s.unread = 5 :: 0 :: s₃.unread := hunread
      rw [hs, h₃, hskip]
      rfl
    · rw [hwritten'', hwritten']
      show s₃.written ++ connectRequest host port = _
      rw [hwritten]
      rfl
  · rintro ⟨hhost, reply, ⟨reserved, addressType, bound, rfl, hbound⟩, hunread, hwritten⟩
    refine Routine.run_bind_eq_ok.2 ⟨(), s, rfl, Routine.run_bind_eq_ok.2 ⟨(), _, rfl, ?_⟩⟩
    refine Routine.run_bind_eq_ok.2 ⟨⟨[5, 0], rfl⟩,
      ⟨5 :: 0 :: reserved :: addressType :: bound ++ t.unread, s.written ++ Socks5.greeting⟩,
      run_readExact_eq_ok.2 ⟨hunread, rfl⟩, ?_⟩
    rw [if_neg (not_not.2 rfl), if_neg (not_lt.2 hhost)]
    refine Routine.run_bind_eq_ok.2 ⟨(), _, rfl, Routine.run_bind_eq_ok.2
      ⟨⟨[5, 0, reserved, addressType], rfl⟩, ⟨bound ++ t.unread, t.written⟩,
        run_readExact_eq_ok.2 ⟨rfl, hwritten⟩, ?_⟩⟩
    simp only
    rw [if_neg (by simp)]
    exact run_skipBound_eq_ok.2 ⟨bound, hbound, rfl, rfl⟩

/-- A stream always leads to an outcome. -/
theorem isSome_run_connectViaSocks5 (socksAddr host : Text) (port : UInt16) :
    ((connectViaSocks5 socksAddr host port).run Stream.answers s).isSome := by
  refine Routine.isSome_run_bind rfl fun _ _ => Routine.isSome_run_bind rfl fun _ _ =>
    Routine.isSome_run_bind (isSome_run_readExact 2) fun response _ => ?_
  split
  · rfl
  split
  · rfl
  refine Routine.isSome_run_bind rfl fun _ _ =>
    Routine.isSome_run_bind (isSome_run_readExact 4) fun header _ => ?_
  obtain ⟨header, hfour⟩ := header
  obtain ⟨version, code, reserved, addressType, rfl⟩ := List.length_eq_four.1 hfour
  simp only
  split
  · rfl
  unfold skipBound
  split
  · exact Routine.isSome_run_bind (isSome_run_readExact 6) fun _ _ => rfl
  · refine Routine.isSome_run_bind (isSome_run_readExact 1) fun first _ => ?_
    obtain ⟨first, hone⟩ := first
    obtain ⟨length, rfl⟩ := List.length_eq_one_iff.1 hone
    exact Routine.isSome_run_bind (isSome_run_readExact _) fun _ _ => rfl
  · exact Routine.isSome_run_bind (isSome_run_readExact 18) fun _ _ => rfl
  · rfl

end Stream

/-- A run against a proxy is a run against the stream it sends. -/
theorem run_stream (action : Action Unit) (proxy : Proxy) :
    action.run Stream.answers proxy.stream =
      (action.run Proxy.answers proxy).map (Prod.map id Proxy.stream) :=
  Routine.run_map Proxy.stream Proxy.answers_stream action proxy

/-- For every stream of the proxy in any chunks, `connect_via_socks5` has an outcome. It hands out
the connection exactly when the host fits in a byte's length and the stream begins with the choice
of no authentication and one complete reply that grants the connection. It has then read these
bytes and no more, and written the greeting and one request that decodes to the host and port. For
every other stream it returns an error. -/
theorem socks5_reply_exact (socksAddr host : Text) (port : UInt16) (chunks : List Bytes) :
    ∃ result final,
      (connectViaSocks5 socksAddr host port).run Proxy.answers ⟨chunks, []⟩ = some (result, final) ∧
      (result = .ok () ↔ (utf8Encode host).length ≤ 255 ∧ ∃ reply rest, Socks5.Granted reply ∧
        chunks.flatten = Socks5.noAuthentication ++ reply ++ rest) ∧
      (result = .ok () → ∀ reply rest, Socks5.Granted reply →
        chunks.flatten = Socks5.noAuthentication ++ reply ++ rest →
          final.chunks.flatten = rest ∧ ∃ request, final.written = Socks5.greeting ++ request ∧
            Socks5.decodeRequest request = some (host, port)) ∧
      (result ≠ .ok () → ∃ message, result = .error (.error message)) := by
  have hstream := run_stream (connectViaSocks5 socksAddr host port) ⟨chunks, []⟩
  obtain ⟨⟨result, t⟩, hrun⟩ := Option.isSome_iff_exists.1
    (isSome_run_connectViaSocks5 (s := Proxy.stream ⟨chunks, []⟩) socksAddr host port)
  rw [hrun] at hstream
  obtain ⟨⟨result', final⟩, hfinal, heq⟩ := Option.map_eq_some_iff.1 hstream.symm
  obtain ⟨rfl, rfl⟩ := Prod.mk.inj heq
  refine ⟨result', final, hfinal, ⟨?_, ?_⟩, ?_, ?_⟩
  · rintro rfl
    obtain ⟨hhost, reply, hreply, hunread, -⟩ := run_connectViaSocks5_eq_ok.1 hrun
    exact ⟨hhost, reply, _, hreply, hunread⟩
  · rintro ⟨hhost, reply, rest, hreply, hunread⟩
    have hrun' : (connectViaSocks5 socksAddr host port).run Stream.answers
        (Proxy.stream ⟨chunks, []⟩) =
          some (.ok (), ⟨rest, Socks5.greeting ++ connectRequest host port⟩) :=
      run_connectViaSocks5_eq_ok.2 ⟨hhost, reply, hreply, hunread, rfl⟩
    exact (Prod.mk.inj (Option.some.inj (hrun.symm.trans hrun'))).1
  · rintro rfl reply rest hreply hunread
    obtain ⟨hhost, reply', hreply', hunread', hwritten⟩ := run_connectViaSocks5_eq_ok.1 hrun
    refine ⟨?_, connectRequest host port, hwritten, Socks5.decodeRequest_eq hhost port⟩
    have hsame : reply' ++ final.stream.unread = reply ++ rest := by
      have hall : Socks5.noAuthentication ++ (reply' ++ final.stream.unread) =
          Socks5.noAuthentication ++ (reply ++ rest) := by
        rw [← List.append_assoc, ← List.append_assoc, ← hunread, ← hunread']
        rfl
      exact List.append_cancel_left hall
    exact (hreply'.unique hreply hsame).2
  · intro hresult
    cases result' with
    | ok _ => exact absurd rfl hresult
    | error fault =>
        obtain ⟨message, rfl⟩ := (raises_connectViaSocks5 socksAddr host port).of_run hrun
        exact ⟨message, rfl⟩

/-- A proxy that answers with a domain name of two bytes, cut in the middle, and then speaks for
the peer. -/
example : (connectViaSocks5 "127.0.0.1:9150".toList "a.onion".toList 80).run Proxy.answers
    ⟨[[5], [0, 5, 0, 0, 3, 2], [65, 66, 0], [0, 123]], []⟩ =
      some (.ok (), ⟨[[123]], [5, 1, 0, 5, 1, 0, 3, 7, 97, 46, 111, 110, 105, 111, 110, 0, 80]⟩) := by
  rfl

end Fauna.Tor
