import Fauna.Dial.Connect
import Fauna.Lib.IpLiteral

/-!
# The loopback guard

`connect_to_invite_address` refuses an address whose endpoint begins with `127.` or `localhost:`,
as one that points to this computer. Which hosts are this computer by their text is another matter:
a literal of 127.0.0.0/8, a bracketed literal of ::1, and the name localhost in any letter case.

* `isLoopback_iff`: which hosts the guard refuses.
* `loopback_guard_exact_iff`: the hosts for which the guard is right.
* `loopback_guard_misses`: hosts for which it is not.
-/

namespace Fauna.Dial

open Fauna.Lib Fauna.Core Fauna.Wire Fauna.Desktop Fauna.Tor Fauna.Dial.Action

/-! ## Hosts -/

/-- The host of an endpoint: what stands before its last colon. -/
def endpointHost (endpoint : Text) : Text :=
  ((rsplitOnce ':' endpoint).map Prod.fst).getD endpoint

/-- What stands between brackets. -/
def bracketed : Text → Option Text
  | '[' :: rest => if rest.getLast? = some ']' then some rest.dropLast else none
  | _ => none

/-- A bracketed literal of ::1. One with a scope, such as `[::1%1]`, is not meant. -/
def Ipv6LoopbackHost (host : Text) : Prop :=
  (bracketed host >>= Ipv6.parse).any Ipv6.isLoopback = true

/-- The hosts that are this computer by their text. -/
def LoopbackHost (host : Text) : Prop :=
  (Ipv4.parse host).any Ipv4.isLoopback = true ∨ Ipv6LoopbackHost host ∨
    host.map Char.toLower = "localhost".toList

instance (host : Text) : Decidable (Ipv6LoopbackHost host) :=
  inferInstanceAs (Decidable (_ = true))

instance (host : Text) : Decidable (LoopbackHost host) :=
  inferInstanceAs (Decidable (_ ∨ _ ∨ _))

/-- The hosts for which the guard is right: a host that begins with `127.` is a literal, one that is
localhost in some letter case is so in lower case, and none is a literal of ::1 or begins with
`localhost:`. -/
structure GuardFits (host : Text) : Prop where
  literal : "127.".toList <+: host → (Ipv4.parse host).isSome = true
  lowerCase : host.map Char.toLower = "localhost".toList → host = "localhost".toList
  notIpv6 : ¬ Ipv6LoopbackHost host
  noColon : ¬ "localhost:".toList <+: host

/-- What the guard says of an endpoint. -/
def localMessage (endpoint : Text) : Text :=
  endpoint ++ (" sadece bu bilgisayari gosterir. Baska bilgisayarda kullanmak icin " ++
    "host tarafinda Tor modunu acip yeni davet olustur.").toList

/-- The address is refused, whatever the configuration is, as one that points to this computer. -/
def RefusesAsLocal (address endpoint : Text) : Prop :=
  ∀ rounds torSocksAddr events,
    connectToInviteAddress rounds address torSocksAddr events = bail (localMessage endpoint)

/-- The guard is exact at an address: it is refused so where its host is this computer, and only
there. -/
def GuardExact (address endpoint : Text) : Prop :=
  RefusesAsLocal address endpoint ↔ LoopbackHost (endpointHost endpoint)

/-! ## The guard -/

section Guard

variable {address endpoint host port : Text}

/-- An endpoint is refused as local exactly where the guard says so. -/
theorem refusesAsLocal_iff (honion : parseOnionAddress address = .ok none)
    (hnormal : Desktop.normalizeAddress address = .ok endpoint) :
    RefusesAsLocal address endpoint ↔ isLoopback endpoint = true := by
  have hconnect (rounds : ℕ) (torSocksAddr : Text) (events : Bool) :
      connectToInviteAddress rounds address torSocksAddr events =
        if isLoopback endpoint then bail (localMessage endpoint)
        else connect .direct endpoint (endpoint ++ " adresine baglanilamadi".toList) := by
    unfold connectToInviteAddress
    rw [honion]
    show (Routine.ofExcept (Desktop.normalizeAddress address) >>= _) = _
    rw [hnormal]
    rfl
  constructor
  · intro h
    have hrefused := h 0 [] false
    rw [hconnect] at hrefused
    split_ifs at hrefused with hlocal
    · exact hlocal
    · cases hrefused
  · intro hlocal rounds torSocksAddr events
    rw [hconnect, if_pos hlocal]

/-- An endpoint is a host and a port with a colon between them. -/
theorem exists_host (hnormal : Desktop.normalizeAddress address = .ok endpoint) :
    ∃ port, endpoint = endpointHost endpoint ++ ':' :: port ∧ ':' ∉ port := by
  have hcolon : ':' ∈ endpoint := by
    cases normalizeAddressWith_eq_ok_iff.1 hnormal with
    | multiaddr _ => exact List.mem_append_right _ List.mem_cons_self
    | hostPort _ hcolon => exact hcolon
  cases hsplit : rsplitOnce ':' endpoint with
  | none => exact absurd hcolon (rsplitOnce_eq_none_iff.1 hsplit)
  | some p =>
      obtain ⟨hendpoint, hport⟩ := rsplitOnce_eq_some_iff.1 hsplit
      refine ⟨p.2, ?_, hport⟩
      rw [endpointHost, hsplit]
      exact hendpoint

/-- The guard reads the host, but for a host that goes on after `localhost:`. -/
theorem isLoopback_iff : isLoopback (host ++ ':' :: port) = true ↔
    "127.".toList <+: host ∨ host = "localhost".toList ∨ "localhost:".toList <+: host := by
  have hnumber : "127.".toList <+: host ++ ':' :: port ↔ "127.".toList <+: host :=
    isPrefix_append_cons_iff (by decide)
  have hname : "localhost:".toList <+: host ++ ':' :: port ↔
      "localhost".toList = host ∨ "localhost:".toList <+: host :=
    concat_isPrefix_append_cons_iff (s := "localhost".toList) (by decide)
  rw [isLoopback, Bool.or_eq_true, List.isPrefixOf_iff_prefix, List.isPrefixOf_iff_prefix,
    hnumber, hname, eq_comm (a := host)]

end Guard

/-! ## The hosts -/

section Host

variable {host : Text}

/-- The first number of a literal is 127 exactly where the literal begins with `127.`. -/
theorem ipv4_isLoopback_iff :
    (Ipv4.parse host).any Ipv4.isLoopback = true ↔
      "127.".toList <+: host ∧ (Ipv4.parse host).isSome = true := by
  cases hparse : Ipv4.parse host with
  | none => simp
  | some ip =>
      have hfirst := Ipv4.parse_eq_some hparse
      have hdigits : '.' ∉ decimal ip.first.toNat := fun hdot =>
        absurd (isDigit_of_mem_decimal hdot) (by decide)
      obtain ⟨rest, hhost⟩ := hfirst
      have hstart : "127.".toList <+: host ↔ "127".toList = decimal ip.first.toNat ∨
          "127.".toList <+: decimal ip.first.toNat := by
        rw [← hhost, List.append_assoc]
        exact concat_isPrefix_append_cons_iff (s := "127".toList) (by decide)
      have hnot : ¬ "127.".toList <+: decimal ip.first.toNat := fun h =>
        hdigits (h.subset (by decide))
      simp only [Option.any_some, Option.isSome_some, and_true, hstart, hnot, or_false,
        Ipv4.isLoopback, beq_iff_eq]
      constructor
      · intro hip
        rw [hip]
        decide
      · intro hip
        have hvalue : Nat.ofDigitChars 10 (decimal ip.first.toNat) 0 = ip.first.toNat :=
          Nat.ofDigitChars_ten_toDigits
        rw [← hip] at hvalue
        exact UInt8.toNat_inj.1 hvalue.symm

/-- The first character of a bracketed literal. -/
theorem Ipv6LoopbackHost.head {c : Char} (h : Ipv6LoopbackHost (c :: host)) : c = '[' := by
  by_contra hc
  simp [Ipv6LoopbackHost, bracketed, hc] at h

/-- What begins with `127.` is no literal of version 6 and no name. -/
theorem not_name_of_number (h : "127.".toList <+: host) :
    ¬ Ipv6LoopbackHost host ∧ host.map Char.toLower ≠ "localhost".toList := by
  obtain ⟨rest, rfl⟩ := h
  constructor
  · exact fun hipv6 => absurd hipv6.head (by decide)
  · exact fun hname => absurd (List.cons.inj hname).1 (by decide)

/-- What begins with `127.` is this computer only as a literal of version 4. -/
theorem loopbackHost_of_number (h : "127.".toList <+: host) :
    LoopbackHost host ↔ (Ipv4.parse host).isSome = true := by
  obtain ⟨hipv6, hname⟩ := not_name_of_number h
  rw [LoopbackHost, ipv4_isLoopback_iff, and_iff_right h, or_iff_left (not_or.2 ⟨hipv6, hname⟩)]

/-- Any other host is this computer only as a literal of version 6 or by its name. -/
theorem loopbackHost_of_not_number (h : ¬ "127.".toList <+: host) :
    LoopbackHost host ↔ Ipv6LoopbackHost host ∨ host.map Char.toLower = "localhost".toList := by
  rw [LoopbackHost, or_iff_right]
  exact fun hipv4 => h (ipv4_isLoopback_iff.1 hipv4).1

/-- No host begins both with `127.` and with `localhost`. -/
theorem not_number_of_name (h : "localhost".toList <+: host) : ¬ "127.".toList <+: host := by
  rintro ⟨rest, rfl⟩
  obtain ⟨rest', h⟩ := h
  exact absurd (List.cons.inj h).1 (by decide)

/-- A host that begins with `localhost:` begins with `localhost`. -/
theorem name_of_colon (h : "localhost:".toList <+: host) : "localhost".toList <+: host :=
  (List.prefix_append "localhost".toList [':']).trans h

/-- A host that goes on after `localhost:` is not this computer. -/
theorem not_loopbackHost_of_colon (h : "localhost:".toList <+: host) : ¬ LoopbackHost host := by
  rw [loopbackHost_of_not_number (not_number_of_name (name_of_colon h))]
  obtain ⟨rest, rfl⟩ := h
  rintro (hipv6 | hlower)
  · exact absurd hipv6.head (by decide)
  · have hlength := congrArg List.length hlower
    rw [List.length_map, List.length_append] at hlength
    have hten : "localhost:".toList.length = 10 := by decide
    have hnine : "localhost".toList.length = 9 := by decide
    omega

/-- The guard refuses the hosts that are this computer and no others, exactly where it fits. -/
theorem guard_iff_loopbackHost :
    (("127.".toList <+: host ∨ host = "localhost".toList ∨ "localhost:".toList <+: host) ↔
      LoopbackHost host) ↔ GuardFits host := by
  by_cases hnumber : "127.".toList <+: host
  · rw [loopbackHost_of_number hnumber]
    obtain ⟨hipv6, hname⟩ := not_name_of_number hnumber
    constructor
    · intro h
      exact {
        literal := fun _ => h.1 (Or.inl hnumber)
        lowerCase := fun hlower => absurd hlower hname
        notIpv6 := hipv6
        noColon := fun hcolon => not_number_of_name (name_of_colon hcolon) hnumber }
    · intro h
      exact ⟨fun _ => h.literal hnumber, fun _ => Or.inl hnumber⟩
  by_cases hcolon : "localhost:".toList <+: host
  · constructor
    · exact fun h => absurd (h.1 (Or.inr (Or.inr hcolon))) (not_loopbackHost_of_colon hcolon)
    · exact fun h => absurd hcolon h.noColon
  · rw [loopbackHost_of_not_number hnumber, or_iff_right hnumber, or_iff_left hcolon]
    constructor
    · intro h
      refine ⟨fun h => absurd h hnumber, fun hlower => h.2 (Or.inr hlower), ?_, hcolon⟩
      intro hipv6
      obtain rfl := h.2 (Or.inl hipv6)
      exact absurd hipv6.head (by decide)
    · intro h
      constructor
      · rintro rfl
        exact Or.inr (by decide)
      · rintro (hipv6 | hlower)
        · exact absurd hipv6 h.notIpv6
        · exact h.lowerCase hlower

end Host

/-! ## The result -/

/-- For every address that is not read as an onion address and that the normalizer takes: the guard
is exact, that is, the address is refused as one that points to this computer where its host is
this computer and only there, exactly where a host that begins with `127.` is a literal, one that is
localhost but for the letter case is so in lower case, and the host is no literal of ::1 and does
not begin with `localhost:`. -/
theorem loopback_guard_exact_iff {address endpoint : Text}
    (honion : parseOnionAddress address = .ok none)
    (hnormal : Desktop.normalizeAddress address = .ok endpoint) :
    GuardExact address endpoint ↔ GuardFits (endpointHost endpoint) := by
  obtain ⟨port, hendpoint, -⟩ := exists_host hnormal
  have hlocal : isLoopback (endpointHost endpoint ++ ':' :: port) = true ↔ _ := isLoopback_iff
  rw [← hendpoint] at hlocal
  rw [GuardExact, refusesAsLocal_iff honion hnormal, hlocal]
  exact guard_iff_loopbackHost

/-- The guard is right about a literal. -/
theorem loopback_guard_exact_iff_literal :
    GuardExact "/ip4/127.0.0.1/tcp/45123".toList "127.0.0.1:45123".toList ↔
      GuardFits "127.0.0.1".toList :=
  loopback_guard_exact_iff (by decide) (by decide)

/-- An address that the guard gets wrong, by its own test and by what its host is. -/
theorem not_guardExact {address : Text} (honion : parseOnionAddress address = .ok none)
    (hnormal : Desktop.normalizeAddress address = .ok address)
    (h : ¬ (isLoopback address = true ↔ LoopbackHost (endpointHost address))) :
    ¬ GuardExact address address := by
  rwa [GuardExact, refusesAsLocal_iff honion hnormal]

/-- The guard dials a literal of ::1 and localhost in another letter case, and refuses a name that
begins with `127.`. -/
theorem loopback_guard_misses :
    ¬ GuardExact "[::1]:45123".toList "[::1]:45123".toList ∧
      ¬ GuardExact "LOCALHOST:45123".toList "LOCALHOST:45123".toList ∧
      ¬ GuardExact "127.example.com:45123".toList "127.example.com:45123".toList := by
  refine ⟨?_, ?_, ?_⟩
  · exact not_guardExact (by decide) (by decide) (by decide)
  · exact not_guardExact (by decide) (by decide) (by decide)
  · exact not_guardExact (by decide) (by decide) (by decide)

end Fauna.Dial
