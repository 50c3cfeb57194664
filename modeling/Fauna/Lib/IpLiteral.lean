import Fauna.Lib.Cut
import Fauna.Lib.JsonText

/-!
# Literals of internet addresses

The texts of the addresses of both versions. One of version 4 is four decimal numbers below 256 with
dots between them, none with a leading zero. One of version 6 is eight groups of up to four
hexadecimal digits with colons between them; once a run of zero groups may be left out, and the last
two groups may be written as an address of version 4.

* `Ipv4.parse_eq_some`: how a text of version 4 begins.
-/

namespace Fauna.Lib

/-- An address of version 4. -/
structure Ipv4 where
  first : UInt8
  second : UInt8
  third : UInt8
  fourth : UInt8
  deriving DecidableEq

/-- An address of version 6, by its groups. -/
abbrev Ipv6 := { groups : List ℕ // groups.length = 8 }

/-- A decimal number below 256, without a leading zero. -/
def octet (t : Text) : Option UInt8 :=
  let n := Nat.ofDigitChars 10 t 0
  if decimal n = t ∧ n < 256 then some (.ofNat n) else none

/-- A text of version 4. -/
def Ipv4.parse (t : Text) : Option Ipv4 :=
  match t.splitOn '.' with
  | [a, b, c, d] => do return ⟨← octet a, ← octet b, ← octet c, ← octet d⟩
  | _ => none

/-- One to four hexadecimal digits. -/
def hexGroup (t : Text) : Option ℕ :=
  match t.mapM hexValue with
  | some (d :: ds) => if ds.length < 4 then some (ds.foldl (fun n d => 16 * n + d) d) else none
  | _ => none

/-- Groups, the last two of which may be an address of version 4 if `dotted`. -/
def hexGroups (dotted : Bool) : List Text → Option (List ℕ)
  | [] => some []
  | [t] =>
      match hexGroup t with
      | some n => some [n]
      | none =>
          if dotted then (Ipv4.parse t).map fun ip =>
            [256 * ip.first.toNat + ip.second.toNat, 256 * ip.third.toNat + ip.fourth.toNat]
          else none
  | t :: ts => do return (← hexGroup t) :: (← hexGroups dotted ts)

/-- Groups with colons between them, or nothing. -/
def splitGroups (dotted : Bool) (t : Text) : Option (List ℕ) :=
  if t = [] then some [] else hexGroups dotted (t.splitOn ':')

/-- A text of version 6. -/
def Ipv6.parse (t : Text) : Option Ipv6 :=
  match splitOnce "::".toList t with
  | none => do
      let groups ← splitGroups true t
      if h : groups.length = 8 then return ⟨groups, h⟩ else none
  | some (start, rest) => do
      let start ← splitGroups false start
      let rest ← splitGroups true rest
      if h : start.length + rest.length < 8 then
        return ⟨start ++ List.replicate (8 - start.length - rest.length) 0 ++ rest, by
          simp only [List.length_append, List.length_replicate]
          omega⟩
      else none

/-- The addresses of version 4 that are this computer: 127.0.0.0/8. -/
def Ipv4.isLoopback (ip : Ipv4) : Bool := ip.first == 127

/-- The address of version 6 that is this computer: ::1. -/
def Ipv6.isLoopback (ip : Ipv6) : Bool := ip.1 == [0, 0, 0, 0, 0, 0, 0, 1]

example : Ipv6.parse "::1".toList = Ipv6.parse "0:0::0.0.0.1".toList := by decide

/-- An octet is the decimal number of its value. -/
theorem octet_eq_some {t : Text} {n : UInt8} (h : octet t = some n) : t = decimal n.toNat := by
  unfold octet at h
  extract_lets m at h
  split_ifs at h with hm
  obtain rfl := Option.some.inj h
  rw [UInt8.toNat_ofNat', Nat.mod_eq_of_lt hm.2, hm.1]

/-- A text of version 4 begins with its first number and a dot. -/
theorem Ipv4.parse_eq_some {t : Text} {ip : Ipv4} (h : Ipv4.parse t = some ip) :
    decimal ip.first.toNat ++ ['.'] <+: t := by
  unfold Ipv4.parse at h
  split at h
  · next a b c d hsplit =>
    obtain ⟨first, hfirst, h⟩ := Option.bind_eq_some_iff.1 h
    obtain ⟨second, hsecond, h⟩ := Option.bind_eq_some_iff.1 h
    obtain ⟨third, hthird, h⟩ := Option.bind_eq_some_iff.1 h
    obtain ⟨fourth, hfourth, h⟩ := Option.bind_eq_some_iff.1 h
    obtain rfl := Option.some.inj h
    have ht : ['.'].intercalate [a, b, c, d] = t := hsplit ▸ List.intercalate_splitOn '.'
    rw [← ht, ← octet_eq_some hfirst]
    exact ⟨b ++ '.' :: (c ++ '.' :: d), by simp [List.intercalate]⟩
  · cases h

end Fauna.Lib
