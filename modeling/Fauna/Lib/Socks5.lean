import Fauna.Lib.Utf8

/-!
# The messages of SOCKS version 5

What RFC 1928 says of a client that offers no authentication and asks for a connection to a domain
name: the request as its receiver reads it, and the reply that grants it. A reply ends with the
address that was bound, whose length depends on its type.

* `decodeRequest_eq`: the request for a name of at most 255 bytes is read back.
* `Granted.unique`: where a stream begins with a granting reply, it begins with one only.
-/

namespace Fauna.Lib.Socks5

/-- The greeting: version 5, one method, and the method is to authenticate not at all. -/
def greeting : Bytes := [5, 1, 0]

/-- The choice of that method. -/
def noAuthentication : Bytes := [5, 0]

/-- `u16::to_be_bytes`. -/
def beBytes (n : UInt16) : Bytes := [.ofNat (n.toNat / 256), .ofNat (n.toNat % 256)]

/-- The domain name and the port of a CONNECT request. -/
def decodeRequest : Bytes → Option (Text × UInt16)
  | 5 :: 1 :: 0 :: 3 :: length :: rest =>
      match rest.drop length.toNat with
      | [high, low] => (utf8Decode (rest.take length.toNat)).map fun host =>
          (host, .ofNat (high.toNat * 256 + low.toNat))
      | _ => none
  | _ => none

/-- The address and port that were bound, after the byte that gives the type of the address: four
bytes, a name with its length, or sixteen bytes, and a port of two. -/
inductive Bound : UInt8 → Bytes → Prop
  | ipv4 {bytes : Bytes} (h : bytes.length = 6) : Bound 1 bytes
  | domainName {length : UInt8} {bytes : Bytes} (h : bytes.length = length.toNat + 2) :
      Bound 3 (length :: bytes)
  | ipv6 {bytes : Bytes} (h : bytes.length = 18) : Bound 4 bytes

/-- A reply that grants the connection. -/
def Granted (reply : Bytes) : Prop :=
  ∃ reserved addressType bound, reply = 5 :: 0 :: reserved :: addressType :: bound ∧
    Bound addressType bound

/-- A request decodes to the host and port it was made for. -/
theorem decodeRequest_eq {host : Text} (h : (utf8Encode host).length ≤ 255) (port : UInt16) :
    decodeRequest ([5, 1, 0, 3, .ofNat (utf8Encode host).length] ++ utf8Encode host ++
      beBytes port) = some (host, port) := by
  have hlength : (UInt8.ofNat (utf8Encode host).length).toNat = (utf8Encode host).length :=
    UInt8.toNat_ofNat_of_lt' (Nat.lt_succ_of_le h)
  have hhigh : (UInt8.ofNat (port.toNat / 256)).toNat = port.toNat / 256 :=
    UInt8.toNat_ofNat_of_lt' (by have := port.toNat_lt; simp [UInt8.size]; omega)
  have hlow : (UInt8.ofNat (port.toNat % 256)).toNat = port.toNat % 256 :=
    UInt8.toNat_ofNat_of_lt' (Nat.mod_lt _ (by decide))
  have hport : UInt16.ofNat (port.toNat / 256 * 256 + port.toNat % 256) = port := by
    rw [Nat.mul_comm, Nat.div_add_mod, UInt16.ofNat_toNat]
  simp [decodeRequest, beBytes, hlength, hhigh, hlow, hport, utf8Decode_utf8Encode]

/-- No bound address is the beginning of another. -/
theorem Bound.append_inj {addressType : UInt8} {bound bound' rest rest' : Bytes}
    (hbound : Bound addressType bound) (hbound' : Bound addressType bound')
    (h : bound ++ rest = bound' ++ rest') : bound = bound' ∧ rest = rest' := by
  cases hbound with
  | ipv4 hlength =>
      cases hbound' with
      | ipv4 hlength' => exact List.append_inj h (hlength.trans hlength'.symm)
  | domainName hlength =>
      cases hbound' with
      | domainName hlength' =>
          rw [List.cons_append, List.cons_append] at h
          obtain ⟨rfl, hrest⟩ := List.cons.inj h
          obtain ⟨rfl, rfl⟩ := List.append_inj hrest (hlength.trans hlength'.symm)
          exact ⟨rfl, rfl⟩
  | ipv6 hlength =>
      cases hbound' with
      | ipv6 hlength' => exact List.append_inj h (hlength.trans hlength'.symm)

/-- A stream begins with at most one granting reply. -/
theorem Granted.unique {reply reply' rest rest' : Bytes} (hreply : Granted reply)
    (hreply' : Granted reply') (h : reply ++ rest = reply' ++ rest') :
    reply = reply' ∧ rest = rest' := by
  obtain ⟨reserved, addressType, bound, rfl, hbound⟩ := hreply
  obtain ⟨reserved', addressType', bound', rfl, hbound'⟩ := hreply'
  simp only [List.cons_append, List.cons.injEq, true_and] at h
  obtain ⟨rfl, rfl, h⟩ := h
  obtain ⟨rfl, rfl⟩ := hbound.append_inj hbound' h
  exact ⟨rfl, rfl⟩

end Fauna.Lib.Socks5
