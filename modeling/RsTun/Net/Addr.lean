/-
**Network addresses, as the standard library stores them.**

`Ipv4Addr` and `Ipv6Addr` are their octets in network order; a value with the wrong number of octets
cannot be built. `u32::from` / `u128::from` and back are the big-endian value of the octets
(`toNat`, `ofNat`), inverse to each other on numbers that fit.
-/

import RsTun.Library.Bytes

namespace RsTun

open Library

/-- `[u8; size]`, the octets of an address. -/
structure Octets (size : Nat) where
  bytes : Bytes
  length_eq : bytes.length = size
  deriving DecidableEq

namespace Octets

variable {size : Nat}

theorem ext {first second : Octets size} (same : first.bytes = second.bytes) : first = second := by
  obtain ⟨bytes, length_eq⟩ := first
  obtain ⟨bytes', length_eq'⟩ := second
  cases same
  rfl

/-- `u32::from(addr)` and `u128::from(addr)`. -/
def toNat (addr : Octets size) : Nat := Bytes.value addr.bytes

/-- `Ipv4Addr::from(bits)` and `Ipv6Addr::from(bits)`. -/
def ofNat (size bits : Nat) : Octets size := ⟨Bytes.encode size bits, Bytes.length_encode size bits⟩

/-- `Ipv4Addr::from([raw[start], ..])` and `Ipv6Addr::from` of the octets at an offset; zero octets
stand for what is past the end, where the source would have panicked. -/
def ofSlice (size : Nat) (raw : Bytes) (start : Nat) : Octets size :=
  ⟨(List.range size).map fun index => Bytes.byteAt raw (start + index), by simp⟩

theorem toNat_lt (addr : Octets size) : addr.toNat < 256 ^ size := by
  have bound := Bytes.value_lt addr.bytes
  rwa [addr.length_eq] at bound

theorem toNat_ofNat (bits : Nat) : (ofNat size bits).toNat = bits % 256 ^ size :=
  Bytes.value_encode size bits

theorem toNat_injective {first second : Octets size} (same : first.toNat = second.toNat) :
    first = second :=
  ext (Bytes.value_injective (first.length_eq.trans second.length_eq.symm) same)

/-- The octets of an address read from a packet are the bytes of the packet. -/
theorem ofSlice_bytes {raw : Bytes} {start : Nat} (fits : start + size ≤ raw.length) :
    (ofSlice size raw start).bytes = Bytes.slice raw start size := by
  apply List.ext_getElem?
  intro index
  rw [Bytes.getElem?_slice]
  by_cases inside : index < size
  · rw [if_pos inside]
    simp only [ofSlice, List.getElem?_map, Bytes.byteAt, List.getD_eq_getElem?_getD]
    rw [List.getElem?_range inside, Option.map_some,
      List.getElem?_eq_getElem (show start + index < raw.length by omega), Option.getD_some]
  · rw [if_neg inside, List.getElem?_eq_none]
    rw [(ofSlice size raw start).length_eq]
    omega

/-- The octets of an address that was written are read back. -/
theorem slice_overwrite {data : Bytes} {start : Nat} (addr : Octets size)
    (fits : start + addr.bytes.length ≤ data.length) :
    Bytes.slice (Bytes.overwrite data start addr.bytes) start size = addr.bytes := by
  have written := Bytes.slice_overwrite_self fits
  rwa [addr.length_eq] at written

end Octets

/-- `std::net::Ipv4Addr`. -/
abbrev Ipv4Addr := Octets 4

/-- `Ipv4Addr::new`. -/
def Ipv4Addr.new (a b c d : UInt8) : Ipv4Addr := ⟨[a, b, c, d], rfl⟩

/-- `std::net::Ipv6Addr`. -/
abbrev Ipv6Addr := Octets 16

/-- `std::net::IpAddr`. -/
inductive IpAddr where
  | v4 (ip : Ipv4Addr)
  | v6 (ip : Ipv6Addr)
  deriving DecidableEq

/-- `std::net::SocketAddr`. -/
inductive SocketAddr where
  | v4 (ip : Ipv4Addr) (port : UInt16)
  | v6 (ip : Ipv6Addr) (port : UInt16) (flowinfo scopeId : UInt32)
  deriving DecidableEq

/-- `SocketAddr::port`. -/
def SocketAddr.port : SocketAddr → UInt16
  | .v4 _ port => port
  | .v6 _ port _ _ => port

end RsTun
