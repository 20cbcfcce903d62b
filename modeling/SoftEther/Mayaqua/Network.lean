import SoftEther.Mayaqua.Memory
import SoftEther.Mayaqua.Number
import SoftEther.Mayaqua.Token

/-!
# Addresses

IP addresses of `Network.c`, and the functions of `Str.c` that read bytes written in
hexadecimal digits.  An `IP` holds an IPv6 address when its IPv4 part is 223.255.255.254.
Strings are lists of their bytes; numbers lie in memory with the low byte first.
-/

namespace SoftEther
namespace Network

abbrev Ipv6Addr := ByteArrayOf 16

structure Ip where
  addr : ByteArrayOf 4
  ipv6Addr : Ipv6Addr := ⟨List.replicate 16 0, length_zeros16⟩
  ipv6ScopeId : UInt32 := 0
  deriving DecidableEq

def markerOfIPv6 : ByteArrayOf 4 :=
  ⟨[223, 255, 255, 254], rfl⟩

/-- `SetIP6`, which is also `IPv6AddrToIP`. -/
def setIP6 (value : Ipv6Addr) : Ip where
  addr := markerOfIPv6
  ipv6Addr := value

def isIP6 (ip : Ip) : Bool :=
  ip.addr = markerOfIPv6

/-- The four bytes of a `UINT`. -/
def bytesOfUINT (value : UInt32) : ByteArrayOf 4 :=
  ⟨[UInt8.ofNat value.toNat, UInt8.ofNat (value.toNat / 256),
    UInt8.ofNat (value.toNat / 65536), UInt8.ofNat (value.toNat / 16777216)], rfl⟩

def uintToIP (value : UInt32) : Ip where
  addr := bytesOfUINT value

def ipToUINT (ip : Ip) : UInt32 :=
  UInt32.ofNat (ip.addr.val.foldr (fun byte value => byte.toNat + 256 * value) 0)

theorem length_addressPart (ip : Ip) : (ip.addr.val ++ ip.ipv6Addr.val).length = 20 := by
  rw [List.length_append, ip.addr.property, ip.ipv6Addr.property]

/-- The first `SIZE_OF_IP_FOR_ADDR` bytes of an `IP`. -/
def addressPart (ip : Ip) : ByteArrayOf 20 :=
  ⟨ip.addr.val ++ ip.ipv6Addr.val, length_addressPart ip⟩

def cmpIpAddr (ip1 ip2 : Ip) : Ordering :=
  compareBytes (addressPart ip1) (addressPart ip2)

/-- A hexadecimal digit after `ToUpper`. -/
def isHexUpper (char : UInt8) : Bool :=
  48 ≤ char ∧ char ≤ 57 ∨ 65 ≤ char ∧ char ≤ 70

/-- The loop of `StrToBin`, with the digit that waits for another one. -/
def strToBinLoop : Option UInt8 → List UInt8 → List UInt8
  | _, [] => []
  | waiting, char :: rest =>
      let c := toUpper char
      if isHexUpper c then
        match waiting with
        | none => strToBinLoop (some c) rest
        | some first => UInt8.ofNat (strtoul [48, 120, first, c]) :: strToBinLoop none rest
      else if c = 32 ∨ c = 44 ∨ c = 45 ∨ c = 58 then strToBinLoop waiting rest
      else []

def strToBin (str : List UInt8) : List UInt8 :=
  strToBinLoop none str

def strToMac (str : List UInt8) : Option MacAddress :=
  if size : (strToBin str).length = 6 then some ⟨strToBin str, size⟩ else none

/-- The bytes of a number make the number. -/
theorem ipToUINT_uintToIP (value : UInt32) : ipToUINT (uintToIP value) = value := by
  apply UInt32.toNat_inj.mp
  have bound := value.toNat_lt
  simp only [ipToUINT, uintToIP, bytesOfUINT, List.foldr_cons, List.foldr_nil,
    UInt32.toNat_ofNat', UInt8.toNat_ofNat']
  omega

theorem bytesOfUINT_ipToUINT (ip : Ip) : bytesOfUINT (ipToUINT ip) = ip.addr := by
  unfold ipToUINT
  obtain ⟨octets, size⟩ := ip.addr
  obtain ⟨a, b, c, d, rfl⟩ := List.length_eq_four.mp size
  apply Subtype.ext
  have smallA := a.toNat_lt
  have smallB := b.toNat_lt
  have smallC := c.toNat_lt
  have smallD := d.toNat_lt
  simp only [bytesOfUINT, List.foldr_cons, List.foldr_nil, UInt32.toNat_ofNat',
    List.cons.injEq, and_true, ← UInt8.toNat_inj, UInt8.toNat_ofNat']
  omega

end Network
end SoftEther
