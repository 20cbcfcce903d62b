import SoftEther.Mayaqua.Buf
import SoftEther.Mayaqua.KeyedList
import SoftEther.Mayaqua.StrCmpi
import SoftEther.Mayaqua.TcpIp.Packet

/-!
# The virtual layer-3 switch

The routing table, the interfaces and the tables of an interface.  An IPv4 address is the
`UINT` that lies in memory.  The list of IP packets that wait has no comparison function, so it
is a plain list; a queue is the list of its items, the first one first.  Ticks are milliseconds
in 64 bits, which do not wrap around: they are natural numbers.
-/

namespace SoftEther
namespace Layer3

open TcpIp

def MAX_HUBNAME_LEN : Nat := 255

def ARP_ENTRY_EXPIRES : Nat := 30000

def ARP_ENTRY_POLLING_TIME : Nat := 1000

def ARP_REQUEST_TIMEOUT : Nat := 1000

def ARP_REQUEST_GIVEUP : Nat := 5000

def IP_WAIT_FOR_ARP_TIMEOUT : Nat := 5000

def BEACON_SEND_INTERVAL : Nat := 5000

/-- The address with all bits set. -/
def allOnes : UInt32 := 0xffffffff

structure L3Table where
  networkAddress : UInt32
  subnetMask : UInt32
  gatewayAddress : UInt32
  metric : UInt32
  deriving DecidableEq

def cmpL3Table : L3Table → L3Table → Ordering :=
  compareLex (compareOn L3Table.networkAddress) <|
    compareLex (compareOn L3Table.subnetMask) <|
      compareLex (compareOn L3Table.gatewayAddress) (compareOn L3Table.metric)

instance : Std.TransCmp cmpL3Table :=
  inferInstanceAs (Std.TransCmp (compareLex _ _))

instance : Std.LawfulEqCmp cmpL3Table where
  eq_of_compare := by
    intro left right same
    simp only [cmpL3Table, compareLex_eq_eq] at same
    obtain ⟨network, mask, gateway, metric⟩ := same
    cases left
    cases right
    rw [L3Table.mk.injEq]
    exact ⟨Std.LawfulEqCmp.eq_of_compare network, Std.LawfulEqCmp.eq_of_compare mask,
      Std.LawfulEqCmp.eq_of_compare gateway, Std.LawfulEqCmp.eq_of_compare metric⟩

structure L3ArpEntry where
  ipAddress : UInt32
  macAddress : MacAddress
  expire : Nat
  deriving DecidableEq

structure L3ArpWait where
  ipAddress : UInt32
  lastSentTime : Nat := 0
  expire : Nat
  deriving DecidableEq

structure L3Packet where
  packet : Pkt
  expire : Nat
  nextHopIp : UInt32
  deriving DecidableEq

/-- The order of `ArpTable`: `CmpL3ArpEntry`. -/
abbrev ArpTable := KeyedList L3ArpEntry.ipAddress compare

/-- The order of `ArpWaitTable`: `CmpL3ArpWaitTable`. -/
abbrev ArpWaitTable := KeyedList L3ArpWait.ipAddress compare

/-- `L3IF`.  The lists are empty before `L3InitInterface` creates them. -/
structure L3If where
  hubName : CString
  ipAddress : UInt32
  subnetMask : UInt32
  macAddress : MacAddress
  arpTable : ArpTable := .empty
  arpWaitTable : ArpWaitTable := .empty
  ipPacketQueue : List L3Packet := []
  ipWaitList : List L3Packet := []
  sendQueue : List (List UInt8) := []
  lastDeleteOldArpTable : Nat := 0
  lastBeaconSent : Nat := 0
  deriving DecidableEq

structure L3Sw where
  active : Bool := false
  /-- `IfList`, in the order of `CmpL3If`. -/
  ifList : KeyedList L3If.hubName strCmpi := .empty
  /-- `TableList`, in the order of `CmpL3Table`. -/
  tableList : KeyedList id cmpL3Table := .empty
  deriving DecidableEq

end Layer3
end SoftEther
