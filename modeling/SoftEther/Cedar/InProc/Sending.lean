import Mathlib.Data.List.GetD
import SoftEther.Cedar.InProc.Defs
import SoftEther.Library.KeyedTables
import SoftEther.Library.NextHops

/-!
# What the in-process client sends

The ARP table is a table of next hops: a packet that `IPCSendIPv4` takes is accepted, a MAC
address that `IPCAssociateOnArpTable` takes is learnt, and an entry that is too old is
forgotten.  The unicast IPv4 frames in the tube are what such a table delivers.
-/

namespace SoftEther
namespace InProc

open Library Network TcpIp

def ipv4Frame (macAddress destMacAddr : MacAddress) (data : List UInt8) : List UInt8 :=
  destMacAddr.val ++ macAddress.val ++ bigEndian 2 MAC_PROTO_IPV4 ++ data

/-- A frame with an IPv4 packet for a unicast MAC address. -/
def isUnicastIPv4 (frame : List UInt8) : Bool :=
  ushortAt frame 12 = MAC_PROTO_IPV4 ∧ frame.getD 0 0 &&& 1 = 0

theorem ushortAt_frame
    (destMacAddr macAddress : MacAddress)
    {protocol : Nat}
    (small : protocol < 65536)
    (data : List UInt8) :
    ushortAt (destMacAddr.val ++ macAddress.val ++ bigEndian 2 protocol ++ data) 12 =
      protocol := by
  have front : (destMacAddr.val ++ macAddress.val).length = 12 := by
    rw [List.length_append, destMacAddr.property, macAddress.property]
  have middle := bytesAt_middle (destMacAddr.val ++ macAddress.val) (bigEndian 2 protocol) data
  rw [front, length_bigEndian, ← List.append_assoc] at middle
  rw [ushortAt, middle, fromBigEndian_bigEndian]
  exact small

theorem getD_frame
    (destMacAddr : MacAddress)
    (rest : List UInt8) :
    (destMacAddr.val ++ rest).getD 0 0 = destMacAddr.val.getD 0 0 := by
  apply List.getD_append
  rw [destMacAddr.property]
  decide

theorem isUnicastIPv4_ipv4Frame
    (macAddress destMacAddr : MacAddress)
    (data : List UInt8) :
    isUnicastIPv4 (ipv4Frame macAddress destMacAddr data) =
      decide (destMacAddr.val.getD 0 0 &&& 1 = 0) := by
  have protocol : ushortAt (ipv4Frame macAddress destMacAddr data) 12 = MAC_PROTO_IPV4 :=
    ushortAt_frame destMacAddr macAddress (by decide) data
  have first : (ipv4Frame macAddress destMacAddr data).getD 0 0 = destMacAddr.val.getD 0 0 := by
    rw [ipv4Frame, List.append_assoc, List.append_assoc, getD_frame]
  rw [isUnicastIPv4, protocol, first]
  simp

theorem isUnicastIPv4_arp
    (destMacAddr macAddress : MacAddress)
    (data : List UInt8) :
    isUnicastIPv4 (destMacAddr.val ++ macAddress.val ++ bigEndian 2 MAC_PROTO_ARPV4 ++ data) =
      false := by
  have protocol := ushortAt_frame destMacAddr macAddress
    (by decide : MAC_PROTO_ARPV4 < 65536) data
  rw [isUnicastIPv4, protocol]
  exact decide_eq_false fun both => absurd both.1 (by decide)

theorem isUnicastIPv4_of_valid
    {destMacAddr : MacAddress}
    (valid : isValidUnicastMacAddress destMacAddr = true)
    (macAddress : MacAddress)
    (data : List UInt8) :
    isUnicastIPv4 (ipv4Frame macAddress destMacAddr data) = true := by
  rw [isUnicastIPv4_ipv4Frame]
  exact decide_eq_true (of_decide_eq_true valid).1

/-- What happens to a table of MAC addresses. -/
abbrev HopHappening := Happening (ByteArrayOf 20) MacAddress (List UInt8)

/-- What comes to a table of MAC addresses. -/
abbrev HopInput := Input (ByteArrayOf 20) MacAddress (List UInt8)

/-- A table of MAC addresses, and what has happened to it. -/
abbrev HopRecord := HopTable (ByteArrayOf 20) MacAddress (List UInt8)

def frameOf (macAddress : MacAddress) : HopHappening → Option (List UInt8)
  | .deliver _ link packet => some (ipv4Frame macAddress link packet)
  | _ => none

/-- The frames that have gone out, the first one first. -/
def framesOf (macAddress : MacAddress) (history : List HopHappening) : List (List UInt8) :=
  history.reverse.filterMap (frameOf macAddress)

section

variable (ipc : Ipc)

/-- A MAC address is learnt when the IPC takes it. -/
def learnInputs (ip : Ip) (macAddress : MacAddress) : List HopInput :=
  if isLearnable ipc ip macAddress then [.learn (addressPart ip) macAddress] else []

/-- What an ARP packet says about the sender and about the target. -/
def arpInputs (b : List UInt8) : List HopInput :=
  if b.length < 14 + 28 ∨ ushortAt b 14 ≠ ARP_HARDWARE_TYPE_ETHERNET ∨
      ushortAt b 16 ≠ MAC_PROTO_IPV4 ∨ (b.getD 18 0 ≠ 6 ∨ b.getD 19 0 ≠ 4) ∨
      cmpIpAddr (uintToIP (uintAt b 28)) ipc.clientIPAddress = .eq then []
  else
    learnInputs ipc (uintToIP (uintAt b 28)) (bytesAt b 22 6) ++
      learnInputs ipc (uintToIP (uintAt b 38)) (bytesAt b 32 6)

/-- What an IPv4 packet says about its source. -/
def ipv4Inputs (b : List UInt8) : List HopInput :=
  if b.length < 14 + 20 then []
  else if isReceived ipc (uintToIP (uintAt (b.drop 14) 16)) then
    learnInputs ipc (uintToIP (uintAt (b.drop 14) 12)) (bytesAt b 6 6)
  else []

def frameInputs (b : List UInt8) : List HopInput :=
  if b.length < 14 ∨ isForMe ipc b = false then []
  else if ushortAt b 12 = MAC_PROTO_ARPV4 then arpInputs ipc b
  else if ushortAt b 12 = MAC_PROTO_IPV4 then ipv4Inputs ipc b
  else []

/-- The entries that are too old are forgotten. -/
def forgetInputs (now : UInt64) : List HopInput :=
  (ipc.arpTable.items.filter (IpcArp.isOld now)).map fun a => .forget a.key

/-- A packet that is sent to a next hop is accepted. -/
def acceptInputs (data : List UInt8) : List HopInput :=
  match routeOf ipc data with
  | .unicast nextIP => [.accept (addressPart nextIP) data]
  | _ => []

/-- What an event brings to the table of next hops. -/
def inputs : Event → List HopInput
  | .setIPv4Parameters _ _ _ _ => []
  | .sendIPv4 _ data => acceptInputs ipc data
  | .processL3Events now received =>
      forgetInputs ipc now ++ received.flatMap fun b => frameInputs ipc b.frame
  | .flushArpTable now => forgetInputs ipc now

end

/-- The table of next hops after some events, the latest of them first. -/
def recordAfter (macAddress : MacAddress) : List Event → HopRecord
  | [] => .initial
  | event :: earlier =>
      (recordAfter macAddress earlier).handleAll IPC_MAX_PACKET_QUEUE_LEN
        (inputs (ipcAfter macAddress earlier) event)

/-! ## The table in memory -/

/-- The MAC address that an entry knows. -/
def IpcArp.link (a : IpcArp) : Option MacAddress :=
  if a.resolved then some a.macAddress else none

/-- Packets wait in an entry only as long as it is not resolved. -/
structure IpcArp.Sound (a : IpcArp) : Prop where
  sizes : ∀ data ∈ a.packetQueue, 20 ≤ data.length ∧ data.length ≤ 1500
  unicast : a.resolved = true → isValidUnicastMacAddress a.macAddress = true
  idle : a.resolved = true → a.packetQueue = []

/-- The IPC does what the table of next hops does. -/
structure Refines (ipc : Ipc) (record : HopRecord) : Prop where
  unique : UniqueKeys IpcArp.key ipc.arpTable.items
  present : ∀ a ∈ ipc.arpTable.items,
    record.link a.key = a.link ∧ record.waiting a.key = a.packetQueue
  absent : ∀ key, (∀ a ∈ ipc.arpTable.items, a.key ≠ key) →
    record.link key = none ∧ record.waiting key = []
  entries : ∀ a ∈ ipc.arpTable.items, a.Sound
  frames : ipc.sendTube.filter isUnicastIPv4 = framesOf ipc.macAddress record.history

theorem Refines.initial (macAddress : MacAddress) :
    Refines { macAddress := macAddress } .initial where
  unique := List.nodup_nil
  present _ listed := absurd listed List.not_mem_nil
  absent _ _ := ⟨rfl, rfl⟩
  entries _ listed := absurd listed List.not_mem_nil
  frames := rfl

section

variable {ipc : Ipc}
variable {record after : HopRecord}
variable {tube : List (List UInt8)}

/-- An entry is written, and the table of next hops changes at its hop. -/
theorem Refines.write
    (refines : Refines ipc record)
    {a new : IpcArp}
    (listed : a ∈ ipc.arpTable.items)
    (sameKey : new.key = a.key)
    (sound : new.Sound)
    (here : after.link a.key = new.link ∧ after.waiting a.key = new.packetQueue)
    (elsewhere : ∀ key, key ≠ a.key →
      after.link key = record.link key ∧ after.waiting key = record.waiting key)
    (frames : tube.filter isUnicastIPv4 = framesOf ipc.macAddress after.history) :
    Refines { ipc with arpTable := ipc.arpTable.write a new sameKey, sendTube := tube } after := by
  have items := ipc.arpTable.write_perm sameKey listed
  have cases : ∀ {b}, b ∈ (ipc.arpTable.write a new sameKey).items →
      b = new ∨ b ∈ ipc.arpTable.items ∧ b.key ≠ a.key := by
    intro b present
    refine (List.mem_cons.mp (items.mem_iff.mp present)).imp id fun stays => ?_
    have unique := refines.unique.perm (List.perm_cons_erase listed).symm
    have fresh : a.key ∉ (ipc.arpTable.items.erase a).map IpcArp.key :=
      (List.nodup_cons.mp unique).1
    exact ⟨List.mem_of_mem_erase stays, fun same => fresh (List.mem_map.mpr ⟨b, stays, same⟩)⟩
  refine
    { unique := (refines.unique.rewrite listed sameKey).perm items
      present := ?_
      absent := ?_
      entries := ?_
      frames := frames }
  · intro b present
    obtain rfl | ⟨old, differs⟩ := cases present
    · rw [sameKey]
      exact here
    · rw [(elsewhere _ differs).1, (elsewhere _ differs).2]
      exact refines.present b old
  · intro key missing
    have differs : key ≠ a.key := fun same =>
      missing new (items.mem_iff.mpr List.mem_cons_self) (sameKey.trans same.symm)
    rw [(elsewhere _ differs).1, (elsewhere _ differs).2]
    refine refines.absent key fun b old same => ?_
    have other : b ≠ a := by
      rintro rfl
      exact differs same.symm
    exact missing b (items.mem_iff.mpr (List.mem_cons_of_mem _
      ((List.mem_erase_of_ne other).mpr old))) same
  · intro b present
    obtain rfl | ⟨old, _⟩ := cases present
    · exact sound
    · exact refines.entries b old

theorem Refines.insert
    (refines : Refines ipc record)
    {new : IpcArp}
    (fresh : ∀ a ∈ ipc.arpTable.items, a.key ≠ new.key)
    (sound : new.Sound)
    (here : after.link new.key = new.link ∧ after.waiting new.key = new.packetQueue)
    (elsewhere : ∀ key, key ≠ new.key →
      after.link key = record.link key ∧ after.waiting key = record.waiting key)
    (frames : tube.filter isUnicastIPv4 = framesOf ipc.macAddress after.history) :
    Refines { ipc with arpTable := ipc.arpTable.insert new, sendTube := tube } after := by
  have items := ipc.arpTable.insert_perm new
  have cases : ∀ {b}, b ∈ (ipc.arpTable.insert new).items → b = new ∨ b ∈ ipc.arpTable.items :=
    fun present => List.mem_cons.mp (items.mem_iff.mp present)
  refine
    { unique := (refines.unique.cons fresh).perm items
      present := ?_
      absent := ?_
      entries := ?_
      frames := frames }
  · intro b present
    obtain rfl | old := cases present
    · exact here
    · rw [(elsewhere _ (fresh b old)).1, (elsewhere _ (fresh b old)).2]
      exact refines.present b old
  · intro key missing
    have differs : key ≠ new.key := fun same =>
      missing new (items.mem_iff.mpr List.mem_cons_self) same.symm
    rw [(elsewhere _ differs).1, (elsewhere _ differs).2]
    exact refines.absent key fun b old =>
      missing b (items.mem_iff.mpr (List.mem_cons_of_mem _ old))
  · intro b present
    obtain rfl | old := cases present
    · exact sound
    · exact refines.entries b old

/-- Entries that are too old are forgotten. -/
theorem Refines.flush
    (refines : Refines ipc record)
    (now : UInt64) :
    Refines (ipcFlushArpTableEx ipc now)
      (record.handleAll IPC_MAX_PACKET_QUEUE_LEN (forgetInputs ipc now)) := by
  have items := ipc.arpTable.deleteAll_perm (IpcArp.isOld now)
  have forgotten : forgetInputs ipc now =
      ((ipc.arpTable.items.filter (IpcArp.isOld now)).map IpcArp.key).map .forget := by
    rw [List.map_map]
    rfl
  have stays : ∀ {a}, a ∈ (ipc.arpTable.deleteAll (IpcArp.isOld now)).items ↔
      a ∈ ipc.arpTable.items ∧ IpcArp.isOld now a = false := by
    intro a
    rw [items.mem_iff, List.mem_filter]
    simp
  have goes : ∀ {key}, key ∈ (ipc.arpTable.items.filter (IpcArp.isOld now)).map IpcArp.key ↔
      ∃ a ∈ ipc.arpTable.items, IpcArp.isOld now a = true ∧ a.key = key := by
    intro key
    simp [List.mem_map, List.mem_filter, and_assoc]
  rw [forgotten, HopTable.handleAll_forget]
  refine
    { unique := ?_
      present := ?_
      absent := ?_
      entries := fun a listed => refines.entries a (stays.mp listed).1
      frames := refines.frames }
  · exact (refines.unique.sublist List.filter_sublist).perm items
  · intro a listed
    obtain ⟨old, young⟩ := stays.mp listed
    have kept : ¬a.key ∈ (ipc.arpTable.items.filter (IpcArp.isOld now)).map IpcArp.key := by
      intro gone
      obtain ⟨other, otherListed, aged, same⟩ := goes.mp gone
      rw [refines.unique.eq_of_key otherListed old same] at aged
      exact absurd (young.symm.trans aged) (by decide)
    dsimp only
    rw [if_neg kept, if_neg kept]
    exact refines.present a old
  · intro key missing
    dsimp only
    by_cases gone : key ∈ (ipc.arpTable.items.filter (IpcArp.isOld now)).map IpcArp.key
    · rw [if_pos gone, if_pos gone]
      exact ⟨rfl, rfl⟩
    · rw [if_neg gone, if_neg gone]
      refine refines.absent key fun a listed same => ?_
      have young : IpcArp.isOld now a = false :=
        Bool.eq_false_of_not_eq_true fun aged => gone (goes.mpr ⟨a, listed, aged, same⟩)
      exact missing a (stays.mpr ⟨listed, young⟩) same

end

/-! ## Packets that go out -/

theorem foldl_ipcSendIPv4WithDestMacAddr
    {packets : List (List UInt8)}
    (sizes : ∀ data ∈ packets, 20 ≤ data.length ∧ data.length ≤ 1500)
    (ipc : Ipc)
    (destMacAddr : MacAddress) :
    packets.foldl (fun ipc b => ipcSendIPv4WithDestMacAddr ipc b destMacAddr) ipc =
      { ipc with
        sendTube := ipc.sendTube ++ packets.map (ipv4Frame ipc.macAddress destMacAddr) } := by
  induction packets generalizing ipc with
  | nil => simp
  | cons data packets inductionHypothesis =>
      have size := sizes data List.mem_cons_self
      have sent : ipcSendIPv4WithDestMacAddr ipc data destMacAddr =
          ipcSendL2 ipc (ipv4Frame ipc.macAddress destMacAddr data) := if_neg (by omega)
      rw [List.foldl_cons, sent,
        inductionHypothesis fun data listed => sizes data (List.mem_cons_of_mem _ listed)]
      simp [ipcSendL2]

theorem filter_map_ipv4Frame
    {destMacAddr : MacAddress}
    (valid : isValidUnicastMacAddress destMacAddr = true)
    (macAddress : MacAddress)
    (packets : List (List UInt8)) :
    (packets.map (ipv4Frame macAddress destMacAddr)).filter isUnicastIPv4 =
      packets.map (ipv4Frame macAddress destMacAddr) := by
  rw [List.filter_eq_self]
  intro frame listed
  obtain ⟨data, _, rfl⟩ := List.mem_map.mp listed
  exact isUnicastIPv4_of_valid valid macAddress data

section

variable {macAddress : MacAddress}
variable {history : List HopHappening}
variable {hop : ByteArrayOf 20}
variable {link : MacAddress}
variable {packet : List UInt8}

@[simp] theorem framesOf_cons_accept :
    framesOf macAddress (.accept hop packet :: history) = framesOf macAddress history := by
  simp [framesOf, frameOf]

@[simp] theorem framesOf_cons_learn :
    framesOf macAddress (.learn hop link :: history) = framesOf macAddress history := by
  simp [framesOf, frameOf]

@[simp] theorem framesOf_cons_deliver :
    framesOf macAddress (.deliver hop link packet :: history) =
      framesOf macAddress history ++ [ipv4Frame macAddress link packet] := by
  simp [framesOf, frameOf]

theorem framesOf_deliverAll
    (packets : List (List UInt8)) :
    framesOf macAddress (deliverAll hop link packets history) =
      framesOf macAddress history ++ packets.map (ipv4Frame macAddress link) := by
  induction packets generalizing history with
  | nil => simp [deliverAll]
  | cons packet packets inductionHypothesis =>
      rw [deliverAll, List.foldl_cons, ← deliverAll, inductionHypothesis, framesOf_cons_deliver]
      simp

end

section

variable {ipc : Ipc}
variable {record : HopRecord}

theorem found_of_ipcSearchArpTable
    {ip : Ip}
    {a : IpcArp}
    (searched : ipcSearchArpTable ipc ip = some a) :
    a ∈ ipc.arpTable.items ∧ a.key = addressPart ip :=
  KeyedList.search_sound searched

theorem missing_of_ipcSearchArpTable
    {ip : Ip}
    (searched : ipcSearchArpTable ipc ip = none) :
    ∀ a ∈ ipc.arpTable.items, a.key ≠ addressPart ip :=
  fun _ listed => KeyedList.search_complete searched listed

theorem elsewhere_learn
    (record : HopRecord)
    (hop : ByteArrayOf 20)
    (link : MacAddress) :
    ∀ key, key ≠ hop →
      (record.handle IPC_MAX_PACKET_QUEUE_LEN (.learn hop link)).link key = record.link key ∧
        (record.handle IPC_MAX_PACKET_QUEUE_LEN (.learn hop link)).waiting key =
          record.waiting key :=
  fun _ differs => ⟨Function.update_of_ne differs _ _, Function.update_of_ne differs _ _⟩

theorem framesOf_learn
    (refines : Refines ipc record)
    (hop : ByteArrayOf 20)
    {link : MacAddress}
    (valid : isValidUnicastMacAddress link = true) :
    (ipc.sendTube ++ (record.waiting hop).map (ipv4Frame ipc.macAddress link)).filter
        isUnicastIPv4 =
      framesOf ipc.macAddress
        (record.handle IPC_MAX_PACKET_QUEUE_LEN (.learn hop link)).history := by
  rw [List.filter_append, refines.frames, filter_map_ipv4Frame valid]
  simp only [HopTable.handle, framesOf_deliverAll, framesOf_cons_learn]

theorem Refines.ipcAssociateOnArpTable
    (refines : Refines ipc record)
    (now : UInt64)
    (ip : Ip)
    (macAddress : MacAddress) :
    Refines (ipcAssociateOnArpTable ipc now ip macAddress)
      (record.handleAll IPC_MAX_PACKET_QUEUE_LEN (learnInputs ipc ip macAddress)) := by
  unfold InProc.ipcAssociateOnArpTable learnInputs
  by_cases learnable : isLearnable ipc ip macAddress = true
  · rw [if_neg (by simp [learnable]), if_pos learnable]
    have valid : isValidUnicastMacAddress macAddress = true := by
      unfold isLearnable at learnable
      simp only [Bool.and_eq_true] at learnable
      exact learnable.1.1.1.2
    have learnt := framesOf_learn refines (addressPart ip) valid
    have elsewhere := elsewhere_learn record (addressPart ip) macAddress
    have here : (record.handle IPC_MAX_PACKET_QUEUE_LEN
          (.learn (addressPart ip) macAddress)).link (addressPart ip) = some macAddress ∧
        (record.handle IPC_MAX_PACKET_QUEUE_LEN
          (.learn (addressPart ip) macAddress)).waiting (addressPart ip) = [] :=
      ⟨Function.update_self _ _ _, Function.update_self _ _ _⟩
    cases searched : ipcSearchArpTable ipc ip with
    | none =>
        have missing := missing_of_ipcSearchArpTable searched
        have nothing := (refines.absent _ missing).2
        rw [nothing, List.map_nil, List.append_nil] at learnt
        have sound : (ipcNewARP now ip (some macAddress)).Sound :=
          { sizes := by simp [ipcNewARP]
            unicast := fun _ => valid
            idle := fun _ => rfl }
        exact refines.insert missing sound here elsewhere learnt
    | some a =>
        obtain ⟨listed, same⟩ := found_of_ipcSearchArpTable searched
        have entry := refines.entries a listed
        have queue := (refines.present a listed).2
        rw [← same] at learnt elsewhere here ⊢
        rw [queue] at learnt
        have emptied : (a.learn now macAddress).packetQueue = [] := by
          unfold IpcArp.learn
          cases resolved : a.resolved with
          | false => simp
          | true => simpa using entry.idle resolved
        have sound : (a.learn now macAddress).Sound :=
          { sizes := by simp [emptied]
            unicast := fun _ => valid
            idle := fun _ => emptied }
        have written : Refines
            { ipc with
              arpTable := ipc.arpTable.write a (a.learn now macAddress) (a.key_learn now macAddress)
              sendTube := ipc.sendTube ++ a.packetQueue.map (ipv4Frame ipc.macAddress macAddress) }
            (record.handle IPC_MAX_PACKET_QUEUE_LEN (.learn a.key macAddress)) :=
          refines.write listed (a.key_learn now macAddress) sound
            ⟨here.1, here.2.trans emptied.symm⟩ elsewhere learnt
        dsimp only
        split
        case isTrue =>
          rw [foldl_ipcSendIPv4WithDestMacAddr entry.sizes]
          exact written
        case isFalse resolved =>
          have idle := entry.idle (Bool.eq_true_of_not_eq_false resolved)
          rw [idle, List.map_nil, List.append_nil] at written
          exact written
  · rw [if_pos (Bool.eq_false_of_not_eq_true learnable), if_neg learnable]
    exact refines

end

/-! ## Packets that are accepted -/

section

variable {ipc : Ipc}
variable {record : HopRecord}

theorem Refines.ipcSendL2
    (refines : Refines ipc record)
    {frame : List UInt8}
    (other : isUnicastIPv4 frame = false) :
    Refines (ipcSendL2 ipc frame) record where
  unique := refines.unique
  present := refines.present
  absent := refines.absent
  entries := refines.entries
  frames := by
    have same : [frame].filter isUnicastIPv4 = [] := by simp [other]
    rw [InProc.ipcSendL2, List.filter_append, same, List.append_nil]
    exact refines.frames

theorem Refines.of_sameTable
    {after : Ipc}
    (refines : Refines ipc record)
    (table : after.arpTable = ipc.arpTable)
    (tube : after.sendTube = ipc.sendTube)
    (macAddress : after.macAddress = ipc.macAddress) :
    Refines after record where
  unique := table ▸ refines.unique
  present := table ▸ refines.present
  absent := table ▸ refines.absent
  entries := table ▸ refines.entries
  frames := by
    rw [tube, macAddress]
    exact refines.frames

/-- The sizes of packets that are not thrown away at once. -/
theorem size_of_routeOf
    {data : List UInt8}
    {nextIP : Ip}
    (routed : routeOf ipc data = .unicast nextIP) :
    20 ≤ data.length ∧ data.length ≤ 1500 := by
  unfold routeOf at routed
  dsimp only at routed
  split at routed
  case isTrue => exact nomatch routed
  case isFalse size => omega

theorem IpcArp.link_expireAt (a : IpcArp) (time : UInt64) :
    ({ a with expireTime := time } : IpcArp).link = a.link :=
  rfl

theorem IpcArp.link_use (a : IpcArp) (now : UInt64) : (a.use now).link = a.link :=
  a.link_expireAt (now + IPC_ARP_LIFETIME)

theorem IpcArp.packetQueue_expireAt (a : IpcArp) (time : UInt64) :
    ({ a with expireTime := time } : IpcArp).packetQueue = a.packetQueue :=
  rfl

theorem IpcArp.packetQueue_use (a : IpcArp) (now : UInt64) :
    (a.use now).packetQueue = a.packetQueue :=
  a.packetQueue_expireAt (now + IPC_ARP_LIFETIME)

theorem IpcArp.Sound.expireAt
    {a : IpcArp}
    (sound : a.Sound)
    (time : UInt64) :
    IpcArp.Sound { a with expireTime := time } where
  sizes := sound.sizes
  unicast := sound.unicast
  idle := sound.idle

/-- An entry may be used. -/
theorem IpcArp.Sound.use
    {a : IpcArp}
    (sound : a.Sound)
    (now : UInt64) :
    (a.use now).Sound :=
  sound.expireAt (now + IPC_ARP_LIFETIME)

theorem Refines.ipcSendIPv4Unicast
    (refines : Refines ipc record)
    (now : UInt64)
    {data : List UInt8}
    (size : 20 ≤ data.length ∧ data.length ≤ 1500)
    (nextIP : Ip) :
    Refines (ipcSendIPv4Unicast ipc now data nextIP)
      (record.handle IPC_MAX_PACKET_QUEUE_LEN (.accept (addressPart nextIP) data)) := by
  unfold InProc.ipcSendIPv4Unicast
  rw [if_neg (by omega)]
  cases searched : ipcSearchArpTable ipc nextIP with
  | none =>
      have missing := missing_of_ipcSearchArpTable searched
      obtain ⟨unknown, nothing⟩ := refines.absent _ missing
      rw [HopTable.handle_accept_unknown _ unknown, nothing]
      have first : (ipcNewARP now nextIP none).enqueue data =
          { ipcNewARP now nextIP none with packetQueue := [data] } := by
        simp [IpcArp.enqueue, ipcNewARP, IPC_MAX_PACKET_QUEUE_LEN]
      have waits : (if ([] : List (List UInt8)).length < IPC_MAX_PACKET_QUEUE_LEN then
            Function.update record.waiting (addressPart nextIP) ([] ++ [data])
          else record.waiting) = Function.update record.waiting (addressPart nextIP) [data] :=
        if_pos (by decide)
      rw [waits]
      dsimp only
      rw [first]
      have requested := refines.ipcSendL2 (isUnicastIPv4_arp (macOf 255) ipc.macAddress
        (arpV4Header ARP_OPERATION_REQUEST ipc.macAddress (ipToUINT ipc.clientIPAddress)
          (macOf 0) (ipToUINT nextIP)))
      refine requested.insert missing ?_ ⟨unknown, Function.update_self _ _ _⟩
        (fun key differs => ⟨rfl, Function.update_of_ne differs _ _⟩) ?_
      · exact
          { sizes := by simpa using size
            unicast := nofun
            idle := nofun }
      · rw [framesOf_cons_accept]
        exact requested.frames
  | some a =>
      obtain ⟨listed, same⟩ := found_of_ipcSearchArpTable searched
      have entry := refines.entries a listed
      obtain ⟨link, queue⟩ := refines.present a listed
      dsimp only
      rw [← same]
      cases resolved : a.resolved with
      | true =>
          have known : record.link a.key = some a.macAddress := by
            rw [link, IpcArp.link, if_pos resolved]
          have idle := entry.idle resolved
          rw [HopTable.handle_accept_known _ known, if_pos rfl]
          have sizes : ∀ other ∈ [data], 20 ≤ other.length ∧ other.length ≤ 1500 := by
            simpa using size
          have sent := foldl_ipcSendIPv4WithDestMacAddr sizes
            { ipc with arpTable := ipc.arpTable.write a (a.use now) (a.key_use now) } a.macAddress
          rw [List.foldl_cons, List.foldl_nil] at sent
          rw [sent]
          refine refines.write listed (a.key_use now) (entry.use now) ⟨?_, ?_⟩
            (fun _ _ => ⟨rfl, rfl⟩) ?_
          · rw [IpcArp.link_use]
            exact link
          · rw [IpcArp.packetQueue_use]
            exact queue
          · rw [framesOf_cons_deliver, framesOf_cons_accept, List.filter_append, refines.frames,
              filter_map_ipv4Frame (entry.unicast resolved)]
            rfl
      | false =>
          have unknown : record.link a.key = none := by
            rw [link, IpcArp.link, if_neg (by simp [resolved])]
          rw [HopTable.handle_accept_unknown _ unknown, if_neg Bool.false_ne_true, queue]
          have unresolved : (a.enqueue data).resolved = false := by
            unfold IpcArp.enqueue
            split
            case isTrue => exact resolved
            case isFalse => exact resolved
          have waits : ∀ waiting, (a.enqueue data).packetQueue = waiting →
              ∀ other ∈ waiting, 20 ≤ other.length ∧ other.length ≤ 1500 := by
            rintro _ rfl other waiting
            unfold IpcArp.enqueue at waiting
            split at waiting
            case isTrue =>
              obtain old | new := List.mem_append.mp waiting
              · exact entry.sizes other old
              · exact List.mem_singleton.mp new ▸ size
            case isFalse => exact entry.sizes other waiting
          refine refines.write listed (a.key_enqueue data) ?_ ⟨?_, ?_⟩ ?_ ?_
          · exact
              { sizes := waits _ rfl
                unicast := fun becomes => absurd (unresolved.symm.trans becomes) (by decide)
                idle := fun becomes => absurd (unresolved.symm.trans becomes) (by decide) }
          · rw [IpcArp.link, unresolved]
            exact unknown
          · unfold IpcArp.enqueue
            by_cases room : a.packetQueue.length < IPC_MAX_PACKET_QUEUE_LEN
            · rw [if_pos room, if_pos room]
              exact Function.update_self _ _ _
            · rw [if_neg room, if_neg room]
              exact queue
          · intro key differs
            refine ⟨rfl, ?_⟩
            dsimp only
            split
            case isTrue => exact Function.update_of_ne differs _ _
            case isFalse => rfl
          · rw [framesOf_cons_accept]
            exact refines.frames

theorem Refines.ipcSendIPv4
    (refines : Refines ipc record)
    (now : UInt64)
    (data : List UInt8) :
    Refines (ipcSendIPv4 ipc now data)
      (record.handleAll IPC_MAX_PACKET_QUEUE_LEN (acceptInputs ipc data)) := by
  unfold InProc.ipcSendIPv4 acceptInputs
  cases routed : routeOf ipc data with
  | nowhere => exact refines
  | broadcast =>
      dsimp only
      unfold ipcSendIPv4WithDestMacAddr
      split
      case isTrue => exact refines
      case isFalse =>
        apply refines.ipcSendL2
        have broadcast := isUnicastIPv4_ipv4Frame ipc.macAddress (macOf 255) data
        exact broadcast.trans (by decide)
  | unicast nextIP =>
      exact refines.ipcSendIPv4Unicast now (size_of_routeOf routed) nextIP

end

/-! ## Frames that come in -/

/-- Only the ARP table and the queues differ. -/
def SameSettings (before after : Ipc) : Prop :=
  ∃ arpTable ipv4ReceivedQueue sendTube, after =
    { before with
      arpTable := arpTable
      ipv4ReceivedQueue := ipv4ReceivedQueue
      sendTube := sendTube }

theorem SameSettings.refl (ipc : Ipc) : SameSettings ipc ipc :=
  ⟨_, _, _, rfl⟩

theorem SameSettings.trans
    {first second third : Ipc}
    (early : SameSettings first second)
    (late : SameSettings second third) :
    SameSettings first third := by
  obtain ⟨_, _, _, rfl⟩ := early
  obtain ⟨_, _, _, rfl⟩ := late
  exact ⟨_, _, _, rfl⟩

theorem ipcSendIPv4WithDestMacAddr_sameSettings
    (ipc : Ipc)
    (data : List UInt8)
    (destMacAddr : MacAddress) :
    SameSettings ipc (ipcSendIPv4WithDestMacAddr ipc data destMacAddr) := by
  unfold ipcSendIPv4WithDestMacAddr
  split
  case isTrue => exact .refl ipc
  case isFalse => exact ⟨_, _, _, rfl⟩

theorem foldl_sameSettings
    {Item : Type}
    {body : Ipc → Item → Ipc}
    (same : ∀ ipc item, SameSettings ipc (body ipc item))
    (items : List Item)
    (ipc : Ipc) :
    SameSettings ipc (items.foldl body ipc) := by
  induction items generalizing ipc with
  | nil => exact .refl ipc
  | cons item items inductionHypothesis =>
      exact (same ipc item).trans (inductionHypothesis _)

theorem ipcAssociateOnArpTable_sameSettings
    (ipc : Ipc)
    (now : UInt64)
    (ip : Ip)
    (macAddress : MacAddress) :
    SameSettings ipc (ipcAssociateOnArpTable ipc now ip macAddress) := by
  unfold ipcAssociateOnArpTable
  split
  case isTrue => exact .refl ipc
  case isFalse =>
    cases ipcSearchArpTable ipc ip with
    | none => exact ⟨_, _, _, rfl⟩
    | some a =>
        dsimp only
        have written : SameSettings ipc
            { ipc with
              arpTable := ipc.arpTable.write a (a.learn now macAddress)
                (a.key_learn now macAddress) } := ⟨_, _, _, rfl⟩
        split
        case isTrue =>
          exact written.trans (foldl_sameSettings
            (fun ipc data => ipcSendIPv4WithDestMacAddr_sameSettings ipc data macAddress) _ _)
        case isFalse => exact written

theorem ipcProcessArp_sameSettings
    (ipc : Ipc)
    (now : UInt64)
    (b : List UInt8) :
    SameSettings ipc (ipcProcessArp ipc now b) := by
  unfold ipcProcessArp
  split
  case isTrue => exact .refl ipc
  case isFalse =>
    split
    case isTrue => exact .refl ipc
    case isFalse =>
      split
      case isTrue => exact .refl ipc
      case isFalse =>
        split
        case isTrue => exact .refl ipc
        case isFalse =>
          dsimp only
          split
          case isTrue => exact .refl ipc
          case isFalse =>
            have learnt := (ipcAssociateOnArpTable_sameSettings ipc now (uintToIP (uintAt b 28))
              (bytesAt b 22 6)).trans (ipcAssociateOnArpTable_sameSettings _ now
                (uintToIP (uintAt b 38)) (bytesAt b 32 6))
            split
            case isTrue => exact learnt.trans ⟨_, _, _, rfl⟩
            case isFalse => exact learnt

theorem processIPv4_sameSettings
    (ipc : Ipc)
    (now : UInt64)
    (b : List UInt8) :
    SameSettings ipc (processIPv4 ipc now b) := by
  unfold processIPv4
  split
  case isTrue => exact .refl ipc
  case isFalse =>
    dsimp only
    split
    case isTrue =>
      exact (ipcAssociateOnArpTable_sameSettings ipc now (uintToIP (uintAt (b.drop 14) 12))
        (bytesAt b 6 6)).trans ⟨_, _, _, rfl⟩
    case isFalse => exact .refl ipc

theorem processFrame_sameSettings
    (ipc : Ipc)
    (now : UInt64)
    (b : List UInt8) :
    SameSettings ipc (processFrame ipc now b) := by
  unfold processFrame
  split
  case isTrue => exact .refl ipc
  case isFalse =>
    split
    case isTrue => exact .refl ipc
    case isFalse =>
      split
      case isTrue => exact ipcProcessArp_sameSettings ipc now b
      case isFalse =>
        split
        case isTrue => exact processIPv4_sameSettings ipc now b
        case isFalse => exact .refl ipc

theorem SameSettings.learnInputs
    {before after : Ipc}
    (same : SameSettings before after)
    (ip : Ip)
    (macAddress : MacAddress) :
    learnInputs after ip macAddress = learnInputs before ip macAddress := by
  obtain ⟨_, _, _, rfl⟩ := same
  rfl

theorem SameSettings.frameInputs
    {before after : Ipc}
    (same : SameSettings before after)
    (b : List UInt8) :
    frameInputs after b = frameInputs before b := by
  obtain ⟨_, _, _, rfl⟩ := same
  rfl

section

variable {ipc : Ipc}
variable {record : HopRecord}

theorem handleAll_append
    (record : HopRecord)
    (first rest : List HopInput) :
    record.handleAll IPC_MAX_PACKET_QUEUE_LEN (first ++ rest) =
      (record.handleAll IPC_MAX_PACKET_QUEUE_LEN first).handleAll IPC_MAX_PACKET_QUEUE_LEN rest :=
  List.foldl_append

theorem Refines.ipcProcessArp
    (refines : Refines ipc record)
    (now : UInt64)
    (b : List UInt8) :
    Refines (ipcProcessArp ipc now b)
      (record.handleAll IPC_MAX_PACKET_QUEUE_LEN (arpInputs ipc b)) := by
  unfold InProc.ipcProcessArp arpInputs
  split
  case isTrue short =>
    rw [if_pos (.inl short)]
    exact refines
  case isFalse long =>
    split
    case isTrue hardware =>
      rw [if_pos (.inr (.inl hardware))]
      exact refines
    case isFalse hardware =>
      split
      case isTrue protocol =>
        rw [if_pos (.inr (.inr (.inl protocol)))]
        exact refines
      case isFalse protocol =>
        split
        case isTrue sizes =>
          rw [if_pos (.inr (.inr (.inr (.inl sizes))))]
          exact refines
        case isFalse sizes =>
          dsimp only
          split
          case isTrue own =>
            rw [if_pos (.inr (.inr (.inr (.inr own))))]
            exact refines
          case isFalse stranger =>
            rw [if_neg (not_or.mpr ⟨long, not_or.mpr ⟨hardware, not_or.mpr ⟨protocol,
              not_or.mpr ⟨sizes, stranger⟩⟩⟩⟩), handleAll_append]
            have sender := refines.ipcAssociateOnArpTable now (uintToIP (uintAt b 28))
              (bytesAt b 22 6)
            have target := sender.ipcAssociateOnArpTable now (uintToIP (uintAt b 38))
              (bytesAt b 32 6)
            have same := ipcAssociateOnArpTable_sameSettings ipc now (uintToIP (uintAt b 28))
              (bytesAt b 22 6)
            rw [same.learnInputs] at target
            split
            case isTrue => exact target.ipcSendL2 (isUnicastIPv4_arp ..)
            case isFalse => exact target

theorem Refines.processIPv4
    (refines : Refines ipc record)
    (now : UInt64)
    (b : List UInt8) :
    Refines (processIPv4 ipc now b)
      (record.handleAll IPC_MAX_PACKET_QUEUE_LEN (ipv4Inputs ipc b)) := by
  unfold InProc.processIPv4 ipv4Inputs
  split
  case isTrue => exact refines
  case isFalse =>
    dsimp only
    split
    case isTrue =>
      have learnt := refines.ipcAssociateOnArpTable now (uintToIP (uintAt (b.drop 14) 12))
        (bytesAt b 6 6)
      exact learnt.of_sameTable rfl rfl rfl
    case isFalse => exact refines

theorem Refines.processFrame
    (refines : Refines ipc record)
    (now : UInt64)
    (b : List UInt8) :
    Refines (processFrame ipc now b)
      (record.handleAll IPC_MAX_PACKET_QUEUE_LEN (frameInputs ipc b)) := by
  unfold InProc.processFrame frameInputs
  split
  case isTrue short =>
    rw [if_pos (.inl short)]
    exact refines
  case isFalse long =>
    split
    case isTrue foreign =>
      rw [if_pos (.inr foreign)]
      exact refines
    case isFalse mine =>
      rw [if_neg (not_or.mpr ⟨long, mine⟩)]
      split
      case isTrue => exact refines.ipcProcessArp now b
      case isFalse =>
        split
        case isTrue => exact refines.processIPv4 now b
        case isFalse => exact refines

theorem Refines.processFrames
    (refines : Refines ipc record)
    (received : List Received) :
    Refines (received.foldl (fun ipc b => InProc.processFrame ipc b.now b.frame) ipc)
      (record.handleAll IPC_MAX_PACKET_QUEUE_LEN
        (received.flatMap fun b => frameInputs ipc b.frame)) := by
  induction received generalizing ipc record with
  | nil => exact refines
  | cons b received inductionHypothesis =>
      have rest := inductionHypothesis (refines.processFrame b.now b.frame)
      simp only [(processFrame_sameSettings ipc b.now b.frame).frameInputs] at rest
      rw [List.flatMap_cons, handleAll_append, List.foldl_cons]
      exact rest

theorem Refines.step
    (refines : Refines ipc record)
    (event : Event) :
    Refines (step ipc event)
      (record.handleAll IPC_MAX_PACKET_QUEUE_LEN (inputs ipc event)) := by
  cases event with
  | setIPv4Parameters ip subnet gw rt =>
      refine refines.of_sameTable ?_ ?_ ?_ <;>
        · unfold InProc.step ipcSetIPv4Parameters
          cases rt with
          | none => rfl
          | some rt =>
              dsimp only
              split <;> rfl
  | sendIPv4 now data => exact refines.ipcSendIPv4 now data
  | processL3Events now received =>
      have same : SameSettings ipc (ipcFlushArpTableEx ipc now) := ⟨_, _, _, rfl⟩
      have rest := (refines.flush now).processFrames received
      simp only [same.frameInputs] at rest
      unfold inputs
      dsimp only
      rw [handleAll_append]
      exact rest
  | flushArpTable now => exact refines.flush now

/-- The IPC does what the table of next hops does, in every run. -/
theorem refines_after
    (macAddress : MacAddress)
    (events : List Event) :
    Refines (ipcAfter macAddress events) (recordAfter macAddress events) := by
  induction events with
  | nil => exact .initial macAddress
  | cons event earlier inductionHypothesis => exact inductionHypothesis.step event

end

end InProc
end SoftEther
