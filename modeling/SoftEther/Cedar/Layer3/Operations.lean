import SoftEther.Cedar.Layer3.Interface

/-!
# Operations of an interface

What the functions of an interface do in any order, and what they keep: the parameters of the
interface, one entry of the ARP table for an address, and no packet that waits for an address
in the table.
-/

namespace SoftEther
namespace Layer3

open TcpIp

/-- What happens to an interface. -/
inductive Operation where
  /-- `L3KnownArp`, for a packet that the interface receives. -/
  | knownArp (now : Nat) (ip : UInt32) (mac : MacAddress)
  /-- `L3SendArpResponseNow`, for a request that the interface receives. -/
  | sendArpResponse (destMac : MacAddress) (destIp srcIp : UInt32)
  /-- `L3StoreIpPacketToIf`, for a packet that any interface of the switch receives. -/
  | storeIpPacket (p : L3Packet)
  /-- A round of `L3PollingIpQueue`. -/
  | nextIpPacket (now : Nat)
  /-- `L3PollingBeacon`. -/
  | pollingBeacon (now : Nat)
  /-- `L3DeleteOldArpTable`. -/
  | deleteOldArpTable (now : Nat)
  /-- `L3PollingArpWaitTable`. -/
  | pollingArpWaitTable (now : Nat)
  /-- `L3DeleteOldIpWaitList`. -/
  | deleteOldIpWaitList (now : Nat)
  /-- `GetNext` of the send queue. -/
  | getNext

/-- A round of `L3PollingIpQueue`. -/
def l3NextIpPacket (f : L3If) (now : Nat) : L3If :=
  match f.ipPacketQueue with
  | [] => f
  | p :: rest => l3SendIp { f with ipPacketQueue := rest } now p

/-- The interface after an operation. -/
def operate (f : L3If) : Operation → L3If
  | .knownArp now ip mac => l3KnownArp f now ip mac
  | .sendArpResponse destMac destIp srcIp => l3SendArpResponseNow f destMac destIp srcIp
  | .storeIpPacket p => { f with ipPacketQueue := f.ipPacketQueue ++ [p] }
  | .nextIpPacket now => l3NextIpPacket f now
  | .pollingBeacon now => l3PollingBeacon f now
  | .deleteOldArpTable now => l3DeleteOldArpTable f now
  | .pollingArpWaitTable now => l3PollingArpWaitTable f now
  | .deleteOldIpWaitList now => l3DeleteOldIpWaitList f now
  | .getNext => { f with sendQueue := f.sendQueue.drop 1 }

/-- `L3InitInterface`, with the generated MAC address. -/
def l3InitInterface (f : L3If) (macAddress : MacAddress) : L3If :=
  { f with
    macAddress := macAddress
    arpTable := .empty
    arpWaitTable := .empty
    ipPacketQueue := []
    ipWaitList := []
    sendQueue := [] }

/-- The interface after some operations, the latest of them first. -/
def after (f : L3If) : List Operation → L3If
  | [] => f
  | operation :: earlier => operate (after f earlier) operation

/-- Every operation meets a condition in the state it finds. -/
def Throughout (condition : L3If → Operation → Prop) (f : L3If) : List Operation → Prop
  | [] => True
  | operation :: earlier =>
      condition (after f earlier) operation ∧ Throughout condition f earlier

/-- `L3KnownArp` takes the address. -/
def learnable (f : L3If) (ip : UInt32) : Bool :=
  isReserved ip = false ∧ f.inSubnet ip = true

def ipFrame (macAddress destMac : MacAddress) (p : L3Packet) : List UInt8 :=
  destMac.val ++ macAddress.val ++ bigEndian 2 p.packet.protocol ++ p.packet.l3

/-- An IP packet that `L3SendIp` sends to its next hop. -/
def isUnicast (f : L3If) (p : L3Packet) : Bool :=
  p.packet.typeL3 = .ipv4 ∧ isBroadcast f p = false ∧ isForInterface f p = false

/-! ## What the functions do -/

section

variable {f g : L3If}
variable {now : Nat}
variable {ip : UInt32}
variable {mac : MacAddress}

theorem l3SendIpNow_some (f : L3If) (a : L3ArpEntry) (p : L3Packet) :
    l3SendIpNow f (some a) p =
      { f with sendQueue := f.sendQueue ++ [ipFrame f.macAddress a.macAddress p] } :=
  rfl

theorem foldl_l3SendIpNow (f : L3If) (a : L3ArpEntry) (o : List L3Packet) :
    o.foldl (fun f p => l3SendIpNow f (some a) p) f =
      { f with sendQueue := f.sendQueue ++ o.map (ipFrame f.macAddress a.macAddress) } := by
  induction o generalizing f with
  | nil => simp
  | cons p rest inductionHypothesis =>
      rw [List.foldl_cons, inductionHypothesis, l3SendIpNow_some]
      simp

theorem l3SendWaitingIp_eq (f : L3If) (ip : UInt32) (a : L3ArpEntry) :
    l3SendWaitingIp f ip a =
      { f with
        sendQueue := f.sendQueue ++
          (f.ipWaitList.filter fun p => p.nextHopIp = ip).map (ipFrame f.macAddress a.macAddress)
        ipWaitList := f.ipWaitList.filter fun p => p.nextHopIp ≠ ip } := by
  rw [l3SendWaitingIp, foldl_l3SendIpNow]

theorem l3SendWaitingIp_expireAt
    (f : L3If)
    (ip : UInt32)
    (a : L3ArpEntry)
    (time : Nat) :
    l3SendWaitingIp
        { f with
          arpTable := f.arpTable.write a (a.expireAt time) (a.ipAddress_expireAt time) }
        ip (a.expireAt time) =
      { f with
        arpTable := f.arpTable.write a (a.expireAt time) (a.ipAddress_expireAt time)
        sendQueue := f.sendQueue ++
          (f.ipWaitList.filter fun p => p.nextHopIp = ip).map (ipFrame f.macAddress a.macAddress)
        ipWaitList := f.ipWaitList.filter fun p => p.nextHopIp ≠ ip } :=
  l3SendWaitingIp_eq _ _ _

theorem l3KnownArp_of_not_learnable (refused : learnable f ip = false) :
    l3KnownArp f now ip mac = f := by
  unfold l3KnownArp
  by_cases reserved : isReserved ip = true
  · rw [if_pos reserved]
  · rw [if_neg reserved, if_pos (by simpa [learnable, reserved] using refused)]

theorem l3KnownArp_of_learnable (taken : learnable f ip = true) :
    isReserved ip = false ∧ l3KnownArp f now ip mac = l3InsertArpTable f now ip mac := by
  obtain ⟨valid, inside⟩ : isReserved ip = false ∧ f.inSubnet ip = true := by
    simpa [learnable] using taken
  refine ⟨valid, ?_⟩
  simp [l3KnownArp, searchWithoutCmp, valid, inside]

theorem l3KnownArp_unknown
    (taken : learnable f ip = true)
    (searched : f.arpTable.search ip = none) :
    l3KnownArp f now ip mac =
      { f with
        arpTable := f.arpTable.insert ⟨ip, mac, now + ARP_ENTRY_EXPIRES⟩
        sendQueue := f.sendQueue ++
          (f.ipWaitList.filter fun p => p.nextHopIp = ip).map (ipFrame f.macAddress mac)
        ipWaitList := f.ipWaitList.filter fun p => p.nextHopIp ≠ ip } := by
  obtain ⟨valid, learns⟩ := @l3KnownArp_of_learnable f now ip mac taken
  rw [learns, l3InsertArpTable, valid, if_neg Bool.false_ne_true, searched]
  exact l3SendWaitingIp_eq _ _ _

theorem l3KnownArp_known
    (taken : learnable f ip = true)
    {a : L3ArpEntry}
    (searched : f.arpTable.search ip = some a) :
    l3KnownArp f now ip mac =
      { f with
        arpTable := f.arpTable.write a (a.expireAt (now + ARP_ENTRY_EXPIRES))
          (a.ipAddress_expireAt _)
        sendQueue := f.sendQueue ++
          (f.ipWaitList.filter fun p => p.nextHopIp = ip).map (ipFrame f.macAddress a.macAddress)
        ipWaitList := f.ipWaitList.filter fun p => p.nextHopIp ≠ ip } := by
  obtain ⟨valid, learns⟩ := @l3KnownArp_of_learnable f now ip mac taken
  rw [learns, l3InsertArpTable, valid, if_neg Bool.false_ne_true, searched]
  exact l3SendWaitingIp_expireAt f ip a (now + ARP_ENTRY_EXPIRES)

end

theorem l3SendArp_frame (f : L3If) (now : Nat) (ip : UInt32) :
    ∃ queries, l3SendArp f now ip = { f with arpWaitTable := queries } := by
  unfold l3SendArp
  split
  case isTrue => exact ⟨f.arpWaitTable, rfl⟩
  case isFalse =>
    split
    case h_1 => exact ⟨f.arpWaitTable, rfl⟩
    case h_2 => exact ⟨_, rfl⟩

theorem l3SendIp_known
    {f : L3If}
    {p : L3Packet}
    (unicast : isUnicast f p = true)
    {a : L3ArpEntry}
    (searched : l3SearchArpTable f p.nextHopIp = some a)
    (now : Nat) :
    l3SendIp f now p =
      { f with sendQueue := f.sendQueue ++ [ipFrame f.macAddress a.macAddress p] } := by
  obtain ⟨ipv4, noBroadcast, others⟩ :
      p.packet.typeL3 = .ipv4 ∧ isBroadcast f p = false ∧ isForInterface f p = false := by
    simpa [isUnicast] using unicast
  rw [l3SendIp, if_neg (not_not_intro ipv4), noBroadcast, others, if_neg Bool.false_ne_true,
    if_neg Bool.false_ne_true, searched]
  exact l3SendIpNow_some f a p

theorem l3SendIp_unknown
    {f : L3If}
    {p : L3Packet}
    (unicast : isUnicast f p = true)
    (searched : l3SearchArpTable f p.nextHopIp = none)
    (now : Nat) :
    l3SendIp f now p =
      l3SendArp
        { f with
          ipWaitList := f.ipWaitList ++ [p.expireAt (now + IP_WAIT_FOR_ARP_TIMEOUT)] }
        now p.nextHopIp := by
  obtain ⟨ipv4, noBroadcast, others⟩ :
      p.packet.typeL3 = .ipv4 ∧ isBroadcast f p = false ∧ isForInterface f p = false := by
    simpa [isUnicast] using unicast
  rw [l3SendIp, if_neg (not_not_intro ipv4), noBroadcast, others, if_neg Bool.false_ne_true,
    if_neg Bool.false_ne_true, searched]
  rfl

theorem l3SendIp_other
    {f : L3If}
    {p : L3Packet}
    (other : ¬isUnicast f p = true)
    (now : Nat) :
    ∃ frames, l3SendIp f now p = { f with sendQueue := f.sendQueue ++ frames } := by
  unfold l3SendIp
  by_cases ipv4 : p.packet.typeL3 ≠ .ipv4
  · rw [if_pos ipv4]
    exact ⟨[], by simp⟩
  · rw [if_neg ipv4]
    by_cases broadcast : isBroadcast f p = true
    · rw [if_pos broadcast]
      exact ⟨_, rfl⟩
    · rw [if_neg broadcast, if_pos (by simpa [isUnicast, not_not.mp ipv4, broadcast] using other)]
      exact ⟨_, rfl⟩

/-! ## The tables of an interface -/

/-- The parameters that an interface is given. -/
structure SameParameters (f g : L3If) : Prop where
  hubName : g.hubName = f.hubName
  ipAddress : g.ipAddress = f.ipAddress
  subnetMask : g.subnetMask = f.subnetMask
  macAddress : g.macAddress = f.macAddress

/-- The ARP table and the packets that wait are as they were. -/
structure SameArp (f g : L3If) : Prop extends SameParameters f g where
  arpTable : g.arpTable = f.arpTable
  ipWaitList : g.ipWaitList = f.ipWaitList

/-- The ARP table has one entry for an address, and no packet waits for an address in it. -/
structure L3If.Sound (f : L3If) : Prop where
  distinct : f.arpTable.Distinct
  hosts : ∀ a ∈ f.arpTable.items, isReserved a.ipAddress = false
  served : ∀ p ∈ f.ipWaitList, ∀ a ∈ f.arpTable.items, a.ipAddress ≠ p.nextHopIp

theorem SameParameters.refl (f : L3If) : SameParameters f f :=
  ⟨rfl, rfl, rfl, rfl⟩

theorem SameParameters.trans
    {f g h : L3If}
    (first : SameParameters f g)
    (second : SameParameters g h) :
    SameParameters f h where
  hubName := second.hubName.trans first.hubName
  ipAddress := second.ipAddress.trans first.ipAddress
  subnetMask := second.subnetMask.trans first.subnetMask
  macAddress := second.macAddress.trans first.macAddress

theorem L3If.Sound.same
    {f g : L3If}
    (sound : f.Sound)
    (same : SameArp f g) :
    g.Sound where
  distinct := by
    rw [same.arpTable]
    exact sound.distinct
  hosts := by
    rw [same.arpTable]
    exact sound.hosts
  served := by
    rw [same.arpTable, same.ipWaitList]
    exact sound.served

section

variable {f : L3If}

theorem L3If.Sound.search
    (sound : f.Sound)
    {a : L3ArpEntry}
    (listed : a ∈ f.arpTable.items) :
    l3SearchArpTable f a.ipAddress = some a := by
  rw [l3SearchArpTable, sound.hosts a listed, if_neg Bool.false_ne_true]
  exact sound.distinct.search_eq_some listed

theorem L3If.Sound.absent
    (sound : f.Sound)
    {ip : UInt32}
    (searched : l3SearchArpTable f ip = none)
    {a : L3ArpEntry}
    (listed : a ∈ f.arpTable.items) :
    a.ipAddress ≠ ip := by
  rintro rfl
  exact nomatch (sound.search listed).symm.trans searched

theorem L3If.Sound.knownArp
    (sound : f.Sound)
    (now : Nat)
    (ip : UInt32)
    (mac : MacAddress) :
    (l3KnownArp f now ip mac).Sound := by
  cases taken : learnable f ip with
  | false =>
      rw [l3KnownArp_of_not_learnable taken]
      exact sound
  | true =>
      obtain ⟨valid, _⟩ := @l3KnownArp_of_learnable f now ip mac taken
      have waits : ∀ p ∈ f.ipWaitList.filter (fun p => p.nextHopIp ≠ ip),
          p ∈ f.ipWaitList ∧ p.nextHopIp ≠ ip := by
        intro p listed
        simpa using List.mem_filter.mp listed
      cases searched : f.arpTable.search ip with
      | none =>
          rw [l3KnownArp_unknown taken searched]
          have entries : ∀ a ∈ (f.arpTable.insert ⟨ip, mac, now + ARP_ENTRY_EXPIRES⟩).items,
              a = ⟨ip, mac, now + ARP_ENTRY_EXPIRES⟩ ∨ a ∈ f.arpTable.items := fun a listed =>
            List.mem_cons.mp ((KeyedList.insert_perm _ _).mem_iff.mp listed)
          refine ⟨sound.distinct.insert searched, ?_, ?_⟩
          · intro a listed
            obtain rfl | listed := entries a listed
            · exact valid
            · exact sound.hosts a listed
          · intro p waiting a listed
            obtain ⟨waiting, other⟩ := waits p waiting
            obtain rfl | listed := entries a listed
            · exact Ne.symm other
            · exact sound.served p waiting a listed
      | some entry =>
          rw [l3KnownArp_known taken searched]
          obtain ⟨present, key⟩ := KeyedList.search_sound searched
          have entries : ∀ a ∈ (f.arpTable.write entry
              (entry.expireAt (now + ARP_ENTRY_EXPIRES)) (entry.ipAddress_expireAt _)).items,
              a.ipAddress = ip ∨ a ∈ f.arpTable.items := by
            intro a listed
            obtain rfl | kept := List.mem_cons.mp
              ((KeyedList.write_perm f.arpTable (entry.ipAddress_expireAt _) present).mem_iff.mp
                listed)
            · exact .inl key
            · exact .inr (List.mem_of_mem_erase kept)
          refine ⟨sound.distinct.write (entry.ipAddress_expireAt _), ?_, ?_⟩
          · intro a listed
            obtain same | listed := entries a listed
            · rw [same]
              exact valid
            · exact sound.hosts a listed
          · intro p waiting a listed
            obtain ⟨waiting, other⟩ := waits p waiting
            obtain same | listed := entries a listed
            · rw [same]
              exact Ne.symm other
            · exact sound.served p waiting a listed

theorem L3If.Sound.sendIp
    (sound : f.Sound)
    (now : Nat)
    (p : L3Packet) :
    (l3SendIp f now p).Sound := by
  by_cases unicast : isUnicast f p = true
  · cases searched : l3SearchArpTable f p.nextHopIp with
    | some a =>
        rw [l3SendIp_known unicast searched]
        exact sound.same ⟨⟨rfl, rfl, rfl, rfl⟩, rfl, rfl⟩
    | none =>
        rw [l3SendIp_unknown unicast searched]
        obtain ⟨queries, asked⟩ := l3SendArp_frame
          { f with
            ipWaitList := f.ipWaitList ++ [p.expireAt (now + IP_WAIT_FOR_ARP_TIMEOUT)] }
          now p.nextHopIp
        rw [asked]
        refine ⟨sound.distinct, sound.hosts, ?_⟩
        intro waiting listed a inTable
        obtain before | last := List.mem_append.mp listed
        · exact sound.served waiting before a inTable
        · rw [List.mem_singleton.mp last]
          exact sound.absent searched inTable
  · obtain ⟨frames, sent⟩ := l3SendIp_other unicast now
    rw [sent]
    exact sound.same ⟨⟨rfl, rfl, rfl, rfl⟩, rfl, rfl⟩

theorem L3If.Sound.nextIpPacket
    (sound : f.Sound)
    (now : Nat) :
    (l3NextIpPacket f now).Sound := by
  unfold l3NextIpPacket
  split
  case h_1 => exact sound
  case h_2 p rest _ =>
    have popped : L3If.Sound { f with ipPacketQueue := rest } :=
      sound.same ⟨⟨rfl, rfl, rfl, rfl⟩, rfl, rfl⟩
    exact popped.sendIp now p

theorem L3If.Sound.deleteOldArpTable
    (sound : f.Sound)
    (now : Nat) :
    (l3DeleteOldArpTable f now).Sound ∧
      ∀ a ∈ f.arpTable.items, now < a.expire → a ∈ (l3DeleteOldArpTable f now).arpTable.items := by
  unfold l3DeleteOldArpTable
  split
  case isTrue => exact ⟨sound, fun a listed _ => listed⟩
  case isFalse =>
    have fewer := f.arpTable.deleteAll_sublist fun a => a.expire ≤ now
    refine ⟨⟨sound.distinct.deleteAll _, ?_, ?_⟩, ?_⟩
    · exact fun a listed => sound.hosts a (fewer.mem listed)
    · exact fun p waiting a listed => sound.served p waiting a (fewer.mem listed)
    · intro a listed young
      refine (f.arpTable.deleteAll_perm fun a => a.expire ≤ now).mem_iff.mpr ?_
      simpa using ⟨listed, young⟩

theorem L3If.Sound.deleteOldIpWaitList
    (sound : f.Sound)
    (now : Nat) :
    (l3DeleteOldIpWaitList f now).Sound where
  distinct := sound.distinct
  hosts := sound.hosts
  served := fun p waiting => sound.served p (List.mem_filter.mp waiting).1

theorem sameArp_pollArpWait (f : L3If) (now : Nat) (w : L3ArpWait) :
    SameArp f (pollArpWait now f w) := by
  unfold pollArpWait
  split
  case isTrue => exact ⟨.refl f, rfl, rfl⟩
  case isFalse =>
    split
    case isTrue => exact ⟨⟨rfl, rfl, rfl, rfl⟩, rfl, rfl⟩
    case isFalse => exact ⟨.refl f, rfl, rfl⟩

theorem sameArp_pollingArpWaitTable (f : L3If) (now : Nat) :
    SameArp f (l3PollingArpWaitTable f now) := by
  have loop : ∀ (items : List L3ArpWait) (f : L3If),
      SameArp f (items.foldl (pollArpWait now) f) := by
    intro items
    induction items with
    | nil => exact fun f => ⟨.refl f, rfl, rfl⟩
    | cons w rest inductionHypothesis =>
        intro f
        have first := sameArp_pollArpWait f now w
        have others := inductionHypothesis (pollArpWait now f w)
        exact ⟨first.toSameParameters.trans others.toSameParameters,
          others.arpTable.trans first.arpTable, others.ipWaitList.trans first.ipWaitList⟩
  have polled := loop f.arpWaitTable.items f
  exact ⟨⟨polled.hubName, polled.ipAddress, polled.subnetMask, polled.macAddress⟩,
    polled.arpTable, polled.ipWaitList⟩

theorem sameArp_pollingBeacon (f : L3If) (now : Nat) : SameArp f (l3PollingBeacon f now) := by
  unfold l3PollingBeacon
  split
  case isTrue => exact ⟨⟨rfl, rfl, rfl, rfl⟩, rfl, rfl⟩
  case isFalse => exact ⟨.refl f, rfl, rfl⟩

theorem L3If.Sound.operate
    (sound : f.Sound)
    (operation : Operation) :
    (operate f operation).Sound := by
  cases operation with
  | knownArp now ip mac => exact sound.knownArp now ip mac
  | sendArpResponse destMac destIp srcIp => exact sound.same ⟨⟨rfl, rfl, rfl, rfl⟩, rfl, rfl⟩
  | storeIpPacket p => exact sound.same ⟨⟨rfl, rfl, rfl, rfl⟩, rfl, rfl⟩
  | nextIpPacket now => exact sound.nextIpPacket now
  | pollingBeacon now => exact sound.same (sameArp_pollingBeacon f now)
  | deleteOldArpTable now => exact (sound.deleteOldArpTable now).1
  | pollingArpWaitTable now => exact sound.same (sameArp_pollingArpWaitTable f now)
  | deleteOldIpWaitList now => exact sound.deleteOldIpWaitList now
  | getNext => exact sound.same ⟨⟨rfl, rfl, rfl, rfl⟩, rfl, rfl⟩

theorem sameParameters_knownArp (f : L3If) (now : Nat) (ip : UInt32) (mac : MacAddress) :
    SameParameters f (l3KnownArp f now ip mac) := by
  cases taken : learnable f ip with
  | false =>
      rw [l3KnownArp_of_not_learnable taken]
      exact .refl f
  | true =>
      cases searched : f.arpTable.search ip with
      | none =>
          rw [l3KnownArp_unknown taken searched]
          exact ⟨rfl, rfl, rfl, rfl⟩
      | some a =>
          rw [l3KnownArp_known taken searched]
          exact ⟨rfl, rfl, rfl, rfl⟩

theorem sameParameters_sendIp (f : L3If) (now : Nat) (p : L3Packet) :
    SameParameters f (l3SendIp f now p) ∧ (l3SendIp f now p).arpTable = f.arpTable := by
  by_cases unicast : isUnicast f p = true
  · cases searched : l3SearchArpTable f p.nextHopIp with
    | some a =>
        rw [l3SendIp_known unicast searched]
        exact ⟨⟨rfl, rfl, rfl, rfl⟩, rfl⟩
    | none =>
        rw [l3SendIp_unknown unicast searched]
        obtain ⟨queries, asked⟩ := l3SendArp_frame
          { f with
            ipWaitList := f.ipWaitList ++ [p.expireAt (now + IP_WAIT_FOR_ARP_TIMEOUT)] }
          now p.nextHopIp
        rw [asked]
        exact ⟨⟨rfl, rfl, rfl, rfl⟩, rfl⟩
  · obtain ⟨frames, sent⟩ := l3SendIp_other unicast now
    rw [sent]
    exact ⟨⟨rfl, rfl, rfl, rfl⟩, rfl⟩

theorem sameParameters_nextIpPacket (f : L3If) (now : Nat) :
    SameParameters f (l3NextIpPacket f now) ∧
      (l3NextIpPacket f now).arpTable = f.arpTable := by
  unfold l3NextIpPacket
  split
  case h_1 => exact ⟨.refl f, rfl⟩
  case h_2 p rest _ =>
    have popped : SameParameters f { f with ipPacketQueue := rest } := ⟨rfl, rfl, rfl, rfl⟩
    obtain ⟨same, table⟩ := sameParameters_sendIp { f with ipPacketQueue := rest } now p
    exact ⟨popped.trans same, table⟩

theorem sameParameters_operate (f : L3If) (operation : Operation) :
    SameParameters f (operate f operation) := by
  cases operation with
  | knownArp now ip mac => exact sameParameters_knownArp f now ip mac
  | sendArpResponse destMac destIp srcIp => exact ⟨rfl, rfl, rfl, rfl⟩
  | storeIpPacket p => exact ⟨rfl, rfl, rfl, rfl⟩
  | nextIpPacket now => exact (sameParameters_nextIpPacket f now).1
  | pollingBeacon now => exact (sameArp_pollingBeacon f now).toSameParameters
  | deleteOldArpTable now =>
      unfold operate l3DeleteOldArpTable
      dsimp only
      split
      case isTrue => exact .refl f
      case isFalse => exact ⟨rfl, rfl, rfl, rfl⟩
  | pollingArpWaitTable now => exact (sameArp_pollingArpWaitTable f now).toSameParameters
  | deleteOldIpWaitList now => exact ⟨rfl, rfl, rfl, rfl⟩
  | getNext => exact ⟨rfl, rfl, rfl, rfl⟩

end

variable {f : L3If}

theorem sound_initInterface (f : L3If) (macAddress : MacAddress) :
    (l3InitInterface f macAddress).Sound where
  distinct := KeyedList.Distinct.empty
  hosts := by simp [l3InitInterface, KeyedList.empty]
  served := by simp [l3InitInterface]

theorem L3If.Sound.after
    (sound : f.Sound)
    (operations : List Operation) :
    (after f operations).Sound := by
  induction operations with
  | nil => exact sound
  | cons operation earlier inductionHypothesis => exact inductionHypothesis.operate operation

theorem sameParameters_after (f : L3If) (operations : List Operation) :
    SameParameters f (after f operations) := by
  induction operations with
  | nil => exact .refl f
  | cons operation earlier inductionHypothesis =>
      exact inductionHypothesis.trans (sameParameters_operate _ operation)

theorem SameParameters.learnable_eq
    {g : L3If}
    (same : SameParameters f g)
    (ip : UInt32) :
    learnable g ip = learnable f ip := by
  unfold learnable L3If.inSubnet
  rw [same.ipAddress, same.subnetMask]

theorem SameParameters.isUnicast_eq
    {g : L3If}
    (same : SameParameters f g)
    (p : L3Packet) :
    isUnicast g p = isUnicast f p := by
  unfold isUnicast isBroadcast isForInterface
  rw [same.ipAddress, same.subnetMask]

end Layer3
end SoftEther
