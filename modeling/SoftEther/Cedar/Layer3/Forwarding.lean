import SoftEther.Cedar.Layer3.Switch

/-!
# Forwarding

A unicast packet that is not addressed to the switch goes on to one interface with a lower TTL,
or not at all.  A generated ICMP packet never makes the switch generate another one.
-/

namespace SoftEther
namespace Layer3

open Library Network TcpIp

section

variable (i : L3If)
variable (type : UInt8)
variable (p : Pkt)

def icmpErrorLength : Nat :=
  sizeofIPv4Header + sizeofIcmpHeader + 4 + headerSize p.l3 + 8

theorem length_icmpErrorHeader (checksum : Nat) :
    (icmpErrorHeader i p checksum).length = 20 := by
  simp [icmpErrorHeader, littleUshort, length_bigEndian, (bytesOfUINT _).property]

theorem icmpError_eq :
    ∃ rest, icmpError i type p =
      (List.replicate 12 0 ++ bigEndian 2 MAC_PROTO_IPV4 ++
        icmpErrorHeader i p (ipChecksum (icmpErrorHeader i p 0))) ++ type :: rest :=
  ⟨_, (List.append_assoc _ _ _).symm⟩

theorem getElem?_icmpError_version : (icmpError i type p)[14]? = some 0x45 := by
  simp [icmpError, icmpErrorHeader, bigEndian]

theorem getElem?_icmpError_timeToLive : (icmpError i type p)[22]? = some 0xff := by
  simp [icmpError, icmpErrorHeader, bigEndian]

theorem getElem?_icmpError_type : (icmpError i type p)[34]? = some type := by
  obtain ⟨rest, same⟩ := icmpError_eq i type p
  rw [same, List.getElem?_append_right]
  · simp [length_icmpErrorHeader, length_bigEndian]
  · simp [length_icmpErrorHeader, length_bigEndian]

theorem ushortAt_icmpError : ushortAt (icmpError i type p) 16 = icmpErrorLength p := by
  have small : icmpErrorLength p < 256 ^ 2 := by
    have header := headerSize_le p.l3
    unfold icmpErrorLength sizeofIPv4Header sizeofIcmpHeader
    omega
  have placed : ∃ rest, icmpError i type p =
      (List.replicate 12 0 ++ bigEndian 2 MAC_PROTO_IPV4 ++ [0x45, 0]) ++
        (bigEndian 2 (icmpErrorLength p) ++ rest) := by
    simp only [icmpError, icmpErrorHeader, List.append_assoc]
    exact ⟨_, rfl⟩
  obtain ⟨rest, same⟩ := placed
  have field := bytesAt_middle (List.replicate 12 0 ++ bigEndian 2 MAC_PROTO_IPV4 ++ [0x45, 0])
    (bigEndian 2 (icmpErrorLength p)) rest
  rw [← same, length_bigEndian] at field
  exact (congrArg fromBigEndian field).trans (fromBigEndian_bigEndian small)

theorem le_trimmedSize_icmpError : 35 ≤ trimmedSize (icmpError i type p) := by
  have long : 34 < (icmpError i type p).length :=
    (List.getElem?_eq_some_iff.mp (getElem?_icmpError_type i type p)).1
  unfold trimmedSize
  split
  case isTrue =>
    rw [ushortAt_icmpError]
    unfold icmpErrorLength sizeofIPv4Header sizeofIcmpHeader
    omega
  case isFalse => exact long

end

variable {i : L3If}
variable {type : UInt8}
variable {p pkt : Pkt}

theorem getD_generated
    (generated : parsePacket (icmpError i type p) = some pkt)
    {place : Nat}
    {byte : UInt8}
    (near : place < 21)
    (written : (icmpError i type p)[sizeofMacHeader + place]? = some byte) :
    pkt.l3.getD place 0 = byte := by
  have kept := le_trimmedSize_icmpError i type p
  have inside : sizeofMacHeader + place < trimmedSize (icmpError i type p) := by
    unfold sizeofMacHeader
    omega
  rw [Pkt.l3, packetData_of_parsePacket generated, List.getD_eq_getElem?_getD, List.getElem?_drop, List.getElem?_take_of_lt inside,
    written, Option.getD_some]

theorem headerSize_generated (generated : parsePacket (icmpError i type p) = some pkt) :
    headerSize pkt.l3 = 20 := by
  unfold headerSize
  rw [getD_generated generated (by omega) (getElem?_icmpError_version i type p)]
  rfl

theorem timeToLive_generated (generated : parsePacket (icmpError i type p) = some pkt) :
    timeToLive pkt.l3 = 0xff :=
  getD_generated generated (by omega) (getElem?_icmpError_timeToLive i type p)

/-- The packets of every interface that wait for its next poll. -/
def L3Sw.queues (s : L3Sw) : List (List L3Packet) :=
  s.ifList.items.map L3If.ipPacketQueue

/-- What `storeIpPacket` puts into the queue. -/
def storedPacket (now : Nat) (dst : Nat × UInt32) (p : Pkt) : L3Packet where
  packet := p.setL3 (fillChecksum p.l3)
  expire := now + IP_WAIT_FOR_ARP_TIMEOUT
  nextHopIp := dst.2

theorem queues_storeIpPacket
    (s : L3Sw)
    (now : Nat)
    (dst : Nat × UInt32)
    (p : Pkt) :
    (storeIpPacket s now dst p).queues =
      s.queues.modify dst.1 fun queue => queue ++ [storedPacket now dst p] := by
  apply List.ext_getElem?
  intro place
  have stored : (storeIpPacket s now dst p).ifList.items[place]? =
      s.ifList.items[place]?.map fun i =>
        if dst.1 = place then operate i (.storeIpPacket (storedPacket now dst p)) else i :=
    List.getElem?_modify _ _ _ _
  rw [L3Sw.queues, L3Sw.queues, List.getElem?_modify, List.getElem?_map, List.getElem?_map, stored]
  cases s.ifList.items[place]? with
  | none => rfl
  | some i =>
      by_cases here : dst.1 = place
      · simp [here, operate]
      · simp [here]

theorem queues_knownArp
    (s : L3Sw)
    (f now : Nat)
    (ip : UInt32)
    (mac : MacAddress) :
    (s.operateAt f (.knownArp now ip mac)).queues = s.queues := by
  apply map_key_modify
  intro i
  unfold operate
  dsimp only
  cases taken : learnable i ip with
  | false => rw [l3KnownArp_of_not_learnable taken]
  | true =>
      cases searched : i.arpTable.search ip with
      | none => rw [l3KnownArp_unknown taken searched]
      | some a => rw [l3KnownArp_known taken searched]

/-- One packet at most is queued, and this is the packet. -/
def QueuesOnly (s : L3Sw) (now : Nat) (p : Pkt) (t : L3Sw) : Prop :=
  t.queues = s.queues ∨
    ∃ dst, t.queues = s.queues.modify dst.1 fun queue => queue ++ [storedPacket now dst p]

theorem queuesOnly_recvRouted
    (s : L3Sw)
    (now : Nat)
    (dst : Nat × UInt32)
    {p : Pkt}
    (noRequest : isEchoRequest p = false) :
    QueuesOnly s now p (recvRouted s now dst p) := by
  unfold recvRouted
  rw [noRequest, if_neg Bool.false_ne_true]
  split
  case isTrue => exact .inl rfl
  case isFalse => exact .inr ⟨dst, queues_storeIpPacket s now dst p⟩

section

variable {p : Pkt}

theorem l3_lowerTtl
    (whole : sizeofMacHeader ≤ p.packetData.length) :
    (lowerTtl p).l3 = copyAt p.l3 8 [newTtl p.l3] :=
  Pkt.l3_setL3 whole _

theorem dstIP_lowerTtl
    (whole : sizeofMacHeader ≤ p.packetData.length)
    (header : 9 ≤ p.l3.length) :
    dstIP (lowerTtl p).l3 = dstIP p.l3 := by
  rw [l3_lowerTtl whole, dstIP, dstIP, uintAt, uintAt, bytesAt_copyAt_outside header (by simp)]

end

theorem isEchoRequest_generated
    (generated : parsePacket (icmpError i type p) = some pkt)
    (error : type ≠ ICMP_TYPE_ECHO_REQUEST) :
    isEchoRequest (lowerTtl pkt) = false := by
  have size : 35 ≤ pkt.packetData.length := by
    have kept := le_trimmedSize_icmpError i type p
    have long : 34 < (icmpError i type p).length :=
      (List.getElem?_eq_some_iff.mp (getElem?_icmpError_type i type p)).1
    rw [packetData_of_parsePacket generated, List.length_take]
    omega
  have whole : sizeofMacHeader ≤ pkt.packetData.length := Nat.le_trans (by decide) size
  have header : 8 + [newTtl pkt.l3].length ≤ pkt.l3.length := by
    rw [Pkt.l3, List.length_drop, List.length_singleton]
    unfold sizeofMacHeader
    omega
  have typed : ((lowerTtl pkt).l3.drop (headerSize (lowerTtl pkt).l3)).getD 0 0 = type := by
    rw [l3_lowerTtl whole, headerSize_copyAt header (by omega), headerSize_generated generated,
      List.getD_eq_getElem?_getD, List.getElem?_drop, getElem?_copyAt_outside header (by simp),
      ← List.getD_eq_getElem?_getD]
    exact getD_generated generated (by omega) (getElem?_icmpError_type i type p)
  unfold isEchoRequest
  rw [typed]
  simp [error]

/-! ## Received packets -/

theorem recvIpWith_generated
    (generated : parsePacket (icmpError i type p) = some pkt)
    (error : type ≠ ICMP_TYPE_ECHO_REQUEST)
    (s : L3Sw)
    (now f : Nat) :
    ∃ t, (∀ again, recvIpWith again s now f pkt true = some t) ∧
      QueuesOnly s now (lowerTtl pkt) t := by
  have passes : newTtl pkt.l3 ≠ 0 := by
    unfold newTtl
    rw [timeToLive_generated generated]
    decide
  unfold recvIpWith
  split
  case isTrue => exact ⟨s, fun _ => rfl, .inl rfl⟩
  case isFalse =>
    dsimp only
    have learns := queues_knownArp s f now (srcIP pkt.l3) pkt.macAddressSrc
    generalize s.operateAt f (.knownArp now (srcIP pkt.l3) pkt.macAddressSrc) = learnt at learns ⊢
    split
    case isTrue => exact ⟨learnt, fun _ => rfl, .inl learns⟩
    case isFalse =>
      cases learnt.ifList.items[f]? with
      | none => exact ⟨learnt, fun _ => rfl, .inl learns⟩
      | some i =>
          dsimp only [recvUnicast]
          cases l3GetNextIf learnt (dstIP (lowerTtl pkt).l3) with
          | none => exact ⟨learnt, fun _ => if_neg fun expired => passes expired.1, .inl learns⟩
          | some dst =>
              refine ⟨recvRouted learnt now dst (lowerTtl pkt), fun _ =>
                if_neg fun expired => passes expired.1, ?_⟩
              have queued := queuesOnly_recvRouted learnt now dst
                (isEchoRequest_generated generated error)
              unfold QueuesOnly at queued ⊢
              rw [learns] at queued
              exact queued

/-- A packet that the switch passes on: valid, to a single host, and not to the switch. -/
structure IsTransit (s : L3Sw) (p : Pkt) : Prop where
  parsed : ∃ data, parsePacket data = some p
  ipv4 : p.typeL3 = .ipv4
  valid : ipCheckChecksum p.l3 = true
  unicast : p.broadcastPacket = false
  others : ∀ i ∈ s.ifList.items, dstIP p.l3 ≠ i.ipAddress

/-- A packet has only another TTL and another checksum. -/
structure GoesOn (old new : List UInt8) : Prop where
  size : new.length = old.length
  timeToLive : (timeToLive (new.drop sizeofMacHeader)).toNat + 1 =
    (timeToLive (old.drop sizeofMacHeader)).toNat
  checksum : ipCheckChecksum (new.drop sizeofMacHeader) = true
  others : ∀ place, place ≠ 22 → place ≠ 24 → place ≠ 25 → new[place]? = old[place]?

/-- What becomes of a packet that the switch passes on. -/
structure Forwards (s : L3Sw) (now : Nat) (i : L3If) (p : Pkt) (t : L3Sw) : Prop where
  expired : timeToLive p.l3 ≤ 1 →
    t.queues = s.queues ∨
      ∃ pkt, parsePacket (icmpError i 11 p) = some pkt ∧ QueuesOnly s now (lowerTtl pkt) t
  /-- Another packet is queued on the interface to which its way leads. -/
  routed : 1 < timeToLive p.l3 →
    ∀ dst, l3GetNextIf s (dstIP p.l3) = some dst →
      ∃ packet d,
        t.queues = s.queues.modify dst.1 (fun queue => queue ++ [packet]) ∧
        s.ifList.items[dst.1]? = some d ∧
        packet.nextHopIp = dst.2 ∧
        d.inSubnet packet.nextHopIp ∧
        GoesOn p.packetData packet.packet.packetData

theorem newTtl_eq_zero_iff (ip : List UInt8) : newTtl ip = 0 ↔ timeToLive ip ≤ 1 := by
  unfold newTtl
  generalize timeToLive ip = ttl
  by_cases positive : 1 ≤ ttl
  · rw [if_pos positive, UInt8.le_iff_toNat_le]
    rw [UInt8.le_iff_toNat_le] at positive
    rw [← UInt8.toNat_inj, UInt8.toNat_sub_of_le _ _ (UInt8.le_iff_toNat_le.mpr positive)]
    simp at positive ⊢
    omega
  · rw [if_neg positive]
    rw [UInt8.le_iff_toNat_le] at positive ⊢
    simp at positive ⊢
    omega

theorem goesOn_storedPacket
    (whole : sizeofMacHeader ≤ p.packetData.length)
    (header : sizeofIPv4Header ≤ p.l3.length)
    (alive : 1 < timeToLive p.l3)
    (now : Nat)
    (dst : Nat × UInt32) :
    GoesOn p.packetData (storedPacket now dst (lowerTtl p)).packet.packetData := by
  have ttlInside : 8 + [newTtl p.l3].length ≤ p.l3.length := by
    unfold sizeofIPv4Header at header
    exact Nat.le_trans (by simp) header
  have sameLength : (lowerTtl p).l3.length = p.l3.length := by
    rw [l3_lowerTtl whole, length_copyAt ttlInside]
  have stillHeader : sizeofIPv4Header ≤ (lowerTtl p).l3.length := sameLength ▸ header
  have stored : (storedPacket now dst (lowerTtl p)).packet =
      p.setL3 (fillChecksum (lowerTtl p).l3) :=
    Pkt.setL3_setL3 whole _ _
  have behind : (p.setL3 (fillChecksum (lowerTtl p).l3)).packetData.drop sizeofMacHeader =
      fillChecksum (lowerTtl p).l3 :=
    Pkt.l3_setL3 whole _
  have filled := fillChecksum_eq stillHeader
  generalize ipChecksum ((clearChecksum (lowerTtl p).l3).take (headerSize (lowerTtl p).l3)) =
    checksum at filled
  have room := checksum_inside stillHeader checksum
  rw [stored]
  constructor
  case size =>
    rw [Pkt.length_setL3 whole, filled, length_copyAt room, sameLength, Pkt.l3, List.length_drop]
    omega
  case timeToLive =>
    have lowered : timeToLive (fillChecksum (lowerTtl p).l3) = timeToLive p.l3 - 1 := by
      rw [timeToLive, filled, List.getD_eq_getElem?_getD, getElem?_copyAt_outside room (by simp),
        l3_lowerTtl whole, show (8 : Nat) = 8 + 0 from rfl,
        getElem?_copyAt_inside ttlInside (by simp)]
      have positive : 1 ≤ timeToLive p.l3 := by
        rw [UInt8.le_iff_toNat_le]
        rw [UInt8.lt_iff_toNat_lt] at alive
        exact alive.le
      simp [newTtl, positive]
    rw [behind, lowered]
    rw [UInt8.lt_iff_toNat_lt] at alive
    rw [UInt8.toNat_sub_of_le _ _ (UInt8.le_iff_toNat_le.mpr alive.le)]
    exact Nat.sub_add_cancel alive.le
  case checksum =>
    rw [behind]
    exact ipCheckChecksum_fillChecksum stillHeader
  case others =>
    intro place noTtl noFirst noSecond
    rw [Pkt.getElem?_setL3 whole]
    split
    case isTrue => rfl
    case isFalse above =>
      have reached : sizeofMacHeader + (place - sizeofMacHeader) = place := by omega
      unfold sizeofMacHeader at above reached ⊢
      rw [filled, getElem?_copyAt_outside room (by
          rw [length_littleUshort]
          omega),
        l3_lowerTtl whole, getElem?_copyAt_outside ttlInside (by simp; omega), Pkt.l3,
        List.getElem?_drop]
      exact congrArg (fun index => p.packetData[index]?) reached

theorem icmpError_congr
    {i j : L3If}
    (same : SameParameters i j)
    (type : UInt8)
    (p : Pkt) :
    icmpError j type p = icmpError i type p := by
  unfold icmpError icmpErrorHeader
  rw [same.ipAddress]

theorem l3RecvIp_generated
    (generated : parsePacket (icmpError i type p) = some pkt)
    (error : type ≠ ICMP_TYPE_ECHO_REQUEST)
    (fuel : Nat)
    (s : L3Sw)
    (now f : Nat) :
    ∃ t, l3RecvIp (fuel + 1) s now f pkt true = some t ∧ QueuesOnly s now (lowerTtl pkt) t := by
  obtain ⟨t, received, queued⟩ := recvIpWith_generated generated error s now f
  exact ⟨t, received _, queued⟩

variable {i : L3If} {p : Pkt}

theorem recvIpWith_transit
    {s : L3Sw}
    {now f : Nat}
    (listed : s.ifList.items[f]? = some i)
    (transit : IsTransit s p) :
    ∃ learnt j, s.Works learnt ∧ learnt.queues = s.queues ∧ SameParameters i j ∧
      ∀ again self, recvIpWith again s now f p self = recvUnicast again learnt now j p self := by
  refine ⟨s.operateAt f (.knownArp now (srcIP p.l3) p.macAddressSrc), _, .operateAt .nothing f _,
    queues_knownArp s f now (srcIP p.l3) p.macAddressSrc,
    sameParameters_operate i (.knownArp now (srcIP p.l3) p.macAddressSrc), ?_⟩
  intro again self
  have listedStill : (s.operateAt f
      (.knownArp now (srcIP p.l3) p.macAddressSrc)).ifList.items[f]? =
        some (operate i (.knownArp now (srcIP p.l3) p.macAddressSrc)) :=
    (List.getElem?_modify _ _ _ _).trans (by simp [listed])
  unfold recvIpWith
  rw [if_neg (by simp [transit.valid])]
  dsimp only
  rw [if_neg (by simp [transit.unicast]), listedStill]

theorem recvUnicast_expired
    {s : L3Sw}
    (expired : timeToLive p.l3 ≤ 1)
    (other : dstIP p.l3 ≠ i.ipAddress)
    (fuel : Nat)
    (now f : Nat)
    (self : Bool) :
    ∃ t, recvUnicast (fun s pkt => l3RecvIp (fuel + 1) s now f pkt true) s now i p self = some t ∧
      (t.queues = s.queues ∨
        ∃ pkt, parsePacket (icmpError i 11 p) = some pkt ∧
          QueuesOnly s now (lowerTtl pkt) t) := by
  unfold recvUnicast
  rw [if_pos ⟨(newTtl_eq_zero_iff p.l3).mpr expired, other⟩]
  cases generated : parsePacket (icmpError i 11 p) with
  | none => exact ⟨s, rfl, .inl rfl⟩
  | some pkt =>
      obtain ⟨t, received, queued⟩ := l3RecvIp_generated generated (by decide) fuel s now f
      exact ⟨t, received, .inr ⟨pkt, rfl, queued⟩⟩

theorem l3RecvIp_terminates
    (fuel : Nat)
    (s : L3Sw)
    (now f : Nat)
    (p : Pkt)
    (self : Bool) :
    ∃ t, l3RecvIp (fuel + 2) s now f p self = some t := by
  rw [l3RecvIp_succ]
  unfold recvIpWith
  split
  case isTrue => exact ⟨s, rfl⟩
  case isFalse =>
    dsimp only
    generalize s.operateAt f (.knownArp now (srcIP p.l3) p.macAddressSrc) = learnt
    split
    case isTrue => exact ⟨learnt, rfl⟩
    case isFalse =>
      split
      case h_1 => exact ⟨learnt, rfl⟩
      case h_2 i _ =>
        unfold recvUnicast
        dsimp only
        split
        case isTrue =>
          split
          case h_1 => exact ⟨learnt, rfl⟩
          case h_2 pkt generated =>
            obtain ⟨t, received, _⟩ := l3RecvIp_generated generated (by decide) fuel learnt now f
            exact ⟨t, received⟩
        case isFalse =>
          split
          case h_1 dst _ => exact ⟨recvRouted learnt now dst (lowerTtl p), rfl⟩
          case h_2 =>
            split
            case isTrue => exact ⟨learnt, rfl⟩
            case isFalse =>
              split
              case h_1 => exact ⟨learnt, rfl⟩
              case h_2 pkt generated =>
                obtain ⟨t, received, _⟩ :=
                  l3RecvIp_generated generated (by decide) fuel learnt now f
                exact ⟨t, received⟩

theorem recvUnicast_routed
    {s learnt : L3Sw}
    {dst : Nat × UInt32}
    (works : s.Works learnt)
    (transit : IsTransit s p)
    (alive : 1 < timeToLive p.l3)
    (routed : l3GetNextIf s (dstIP p.l3) = some dst)
    (again : L3Sw → Pkt → Option L3Sw)
    (now : Nat)
    (self : Bool) :
    recvUnicast again learnt now i p self = some (storeIpPacket learnt now dst (lowerTtl p)) := by
  obtain ⟨data, parsed⟩ := transit.parsed
  obtain ⟨header, inside⟩ := headerSize_of_parsePacket parsed transit.ipv4
  have bytes : sizeofIPv4Header ≤ p.l3.length := Nat.le_trans header inside
  have whole : sizeofMacHeader ≤ p.packetData.length := by
    rw [Pkt.l3, List.length_drop] at bytes
    unfold sizeofIPv4Header sizeofMacHeader at *
    omega
  have sameDst : dstIP (lowerTtl p).l3 = dstIP p.l3 :=
    dstIP_lowerTtl whole (Nat.le_trans (by decide) bytes)
  have notMine : isForMyself learnt dst (lowerTtl p) = false := by
    obtain ⟨operations, reached⟩ := works.after dst.1
    unfold isForMyself
    rw [reached, sameDst]
    cases before : s.ifList.items[dst.1]? with
    | none => rfl
    | some d =>
        have sameAddress := (sameParameters_after d operations).ipAddress
        simpa [sameAddress] using transit.others d (List.mem_of_getElem? before)
  have goesOn : ¬(newTtl p.l3 = 0 ∧ dstIP p.l3 ≠ i.ipAddress) := by
    rintro ⟨zero, _⟩
    exact absurd ((newTtl_eq_zero_iff p.l3).mp zero) (UInt8.not_le.mpr alive)
  unfold recvUnicast
  rw [if_neg goesOn]
  dsimp only
  rw [sameDst, works.l3GetNextIf_eq, routed]
  dsimp only
  rw [recvRouted, notMine, if_neg Bool.false_ne_true]

/-- A packet in transit never goes on when it has expired, and else goes to one interface, the
one of its route; and a packet that the switch generates for it leads to no other one. -/
theorem l3RecvIp_forwards
    (fuel : Nat)
    (s : L3Sw)
    (now f : Nat)
    (p : Pkt)
    (self : Bool) :
    (∃ t, l3RecvIp (fuel + 2) s now f p self = some t ∧
      ∀ i, s.ifList.items[f]? = some i → IsTransit s p → Forwards s now i p t) ∧
    ∀ type i pkt, type = 3 ∨ type = 11 → parsePacket (icmpError i type p) = some pkt →
      ∃ t, ∀ again, recvIpWith again s now f pkt true = some t := by
  constructor
  case left =>
    obtain ⟨t, received⟩ := l3RecvIp_terminates fuel s now f p self
    refine ⟨t, received, ?_⟩
    intro i listed transit
    obtain ⟨learnt, j, works, sameQueues, same, comes⟩ := recvIpWith_transit listed transit
    rw [l3RecvIp_succ, comes] at received
    constructor
    case expired =>
      intro expired
      have other : dstIP p.l3 ≠ j.ipAddress := by
        rw [same.ipAddress]
        exact transit.others i (List.mem_of_getElem? listed)
      obtain ⟨u, ends, queued⟩ := recvUnicast_expired expired other fuel now f self
      obtain rfl : u = t := Option.some.inj (ends.symm.trans received)
      unfold QueuesOnly at queued ⊢
      rw [sameQueues, icmpError_congr same] at queued
      exact queued
    case routed =>
      intro alive dst routed
      rw [recvUnicast_routed works transit alive routed] at received
      injection received with ends
      obtain ⟨d, found, inside⟩ := inSubnet_of_l3GetNextIf routed
      obtain ⟨data, parsed⟩ := transit.parsed
      obtain ⟨header, headerInside⟩ := headerSize_of_parsePacket parsed transit.ipv4
      have bytes : sizeofIPv4Header ≤ p.l3.length := Nat.le_trans header headerInside
      have whole : sizeofMacHeader ≤ p.packetData.length := by
        rw [Pkt.l3, List.length_drop] at bytes
        unfold sizeofIPv4Header sizeofMacHeader at *
        omega
      refine ⟨storedPacket now dst (lowerTtl p), d, ?_, found, rfl, inside,
        goesOn_storedPacket whole bytes alive now dst⟩
      rw [← ends, queues_storeIpPacket, sameQueues]
  case right =>
    intro type i pkt error generated
    have noRequest : type ≠ ICMP_TYPE_ECHO_REQUEST := by
      obtain rfl | rfl := error
      · decide
      · decide
    obtain ⟨t, received, _⟩ := recvIpWith_generated generated noRequest s now f
    exact ⟨t, received⟩

/-- A switch between `10.0.0.1/8` and `192.168.1.1/24`. -/
def exampleSwitch : L3Sw where
  active := true
  ifList :=
    (KeyedList.empty.insert
      { hubName := .ofAscii "EAST", ipAddress := 0x0100000a, subnetMask := 0x000000ff
        macAddress := macOf 2 }).insert
      { hubName := .ofAscii "WEST", ipAddress := 0x0101a8c0, subnetMask := 0x00ffffff
        macAddress := macOf 4 }

/-- A frame with a packet from `10.0.0.9` to `192.168.1.2`. -/
def exampleTransitFrame : List UInt8 :=
  (macOf 2).val ++ (macOf 8).val ++ bigEndian 2 MAC_PROTO_IPV4 ++
    fillChecksum [0x45, 0, 0, 20, 0, 0, 0, 0, 64, 99, 0, 0, 10, 0, 0, 9, 192, 168, 1, 2]

def exampleTransit : Pkt where
  packetData := exampleTransitFrame
  typeL3 := .ipv4

/-- The packet goes from the first interface to the second one. -/
theorem l3RecvIp_forwards_transit :
    ∃ t, l3RecvIp 2 exampleSwitch 1000 0 exampleTransit false = some t ∧
      ∃ packet : L3Packet,
        t.queues = [[], [packet]] ∧ packet.nextHopIp = 0x0201a8c0 ∧
          GoesOn exampleTransit.packetData packet.packet.packetData := by
  have first : ∃ i, exampleSwitch.ifList.items[0]? = some i ∧ i.ipAddress = 0x0100000a :=
    ⟨_, rfl, by decide +kernel⟩
  have transit : IsTransit exampleSwitch exampleTransit :=
    ⟨⟨exampleTransitFrame, by decide +kernel⟩, rfl, by decide +kernel, by decide +kernel,
      by decide +kernel⟩
  have route : l3GetNextIf exampleSwitch (dstIP exampleTransit.l3) = some (1, 0x0201a8c0) := by
    decide +kernel
  have noPackets : exampleSwitch.queues = [[], []] := by decide +kernel
  obtain ⟨i, listed, _⟩ := first
  obtain ⟨t, received, forwards⟩ :=
    (l3RecvIp_forwards 0 exampleSwitch 1000 0 exampleTransit false).1
  obtain ⟨packet, d, queued, _, hop, _, goesOn⟩ :=
    (forwards i listed transit).routed (by decide +kernel) (1, 0x0201a8c0) route
  refine ⟨t, received, packet, ?_, hop, goesOn⟩
  rw [queued, noPackets]
  rfl

end Layer3
end SoftEther
