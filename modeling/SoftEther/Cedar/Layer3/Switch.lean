import SoftEther.Cedar.Layer3.Operations

/-!
# The layer-3 switch at work

What the switch does with the packets that its interfaces receive.  An interface is named by its
position in `IfList`, which does not change while the switch is active.
-/

namespace SoftEther
namespace Layer3

open Library Network TcpIp

/-- An interface does something. -/
def L3Sw.operateAt (s : L3Sw) (f : Nat) (operation : Operation) : L3Sw :=
  { s with
    ifList := s.ifList.modify f (fun i => operate i operation)
      fun i => (sameParameters_operate i operation).hubName }

def ICMP_TYPE_ECHO_REQUEST : UInt8 := 8

def ICMP_TYPE_ECHO_RESPONSE : UInt8 := 0

/-- The number of bytes of a packet that an ICMP error quotes. -/
def quotedSize (p : Pkt) : Nat :=
  min (p.packetData.length - headerSize p.l3) (headerSize p.l3 + 8)

def icmpErrorHeader (i : L3If) (p : Pkt) (checksum : Nat) : List UInt8 :=
  [0x45, 0] ++ bigEndian 2 (sizeofIPv4Header + sizeofIcmpHeader + 4 + headerSize p.l3 + 8) ++
    [0, 0, 0, 0, 0xff, IP_PROTO_ICMPV4] ++ littleUshort checksum ++ (bytesOfUINT i.ipAddress).val ++
      (bytesOfUINT (srcIP p.l3)).val

def icmpErrorBody (type : UInt8) (p : Pkt) (checksum : Nat) : List UInt8 :=
  [type, 0] ++ littleUshort checksum ++ [0, 0, 0, 0] ++ p.l3.take (quotedSize p)

/-- The frame with an ICMP error about a packet, as `L3RecvIp` generates it. -/
def icmpError (i : L3If) (type : UInt8) (p : Pkt) : List UInt8 :=
  List.replicate 12 0 ++ bigEndian 2 MAC_PROTO_IPV4 ++
    (icmpErrorHeader i p (ipChecksum (icmpErrorHeader i p 0)) ++
      (icmpErrorBody type p (ipChecksum (icmpErrorBody type p 0)) ++
        List.replicate (headerSize p.l3 + 8 - quotedSize p) 0))

/-- The IPv4 packet of an echo request as its answer, without the checksum of the header. -/
def echoReply (ip : List UInt8) : List UInt8 :=
  let icmp := ip.drop (headerSize ip)
  let icmp := copyAt (copyAt icmp 2 (littleUshort 0)) 0 [ICMP_TYPE_ECHO_RESPONSE]
  let icmp := copyAt icmp 2 (littleUshort (ipChecksum icmp))
  let header := ip.take (headerSize ip)
  let header := copyAt header 16 (bytesOfUINT (srcIP ip)).val
  let header := copyAt header 12 (bytesOfUINT (dstIP ip)).val
  copyAt (copyAt header 8 [0xff]) 6 [0, 0] ++ icmp

/-- The TTL of a packet that goes on. -/
def newTtl (ip : List UInt8) : UInt8 :=
  if 1 ≤ timeToLive ip then timeToLive ip - 1 else 0

/-- `p->L3.IPv4Header->TimeToLive = (UCHAR)new_ttl`. -/
def lowerTtl (p : Pkt) : Pkt :=
  p.setL3 (copyAt p.l3 8 [newTtl p.l3])

/-- The end of `L3RecvIp`: the packet is stored to the interface. -/
def storeIpPacket (s : L3Sw) (now : Nat) (dst : Nat × UInt32) (p : Pkt) : L3Sw :=
  s.operateAt dst.1 <| .storeIpPacket
    { packet := p.setL3 (fillChecksum p.l3)
      expire := now + IP_WAIT_FOR_ARP_TIMEOUT
      nextHopIp := dst.2 }

/-- The packet is addressed to the interface to which it would go. -/
def isForMyself (s : L3Sw) (dst : Nat × UInt32) (p : Pkt) : Bool :=
  s.ifList.items[dst.1]?.any fun d => dstIP p.l3 = d.ipAddress

def isEchoRequest (p : Pkt) : Bool :=
  p.typeL4 = .icmpv4 ∧ (p.l3.drop (headerSize p.l3)).getD 0 0 = ICMP_TYPE_ECHO_REQUEST

/-- `L3RecvIp` behind the search for the interface to which the packet goes. -/
def recvRouted (s : L3Sw) (now : Nat) (dst : Nat × UInt32) (p : Pkt) : L3Sw :=
  if isForMyself s dst p then
    if isEchoRequest p then
      let p := p.setL3 (echoReply p.l3)
      match l3GetNextIf s (dstIP p.l3) with
      | none => s
      | some dst => storeIpPacket s now dst p
    else s
  else storeIpPacket s now dst p

/-- The rest of `L3RecvIp` for a packet to a single host, from the computation of the TTL, with
what the call of itself for a generated packet does. -/
def recvUnicast
    (again : L3Sw → Pkt → Option L3Sw)
    (s : L3Sw)
    (now : Nat)
    (i : L3If)
    (p : Pkt)
    (self : Bool) :
    Option L3Sw :=
  if newTtl p.l3 = 0 ∧ dstIP p.l3 ≠ i.ipAddress then
    match parsePacket (icmpError i 11 p) with
    | none => some s
    | some pkt => again s pkt
  else
    let p := lowerTtl p
    match l3GetNextIf s (dstIP p.l3) with
    | some dst => some (recvRouted s now dst p)
    | none =>
        if self then some s
        else
          match parsePacket (icmpError i 3 p) with
          | none => some s
          | some pkt => again s pkt

/-- The body of `L3RecvIp`, with what its call of itself for a generated packet does. -/
def recvIpWith
    (again : L3Sw → Pkt → Option L3Sw)
    (s : L3Sw)
    (now f : Nat)
    (p : Pkt)
    (self : Bool) :
    Option L3Sw :=
  if ipCheckChecksum p.l3 = false then some s
  else
    let s := s.operateAt f (.knownArp now (srcIP p.l3) p.macAddressSrc)
    if p.broadcastPacket then some s
    else
      match s.ifList.items[f]? with
      | none => some s
      | some i => recvUnicast again s now i p self

/-- `L3RecvIp`, with the depth to which it may call itself. -/
def l3RecvIp (fuel : Nat) (s : L3Sw) (now f : Nat) (p : Pkt) (self : Bool) : Option L3Sw :=
  match fuel with
  | 0 => none
  | fuel + 1 => recvIpWith (fun s pkt => l3RecvIp fuel s now f pkt true) s now f p self

theorem l3RecvIp_succ
    (fuel : Nat)
    (s : L3Sw)
    (now f : Nat)
    (p : Pkt)
    (self : Bool) :
    l3RecvIp (fuel + 1) s now f p self =
      recvIpWith (fun s pkt => l3RecvIp fuel s now f pkt true) s now f p self :=
  rfl

/-- The interface with other packets in `IpPacketQueue`. -/
def L3If.withQueue (f : L3If) (queue : List L3Packet) : L3If :=
  { f with ipPacketQueue := queue }

theorem l3SendArp_withQueue
    (f : L3If)
    (now : Nat)
    (ip : UInt32)
    (queue : List L3Packet) :
    l3SendArp (f.withQueue queue) now ip = (l3SendArp f now ip).withQueue queue := by
  have searches : (f.withQueue queue).arpWaitTable.search ip = f.arpWaitTable.search ip := rfl
  unfold l3SendArp
  rw [searches]
  cases isReserved ip with
  | true => rfl
  | false =>
      cases f.arpWaitTable.search ip with
      | some pending => rfl
      | none => rfl

theorem l3SendIp_withQueue
    (f : L3If)
    (now : Nat)
    (p : L3Packet)
    (queue : List L3Packet) :
    l3SendIp (f.withQueue queue) now p = (l3SendIp f now p).withQueue queue := by
  have broadcasts : isBroadcast (f.withQueue queue) p = isBroadcast f p := rfl
  have mine : isForInterface (f.withQueue queue) p = isForInterface f p := rfl
  have searches : l3SearchArpTable (f.withQueue queue) p.nextHopIp =
      l3SearchArpTable f p.nextHopIp := rfl
  unfold l3SendIp
  rw [broadcasts, mine, searches]
  by_cases ipv4 : p.packet.typeL3 ≠ .ipv4
  · rw [if_pos ipv4, if_pos ipv4]
  · rw [if_neg ipv4, if_neg ipv4]
    cases isBroadcast f p with
    | true => rfl
    | false =>
        cases isForInterface f p with
        | true => rfl
        | false =>
            cases l3SearchArpTable f p.nextHopIp with
            | some a => rfl
            | none =>
                exact l3SendArp_withQueue
                  { f with
                    ipWaitList := f.ipWaitList ++ [p.expireAt (now + IP_WAIT_FOR_ARP_TIMEOUT)] }
                  now p.nextHopIp queue

theorem after_append
    (f : L3If)
    (later earlier : List Operation) :
    after f (later ++ earlier) = after (after f earlier) later := by
  induction later with
  | nil => rfl
  | cons operation later inductionHypothesis =>
      rw [List.cons_append, after, after, inductionHypothesis]

theorem l3PollingIpQueue_eq (f : L3If) (now : Nat) :
    l3PollingIpQueue f now =
      after f (List.replicate f.ipPacketQueue.length (.nextIpPacket now)) := by
  have loop : ∀ (queue : List L3Packet) (f : L3If),
      queue.foldl (fun f p => l3SendIp f now p) (f.withQueue []) =
        after (f.withQueue queue) (List.replicate queue.length (.nextIpPacket now)) := by
    intro queue
    induction queue with
    | nil => exact fun f => rfl
    | cons p rest inductionHypothesis =>
        intro f
        have next : operate (f.withQueue (p :: rest)) (.nextIpPacket now) =
            (l3SendIp f now p).withQueue rest :=
          l3SendIp_withQueue f now p rest
        rw [List.foldl_cons, l3SendIp_withQueue, inductionHypothesis, List.length_cons,
          List.replicate_succ', after_append, after, after, next]
  exact loop f.ipPacketQueue f

/-- What `L3Polling` does, the latest first. -/
def pollingOperations (f : L3If) (now : Nat) : List Operation :=
  [.deleteOldIpWaitList now, .pollingArpWaitTable now, .deleteOldArpTable now] ++
    (List.replicate (l3PollingBeacon f now).ipPacketQueue.length (.nextIpPacket now) ++
      [.pollingBeacon now])

theorem l3Polling_eq (f : L3If) (now : Nat) :
    l3Polling f now = after f (pollingOperations f now) := by
  have received : l3PollingIpQueue (l3PollingBeacon f now) now =
      after f (List.replicate (l3PollingBeacon f now).ipPacketQueue.length (.nextIpPacket now) ++
        [.pollingBeacon now]) := by
    rw [after_append]
    exact l3PollingIpQueue_eq _ now
  rw [l3Polling, received]
  exact (after_append f [.deleteOldIpWaitList now, .pollingArpWaitTable now,
    .deleteOldArpTable now] _).symm

/-- `L3GetNextPacket`: the packet, and the interface without it. -/
def l3GetNextPacket (f : L3If) (now : Nat) : Option (List UInt8) × L3If :=
  match f.sendQueue with
  | data :: rest => (some data, { f with sendQueue := rest })
  | [] =>
      let f := l3Polling f now
      (f.sendQueue.head?, { f with sendQueue := f.sendQueue.drop 1 })

/-- What `L3GetNextPacket` does, the latest first. -/
def getNextOperations (f : L3If) (now : Nat) : List Operation :=
  .getNext :: if f.sendQueue = [] then pollingOperations f now else []

theorem l3GetNextPacket_eq (f : L3If) (now : Nat) :
    (l3GetNextPacket f now).2 = after f (getNextOperations f now) := by
  unfold l3GetNextPacket getNextOperations
  split
  case h_1 data rest queued =>
    rw [if_neg (by simp [queued])]
    simp [after, operate, queued]
  case h_2 empty =>
    rw [if_pos empty, after, ← l3Polling_eq]
    rfl

/-! ## What a switch does to its interfaces -/

/-- The interfaces do some operations, and nothing else changes. -/
inductive L3Sw.Works (s : L3Sw) : L3Sw → Prop
  | nothing : Works s s
  /-- An interface does something at last. -/
  | operateAt {t : L3Sw} (earlier : Works s t) (f : Nat) (operation : Operation) :
      Works s (t.operateAt f operation)

variable {s t : L3Sw}

theorem L3Sw.Works.after
    (works : s.Works t)
    (f : Nat) :
    ∃ operations : List Operation,
      t.ifList.items[f]? = s.ifList.items[f]?.map fun i => after i operations := by
  induction works with
  | nothing => exact ⟨[], by simp [Layer3.after]⟩
  | @operateAt t earlier g operation inductionHypothesis =>
      obtain ⟨operations, reached⟩ := inductionHypothesis
      have changed : (t.operateAt g operation).ifList.items[f]? =
          t.ifList.items[f]?.map fun i => if g = f then operate i operation else i :=
        List.getElem?_modify _ _ _ _
      by_cases here : g = f
      · refine ⟨operation :: operations, ?_⟩
        rw [changed, reached]
        simp [here, Layer3.after, Function.comp_def]
      · refine ⟨operations, ?_⟩
        rw [changed, reached]
        simp [here, Function.comp_def]

/-- The routing table and the parameters of the interfaces stay, so packets go where they went. -/
theorem L3Sw.Works.l3GetNextIf_eq
    (works : s.Works t)
    (ip : UInt32) :
    l3GetNextIf t ip = l3GetNextIf s ip := by
  induction works with
  | nothing => rfl
  | @operateAt t earlier g operation inductionHypothesis =>
      rw [← inductionHypothesis]
      have sameSearch : ∀ hop : UInt32,
          ((t.operateAt g operation).ifList.items.findIdx? fun f => f.inSubnet hop) =
            t.ifList.items.findIdx? fun f => f.inSubnet hop := by
        intro hop
        have sameSubnet : ∀ i : L3If, (operate i operation).inSubnet hop = i.inSubnet hop := by
          intro i
          have same := sameParameters_operate i operation
          rw [L3If.inSubnet, L3If.inSubnet, same.ipAddress, same.subnetMask]
        have subnets : (t.operateAt g operation).ifList.items.map (fun i => i.inSubnet hop) =
            t.ifList.items.map fun i => i.inSubnet hop :=
          map_key_modify sameSubnet
        replace subnets := congrArg (List.findIdx? id) subnets
        rw [List.findIdx?_map, List.findIdx?_map] at subnets
        exact subnets
      unfold l3GetNextIf
      simp only [sameSearch]
      rfl

theorem L3Sw.Works.trans
    {s t u : L3Sw}
    (first : s.Works t)
    (second : t.Works u) :
    s.Works u := by
  induction second with
  | nothing => exact first
  | operateAt earlier f operation inductionHypothesis =>
      exact inductionHypothesis.operateAt f operation

/-- The switch after `L3GetNextPacket` for an interface. -/
def L3Sw.getNextPacket (s : L3Sw) (f now : Nat) : L3Sw :=
  { s with
    ifList := s.ifList.modify f (fun i => (l3GetNextPacket i now).2)
      fun i => (congrArg L3If.hubName (l3GetNextPacket_eq i now)).trans
        (sameParameters_after i _).hubName }

end Layer3
end SoftEther
