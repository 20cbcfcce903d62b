import SoftEther.Cedar.IpCombine

/-!
# ICMP echo requests of the user-mode NAT

`CreateNatIcmp` keeps the IPv4 header of a request and the eight bytes behind it.  In a packet these
are the first bytes of the ICMP message.  Behind the clone of a header that `CombineIp` made there
is other memory.
-/

namespace SoftEther.NatIcmp

/-- `Clone` of memory that begins with a block: what is behind the block is unknown. -/
def clone (block : List (Option UInt8)) (size : Nat) : List (Option UInt8) :=
  (reAlloc block size).take size

/-- The fields of `VH` that decide about a request. -/
structure VirtualHost where
  hostIP : UInt32
  hostMask : UInt32
  nnIsActive : Bool
  disableUserModeSecureNAT : Bool
  icmpRawSocketOk : Bool
  icmpApiOk : Bool
  canCreateNewNatEntry : Bool
  /-- There is an entry with the addresses and the bytes of the identifier. -/
  searchNat : UInt32 → UInt32 → List (Option UInt8) → Bool

/-- What `IpReceived` is called with. -/
structure IpReceived where
  srcIP : UInt32
  destIP : UInt32
  data : List (Option UInt8)
  macBroadcast : Bool
  ttl : UInt8
  ipHeader : Option (List (Option UInt8))
  ipHeaderSize : Nat

/-- `CreateNatIcmp`: the copy in the entry. -/
def createNatIcmp
    (v : VirtualHost)
    (originalCopy : List (Option UInt8))
    (originalCopySize : Nat) :
    Option (List (Option UInt8)) :=
  if originalCopySize = 0 ∨ v.canCreateNewNatEntry = false then none
  else some (clone originalCopy originalCopySize)

/-- `VirtualIcmpEchoRequestReceivedRaw`: the copy in the entry that it creates. -/
def virtualIcmpEchoRequestReceivedRaw (v : VirtualHost) (r : IpReceived) :
    Option (List (Option UInt8)) :=
  match r.ipHeader with
  | none => none
  | some ipHeader =>
      if r.data.length < 8 then none
      else if r.destIP = v.hostIP then none
      else if r.destIP &&& v.hostMask = v.hostIP &&& v.hostMask then none
      else if r.ttl ≤ 1 then none
      else if v.icmpRawSocketOk ∧ v.searchNat r.srcIP r.destIP ((r.data.drop 4).take 2) then none
      else createNatIcmp v ipHeader (r.ipHeaderSize + 8)

/-- `IpReceived` and `VirtualIcmpEchoRequestReceived` with an echo request whose checksum is
right. -/
def virtualIcmpEchoRequestReceived (v : VirtualHost) (r : IpReceived) :
    Option (List (Option UInt8)) :=
  if r.macBroadcast ∨ v.nnIsActive ∨ v.disableUserModeSecureNAT then none
  else if v.icmpRawSocketOk ∨ v.icmpApiOk then virtualIcmpEchoRequestReceivedRaw v r
  else none

/-- How `VirtualIpReceived` and `CombineIp` get to `IpReceived`. -/
inductive EchoRequest
  | packet
      (srcIP destIP : UInt32)
      (macBroadcast : Bool)
      (ttl : UInt8)
      (ip : IpFragment)
      (trailing : List UInt8)
  | reassembled (assembly : IpCombine.Assembly) (datagram : IpDatagram)

namespace EchoRequest

def ipReceived : EchoRequest → IpReceived
  | .packet srcIP destIP macBroadcast ttl ip trailing =>
      { srcIP := srcIP
        destIP := destIP
        data := ip.data.map some
        macBroadcast := macBroadcast
        ttl := ttl
        ipHeader := some ((ip.header ++ ip.data ++ trailing).map some)
        ipHeaderSize := ip.header.length }
  | .reassembled _ datagram =>
      { srcIP := datagram.key.srcIP
        destIP := datagram.key.destIP
        data := datagram.data
        macBroadcast := datagram.macBroadcast
        ttl := datagram.ttl
        ipHeader := datagram.headIpHeaderData.map (·.map some)
        ipHeaderSize := (datagram.headIpHeaderData.map List.length).getD 0 }

def fragments : EchoRequest → List IpFragment
  | .packet _ _ _ _ ip _ => [ip]
  | .reassembled assembly _ => assembly.received

/-- The object has delivered the datagram after some fragments. -/
def Arrived : EchoRequest → Prop
  | .packet _ _ _ _ ip _ => ip.offsetField = 0 ∧ ip.moreFragments = false
  | .reassembled assembly datagram =>
      assembly.delivered = some datagram ∧
        ∃ currentIpQuota now key macBroadcast ttl srcIsLocalMac created,
          IpCombine.insertIpCombine currentIpQuota now key macBroadcast ttl srcIsLocalMac =
              some created ∧
            Library.Reaches IpCombine.Assembly.step
              (fun _ f => ¬(f.offsetField = 0 ∧ f.moreFragments = false)) (.start created) assembly

def isPacket : EchoRequest → Bool
  | .packet .. => true
  | .reassembled .. => false

/-- The copy is the header of the first fragment and the first eight bytes of the message. -/
def Quotes (request : EchoRequest) (copy : List (Option UInt8)) : Prop :=
  ∃ first ∈ request.fragments, first.offsetField = 0 ∧
    ∃ message : List UInt8, request.ipReceived.data.take 8 = message.map some ∧
      copy = (first.header ++ message).map some

end EchoRequest

theorem copy_eq_clone
    {v : VirtualHost}
    {r : IpReceived}
    {copy : List (Option UInt8)}
    (stored : virtualIcmpEchoRequestReceived v r = some copy) :
    8 ≤ r.data.length ∧ ∃ block, r.ipHeader = some block ∧ copy = clone block (r.ipHeaderSize + 8) := by
  unfold virtualIcmpEchoRequestReceived virtualIcmpEchoRequestReceivedRaw createNatIcmp at stored
  cases header : r.ipHeader with
  | none => simp [header] at stored
  | some block =>
      simp only [header, Option.ite_none_left_eq_some, Option.ite_none_right_eq_some,
        Option.some.injEq, Nat.not_lt] at stored
      obtain ⟨_, _, long, _, _, _, _, _, same⟩ := stored
      exact ⟨long, block, rfl, same.symm⟩

theorem none_mem_clone
    {block : List (Option UInt8)}
    {size : Nat}
    (larger : block.length < size) :
    none ∈ clone block size := by
  have same : (reAlloc block size).length = size := by
    unfold reAlloc
    rw [List.length_append, List.length_replicate]
    omega
  unfold clone
  rw [List.take_of_length_le same.le]
  unfold reAlloc
  rw [List.mem_append, List.mem_replicate]
  exact .inr ⟨by omega, rfl⟩

theorem quotes_packet
    {v : VirtualHost}
    {srcIP destIP : UInt32}
    {macBroadcast : Bool}
    {ttl : UInt8}
    {ip : IpFragment}
    {trailing : List UInt8}
    {copy : List (Option UInt8)}
    (first : ip.offsetField = 0)
    (stored : virtualIcmpEchoRequestReceived v
      (EchoRequest.packet srcIP destIP macBroadcast ttl ip trailing).ipReceived = some copy) :
    (EchoRequest.packet srcIP destIP macBroadcast ttl ip trailing).Quotes copy := by
  obtain ⟨long, block, header, same⟩ := copy_eq_clone stored
  replace long : 8 ≤ ip.data.length := by simpa [EchoRequest.ipReceived] using long
  refine ⟨ip, List.mem_singleton_self ip, first, ip.data.take 8, List.map_take.symm, ?_⟩
  rw [same, ← Option.some.inj header]
  change clone _ (ip.header.length + 8) = _
  unfold clone reAlloc
  rw [List.take_append_of_le_length (by simp; omega), ← List.map_take, List.append_assoc,
    List.take_length_add_append, List.take_append_of_le_length long]

theorem not_quotes_reassembled
    {v : VirtualHost}
    {assembly : IpCombine.Assembly}
    {datagram : IpDatagram}
    {copy : List (Option UInt8)}
    (stored : virtualIcmpEchoRequestReceived v
      (EchoRequest.reassembled assembly datagram).ipReceived = some copy) :
    ¬(EchoRequest.reassembled assembly datagram).Quotes copy := by
  rintro ⟨first, _, _, message, _, known⟩
  obtain ⟨_, block, header, same⟩ := copy_eq_clone stored
  obtain ⟨bytes, kept, rfl⟩ := Option.map_eq_some_iff.mp header
  have unknown : none ∈ copy := by
    rw [same]
    apply none_mem_clone
    simp [EchoRequest.ipReceived, kept]
  rw [known] at unknown
  simp at unknown

/-- **The original of an ICMP entry.**  Its copy is the header of the first fragment and the first
eight bytes of the message if and only if the request came in one packet. -/
theorem icmpOriginalCopy_iff
    {v : VirtualHost}
    {request : EchoRequest}
    {copy : List (Option UInt8)}
    (arrived : request.Arrived)
    (stored : virtualIcmpEchoRequestReceived v request.ipReceived = some copy) :
    request.Quotes copy ↔ request.isPacket = true := by
  cases request with
  | packet srcIP destIP macBroadcast ttl ip trailing =>
      exact iff_of_true (quotes_packet arrived.1 stored) rfl
  | reassembled assembly datagram =>
      exact iff_of_false (not_quotes_reassembled stored) Bool.false_ne_true

def exampleHost : VirtualHost where
  hostIP := 3232243201
  hostMask := 4294967040
  nnIsActive := false
  disableUserModeSecureNAT := false
  icmpRawSocketOk := true
  icmpApiOk := false
  canCreateNewNatEntry := true
  searchNat _ _ _ := false

/-- The first eight bytes of an echo request. -/
def echoFragment (moreFragments : Bool) : IpFragment where
  offsetField := 0
  moreFragments := moreFragments
  header := List.replicate 20 69
  data := [8, 0, 247, 253, 0, 1, 0, 1]
  offsetField_lt := by omega
  totalLength_lt := by decide

/-- A request in one packet. -/
theorem icmpOriginalCopy_packet :
    ∃ copy, virtualIcmpEchoRequestReceived exampleHost
        (EchoRequest.packet 3232243210 134744072 false 64 (echoFragment false) []).ipReceived =
          some copy ∧
      (EchoRequest.packet 3232243210 134744072 false 64 (echoFragment false) []).Quotes copy := by
  have arrived :
      (EchoRequest.packet 3232243210 134744072 false 64 (echoFragment false) []).Arrived :=
    ⟨rfl, rfl⟩
  obtain ⟨copy, stored⟩ : ∃ copy, virtualIcmpEchoRequestReceived exampleHost
      (EchoRequest.packet 3232243210 134744072 false 64 (echoFragment false) []).ipReceived =
        some copy := ⟨_, rfl⟩
  exact ⟨copy, stored, (icmpOriginalCopy_iff arrived stored).mpr rfl⟩

/-- The object of a request from 192.168.30.10 to 8.8.8.8. -/
def echoStart : IpCombine.Assembly :=
  .start (IP_COMBINE_INITIAL_BUF_SIZE,
    { IpCombine.Assembly.exampleCombine with
      key := { destIP := 134744072, srcIP := 3232243210, id := 7, protocol := 1 } })

/-- A request of 16 bytes in two fragments. -/
theorem not_icmpOriginalCopy :
    ¬∀ v request copy, EchoRequest.Arrived request →
      virtualIcmpEchoRequestReceived v request.ipReceived = some copy → request.Quotes copy := by
  intro always
  have reached : Library.Reaches IpCombine.Assembly.step
      (fun _ f => ¬(f.offsetField = 0 ∧ f.moreFragments = false)) echoStart
      ((echoStart.feed (echoFragment true)).feed (IpCombine.Assembly.eightBytes 1 false)) :=
    .next (.next .start (by decide) (IpCombine.Assembly.step_feed rfl)) (by decide)
      (IpCombine.Assembly.step_feed rfl)
  obtain ⟨datagram, copy, delivered, stored⟩ :
      ∃ datagram copy,
        ((echoStart.feed (echoFragment true)).feed
          (IpCombine.Assembly.eightBytes 1 false)).delivered = some datagram ∧
        virtualIcmpEchoRequestReceived exampleHost
          (EchoRequest.reassembled
            ((echoStart.feed (echoFragment true)).feed (IpCombine.Assembly.eightBytes 1 false))
            datagram).ipReceived = some copy := ⟨_, _, rfl, rfl⟩
  refine not_quotes_reassembled stored (always _ _ _ ⟨delivered, ?_⟩ stored)
  refine ⟨0, 0, { destIP := 134744072, srcIP := 3232243210, id := 7, protocol := 1 }, false, 64,
    false, _, ?_, reached⟩
  unfold IpCombine.insertIpCombine IpCombine.Assembly.exampleCombine
  rw [if_neg (by decide)]
  rfl

end SoftEther.NatIcmp
