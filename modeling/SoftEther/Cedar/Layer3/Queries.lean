import SoftEther.Cedar.Layer3.Arp

/-!
# Queries of an interface

`L3KnownArp` looks for the query of the learnt address in the list of the waiting packets, so a
query stays pending after its answer.
-/

namespace SoftEther
namespace Layer3

open TcpIp

variable {f : L3If}

/-! ## Pending queries -/

def NoPendingQuery (f : L3If) (ip : UInt32) : Prop :=
  ∀ w ∈ f.arpWaitTable.items, w.ipAddress ≠ ip

/-- The operation issues a query for the address. -/
def Queries (f : L3If) (ip : UInt32) : Operation → Prop
  | .nextIpPacket _ =>
      ∃ p rest, f.ipPacketQueue = p :: rest ∧ p.nextHopIp = ip ∧ isUnicast f p = true ∧
        l3SearchArpTable f ip = none
  | _ => False

/-- The MAC address of an address has been learnt, and no query for it has been issued since. -/
def Resolved (f : L3If) : List Operation → UInt32 → Prop
  | [], _ => False
  | operation :: earlier, ip =>
      (∃ now mac, operation = .knownArp now ip mac ∧ learnable f ip = true) ∨
        (Resolved f earlier ip ∧ ¬Queries (after f earlier) ip operation)

/-- `L3KnownArp` finds no pending query for the address that it learns. -/
def Unasked (f : L3If) : Operation → Prop
  | .knownArp _ ip _ => learnable f ip = true → NoPendingQuery f ip
  | _ => True

/-- The ARP request for an address, as `L3SendArpRequestNow` sends it. -/
def arpRequestFrame (f : L3If) (ip : UInt32) : List UInt8 :=
  (macOf 255).val ++ f.macAddress.val ++ bigEndian 2 MAC_PROTO_ARPV4 ++
    arpV4Header ARP_OPERATION_REQUEST f.macAddress f.ipAddress (macOf 0) ip

/-- Once an address is resolved, no query for it is pending, and polling asks only for other
addresses. -/
structure QueriesSettled (f : L3If) (operations : List Operation) : Prop where
  noQuery : ∀ ip, Resolved f operations ip → NoPendingQuery (after f operations) ip
  noRequest : ∀ now, ∃ asked : List UInt32,
    (l3PollingArpWaitTable (after f operations) now).sendQueue =
        (after f operations).sendQueue ++ asked.map (arpRequestFrame (after f operations)) ∧
      ∀ ip, Resolved f operations ip → ip ∉ asked

/-- Learning does not touch the pending queries. -/
theorem arpWaitTable_l3KnownArp (f : L3If) (now : Nat) (ip : UInt32) (mac : MacAddress) :
    (l3KnownArp f now ip mac).arpWaitTable = f.arpWaitTable := by
  cases taken : learnable f ip with
  | false => rw [l3KnownArp_of_not_learnable taken]
  | true =>
      cases searched : f.arpTable.search ip with
      | none => rw [l3KnownArp_unknown taken searched]
      | some a => rw [l3KnownArp_known taken searched]

theorem NoPendingQuery.sendArp
    {ip other : UInt32}
    (noQuery : NoPendingQuery f ip)
    (different : other ≠ ip)
    (now : Nat) :
    NoPendingQuery (l3SendArp f now other) ip := by
  unfold l3SendArp
  split
  case isTrue => exact noQuery
  case isFalse =>
    split
    case h_1 => exact noQuery
    case h_2 =>
      intro w listed
      obtain rfl | listed := List.mem_cons.mp ((KeyedList.insert_perm _ _).mem_iff.mp listed)
      · exact different
      · exact noQuery w listed

variable {ip : UInt32}

theorem NoPendingQuery.nextIpPacket
    (noQuery : NoPendingQuery f ip)
    {now : Nat}
    (quiet : ¬Queries f ip (.nextIpPacket now)) :
    NoPendingQuery (l3NextIpPacket f now) ip := by
  unfold l3NextIpPacket
  split
  case h_1 => exact noQuery
  case h_2 p rest queue =>
    generalize popped : ({ f with ipPacketQueue := rest } : L3If) = g
    have same : SameArp f g := popped ▸ ⟨⟨rfl, rfl, rfl, rfl⟩, rfl, rfl⟩
    have noQuery : NoPendingQuery g ip := popped ▸ noQuery
    by_cases unicast : isUnicast g p = true
    · cases searched : l3SearchArpTable g p.nextHopIp with
      | some a =>
          rw [l3SendIp_known unicast searched]
          exact noQuery
      | none =>
          have other : p.nextHopIp ≠ ip := by
            rintro rfl
            rw [same.isUnicast_eq] at unicast
            rw [l3SearchArpTable, same.arpTable] at searched
            exact quiet ⟨p, rest, queue, rfl, unicast, searched⟩
          rw [l3SendIp_unknown unicast searched]
          refine NoPendingQuery.sendArp ?_ other now
          exact noQuery
    · obtain ⟨frames, sent⟩ := l3SendIp_other unicast now
      rw [sent]
      exact noQuery

theorem foldl_pollArpWait
    (now : Nat)
    (items : List L3ArpWait)
    (f : L3If) :
    ∃ asked : List UInt32,
      (items.foldl (pollArpWait now) f).sendQueue =
          f.sendQueue ++ asked.map (arpRequestFrame f) ∧
        (∀ ip ∈ asked, ∃ w ∈ items, w.ipAddress = ip) ∧
        (items.foldl (pollArpWait now) f).arpWaitTable.items.map L3ArpWait.ipAddress =
          f.arpWaitTable.items.map L3ArpWait.ipAddress := by
  induction items generalizing f with
  | nil => exact ⟨[], by simp, by simp, rfl⟩
  | cons w rest inductionHypothesis =>
      obtain ⟨asked, sent, listed, keys⟩ := inductionHypothesis (pollArpWait now f w)
      have same := sameArp_pollArpWait f now w
      have frame : arpRequestFrame (pollArpWait now f w) = arpRequestFrame f := by
        funext ip
        unfold arpRequestFrame
        rw [same.macAddress, same.ipAddress]
      rw [frame] at sent
      have behind : ∀ ip ∈ asked, ∃ query ∈ w :: rest, query.ipAddress = ip := by
        intro ip inAsked
        obtain ⟨query, inRest, address⟩ := listed ip inAsked
        exact ⟨query, List.mem_cons_of_mem _ inRest, address⟩
      have first : (pollArpWait now f w).sendQueue = f.sendQueue ∧
            (pollArpWait now f w).arpWaitTable = f.arpWaitTable ∨
          (pollArpWait now f w).sendQueue =
              f.sendQueue ++ [arpRequestFrame f w.ipAddress] ∧
            (pollArpWait now f w).arpWaitTable =
              f.arpWaitTable.write w (w.sentAt now) (w.ipAddress_sentAt now) := by
        unfold pollArpWait
        split
        case isTrue => exact .inl ⟨rfl, rfl⟩
        case isFalse =>
          split
          case isTrue => exact .inr ⟨rfl, rfl⟩
          case isFalse => exact .inl ⟨rfl, rfl⟩
      rw [List.foldl_cons]
      obtain ⟨queue, table⟩ | ⟨queue, table⟩ := first
      · exact ⟨asked, sent.trans (by rw [queue]), behind, keys.trans (by rw [table])⟩
      · refine ⟨w.ipAddress :: asked, sent.trans (by simp [queue]), ?_, keys.trans ?_⟩
        · intro ip inAsked
          obtain rfl | inAsked := List.mem_cons.mp inAsked
          · exact ⟨w, List.mem_cons_self, rfl⟩
          · exact behind ip inAsked
        · rw [table]
          exact KeyedList.map_key_replace (w.ipAddress_sentAt now) _

theorem NoPendingQuery.pollingArpWaitTable
    (noQuery : NoPendingQuery f ip)
    (now : Nat) :
    NoPendingQuery (l3PollingArpWaitTable f now) ip := by
  intro w listed
  obtain ⟨_, _, _, keys⟩ := foldl_pollArpWait now f.arpWaitTable.items f
  have before := (KeyedList.deleteAll_sublist _ _).mem listed
  have address := List.mem_map_of_mem (f := L3ArpWait.ipAddress) before
  rw [keys] at address
  obtain ⟨query, inTable, same⟩ := List.mem_map.mp address
  rw [← same]
  exact noQuery query inTable

theorem NoPendingQuery.operate
    (noQuery : NoPendingQuery f ip)
    {operation : Operation}
    (quiet : ¬Queries f ip operation) :
    NoPendingQuery (operate f operation) ip := by
  cases operation with
  | knownArp now heard mac =>
      unfold Layer3.operate NoPendingQuery
      rw [arpWaitTable_l3KnownArp]
      exact noQuery
  | sendArpResponse destMac destIp srcIp => exact noQuery
  | storeIpPacket p => exact noQuery
  | nextIpPacket now => exact noQuery.nextIpPacket quiet
  | pollingBeacon now =>
      unfold Layer3.operate l3PollingBeacon
      dsimp only
      split
      case isTrue => exact noQuery
      case isFalse => exact noQuery
  | deleteOldArpTable now =>
      unfold Layer3.operate l3DeleteOldArpTable
      dsimp only
      split
      case isTrue => exact noQuery
      case isFalse => exact noQuery
  | pollingArpWaitTable now => exact noQuery.pollingArpWaitTable now
  | deleteOldIpWaitList now => exact noQuery
  | getNext => exact noQuery

theorem noPendingQuery_of_resolved
    {operations : List Operation}
    (unasked : Throughout Unasked f operations)
    (resolved : Resolved f operations ip) :
    NoPendingQuery (after f operations) ip := by
  induction operations with
  | nil => exact resolved.elim
  | cons operation earlier inductionHypothesis =>
      obtain ⟨unaskedNow, before⟩ := unasked
      obtain ⟨now, mac, rfl, taken⟩ | ⟨resolved, quiet⟩ := resolved
      · rw [← (sameParameters_after f earlier).learnable_eq] at taken
        exact (unaskedNow taken).operate id
      · exact (inductionHypothesis before resolved).operate quiet

/-- No query is pending for an address that is resolved, as long as every call that learns one
finds no query for it. -/
theorem queriesSettled_of_unasked
    (f : L3If)
    (macAddress : MacAddress)
    {operations : List Operation}
    (unasked : Throughout Unasked (l3InitInterface f macAddress) operations) :
    QueriesSettled (l3InitInterface f macAddress) operations := by
  have noQuery : ∀ ip, Resolved (l3InitInterface f macAddress) operations ip →
      NoPendingQuery (after (l3InitInterface f macAddress) operations) ip := fun ip resolved =>
    noPendingQuery_of_resolved unasked resolved
  refine ⟨noQuery, fun now => ?_⟩
  obtain ⟨asked, sent, listed, _⟩ := foldl_pollArpWait now
    (after (l3InitInterface f macAddress) operations).arpWaitTable.items
    (after (l3InitInterface f macAddress) operations)
  refine ⟨asked, sent, fun ip resolved inAsked => ?_⟩
  obtain ⟨w, inTable, address⟩ := listed ip inAsked
  exact noQuery ip resolved w inTable address

/-- An IPv4 packet from `10.0.0.1` to `192.168.1.2`, which has been routed to the interface. -/
def examplePacket : L3Packet where
  packet :=
    { packetData := (macOf 9).val ++ (macOf 8).val ++ bigEndian 2 MAC_PROTO_IPV4 ++
        [0x45, 0, 0, 20, 0, 0, 0, 0, 63, 99, 0, 0, 10, 0, 0, 1, 192, 168, 1, 2]
      typeL3 := .ipv4 }
  expire := 6000
  nextHopIp := exampleHost

/-- A host is heard before a packet is sent to it. -/
theorem queriesSettled_heardFirst :
    NoPendingQuery
      (after exampleIf
        [.nextIpPacket 2000, .storeIpPacket examplePacket, .knownArp 1000 exampleHost (macOf 2)])
      exampleHost := by
  have noQuery : NoPendingQuery exampleIf exampleHost := fun w listed => nomatch listed
  have unasked : Throughout Unasked exampleIf
      [.nextIpPacket 2000, .storeIpPacket examplePacket, .knownArp 1000 exampleHost (macOf 2)] :=
    ⟨trivial, trivial, fun _ => noQuery, trivial⟩
  refine (queriesSettled_of_unasked _ _ unasked).noQuery exampleHost (.inr ⟨.inr ⟨.inl ?_, id⟩, ?_⟩)
  · exact ⟨1000, macOf 2, rfl, by decide +kernel⟩
  · rintro ⟨p, rest, _, _, _, absent⟩
    exact absurd absent (by decide +kernel)

/-- A packet is sent to a host, the host answers the query, and the query stays pending. -/
theorem not_queriesSettled_answered :
    ¬∀ (f : L3If) (macAddress : MacAddress) (operations : List Operation),
      QueriesSettled (l3InitInterface f macAddress) operations := by
  intro settled
  have noQuery := (settled exampleIf (macOf 1)
    [.knownArp 1200 exampleHost (macOf 2), .nextIpPacket 1000,
      .storeIpPacket examplePacket]).noQuery exampleHost
        (.inl ⟨1200, macOf 2, rfl, by decide +kernel⟩)
  have pending : ∃ w ∈ (after (l3InitInterface exampleIf (macOf 1))
      [.knownArp 1200 exampleHost (macOf 2), .nextIpPacket 1000,
        .storeIpPacket examplePacket]).arpWaitTable.items, w.ipAddress = exampleHost := by
    decide +kernel
  obtain ⟨w, listed, address⟩ := pending
  exact noQuery w listed address

end Layer3
end SoftEther
