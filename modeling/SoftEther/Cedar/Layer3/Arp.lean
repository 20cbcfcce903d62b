import SoftEther.Cedar.Layer3.Operations

/-!
# Learning of MAC addresses

`L3InsertArpTable` extends an entry that it finds and leaves its MAC address, so an interface
resolves addresses by what it has learnt last as long as no host changes its MAC address.
-/

namespace SoftEther
namespace Layer3

open TcpIp

/-! ## What has been learnt -/

/-- The MAC address that was learnt last for an address, with the time at which it expires,
until it has expired. -/
def learnt (f : L3If) : List Operation → UInt32 → Option (MacAddress × Nat)
  | [], _ => none
  | .knownArp now heard mac :: earlier, ip =>
      if heard = ip ∧ learnable f ip = true then some (mac, now + ARP_ENTRY_EXPIRES)
      else learnt f earlier ip
  | .deleteOldArpTable now :: earlier, ip =>
      (learnt f earlier ip).filter fun entry => now < entry.2
  | _ :: earlier, ip => learnt f earlier ip

/-- `L3KnownArp` does not find the address with another MAC address. -/
def Agrees (f : L3If) : Operation → Prop
  | .knownArp _ ip mac =>
      learnable f ip = true → ∀ a, f.arpTable.search ip = some a → a.macAddress = mac
  | _ => True

structure ResolvesByLearnt (f : L3If) (operations : List Operation) : Prop where
  maps : ∀ ip mac expire, learnt f operations ip = some (mac, expire) →
    l3SearchArpTable (after f operations) ip = some ⟨ip, mac, expire⟩
  /-- No packet waits for such an address. -/
  served : ∀ ip mac expire, learnt f operations ip = some (mac, expire) →
    ∀ p ∈ (after f operations).ipWaitList, p.nextHopIp ≠ ip
  sends : ∀ now p mac expire, isUnicast f p = true →
    learnt f operations p.nextHopIp = some (mac, expire) →
      l3SendIp (after f operations) now p =
        { after f operations with
          sendQueue := (after f operations).sendQueue ++ [ipFrame f.macAddress mac p] }
  /-- The packets that wait for an address are sent to the MAC address that is learnt for it,
  when it agrees with the table. -/
  flushes : ∀ now ip mac, learnable f ip = true →
    Agrees (after f operations) (.knownArp now ip mac) →
      (l3KnownArp (after f operations) now ip mac).sendQueue =
          (after f operations).sendQueue ++
            ((after f operations).ipWaitList.filter fun p => p.nextHopIp = ip).map
              (ipFrame f.macAddress mac) ∧
        (l3KnownArp (after f operations) now ip mac).ipWaitList =
          (after f operations).ipWaitList.filter fun p => p.nextHopIp ≠ ip

variable {f : L3If}

theorem Agrees.listed
    {now : Nat}
    {ip : UInt32}
    {mac : MacAddress}
    (agrees : Agrees f (.knownArp now ip mac)) :
    (learnable f ip = true →
      ⟨ip, mac, now + ARP_ENTRY_EXPIRES⟩ ∈ (l3KnownArp f now ip mac).arpTable.items) ∧
    ∀ a ∈ f.arpTable.items, ¬(ip = a.ipAddress ∧ learnable f ip = true) →
      a ∈ (l3KnownArp f now ip mac).arpTable.items := by
  cases taken : learnable f ip with
  | false =>
      rw [l3KnownArp_of_not_learnable taken]
      exact ⟨nofun, fun a listed _ => listed⟩
  | true =>
      cases searched : f.arpTable.search ip with
      | none =>
          rw [l3KnownArp_unknown taken searched]
          have entries : ∀ a, a ∈ (f.arpTable.insert ⟨ip, mac, now + ARP_ENTRY_EXPIRES⟩).items ↔
              a = ⟨ip, mac, now + ARP_ENTRY_EXPIRES⟩ ∨ a ∈ f.arpTable.items := fun a =>
            (KeyedList.insert_perm _ _).mem_iff.trans List.mem_cons
          exact ⟨fun _ => (entries _).mpr (.inl rfl), fun a listed _ =>
            (entries a).mpr (.inr listed)⟩
      | some entry =>
          rw [l3KnownArp_known taken searched]
          obtain ⟨present, key⟩ := KeyedList.search_sound searched
          have written := KeyedList.write_perm f.arpTable
            (entry.ipAddress_expireAt (now + ARP_ENTRY_EXPIRES)) present
          have extended : entry.expireAt (now + ARP_ENTRY_EXPIRES) =
              ⟨ip, mac, now + ARP_ENTRY_EXPIRES⟩ := by
            rw [L3ArpEntry.expireAt, key, agrees taken entry searched]
          constructor
          · intro _
            rw [← extended]
            exact written.mem_iff.mpr List.mem_cons_self
          · intro a listed other
            have different : a ≠ entry := by
              rintro rfl
              exact other ⟨key.symm, rfl⟩
            exact written.mem_iff.mpr (List.mem_cons_of_mem _
              ((List.mem_erase_of_ne different).mpr listed))

theorem listed_of_learnt
    (sound : f.Sound)
    {operations : List Operation}
    (agrees : Throughout Agrees f operations)
    {ip : UInt32}
    {mac : MacAddress}
    {expire : Nat}
    (heard : learnt f operations ip = some (mac, expire)) :
    ⟨ip, mac, expire⟩ ∈ (after f operations).arpTable.items := by
  induction operations generalizing mac expire with
  | nil => exact nomatch heard
  | cons operation earlier inductionHypothesis =>
      obtain ⟨agrees, before⟩ := agrees
      have tables := sound.after earlier
      have same := sameParameters_after f earlier
      have known := @inductionHypothesis before
      cases operation with
      | knownArp now heardIp heardMac =>
          have entries := agrees.listed
          rw [same.learnable_eq] at entries
          dsimp only [learnt] at heard
          by_cases here : heardIp = ip ∧ learnable f ip = true
          · rw [if_pos here, Option.some.injEq, Prod.mk.injEq] at heard
            obtain ⟨rfl, taken⟩ := here
            obtain ⟨rfl, rfl⟩ := heard
            exact entries.1 taken
          · rw [if_neg here] at heard
            refine entries.2 _ (known heard) fun other => here ⟨other.1, ?_⟩
            rw [← show heardIp = ip from other.1]
            exact other.2
      | sendArpResponse destMac destIp srcIp => exact known heard
      | storeIpPacket p => exact known heard
      | nextIpPacket now =>
          rw [Layer3.after, Layer3.operate, (sameParameters_nextIpPacket _ now).2]
          exact known heard
      | pollingBeacon now =>
          rw [Layer3.after, Layer3.operate, (sameArp_pollingBeacon _ now).arpTable]
          exact known heard
      | deleteOldArpTable now =>
          obtain ⟨_, kept⟩ := tables.deleteOldArpTable now
          obtain ⟨heard, young⟩ := Option.filter_eq_some_iff.mp heard
          exact kept _ (known heard) (of_decide_eq_true young)
      | pollingArpWaitTable now =>
          rw [Layer3.after, Layer3.operate, (sameArp_pollingArpWaitTable _ now).arpTable]
          exact known heard
      | deleteOldIpWaitList now => exact known heard
      | getNext => exact known heard

/-- An interface resolves addresses by what was learnt last, as long as no call finds an address
with another MAC address. -/
theorem resolvesByLearnt_of_agrees
    (f : L3If)
    (macAddress : MacAddress)
    {operations : List Operation}
    (agrees : Throughout Agrees (l3InitInterface f macAddress) operations) :
    ResolvesByLearnt (l3InitInterface f macAddress) operations := by
  generalize started : l3InitInterface f macAddress = g at agrees ⊢
  have initial : g.Sound := started ▸ sound_initInterface f macAddress
  have tables := initial.after operations
  have same := sameParameters_after g operations
  refine
    { maps := ?_
      served := ?_
      sends := ?_
      flushes := ?_ }
  · intro ip mac expire heard
    exact tables.search (listed_of_learnt initial agrees heard)
  · intro ip mac expire heard p waiting
    exact Ne.symm (tables.served p waiting _ (listed_of_learnt initial agrees heard))
  · intro now p mac expire unicast heard
    rw [← same.isUnicast_eq] at unicast
    have found := tables.search (listed_of_learnt initial agrees heard)
    rw [l3SendIp_known unicast found, ← same.macAddress]
  · intro now ip mac taken agreesNow
    rw [← same.learnable_eq] at taken
    cases searched : (after g operations).arpTable.search ip with
    | none =>
        rw [l3KnownArp_unknown taken searched, same.macAddress]
        exact ⟨rfl, rfl⟩
    | some a =>
        rw [l3KnownArp_known taken searched, same.macAddress, agreesNow taken a searched]
        exact ⟨rfl, rfl⟩

/-- The interface of `192.168.1.1/24`. -/
def exampleIf : L3If :=
  l3InitInterface
    { hubName := .ofAscii "DEFAULT"
      ipAddress := 0x0101a8c0
      subnetMask := 0x00ffffff
      macAddress := macOf 0 }
    (macOf 1)

/-- `192.168.1.2`. -/
def exampleHost : UInt32 := 0x0201a8c0

/-- A host is heard twice with one MAC address. -/
theorem resolvesByLearnt_sameMac :
    l3SearchArpTable
        (after exampleIf
          [.knownArp 2000 exampleHost (macOf 2), .knownArp 1000 exampleHost (macOf 2)])
        exampleHost =
      some ⟨exampleHost, macOf 2, 32000⟩ := by
  have first : exampleIf.arpTable.search exampleHost = none := by decide +kernel
  have second : (after exampleIf [.knownArp 1000 exampleHost (macOf 2)]).arpTable.search
      exampleHost = some ⟨exampleHost, macOf 2, 31000⟩ := by decide +kernel
  have agrees : Throughout Agrees exampleIf
      [.knownArp 2000 exampleHost (macOf 2), .knownArp 1000 exampleHost (macOf 2)] := by
    refine ⟨fun _ a found => ?_, fun _ a found => ?_, trivial⟩
    · rw [second] at found
      injection found with same
      rw [← same]
    · exact nomatch first.symm.trans found
  exact (resolvesByLearnt_of_agrees _ _ agrees).maps exampleHost (macOf 2) 32000
    (by decide +kernel)

/-- A host that comes with a new MAC address keeps its old one in the table. -/
theorem not_resolvesByLearnt_newMac :
    ¬∀ (f : L3If) (macAddress : MacAddress) (operations : List Operation),
      ResolvesByLearnt (l3InitInterface f macAddress) operations := by
  intro resolves
  have mapped := (resolves exampleIf (macOf 1)
    [.knownArp 2000 exampleHost (macOf 3), .knownArp 1000 exampleHost (macOf 2)]).maps
      exampleHost (macOf 3) 32000 (by decide +kernel)
  exact absurd mapped (by decide +kernel)

end Layer3
end SoftEther
