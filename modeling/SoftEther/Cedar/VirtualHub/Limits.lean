import SoftEther.Cedar.VirtualHub.Isolation

/-!
# Limits on the addresses of a session

The policy of a session limits how many entries of the MAC address table and how
many IPv4 entries of the IP table it owns.  `StorePacket` counts them when it
registers a new address, and not when an address goes over from another session
or when a DHCP reply is recorded.
-/

namespace SoftEther
namespace VirtualHub

open AccessList
open Library

variable {cfg : Settings}

/-! ## What an event does to the tables -/

/-- An event stores a packet of a session, frees a packet adapter, or leaves the
tables as they are. -/
inductive TableStep (cfg : Settings) (sys : System) : Event → System → Prop
  | stored {draws : Draws} {source : SessionId} {packet : Pkt} :
      sys.hub.isAttached source = true →
      TableStep cfg sys (.storePacket draws (some source) packet)
        { sys with
          hub :=
            (storePacket cfg draws sys.now (some source) packet sys.hub).2 }
  | freed {s : SessionId} :
      TableStep cfg sys (.hubPaFree s) { sys with hub := hubPaFree cfg s sys.hub }
  | elsewhere {event : Event} {after : System} :
      (∀ draws source packet, event ≠ .storePacket draws (some source) packet) →
      after.hub.macHashTable = sys.hub.macHashTable →
      after.hub.ipTable = sys.hub.ipTable →
      sys.now ≤ after.now →
      TableStep cfg sys event after

theorem step_tables
    {sys after : System}
    {event : Event}
    (stepped : step cfg sys event = some after) :
    TableStep cfg sys event after := by
  unfold step at stepped
  cases event with
  | tick interval =>
      injection stepped with same
      rw [← same]
      exact .elsewhere (fun _ _ _ other => nomatch other) rfl rfl
        (Nat.le_add_right _ _)
  | addSession s acl =>
      dsimp only at stepped
      split_ifs at stepped
      injection stepped with same
      rw [← same]
      exact .elsewhere (fun _ _ _ other => nomatch other) rfl rfl
        (Nat.le_refl _)
  | hubPaInit s =>
      dsimp only at stepped
      split_ifs at stepped
      injection stepped with same
      rw [← same]
      unfold hubPaInit
      dsimp only
      split_ifs
      · exact .elsewhere (fun _ _ _ other => nomatch other) rfl rfl
          (Nat.le_refl _)
      · exact .elsewhere (fun _ _ _ other => nomatch other) rfl rfl
          (Nat.le_refl _)
  | storePacket draws s packet =>
      cases s with
      | none =>
          injection stepped with same
          rw [← same]
          have kept := @sameTables_storePacket_none cfg draws sys.now packet
            sys.hub
          exact .elsewhere (fun _ _ _ other => nomatch other) kept.mac kept.ip
            (Nat.le_refl _)
      | some source =>
          dsimp only at stepped
          split_ifs at stepped with attached
          injection stepped with same
          rw [← same]
          exact .stored attached
  | hubPaGetNextPacket s =>
      injection stepped with same
      rw [← same]
      have kept := sameTables_updatePa sys.hub s fun pa =>
        { pa with packetQueue := pa.packetQueue.tail }
      exact .elsewhere (fun _ _ _ other => nomatch other) kept.mac kept.ip
        (Nat.le_refl _)
  | delSession s =>
      injection stepped with same
      rw [← same]
      exact .elsewhere (fun _ _ _ other => nomatch other) rfl rfl
        (Nat.le_refl _)
  | hubPaFree s =>
      dsimp only at stepped
      split_ifs at stepped
      injection stepped with same
      rw [← same]
      exact .freed

variable (cfg) in
/-- What a packet that gets to the IP table does there. -/
structure LooksUpIp
    (draws : Draws)
    (now : Nat)
    (source : SessionId)
    (packet : Pkt)
    (hub filtered : Hub)
    (result : Verdict × Hub)
    (passed : Pkt)
    (route : Route)
    (learned : Hub) :
    Prop where
  before :
    beforeIpTable cfg draws now source packet hub = some (passed, route, learned)
  sameFrame : packet.SameFrame passed
  kept : learned.ipTable = filtered.ipTable
  after :
    result.2.ipTable = (checkIpTable cfg now source passed learned).2.ipTable
  passes :
    result.1 = .forwarded → (checkIpTable cfg now source passed learned).1 = true

theorem storePacket_ip
    (draws : Draws)
    (now : Nat)
    (source : SessionId)
    (packet : Pkt)
    (hub : Hub) :
    ∃ filtered,
      Filtered cfg now packet (beforeDhcpReply cfg now source packet hub) hub
        filtered ∧
      (beforeIpTable cfg draws now source packet hub = none ∧
          (storePacket cfg draws now (some source) packet hub).2.ipTable =
            filtered.ipTable ∧
          (storePacket cfg draws now (some source) packet hub).1 ≠ .forwarded ∨
        ∃ passed route learned, LooksUpIp cfg draws now source packet hub filtered
          (storePacket cfg draws now (some source) packet hub) passed route
          learned) := by
  have stages := storePacket_stages cfg draws now source packet hub
  generalize storePacket cfg draws now (some source) packet hub = result
    at stages ⊢
  obtain ⟨verdict, after⟩ := result
  dsimp only at stages ⊢
  have lookup (passed : Pkt) (filtered : Hub) :=
    (onlyMacTable_learnMac cfg now source passed filtered).ip
  cases stages with
  | stopped stopped kept filters _ =>
      refine ⟨_, filters, .inl ⟨?_, rfl, kept⟩⟩
      unfold beforeIpTable
      rw [stopped]
  | @refusedByMac passed filtered arrives refused =>
      exact ⟨_, arrives.filters, .inl ⟨refused, lookup passed filtered,
        fun forwarded => nomatch forwarded⟩⟩
  | @refusedByIp passed filtered route arrives _ reaches _ =>
      exact ⟨_, arrives.filters, .inr ⟨passed, route, _,
        { before := reaches
          sameFrame := arrives.sameFrame
          kept := lookup passed filtered
          after := rfl
          passes := fun forwarded => nomatch forwarded }⟩⟩
  | @storm passed filtered _ route arrives _ reaches passes same _ =>
      exact ⟨_, arrives.filters, .inr ⟨passed, route, _,
        { before := reaches
          sameFrame := arrives.sameFrame
          kept := lookup passed filtered
          after := same.ip
          passes := fun _ => passes }⟩⟩
  | @forwarded passed filtered ready route arrives _ _ reaches passes same _ =>
      have given := sameTables_forwardPacket cfg draws now (some source) passed
        route ready
      exact ⟨_, arrives.filters, .inr ⟨passed, route, _,
        { before := reaches
          sameFrame := arrives.sameFrame
          kept := lookup passed filtered
          after := given.ip.trans same.ip
          passes := fun _ => passes }⟩⟩

/-! ## MAC addresses -/

def MacTableEntry.owner (e : MacTableEntry) : Option SessionId :=
  some e.session

/-- A frame of a session with an address of its own. -/
def frameOf (s : SessionId) (source : UInt8) : Event :=
  .storePacket {} (some s) (exampleFrame (exampleMac source) (exampleMac 99) false)

end VirtualHub
end SoftEther
