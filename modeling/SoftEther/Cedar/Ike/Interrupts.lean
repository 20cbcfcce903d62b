import SoftEther.Cedar.Ike.QuickMode

/-!
# Interrupts

An interrupt looks at every object of the server, may mark it, and purges what is marked.
-/

namespace SoftEther
namespace Ike

open Library

section

variable {permitted : Fault → Prop}
variable {ike : IkeServer}

theorem interruptIkeSa_ends
    (graph : Graph False ike)
    (timedOut : Nat → Bool)
    {sa : Nat}
    (allocated : Allocated IkeSa.address ike.ikeSaList sa) :
    Ends permitted (interruptIkeSa timedOut ike sa) (Kept ike) := by
  refine allocated.follow.bind fun ikeSa ⟨listed, _⟩ => ?_
  refine (graph.ikeSas ikeSa listed).client.follow.bind fun c _ => ?_
  split
  case isTrue => exact (markIkeSaAsDeleted_ends graph allocated).mono fun _ marked => marked.1.kept
  case isFalse => exact .pure (.refl graph)

theorem interruptIPsecSa_ends
    (graph : Graph False ike)
    (timedOut : Nat → Bool)
    {sa : Nat}
    (allocated : Allocated IPsecSa.address ike.ipsecSaList sa) :
    Ends permitted (interruptIPsecSa timedOut ike sa) (Kept ike) := by
  refine allocated.follow.bind fun ipsecSa ⟨listed, _⟩ => ?_
  refine (graph.ipsecSas ipsecSa listed).client.follow.bind fun c _ => ?_
  split
  case isFalse => exact .pure (.refl graph)
  case isTrue =>
    refine (lastCommTickOf_ends graph listed).bind fun _ _ => ?_
    split
    case isTrue =>
      exact (markIPsecSaAsDeleted_ends graph allocated).mono fun _ marked => marked.1.kept
    case isFalse => exact .pure (.refl graph)

theorem Graph.startQuickModeAsSoon
    (graph : Graph False ike)
    (sa c : Nat) :
    Kept ike
      ((ike.setIPsecSa sa fun sa => { sa with startQMFlagSet := true }).setIkeClient c
        fun client => { client with startQuickModeAsSoon := true }) := by
  have quiet : QuietIPsecSa fun sa => { sa with startQMFlagSet := true } :=
    ⟨fun _ => rfl, fun _ => rfl, fun _ => rfl, fun _ => rfl, fun _ => rfl, fun _ marked => marked⟩
  have quietClient : QuietIkeClient fun client => { client with startQuickModeAsSoon := true } :=
    ⟨fun _ => rfl, fun _ => rfl, fun _ => rfl, fun _ => rfl⟩
  have first : Kept ike (ike.setIPsecSa sa _) :=
    ⟨graph.setQuietIPsecSa sa quiet fun _ _ _ _ fits => fits,
      .setIPsecSa ike sa quiet.address quiet.serverToClient⟩
  exact first.trans
    ⟨first.graph.setQuietIkeClient c quietClient, .setIkeClient _ c quietClient.address⟩

variable {c : Nat}

theorem ipsecSendPacketByIkeClient_ends
    (graph : Graph False ike)
    (there : ClientAt ike c)
    (softLimit : Bool) :
    Ends permitted (ipsecSendPacketByIkeClient c ike softLimit) (Kept ike) := by
  refine there.follow.bind fun client ⟨listed, _⟩ => ?_
  cases points : client.currentIpSecSaSend with
  | none => exact .pure (.refl graph)
  | some send =>
      have allocated := (graph.clients client listed).currentIpSecSaSend send points
      refine allocated.follow.bind fun sa ⟨saListed, _⟩ => ?_
      refine (graph.ipsecSas sa saListed).client.follow.bind fun _ _ => ?_
      split
      case isTrue => exact .pure (graph.startQuickModeAsSoon send sa.ikeClient)
      case isFalse => exact .pure (.refl graph)

theorem interruptQuickMode_ends
    (graph : Graph False ike)
    (interrupt : Interrupt)
    (there : ClientAt ike c) :
    Ends permitted (interruptQuickMode ike interrupt c) (Kept ike) := by
  refine there.follow.bind fun client ⟨listed, _⟩ => ?_
  split
  case h_2 => exact .pure (.refl graph)
  case h_1 sa start points _ =>
    have allocated := ((graph.clients client listed).currentIkeSa sa points).allocated
    refine allocated.follow.bind fun ikeSa _ => ?_
    split
    case isTrue => exact .pure (.refl graph)
    case isFalse =>
      have quiet : QuietIkeClient fun client =>
          { client with startQuickModeAsSoon := false } :=
        ⟨fun _ => rfl, fun _ => rfl, fun _ => rfl, fun _ => rfl⟩
      have first : Kept ike (ike.setIkeClient c _) :=
        ⟨graph.setQuietIkeClient c quiet, .setIkeClient ike c quiet.address⟩
      exact (startQuickMode_ends first.graph (first.keeps.client there) start).mono
        fun _ later => first.trans later

theorem interruptServers_ends
    (graph : Graph False ike)
    (interrupt : Interrupt)
    (there : ClientAt ike c) :
    Ends permitted (interruptServers ike interrupt c) (Kept ike) := by
  refine there.follow.bind fun client _ => ?_
  split
  case isTrue =>
    exact Kept.foldlM graph fun state softLimit _ kept =>
      ipsecSendPacketByIkeClient_ends kept.graph (kept.keeps.client there) softLimit
  case isFalse => exact .pure (.refl graph)

theorem interruptDpd_ends
    (graph : Graph False ike)
    (interrupt : Interrupt)
    (there : ClientAt ike c) :
    Ends permitted (interruptDpd ike interrupt c) fun _ => True := by
  refine there.follow.bind fun client ⟨listed, _⟩ => ?_
  cases points : client.currentIkeSa with
  | none => exact .pure trivial
  | some sa =>
      have allocated := ((graph.clients client listed).currentIkeSa sa points).allocated
      refine allocated.follow.bind fun ikeSa _ => ?_
      split
      case isTrue => exact sendInformationalExchangePacketEx_ends graph there false
      case isFalse => exact .pure trivial

theorem interruptIkeClient_ends
    (graph : Graph False ike)
    (interrupt : Interrupt)
    (there : ClientAt ike c) :
    Ends permitted (interruptIkeClient interrupt ike c) (Kept ike) := by
  refine (interruptQuickMode_ends graph interrupt there).bind fun first one => ?_
  have there := one.keeps.client there
  have rest : ∀ second, Kept first second →
      Ends permitted
        (do
          let ike ← interruptServers second interrupt c
          interruptDpd ike interrupt c
          pure ike)
        (Kept ike) := by
    intro second two
    have there := two.keeps.client there
    refine (interruptServers_ends two.graph interrupt there).bind fun third three => ?_
    exact (interruptDpd_ends three.graph interrupt (three.keeps.client there)).bind
      fun _ _ => .pure ((one.trans two).trans three)
  dsimp only
  split
  case isTrue =>
    exact (markIkeClientAsDeleted_ends one.graph there).bind fun second two =>
      rest second ⟨two.1, two.2⟩
  case isFalse => exact rest first (.refl one.graph)

theorem processIKEInterrupts_ends
    (graph : Graph False ike)
    (interrupt : Interrupt) :
    Ends permitted (processIKEInterrupts ike interrupt) (Graph False) := by
  have graph : Graph False { ike with now := interrupt.now } :=
    graph.of_sameLists rfl rfl rfl rfl
  unfold processIKEInterrupts
  generalize { ike with now := interrupt.now } = ike at graph ⊢
  refine (Kept.foldlM graph fun state sa listed kept =>
    interruptIkeSa_ends kept.graph interrupt.ikeSaTimedOut
      (kept.keeps.allocatedIkeSa (List.mem_map.mp listed))).bind fun first one => ?_
  refine (Kept.foldlM one.graph fun state sa listed kept =>
    interruptIPsecSa_ends kept.graph interrupt.ipsecSaTimedOut
      (kept.keeps.allocated (List.mem_map.mp listed))).bind fun second two => ?_
  refine (Kept.foldlM two.graph fun state c listed kept =>
    interruptIkeClient_ends kept.graph interrupt
      (kept.keeps.client (List.mem_map.mp listed))).bind fun third three => ?_
  exact purgeWhileChanged_ends three.graph.toPurging (Nat.lt_succ_self _)

end

end Ike
end SoftEther
