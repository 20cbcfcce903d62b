import SoftEther.Cedar.Ike.Handlers

/-!
# Quick mode

IPsec SAs come in pairs.  The two directions of quick mode give them their keys at
different times, and both keep the graph.
-/

namespace SoftEther
namespace Ike

open Library

section

variable {permitted : Fault → Prop}
variable {ike : IkeServer}

theorem ikeNewKey_eq_some (setting : TransformSetting) (keyMat : List UInt8) :
    ikeNewKey setting keyMat = some (keyMat.take setting.cryptoKeySize) :=
  if_pos setting.keySizeChecked

variable {sa : IPsecSa} {c : Nat} {cs sc : IPsecSa}

theorem IPsecSa.hasKeys_withKeys
    {setting : TransformSetting}
    (same : sa.transformSetting = setting)
    (keyMat : List UInt8) :
    (sa.withKeys setting keyMat).HasKeys := by
  refine ⟨keyMat, rfl, ?_, ?_⟩
  · rw [← same]
    exact ikeNewKey_eq_some sa.transformSetting keyMat
  · rw [← same]
    rfl

theorem IPsecSa.HasKeys.fit
    (keys : sa.HasKeys)
    (ready : ¬sa.Waiting) :
    sa.KeysFit := by
  unfold KeysFit
  rw [if_neg ready]
  exact keys

theorem Graph.insertPair
    (graph : Graph False ike)
    (cs sc : IPsecSa)
    (csAddress : cs.address = ike.nextAddress)
    (scAddress : sc.address = ike.nextAddress + 1)
    (csDirection : cs.serverToClient = false)
    (scDirection : sc.serverToClient = true)
    (csIkeSa : ∃ place, cs.ikeSa = some place ∧ IkeSaAt ike place cs.ikeClient)
    (scIkeSa : ∃ place, sc.ikeSa = some place ∧ IkeSaAt ike place sc.ikeClient)
    (csClient : ClientAt ike cs.ikeClient)
    (scClient : ClientAt ike sc.ikeClient)
    (keys : cs.KeysFit) :
    Kept ike (insertPair ike cs sc) ∧
      Allocated IPsecSa.address (insertPair ike cs sc).ipsecSaList (ike.nextAddress + 1) := by
  have keeps : Keeps ike (Ike.insertPair ike cs sc) :=
    ⟨id, id, fun ⟨sa, listed, here⟩ =>
      ⟨sa, List.mem_cons_of_mem _ (List.mem_cons_of_mem _ listed), here⟩⟩
  have csThere : IPsecSaAt (Ike.insertPair ike cs sc) cs.address false :=
    ⟨_, List.mem_cons_of_mem _ List.mem_cons_self, rfl, csDirection⟩
  have scThere : IPsecSaAt (Ike.insertPair ike cs sc) sc.address true :=
    ⟨_, List.mem_cons_self, rfl, scDirection⟩
  refine ⟨⟨?_, keeps⟩, scAddress ▸ scThere.allocated⟩
  exact
    { ikeSasUnique := graph.ikeSasUnique
      ipsecSasUnique := by
        refine UniqueKeys.cons (UniqueKeys.cons graph.ipsecSasUnique ?_) ?_
        · intro other listed
          have old := graph.ipsecSasOld other listed
          exact Nat.ne_of_lt (csAddress ▸ old)
        · intro other listed
          obtain rfl | listed := List.mem_cons.mp listed
          · simp [csAddress, scAddress]
          · have old := graph.ipsecSasOld other listed
            exact Nat.ne_of_lt (scAddress ▸ Nat.lt_succ_of_lt old)
      ikeSasOld := fun sa listed =>
        (graph.ikeSasOld sa listed).trans (Nat.lt_add_of_pos_right (by simp))
      ipsecSasOld := by
        intro sa listed
        have next : (Ike.insertPair ike cs sc).nextAddress = ike.nextAddress + 2 := rfl
        obtain rfl | listed := List.mem_cons.mp listed
        · simp [next, scAddress]
        · obtain rfl | listed := List.mem_cons.mp listed
          · simp [next, csAddress]
          · have old := graph.ipsecSasOld sa listed
            omega
      clients := fun c listed => (graph.clients c listed).mono keeps
      ikeSas := fun sa listed => (graph.ikeSas sa listed).mono keeps
      ipsecSas := by
        intro sa listed
        obtain rfl | listed := List.mem_cons.mp listed
        · exact
            { ikeClient := .inr (keeps.client scClient)
              ikeSa := .inr scIkeSa
              pairIPsecSa := by
                intro place points
                obtain rfl := Option.some.inj points
                simpa [scDirection] using csThere
              keys := by simp [scDirection] }
        · obtain rfl | listed := List.mem_cons.mp listed
          · exact
              { ikeClient := .inr (keeps.client csClient)
                ikeSa := .inr csIkeSa
                pairIPsecSa := by
                  intro place points
                  obtain rfl := Option.some.inj points
                  simpa [csDirection] using scThere
                keys := fun _ => keys }
          · exact (graph.ipsecSas sa listed).mono keeps }

theorem startQuickMode_ends
    (graph : Graph False ike)
    (there : ClientAt ike c)
    (start : QuickStart) :
    Ends permitted (startQuickMode ike c start) (Kept ike) := by
  refine there.follow.bind fun client ⟨listed, here⟩ => ?_
  split
  case h_2 => exact .pure (.refl graph)
  case h_1 setting current _ points =>
    obtain ⟨sa, saListed, saHere, owned⟩ :=
      (graph.clients client listed).currentIkeSa current points
    have allocated : Allocated IkeSa.address ike.ikeSaList current := ⟨sa, saListed, saHere⟩
    refine allocated.follow.bind fun ikeSa ⟨ikeSaListed, ikeSaHere⟩ => ?_
    obtain rfl := graph.ikeSasUnique.eq_of_key ikeSaListed saListed (ikeSaHere.trans saHere.symm)
    have held : IkeSaAt ike ikeSa.address c := ⟨ikeSa, saListed, rfl, owned.trans here⟩
    dsimp only
    generalize newBuilt : ({
        ikeClient := c
        ikeSa := ikeSa
        messageId := start.messageId
        initiatorRand := start.initiatorRand
        setting := setting } : NewSa) = new
    have ikeSaNew : ∃ place, some new.ikeSa.address = some place ∧
        IkeSaAt ike place new.ikeClient := by
      subst newBuilt
      exact ⟨_, rfl, held⟩
    have clientNew : ClientAt ike new.ikeClient := by
      subst newBuilt
      exact there
    have fits : (newIPsecSaInitiated ike new ike.nextAddress false start.spi).KeysFit := by
      unfold IPsecSa.KeysFit
      rw [if_pos ⟨rfl, rfl⟩]
      rfl
    obtain ⟨kept, inserted⟩ := graph.insertPair
      (newIPsecSaInitiated ike new ike.nextAddress false start.spi)
      (newIPsecSaInitiated ike new (ike.nextAddress + 1) true 0) rfl rfl rfl rfl
      ikeSaNew ikeSaNew clientNew clientNew fits
    exact (ipsecSaSendPacket_ends kept.graph inserted).bind fun _ _ => .pure kept

theorem newIPsecSa_hasKeys
    (algorithms : Algorithms)
    (ike : IkeServer)
    (new : NewSa)
    (address : Nat)
    (serverToClient : Bool)
    (spi : UInt32)
    (responderRand sharedKey : List UInt8) :
    (newIPsecSa algorithms ike new address serverToClient spi responderRand sharedKey).HasKeys :=
  IPsecSa.hasKeys_withKeys (by simp [NewSa.bare]) _

theorem procQuickFirst_ends
    (algorithms : Algorithms)
    (graph : Graph False ike)
    (there : ClientAt ike c)
    (header : Header)
    {ikeSa : IkeSa}
    (held : IkeSaAt ike ikeSa.address c)
    (content : QuickFirst) :
    Ends permitted (procQuickFirst algorithms ike c header ikeSa content) (Graph False) := by
  have refused : Ends permitted
      (do sendInformationalExchangePacketEx ike c false; pure ike) (Graph False) :=
    (sendInformationalExchangePacketEx_ends graph there false).bind fun _ _ => .pure graph
  unfold procQuickFirst
  cases content.setting with
  | none => exact refused
  | some setting =>
      dsimp only
      split
      case isFalse => exact refused
      case isTrue =>
        have quiet : QuietIkeClient fun client =>
            { client with cachedTransformSetting := some setting } :=
          ⟨fun _ => rfl, fun _ => rfl, fun _ => rfl, fun _ => rfl⟩
        have cached : Kept ike (ike.setIkeClient c _) :=
          ⟨graph.setQuietIkeClient c quiet, .setIkeClient ike c quiet.address⟩
        have there := cached.keeps.client there
        have held := cached.keeps.ikeSa held
        have graph := cached.graph
        generalize ike.setIkeClient c _ = ike at there held graph ⊢
        split
        case isFalse => exact .pure graph
        case isTrue =>
          generalize newBuilt : ({
              ikeClient := c
              ikeSa := ikeSa
              messageId := header.messageId
              initiatorRand := content.initiatorRand
              setting := setting } : NewSa) = new
          have ikeSaNew : ∃ place, some new.ikeSa.address = some place ∧
              IkeSaAt ike place new.ikeClient := by
            subst newBuilt
            exact ⟨_, rfl, held⟩
          have clientNew : ClientAt ike new.ikeClient := by
            subst newBuilt
            exact there
          have ready : ¬(newIPsecSa algorithms ike new ike.nextAddress false content.spi
              content.responderRand content.sharedKey).Waiting :=
            fun waiting => nomatch waiting.1
          obtain ⟨kept, inserted⟩ := graph.insertPair
            (newIPsecSa algorithms ike new ike.nextAddress false content.spi
              content.responderRand content.sharedKey)
            (newIPsecSa algorithms ike new (ike.nextAddress + 1) true
              setting.spiServerToClient content.responderRand content.sharedKey)
            rfl rfl rfl rfl ikeSaNew ikeSaNew clientNew clientNew
            ((newIPsecSa_hasKeys algorithms ike new _ _ _ _ _).fit ready)
          exact (ipsecSaSendPacket_ends kept.graph inserted).bind fun _ _ => .pure kept.graph

theorem Graph.usePair
    (graph : Graph False ike)
    (c : Nat)
    {cs sc : Nat}
    (csThere : Allocated IPsecSa.address ike.ipsecSaList cs)
    (scThere : Allocated IPsecSa.address ike.ipsecSaList sc) :
    Graph False
      (ike.setIkeClient c fun client =>
        { client with currentIpSecSaRecv := some cs, currentIpSecSaSend := some sc }) := by
  refine graph.setIkeClient c ?_ ?_
  · intro _
    rfl
  · intro client listed _
    exact ⟨(graph.clients client listed).currentIkeSa,
      fun _ points => Option.some.inj points ▸ csThere,
      fun _ points => Option.some.inj points ▸ scThere⟩

theorem Graph.changePair
    (graph : Graph False ike)
    (c : Nat)
    (csListed : cs ∈ ike.ipsecSaList)
    (scListed : sc ∈ ike.ipsecSaList)
    (scDirection : sc.serverToClient = true)
    {changeCs changeSc : IPsecSa → IPsecSa}
    (quietCs : QuietIPsecSa changeCs)
    (quietSc : QuietIPsecSa changeSc)
    (keys : cs.KeysFit → (changeCs cs).KeysFit) :
    Kept ike
      (((ike.setIPsecSa cs.address changeCs).setIPsecSa sc.address changeSc).setIkeClient c
        fun client =>
          { client with
            currentIpSecSaRecv := some cs.address
            currentIpSecSaSend := some sc.address }) := by
  have first : Kept ike (ike.setIPsecSa cs.address changeCs) :=
    ⟨graph.setQuietIPsecSa cs.address quietCs fun sa listed here _ => by
        obtain rfl := graph.ipsecSasUnique.eq_of_key listed csListed here
        exact keys,
      .setIPsecSa ike cs.address quietCs.address quietCs.serverToClient⟩
  have scThere := first.keeps.ipsecSa ⟨sc, scListed, rfl, scDirection⟩
  have second := first.trans
    ⟨first.graph.setQuietIPsecSa sc.address quietSc fun sa listed here direction => by
        obtain ⟨other, otherListed, otherHere, otherDirection⟩ := scThere
        obtain rfl := first.graph.ipsecSasUnique.eq_of_key listed otherListed
          (here.trans otherHere.symm)
        exact (nomatch direction.symm.trans otherDirection),
      .setIPsecSa _ sc.address quietSc.address quietSc.serverToClient⟩
  exact second.trans
    ⟨second.graph.usePair c (second.keeps.allocated ⟨cs, csListed, rfl⟩)
        (second.keeps.allocated ⟨sc, scListed, rfl⟩),
      .setIkeClient _ c fun _ => rfl⟩

theorem Graph.establishPair
    (graph : Graph False ike)
    (c : Nat)
    (csListed : cs ∈ ike.ipsecSaList)
    (scListed : sc ∈ ike.ipsecSaList)
    (scDirection : sc.serverToClient = true)
    (ready : cs.initiated = false) :
    Kept ike (establishPair ike c cs sc) := by
  have quiet : QuietIPsecSa fun sa => { sa with established := true, lastCommTick := ike.now } :=
    ⟨fun _ => rfl, fun _ => rfl, fun _ => rfl, fun _ => rfl, fun _ => rfl, fun _ marked => marked⟩
  refine graph.changePair c csListed scListed scDirection quiet quiet fun fits => ?_
  have waits : ¬cs.Waiting := fun waiting => nomatch ready.symm.trans waiting.1
  unfold IPsecSa.KeysFit at fits
  rw [if_neg waits] at fits
  exact IPsecSa.HasKeys.fit fits fun waiting => nomatch waiting.2

theorem procQuickSecond_ends
    (algorithms : Algorithms)
    (graph : Graph False ike)
    (there : ClientAt ike c)
    (csListed : cs ∈ ike.ipsecSaList)
    (scListed : sc ∈ ike.ipsecSaList)
    (csDirection : cs.serverToClient = false)
    (scDirection : sc.serverToClient = true)
    (content : QuickSecond) :
    Ends permitted (procQuickSecond algorithms ike c cs sc content) (Graph False) := by
  unfold procQuickSecond
  cases content.setting with
  | none =>
      exact (sendInformationalExchangePacketEx_ends graph there false).bind
        fun _ _ => .pure graph
  | some setting =>
      dsimp only
      split
      case isFalse => exact .pure graph
      case isTrue =>
        let establish (sa : IPsecSa) : IPsecSa :=
          { sa with established := true, lastCommTick := ike.now }
        let changeCs (sa : IPsecSa) : IPsecSa :=
          (establish sa).deriveKeys algorithms setting sa.spi sc.initiatorRand content
        let changeSc (sa : IPsecSa) : IPsecSa :=
          (establish sa).deriveKeys algorithms setting setting.spiServerToClient
            sc.initiatorRand content
        have differ : cs.address ≠ sc.address := by
          intro same
          obtain rfl := graph.ipsecSasUnique.eq_of_key csListed scListed same
          exact nomatch csDirection.symm.trans scDirection
        have quietCs : QuietIPsecSa changeCs :=
          ⟨fun _ => rfl, fun _ => rfl, fun _ => rfl, fun _ => rfl, fun _ => rfl,
            fun _ marked => marked⟩
        have quietSc : QuietIPsecSa changeSc :=
          ⟨fun _ => rfl, fun _ => rfl, fun _ => rfl, fun _ => rfl, fun _ => rfl,
            fun _ marked => marked⟩
        have kept := graph.changePair c csListed scListed scDirection quietCs quietSc
          fun _ => (IPsecSa.hasKeys_withKeys rfl _).fit fun waiting => nomatch waiting.2
        -- Each SA is written twice.
        have same : ((establishPair ike c cs sc).setIPsecSa sc.address fun sa =>
              sa.deriveKeys algorithms setting setting.spiServerToClient sc.initiatorRand
                content).setIPsecSa cs.address (fun sa =>
              sa.deriveKeys algorithms setting sa.spi sc.initiatorRand content) =
            ((ike.setIPsecSa cs.address changeCs).setIPsecSa sc.address changeSc).setIkeClient c
              fun client =>
                { client with
                  currentIpSecSaRecv := some cs.address
                  currentIpSecSaSend := some sc.address } := by
          have established : ∀ sa, (establish sa).address = sa.address := fun _ => rfl
          have derived : ∀ sa : IPsecSa,
              (sa.deriveKeys algorithms setting sa.spi sc.initiatorRand content).address =
                sa.address :=
            fun _ => rfl
          have lists : writeAt IPsecSa.address (writeAt IPsecSa.address
                (writeAt IPsecSa.address (writeAt IPsecSa.address ike.ipsecSaList cs.address
                  establish) sc.address establish) sc.address fun sa =>
                sa.deriveKeys algorithms setting setting.spiServerToClient sc.initiatorRand
                  content) cs.address (fun sa =>
                sa.deriveKeys algorithms setting sa.spi sc.initiatorRand content) =
              writeAt IPsecSa.address
                (writeAt IPsecSa.address ike.ipsecSaList cs.address changeCs) sc.address
                changeSc := by
            rw [writeAt_writeAt established, writeAt_comm (Ne.symm differ) quietSc.address derived,
              writeAt_writeAt established]
          unfold establishPair IkeServer.setIPsecSa IkeServer.setIkeClient
          simpa using lists
        rw [same]
        refine (ipsecSaSendPacket_ends kept.graph ?_).bind fun _ _ => .pure kept.graph
        exact kept.keeps.allocated ⟨sc, scListed, rfl⟩

theorem searchIPsecSaByMessageId_eq_some
    {messageId : UInt32}
    (found : searchIPsecSaByMessageId ike c messageId = some sa) :
    sa ∈ ike.ipsecSaList ∧ sa.serverToClient = false := by
  unfold searchIPsecSaByMessageId at found
  have fits := List.find?_some found
  have fits := of_decide_eq_true fits
  exact ⟨List.mem_of_find?_eq_some found, fits.2.2.1⟩

theorem procQuickNext_ends
    (null : permitted .nullPacket)
    (algorithms : Algorithms)
    (graph : Graph False ike)
    (there : ClientAt ike c)
    {cs : IPsecSa}
    (csListed : cs ∈ ike.ipsecSaList)
    (csDirection : cs.serverToClient = false)
    (content : QuickContent) :
    Ends permitted (procQuickNext algorithms ike c cs content) (Graph False) := by
  have pointers := graph.ipsecSas cs csListed
  unfold procQuickNext
  cases paired : cs.pairIPsecSa with
  | none => exact .pure graph
  | some pair =>
      obtain ⟨sc, scListed, scHere, scDirection⟩ := pointers.pairIPsecSa pair paired
      have allocated : Allocated IPsecSa.address ike.ipsecSaList pair := ⟨sc, scListed, scHere⟩
      refine allocated.follow.bind fun other ⟨otherListed, otherHere⟩ => ?_
      obtain rfl := graph.ipsecSasUnique.eq_of_key otherListed scListed
        (otherHere.trans scHere.symm)
      rw [csDirection] at scDirection
      split
      case isTrue => exact .pure graph
      case isFalse =>
        refine (readIkeSaOf_ends pointers).bind fun _ _ => ?_
        cases content with
        | unparsable => exact .error null
        | invalid => exact .pure graph
        | first content => exact .pure graph
        | second content =>
            dsimp only
            split
            case isFalse => exact .pure graph
            case isTrue =>
              exact procQuickSecond_ends algorithms graph there csListed otherListed csDirection
                scDirection content
        | third =>
            dsimp only
            split
            case isFalse => exact .pure graph
            case isTrue ready =>
              exact .pure (graph.establishPair c csListed otherListed scDirection ready).graph

theorem procQuick_ends
    (null : permitted .nullPacket)
    (algorithms : Algorithms)
    (graph : Graph False ike)
    (there : ClientAt ike c)
    (header : Header)
    {sa : IkeSa}
    (held : IkeSaAt ike sa.address c)
    (content : QuickContent) :
    Ends permitted
      (match searchIPsecSaByMessageId ike c header.messageId with
      | some cs => procQuickNext algorithms ike c cs content
      | none =>
          match content with
          | .first content => procQuickFirst algorithms ike c header sa content
          | _ => pure ike)
      (Graph False) := by
  cases searched : searchIPsecSaByMessageId ike c header.messageId with
  | some cs =>
      obtain ⟨csListed, csDirection⟩ := searchIPsecSaByMessageId_eq_some searched
      exact procQuickNext_ends null algorithms graph there csListed csDirection content
  | none =>
      cases content with
      | first content => exact procQuickFirst_ends algorithms graph there header held content
      | unparsable => exact .pure graph
      | invalid => exact .pure graph
      | second content => exact .pure graph
      | third => exact .pure graph

theorem procIkeQuickModePacketRecv_ends
    (null : permitted .nullPacket)
    (algorithms : Algorithms)
    (graph : Graph False ike)
    (arrival : Arrival)
    (header : Header)
    (content : QuickContent) :
    Ends permitted (procIkeQuickModePacketRecv algorithms ike arrival header content)
      (Graph False) := by
  unfold procIkeQuickModePacketRecv
  split
  case isTrue => exact .pure graph
  case isFalse =>
    refine (searchOrCreateNewIkeClientForIkePacket_ends graph arrival header).bind
      fun ⟨ike, c⟩ ⟨graph, there⟩ => ?_
    cases c with
    | none => exact .pure graph
    | some c =>
        have there := there c rfl
        dsimp only at graph there ⊢
        cases found : findIkeSaByResponderCookieAndClient ike header.responderCookie c with
        | none =>
            exact (sendInformationalExchangePacketEx_ends graph there true).bind
              fun _ _ => .pure graph
        | some sa =>
            obtain ⟨listed, owned⟩ := findIkeSaByResponderCookieAndClient_eq_some found
            dsimp only
            split
            case isFalse => exact .pure graph
            case isTrue =>
              rw [owned]
              have touched := quietIkeSa_touch ike.now
              have first : Kept ike (ike.setIkeSa sa.address _) :=
                ⟨graph.setIkeSa sa.address touched, .setIkeSa ike sa.address touched⟩
              refine (first.keeps.client there).follow.bind fun _ _ => ?_
              have held := first.keeps.ikeSa ⟨sa, listed, rfl, owned⟩
              have use : Kept _ (IkeServer.setIkeClient _ c fun client =>
                  { client with lastCommTick := ike.now, currentIkeSa := some sa.address }) :=
                ⟨first.graph.useIkeSa held (fun _ => rfl) (fun _ => rfl) (fun _ => rfl)
                    fun _ => rfl,
                  .setIkeClient _ c fun _ => rfl⟩
              have second := first.trans use
              exact procQuick_ends null algorithms second.graph (second.keeps.client there)
                header (second.keeps.ikeSa ⟨sa, listed, rfl, owned⟩) content

end

end Ike
end SoftEther
