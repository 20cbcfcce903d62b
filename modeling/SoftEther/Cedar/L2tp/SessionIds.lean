import SoftEther.Cedar.L2tp.Codec
import SoftEther.Cedar.L2tp.Identifiers

/-!
# The id of a session on the wire

The server tells the other side the id of a session twice: in the `ICRP` message that announces
the session, and in the `CDN` message that ends it.  What the parser reads from the two is the
same in L2TPv2 only.
-/

namespace SoftEther
namespace L2tp

open Network

def SentPacket.datagram (isYamahaV3 : Bool) (sent : SentPacket) : UdpPacket where
  srcIP := sent.srcIP
  srcPort := sent.srcPort
  dstIP := sent.dstIP
  destPort := sent.destPort
  data := packetBytes isYamahaV3 sent.packet

/-- The packet that `SendL2TPControlPacket` builds. -/
def Work.controlPacket (w : Work) (sessionId : UInt32) (p : Packet) : Packet :=
  { p with
    isControl := true
    tunnelId := w.tunnel.tunnelId1
    sessionId := sessionId
    ns := w.tunnel.nextNs
    nr := w.tunnel.lastNr + 1 }

/-- The packet that `SendL2TPControlPacket` sends. -/
def Work.sentControl (w : Work) (sessionId : UInt32) (p : Packet) : SentPacket where
  srcIP := w.tunnel.serverIp
  srcPort := w.tunnel.serverPort
  dstIP := w.tunnel.clientIp
  destPort := w.tunnel.clientPort
  packet := buildL2TPPacketData (w.controlPacket sessionId p)
  processed := w.tunnel.processed

theorem Work.sendPacketList_sendL2TPControlPacket
    (env : Env)
    (w : Work)
    (sessionId : UInt32)
    (p : Packet) :
    (w.sendL2TPControlPacket env sessionId p).sendPacketList =
      w.sendPacketList ++ [w.sentControl sessionId p] := by
  have numbered := buildL2TPPacketData_nr (w.controlPacket sessionId p) (w.tunnel.lastNr + 1)
  have same : { buildL2TPPacketData (w.controlPacket sessionId p) with
      nr := w.tunnel.lastNr + 1 } = buildL2TPPacketData (w.controlPacket sessionId p) :=
    numbered.symm
  unfold sentControl
  rw [← same]
  rfl

/-- The ids of the header as L2TPv2 writes them. -/
def Packet.narrow (pp : Packet) : Packet :=
  { pp with
    tunnelId := pp.tunnelId.toUInt16.toUInt32
    sessionId := pp.sessionId.toUInt16.toUInt32 }

theorem packetBytes_narrow
    {pp : Packet}
    (notV3 : pp.ver ≠ 3)
    (isYamahaV3 : Bool) :
    packetBytes isYamahaV3 pp.narrow = packetBytes isYamahaV3 pp := by
  have narrow : ∀ id : UInt32, id.toUInt16.toUInt32.toUInt16 = id.toUInt16 := by
    intro id
    apply UInt16.toNat_inj.mp
    simp
  have ids : headerIds pp.narrow = headerIds pp := by
    rw [headerIds, headerIds, if_neg notV3, if_neg (show pp.narrow.ver ≠ 3 from notV3)]
    rw [Packet.narrow, narrow, narrow]
  unfold packetBytes
  rw [ids]
  rfl

/-! ## What is read of the id -/

/-- The value with the id of the session that the parser finds in a packet that was sent. -/
def SentPacket.assignedSession (t : Tunnel) (sent : SentPacket) : Option UInt32 :=
  (parseL2TPPacket (sent.datagram t.isYamahaV3)).bind (L2tp.assignedSession t)

/-- The value that holds the id. -/
def assignedSessionType (isV3 : Bool) : UInt16 :=
  if isV3 then L2TP_AVP_TYPE_V3_SESSION_ID_LOCAL else L2TP_AVP_TYPE_ASSIGNED_SESSION

/-- A message of the server about a session: the type, the id, and some short values. -/
structure SessionMessage (t : Tunnel) (id : List UInt8) (p : Packet) : Prop where
  version : p.ver = if t.isV3 then 3 else 2
  /-- The type comes first, the id second. -/
  values : ∃ others, p.avpList =
    newAVP L2TP_AVP_TYPE_MESSAGE_TYPE true 0 (ushortBytes p.messageType) ::
      newAVP (assignedSessionType t.isV3) true 0 id :: others
  short : ∀ a ∈ p.avpList, a.data.length ≤ 16
  few : p.avpList.length ≤ 16
  noRemote : ∀ a ∈ p.avpList, a.type ≠ L2TP_AVP_TYPE_V3_SESSION_ID_REMOTE ∧
    ¬(a.type = L2TPV3_CISCO_AVP_SESSION_ID_REMOTE ∧ a.vendorID = L2TP_AVP_VENDOR_ID_CISCO)

theorem length_flatMap_avpBytes_le
    {avpList : List Avp}
    {size : Nat}
    (short : ∀ a ∈ avpList, a.data.length ≤ size) :
    (avpList.flatMap avpBytes).length ≤ (size + 6) * avpList.length := by
  induction avpList with
  | nil => simp
  | cons a avpList inductionHypothesis =>
      have first := short a List.mem_cons_self
      have rest := inductionHypothesis fun other listed =>
        short other (List.mem_cons_of_mem a listed)
      rw [List.flatMap_cons, List.length_append, length_avpBytes, List.length_cons, Nat.mul_add]
      omega

variable {t : Tunnel} {id : List UInt8} {p : Packet} {w : Work} {others : List Avp} {s : Session}
    {env : Env}

theorem SessionMessage.getAVPValue_remote
    (message : SessionMessage t id p) :
    getAVPValue p L2TP_AVP_TYPE_V3_SESSION_ID_REMOTE = none := by
  have first : findAVP p L2TP_AVP_TYPE_V3_SESSION_ID_REMOTE 0 = none := by
    apply List.find?_eq_none.mpr
    intro a listed
    simp [(message.noRemote a listed).1]
  have second : findAVP p L2TPV3_CISCO_AVP_SESSION_ID_REMOTE L2TP_AVP_VENDOR_ID_CISCO = none := by
    apply List.find?_eq_none.mpr
    intro a listed
    simpa using (message.noRemote a listed).2
  rw [getAVPValue, getAVPValueEx, first]
  exact second

theorem SessionMessage.assignedSession
    {p ret : Packet}
    {more : List Avp}
    (message : SessionMessage t id p)
    (avpList : ret.avpList = p.avpList ++ more) :
    L2tp.assignedSession t ret =
      readId t.isV3 (some (newAVP (assignedSessionType t.isV3) true 0 id)) := by
  obtain ⟨others, values⟩ := message.values
  have other : L2TP_AVP_TYPE_MESSAGE_TYPE ≠ assignedSessionType t.isV3 := by
    cases t.isV3 with
    | true => decide
    | false => decide
  have found : findAVP ret (assignedSessionType t.isV3) 0 =
      some (newAVP (assignedSessionType t.isV3) true 0 id) := by
    rw [findAVP, avpList, values, List.cons_append, List.find?_cons_of_neg (by simp [newAVP, other]),
      List.cons_append, List.find?_cons_of_pos (by simp [newAVP])]
  rw [L2tp.assignedSession]
  exact congrArg (readId t.isV3) (getAVPValue_of_findAVP found)

theorem SessionMessage.controlPacket
    {p pp : Packet}
    (message : SessionMessage t id p)
    (control : pp.isControl = true)
    (ver : pp.ver = p.ver)
    (messageType : pp.messageType = p.messageType)
    (avpList : pp.avpList = p.avpList)
    (small : t.isV3 = false → pp.tunnelId.toNat < 65536 ∧ pp.sessionId.toNat < 65536) :
    ControlPacket t pp where
  control := control
  version := ver.trans message.version
  fits := by
    intro a listed
    rw [avpList] at listed
    exact (message.short a listed).trans (by decide)
  first := by
    obtain ⟨others, values⟩ := message.values
    exact ⟨true, _, by rw [avpList, messageType, values]⟩
  small := small
  remote := by
    intro _ a found
    rw [getAVPValue_of_avpList avpList, message.getAVPValue_remote] at found
    exact nomatch found

theorem length_builtBytes_lt
    {pp : Packet}
    (control : pp.isControl = true)
    (short : ∀ a ∈ pp.avpList, a.data.length ≤ 16)
    (few : pp.avpList.length ≤ 16) :
    (builtBytes t pp).length < 65536 := by
  obtain ⟨more, added, two, four⟩ := buildL2TPPacketData_adds pp
  have builtControl : (buildL2TPPacketData pp).isControl = true := by
    rw [added]
    exact control
  have values : ∀ a ∈ (buildL2TPPacketData pp).avpList, a.data.length ≤ 16 := by
    rw [added]
    intro a listed
    obtain listed | listed := List.mem_append.mp listed
    · exact short a listed
    · have size := four a listed
      omega
  have zero : (zeroSessionId t.isYamahaV3 (buildL2TPPacketData pp)).length ≤ 4 := by
    unfold zeroSessionId
    split
    · exact Nat.le_refl 4
    · exact Nat.zero_le 4
  have total := length_flatMap_avpBytes_le values
  have number : (buildL2TPPacketData pp).avpList.length ≤ 18 := by
    rw [added, List.length_append]
    omega
  rw [builtBytes, packetBytes_control builtControl]
  simp only [List.length_append, List.length_cons, List.length_nil, length_bigEndian, controlBody,
    length_headerIds, length_ushortBytes]
  omega

theorem assignedSession_sentControl
    (message : SessionMessage w.tunnel id p)
    (comes : w.tunnel.ComesFrom w.tunnel.serverPort)
    (sessionId : UInt32) :
    (w.sentControl sessionId p).assignedSession w.tunnel =
      readId w.tunnel.isV3 (some (newAVP (assignedSessionType w.tunnel.isV3) true 0 id)) := by
  have parsed : ∃ pp, pp.avpList = p.avpList ∧ ControlPacket w.tunnel pp ∧
      ((w.sentControl sessionId p).datagram w.tunnel.isYamahaV3).data = builtBytes w.tunnel pp := by
    cases isV3 : w.tunnel.isV3 with
    | true =>
        refine ⟨w.controlPacket sessionId p, rfl, ?_, rfl⟩
        exact message.controlPacket rfl rfl rfl rfl (by simp [isV3])
    | false =>
        have notV3 : (w.controlPacket sessionId p).ver ≠ 3 := by
          intro ver
          have same := (isV3_of_version message.version).mp ver
          exact absurd (same.symm.trans isV3) (by decide)
        have whole : ∀ pp : Packet, pp.ver ≠ 3 → buildL2TPPacketData pp = pp := fun pp other =>
          if_neg fun adds => other adds.1
        refine ⟨(w.controlPacket sessionId p).narrow, rfl, ?_, ?_⟩
        · exact message.controlPacket rfl rfl rfl rfl fun _ =>
            ⟨by simp [Packet.narrow]; omega, by simp [Packet.narrow]; omega⟩
        · rw [builtBytes, whole (w.controlPacket sessionId p).narrow notV3,
            packetBytes_narrow notV3]
          exact congrArg (packetBytes w.tunnel.isYamahaV3) (whole _ notV3)
  obtain ⟨pp, avpList, packet, data⟩ := parsed
  have short : (builtBytes w.tunnel pp).length < 65536 :=
    length_builtBytes_lt packet.control (by rw [avpList]; exact message.short)
      (by rw [avpList]; exact message.few)
  have built := parse_builtBytes packet comes data short
  obtain ⟨more, added, -⟩ := buildL2TPPacketData_eq pp
  rw [SentPacket.assignedSession, built, Option.bind_some]
  refine message.assignedSession (?_ : _ = p.avpList ++ more)
  rw [← avpList]
  exact congrArg Packet.avpList added

/-! ## The two messages -/

/-- The id of a session as `ICRP` has it. -/
def icrpIdBytes (s : Session) : List UInt8 :=
  if s.isV3 then uintBytes s.sessionId2 else ushortBytes s.sessionId2.toUInt16

/-- The id of a session as `CDN` has it. -/
def cdnSessionIdBytes (s : Session) : List UInt8 :=
  if s.isV3 then cdnIdBytes s.sessionId2 else ushortBytes s.sessionId2.toUInt16

theorem length_cdnIdBytes (id : UInt32) : (cdnIdBytes id).length = 4 := by
  rw [cdnIdBytes, List.length_append, length_bigEndian]
  rfl

/-- A short value that is not the id of the other side. -/
def Avp.IsOther (a : Avp) : Prop :=
  a.data.length ≤ 16 ∧ a.type ≠ L2TP_AVP_TYPE_V3_SESSION_ID_REMOTE ∧
    ¬(a.type = L2TPV3_CISCO_AVP_SESSION_ID_REMOTE ∧ a.vendorID = L2TP_AVP_VENDOR_ID_CISCO)

theorem isOther_newAVP
    {type vendorId : UInt16}
    {data : List UInt8}
    (other : type ≠ L2TP_AVP_TYPE_V3_SESSION_ID_REMOTE ∧
      ¬(type = L2TPV3_CISCO_AVP_SESSION_ID_REMOTE ∧ vendorId = L2TP_AVP_VENDOR_ID_CISCO))
    (mandatory : Bool)
    (short : data.length ≤ 16) :
    (newAVP type mandatory vendorId data).IsOther :=
  ⟨short, other⟩

/-- So many values at most that are short and not the id of the other side. -/
structure OtherValues (count : Nat) (others : List Avp) : Prop where
  /-- Each of them. -/
  isOther : ∀ a ∈ others, a.IsOther
  /-- Their number. -/
  few : others.length ≤ count

theorem OtherValues.nil {count : Nat} : OtherValues count [] := by
  refine ⟨?_, Nat.zero_le count⟩
  intro other listed
  exact nomatch listed

theorem OtherValues.mono
    {count most : Nat}
    (values : OtherValues count others)
    (le : count ≤ most) :
    OtherValues most others :=
  ⟨values.isOther, values.few.trans le⟩

theorem OtherValues.cons
    {count : Nat}
    {a : Avp}
    (first : a.IsOther)
    (rest : OtherValues count others) :
    OtherValues (count + 1) (a :: others) :=
  ⟨List.forall_mem_cons.mpr ⟨first, rest.isOther⟩, Nat.succ_le_succ rest.few⟩

theorem OtherValues.append
    {count more : Nat}
    {others behind : List Avp}
    (first : OtherValues count others)
    (second : OtherValues more behind) :
    OtherValues (count + more) (others ++ behind) := by
  refine ⟨List.forall_mem_append.mpr ⟨first.isOther, second.isOther⟩, ?_⟩
  rw [List.length_append]
  exact Nat.add_le_add first.few second.few

theorem OtherValues.optional
    {a : Avp}
    (isOther : a.IsOther)
    (condition : Prop)
    [Decidable condition] :
    OtherValues 1 (if condition then [a] else []) := by
  split
  · exact ⟨List.forall_mem_singleton.mpr isOther, Nat.le_refl 1⟩
  · exact .nil

theorem SessionMessage.of_values
    {messageType : UInt16}
    (notZero : messageType ≠ 0)
    (idShort : id.length ≤ 16)
    (values : OtherValues 14 others) :
    SessionMessage t id (newL2TPControlPacket messageType t.isV3
      (newAVP (assignedSessionType t.isV3) true 0 id :: others)) := by
  have avpList : (newL2TPControlPacket messageType t.isV3
      (newAVP (assignedSessionType t.isV3) true 0 id :: others)).avpList =
      newAVP L2TP_AVP_TYPE_MESSAGE_TYPE true 0 (ushortBytes messageType) ::
        newAVP (assignedSessionType t.isV3) true 0 id :: others :=
    if_pos notZero
  have type : (newAVP L2TP_AVP_TYPE_MESSAGE_TYPE true 0 (ushortBytes messageType)).IsOther :=
    isOther_newAVP (by decide) true (by simp)
  have session : (newAVP (assignedSessionType t.isV3) true 0 id).IsOther := by
    refine isOther_newAVP ?_ true idShort
    cases t.isV3 with
    | true => decide
    | false => decide
  have all := (values.cons session).cons type
  rw [← avpList] at all
  exact {
    version := rfl
    values := ⟨others, avpList⟩
    short := fun a listed => (all.isOther a listed).1
    few := all.few
    noRemote := fun a listed => (all.isOther a listed).2 }

theorem length_ushortBytes_le (value : UInt16) : (ushortBytes value).length ≤ 16 := by
  simp

theorem icrpValues_eq
    (isV3 : s.isV3 = t.isV3)
    (env : Env) :
    ∃ others, icrpValues env t s =
      newAVP (assignedSessionType t.isV3) true 0 (icrpIdBytes s) :: others ∧
      OtherValues 14 others := by
  unfold icrpValues icrpIdBytes
  rw [isV3]
  cases t.isV3 with
  | false => exact ⟨[], rfl, .nil⟩
  | true =>
      have id : (uintBytes s.sessionId2).length ≤ 16 := by simp
      have ciscoId : (newAVP L2TPV3_CISCO_AVP_SESSION_ID_LOCAL true L2TP_AVP_VENDOR_ID_CISCO
          (uintBytes s.sessionId2)).IsOther := isOther_newAVP (by decide) true id
      have line : (newAVP L2TP_AVP_TYPE_V3_PW_TYPE true 0
          (ushortBytes s.pseudowireType)).IsOther :=
        isOther_newAVP (by decide) true (length_ushortBytes_le _)
      have ciscoLine : (newAVP L2TPV3_CISCO_AVP_PW_TYPE true L2TP_AVP_VENDOR_ID_CISCO
          (ushortBytes (if t.isYamahaV3 then env.unset else s.pseudowireType))).IsOther :=
        isOther_newAVP (by decide) true (length_ushortBytes_le _)
      have circuit : (newAVP L2TP_AVP_TYPE_V3_CIRCUIT_STATUS true 0 (ushortBytes 3)).IsOther :=
        isOther_newAVP (by decide) true (length_ushortBytes_le _)
      refine ⟨_, rfl, ?_⟩
      exact ((((OtherValues.optional ciscoId _).append (.optional line _)).append
        (.optional ciscoLine _)).append (.optional circuit _)).mono (by decide)

theorem sessionMessage_icrp
    (isV3 : s.isV3 = t.isV3)
    (env : Env) :
    SessionMessage t (icrpIdBytes s)
      (newL2TPControlPacket L2TP_MESSAGE_TYPE_ICRP s.isV3 (icrpValues env t s)) := by
  obtain ⟨others, values, other⟩ := icrpValues_eq isV3 env
  have idShort : (icrpIdBytes s).length ≤ 16 := by
    unfold icrpIdBytes
    split
    · simp
    · simp
  rw [values, isV3]
  exact .of_values (by decide) idShort other

theorem otherValues_disconnectCause (s : Session) : OtherValues 1 (disconnectCause s) := by
  unfold disconnectCause
  cases s.thread with
  | none => exact .nil
  | some thread => exact .optional (isOther_newAVP (by decide) false (by simp)) _

theorem cdnPacket_eq
    (isV3 : s.isV3 = t.isV3) :
    ∃ others, cdnPacket t s = newL2TPControlPacket L2TP_MESSAGE_TYPE_CDN t.isV3
      (newAVP (assignedSessionType t.isV3) true 0 (cdnSessionIdBytes s) :: others) ∧
      OtherValues 14 others := by
  have result : (newAVP L2TP_AVP_TYPE_RESULT_CODE true 0 [0, 3, 0, 0]).IsOther :=
    isOther_newAVP (by decide) true (by decide)
  have ends := (otherValues_disconnectCause s).cons result
  unfold cdnPacket cdnSessionIdBytes
  rw [isV3]
  cases t.isV3 with
  | false => exact ⟨_, rfl, ends.mono (by decide)⟩
  | true =>
      have ciscoId : (newAVP L2TPV3_CISCO_AVP_SESSION_ID_LOCAL true L2TP_AVP_VENDOR_ID_CISCO
          (cdnIdBytes s.sessionId2)).IsOther :=
        isOther_newAVP (by decide) true (by simp [length_cdnIdBytes])
      exact ⟨_, rfl, ((OtherValues.optional ciscoId _).append ends).mono (by decide)⟩

theorem sessionMessage_cdn
    (isV3 : s.isV3 = t.isV3) :
    SessionMessage t (cdnSessionIdBytes s) (cdnPacket t s) := by
  obtain ⟨others, packet, other⟩ := cdnPacket_eq isV3
  have idShort : (cdnSessionIdBytes s).length ≤ 16 := by
    unfold cdnSessionIdBytes
    split
    · simp [length_cdnIdBytes]
    · simp
  rw [packet]
  exact .of_values (by decide) idShort other

/-! ## The two ids -/

/-- The ids that are tried in order stay below their end. -/
theorem firstFreeId_lt
    {taken : UInt32 → Bool}
    {count : Nat}
    {id : UInt32}
    (fits : id.toNat + count ≤ 65536) :
    (firstFreeId taken count id).toNat < 65536 := by
  induction count generalizing id with
  | zero => exact Nat.lt_of_lt_of_le (by decide : (0 : UInt32).toNat < 1) (by decide)
  | succ count inductionHypothesis =>
      rw [firstFreeId]
      split
      · apply inductionHypothesis
        have next : (id + 1).toNat = id.toNat + 1 := by
          have one : (1 : UInt32).toNat = 1 := by decide
          rw [UInt32.toNat_add, one]
          exact Nat.mod_eq_of_lt (by omega)
        omega
      · omega

theorem newL2TPSession_serverId
    {sessionId : UInt32}
    (new : newL2TPSession env t sessionId = some s) :
    s.isV3 = t.isV3 ∧ s.sessionId2 ≠ 0 ∧ (t.isV3 = false → s.sessionId2.toNat < 65536) := by
  unfold newL2TPSession at new
  by_cases noId : sessionId = 0
  · rw [if_pos noId] at new
    exact nomatch new
  rw [if_neg noId] at new
  by_cases full : L2TP_QUOTA_MAX_NUM_SESSIONS_PER_TUNNEL ≤ t.sessionList.length
  · rw [if_pos full] at new
    exact nomatch new
  rw [if_neg full] at new
  dsimp only at new
  have small : t.isV3 = false → (if t.isV3 = false then generateNewSessionIdEx t t.isV3
      else generateNewSessionIdForL2TPv3 env t).toNat < 65536 := by
    intro notV3
    rw [if_pos notV3, generateNewSessionIdEx, notV3]
    exact firstFreeId_lt (by decide)
  generalize (if t.isV3 = false then generateNewSessionIdEx t t.isV3
      else generateNewSessionIdForL2TPv3 env t) = id at new small
  by_cases zero : id = 0
  · rw [if_pos zero] at new
    exact nomatch new
  · rw [if_neg zero] at new
    cases new
    exact ⟨rfl, zero, small⟩

theorem readId_icrp
    (small : s.isV3 = false → s.sessionId2.toNat < 65536) :
    readId s.isV3 (some (newAVP (assignedSessionType s.isV3) true 0 (icrpIdBytes s))) =
      some s.sessionId2 := by
  unfold icrpIdBytes
  cases isV3 : s.isV3 with
  | true => exact readId_uintBytes true 0 _ s.sessionId2
  | false =>
      have fits := small isV3
      have number : fromBigEndian (ushortBytes s.sessionId2.toUInt16) = s.sessionId2.toNat := by
        rw [ushortBytes, fromBigEndian_bigEndian (UInt16.toNat_lt _)]
        simp
        omega
      simp [readId, newAVP, number]

theorem readId_cdn
    (notZero : s.sessionId2 ≠ 0)
    (isV3 : s.isV3 = true) :
    readId s.isV3 (some (newAVP (assignedSessionType s.isV3) true 0 (cdnSessionIdBytes s))) ≠
      some s.sessionId2 := by
  have bytes : fromBigEndian (cdnIdBytes s.sessionId2) =
      s.sessionId2.toUInt16.toNat * 65536 := by
    have low := fromBigEndian_bigEndian
      (show s.sessionId2.toUInt16.toNat < 256 ^ 2 from UInt16.toNat_lt s.sessionId2.toUInt16)
    unfold fromBigEndian at low ⊢
    rw [cdnIdBytes, List.foldl_append, low]
    simp
    omega
  have read : readId s.isV3 (some (newAVP (assignedSessionType s.isV3) true 0
      (cdnSessionIdBytes s))) = some (UInt32.ofNat (s.sessionId2.toUInt16.toNat * 65536)) := by
    simp [readId, newAVP, cdnSessionIdBytes, isV3, length_cdnIdBytes, bytes]
  rw [read]
  intro same
  apply notZero
  apply UInt32.toNat_inj.mp
  have numbers := congrArg UInt32.toNat (Option.some.inj same)
  have low : s.sessionId2.toUInt16.toNat = s.sessionId2.toNat % 65536 := by simp
  have small := UInt16.toNat_lt s.sessionId2.toUInt16
  rw [UInt32.toNat_ofNat_of_lt' (by show _ < 4294967296; omega)] at numbers
  have zero : (0 : UInt32).toNat = 0 := by decide
  omega

theorem assignedSession_icrp
    {icrp : SentPacket}
    (isV3 : s.isV3 = w.tunnel.isV3)
    (comes : w.tunnel.ComesFrom w.tunnel.serverPort)
    (announced : (w.addSession env p s).sendPacketList.getLast? = some icrp) :
    icrp.assignedSession w.tunnel =
      readId s.isV3 (some (newAVP (assignedSessionType s.isV3) true 0 (icrpIdBytes s))) := by
  have read : ∀ (w : Work) (s : Session), s.isV3 = w.tunnel.isV3 →
      w.tunnel.ComesFrom w.tunnel.serverPort →
      (w.sentControl s.sessionId1 (newL2TPControlPacket L2TP_MESSAGE_TYPE_ICRP s.isV3
        (icrpValues env w.tunnel s))).assignedSession w.tunnel =
      readId s.isV3 (some (newAVP (assignedSessionType s.isV3) true 0 (icrpIdBytes s))) := by
    intro w s version comes
    rw [version]
    exact version ▸ assignedSession_sentControl (sessionMessage_icrp version env) comes s.sessionId1
  unfold Work.addSession at announced
  dsimp only at announced
  rw [Work.sendPacketList_sendL2TPControlPacket, List.getLast?_concat] at announced
  rw [← Option.some.inj announced]
  by_cases version : w.tunnel.isV3 = true
  · rw [if_pos version]
    exact read _ { s with pseudowireType := askedPseudowireType p } isV3 ⟨comes.yamaha, comes.port⟩
  · rw [if_neg version]
    exact read { w with tunnel := { w.tunnel with sessionList := w.tunnel.sessionList ++ [s] } } s
      isV3 ⟨comes.yamaha, comes.port⟩

theorem Work.sendPacketList_keepSession (env : Env) (w : Work) (s : Session) :
    (w.keepSession env s).sendPacketList = w.sendPacketList := by
  unfold keepSession
  split
  · rfl
  · rfl

theorem assignedSession_cdn
    {cdn : SentPacket}
    (isV3 : s.isV3 = w.tunnel.isV3)
    (comes : w.tunnel.ComesFrom w.tunnel.serverPort)
    (ends : s.drain.wantToDisconnect = true ∧ s.drain.disconnecting = false)
    (told : (w.interruptSession env s).sendPacketList.getLast? = some cdn) :
    cdn.assignedSession w.tunnel =
      readId s.isV3 (some (newAVP (assignedSessionType s.isV3) true 0
        (cdnSessionIdBytes s))) := by
  have ids : s.drain.ids = s.ids := Session.ids_drain
  have drainedV3 : s.drain.isV3 = s.isV3 := congrArg Prod.fst ids
  have drainedId : s.drain.sessionId2 = s.sessionId2 := congrArg (fun ids => ids.2.2) ids
  have sending := (Work.tunnel_sendWaiting (w := w) s s.waiting).1
  unfold Work.interruptSession at told
  dsimp only at told
  generalize s.waiting.foldl (fun w data => w.sendL2TPDataPacket s data) w = sent at told sending
  rw [if_pos ends, Work.sendPacketList_keepSession, Work.sendPacketList_sendL2TPControlPacket,
    List.getLast?_concat] at told
  have message : SessionMessage sent.tunnel (cdnSessionIdBytes s.drain)
      (cdnPacket sent.tunnel s.drain) :=
    sessionMessage_cdn (by rw [drainedV3, isV3, sending])
  have read := assignedSession_sentControl message (sending ▸ comes) s.drain.sessionId1
  rw [Option.some.inj told, sending, ← isV3] at read
  rw [read, cdnSessionIdBytes, cdnSessionIdBytes, drainedV3, drainedId]

/-- The id that the other side reads from `CDN` is the one that it has read from `ICRP`, the one
that the server has assigned, exactly in a tunnel of L2TPv2. -/
theorem cdnId_eq_icrpId_iff
    {env later : Env}
    {w w' : Work}
    {p : Packet}
    {sessionId : UInt32}
    {s s' : Session}
    {icrp cdn : SentPacket}
    (new : newL2TPSession env w.tunnel sessionId = some s)
    (comes : w.tunnel.ComesFrom w.tunnel.serverPort)
    (sameKind : w'.tunnel.isV3 = w.tunnel.isV3 ∧ w'.tunnel.isYamahaV3 = w.tunnel.isYamahaV3 ∧
      w'.tunnel.serverPort = w.tunnel.serverPort)
    (sameIds : s'.ids = s.ids)
    (ends : s'.drain.wantToDisconnect = true ∧ s'.drain.disconnecting = false)
    (announced : (w.addSession env p s).sendPacketList.getLast? = some icrp)
    (told : (w'.interruptSession later s').sendPacketList.getLast? = some cdn) :
    icrp.assignedSession w.tunnel = some s.sessionId2 ∧
      cdn.assignedSession w'.tunnel = icrp.assignedSession w.tunnel ↔ w.tunnel.isV3 = false := by
  obtain ⟨isV3, notZero, small⟩ := newL2TPSession_serverId new
  have readIcrp : icrp.assignedSession w.tunnel = some s.sessionId2 := by
    rw [assignedSession_icrp isV3 comes announced, readId_icrp (isV3 ▸ small)]
  have sameV3 : s'.isV3 = s.isV3 := congrArg Prod.fst sameIds
  have sameId : s'.sessionId2 = s.sessionId2 := congrArg (fun ids => ids.2.2) sameIds
  have laterV3 : s'.isV3 = w'.tunnel.isV3 := by rw [sameV3, isV3, sameKind.1]
  have laterComes : w'.tunnel.ComesFrom w'.tunnel.serverPort := by
    obtain ⟨tunnelV3, yamaha, port⟩ := sameKind
    constructor
    · rw [tunnelV3, yamaha]
      exact comes.yamaha
    · rw [tunnelV3, yamaha, port]
      exact comes.port
  have readCdn := assignedSession_cdn laterV3 laterComes ends told
  rw [readCdn, readIcrp]
  constructor
  · rintro ⟨-, same⟩
    cases version : w.tunnel.isV3 with
    | false => rfl
    | true =>
        have isTrue : s'.isV3 = true := by rw [sameV3, isV3, version]
        exact absurd (same.trans (congrArg some sameId.symm))
          (readId_cdn (sameId ▸ notZero) isTrue)
  · intro version
    have isFalse : s'.isV3 = false := by rw [sameV3, isV3, version]
    have bytes : cdnSessionIdBytes s' = icrpIdBytes s' := by
      rw [cdnSessionIdBytes, icrpIdBytes, isFalse]
      rfl
    refine ⟨rfl, ?_⟩
    rw [bytes, readId_icrp (fun _ => sameId ▸ small version), sameId]

/-- A tunnel of L2TPv3 of the kind of Cisco. -/
def ciscoWork : Work where
  tunnel := { v2Tunnel with
    isV3 := true
    isCiscoV3 := true
    serverPort := IPSEC_PORT_L2TPV3_VIRTUAL
    clientPort := IPSEC_PORT_L2TPV3_VIRTUAL
    established := true }

/-- A server that draws an id of four bytes. -/
def ciscoEnv : Env where
  now := 0
  halt := false
  ike := true
  draws := [0x12345678]

def ciscoSession : Session where
  isV3 := true
  isCiscoV3 := true
  sessionId1 := 3
  sessionId2 := 0x12345678

/-- A session of L2TPv3 that was announced with `0x12345678` ends with `0x56780000`. -/
theorem cdnId_cisco :
    newL2TPSession ciscoEnv ciscoWork.tunnel 3 = some ciscoSession ∧
      (ciscoWork.addSession ciscoEnv v2Hello ciscoSession).sendPacketList.map
        (SentPacket.assignedSession ciscoWork.tunnel) = [some 0x12345678] ∧
      (ciscoWork.interruptSession ciscoEnv
        { ciscoSession with established := true, wantToDisconnect := true }).sendPacketList.map
        (SentPacket.assignedSession ciscoWork.tunnel) = [some 0x56780000] := by
  decide +kernel

/-- A tunnel of L2TPv2 that is worked on. -/
def v2Work : Work where
  tunnel := v2Tunnel

/-- The first session of the tunnel of L2TPv2. -/
def v2First : Session :=
  { v2Session with sessionId2 := 1 }

theorem cdnId_eq_icrpId_v2 :
    ∃ icrp cdn : SentPacket,
      icrp.assignedSession v2Work.tunnel = some v2First.sessionId2 ∧
        cdn.assignedSession v2Work.tunnel = icrp.assignedSession v2Work.tunnel ↔
      v2Work.tunnel.isV3 = false := by
  have new : newL2TPSession ciscoEnv v2Work.tunnel 3 = some v2First := by
    decide +kernel
  have sendsIcrp : (v2Work.addSession ciscoEnv v2Hello v2First).sendPacketList.getLast? ≠ none := by
    decide +kernel
  have sendsCdn : (v2Work.interruptSession ciscoEnv
      { v2First with wantToDisconnect := true }).sendPacketList.getLast? ≠ none := by
    decide +kernel
  obtain ⟨icrp, announced⟩ := Option.ne_none_iff_exists'.mp sendsIcrp
  obtain ⟨cdn, told⟩ := Option.ne_none_iff_exists'.mp sendsCdn
  have sameIds : ({ v2First with wantToDisconnect := true } : Session).ids = v2First.ids := rfl
  exact ⟨icrp, cdn, cdnId_eq_icrpId_iff new ⟨by decide, by decide⟩ ⟨rfl, rfl, rfl⟩ sameIds
    (by decide) announced told⟩

end L2tp
end SoftEther
