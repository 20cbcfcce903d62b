import SoftEther.Cedar.Radius.Codec

/-!
# The reassembly of PEAP messages

The server cuts a TLS message into fragments and sends each of them in the answer to a request.
`EapSendPacketAndRecvResponse` acknowledges the fragments and collects them behind the header of
the first one; `SendPeapRawPacket` writes what comes back to the SSL pipe.  The message counts as
complete when what was collected, with the ten bytes of the first header, is as long as the
message.
-/

namespace SoftEther
namespace Radius

open Network

/-! ## The EAP message of an answer -/

def eapMessages (p : Packet) : List Avp :=
  p.avpList.filter fun avp => avp.type = RADIUS_ATTRIBUTE_EAP_MESSAGE

/-- What the loop over the attributes has kept. -/
structure KeepsMessage (p : Packet) : Prop where
  kept : (p.parseEapMessage, p.parseEapMessageDataSize) =
    p.avpList.foldl keptMessage (none, 0)
  /-- An attribute has no more than 253 bytes. -/
  small : ∀ a ∈ p.avpList, a.data.length ≤ 253

theorem KeepsMessage.takes
    {p after : Packet}
    {a : Avp}
    (keeps : KeepsMessage p)
    (takes : Takes p a after)
    (small : a.data.length ≤ 253) :
    KeepsMessage after where
  kept := by
    rw [takes.kept, keeps.kept, takes.avpList, List.foldl_append, List.foldl_cons, List.foldl_nil]
  small := by
    rw [takes.avpList, List.forall_mem_append, List.forall_mem_singleton]
    exact ⟨keeps.small, small⟩

/-- An attribute that is read has been taken. -/
theorem takes_of_parsePlainAvp
    {type : UInt8}
    {current : Nat}
    {p after : Packet}
    {unread rest : List UInt8}
    (parsed : parsePlainAvp type current p unread = some (some (after, rest))) :
    ∃ a, Takes p a after ∧ a.data.length ≤ 253 := by
  cases unread with
  | nil => exact nomatch parsed
  | cons uc unread =>
      have byte := uc.toNat_lt
      unfold parsePlainAvp at parsed
      dsimp only at parsed
      split at parsed
      · exact nomatch parsed
      split at parsed
      · exact nomatch parsed
      · rw [keepEapMessage_eq] at parsed
        have same := congrArg Prod.fst (Option.some.inj (Option.some.inj parsed))
        dsimp only at same
        refine ⟨{ type := type, data := unread.take (uc.toNat - 2) }, ?_, ?_⟩
        · rw [← same]
          split
          · exact { code := rfl, packetId := rfl, avpList := rfl, kept := rfl }
          · exact { code := rfl, packetId := rfl, avpList := rfl, kept := rfl }
        · rw [List.length_take]
          omega

theorem takes_of_parseVendorAvp
    {type : UInt8}
    {p after : Packet}
    {unread rest : List UInt8}
    (vendor : type = RADIUS_ATTRIBUTE_VENDOR_SPECIFIC)
    (parsed : parseVendorAvp type p unread = some (some (after, rest))) :
    ∃ a, Takes p a after ∧ a.data.length ≤ 253 := by
  cases unread with
  | nil => exact nomatch parsed
  | cons uc unread =>
      have byte := uc.toNat_lt
      unfold parseVendorAvp at parsed
      dsimp only at parsed
      split at parsed
      · exact nomatch parsed
      cases left : (readBufChar (readBufInt unread).2).2 with
      | nil =>
          rw [left] at parsed
          exact nomatch parsed
      | cons size behind =>
          rw [left] at parsed
          dsimp only at parsed
          split at parsed
          · exact nomatch parsed
          split at parsed
          · exact nomatch parsed
          · have same := congrArg Prod.fst (Option.some.inj (Option.some.inj parsed))
            dsimp only at same
            refine ⟨{
              type := type
              vendorId := (readBufInt unread).1
              vendorCode := (readBufChar (readBufInt unread).2).1
              data := behind.take (uc.toNat - 8) }, ?_, ?_⟩
            · have other : ¬type = RADIUS_ATTRIBUTE_EAP_MESSAGE := by
                rw [vendor]
                decide
              rw [← same]
              exact {
                code := rfl
                packetId := rfl
                avpList := rfl
                kept := by rw [keptMessage, if_neg fun both => other both.1] }
            · rw [List.length_take]
              omega

theorem KeepsMessage.parseAvps
    {total rounds : Nat}
    {unread : List UInt8}
    {p after : Packet}
    (keeps : KeepsMessage p)
    (parsed : Radius.parseAvps total rounds unread p = some after) :
    KeepsMessage after := by
  induction rounds generalizing unread p with
  | zero =>
      cases parsed
      exact keeps
  | succ rounds inductionHypothesis =>
      cases unread with
      | nil =>
          cases parsed
          exact keeps
      | cons type unread =>
          unfold Radius.parseAvps at parsed
          dsimp only at parsed
          split at parsed
          · cases parsed
            exact keeps
          · exact nomatch parsed
          · rename_i middle rest one
            have taken : ∃ a, Takes p a middle ∧ a.data.length ≤ 253 := by
              split at one
              · exact takes_of_parsePlainAvp one
              · rename_i vendor
                exact takes_of_parseVendorAvp (not_not.mp vendor) one
            obtain ⟨a, takes, small⟩ := taken
            exact inductionHypothesis (keeps.takes takes small) parsed

theorem finishParse_of_parseRadiusPacket
    {spare data : List UInt8}
    {rp : Packet}
    (parsed : parseRadiusPacket spare data = some rp) :
    ∃ p, KeepsMessage p ∧ rp = finishParse spare p := by
  unfold parseRadiusPacket at parsed
  dsimp only at parsed
  split at parsed
  · exact nomatch parsed
  split at parsed
  · exact nomatch parsed
  split at parsed
  · exact nomatch parsed
  split at parsed
  · exact nomatch parsed
  obtain ⟨p, loop, same⟩ := Option.map_eq_some_iff.mp parsed
  refine ⟨p, KeepsMessage.parseAvps ?_ loop, same.symm⟩
  exact { kept := rfl, small := fun a listed => nomatch listed }

theorem eapMessages_finishParse (spare : List UInt8) (p : Packet) :
    eapMessages (finishParse spare p) = eapMessages p := by
  unfold finishParse eapMessages
  dsimp only
  cases getRadiusAvp p RADIUS_ATTRIBUTE_STATE with
  | none =>
      dsimp only
      split
      · split
        · rfl
        · rfl
      · rfl
  | some avp =>
      dsimp only
      split
      · split
        · rfl
        · rfl
      · rfl

theorem foldl_keptMessage_filter
    (avps : List Avp)
    (kept : Option (List UInt8) × Nat) :
    avps.foldl keptMessage kept =
      (avps.filter fun avp => avp.type = RADIUS_ATTRIBUTE_EAP_MESSAGE).foldl keptMessage kept := by
  induction avps generalizing kept with
  | nil => rfl
  | cons a avps inductionHypothesis =>
      by_cases message : a.type = RADIUS_ATTRIBUTE_EAP_MESSAGE
      · rw [List.filter_cons_of_pos (by simpa using message), List.foldl_cons, List.foldl_cons]
        exact inductionHypothesis _
      · rw [List.filter_cons_of_neg (by simpa using message), List.foldl_cons,
          inductionHypothesis, keptMessage, if_neg fun both => message both.1]

theorem eapLen_append
    {message : List UInt8}
    (long : 4 ≤ message.length)
    (more : List UInt8) :
    eapLen (message ++ more) = eapLen message := by
  rw [eapLen, eapLen, List.drop_append_of_le_length (by omega),
    List.take_append_of_le_length (by rw [List.length_drop]; omega)]

theorem parseEapMessage_eq
    {spare data message : List UInt8}
    {rp : Packet}
    (parsed : parseRadiusPacket spare data = some rp)
    (carried : (eapMessages rp).flatMap Avp.data = message)
    (long : 5 ≤ message.length)
    (size : eapLen message = message.length) :
    rp.parseEapMessage = some (message.take 1500) ∧
      rp.parseEapMessageDataSize = min message.length 1500 := by
  obtain ⟨p, keeps, rfl⟩ := finishParse_of_parseRadiusPacket parsed
  rw [eapMessages_finishParse] at carried
  have kept := keeps.kept
  rw [foldl_keptMessage_filter] at kept
  have sizes : ∀ a ∈ eapMessages p, a.data.length ≤ 253 := fun a listed =>
    keeps.small a (List.mem_of_mem_filter listed)
  have types : ∀ a ∈ eapMessages p, a.type = RADIUS_ATTRIBUTE_EAP_MESSAGE := fun a listed =>
    of_decide_eq_true (List.mem_filter.mp listed).2
  change _ = (eapMessages p).foldl keptMessage (none, 0) at kept
  by_cases few : (eapMessages p).length < 2
  · have whole : p.parseEapMessage = some (message.take 1500) ∧
        p.parseEapMessageDataSize = min message.length 1500 := by
      cases listed : eapMessages p with
      | nil =>
          rw [listed] at carried
          rw [← carried] at long
          exact absurd long (by simp)
      | cons a rest =>
          rw [listed, List.length_cons] at few
          have nothing : rest = [] := List.eq_nil_of_length_eq_zero (by omega)
          rw [listed, nothing] at kept carried
          rw [List.flatMap_singleton] at carried
          have small : a.data.length ≤ 253 := sizes a (by rw [listed]; exact List.mem_cons_self)
          have type := types a (by rw [listed]; exact List.mem_cons_self)
          rw [carried] at small
          rw [List.foldl_cons, List.foldl_nil, keptMessage, carried, size,
            if_pos ⟨type, by omega, by omega, by omega, le_refl _, rfl⟩] at kept
          rw [List.take_of_length_le (by omega), Nat.min_eq_left (by omega)]
          exact ⟨congrArg Prod.fst kept, congrArg Prod.snd kept⟩
    rw [finishParse_of_few spare few]
    exact whole
  · have first : eapLen (message ++ spare) ≤ message.length := by
      rw [eapLen_append (by omega), size]
    unfold eapMessages at few carried
    unfold finishParse
    dsimp only
    cases getRadiusAvp p RADIUS_ATTRIBUTE_STATE with
    | none =>
        dsimp only
        rw [if_pos (Nat.not_lt.mp few), carried, if_pos first]
        exact ⟨rfl, rfl⟩
    | some avp =>
        dsimp only
        rw [if_pos (Nat.not_lt.mp few), carried, if_pos first]
        exact ⟨rfl, rfl⟩

section

variable (spare : List UInt8)

/-- What `SendPeapRawPacket` writes to the SSL pipe for an answer; nothing when it does not write. -/
def receivedSslStream (rp : Packet) : Option (List UInt8) :=
  match rp.parseEapMessage with
  | none => none
  | some message =>
      let size := rp.parseEapMessageDataSize
      if size < sizeofEapPeap then none
      else if messageByte spare message 4 ≠ EAP_TYPE_PEAP then none
      else if messageByte spare message 5 &&& EAP_TLS_FLAGS_LEN ≠ 0 then
        let totalSize := fromBigEndian (((message ++ spare).drop sizeofEapPeap).take 4)
        if totalSize ≤ subUINT (subUINT size sizeofEapPeap) 4 then
          some (((message ++ spare).drop (sizeofEapPeap + 4)).take totalSize)
        else none
      else some (((message ++ spare).drop sizeofEapPeap).take (subUINT size sizeofEapPeap))

/-- The subtractions of sizes that `SendPeapRawPacket` makes for an answer. -/
def streamSubtractions (rp : Packet) : List (Nat × Nat) :=
  match rp.parseEapMessage with
  | none => []
  | some message =>
      let size := rp.parseEapMessageDataSize
      if size < sizeofEapPeap then []
      else if messageByte spare message 4 ≠ EAP_TYPE_PEAP then []
      else if messageByte spare message 5 &&& EAP_TLS_FLAGS_LEN ≠ 0 then
        [(size, sizeofEapPeap), (subUINT size sizeofEapPeap, 4)]
      else [(size, sizeofEapPeap)]

/-- The subtractions of sizes that `EapSendPacketAndRecvResponse` makes for a later fragment. -/
def fragmentSubtractions (message : List UInt8) (size : Nat) : List (Nat × Nat) :=
  if messageByte spare message 5 &&& EAP_TLS_FLAGS_LEN = 0 ∧ sizeofEapPeap ≤ size then
    [(size, sizeofEapPeap)]
  else []

end

def NoneWraps (subtractions : List (Nat × Nat)) : Prop :=
  ∀ subtraction ∈ subtractions, subtraction.2 ≤ subtraction.1

/-- A PEAP message that says that it has a length field, and is too short for one. -/
def MissesLength (spare : List UInt8) (rp : Packet) : Prop :=
  ∃ message, rp.parseEapMessage = some message ∧
    messageByte spare message 4 = EAP_TYPE_PEAP ∧
    messageByte spare message 5 &&& EAP_TLS_FLAGS_LEN ≠ 0 ∧
    sizeofEapPeap ≤ rp.parseEapMessageDataSize ∧ rp.parseEapMessageDataSize < sizeofEapPeap + 4

theorem noneWraps_fragmentSubtractions (spare message : List UInt8) (size : Nat) :
    NoneWraps (fragmentSubtractions spare message size) := by
  unfold fragmentSubtractions
  by_cases taken : messageByte spare message 5 &&& EAP_TLS_FLAGS_LEN = 0 ∧ sizeofEapPeap ≤ size
  · rw [if_pos taken]
    exact List.forall_mem_singleton.mpr taken.2
  · rw [if_neg taken]
    intro subtraction listed
    exact nomatch listed

theorem noneWraps_streamSubtractions_iff
    (spare : List UInt8)
    {rp : Packet}
    (small : rp.parseEapMessageDataSize < X32) :
    NoneWraps (streamSubtractions spare rp) ↔ ¬MissesLength spare rp := by
  unfold streamSubtractions MissesLength
  cases rp.parseEapMessage with
  | none => simp [NoneWraps]
  | some message =>
      dsimp only
      generalize rp.parseEapMessageDataSize = size at small ⊢
      simp only [Option.some.injEq, exists_eq_left']
      by_cases short : size < sizeofEapPeap
      · rw [if_pos short]
        refine iff_of_true (fun subtraction listed => nomatch listed) fun misses => ?_
        omega
      rw [if_neg short]
      by_cases other : messageByte spare message 4 ≠ EAP_TYPE_PEAP
      · rw [if_pos other]
        exact iff_of_true (fun subtraction listed => nomatch listed) fun misses => other misses.1
      rw [if_neg other]
      have less : subUINT size sizeofEapPeap = size - sizeofEapPeap :=
        subUINT_of_le (Nat.not_lt.mp short) small
      by_cases len : messageByte spare message 5 &&& EAP_TLS_FLAGS_LEN ≠ 0
      · rw [if_pos len, less]
        unfold NoneWraps
        rw [List.forall_mem_cons, List.forall_mem_singleton]
        simp only [not_not.mp other, len, true_and, ne_eq, not_false_eq_true]
        omega
      · rw [if_neg len]
        exact iff_of_true (List.forall_mem_singleton.mpr (Nat.not_lt.mp short))
          fun misses => len misses.2.1

structure Fragment where
  code : UInt8
  id : UInt8
  tlsFlags : UInt8
  /-- The part of the message. -/
  data : List UInt8

namespace Fragment

/-- The EAP message of a fragment; the first one has a length field before its data. -/
def message (f : Fragment) (lengthField : List UInt8) : List UInt8 :=
  [f.code, f.id] ++ (bigEndian 2 (6 + (lengthField ++ f.data).length) ++
    ([EAP_TYPE_PEAP, f.tlsFlags] ++ (lengthField ++ f.data)))

variable (f : Fragment) (lengthField spare : List UInt8)

theorem length_message :
    (f.message lengthField).length = 6 + (lengthField ++ f.data).length := by
  unfold message
  simp only [List.length_append, length_bigEndian, List.length_cons, List.length_nil]
  omega

theorem eapLen_message (fits : 6 + (lengthField ++ f.data).length < 65536) :
    eapLen (f.message lengthField) = (f.message lengthField).length := by
  rw [length_message]
  unfold eapLen message
  rw [List.drop_left' (by rfl), List.take_left' (length_bigEndian 2 _),
    fromBigEndian_bigEndian fits]

theorem take_message :
    (f.message lengthField).take 1500 =
      [f.code, f.id] ++ (bigEndian 2 (6 + (lengthField ++ f.data).length) ++
        ([EAP_TYPE_PEAP, f.tlsFlags] ++ (lengthField ++ f.data).take 1494)) := by
  unfold message
  rfl

theorem messageByte_type :
    messageByte spare ((f.message lengthField).take 1500) 4 = EAP_TYPE_PEAP := by
  rw [take_message]
  rfl

theorem messageByte_flags :
    messageByte spare ((f.message lengthField).take 1500) 5 = f.tlsFlags := by
  rw [take_message]
  rfl

/-- What stands behind the header. -/
theorem drop_message :
    ((f.message lengthField).take 1500 ++ spare).drop sizeofEapPeap =
      (lengthField ++ f.data).take 1494 ++ spare := by
  rw [take_message]
  rfl

end Fragment

/-! ## Conversations -/

section

variable (md5 : List UInt8 → ByteArrayOf 16) (spare : List UInt8)

/-- A datagram that answers the request with the authenticator, and carries the EAP message in one
or more attributes. -/
def IsAnswer (sharedSecret : List UInt8) (authenticator : ByteArrayOf 16)
    (tmp message : List UInt8) : Prop :=
  ∃ rp, parseRadiusPacket spare tmp = some rp ∧
    authenticates md5 sharedSecret authenticator rp tmp = true ∧
    (eapMessages rp).flatMap Avp.data = message

/-- The rounds in which the server answers the requests, the first one with the authenticator, with
these EAP messages one after another.  In other rounds nothing comes. -/
inductive Answers (e : EapClient) (giveupTick : Nat) :
    ByteArrayOf 16 → List (List UInt8) → List Round → Prop
  /-- All messages have come. -/
  | done (authenticator : ByteArrayOf 16) : Answers e giveupTick authenticator [] []
  /-- Nothing comes. -/
  | idle
      {authenticator : ByteArrayOf 16}
      {messages : List (List UInt8)}
      {round : Round}
      {rounds : List Round}
      (drawn : authenticator ≠ zero16)
      (received : round.received = [])
      (inTime : round.now < giveupTick)
      (sent : round.sendFailed = false)
      (rest : Answers e giveupTick authenticator messages rounds) :
      Answers e giveupTick authenticator messages (round :: rounds)
  | answer
      {authenticator : ByteArrayOf 16}
      {message : List UInt8}
      {messages : List (List UInt8)}
      {round : Round}
      {rounds : List Round}
      {fromIp : Ip}
      {fromPort : Nat}
      {tmp : List UInt8}
      (received : round.received = [.datagram fromIp fromPort tmp])
      (isServer : fromServer e fromIp fromPort = true)
      (isAnswer : IsAnswer md5 spare e.sharedSecret.bytes authenticator tmp message)
      (inTime : round.now < giveupTick)
      (sent : round.sendFailed = false)
      (rest : Answers e giveupTick round.rand16 messages rounds) :
      Answers e giveupTick authenticator (message :: messages) (round :: rounds)

end

/-- The client waits for the answer to the request with the authenticator, and has collected some
bytes of a message. -/
structure Waiting
    (e : EapClient)
    (authenticator : ByteArrayOf 16)
    (totalSize : Nat)
    (msg : List UInt8)
    (s : Exchange) : Prop where
  server : s.e.serverIp = e.serverIp ∧ s.e.serverPort = e.serverPort
  sharedSecret : s.e.sharedSecret = e.sharedSecret
  /-- The pending request. -/
  authenticator : s.r.authenticator = authenticator
  ret : s.ret = none
  isFinish : s.isFinish = false
  /-- `PEAP_CurrentReceivingTotalSize`. -/
  totalSize : s.e.peapCurrentReceivingTotalSize = totalSize
  /-- `PEAP_CurrentReceivingMsg`. -/
  msg : s.e.peapCurrentReceivingMsg = msg

section

variable {md5 : List UInt8 → ByteArrayOf 16} {spare : List UInt8}
variable {e : EapClient} {authenticator : ByteArrayOf 16} {totalSize : Nat} {msg : List UInt8}
variable {s : Exchange} {round : Round} {rounds : List Round} {giveupTick : Nat}

theorem Waiting.sendRequest
    (waiting : Waiting e authenticator totalSize msg s)
    (drawn : authenticator ≠ zero16)
    (sent : round.sendFailed = false) :
    Waiting e authenticator totalSize msg (Radius.sendRequest md5 round s) := by
  unfold Radius.sendRequest generateRadiusPacket preparePacket
  dsimp only
  by_cases due : s.nextSendTick = 0 ∨ s.nextSendTick ≤ round.now
  · rw [if_pos due]
    refine { waiting with authenticator := ?_, isFinish := sent }
    dsimp only
    rw [if_neg (by rw [waiting.authenticator]; exact drawn), waiting.authenticator]
  · rw [if_neg due]
    exact waiting

theorem Waiting.sendFresh
    (waiting : Waiting e zero16 totalSize msg s)
    (due : s.nextSendTick = 0)
    (sent : round.sendFailed = false) :
    Waiting e round.rand16 totalSize msg (Radius.sendRequest md5 round s) := by
  unfold Radius.sendRequest generateRadiusPacket preparePacket
  dsimp only
  rw [if_pos (Or.inl due)]
  refine { waiting with authenticator := ?_, isFinish := sent }
  dsimp only
  rw [if_pos waiting.authenticator]

theorem exchange_idle
    (waiting : Waiting e authenticator totalSize msg s)
    (drawn : authenticator ≠ zero16)
    (received : round.received = [])
    (inTime : round.now < giveupTick)
    (sent : round.sendFailed = false) :
    ∃ after, Waiting e authenticator totalSize msg after ∧
      exchange md5 spare (round :: rounds) true giveupTick s =
        exchange md5 spare rounds true giveupTick after := by
  have afterSend := @Waiting.sendRequest md5 e authenticator totalSize msg s round waiting drawn sent
  refine ⟨_, afterSend, ?_⟩
  have giveup : ¬giveupTick = 0 := by omega
  have early : ¬giveupTick ≤ round.now := by omega
  have unfinished : ¬s.isFinish = true := by
    rw [waiting.isFinish]
    exact Bool.false_ne_true
  have goesOn : ¬(Radius.sendRequest md5 round s).isFinish = true := by
    rw [afterSend.isFinish]
    exact Bool.false_ne_true
  rw [exchange]
  dsimp only
  rw [received, if_neg giveup, if_neg early, if_pos rfl, receiveAll, if_neg unfinished,
    if_neg goesOn]

theorem exchange_answer
    (waiting : Waiting e authenticator totalSize msg s)
    {fromIp : Ip}
    {fromPort : Nat}
    {tmp : List UInt8}
    (received : round.received = [.datagram fromIp fromPort tmp])
    (isServer : fromServer e fromIp fromPort = true)
    (inTime : round.now < giveupTick)
    (goesOn : (processResponse md5 spare tmp s).ret = none →
      (processResponse md5 spare tmp s).isFinish = false ∧
        (sendRequest md5 round (processResponse md5 spare tmp s)).isFinish = false) :
    (exchange md5 spare (round :: rounds) true giveupTick s).ret =
      if (processResponse md5 spare tmp s).ret = none then
        (exchange md5 spare rounds true giveupTick
          (sendRequest md5 round (processResponse md5 spare tmp s))).ret
      else (processResponse md5 spare tmp s).ret := by
  have server : fromServer s.e fromIp fromPort = true := by
    unfold fromServer at isServer ⊢
    rw [waiting.server.1, waiting.server.2]
    exact isServer
  have step : receiveAll md5 spare round.received 0 s =
      if (processResponse md5 spare tmp s).ret ≠ none then
        { processResponse md5 spare tmp s with isFinish := true }
      else processResponse md5 spare tmp s := by
    rw [received, receiveAll, if_pos server]
    rfl
  have giveup : ¬giveupTick = 0 := by omega
  have early : ¬giveupTick ≤ round.now := by omega
  rw [exchange]
  dsimp only
  rw [if_neg giveup, if_neg early, if_pos rfl, step]
  by_cases nothing : (processResponse md5 spare tmp s).ret = none
  · obtain ⟨unfinished, sent⟩ := goesOn nothing
    rw [if_neg (not_not.mpr nothing), if_pos nothing,
      if_neg (by rw [unfinished]; exact Bool.false_ne_true),
      if_neg (by rw [sent]; exact Bool.false_ne_true)]
  · rw [if_pos nothing, if_neg nothing, if_pos rfl]

theorem processResponse_of_isAnswer
    {tmp message : List UInt8}
    (waiting : Waiting e authenticator totalSize msg s)
    (isAnswer : IsAnswer md5 spare e.sharedSecret.bytes authenticator tmp message)
    (long : 5 ≤ message.length)
    (size : eapLen message = message.length) :
    ∃ rp, rp.parseEapMessage = some (message.take 1500) ∧
      rp.parseEapMessageDataSize = min message.length 1500 ∧
      processResponse md5 spare tmp s =
        acceptResponse spare rp { s with e := storeAttributes rp s.e } := by
  obtain ⟨rp, parsed, authentic, carried⟩ := isAnswer
  obtain ⟨kept, keptSize⟩ := parseEapMessage_eq parsed carried long size
  refine ⟨rp, kept, keptSize, ?_⟩
  have secret : (storeAttributes rp s.e).sharedSecret = e.sharedSecret := by
    rw [storeAttributes_eq]
    exact waiting.sharedSecret
  unfold processResponse
  rw [parsed]
  dsimp only
  rw [secret, waiting.authenticator, if_pos authentic]

end

/-! ## Collecting -/

/-- What is collected of the data of the later fragments until it is as long as the message. -/
def collect (totalSize : Nat) : List UInt8 → List (List UInt8) → Option (List UInt8)
  | _, [] => none
  | msg, data :: rest =>
      if totalSize ≤ (msg ++ data).length then some (msg ++ data)
      else collect totalSize (msg ++ data) rest

theorem collect_eq_none_iff (totalSize : Nat) (msg : List UInt8) (datas : List (List UInt8)) :
    collect totalSize msg datas = none ↔
      datas = [] ∨ (msg ++ datas.flatten).length < totalSize := by
  induction datas generalizing msg with
  | nil => simp [collect]
  | cons data rest inductionHypothesis =>
      rw [collect, List.flatten_cons, ← List.append_assoc]
      by_cases complete : totalSize ≤ (msg ++ data).length
      · rw [if_pos complete]
        simp only [reduceCtorEq, false_or, false_iff]
        rw [List.length_append]
        omega
      · rw [if_neg complete, inductionHypothesis]
        simp only [reduceCtorEq, false_or]
        constructor
        · rintro (nothing | less)
          · rw [nothing, List.flatten_nil, List.append_nil]
            omega
          · exact less
        · exact Or.inr

theorem collect_append_last
    {totalSize : Nat}
    {msg : List UInt8}
    {datas : List (List UInt8)}
    (before : collect totalSize msg datas = none)
    (last : List UInt8) :
    collect totalSize msg (datas ++ [last]) =
      if totalSize ≤ (msg ++ (datas ++ [last]).flatten).length then
        some (msg ++ (datas ++ [last]).flatten)
      else none := by
  induction datas generalizing msg with
  | nil =>
      rw [List.nil_append, List.flatten_singleton]
      rfl
  | cons data rest inductionHypothesis =>
      rw [collect] at before
      by_cases complete : totalSize ≤ (msg ++ data).length
      · rw [if_pos complete] at before
        exact nomatch before
      · rw [if_neg complete] at before
        rw [List.cons_append, collect, if_neg complete, inductionHypothesis before,
          List.flatten_cons, ← List.append_assoc]

section

variable {md5 : List UInt8 → ByteArrayOf 16} {spare : List UInt8}
variable {e : EapClient} {authenticator : ByteArrayOf 16} {totalSize : Nat} {msg : List UInt8}
variable {s : Exchange} {rounds : List Round} {giveupTick : Nat}

theorem waiting_acknowledge
    (waiting : Waiting e authenticator totalSize msg s)
    (rp : Packet)
    (lastState : List UInt8) :
    Waiting e zero16 totalSize msg
      (acknowledge { s with e := { storeAttributes rp s.e with lastState := lastState } }) := by
  rw [storeAttributes_eq]
  exact {
    server := waiting.server
    sharedSecret := waiting.sharedSecret
    authenticator := rfl
    ret := waiting.ret
    isFinish := waiting.isFinish
    totalSize := waiting.totalSize
    msg := waiting.msg }

theorem acceptResponse_later
    (waiting : Waiting e authenticator totalSize msg s)
    (coming : totalSize ≠ 0)
    {rp : Packet}
    {f : Fragment}
    (noLength : f.tlsFlags &&& EAP_TLS_FLAGS_LEN = 0)
    (message : rp.parseEapMessage = some ((f.message []).take 1500))
    (size : rp.parseEapMessageDataSize = min (f.message []).length 1500) :
    (acceptResponse spare rp { s with e := storeAttributes rp s.e }).nextSendTick = 0 ∧
      if totalSize ≤ (msg ++ f.data.take 1494).length then
        (acceptResponse spare rp { s with e := storeAttributes rp s.e }).ret =
          some { rp with
            parseEapMessage := some (msg ++ f.data.take 1494)
            parseEapMessageDataSize := (msg ++ f.data.take 1494).length }
      else Waiting e zero16 totalSize (msg ++ f.data.take 1494)
        (acceptResponse spare rp { s with e := storeAttributes rp s.e }) := by
  have acknowledged := waiting_acknowledge waiting rp rp.parseState
  have long := f.length_message []
  rw [List.nil_append] at long
  have behind : min (f.message []).length 1500 - sizeofEapPeap = (f.data.take 1494).length := by
    rw [long, List.length_take]
    unfold sizeofEapPeap
    omega
  have total : (storeAttributes rp s.e).peapCurrentReceivingTotalSize = totalSize := by
    rw [storeAttributes_eq]
    exact waiting.totalSize
  have taken : rp.parseEapMessageDataSize ≠ 0 ∧
      messageByte spare ((f.message []).take 1500) 4 = EAP_TYPE_PEAP ∧
        (messageByte spare ((f.message []).take 1500) 5 &&& EAP_TLS_FLAGS_MORE_FRAGMENTS ≠ 0 ∨
          (storeAttributes rp s.e).peapCurrentReceivingTotalSize ≠ 0) := by
    refine ⟨?_, f.messageByte_type [] spare, Or.inr ?_⟩
    · rw [size]
      omega
    · rw [total]
      exact coming
  have later : messageByte spare ((f.message []).take 1500) 5 &&& EAP_TLS_FLAGS_LEN = 0 ∧
      sizeofEapPeap ≤ rp.parseEapMessageDataSize := by
    rw [f.messageByte_flags, size]
    refine ⟨noLength, ?_⟩
    unfold sizeofEapPeap
    omega
  unfold acceptResponse
  dsimp only
  rw [message]
  dsimp only
  rw [if_pos taken, if_neg (by rw [total]; exact coming)]
  generalize ackIs : acknowledge
    { s with e := { storeAttributes rp s.e with lastState := rp.parseState } } = ack
    at acknowledged ⊢
  have sendTick : ack.nextSendTick = 0 := by
    rw [← ackIs]
    rfl
  unfold laterFragment
  rw [if_pos later, f.drop_message, List.nil_append, size, behind, List.take_left]
  dsimp only
  rw [acknowledged.msg, acknowledged.totalSize]
  by_cases complete : totalSize ≤ (msg ++ f.data.take 1494).length
  · rw [if_pos complete, if_pos complete]
    exact ⟨sendTick, rfl⟩
  · rw [if_neg complete, if_neg complete]
    refine ⟨sendTick, ?_⟩
    exact { acknowledged with totalSize := rfl, msg := rfl }

theorem exchange_later
    {fragments : List Fragment}
    (noLength : ∀ f ∈ fragments, f.tlsFlags &&& EAP_TLS_FLAGS_LEN = 0)
    (fits : ∀ f ∈ fragments, 6 + f.data.length < 65536)
    (coming : totalSize ≠ 0)
    (waiting : Waiting e authenticator totalSize msg s)
    (answers : Answers md5 spare e giveupTick authenticator
      (fragments.map fun f => f.message []) rounds) :
    (exchange md5 spare rounds true giveupTick s).ret.map
        (fun rp => (rp.parseEapMessage, rp.parseEapMessageDataSize)) =
      (collect totalSize msg (fragments.map fun f => f.data.take 1494)).map
        fun whole => (some whole, whole.length) := by
  generalize messagesAre : (fragments.map fun f => f.message []) = messages at answers
  induction answers generalizing s msg fragments with
  | done authenticator =>
      have nothing : fragments = [] := List.map_eq_nil_iff.mp messagesAre
      rw [nothing, exchange, waiting.ret]
      rfl
  | idle drawn received inTime sent rest inductionHypothesis =>
      obtain ⟨after, afterWaiting, same⟩ := @exchange_idle md5 spare e _ totalSize msg s _ _
        giveupTick waiting drawn received inTime sent
      rw [same]
      exact inductionHypothesis noLength fits afterWaiting messagesAre
  | @answer authenticator message messages round rounds fromIp fromPort tmp received isServer
      isAnswer inTime sent rest inductionHypothesis =>
      cases fragments with
      | nil => exact nomatch messagesAre
      | cons f fragments =>
          rw [List.map_cons, List.cons.injEq] at messagesAre
          rw [List.forall_mem_cons] at noLength fits
          have long := f.length_message []
          obtain ⟨rp, kept, size, processed⟩ := processResponse_of_isAnswer waiting
            (by rw [messagesAre.1]; exact isAnswer) (by omega)
            (f.eapLen_message [] (by rw [List.nil_append]; exact fits.1))
          obtain ⟨sendTick, collected⟩ := @acceptResponse_later spare e authenticator totalSize msg s
            waiting coming rp f noLength.1 kept size
          rw [← processed] at sendTick collected
          rw [List.map_cons, collect]
          by_cases complete : totalSize ≤ (msg ++ f.data.take 1494).length
          · rw [if_pos complete] at collected ⊢
            have some_ret : (processResponse md5 spare tmp s).ret ≠ none := by
              rw [collected]
              exact Option.some_ne_none _
            rw [exchange_answer waiting received isServer inTime fun nothing =>
              (some_ret nothing).elim, if_neg some_ret, collected]
            rfl
          · rw [if_neg complete] at collected ⊢
            have sentWaiting := @Waiting.sendFresh md5 e totalSize _ _ round collected sendTick sent
            rw [exchange_answer waiting received isServer inTime fun _ =>
              ⟨collected.isFinish, sentWaiting.isFinish⟩, if_pos collected.ret]
            exact inductionHypothesis noLength.2 fits.2 sentWaiting messagesAre.2

end

section

variable {md5 : List UInt8 → ByteArrayOf 16} {spare : List UInt8}
variable {e : EapClient} {authenticator : ByteArrayOf 16} {totalSize : Nat} {msg : List UInt8}
variable {s : Exchange} {rounds : List Round} {giveupTick : Nat}

theorem acceptResponse_first
    (waiting : Waiting e authenticator 0 [] s)
    (small : totalSize < 65536)
    {rp : Packet}
    {f : Fragment}
    (hasLength : f.tlsFlags &&& EAP_TLS_FLAGS_LEN ≠ 0)
    (fits : 10 + f.data.length < 65536)
    (message : rp.parseEapMessage = some ((f.message (bigEndian 4 totalSize)).take 1500))
    (size : rp.parseEapMessageDataSize = min (f.message (bigEndian 4 totalSize)).length 1500) :
    (acceptResponse spare rp { s with e := storeAttributes rp s.e }).nextSendTick =
        (if f.tlsFlags &&& EAP_TLS_FLAGS_MORE_FRAGMENTS ≠ 0 then 0 else s.nextSendTick) ∧
      if f.tlsFlags &&& EAP_TLS_FLAGS_MORE_FRAGMENTS ≠ 0 then
        Waiting e zero16 totalSize ((f.message (bigEndian 4 totalSize)).take 1500)
          (acceptResponse spare rp { s with e := storeAttributes rp s.e })
      else (acceptResponse spare rp { s with e := storeAttributes rp s.e }).ret = some rp := by
  have acknowledged := waiting_acknowledge waiting rp rp.parseState
  have field : (bigEndian 4 totalSize).length = 4 := length_bigEndian 4 totalSize
  have long := f.length_message (bigEndian 4 totalSize)
  rw [List.length_append, field] at long
  have total : (storeAttributes rp s.e).peapCurrentReceivingTotalSize = 0 := by
    rw [storeAttributes_eq]
    exact waiting.totalSize
  have flags := f.messageByte_flags (bigEndian 4 totalSize) spare
  have type := f.messageByte_type (bigEndian 4 totalSize) spare
  unfold acceptResponse
  dsimp only
  rw [message]
  dsimp only
  rw [flags, type, size]
  by_cases more : f.tlsFlags &&& EAP_TLS_FLAGS_MORE_FRAGMENTS ≠ 0
  · rw [if_pos more, if_pos more, if_pos ⟨by omega, rfl, Or.inl more⟩, if_pos total]
    generalize ackIs : acknowledge
      { s with e := { storeAttributes rp s.e with lastState := rp.parseState } } = ack
      at acknowledged ⊢
    have sendTick : ack.nextSendTick = 0 := by
      rw [← ackIs]
      rfl
    have len : 9 ≤ eapLen ((f.message (bigEndian 4 totalSize)).take 1500 ++ spare) := by
      have whole := f.eapLen_message (bigEndian 4 totalSize) (by
        rw [List.length_append, field]
        omega)
      have front : eapLen ((f.message (bigEndian 4 totalSize)).take 1500) =
          eapLen (f.message (bigEndian 4 totalSize)) := by
        unfold eapLen
        rw [List.drop_take, List.take_take]
        rfl
      rw [eapLen_append (by rw [List.length_take]; omega), front, whole]
      omega
    have read : fromBigEndian ((((f.message (bigEndian 4 totalSize)).take 1500 ++ spare).drop
        sizeofEapPeap).take 4) = totalSize := by
      have four : ((bigEndian 4 totalSize ++ f.data).take 1494 ++ spare).take 4 =
          bigEndian 4 totalSize := by
        rw [List.take_append_of_le_length (by
          rw [List.length_take, List.length_append, field]
          omega), List.take_take]
        exact List.take_left' field
      rw [f.drop_message, four, fromBigEndian_bigEndian (by omega)]
    have kept : ((f.message (bigEndian 4 totalSize)).take 1500 ++ spare).take
        (min (f.message (bigEndian 4 totalSize)).length 1500) =
        (f.message (bigEndian 4 totalSize)).take 1500 := by
      apply List.take_left'
      rw [List.length_take, Nat.min_comm]
    unfold firstFragment
    rw [flags, if_pos ⟨hasLength, len⟩]
    dsimp only
    rw [read, if_pos ⟨small, by omega⟩, acknowledged.msg, List.nil_append, kept]
    exact ⟨sendTick, { acknowledged with totalSize := rfl, msg := rfl }⟩
  · rw [if_neg more, if_neg more, if_neg]
    · exact ⟨rfl, rfl⟩
    · rintro ⟨-, -, isMore | coming⟩
      · exact more isMore
      · exact coming total

theorem exchange_nothing
    (waiting : Waiting e authenticator totalSize msg s)
    (answers : Answers md5 spare e giveupTick authenticator [] rounds) :
    (exchange md5 spare rounds true giveupTick s).ret = none := by
  generalize messagesAre : ([] : List (List UInt8)) = messages at answers
  induction answers generalizing s with
  | done authenticator =>
      rw [exchange]
      exact waiting.ret
  | idle drawn received inTime sent rest inductionHypothesis =>
      obtain ⟨after, afterWaiting, same⟩ := @exchange_idle md5 spare e _ totalSize msg s _ _
        giveupTick waiting drawn received inTime sent
      rw [same]
      exact inductionHypothesis afterWaiting messagesAre
  | answer received isServer isAnswer inTime sent rest inductionHypothesis =>
      exact nomatch messagesAre

theorem exchange_fragments
    (waiting : Waiting e authenticator 0 [] s)
    (positive : totalSize ≠ 0)
    (small : totalSize < 65536)
    {first : Fragment}
    {later : List Fragment}
    (hasLength : first.tlsFlags &&& EAP_TLS_FLAGS_LEN ≠ 0)
    (noLength : ∀ f ∈ later, f.tlsFlags &&& EAP_TLS_FLAGS_LEN = 0)
    (firstFits : 10 + first.data.length < 65536)
    (fits : ∀ f ∈ later, 6 + f.data.length < 65536)
    (answers : Answers md5 spare e giveupTick authenticator
      (first.message (bigEndian 4 totalSize) :: later.map fun f => f.message []) rounds) :
    (exchange md5 spare rounds true giveupTick s).ret.map
        (fun rp => (rp.parseEapMessage, rp.parseEapMessageDataSize)) =
      if first.tlsFlags &&& EAP_TLS_FLAGS_MORE_FRAGMENTS ≠ 0 then
        (collect totalSize ((first.message (bigEndian 4 totalSize)).take 1500)
          (later.map fun f => f.data.take 1494)).map fun whole => (some whole, whole.length)
      else some (some ((first.message (bigEndian 4 totalSize)).take 1500),
        ((first.message (bigEndian 4 totalSize)).take 1500).length) := by
  have field : (bigEndian 4 totalSize).length = 4 := length_bigEndian 4 totalSize
  have long := first.length_message (bigEndian 4 totalSize)
  rw [List.length_append, field] at long
  generalize messagesAre : (first.message (bigEndian 4 totalSize) ::
    later.map fun f => f.message []) = messages at answers
  induction answers generalizing s with
  | done authenticator => exact nomatch messagesAre
  | idle drawn received inTime sent rest inductionHypothesis =>
      obtain ⟨after, afterWaiting, same⟩ := @exchange_idle md5 spare e _ 0 [] s _ _
        giveupTick waiting drawn received inTime sent
      rw [same]
      exact inductionHypothesis afterWaiting messagesAre
  | @answer authenticator message messages round rounds fromIp fromPort tmp received isServer
      isAnswer inTime sent rest inductionHypothesis =>
      rw [List.cons.injEq] at messagesAre
      obtain ⟨rp, kept, size, processed⟩ := processResponse_of_isAnswer waiting
        (by rw [messagesAre.1]; exact isAnswer) (by omega)
        (first.eapLen_message (bigEndian 4 totalSize) (by rw [List.length_append, field]; omega))
      obtain ⟨sendTick, accepted⟩ := @acceptResponse_first spare e authenticator totalSize s
        waiting small rp first hasLength firstFits kept size
      rw [← processed] at sendTick accepted
      by_cases more : first.tlsFlags &&& EAP_TLS_FLAGS_MORE_FRAGMENTS ≠ 0
      · rw [if_pos more] at sendTick accepted ⊢
        have sentWaiting := @Waiting.sendFresh md5 e totalSize _ _ round accepted sendTick sent
        rw [exchange_answer waiting received isServer inTime fun _ =>
          ⟨accepted.isFinish, sentWaiting.isFinish⟩, if_pos accepted.ret]
        rw [← messagesAre.2] at rest
        exact exchange_later noLength fits positive sentWaiting rest
      · rw [if_neg more] at accepted ⊢
        have some_ret : (processResponse md5 spare tmp s).ret ≠ none := by
          rw [accepted]
          exact Option.some_ne_none _
        rw [exchange_answer waiting received isServer inTime fun nothing =>
          (some_ret nothing).elim, if_neg some_ret, accepted, Option.map_some, kept, size,
          List.length_take, Nat.min_comm]

end

/-! ## TLS messages in fragments -/

structure Cut (tls : List UInt8) (first : Fragment) (later : List Fragment) : Prop where
  data : first.data ++ later.flatMap Fragment.data = tls
  /-- The message has at least one byte. -/
  positive : 1 ≤ tls.length
  /-- The message has at most 65535 bytes. -/
  small : tls.length ≤ 65535
  hasLength : first.tlsFlags &&& EAP_TLS_FLAGS_LEN ≠ 0
  /-- No other fragment has it. -/
  noLength : ∀ f ∈ later, f.tlsFlags &&& EAP_TLS_FLAGS_LEN = 0
  more : first.tlsFlags &&& EAP_TLS_FLAGS_MORE_FRAGMENTS ≠ 0 ↔ later ≠ []
  moreLater : ∀ f ∈ later.dropLast, f.tlsFlags &&& EAP_TLS_FLAGS_MORE_FRAGMENTS ≠ 0
  last : ∀ f ∈ later.getLast?, f.tlsFlags &&& EAP_TLS_FLAGS_MORE_FRAGMENTS = 0
  firstFits : 10 + first.data.length < 65536
  fits : ∀ f ∈ later, 6 + f.data.length < 65536

def cutMessages (tls : List UInt8) (first : Fragment) (later : List Fragment) :
    List (List UInt8) :=
  first.message (bigEndian 4 tls.length) :: later.map fun f => f.message []

def parsedData (first : Fragment) (later : List Fragment) : List UInt8 :=
  first.data.take 1490 ++ (later.map fun f => f.data.take 1494).flatten

/-- What is collected: the header of the first fragment, the length and the data. -/
def collectedMessage (tls : List UInt8) (first : Fragment) (later : List Fragment) : List UInt8 :=
  [first.code, first.id] ++ (bigEndian 2 (6 + (bigEndian 4 tls.length ++ first.data).length) ++
    ([EAP_TYPE_PEAP, first.tlsFlags] ++ (bigEndian 4 tls.length ++ parsedData first later)))

/-- Each EAP message is no longer than what is parsed of it. -/
def AllParsed (first : Fragment) (later : List Fragment) : Prop :=
  first.data.length ≤ 1490 ∧ ∀ f ∈ later, f.data.length ≤ 1494

instance (first : Fragment) (later : List Fragment) : Decidable (AllParsed first later) :=
  inferInstanceAs (Decidable (_ ∧ _))

theorem length_flatten_take_le (fragments : List Fragment) :
    (fragments.map fun f => f.data.take 1494).flatten.length ≤
      (fragments.flatMap Fragment.data).length := by
  induction fragments with
  | nil => exact Nat.le_refl _
  | cons f fragments inductionHypothesis =>
      rw [List.map_cons, List.flatten_cons, List.flatMap_cons, List.length_append,
        List.length_append, List.length_take]
      omega

/-- Nothing is cut off exactly when as many bytes are parsed. -/
theorem flatten_take_eq_iff (fragments : List Fragment) :
    (fragments.map fun f => f.data.take 1494).flatten.length =
        (fragments.flatMap Fragment.data).length ↔
      ∀ f ∈ fragments, f.data.length ≤ 1494 := by
  induction fragments with
  | nil => simp
  | cons f fragments inductionHypothesis =>
      have less := length_flatten_take_le fragments
      rw [List.map_cons, List.flatten_cons, List.flatMap_cons, List.length_append,
        List.length_append, List.length_take, List.forall_mem_cons, ← inductionHypothesis]
      omega

namespace Cut

variable {tls : List UInt8} {first : Fragment} {later : List Fragment}

theorem length_tls (cut : Cut tls first later) :
    tls.length = first.data.length + (later.flatMap Fragment.data).length := by
  rw [← cut.data, List.length_append]

theorem allParsed_iff (cut : Cut tls first later) :
    AllParsed first later ↔ tls.length ≤ (parsedData first later).length := by
  have less := length_flatten_take_le later
  have whole := cut.length_tls
  unfold AllParsed parsedData
  rw [← flatten_take_eq_iff, List.length_append, List.length_take]
  omega

theorem parsedData_eq (cut : Cut tls first later) (all : AllParsed first later) :
    parsedData first later = tls := by
  have whole (fragments : List Fragment) (small : ∀ f ∈ fragments, f.data.length ≤ 1494) :
      (fragments.map fun f => f.data.take 1494).flatten = fragments.flatMap Fragment.data := by
    induction fragments with
    | nil => rfl
    | cons f fragments inductionHypothesis =>
        rw [List.forall_mem_cons] at small
        rw [List.map_cons, List.flatten_cons, List.flatMap_cons, inductionHypothesis small.2,
          List.take_of_length_le small.1]
  rw [parsedData, whole later all.2, List.take_of_length_le all.1, cut.data]

theorem messages_small_iff (tls : List UInt8) (first : Fragment) (later : List Fragment) :
    (∀ message ∈ cutMessages tls first later, message.length ≤ 1500) ↔ AllParsed first later := by
  have field : (bigEndian 4 tls.length).length = 4 := length_bigEndian 4 tls.length
  unfold cutMessages AllParsed
  rw [List.forall_mem_cons, List.forall_mem_map, first.length_message, List.length_append, field]
  simp only [Fragment.length_message, List.nil_append]
  constructor
  · rintro ⟨firstSmall, small⟩
    refine ⟨by omega, fun f listed => ?_⟩
    have bound := small f listed
    omega
  · rintro ⟨firstSmall, small⟩
    refine ⟨by omega, fun f listed => ?_⟩
    have bound := small f listed
    omega

theorem collected_eq (tls : List UInt8) (first : Fragment) (later : List Fragment) :
    (first.message (bigEndian 4 tls.length)).take 1500 ++
        (later.map fun f => f.data.take 1494).flatten = collectedMessage tls first later := by
  rw [first.take_message, collectedMessage, parsedData]
  have four : (bigEndian 4 tls.length ++ first.data).take 1494 =
      bigEndian 4 tls.length ++ first.data.take 1490 := by
    rw [List.take_append, length_bigEndian, List.take_of_length_le (by
      rw [length_bigEndian]
      decide)]
  rw [four]
  simp only [List.append_assoc]

theorem length_collectedMessage (tls : List UInt8) (first : Fragment) (later : List Fragment) :
    (collectedMessage tls first later).length = 10 + (parsedData first later).length := by
  unfold collectedMessage
  simp only [List.length_append, length_bigEndian, List.length_cons, List.length_nil]
  omega

theorem receivedSslStream_collected
    (cut : Cut tls first later)
    (spare : List UInt8)
    {rp : Packet}
    (message : rp.parseEapMessage = some (collectedMessage tls first later))
    (size : rp.parseEapMessageDataSize = (collectedMessage tls first later).length) :
    receivedSslStream spare rp =
      if AllParsed first later then some tls else none := by
  have less := length_flatten_take_le later
  have whole := cut.length_tls
  have small := cut.small
  have field : (bigEndian 4 tls.length).length = 4 := length_bigEndian 4 tls.length
  have bound : (parsedData first later).length ≤ tls.length := by
    rw [parsedData, List.length_append, List.length_take]
    omega
  rw [length_collectedMessage] at size
  have firstLess : subUINT (10 + (parsedData first later).length) sizeofEapPeap =
      4 + (parsedData first later).length := by
    rw [subUINT_of_le (by unfold sizeofEapPeap; omega) (by unfold X32; omega)]
    unfold sizeofEapPeap
    omega
  have secondLess : subUINT (4 + (parsedData first later).length) 4 =
      (parsedData first later).length := by
    rw [subUINT_of_le (by omega) (by unfold X32; omega), Nat.add_sub_cancel_left]
  have type : messageByte spare (collectedMessage tls first later) 4 = EAP_TYPE_PEAP := rfl
  have flags : messageByte spare (collectedMessage tls first later) 5 = first.tlsFlags := rfl
  have behind : (collectedMessage tls first later ++ spare).drop sizeofEapPeap =
      bigEndian 4 tls.length ++ (parsedData first later ++ spare) := by
    rw [← List.append_assoc]
    rfl
  have data : (collectedMessage tls first later ++ spare).drop (sizeofEapPeap + 4) =
      parsedData first later ++ spare := by
    rw [← List.drop_drop, behind, List.drop_left' field]
  unfold receivedSslStream
  rw [message]
  dsimp only
  rw [size, type, flags, if_neg (by unfold sizeofEapPeap; omega), if_neg (not_not.mpr rfl),
    if_pos cut.hasLength, firstLess, secondLess, behind, List.take_left' field,
    fromBigEndian_bigEndian (by omega), data]
  by_cases all : AllParsed first later
  · rw [if_pos all, if_pos (cut.allParsed_iff.mp all), cut.parsedData_eq all, List.take_left]
  · rw [if_neg all, if_neg fun enough => all (cut.allParsed_iff.mpr enough)]

end Cut

theorem Answers.split
    {md5 : List UInt8 → ByteArrayOf 16}
    {spare : List UInt8}
    {e : EapClient}
    {giveupTick : Nat}
    {authenticator : ByteArrayOf 16}
    {messages : List (List UInt8)}
    {last : List UInt8}
    {rounds : List Round}
    (answers : Answers md5 spare e giveupTick authenticator (messages ++ [last]) rounds) :
    ∃ count, Answers md5 spare e giveupTick authenticator messages (rounds.take count) := by
  generalize allAre : messages ++ [last] = all at answers
  induction answers generalizing messages with
  | done authenticator => exact absurd allAre (by simp)
  | idle drawn received inTime sent rest inductionHypothesis =>
      obtain ⟨count, before⟩ := inductionHypothesis allAre
      exact ⟨count + 1, .idle drawn received inTime sent before⟩
  | answer received isServer isAnswer inTime sent rest inductionHypothesis =>
      cases messages with
      | nil => exact ⟨0, .done _⟩
      | cons message messages =>
          rw [List.cons_append, List.cons.injEq] at allAre
          obtain ⟨same, others⟩ := allAre
          obtain ⟨count, before⟩ := inductionHypothesis others
          rw [← same] at isAnswer
          exact ⟨count + 1, .answer received isServer isAnswer inTime sent before⟩

section

variable (md5 : List UInt8 → ByteArrayOf 16) (spare : List UInt8)
variable (e : EapClient) (r : Packet) (start : Round)

/-- The authenticator of the request, as it is sent first. -/
def firstAuthenticatorOf : ByteArrayOf 16 :=
  (preparePacket start.rand16 r).authenticator

/-- The request is sent in the first round, and in time. -/
structure Starts : Prop where
  /-- `GiveupTimeout` is set. -/
  giveup : 0 < e.giveupTimeout
  /-- The request goes out. -/
  sent : start.sendFailed = false

/-- The server answers with the messages in the rounds behind the first one. -/
abbrev AnswersTo (messages : List (List UInt8)) (rounds : List Round) : Prop :=
  Answers md5 spare e (start.now + e.giveupTimeout) (firstAuthenticatorOf r start) messages rounds

/-- As long as not all messages have come there is no response; when they have come, the TLS message
is what is written to the SSL pipe. -/
def DeliversOnce (tls : List UInt8) (messages : List (List UInt8)) (rounds : List Round) : Prop :=
  (∀ count arrived, arrived < messages.length →
    AnswersTo md5 spare e r start (messages.take arrived) (rounds.take count) →
      (eapSendPacketAndRecvResponse md5 spare (start :: rounds.take count) e r).2 = none) ∧
  (eapSendPacketAndRecvResponse md5 spare (start :: rounds) e r).2.bind
    (receivedSslStream spare) = some tls

end

section

variable {md5 : List UInt8 → ByteArrayOf 16} {spare : List UInt8}
variable {e : EapClient} {r : Packet} {start : Round}

theorem eapSendPacketAndRecvResponse_start
    (starts : Starts e start)
    (rounds : List Round) :
    ∃ s, Waiting e (firstAuthenticatorOf r start) 0 [] s ∧
      (eapSendPacketAndRecvResponse md5 spare (start :: rounds) e r).2 =
        (exchange md5 spare rounds true (start.now + e.giveupTimeout) s).ret := by
  have positive := starts.giveup
  refine ⟨sendRequest md5 start {
    e := { e with peapCurrentReceivingMsg := [], peapCurrentReceivingTotalSize := 0 }
    r := r }, ?_, ?_⟩
  · unfold sendRequest
    rw [if_pos (Or.inl rfl)]
    exact {
      server := ⟨rfl, rfl⟩
      sharedSecret := rfl
      authenticator := rfl
      ret := rfl
      isFinish := starts.sent
      totalSize := rfl
      msg := rfl }
  · unfold eapSendPacketAndRecvResponse
    dsimp only
    rw [exchange]
    dsimp only
    rw [if_pos rfl, if_neg (by omega), if_neg Bool.false_ne_true, if_neg Bool.false_ne_true, if_neg]
    unfold sendRequest
    rw [if_pos (Or.inl rfl)]
    dsimp only [generateRadiusPacket]
    rw [starts.sent]
    exact Bool.false_ne_true

theorem response_of_arrived
    {tls : List UInt8}
    {first : Fragment}
    {later : List Fragment}
    (cut : Cut tls first later)
    (starts : Starts e start)
    {arrived : Nat}
    {rounds : List Round}
    (answers : AnswersTo md5 spare e r start ((cutMessages tls first later).take arrived) rounds) :
    (eapSendPacketAndRecvResponse md5 spare (start :: rounds) e r).2.map
        (fun rp => (rp.parseEapMessage, rp.parseEapMessageDataSize)) =
      if arrived = 0 then none
      else if later = [] then
        some (some ((first.message (bigEndian 4 tls.length)).take 1500),
          ((first.message (bigEndian 4 tls.length)).take 1500).length)
      else (collect tls.length ((first.message (bigEndian 4 tls.length)).take 1500)
        ((later.take (arrived - 1)).map fun f => f.data.take 1494)).map
          fun whole => (some whole, whole.length) := by
  have positive := cut.positive
  have small := cut.small
  obtain ⟨s, waiting, same⟩ := @eapSendPacketAndRecvResponse_start md5 spare e r start starts rounds
  rw [same]
  cases arrived with
  | zero =>
      rw [if_pos rfl, exchange_nothing waiting answers]
      rfl
  | succ arrived =>
      rw [if_neg (Nat.succ_ne_zero arrived), Nat.add_sub_cancel]
      unfold cutMessages at answers
      rw [AnswersTo, List.take_succ_cons, ← List.map_take] at answers
      rw [exchange_fragments waiting (by omega) (by omega) cut.hasLength
        (fun f listed => cut.noLength f (List.mem_of_mem_take listed)) cut.firstFits
        (fun f listed => cut.fits f (List.mem_of_mem_take listed)) answers]
      by_cases one : later = []
      · rw [if_neg fun more => cut.more.mp more one, if_pos one]
      · rw [if_pos (cut.more.mpr one), if_neg one]

end

section

variable {md5 : List UInt8 → ByteArrayOf 16} {spare : List UInt8}
variable {e : EapClient} {r : Packet} {start : Round} {rounds : List Round}
variable {tls : List UInt8} {first last : Fragment} {before later : List Fragment}

theorem bind_receivedSslStream
    (cut : Cut tls first later)
    {ret : Option Packet}
    {collected : Option (List UInt8)}
    (same : ret.map (fun rp => (rp.parseEapMessage, rp.parseEapMessageDataSize)) =
      collected.map fun whole => (some whole, whole.length))
    (all : ∀ whole ∈ collected, whole = collectedMessage tls first later) :
    ret.bind (receivedSslStream spare) =
      if collected.isSome = true ∧ AllParsed first later then some tls else none := by
  cases collected with
  | none =>
      rw [Option.map_none, Option.map_eq_none_iff] at same
      rw [same, if_neg fun both => Bool.false_ne_true both.1]
      rfl
  | some whole =>
      obtain ⟨rp, retIs, fields⟩ := Option.map_eq_some_iff.mp same
      rw [all whole rfl] at fields
      rw [retIs, Option.bind_some, cut.receivedSslStream_collected spare
        (congrArg Prod.fst fields) (congrArg Prod.snd fields)]
      by_cases parsed : AllParsed first later
      · rw [if_pos parsed, if_pos ⟨rfl, parsed⟩]
      · rw [if_neg parsed, if_neg fun both => parsed both.2]

theorem length_collected_before (tls : List UInt8) (first : Fragment) (before : List Fragment) :
    ((first.message (bigEndian 4 tls.length)).take 1500 ++
      (before.map fun f => f.data.take 1494).flatten).length =
        10 + (parsedData first before).length := by
  rw [Cut.collected_eq, Cut.length_collectedMessage]

theorem parsedData_append (first last : Fragment) (before : List Fragment) :
    parsedData first (before ++ [last]) = parsedData first before ++ last.data.take 1494 := by
  unfold parsedData
  rw [List.map_append, List.flatten_append, List.append_assoc]
  simp

/-- The fragments before the last one do not count as complete when the last one has more than ten
bytes, or nothing has been compared yet. -/
theorem collect_before_iff
    (cut : Cut tls first (before ++ [last]))
    (all : AllParsed first (before ++ [last])) :
    collect tls.length ((first.message (bigEndian 4 tls.length)).take 1500)
        (before.map fun f => f.data.take 1494) = none ↔
      before = [] ∨ 10 < last.data.length := by
  have whole := cut.parsedData_eq all
  rw [parsedData_append] at whole
  have size := congrArg List.length whole
  rw [List.length_append, List.take_of_length_le (all.2 last (by simp))] at size
  rw [collect_eq_none_iff, length_collected_before, List.map_eq_nil_iff]
  refine or_congr_right ?_
  omega

theorem collect_prefix
    (cut : Cut tls first (before ++ [last]))
    (all : AllParsed first (before ++ [last]))
    (long : before = [] ∨ 10 < last.data.length)
    (count : Nat) :
    collect tls.length ((first.message (bigEndian 4 tls.length)).take 1500)
      ((before.take count).map fun f => f.data.take 1494) = none := by
  have complete := (collect_before_iff cut all).mpr long
  rw [collect_eq_none_iff, length_collected_before] at complete ⊢
  obtain nothing | less := complete
  · left
    rw [List.map_eq_nil_iff.mp nothing, List.take_nil]
    rfl
  · right
    have prefixLess : ((before.take count).map fun f => f.data.take 1494).flatten.length ≤
        (before.map fun f => f.data.take 1494).flatten.length := by
      rw [List.map_take]
      exact ((List.take_sublist _ _).flatten).length_le
    unfold parsedData at less ⊢
    rw [List.length_append] at less ⊢
    omega

theorem deliversOnce_one_iff
    (starts : Starts e start)
    (cut : Cut tls first [])
    (answers : AnswersTo md5 spare e r start (cutMessages tls first []) rounds) :
    DeliversOnce md5 spare e r start tls (cutMessages tls first []) rounds ↔
      AllParsed first [] := by
  have response := @response_of_arrived md5 spare e r start tls first [] cut starts
  have full := @response 1 rounds answers
  rw [if_neg Nat.one_ne_zero, if_pos rfl] at full
  have stream := @bind_receivedSslStream spare tls first [] cut _ (some
    ((first.message (bigEndian 4 tls.length)).take 1500)) full (by
      intro whole wholeIs
      rw [← Option.some.inj wholeIs, ← Cut.collected_eq]
      exact (List.append_nil _).symm)
  unfold DeliversOnce
  rw [stream]
  constructor
  · rintro ⟨-, written⟩
    by_contra cutOff
    rw [if_neg fun both => cutOff both.2] at written
    exact nomatch written
  · intro all
    refine ⟨?_, if_pos ⟨rfl, all⟩⟩
    intro count arrived few arrivedAnswers
    have nothing : arrived = 0 := Nat.lt_one_iff.mp few
    have early := response arrivedAnswers
    rw [if_pos nothing, Option.map_eq_none_iff] at early
    exact early

theorem bind_receivedSslStream_several
    (starts : Starts e start)
    (cut : Cut tls first (before ++ [last]))
    (answers : AnswersTo md5 spare e r start (cutMessages tls first (before ++ [last])) rounds)
    (incomplete : collect tls.length ((first.message (bigEndian 4 tls.length)).take 1500)
      (before.map fun f => f.data.take 1494) = none) :
    (eapSendPacketAndRecvResponse md5 spare (start :: rounds) e r).2.bind
      (receivedSslStream spare) =
        if AllParsed first (before ++ [last]) then some tls else none := by
  have messages : (cutMessages tls first (before ++ [last])).length = before.length + 2 := by
    rw [cutMessages, List.length_cons, List.length_map, List.length_append, List.length_singleton]
  have full := @response_of_arrived md5 spare e r start tls first (before ++ [last]) cut starts
    (before.length + 2) rounds (by
      rw [← messages, List.take_length]
      exact answers)
  have datas : (before ++ [last]).map (fun f => f.data.take 1494) =
      (before.map fun f => f.data.take 1494) ++ [last.data.take 1494] := by
    rw [List.map_append, List.map_singleton]
  have taken : (before ++ [last]).take (before.length + 2 - 1) = before ++ [last] := by
    apply List.take_of_length_le
    rw [List.length_append, List.length_singleton]
    omega
  rw [if_neg (by omega), if_neg (by simp), taken, datas, collect_append_last incomplete, ← datas,
    Cut.collected_eq] at full
  have stream := @bind_receivedSslStream spare tls first (before ++ [last]) cut _ _ full (by
    intro whole wholeIs
    split at wholeIs
    · exact (Option.some.inj wholeIs).symm
    · exact nomatch wholeIs)
  rw [stream]
  by_cases all : AllParsed first (before ++ [last])
  · have enough : tls.length ≤ (collectedMessage tls first (before ++ [last])).length := by
      rw [Cut.length_collectedMessage, cut.parsedData_eq all]
      omega
    rw [if_pos enough, if_pos all, if_pos ⟨rfl, all⟩]
  · rw [if_neg all, if_neg fun both => all both.2]

theorem deliversOnce_several_iff
    (starts : Starts e start)
    (cut : Cut tls first (before ++ [last]))
    (answers : AnswersTo md5 spare e r start (cutMessages tls first (before ++ [last])) rounds) :
    DeliversOnce md5 spare e r start tls (cutMessages tls first (before ++ [last])) rounds ↔
      AllParsed first (before ++ [last]) ∧ (before = [] ∨ 10 < last.data.length) := by
  have messages : (cutMessages tls first (before ++ [last])).length = before.length + 2 := by
    rw [cutMessages, List.length_cons, List.length_map, List.length_append, List.length_singleton]
  have several : before ++ [last] ≠ [] := by simp
  have response := @response_of_arrived md5 spare e r start tls first (before ++ [last]) cut starts
  constructor
  · rintro ⟨early, written⟩
    have allMessages : cutMessages tls first (before ++ [last]) =
        (first.message (bigEndian 4 tls.length) :: before.map fun f => f.message []) ++
          [last.message []] := by
      rw [cutMessages, List.map_append, List.map_singleton]
      rfl
    have taken : (cutMessages tls first (before ++ [last])).take (before.length + 1) =
        first.message (bigEndian 4 tls.length) :: before.map fun f => f.message [] := by
      unfold cutMessages
      rw [List.take_succ_cons, ← List.map_take, List.take_left]
    -- Before the last answer there is no response, so the others have not been as long.
    rw [AnswersTo, allMessages] at answers
    obtain ⟨count, beforeLast⟩ := Answers.split answers
    rw [← taken] at beforeLast
    rw [← allMessages] at answers
    have incomplete := response beforeLast
    rw [early count (before.length + 1) (by omega) beforeLast, Option.map_none,
      if_neg (Nat.succ_ne_zero _), if_neg several, Nat.add_sub_cancel, List.take_left, eq_comm,
      Option.map_eq_none_iff] at incomplete
    have all : AllParsed first (before ++ [last]) := by
      by_contra cutOff
      rw [bind_receivedSslStream_several starts cut answers incomplete, if_neg cutOff] at written
      exact nomatch written
    exact ⟨all, (collect_before_iff cut all).mp incomplete⟩
  · rintro ⟨all, long⟩
    have incomplete := (collect_before_iff cut all).mpr long
    refine ⟨?_, ?_⟩
    · intro count arrived few arrivedAnswers
      have early := response arrivedAnswers
      by_cases nothing : arrived = 0
      · rw [if_pos nothing, Option.map_eq_none_iff] at early
        exact early
      · rw [if_neg nothing, if_neg several, List.take_append_of_le_length (by omega),
          collect_prefix cut all long, Option.map_none, Option.map_eq_none_iff] at early
        exact early
    · rw [bind_receivedSslStream_several starts cut answers incomplete, if_pos all]

end

/-- **PEAP messages.**  The TLS message is what is written to the SSL pipe, once and after the last
fragment, exactly when each fragment has an EAP message of at most 1500 bytes and, of three
fragments or more, the last one has more than ten bytes.  And the sizes of a received message wrap
around exactly when it has a length flag and no room for a length. -/
theorem peapMessage_delivered_iff
    (md5 : List UInt8 → ByteArrayOf 16)
    (spare : List UInt8)
    {e : EapClient}
    (r : Packet)
    {start : Round}
    (starts : Starts e start)
    {tls : List UInt8}
    {first : Fragment}
    {later : List Fragment}
    (cut : Cut tls first later)
    {rounds : List Round}
    (answers : AnswersTo md5 spare e r start (cutMessages tls first later) rounds) :
    (DeliversOnce md5 spare e r start tls (cutMessages tls first later) rounds ↔
      (∀ message ∈ cutMessages tls first later, message.length ≤ 1500) ∧
        (later.length ≤ 1 ∨ ∀ last ∈ later.getLast?, 10 < last.data.length)) ∧
    ∀ rp : Packet, rp.parseEapMessageDataSize < X32 →
      (∀ message, rp.parseEapMessage = some message →
        NoneWraps (fragmentSubtractions spare message rp.parseEapMessageDataSize)) ∧
      (NoneWraps (streamSubtractions spare rp) ↔ ¬MissesLength spare rp) := by
  refine ⟨?_, fun rp small => ⟨fun message _ => noneWraps_fragmentSubtractions spare message _,
    noneWraps_streamSubtractions_iff spare small⟩⟩
  rw [Cut.messages_small_iff]
  obtain nothing | ⟨before, last, laterIs⟩ := List.eq_nil_or_concat' later
  · subst nothing
    rw [deliversOnce_one_iff starts cut answers]
    exact (and_iff_left (Or.inl (Nat.zero_le 1))).symm
  · subst laterIs
    have fewer : (before ++ [last]).length ≤ 1 ↔ before = [] := by
      rw [List.length_append, List.length_singleton, ← List.length_eq_zero_iff]
      omega
    rw [deliversOnce_several_iff starts cut answers, fewer]
    simp

/-! ## A conversation -/

def constantHash : List UInt8 → ByteArrayOf 16 :=
  fun _ => zero16

def answerTo (message : List UInt8) : List UInt8 :=
  wirePacket 11 1 zero16
    [{ type := RADIUS_ATTRIBUTE_EAP_MESSAGE, data := message }, eapAuthenticator zero16]

def answerRound (message : List UInt8) : Round where
  now := 1
  received := [.datagram (uintToIP 0) 1812 (answerTo message)]
  rand16 := zero16

def startRound : Round where
  now := 0
  rand16 := zero16

theorem isAnswer_of_any
    {md5 : List UInt8 → ByteArrayOf 16}
    {spare sharedSecret tmp message : List UInt8}
    {authenticator : ByteArrayOf 16}
    (found : ((parseRadiusPacket spare tmp).any fun rp =>
      authenticates md5 sharedSecret authenticator rp tmp &&
        decide ((eapMessages rp).flatMap Avp.data = message)) = true) :
    IsAnswer md5 spare sharedSecret authenticator tmp message := by
  cases parsed : parseRadiusPacket spare tmp with
  | none =>
      rw [parsed] at found
      exact nomatch found
  | some rp =>
      rw [parsed, Option.any_some, Bool.and_eq_true, decide_eq_true_eq] at found
      exact ⟨rp, parsed, found⟩

/-- The request that the conversation starts with. -/
def someRequest : Packet :=
  newRadiusPacket RADIUS_CODE_ACCESS_REQUEST 1

/-- A fragment with a length, of a message of several fragments. -/
def leadFragment (data : List UInt8) : Fragment where
  code := 1
  id := 1
  tlsFlags := EAP_TLS_FLAGS_LEN ||| EAP_TLS_FLAGS_MORE_FRAGMENTS
  data := data

def middleFragment (data : List UInt8) : Fragment where
  code := 1
  id := 2
  tlsFlags := EAP_TLS_FLAGS_MORE_FRAGMENTS
  data := data

def lastFragment (data : List UInt8) : Fragment where
  code := 1
  id := 3
  tlsFlags := 0
  data := data

theorem starts_startRound : Starts someClient startRound where
  giveup := by decide
  sent := rfl

theorem cut_two : Cut [1, 2, 3, 4] (leadFragment [1, 2]) [lastFragment [3, 4]] where
  data := rfl
  positive := by decide
  small := by decide
  hasLength := by decide
  noLength := by
    rw [List.forall_mem_singleton]
    decide
  more := iff_of_true (by decide) (by simp)
  moreLater := by simp
  last := by
    rintro f ⟨rfl⟩
    rfl
  firstFits := by decide
  fits := by
    rw [List.forall_mem_singleton]
    decide

theorem answersTo_two : AnswersTo constantHash [] someClient someRequest startRound
    (cutMessages [1, 2, 3, 4] (leadFragment [1, 2]) [lastFragment [3, 4]])
    ((cutMessages [1, 2, 3, 4] (leadFragment [1, 2]) [lastFragment [3, 4]]).map answerRound) := by
  refine .answer rfl (by decide +kernel) (isAnswer_of_any (by decide +kernel)) (by decide) rfl ?_
  refine .answer rfl (by decide +kernel) (isAnswer_of_any (by decide +kernel)) (by decide) rfl ?_
  exact .done _

theorem peapMessage_delivered_two :
    (DeliversOnce constantHash [] someClient someRequest startRound [1, 2, 3, 4]
        (cutMessages [1, 2, 3, 4] (leadFragment [1, 2]) [lastFragment [3, 4]])
        ((cutMessages [1, 2, 3, 4] (leadFragment [1, 2]) [lastFragment [3, 4]]).map answerRound) ↔
      (∀ message ∈ cutMessages [1, 2, 3, 4] (leadFragment [1, 2]) [lastFragment [3, 4]],
        message.length ≤ 1500) ∧
        ([lastFragment [3, 4]].length ≤ 1 ∨
          ∀ last ∈ [lastFragment [3, 4]].getLast?, 10 < last.data.length)) ∧
    ∀ rp : Packet, rp.parseEapMessageDataSize < X32 →
      (∀ message, rp.parseEapMessage = some message →
        NoneWraps (fragmentSubtractions [] message rp.parseEapMessageDataSize)) ∧
      (NoneWraps (streamSubtractions [] rp) ↔ ¬MissesLength [] rp) :=
  peapMessage_delivered_iff constantHash [] someRequest starts_startRound cut_two answersTo_two

/-- A message of four bytes in three fragments is not written to the SSL pipe: the response comes
behind the second fragment. -/
theorem threeFragments_lost :
    Cut [1, 2, 3, 4] (leadFragment [1]) [middleFragment [2], lastFragment [3, 4]] ∧
      AnswersTo constantHash [] someClient someRequest startRound
        (cutMessages [1, 2, 3, 4] (leadFragment [1]) [middleFragment [2], lastFragment [3, 4]])
        ((cutMessages [1, 2, 3, 4] (leadFragment [1])
          [middleFragment [2], lastFragment [3, 4]]).map answerRound) ∧
      ¬DeliversOnce constantHash [] someClient someRequest startRound [1, 2, 3, 4]
        (cutMessages [1, 2, 3, 4] (leadFragment [1]) [middleFragment [2], lastFragment [3, 4]])
        ((cutMessages [1, 2, 3, 4] (leadFragment [1])
          [middleFragment [2], lastFragment [3, 4]]).map answerRound) := by
  refine ⟨?_, ?_, ?_⟩
  · exact {
      data := rfl
      positive := by decide
      small := by decide
      hasLength := by decide
      noLength := by
        rw [List.forall_mem_cons, List.forall_mem_singleton]
        decide
      more := iff_of_true (by decide) (by simp)
      moreLater := by
        simp only [List.dropLast_cons_cons, List.dropLast_singleton, List.mem_singleton, forall_eq]
        decide
      last := by
        rintro f ⟨rfl⟩
        rfl
      firstFits := by decide
      fits := by
        rw [List.forall_mem_cons, List.forall_mem_singleton]
        decide }
  · refine .answer rfl (by decide +kernel) (isAnswer_of_any (by decide +kernel)) (by decide) rfl ?_
    refine .answer rfl (by decide +kernel) (isAnswer_of_any (by decide +kernel)) (by decide) rfl ?_
    refine .answer rfl (by decide +kernel) (isAnswer_of_any (by decide +kernel)) (by decide) rfl ?_
    exact .done _
  · rintro ⟨-, written⟩
    exact absurd written (by decide +kernel)

end Radius
end SoftEther
