import SoftEther.Cedar.Radius.Packet
import SoftEther.Mayaqua.Network

/-!
# EAP over RADIUS

`EAP_CLIENT` of `Radius.c`, and how it sends a request and waits for the response.  An answer
from the server's address is authenticated by an HMAC under the shared secret and the
authenticator of the pending request; but some of its attributes are stored before that.
-/

namespace SoftEther
namespace Radius

open Network

def EAP_CODE_RESPONSE : UInt8 := 2

def EAP_TYPE_PEAP : UInt8 := 25

def EAP_TLS_FLAGS_LEN : UInt8 := 0x80

def EAP_TLS_FLAGS_MORE_FRAGMENTS : UInt8 := 0x40

/-- `sizeof(EAP_PEAP)`. -/
def sizeofEapPeap : Nat := 6

structure EapClient where
  serverIp : Ip
  serverPort : Nat
  sharedSecret : CString
  clientIpStr : CString
  calledStationStr : CString
  username : CString
  inVpnProtocolState : CString
  resendTimeout : Nat
  giveupTimeout : Nat
  lastRecvEapId : UInt8 := 0
  /-- `LastState` and `LastStateSize`. -/
  lastState : List UInt8 := []
  nextRadiusPacketId : UInt8 := 1
  peapCurrentReceivingMsg : List UInt8 := []
  peapCurrentReceivingTotalSize : Nat := 0
  lastRecvVLanId : UInt32 := 0
  lastRecvVirtualMacAddress : MacAddress := ⟨List.replicate 6 0, length_zeros6⟩
  deriving DecidableEq

/-- The variables of `EapSendPacketAndRecvResponse`, and what it has sent. -/
structure Exchange where
  e : EapClient
  /-- `r`, the pending request. -/
  r : Packet
  nextSendTick : Nat := 0
  ret : Option Packet := none
  isFinish : Bool := false
  sent : List (List UInt8) := []
  deriving DecidableEq

/-- An attribute with a string, unless it is empty or blank. -/
def optionalAvp (type : UInt8) (str : CString) : List Avp :=
  if trim str.bytes = [] then [] else [newRadiusAvp type 0 0 str.bytes]

def microsoftAvp (vendorCode : UInt8) (data : List UInt8) : Avp :=
  newRadiusAvp RADIUS_ATTRIBUTE_VENDOR_SPECIFIC RADIUS_VENDOR_MICROSOFT vendorCode data

def eapSetRadiusGeneralAttributes (r : Packet) (e : EapClient) : Packet :=
  { r with
    avpList := r.avpList ++
      [newRadiusAvp RADIUS_ATTRIBUTE_SERVICE_TYPE 0 0 (writeBufInt 2),
        newRadiusAvp RADIUS_ATTRIBUTE_FRAMED_PROTOCOL 0 0 (writeBufInt 1),
        newRadiusAvp RADIUS_ATTRIBUTE_NAS_PORT_TYPE 0 0 (writeBufInt 5)] ++
      optionalAvp RADIUS_ATTRIBUTE_CALLED_STATION_ID e.calledStationStr ++
      [newRadiusAvp RADIUS_ATTRIBUTE_CALLING_STATION_ID 0 0 e.clientIpStr.bytes,
        newRadiusAvp RADIUS_ATTRIBUTE_TUNNEL_CLIENT_ENDPOINT 0 0 e.clientIpStr.bytes,
        newRadiusAvp RADIUS_ATTRIBUTE_USER_NAME 0 0 e.username.bytes,
        newRadiusAvp RADIUS_ATTRIBUTE_NAS_ID 0 0 (ascii "SoftEther VPN Server")] ++
      optionalAvp RADIUS_ATTRIBUTE_PROXY_STATE e.inVpnProtocolState ++
      -- `RADIUS_MS_NETWORK_ACCESS_SERVER_TYPE`, `RADIUS_MS_RAS_VENDOR`, `RADIUS_MS_VERSION`,
      -- `RADIUS_MS_RAS_CORRELATION`, `RADIUS_MS_RAS_CLIENT_VERSION`, `RADIUS_MS_RAS_CLIENT_NAME`.
      [microsoftAvp 47 (writeBufInt 2),
        microsoftAvp 9 (writeBufInt RADIUS_VENDOR_MICROSOFT),
        microsoftAvp 18 (ascii "MSRASV5.20"),
        microsoftAvp 56 (ascii "\x7b5DC53D72-9815-4E97-AC91-339BAFEA6C48\x7d"),
        microsoftAvp 35 (ascii "MSRASV5.20"),
        microsoftAvp 34 (ascii "MSRASV5.20")] }

/-- The request that acknowledges a fragment. -/
def ackPacket (e : EapClient) : Packet :=
  let p := eapSetRadiusGeneralAttributes
    (newRadiusPacket RADIUS_CODE_ACCESS_REQUEST e.nextRadiusPacketId) e
  { p with
    avpList := p.avpList ++
      (if e.lastState = [] then [] else [newRadiusAvp RADIUS_ATTRIBUTE_STATE 0 0 e.lastState]) ++
      [newRadiusAvp RADIUS_ATTRIBUTE_EAP_MESSAGE 0 0
        [EAP_CODE_RESPONSE, e.lastRecvEapId, 0, 6, EAP_TYPE_PEAP, 0]] }

/-! ## Answers -/

/-- The string in an attribute, through an array of the given size. -/
def avpStr (size : Nat) (avp : Avp) : List UInt8 :=
  (CString.ofBuffer (avp.data.take (size - 1))).bytes

/-- The identifier of the EAP message; `Data` is filled with zeros. -/
def storeEapId (rp : Packet) (e : EapClient) : EapClient :=
  match getRadiusAvp rp RADIUS_ATTRIBUTE_EAP_MESSAGE with
  | none => e
  | some eapMsg => { e with lastRecvEapId := eapMsg.data.getD 1 0 }

/-- `FRAMED_INTERFACE_ID`. -/
def storeMacAddress (rp : Packet) (e : EapClient) : EapClient :=
  match getRadiusAvp rp RADIUS_ATTRIBUTE_FRAMED_INTERFACE_ID with
  | none => e
  | some avp =>
      match strToMac (avpStr 64 avp) with
      | none => e
      | some macAddress => { e with lastRecvVirtualMacAddress := macAddress }

/-- `VLAN_ID`. -/
def storeVLanId (rp : Packet) (e : EapClient) : EapClient :=
  match getRadiusAvp rp RADIUS_ATTRIBUTE_VLAN_ID with
  | none => e
  | some avp => { e with lastRecvVLanId := toInt (avpStr 32 avp) }

/-- What is stored of an answer before it is validated. -/
def storeAttributes (rp : Packet) (e : EapClient) : EapClient :=
  storeVLanId rp (storeMacAddress rp (storeEapId rp e))

section

variable (md5 : List UInt8 → ByteArrayOf 16)

/-- The answer has an authenticator for its EAP message, and this is the HMAC of the datagram
with the authenticator of the request in its place. -/
def authenticates (sharedSecret : List UInt8) (authenticator : ByteArrayOf 16) (rp : Packet)
    (tmp : List UInt8) : Bool :=
  rp.parseEapAuthMessagePos ≠ 0 ∧ rp.parseAuthenticatorPos ≠ 0 ∧
    (tmp.drop rp.parseEapAuthMessagePos).take 16 =
      (hMacMd5 md5 sharedSecret (copyAt (copyAt tmp rp.parseEapAuthMessagePos zero16.val)
        rp.parseAuthenticatorPos authenticator.val)).val

end

section

variable (spare : List UInt8)

/-- A byte of an EAP message; behind the message lies what lies there. -/
def messageByte (message : List UInt8) (index : Nat) : UInt8 :=
  (message ++ spare).getD index 0

def firstFragment (message : List UInt8) (size : Nat) (e : EapClient) : EapClient :=
  if messageByte spare message 5 &&& EAP_TLS_FLAGS_LEN ≠ 0 ∧ 9 ≤ eapLen (message ++ spare) then
    let totalSize := fromBigEndian (((message ++ spare).drop sizeofEapPeap).take 4)
    if totalSize < 65536 ∧ 1 ≤ size then
      { e with
        peapCurrentReceivingTotalSize := totalSize
        peapCurrentReceivingMsg :=
          e.peapCurrentReceivingMsg ++ (message ++ spare).take size }
    else e
  else e

/-- A fragment is acknowledged: the acknowledgement is the pending request from now on. -/
def acknowledge (s : Exchange) : Exchange :=
  { s with
    e := { s.e with nextRadiusPacketId := s.e.nextRadiusPacketId + 1 }
    r := ackPacket s.e
    nextSendTick := 0 }

/-- A fragment behind the first one; the last fragment completes the answer. -/
def laterFragment (message : List UInt8) (size : Nat) (rp : Packet) (s : Exchange) : Exchange :=
  if messageByte spare message 5 &&& EAP_TLS_FLAGS_LEN = 0 ∧ sizeofEapPeap ≤ size then
    let msg := s.e.peapCurrentReceivingMsg ++
      ((message ++ spare).drop sizeofEapPeap).take (size - sizeofEapPeap)
    let s := { s with e := { s.e with peapCurrentReceivingMsg := msg } }
    if s.e.peapCurrentReceivingTotalSize ≤ msg.length then
      { s with
        isFinish := true
        ret := some { rp with parseEapMessage := some msg, parseEapMessageDataSize := msg.length } }
    else s
  else s

/-- An answer that is authentic. -/
def acceptResponse (rp : Packet) (s : Exchange) : Exchange :=
  let s := { s with e := { s.e with lastState := rp.parseState } }
  match rp.parseEapMessage with
  | none => { s with ret := some rp }
  | some message =>
      if rp.parseEapMessageDataSize ≠ 0 ∧ messageByte spare message 4 = EAP_TYPE_PEAP ∧
          (messageByte spare message 5 &&& EAP_TLS_FLAGS_MORE_FRAGMENTS ≠ 0 ∨
            s.e.peapCurrentReceivingTotalSize ≠ 0) then
        let first := s.e.peapCurrentReceivingTotalSize = 0
        let s := acknowledge s
        if first then
          { s with e := firstFragment spare message rp.parseEapMessageDataSize s.e }
        else laterFragment spare message rp.parseEapMessageDataSize rp s
      else { s with ret := some rp }

end

section

variable (md5 : List UInt8 → ByteArrayOf 16)
variable (spare : List UInt8)

/-- A datagram from the server's address. -/
def processResponse (tmp : List UInt8) (s : Exchange) : Exchange :=
  match parseRadiusPacket spare tmp with
  | none => s
  | some rp =>
      let s := { s with e := storeAttributes rp s.e }
      if authenticates md5 s.e.sharedSecret.bytes s.r.authenticator rp tmp then
        acceptResponse spare rp s
      else s

/-- The datagram comes from the server's address. -/
def fromServer (e : EapClient) (fromIp : Ip) (fromPort : Nat) : Bool :=
  fromIp.addr = e.serverIp.addr ∧ fromIp.ipv6Addr = e.serverIp.ipv6Addr ∧ fromPort = e.serverPort

/-- What `RecvFrom` returns. -/
inductive Received where
  | error (ignoreRecvErr : Bool)
  | datagram (fromIp : Ip) (fromPort : Nat) (tmp : List UInt8)

/-- The loop over the datagrams, until `SOCK_LATER`. -/
def receiveAll : List Received → Nat → Exchange → Exchange
  | [], _, s => s
  | .error false :: _, _, s => { s with isFinish := true }
  | .error true :: rest, numError, s =>
      if 100 ≤ numError + 1 then { s with isFinish := true }
      else receiveAll rest (numError + 1) s
  | .datagram fromIp fromPort tmp :: rest, numError, s =>
      let s := if fromServer s.e fromIp fromPort then processResponse md5 spare tmp s else s
      if s.ret ≠ none then { s with isFinish := true } else receiveAll rest numError s

/-- What a round of `EapSendPacketAndRecvResponse` meets. -/
structure Round where
  /-- `Tick64`. -/
  now : Nat
  /-- What `RecvFrom` returns, one after another. -/
  received : List Received := []
  /-- `Rand`. -/
  rand16 : ByteArrayOf 16
  /-- `SendTo` has failed. -/
  sendFailed : Bool := false

/-- The request is sent, and sent again when its time has come. -/
def sendRequest (round : Round) (s : Exchange) : Exchange :=
  if s.nextSendTick = 0 ∨ s.nextSendTick ≤ round.now then
    let (r, b) := generateRadiusPacket md5 round.rand16 s.r s.e.sharedSecret.bytes
    { s with
      nextSendTick := round.now + s.e.resendTimeout
      r := r
      sent := s.sent ++ [b]
      isFinish := round.sendFailed }
  else s

/-- The loop of `EapSendPacketAndRecvResponse`, as far as there are rounds. -/
def exchange : List Round → Bool → Nat → Exchange → Exchange
  | [], _, _, s => s
  | round :: rest, selectInited, giveupTick, s =>
      let giveupTick := if giveupTick = 0 then round.now + s.e.giveupTimeout else giveupTick
      if giveupTick ≤ round.now then s
      else
        let s := if selectInited then receiveAll md5 spare round.received 0 s else s
        if s.isFinish then s
        else
          let s := sendRequest md5 round s
          if s.isFinish then s else exchange rest true giveupTick s

/-- `EapSendPacketAndRecvResponse`: the client and the response. -/
def eapSendPacketAndRecvResponse (rounds : List Round) (e : EapClient) (r : Packet) :
    EapClient × Option Packet :=
  let e := { e with peapCurrentReceivingMsg := [], peapCurrentReceivingTotalSize := 0 }
  let s := exchange md5 spare rounds false 0 { e := e, r := r }
  (s.e, s.ret)

end

/-- The identifier of the EAP message in an answer. -/
def eapIdOf (rp : Packet) : Option UInt8 :=
  (getRadiusAvp rp RADIUS_ATTRIBUTE_EAP_MESSAGE).map fun eapMsg => eapMsg.data.getD 1 0

def macAddressOf (rp : Packet) : Option MacAddress :=
  (getRadiusAvp rp RADIUS_ATTRIBUTE_FRAMED_INTERFACE_ID).bind fun avp => strToMac (avpStr 64 avp)

/-- The VLAN identifier in an answer. -/
def vLanIdOf (rp : Packet) : Option UInt32 :=
  (getRadiusAvp rp RADIUS_ATTRIBUTE_VLAN_ID).map fun avp => toInt (avpStr 32 avp)

theorem storeAttributes_eq (rp : Packet) (e : EapClient) :
    storeAttributes rp e =
      { e with
        lastRecvEapId := (eapIdOf rp).getD e.lastRecvEapId
        lastRecvVirtualMacAddress := (macAddressOf rp).getD e.lastRecvVirtualMacAddress
        lastRecvVLanId := (vLanIdOf rp).getD e.lastRecvVLanId } := by
  have first : storeEapId rp e =
      { e with lastRecvEapId := (eapIdOf rp).getD e.lastRecvEapId } := by
    unfold storeEapId eapIdOf
    cases getRadiusAvp rp RADIUS_ATTRIBUTE_EAP_MESSAGE with
    | none => rfl
    | some eapMsg => rfl
  have second : ∀ e, storeMacAddress rp e =
      { e with
        lastRecvVirtualMacAddress := (macAddressOf rp).getD e.lastRecvVirtualMacAddress } := by
    intro e
    unfold storeMacAddress macAddressOf
    cases getRadiusAvp rp RADIUS_ATTRIBUTE_FRAMED_INTERFACE_ID with
    | none => rfl
    | some avp =>
        simp only [Option.bind_some]
        cases strToMac (avpStr 64 avp) with
        | none => rfl
        | some macAddress => rfl
  have third : ∀ e, storeVLanId rp e =
      { e with lastRecvVLanId := (vLanIdOf rp).getD e.lastRecvVLanId } := by
    intro e
    unfold storeVLanId vLanIdOf
    cases getRadiusAvp rp RADIUS_ATTRIBUTE_VLAN_ID with
    | none => rfl
    | some avp => rfl
  rw [storeAttributes, first, second, third]

/-- What an answer carries to be stored is stored already. -/
structure CarriesNothingNew (rp : Packet) (e : EapClient) : Prop where
  /-- `LastRecvEapId`. -/
  eapId : ∀ id ∈ eapIdOf rp, id = e.lastRecvEapId
  /-- `LastRecvVirtualMacAddress`. -/
  macAddress : ∀ macAddress ∈ macAddressOf rp, macAddress = e.lastRecvVirtualMacAddress
  /-- `LastRecvVLanId`. -/
  vLanId : ∀ vLanId ∈ vLanIdOf rp, vLanId = e.lastRecvVLanId

theorem getD_eq_iff
    {Value : Type}
    (found : Option Value)
    (value : Value) :
    found.getD value = value ↔ ∀ other ∈ found, other = value := by
  cases found with
  | none => simp
  | some other => simp

theorem storeAttributes_eq_self_iff (rp : Packet) (e : EapClient) :
    storeAttributes rp e = e ↔ CarriesNothingNew rp e := by
  rw [storeAttributes_eq]
  constructor
  · intro same
    refine ⟨?_, ?_, ?_⟩
    · exact (getD_eq_iff _ _).mp (congrArg EapClient.lastRecvEapId same)
    · exact (getD_eq_iff _ _).mp (congrArg EapClient.lastRecvVirtualMacAddress same)
    · exact (getD_eq_iff _ _).mp (congrArg EapClient.lastRecvVLanId same)
  · intro nothing
    rw [(getD_eq_iff _ _).mpr nothing.eapId, (getD_eq_iff _ _).mpr nothing.macAddress,
      (getD_eq_iff _ _).mpr nothing.vLanId]

section

variable (md5 : List UInt8 → ByteArrayOf 16)
variable (spare : List UInt8)

/-- The datagram is an answer with an authenticator that is the HMAC under the shared secret and
the authenticator of the pending request. -/
def Verified (s : Exchange) (tmp : List UInt8) : Prop :=
  ∃ rp, parseRadiusPacket spare tmp = some rp ∧
    authenticates md5 s.e.sharedSecret.bytes s.r.authenticator rp tmp = true

theorem processResponse_of_not_verified
    {s : Exchange}
    {tmp : List UInt8}
    (unverified : ¬Verified md5 spare s tmp) :
    processResponse md5 spare tmp s =
      match parseRadiusPacket spare tmp with
      | none => s
      | some rp => { s with e := storeAttributes rp s.e } := by
  unfold processResponse
  cases parsed : parseRadiusPacket spare tmp with
  | none => rfl
  | some rp =>
      have secret : (storeAttributes rp s.e).sharedSecret = s.e.sharedSecret := by
        rw [storeAttributes_eq]
      dsimp only
      rw [secret]
      exact if_neg fun verified => unverified ⟨rp, parsed, verified⟩

theorem receive_not_verified
    {s : Exchange}
    {tmp : List UInt8}
    {fromIp : Ip}
    {fromPort : Nat}
    (isServer : fromServer s.e fromIp fromPort = true)
    (unverified : ¬Verified md5 spare s tmp) :
    (receiveAll md5 spare [.datagram fromIp fromPort tmp] 0 s).e =
      match parseRadiusPacket spare tmp with
      | none => s.e
      | some rp => storeAttributes rp s.e := by
  have after : (receiveAll md5 spare [.datagram fromIp fromPort tmp] 0 s).e =
      (processResponse md5 spare tmp s).e := by
    unfold receiveAll
    rw [if_pos isServer]
    dsimp only
    split
    · rfl
    · rfl
  rw [after, processResponse_of_not_verified md5 spare unverified]
  cases parseRadiusPacket spare tmp with
  | none => rfl
  | some rp => rfl

/-- **Unauthenticated answers.**  A datagram from the server's address that is not authentic
leaves the client unchanged exactly when it is no packet, or carries nothing new. -/
theorem receive_unverified_iff
    {s : Exchange}
    {tmp : List UInt8}
    {fromIp : Ip}
    {fromPort : Nat}
    (isServer : fromServer s.e fromIp fromPort = true)
    (unverified : ¬Verified md5 spare s tmp) :
    (receiveAll md5 spare [.datagram fromIp fromPort tmp] 0 s).e = s.e ↔
      ∀ rp, parseRadiusPacket spare tmp = some rp → CarriesNothingNew rp s.e := by
  rw [receive_not_verified md5 spare isServer unverified]
  cases parseRadiusPacket spare tmp with
  | none => simp
  | some rp =>
      dsimp only
      rw [storeAttributes_eq_self_iff]
      constructor
      · intro nothing other same
        rwa [← Option.some.inj same]
      · exact fun all => all rp rfl

/-! ## Exchanges without an authentic answer -/

/-- What authentic answers decide: the secret, the state, the next identifier, and the PEAP
message that is coming in. -/
def EapClient.trusted (e : EapClient) : CString × List UInt8 × UInt8 × List UInt8 × Nat :=
  (e.sharedSecret, e.lastState, e.nextRadiusPacketId, e.peapCurrentReceivingMsg,
    e.peapCurrentReceivingTotalSize)

/-- There is no response, and what authentic answers decide is as it was. -/
structure Exchange.Untouched (e : EapClient) (s : Exchange) : Prop where
  ret : s.ret = none
  trusted : s.e.trusted = e.trusted

/-- The datagram is not authentic, whatever the request. -/
def NeverVerifies (sharedSecret : List UInt8) : Received → Prop
  | .error _ => True
  | .datagram _ _ tmp => ∀ rp authenticator, parseRadiusPacket spare tmp = some rp →
      authenticates md5 sharedSecret authenticator rp tmp = false

theorem trusted_storeAttributes (rp : Packet) (e : EapClient) :
    (storeAttributes rp e).trusted = e.trusted := by
  rw [storeAttributes_eq]
  rfl

theorem Exchange.Untouched.processResponse
    {e : EapClient}
    {s : Exchange}
    {fromIp : Ip}
    {fromPort : Nat}
    {tmp : List UInt8}
    (untouched : s.Untouched e)
    (never : NeverVerifies md5 spare e.sharedSecret.bytes (.datagram fromIp fromPort tmp)) :
    (Radius.processResponse md5 spare tmp s).Untouched e := by
  have secret : s.e.sharedSecret = e.sharedSecret := congrArg Prod.fst untouched.trusted
  have unverified : ¬Verified md5 spare s tmp := by
    rintro ⟨rp, parsed, verified⟩
    rw [secret] at verified
    exact absurd verified (by simp [never rp s.r.authenticator parsed])
  rw [processResponse_of_not_verified md5 spare unverified]
  cases parseRadiusPacket spare tmp with
  | none => exact untouched
  | some rp => exact ⟨untouched.ret, (trusted_storeAttributes rp s.e).trans untouched.trusted⟩

theorem Exchange.Untouched.receiveAll
    {e : EapClient}
    {received : List Received}
    {numError : Nat}
    {s : Exchange}
    (untouched : s.Untouched e)
    (never : ∀ result ∈ received, NeverVerifies md5 spare e.sharedSecret.bytes result) :
    (Radius.receiveAll md5 spare received numError s).Untouched e := by
  induction received generalizing numError s with
  | nil => exact untouched
  | cons result rest inductionHypothesis =>
      have others : ∀ other ∈ rest, NeverVerifies md5 spare e.sharedSecret.bytes other :=
        fun other listed => never other (List.mem_cons_of_mem result listed)
      have first := never result List.mem_cons_self
      cases result with
      | error ignoreRecvErr =>
          cases ignoreRecvErr with
          | false => exact ⟨untouched.ret, untouched.trusted⟩
          | true =>
              unfold Radius.receiveAll
              split
              · exact ⟨untouched.ret, untouched.trusted⟩
              · exact inductionHypothesis untouched others
      | datagram fromIp fromPort tmp =>
          have after : (if fromServer s.e fromIp fromPort then
              Radius.processResponse md5 spare tmp s else s).Untouched e := by
            split
            · exact untouched.processResponse md5 spare first
            · exact untouched
          unfold Radius.receiveAll
          dsimp only
          rw [if_neg (not_not_intro after.ret)]
          exact inductionHypothesis after others

theorem Exchange.Untouched.sendRequest
    {e : EapClient}
    {round : Round}
    {s : Exchange}
    (untouched : s.Untouched e) :
    (Radius.sendRequest md5 round s).Untouched e := by
  unfold Radius.sendRequest
  split
  · exact ⟨untouched.ret, untouched.trusted⟩
  · exact untouched

theorem Exchange.Untouched.exchange
    {e : EapClient}
    {rounds : List Round}
    {selectInited : Bool}
    {giveupTick : Nat}
    {s : Exchange}
    (untouched : s.Untouched e)
    (never : ∀ round ∈ rounds, ∀ result ∈ round.received,
      NeverVerifies md5 spare e.sharedSecret.bytes result) :
    (Radius.exchange md5 spare rounds selectInited giveupTick s).Untouched e := by
  induction rounds generalizing selectInited giveupTick s with
  | nil => exact untouched
  | cons round rest inductionHypothesis =>
      have others : ∀ other ∈ rest, ∀ result ∈ other.received,
          NeverVerifies md5 spare e.sharedSecret.bytes result :=
        fun other listed => never other (List.mem_cons_of_mem round listed)
      have received : (if selectInited then
          Radius.receiveAll md5 spare round.received 0 s else s).Untouched e := by
        split
        · exact untouched.receiveAll md5 spare (never round List.mem_cons_self)
        · exact untouched
      have sent := @Exchange.Untouched.sendRequest md5 e round _ received
      unfold Radius.exchange
      dsimp only
      generalize (if selectInited then
        Radius.receiveAll md5 spare round.received 0 s else s) = after at received sent ⊢
      generalize (if giveupTick = 0 then round.now + s.e.giveupTimeout else giveupTick) = giveup
      split
      · exact untouched
      · split
        · exact received
        · split
          · exact sent
          · exact inductionHypothesis sent others

/-- **Spoofed answers.**  Without an authentic answer there is no response, and what authentic
answers decide is as it was, but for the PEAP message, which has been cleared. -/
theorem eapSendPacketAndRecvResponse_untouched
    {rounds : List Round}
    {e : EapClient}
    {r : Packet}
    (never : ∀ round ∈ rounds, ∀ result ∈ round.received,
      NeverVerifies md5 spare e.sharedSecret.bytes result) :
    (eapSendPacketAndRecvResponse md5 spare rounds e r).2 = none ∧
      (eapSendPacketAndRecvResponse md5 spare rounds e r).1.trusted =
        (e.sharedSecret, e.lastState, e.nextRadiusPacketId, [], 0) := by
  let cleared := { e with peapCurrentReceivingMsg := [], peapCurrentReceivingTotalSize := 0 }
  have start : Exchange.Untouched cleared { e := cleared, r := r } := ⟨rfl, rfl⟩
  have ended : (exchange md5 spare rounds false 0 { e := cleared, r := r }).Untouched cleared :=
    start.exchange md5 spare never
  exact ⟨ended.ret, ended.trusted⟩

end

/-- A client of a server at an address of zeros. -/
def someClient : EapClient where
  serverIp := uintToIP 0
  serverPort := 1812
  sharedSecret := .ofBuffer []
  clientIpStr := .ofBuffer []
  calledStationStr := .ofBuffer []
  username := .ofBuffer []
  inVpnProtocolState := .ofBuffer []
  resendTimeout := 500
  giveupTimeout := 10000

/-- A client that waits for the response to a request. -/
def someExchange : Exchange where
  e := someClient
  r := newRadiusPacket RADIUS_CODE_ACCESS_REQUEST 1

/-- An answer without an authenticator, and with an EAP message. -/
def spoofedAnswer : List UInt8 :=
  [11, 1, 0, 25] ++ List.replicate 16 0 ++ [79, 5, 1, 7, 0]

/-- The packet that the answer is parsed to. -/
def spoofedPacket : Packet where
  code := 11
  packetId := 1
  avpList := [{ type := 79, data := [1, 7, 0] }]
  parseAuthenticatorPos := 4

set_option maxRecDepth 4096 in
theorem parse_spoofedAnswer (spare : List UInt8) :
    parseRadiusPacket spare spoofedAnswer = some spoofedPacket := by
  have avps : parseAvps 25 25 [79, 5, 1, 7, 0]
      { code := 11, packetId := 1, parseAuthenticatorPos := 4 } = some spoofedPacket := by
    decide
  have parsed : parseRadiusPacket spare spoofedAnswer =
      (parseAvps 25 25 [79, 5, 1, 7, 0]
        { code := 11, packetId := 1, parseAuthenticatorPos := 4 }).map (finishParse spare) := by
    rfl
  rw [parsed, avps]
  rfl

theorem not_verified_spoofedAnswer
    (md5 : List UInt8 → ByteArrayOf 16)
    (spare : List UInt8) :
    ¬Verified md5 spare someExchange spoofedAnswer := by
  rintro ⟨rp, parsed, verified⟩
  rw [parse_spoofedAnswer] at parsed
  rw [← Option.some.inj parsed] at verified
  have carries := (of_decide_eq_true verified).1
  exact carries rfl

/-- An answer that carries no authenticator, to a client that has stored nothing. -/
theorem receive_unverified_iff_spoofed :
    (receiveAll (fun _ => zero16) [] [.datagram (uintToIP 0) 1812 spoofedAnswer] 0
        someExchange).e = someClient ↔
      ∀ rp, parseRadiusPacket [] spoofedAnswer = some rp → CarriesNothingNew rp someClient :=
  receive_unverified_iff (fun _ => zero16) [] (by decide) (not_verified_spoofedAnswer _ _)

/-- The answer comes between the request and its retransmission. -/
theorem eapSendPacketAndRecvResponse_untouched_spoofed :
    (eapSendPacketAndRecvResponse (fun _ => zero16) []
      [{ now := 1, rand16 := zero16 },
        { now := 600
          received := [.datagram (uintToIP 0) 1812 spoofedAnswer]
          rand16 := zero16 }]
      someClient someExchange.r).2 = none := by
  refine (eapSendPacketAndRecvResponse_untouched (fun _ => zero16) [] ?_).1
  intro round listed result among
  simp only [List.mem_cons, List.not_mem_nil, or_false] at listed
  obtain rfl | rfl := listed
  · exact absurd among List.not_mem_nil
  · obtain rfl := List.mem_singleton.mp among
    intro rp authenticator parsed
    rw [parse_spoofedAnswer] at parsed
    rw [← Option.some.inj parsed]
    rfl

/-- There is no hash under which the answer without an authenticator leaves the client as it is. -/
theorem spoofedAnswer_stored :
    ¬∃ (md5 : List UInt8 → ByteArrayOf 16) (spare : List UInt8),
      ∀ (s : Exchange) (fromIp : Ip) (fromPort : Nat) (tmp : List UInt8),
        fromServer s.e fromIp fromPort = true → ¬Verified md5 spare s tmp →
          (receiveAll md5 spare [.datagram fromIp fromPort tmp] 0 s).e = s.e := by
  rintro ⟨md5, spare, all⟩
  have same := all someExchange (uintToIP 0) 1812 spoofedAnswer (by decide)
    (not_verified_spoofedAnswer md5 spare)
  have stored : (receiveAll md5 spare [.datagram (uintToIP 0) 1812 spoofedAnswer] 0
      someExchange).e.lastRecvEapId = 7 := by
    rw [receive_not_verified md5 spare (by decide) (not_verified_spoofedAnswer md5 spare),
      parse_spoofedAnswer]
    rfl
  rw [same] at stored
  exact absurd stored (by decide)

end Radius
end SoftEther
