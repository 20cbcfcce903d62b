import SoftEther.Cedar.Ppp.Request

/-!
# The thread of a PPP session

`PPPRecvResponsePacket` and `PPPThread`.  A loop runs for so many rounds, and waits when they
are over.  What the session writes to the client is left out except for the answers to
requests; so is `PPPCleanTerminate`, which does not look at the IPC.
-/

namespace SoftEther
namespace Ppp

open Network

/-- `PPPSendPacket`: whether the packet could be sent. -/
def pppSendPacket (w : World) : Except Stop (Bool × World) :=
  w.ask

def pppRecvPacketWithLowLayerProcessing : Nat → World → Except Stop (Option PppPacket × World)
  | 0, w => .error (.waiting w)
  | rounds + 1, w => do
      let (pp, w) ← w.pppRecvPacket
      match pp with
      | none => .ok (none, w)
      | some pp =>
          if pppIsSupportedProtocol pp.protocol = false then do
            let w := w.set { w.session with nextId := w.session.nextId + 1 }
            let (sent, w) ← pppSendPacket w
            if sent then pppRecvPacketWithLowLayerProcessing rounds w else .ok (none, w)
          else
            match pp.body with
            | .data _ => .ok (some pp, w)
            | .control lcp =>
                if pp.protocol ≠ PPP_PROTOCOL_LCP then .ok (some pp, w)
                else if lcp.code = PPP_LCP_CODE_ECHO_REQUEST then do
                  let (sent, w) ← pppSendPacket w
                  if sent then pppRecvPacketWithLowLayerProcessing rounds w else .ok (none, w)
                else if lcp.code = PPP_LCP_CODE_ECHO_RESPONSE ∨ lcp.code = PPP_LCP_CODE_DROP ∨
                    lcp.code = PPP_LCP_CODE_IDENTIFICATION then
                  pppRecvPacketWithLowLayerProcessing rounds w
                else if lcp.code = PPP_LCP_CODE_TERMINATE_REQ then do
                  let w := w.set { w.session with isTerminateReceived := true }
                  let (sent, w) ← pppSendPacket w
                  if sent then pppRecvPacketWithLowLayerProcessing rounds w else .ok (none, w)
                else .ok (some pp, w)

/-- `PPPRecvPacketForCommunication`, which is also how `PPPRecvResponsePacket` takes the next
packet: the stored one first. -/
def pppRecvPacketForCommunication (rounds : Nat) (w : World) :
    Except Stop (Option PppPacket × World) :=
  match w.session.lastStoredPacket with
  | some pp => .ok (some pp, w.set { w.session with lastStoredPacket := none })
  | none => pppRecvPacketWithLowLayerProcessing rounds w

/-- The session is to be disconnected after the answer. -/
def disconnectNow (protocol : UInt16) (ret : PppLcp) : Bool :=
  (protocol = PPP_PROTOCOL_PAP && ret.code ≠ PPP_PAP_CODE_ACK) ||
    (protocol = PPP_PROTOCOL_CHAP && ret.code = PPP_CHAP_CODE_FAILURE)

/-- What `PPPRecvResponsePacket` does with a request of the expected protocol: whether it goes
on. -/
def answerRequest (hubs : Hubs) (w : World) (protocol : UInt16) (req : PppLcp) :
    Except Stop (Bool × World) := do
  let (ret, w) ← pppProcessRequestPacket hubs w protocol req
  let (sent, w) ← pppSendPacket (w.log (.answered protocol req ret w.session.ipc))
  .ok (sent && !disconnectNow protocol ret, w)

/-- What `PPPRecvResponsePacket` does when no packet is there: whether it goes on. -/
def waitForPacket (awaited : Awaited) (w : World) : Except Stop (Bool × World) := do
  let (resend, w) ← w.ask
  let (sent, w) ← if awaited.req.isSome && resend then pppSendPacket w else .ok (true, w)
  let (timedOut, w) ← w.ask
  if sent = false ∨ (awaited.req.isSome ∧ timedOut) ∨
      (awaited.finishWhenAllLcpAcked ∧ w.session.clientLcpOptionDetermined) then .ok (false, w)
  else w.ask

/-- The loop of `PPPRecvResponsePacket`: the response, and `received_protocol`. -/
def recvResponseLoop (hubs : Hubs) (awaited : Awaited) :
    Nat → World → Except Stop ((Option PppLcp × UInt16) × World)
  | 0, w => .error (.waiting w)
  | rounds + 1, w => do
      let (pp, w) ← pppRecvPacketForCommunication rounds w
      match pp with
      | none => do
          let (goesOn, w) ← waitForPacket awaited w
          if goesOn then recvResponseLoop hubs awaited rounds w else .ok ((none, 0), w)
      | some pp =>
          match pp.body with
          | .data _ =>
              if pppIsSupportedProtocol pp.protocol then
                .ok ((none, pp.protocol),
                  w.set { w.session with lastStoredPacket := some pp })
              else .ok ((none, 0), w)
          | .control lcp =>
              let w := w.log (.took awaited pp.protocol lcp w.session.ipc.isSome)
              if awaited.isResponse pp.protocol lcp then .ok ((some lcp, 0), w)
              else if pp.protocol ≠ awaited.expectedProtocol then
                if pppIsSupportedProtocol pp.protocol then
                  .ok ((none, pp.protocol),
                    w.set { w.session with lastStoredPacket := some pp })
                else .ok ((none, 0), w)
              else if pppCodeIsRequest pp.protocol lcp.code then do
                let (goesOn, w) ← answerRequest hubs w pp.protocol lcp
                if goesOn then recvResponseLoop hubs awaited rounds w else .ok ((none, 0), w)
              else recvResponseLoop hubs awaited rounds w

def pppRecvResponsePacket (hubs : Hubs) (rounds : Nat) (awaited : Awaited) (w : World) :
    Except Stop ((Option PppLcp × UInt16) × World) := do
  let (connected, w) ← w.ask
  if connected then recvResponseLoop hubs awaited rounds w else .ok ((none, 0), w)

def pppSendRequest (hubs : Hubs) (rounds : Nat) (protocol : UInt16) (w : World) :
    Except Stop (Bool × World) := do
  let id := w.session.nextId
  let w := w.set { w.session with nextId := id + 1 }
  let (sent, w) ← pppSendPacket w
  if sent then do
    let ((pp2, _), w) ← pppRecvResponsePacket hubs rounds
      { req := some (protocol, id), expectedProtocol := protocol } w
    match pp2 with
    | none => .ok (false, w)
    | some lcp =>
        .ok ((protocol = PPP_PROTOCOL_LCP || protocol = PPP_PROTOCOL_IPCP) &&
          !pppLcpCodeIsNegative lcp.code, w)
  else .ok (false, w)

def pppContinueCurrentProtocolRequestListening (hubs : Hubs) (rounds : Nat) (protocol : UInt16)
    (w : World) : Except Stop (UInt16 × World) := do
  let ((_, receivedProtocol), w) ← pppRecvResponsePacket hubs rounds
    { expectedProtocol := protocol } w
  .ok (receivedProtocol, w)

/-! ## `PPPThread` -/

/-- The link establishment phase: whether an authentication protocol has been agreed on. -/
def establishLink (hubs : Hubs) (rounds : Nat) (w : World) : Except Stop (Bool × World) := do
  let (ret, w) ← pppSendRequest hubs rounds PPP_PROTOCOL_LCP w
  if ret then .ok (true, w)
  else do
    let (connected, w) ← w.ask
    if connected && w.session.enableMSCHAPv2 then do
      let (ret, w) ← pppSendRequest hubs rounds PPP_PROTOCOL_LCP w
      if ret then .ok (true, w.set { w.session with authProtocol := PPP_PROTOCOL_CHAP })
      else .ok (false, w)
    else .ok (false, w)

/-- The authentication phase with PAP: the next protocol, when it has been successful. -/
def authenticatePap (hubs : Hubs) (rounds : Nat) (w : World) :
    Except Stop (Option UInt16 × World) := do
  let (nextProtocol, w) ←
    pppContinueCurrentProtocolRequestListening hubs rounds PPP_PROTOCOL_LCP w
  if nextProtocol ≠ PPP_PROTOCOL_PAP then .ok (none, w)
  else do
    let (nextProtocol, w) ←
      pppContinueCurrentProtocolRequestListening hubs rounds PPP_PROTOCOL_PAP w
    if nextProtocol = 0 ∨ w.session.authOk = false then .ok (none, w)
    else .ok (some nextProtocol, w)

def firstMsChapV2 (hubs : Hubs) (rounds : Nat) (w : World) : Except Stop World := do
  let (challenge, w) ← w.generateChallenge
  let w := w.set { w.session with msChapV2ServerChallenge := challenge }
  let (_, w) ← pppSendPacket (w.log (.challenged 99))
  let ((ppRet, _), w) ← pppRecvResponsePacket hubs rounds
    { req := some (PPP_PROTOCOL_CHAP, 99)
      expectedProtocol := PPP_PROTOCOL_CHAP
      returnMsChapV2ResponseWithNoProcessing := true } w
  match ppRet with
  | none => .ok w
  | some lcp =>
      match chapResponse lcp.data with
      | none => .ok w
      | some _ => do
          let (eap, w) ← w.hubNewEapClient
          match eap with
          | none => .ok w
          | some eap => .ok (w.set { w.session with eapClient := some eap })

def challengeMsChapV2 (hubs : Hubs) (rounds : Nat) (challenge : ByteArrayOf 16) (w : World) :
    Except Stop (Option UInt16 × World) := do
  let w := w.set { w.session with msChapV2ServerChallenge := challenge }
  let (_, w) ← pppSendPacket (w.log (.challenged 0))
  let ((_, ppRetProtocol), w) ← pppRecvResponsePacket hubs rounds
    { req := some (PPP_PROTOCOL_CHAP, 0), expectedProtocol := PPP_PROTOCOL_CHAP } w
  if ppRetProtocol = 0 ∨ w.session.authOk = false then .ok (none, w)
  else .ok (some ppRetProtocol, w)

/-- The MS-CHAP v2 packet whose challenge is that of the EAP client, or a new one. -/
def secondMsChapV2 (hubs : Hubs) (rounds : Nat) (w : World) :
    Except Stop (Option UInt16 × World) :=
  match w.session.eapClient with
  | none => do
      let (challenge, w) ← w.generateChallenge
      challengeMsChapV2 hubs rounds challenge w
  | some (_, challenge) => challengeMsChapV2 hubs rounds challenge w

/-- The authentication phase with MS-CHAP v2: the next protocol, when it has been
successful. -/
def authenticateMsChapV2 (hubs : Hubs) (rounds : Nat) (w : World) :
    Except Stop (Option UInt16 × World) := do
  let (_, w) ← pppRecvResponsePacket hubs rounds
    { expectedProtocol := PPP_PROTOCOL_LCP, finishWhenAllLcpAcked := true } w
  if w.session.msChapV2UseDoubleMsChapV2 then do
    let w ← firstMsChapV2 hubs rounds w
    secondMsChapV2 hubs rounds w
  else secondMsChapV2 hubs rounds w

/-- The packets of the client are passed to the IPC. -/
def passPackets : Nat → World → Except Stop World
  | 0, w => .error (.waiting w)
  | rounds + 1, w => do
      let (pp, w) ← pppRecvPacketForCommunication rounds w
      match pp with
      | none => .ok w
      | some pp =>
          match pp.body with
          | .data bytes =>
              if pp.protocol = PPP_PROTOCOL_IP then do
                let _ ← w.useIpc
                passPackets rounds (w.log (.sentIPv4 bytes))
              else passPackets rounds w
          | .control _ => passPackets rounds w

/-- The IP communication. -/
def communicate : Nat → World → Except Stop World
  | 0, w => .error (.waiting w)
  | rounds + 1, w => do
      -- IPCFlushArpTable
      let _ ← w.useIpc
      let w ← passPackets rounds w
      let (renew, w) ← w.ask
      -- IPCDhcpRenewIP
      w.useIpcIf (w.session.dhcpAllocated && renew)
      -- IPCProcessL3Events and IPCRecvIPv4
      let _ ← w.useIpc
      let (ends, w) ← w.ask
      if ends || w.session.isTerminateReceived then .ok w else communicate rounds w

/-- The IP communication, on a condition. -/
def communicateIf (condition : Bool) (rounds : Nat) (w : World) : Except Stop World :=
  if condition then communicate rounds w else .ok w

/-- The part of `PPPThread` after the authentication. -/
def afterAuthentication (hubs : Hubs) (rounds : Nat) (nextProtocol : UInt16) (w : World) :
    Except Stop World :=
  if nextProtocol ≠ PPP_PROTOCOL_IPCP then .ok w
  else do
    let (ret, w) ← pppSendRequest hubs rounds PPP_PROTOCOL_IPCP w
    if ret = false then .ok w
    else do
      let (nextProtocol, w) ←
        pppContinueCurrentProtocolRequestListening hubs rounds PPP_PROTOCOL_IPCP w
      match w.session.ipc with
      | none => .ok w
      | some ipc =>
          if isZeroIP ipc.clientIPAddress then .ok w
          else do
            let w ← communicateIf (nextProtocol = PPP_PROTOCOL_IP) rounds w
            -- IPCDhcpFreeIP
            w.useIpcIf w.session.dhcpAllocated
            .ok w

def pppThread (hubs : Hubs) (rounds : Nat) (w : World) : Except Stop World := do
  let (established, w) ← establishLink hubs rounds w
  if established = false then .ok w
  else do
    let (nextProtocol, w) ←
      if w.session.authProtocol = PPP_PROTOCOL_PAP then authenticatePap hubs rounds w
      else authenticateMsChapV2 hubs rounds w
    match nextProtocol with
    | none => .ok w
    | some nextProtocol => afterAuthentication hubs rounds nextProtocol w

end Ppp
end SoftEther
