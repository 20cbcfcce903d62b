import SoftEther.Cedar.OpenVpn.Packet
import SoftEther.Mayaqua.Fifo
import SoftEther.Mayaqua.List

/-!
# OpenVPN sessions

One session of the OpenVPN server of `Interop_OpenVPN.c` with its eight channels: the
control packets it receives, the work that `OvsRecvPacket` does for each channel, and the
connection to the virtual hub.  OpenSSL and the thread that connects to the hub are
outside: what they do comes with the events.  The session parameters, the clear text that
goes back to the client and the clocks are left out.
-/

namespace SoftEther
namespace OpenVpn

def OPENVPN_NUM_CHANNELS : Nat := 8

def OPENVPN_MAX_SSL_RECV_BUF_SIZE : Nat := 256 * 1024

def OPENVPN_CONTROL_PACKET_MAX_DATASIZE : Nat := 1200

def OPENVPN_CONTROL_PACKET_RESEND_INTERVAL : Nat := 500

def OPENVPN_MAX_PACKET_ID_FOR_TRIGGER_REKEY : UInt32 := 0xFF000000

def MAX_SIZE : Nat := 512

/-- `OPENVPN_CHANNEL_STATUS_*`. -/
inductive ChannelStatus
  | init
  | tlsWaitClientKey
  | tlsWaitClientPushRequest
  | tlsVpnConnecting
  | established
  | disconnected
  deriving DecidableEq

/-- `SSL_PIPE`, as far as data from the client flow through it. -/
structure SslPipe where
  /-- What OpenSSL has taken out of `RawIn->SendFifo` so far. -/
  taken : List UInt8 := []
  /-- `RawIn->SendFifo`. -/
  rawIn : Fifo UInt8 := .newFifo
  /-- `SslInOut->RecvFifo`. -/
  recvFifo : Fifo UInt8 := .newFifo
  isDisconnected : Bool := false
  deriving DecidableEq

/-- What OpenSSL does in one synchronisation. -/
structure TlsResult where
  /-- The number of bytes it takes. -/
  consumed : Nat := 0
  /-- The clear text it gives. -/
  decrypted : List UInt8 := []
  clientCert : Option (List UInt8) := none
  /-- The pipe fails. -/
  disconnected : Bool := false
  deriving DecidableEq

def syncSslPipe (pipe : SslPipe) (tls : TlsResult) : SslPipe :=
  if pipe.isDisconnected then pipe
  else
    { taken := pipe.taken ++ pipe.rawIn.peekFifo tls.consumed
      rawIn := pipe.rawIn.readFifo tls.consumed
      recvFifo := pipe.recvFifo.writeFifo tls.decrypted
      isDisconnected := tls.disconnected }

/-- `OPENVPN_KEY_METHOD_2` of a client. -/
structure KeyMethod2 where
  preMasterSecret : List UInt8 := []
  random1 : List UInt8 := []
  random2 : List UInt8 := []
  optionString : CString := .ofBuffer []
  username : CString := .ofBuffer []
  password : CString := .ofBuffer []
  peerInfo : CString := .ofBuffer []
  deriving DecidableEq

/-- `ReadBuf` of a block that has to be there. -/
def readBlock (b : List UInt8) (size : Nat) : Option (List UInt8 × List UInt8) :=
  let (block, read, b) := readBuf b size
  if read = size then some (block, b) else none

def ovsReadStringFromBuf (b : List UInt8) (strSize : Nat) : Option (CString × List UInt8) := do
  let (us, b) ← readBlock b 2
  let us := fromBigEndian us
  if us = 0 then return (.ofBuffer [], b)
  else if strSize < us then none
  else do
    let (str, b) ← readBlock b us
    if str.getD (us - 1) 0 ≠ 0 then none else return (.ofBuffer str, b)

/-- `OvsParseKeyMethod2` of a client's message: the message and `read_size`. -/
def ovsParseKeyMethod2 (data : List UInt8) : Option (KeyMethod2 × Nat) := do
  let (_, b) ← readBlock data 4
  let (uc, b) ← readBlock b 1
  if uc ≠ [2] then none
  else do
    let (preMasterSecret, b) ← readBlock b 48
    let (random1, b) ← readBlock b 32
    let (random2, b) ← readBlock b 32
    let (optionString, b) ← ovsReadStringFromBuf b 512
    let (username, b) ← ovsReadStringFromBuf b 512
    let (password, b) ← ovsReadStringFromBuf b 512
    let (peerInfo, b) ← ovsReadStringFromBuf b 1536
    return (⟨preMasterSecret, random1, random2, optionString, username, password, peerInfo⟩,
      data.length - b.length)

/-- `OvsPeekStringFromFifo` into `MAX_SIZE` bytes: the string and the size to read. -/
def ovsPeekStringFromFifo (f : Fifo UInt8) : Option (CString × Nat) :=
  let peeked := f.peekFifo MAX_SIZE
  if 0 ∈ peeked then some (.ofBuffer peeked, (CString.ofBuffer peeked).strLen + 1) else none

/-! ## Channels -/

/-- `OPENVPN_CONTROL_PACKET`. -/
structure ControlPacket where
  opCode : UInt8
  packetId : UInt32
  data : List UInt8
  nextSendTime : Nat := 0
  noResend : Bool := false
  numSent : Nat := 0
  deriving DecidableEq

/-- The part of `IPC_PARAM` that the hub authenticates. -/
structure IpcParam where
  userName : CString
  hubName : CString
  password : CString
  clientCertificate : Option (List UInt8)
  deriving DecidableEq

/-- `OPENVPN_CHANNEL`. -/
structure Channel where
  status : ChannelStatus := .init
  ackReplyList : MayaquaList UInt32 := {}
  maxRecvPacketId : UInt32 := 0
  nextSendPacketId : UInt32 := 0
  /-- `SendControlPacketList`, which is not sorted. -/
  sendControlPacketList : List ControlPacket := []
  sslPipe : Option SslPipe := none
  clientKey : KeyMethod2 := {}
  /-- `ClientCert.X`. -/
  clientCert : Option (List UInt8) := none
  lastDataPacketId : UInt32 := 0
  keyId : UInt8
  isRekeyChannel : Bool := false
  isInitiatorServer : Bool := false
  rekeyInitiated : Bool := false
  /-- A record for the proofs: the parameters of the connection to the hub that the channel
  was established with. -/
  grantedBy : Option IpcParam := none
  deriving DecidableEq

namespace Channel

/-- `OvsSendControlPacketEx`. -/
def sendControlPacketEx (c : Channel) (opCode : UInt8) (data : List UInt8) (noResend : Bool) :
    Channel :=
  { c with
    nextSendPacketId := c.nextSendPacketId + 1
    sendControlPacketList := c.sendControlPacketList ++
      [{ opCode := opCode, packetId := c.nextSendPacketId, data := data,
         noResend := noResend }] }

/-- `OvsSendControlPacket`. -/
def sendControlPacket (c : Channel) (opCode : UInt8) (data : List UInt8) : Channel :=
  c.sendControlPacketEx opCode data false

/-- `OvsSendControlPacketWithAutoSplit`; a packet takes at least a byte, so the length of
the data bounds their number. -/
def sendControlPacketWithAutoSplit (c : Channel) (opCode : UInt8) (data : List UInt8) :
    Channel :=
  (data.toChunks OPENVPN_CONTROL_PACKET_MAX_DATASIZE).foldl
    (fun c tmp => c.sendControlPacket opCode tmp) c

/-- `OvsDeleteFromSendingControlPacketList`. -/
def deleteFromSendingControlPacketList (c : Channel) (acks : List UInt32) : Channel :=
  { c with
    sendControlPacketList := c.sendControlPacketList.filter fun p => p.packetId ∉ acks }

/-- `InsertIntDistinct` into the list of acknowledgements. -/
def insertAck (c : Channel) (packetId : UInt32) : Channel :=
  if packetId ∈ c.ackReplyList.items then c
  else { c with ackReplyList := c.ackReplyList.insert compare packetId }

/-- `OvsGetAckReplyList`. -/
def getAckReplyList (c : Channel) : List UInt32 × Channel :=
  (c.ackReplyList.items.take OPENVPN_MAX_NUMACK,
    { c with ackReplyList :=
        { c.ackReplyList with items := c.ackReplyList.items.drop OPENVPN_MAX_NUMACK } })

/-- `SyncSslPipe` of a channel that has a pipe. -/
def sync (c : Channel) (tls : TlsResult) : Channel :=
  match c.sslPipe with
  | none => c
  | some pipe =>
      { c with
        sslPipe := some (syncSslPipe pipe tls)
        clientCert := tls.clientCert.or c.clientCert }

/-- The data of a control packet poured into the SSL pipe, which is made when there is
none. -/
def pour (c : Channel) (data : List UInt8) (tls : TlsResult) : Channel :=
  let pipe := c.sslPipe.getD {}
  if pipe.isDisconnected then { c with sslPipe := some pipe }
  else
    let pipe :=
      if pipe.rawIn.fifoSize < OPENVPN_MAX_SSL_RECV_BUF_SIZE then
        { pipe with rawIn := pipe.rawIn.writeFifo data }
      else pipe
    { c with sslPipe := some pipe }.sync tls

/-- The `recv_fifo` of `OvsProcessRecvControlPacket`. -/
def recvFifo (c : Channel) : Fifo UInt8 :=
  match c.sslPipe with
  | none => .newFifo
  | some pipe => if pipe.isDisconnected then .newFifo else pipe.recvFifo

/-- `ReadFifo(recv_fifo, NULL, read_size)`. -/
def readRecvFifo (c : Channel) (size : Nat) : Channel :=
  { c with
    sslPipe := c.sslPipe.map fun pipe => { pipe with recvFifo := pipe.recvFifo.readFifo size } }

end Channel

/-- `IPC`: a connection to a hub. -/
structure Ipc where
  /-- `IsIPCConnected`. -/
  connected : Bool := true
  /-- The packets sent by `IPCSendL2` and `IPCSendIPv4`. -/
  sent : List (List UInt8) := []
  deriving DecidableEq

/-- `IPC_ASYNC`: a connection to a hub that a thread makes. -/
structure IpcAsync where
  param : IpcParam
  done : Bool := false
  ipc : Option Ipc := none
  deriving DecidableEq

/-- `OPENVPN_SESSION`. -/
structure Session where
  serverSessionId : UInt64
  clientSessionId : UInt64 := 0
  channels : Fin OPENVPN_NUM_CHANNELS → Option Channel := fun _ => none
  lastCreatedChannelIndex : Nat := 0
  ipcAsync : Option IpcAsync := none
  ipc : Option Ipc := none
  established : Bool := false
  accepted : List IpcParam := []

namespace Session

def setChannel (se : Session) (j : Fin OPENVPN_NUM_CHANNELS) (c : Channel) : Session :=
  { se with channels := Function.update se.channels j (some c) }

/-- `OvsNewChannel` into its place among the channels. -/
def newChannel (se : Session) (j : Fin OPENVPN_NUM_CHANNELS) (c : Channel) : Session :=
  { se.setChannel j c with lastCreatedChannelIndex := j }

/-- `IsIPCConnected(se->Ipc)`. -/
def isIPCConnected (se : Session) : Bool :=
  match se.ipc with
  | none => false
  | some ipc => ipc.connected

end Session

/-- The index of the channel with a key id, of which the packet has three bits. -/
def channelIndex (keyId : UInt8) : Fin OPENVPN_NUM_CHANNELS :=
  ⟨keyId.toNat % OPENVPN_NUM_CHANNELS, Nat.mod_lt _ (by decide)⟩

/-! ## Control packets -/

/-- `StrCpy` into a buffer of `MAX_SIZE` bytes. -/
def copyName (str : CString) : CString where
  bytes := str.bytes.take (MAX_SIZE - 1)
  noNul := fun listed => str.noNul (List.mem_of_mem_take listed)

def isEmptyStr (str : CString) : Bool :=
  trim str.bytes = []

section

-- `PPPParseUsername`, which looks at the hubs of the server: the user name and the hub name.
variable (pppParseUsername : CString → CString × CString)

/-- The authentication of the parameters that `OvsBeginIPCAsyncConnectionIfEmpty` builds. -/
def ipcParam (c : Channel) : IpcParam where
  userName := (pppParseUsername c.clientKey.username).1
  hubName := (pppParseUsername c.clientKey.username).2
  password := copyName c.clientKey.password
  clientCertificate :=
    if isEmptyStr c.clientKey.username ∨ isEmptyStr c.clientKey.password then c.clientCert
    else none

def ovsBeginIPCAsyncConnectionIfEmpty (se : Session) (c : Channel) : Session :=
  let se := if se.isIPCConnected then se else { se with ipc := none }
  if se.ipcAsync = none then
    { se with ipcAsync := some { param := ipcParam pppParseUsername c } }
  else se

/-- The state machine of `OvsProcessRecvControlPacket`: what a control packet does to the
session and to its channel once its data are in the SSL pipe. -/
def advance (se : Session) (c : Channel) (p : Packet) : Session × Channel :=
  match c.status with
  | .init =>
      if p.opCode = OPENVPN_P_CONTROL_SOFT_RESET_V1 then
        if se.established then
          -- Key update (soft reset)
          let c :=
            if c.isInitiatorServer then c
            else c.sendControlPacket OPENVPN_P_CONTROL_SOFT_RESET_V1 []
          (se, { c with status := .tlsWaitClientKey, isRekeyChannel := true })
        else (se, c)
      else if p.opCode = OPENVPN_P_CONTROL_HARD_RESET_CLIENT_V2 then
        -- New connection (hard reset)
        (se, { c.sendControlPacketEx OPENVPN_P_CONTROL_HARD_RESET_SERVER_V2 [] true with
          status := .tlsWaitClientKey })
      else (se, c)
  | .tlsWaitClientKey =>
      match ovsParseKeyMethod2 c.recvFifo.contents with
      | none => (se, c)
      | some (data, readSize) =>
          (se, { c.readRecvFifo readSize with
            clientKey := data
            status :=
              if c.isRekeyChannel then .established else .tlsWaitClientPushRequest })
  | .tlsWaitClientPushRequest =>
      match ovsPeekStringFromFifo c.recvFifo with
      | none => (se, c)
      | some (tmp, readSize) =>
          let c := c.readRecvFifo readSize
          if startWith tmp (.ofBuffer (ascii "PUSH_REQUEST")) then
            (ovsBeginIPCAsyncConnectionIfEmpty pppParseUsername se c,
              { c with status := .tlsVpnConnecting })
          else (se, c)
  | .tlsVpnConnecting | .established =>
      match ovsPeekStringFromFifo c.recvFifo with
      | none => (se, c)
      | some (_, readSize) => (se, c.readRecvFifo readSize)
  | .disconnected => (se, c)

def ovsProcessRecvControlPacket (se : Session) (c : Channel) (p : Packet) (tls : TlsResult) :
    Session × Channel :=
  advance pppParseUsername se
    (if p.opCode = OPENVPN_P_CONTROL_V1 then c.pour p.data tls else c) p

/-- The packet asks for a new channel. -/
def isReset (p : Packet) : Bool :=
  p.opCode = OPENVPN_P_CONTROL_HARD_RESET_CLIENT_V2 ∨
    p.opCode = OPENVPN_P_CONTROL_SOFT_RESET_V1

/-- What a control packet does to the channel it belongs to. -/
def recvOnChannel (se : Session) (c : Channel) (p : Packet) (tls : TlsResult) :
    Session × Channel :=
  let c := c.deleteFromSendingControlPacketList p.ackPacketId
  if p.opCode = OPENVPN_P_ACK_V1 then (se, c)
  else
    let c := c.insertAck p.packetId
    if c.maxRecvPacketId < p.packetId ∨ isReset p then
      ovsProcessRecvControlPacket pppParseUsername se
        { c with maxRecvPacketId := p.packetId } p tls
    else (se, c)

/-- A data packet on an established channel, whose clear text goes to the hub. -/
def recvData (se : Session) (p : Packet) (clearText : Option (List UInt8)) : Session :=
  match se.channels (channelIndex p.keyId) with
  | none => se
  | some c =>
      if c.status = .established then
        match clearText with
        | none => se
        | some data =>
            { se with ipc := se.ipc.map fun ipc => { ipc with sent := ipc.sent ++ [data] } }
      else se

/-- `OvsProceccRecvPacket` for a packet of the session; `clearText` is what decryption makes
of a data packet that is no ping. -/
def ovsProceccRecvPacket
    (se : Session)
    (p : Packet)
    (tls : TlsResult)
    (clearText : Option (List UInt8)) :
    Session :=
  let j := channelIndex p.keyId
  if p.opCode = OPENVPN_P_DATA_V1 then recvData se p clearText
  else
    let se :=
      if isReset p then
        { se.newChannel j { keyId := p.keyId } with
          clientSessionId :=
            if se.clientSessionId = 0 then p.mySessionId else se.clientSessionId }
      else se
    match se.channels j with
    | none => se
    | some c =>
        let (se, c) := recvOnChannel pppParseUsername se c p tls
        se.setChannel j c

/-! ## The work for each channel -/

/-- What comes from outside when `OvsRecvPacket` works on a channel. -/
structure ChannelInput where
  /-- What OpenSSL does. -/
  tls : TlsResult := {}
  /-- What OpenSSL has put into `RawOut->RecvFifo`. -/
  rawOut : List UInt8 := []
  deriving DecidableEq

/-- A soft reset by the server: a new channel in the next place. -/
def initiateRekey (se : Session) (j : Fin OPENVPN_NUM_CHANNELS) (c : Channel) : Session :=
  if c.rekeyInitiated = false ∧
      OPENVPN_MAX_PACKET_ID_FOR_TRIGGER_REKEY ≤ c.lastDataPacketId then
    let next : Nat :=
      if OPENVPN_NUM_CHANNELS ≤ se.lastCreatedChannelIndex + 1 then 1
      else se.lastCreatedChannelIndex + 1
    let se := se.setChannel j { c with rekeyInitiated := true }
    se.newChannel (channelIndex (UInt8.ofNat next))
      (({ keyId := UInt8.ofNat next, isInitiatorServer := true } :
        Channel).sendControlPacket OPENVPN_P_CONTROL_SOFT_RESET_V1 [])
  else se

/-- The connection to the hub is looked at. -/
def checkConnection (se : Session) (c : Channel) : Session × Channel :=
  match c.status with
  | .tlsVpnConnecting =>
      match se.ipcAsync with
      | none => (se, c)
      | some ipcAsync =>
          if ipcAsync.done then
            match ipcAsync.ipc with
            | some ipc =>
                -- Successful in VPN connection
                ({ se with
                    ipc := some ipc
                    ipcAsync := some { ipcAsync with ipc := none }
                    established := true },
                  { c with status := .established, grantedBy := some ipcAsync.param })
            | none =>
                -- Failed to connect VPN
                ({ se with ipcAsync := none }, { c with status := .disconnected })
          else (se, c)
  | .established =>
      if se.isIPCConnected then (se, c)
      else ({ se with established := false }, { c with status := .disconnected })
  | _ => (se, c)

/-- What OpenSSL has to send becomes control packets. -/
def sendRawOut (c : Channel) (input : ChannelInput) : Channel :=
  let c := c.sync input.tls
  match c.sslPipe with
  | none => c
  | some pipe =>
      if pipe.isDisconnected then c
      else c.sendControlPacketWithAutoSplit OPENVPN_P_CONTROL_V1 input.rawOut

/-- The transmission of the control packets that are due: the packets sent, the control
packets after it and the channel with fewer acknowledgements to reply. -/
def transmit (now : Nat) (se : Session) (c : Channel) :
    List ControlPacket → List Packet × List ControlPacket × Channel
  | [] => ([], [], c)
  | cp :: rest =>
      if cp.nextSendTime ≤ now ∧ (cp.noResend = false ∨ cp.numSent = 0) then
        let (acks, c) := c.getAckReplyList
        let (packets, rest, c) := transmit now se c rest
        ({ opCode := cp.opCode, keyId := c.keyId, mySessionId := se.serverSessionId,
           ackPacketId := acks, yourSessionId := se.clientSessionId,
           packetId := cp.packetId, data := cp.data } :: packets,
          { cp with
            numSent := cp.numSent + 1
            nextSendTime := now + OPENVPN_CONTROL_PACKET_RESEND_INTERVAL } :: rest, c)
      else
        let (packets, rest, c) := transmit now se c rest
        (packets, cp :: rest, c)

/-- The control packets that are due and a packet for the acknowledgements left over. -/
def reply (now : Nat) (se : Session) (c : Channel) : List Packet × Channel :=
  let (packets, rest, c) := transmit now se c c.sendControlPacketList
  let (acks, c) := { c with sendControlPacketList := rest }.getAckReplyList
  if acks = [] then (packets, c)
  else
    (packets ++ [{ opCode := OPENVPN_P_ACK_V1, keyId := c.keyId,
                   mySessionId := se.serverSessionId, ackPacketId := acks,
                   yourSessionId := se.clientSessionId }], c)

/-- The work of `OvsRecvPacket` for a channel: the packets sent and the session. -/
def workOnChannel
    (now : Nat)
    (se : Session)
    (j : Fin OPENVPN_NUM_CHANNELS)
    (input : ChannelInput) :
    List Packet × Session :=
  match se.channels j with
  | none => ([], se)
  | some c =>
      let se := initiateRekey se j c
      match se.channels j with
      | none => ([], se)
      | some c =>
          let (se, c) := checkConnection se c
          let (packets, c) := reply now se (sendRawOut c input)
          (packets, se.setChannel j c)

/-- The work of `OvsRecvPacket` for all channels of a session. -/
def workOnChannels
    (now : Nat)
    (inputs : Fin OPENVPN_NUM_CHANNELS → ChannelInput)
    (se : Session) :
    Session :=
  (List.finRange OPENVPN_NUM_CHANNELS).foldl
    (fun se j => (workOnChannel now se j (inputs j)).2) se

/-- What happens to a session. -/
inductive Event
  | packet (p : Packet) (tls : TlsResult) (clearText : Option (List UInt8))
  /-- `OvsRecvPacket` works on the channels. -/
  | interrupt (now : Nat) (inputs : Fin OPENVPN_NUM_CHANNELS → ChannelInput)
  | dataSent (j : Fin OPENVPN_NUM_CHANNELS) (count : UInt32)
  /-- The thread that connects to the hub ends, with a connection when the hub accepts its
  parameters. -/
  | ipcDone (accepted : Bool)
  /-- The connection to the hub breaks. -/
  | ipcDisconnected

/-- The end of `IPCAsyncThreadProc`. -/
def ipcDone (se : Session) (accepted : Bool) : Session :=
  match se.ipcAsync with
  | none => se
  | some ipcAsync =>
      if ipcAsync.done then se
      else if accepted then
        { se with
          ipcAsync := some { ipcAsync with done := true, ipc := some {} }
          accepted := se.accepted ++ [ipcAsync.param] }
      else { se with ipcAsync := some { ipcAsync with done := true } }

/-- `OvsSendDataPacket` on an established channel numbers its packets. -/
def dataSent (se : Session) (j : Fin OPENVPN_NUM_CHANNELS) (count : UInt32) : Session :=
  match se.channels j with
  | none => se
  | some c =>
      if c.status = .established ∧ se.established then
        se.setChannel j { c with lastDataPacketId := c.lastDataPacketId + count }
      else se

def step (se : Session) : Event → Option Session
  | .packet p tls clearText => some (ovsProceccRecvPacket pppParseUsername se p tls clearText)
  | .interrupt now inputs => some (workOnChannels now inputs se)
  | .dataSent j count => some (dataSent se j count)
  | .ipcDone accepted => some (ipcDone se accepted)
  | .ipcDisconnected =>
      some { se with ipc := se.ipc.map fun ipc => { ipc with connected := false } }

end

end OpenVpn
end SoftEther
