import SoftEther.Cedar.Sstp.Packet
import SoftEther.Mayaqua.Fifo

/-!
# The SSTP server

`SSTP_SERVER` of `Interop_SSTP.c`: what it does with a packet, in a timer interrupt, and in a
round of the loop that feeds it from an SSL connection.
-/

namespace SoftEther
namespace Sstp

open Library
open Pointer

def SSTP_MSG_CALL_CONNECT_REQUEST : UInt16 := 0x0001

def SSTP_MSG_CALL_CONNECT_ACK : UInt16 := 0x0002

def SSTP_MSG_CALL_CONNECT_NAK : UInt16 := 0x0003

def SSTP_MSG_CALL_CONNECTED : UInt16 := 0x0004

def SSTP_MSG_CALL_ABORT : UInt16 := 0x0005

def SSTP_MSG_CALL_DISCONNECT : UInt16 := 0x0006

def SSTP_MSG_CALL_DISCONNECT_ACK : UInt16 := 0x0007

def SSTP_MSG_ECHO_REQUEST : UInt16 := 0x0008

def SSTP_ATTRIB_ENCAPSULATED_PROTOCOL_ID : UInt8 := 0x01

def SSTP_ATTRIB_STATUS_INFO : UInt8 := 0x02

def SSTP_ATTRIB_CRYPTO_BINDING_REQ : UInt8 := 0x04

def SSTP_ENCAPSULATED_PROTOCOL_PPP : Nat := 0x0001

def CERT_HASH_PROTOCOL_SHA256 : UInt8 := 0x02

def ATTRIB_STATUS_VALUE_NOT_SUPPORTED : UInt32 := 0x00000004

def SSTP_NONCE_SIZE : Nat := 32

def SSTP_ECHO_SEND_INTERVAL_MIN : Nat := 2500

def SSTP_ECHO_SEND_INTERVAL_MAX : Nat := 4792

def SSTP_TIMEOUT : Nat := 10000

def MAX_BUFFERING_PACKET_SIZE : Nat := 1600 * 1600

inductive Status where
  /-- `SSTP_SERVER_STATUS_REQUEST_PENGING`. -/
  | requestPenging
  /-- `SSTP_SERVER_STATUS_CONNECTED_PENDING`. -/
  | connectedPending
  /-- `SSTP_SERVER_STATUS_ESTABLISHED`. -/
  | established
  deriving DecidableEq

/-- `BLOCK` of the transmission queue. -/
structure Block where
  buf : List UInt8
  priorityQoS : Bool
  deriving DecidableEq

/-- `SSTP_SERVER`. -/
structure Server where
  now : Nat := 0
  recvQueue : List (List UInt8) := []
  sendQueue : List Block := []
  aborting : Bool := false
  abortSent : Bool := false
  abortReceived : Bool := false
  disconnecting : Bool := false
  disconnectSent : Bool := false
  disconnectRecved : Bool := false
  disconnected : Bool := false
  status : Status := .requestPenging
  sentNonce : List UInt8 := List.replicate SSTP_NONCE_SIZE 0
  /-- What has been sent into `TubeRecv`, which leads to the PPP module, the oldest first. -/
  tubeRecv : List (List UInt8) := []
  /-- `PPPThread` is there: `NewPPPSession` has been called. -/
  pppThread : Bool := false
  nextSendEchoRequestTick : Nat := 0
  lastRecvTick : Nat := 0
  flushRecvTube : Bool := false
  establishedCount : Nat := 0
  deriving DecidableEq

def newSstpServer (tick : Nat) : Server :=
  { now := tick, lastRecvTick := tick }

def sstpNewAttribute (attributeId : UInt8) (data : List UInt8) : Attribute :=
  { attributeId := attributeId, data := data }

def sstpNewStatusInfoAttribute (attribId : UInt8) (status : UInt32) : Attribute :=
  sstpNewAttribute SSTP_ATTRIB_STATUS_INFO ([0, 0, 0, attribId] ++ writeBufInt status)

def sstpNewCryptoBindingRequestAttribute (hashProtocolBitmask : UInt8)
    (nonce32Bytes : List UInt8) : Attribute :=
  sstpNewAttribute SSTP_ATTRIB_CRYPTO_BINDING_REQ ([0, 0, 0, hashProtocolBitmask] ++ nonce32Bytes)

def sstpNewControlPacket (messageType : UInt16) : Packet :=
  { version := SSTP_VERSION_1, isControl := true, messageType := messageType }

def sstpNewControlPacketWithAnAttribute (messageType : UInt16) (a : Attribute) : Packet :=
  { sstpNewControlPacket messageType with attibuteList := [a] }

def sstpNewDataPacket (data : List UInt8) : Packet :=
  { isControl := false, data := data }

def sstpFindAttribute (p : Packet) (attributeId : UInt8) : Option Attribute :=
  p.attibuteList.find? fun a => a.attributeId = attributeId

def sstpSendPacket (p : Packet) (s : Server) : Server :=
  { s with sendQueue := s.sendQueue ++ [⟨sstpBuildPacket p, p.isControl⟩] }

def sstpDisconnect (s : Server) : Server :=
  { s with disconnecting := true }

def sstpAbort (s : Server) : Server :=
  { s with aborting := true }

def requestsPpp (p : Packet) : Bool :=
  match sstpFindAttribute p SSTP_ATTRIB_ENCAPSULATED_PROTOCOL_ID with
  | none => false
  | some protocolId =>
      protocolId.data.length = 2 && fromBigEndian protocolId.data = SSTP_ENCAPSULATED_PROTOCOL_PPP

/-- `SSTP_MSG_CALL_CONNECT_REQUEST`; the nonce is what `Rand` gives. -/
def processConnectRequest (nonce : List UInt8) (p : Packet) (s : Server) : Server :=
  if s.aborting = false ∧ s.disconnecting = false then
    if s.status = .requestPenging then
      if requestsPpp p then
        let s := sstpSendPacket (sstpNewControlPacketWithAnAttribute SSTP_MSG_CALL_CONNECT_ACK
          (sstpNewCryptoBindingRequestAttribute CERT_HASH_PROTOCOL_SHA256 nonce))
          { s with sentNonce := nonce }
        { s with
          status := .connectedPending
          establishedCount := addUINT s.establishedCount 1 }
      else
        sstpSendPacket (sstpNewControlPacketWithAnAttribute SSTP_MSG_CALL_CONNECT_NAK
          (sstpNewStatusInfoAttribute SSTP_ATTRIB_ENCAPSULATED_PROTOCOL_ID
            ATTRIB_STATUS_VALUE_NOT_SUPPORTED)) s
    else s
  else s

/-- `SSTP_MSG_CALL_CONNECTED`. -/
def processConnected (s : Server) : Server :=
  if s.aborting = false ∧ s.disconnecting = false then
    if s.status = .connectedPending then { s with status := .established } else s
  else s

def sstpProcessControlPacket (nonce : List UInt8) (p : Packet) (s : Server) : Server :=
  if p.messageType = SSTP_MSG_CALL_CONNECT_REQUEST then processConnectRequest nonce p s
  else if p.messageType = SSTP_MSG_CALL_CONNECTED then processConnected s
  else if p.messageType = SSTP_MSG_CALL_DISCONNECT ∨
      p.messageType = SSTP_MSG_CALL_DISCONNECT_ACK then
    sstpDisconnect { s with disconnectRecved := true }
  else if p.messageType = SSTP_MSG_CALL_ABORT then sstpAbort { s with abortReceived := true }
  else s

def sstpProcessDataPacket (p : Packet) (s : Server) : Server :=
  { s with
    pppThread := true
    tubeRecv := s.tubeRecv ++ [p.data]
    flushRecvTube := true }

def sstpProcessPacket (nonce : List UInt8) (p : Packet) (s : Server) : Server :=
  let s := { s with lastRecvTick := s.now }
  if p.isControl then sstpProcessControlPacket nonce p s else sstpProcessDataPacket p s

/-- A block of the reception queue is parsed and processed. -/
def processBlock (nonce : List UInt8) (s : Server) (b : List UInt8) : Server :=
  match sstpParsePacket b b.length with
  | .error _ => sstpAbort s
  | .ok p => sstpProcessPacket nonce p s

def beginInterrupt (tick : Nat) (s : Server) : Server :=
  { s with now := tick, flushRecvTube := false }

/-- What a server meets behind the packets of an interrupt. -/
structure Surroundings where
  /-- What the PPP module has put into `TubeSend`. -/
  tubeSend : List (List UInt8) := []
  rand32 : Nat := 0
  /-- `IsTubeConnected` of both tubes. -/
  tubesConnected : Bool := true
  deriving DecidableEq

def sendEchoRequest (rand32 : Nat) (s : Server) : Server :=
  if s.status = .established ∧ s.disconnecting = false ∧ s.aborting = false ∧
      (s.nextSendEchoRequestTick = 0 ∨ s.nextSendEchoRequestTick ≤ s.now) then
    let nextInterval := SSTP_ECHO_SEND_INTERVAL_MIN +
      rand32 % (SSTP_ECHO_SEND_INTERVAL_MAX - SSTP_ECHO_SEND_INTERVAL_MIN)
    sstpSendPacket (sstpNewControlPacket SSTP_MSG_ECHO_REQUEST)
      { s with nextSendEchoRequestTick := addUINT64 s.now nextInterval }
  else s

def timedOut (lastRecvTick now : Nat) : Bool :=
  addUINT64 lastRecvTick SSTP_TIMEOUT ≤ now

def checkTimeout (s : Server) : Server :=
  if timedOut s.lastRecvTick s.now then { sstpAbort s with disconnected := true } else s

/-- The PPP module is disconnected. -/
def checkTubes (tubesConnected : Bool) (s : Server) : Server :=
  if tubesConnected then s else sstpDisconnect s

def sendDisconnect (s : Server) : Server :=
  if s.disconnecting ∧ s.disconnectSent = false then
    let s := sstpSendPacket (sstpNewControlPacket
      (if s.disconnectRecved then SSTP_MSG_CALL_DISCONNECT_ACK else SSTP_MSG_CALL_DISCONNECT)) s
    { s with disconnectSent := true }
  else s

/-- The abnormal disconnection. -/
def sendAbort (s : Server) : Server :=
  if s.aborting ∧ s.abortSent = false then
    let s := sstpSendPacket (sstpNewControlPacket SSTP_MSG_CALL_ABORT) s
    { s with abortSent := true }
  else s

/-- The peers have told each other that they disconnect. -/
def checkDisconnected (s : Server) : Server :=
  if (s.disconnectSent ∧ s.disconnectRecved) ∨ (s.abortSent ∧ s.abortReceived) then
    { s with disconnected := true }
  else s

/-- What an interrupt does behind the packets. -/
def finishInterrupt (around : Surroundings) (s : Server) : Server :=
  let s := around.tubeSend.foldl (fun s d => sstpSendPacket (sstpNewDataPacket d) s) s
  checkDisconnected (sendAbort (sendDisconnect (checkTubes around.tubesConnected
    (checkTimeout (sendEchoRequest around.rand32 s)))))

/-- `SstpProcessInterrupt`.  At most one connection request is accepted, so one nonce is
enough. -/
def sstpProcessInterrupt (tick : Nat) (nonce : List UInt8) (around : Surroundings) (s : Server) :
    Server :=
  let s := beginInterrupt tick s
  let s := s.recvQueue.foldl (processBlock nonce) { s with recvQueue := [] }
  finishInterrupt around s

end Sstp
end SoftEther
