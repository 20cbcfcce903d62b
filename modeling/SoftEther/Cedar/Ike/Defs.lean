import SoftEther.Library.Faults
import SoftEther.Library.Runs
import SoftEther.Mayaqua.Buf
import SoftEther.Mayaqua.Network

/-!
# The IKE server

`IPsec_IKE.c` from the reception of a packet to the interrupts: the clients, the IKE SAs
and the IPsec SAs with the pointers between them.  Objects lie at addresses that are never
used twice, and following a pointer to an object that has been freed is a fault.

What a packet says once it has been parsed and its hash has been checked comes with the
event, so do the random numbers; ciphers and hashes are parameters.  Which timers have run
out at an interrupt is left open.  Packets that are sent are left out, but not the
pointers that are followed to send them.
-/

namespace SoftEther
namespace Ike

open Library Network

def IKE_ESP_HASH_SIZE : Nat := 12

def IKE_MAX_HASH_SIZE : Nat := 64

def IKE_QUOTA_MAX_NUM_CLIENTS_PER_IP : Nat := 1000

def IKE_QUOTA_MAX_NUM_CLIENTS : Nat := 30000

def IKE_QUOTA_MAX_SA_PER_CLIENT : Nat := 100

def IPSEC_PORT_IPSEC_ESP_UDP : UInt32 := 4500

def isSpecialPort (port : UInt32) : Bool :=
  port &&& 0x10000 ≠ 0

/-! ## Data -/

/-- How the server would stop. -/
inductive Fault where
  /-- An `IKE_CLIENT` that has been freed is read or written. -/
  | danglingClient
  /-- An `IKE_SA` that has been freed, or `NULL` in its place, is read or written. -/
  | danglingIkeSa
  /-- An `IPSECSA` that has been freed is read or written. -/
  | danglingIPsecSa
  /-- `IkeDecrypt` reads the key at `NULL`. -/
  | nullKey
  /-- The packet that `IkeParse` has not made is read. -/
  | nullPacket
  /-- A loop has not come to an end. -/
  | endless
  deriving DecidableEq

/-- The addresses and ports of a client and of the server. -/
structure Endpoint where
  clientIP : Ip
  clientPort : UInt32
  serverIP : Ip
  serverPort : UInt32
  deriving DecidableEq

/-- The endpoint with its two sides exchanged. -/
def Endpoint.swapped (endpoint : Endpoint) : Endpoint where
  clientIP := endpoint.serverIP
  clientPort := endpoint.serverPort
  serverIP := endpoint.clientIP
  serverPort := endpoint.clientPort

/-- `CmpIpAddr` finds no difference. -/
def sameIp (left right : Ip) : Bool :=
  left.addr = right.addr ∧ left.ipv6Addr = right.ipv6Addr

/-- `CmpIkeClient` finds no difference. -/
def sameEndpoint (left right : Endpoint) : Bool :=
  sameIp left.clientIP right.clientIP ∧ sameIp left.serverIP right.serverIP ∧
    left.clientPort = right.clientPort ∧ left.serverPort = right.serverPort

inductive CapsuleMode where
  | tunnel
  | transport
  | natTunnel1
  | natTunnel2
  | natTransport1
  | natTransport2
  deriving DecidableEq

structure IkeCrypto where
  blockSize : Nat
  keySizes : List Nat
  deriving DecidableEq

/-- `IPSEC_SA_TRANSFORM_SETTING`, as `TransformPayloadToTransformSettingForIPsecSa` makes
it. -/
structure TransformSetting where
  crypto : IkeCrypto
  cryptoKeySize : Nat
  /-- `HashSize` of `Hash`. -/
  hashSize : Nat
  /-- `Dh` is not `NULL`. -/
  dh : Bool
  lifeKilobytes : Nat
  spiServerToClient : UInt32
  capsuleMode : CapsuleMode
  /-- `IkeCheckKeySize` has accepted the size of the key. -/
  keySizeChecked : cryptoKeySize ≠ 0 ∧ cryptoKeySize ∈ crypto.keySizes

structure IkeClient where
  /-- Where the client lies in memory. -/
  address : Nat
  /-- `ClientIP`, `ClientPort`, `ServerIP` and `ServerPort`. -/
  endpoint : Endpoint
  currentIkeSa : Option Nat := none
  currentIpSecSaRecv : Option Nat := none
  currentIpSecSaSend : Option Nat := none
  firstCommTick : Nat
  lastCommTick : Nat
  deleting : Bool := false
  /-- `CachedTransformSetting`, or nothing while it is zero. -/
  cachedTransformSetting : Option TransformSetting := none
  startQuickModeAsSoon : Bool := false
  /-- `L2TP` is not `NULL`. -/
  l2tp : Bool := false
  /-- `EtherIP` is not `NULL`. -/
  etherIP : Bool := false

/-- `Mode` of an IKE SA. -/
inductive Mode where
  | main
  | aggressive
  deriving DecidableEq

/-- `State` of an IKE SA; aggressive mode does not have the second one. -/
inductive State where
  | sa
  | key
  | established
  deriving DecidableEq

structure IkeSa where
  /-- Where the SA lies in memory. -/
  address : Nat
  ikeClient : Nat
  initiatorCookie : UInt64
  responderCookie : UInt64
  mode : Mode
  state : State := .sa
  lastCommTick : Nat
  /-- `SKEYID_d`, once `IkeCalcSaKeySet` has made it and `CryptoKey`. -/
  skeyidD : Option (List UInt8) := none
  established : Bool := false
  deleting : Bool := false
  /-- `Caps.DpdRfc3706`. -/
  dpdRfc3706 : Bool
  deriving DecidableEq

structure IPsecSa where
  /-- Where the SA lies in memory. -/
  address : Nat
  ikeClient : Nat
  ikeSa : Option Nat
  messageId : UInt32
  spi : UInt32
  lastCommTick : Nat
  totalSize : Nat := 0
  transformSetting : TransformSetting
  serverToClient : Bool
  pairIPsecSa : Option Nat := none
  established : Bool := false
  initiatorRand : List UInt8
  /-- `KeyMat`, once `IPsecCalcKeymat` has made it. -/
  keyMat : Option (List UInt8) := none
  hashKey : List UInt8 := List.replicate IKE_MAX_HASH_SIZE 0
  cryptoKey : Option (List UInt8) := none
  deleting : Bool := false
  initiated : Bool
  startQMFlagSet : Bool := false
  skeyidD : List UInt8

structure IkeServer where
  now : Nat := 0
  clientList : List IkeClient := []
  ikeSaList : List IkeSa := []
  ipsecSaList : List IPsecSa := []
  stateHasChanged : Bool := false
  nextAddress : Nat := 0

/-- A virtual server that decrypted packets go to. -/
inductive Service where
  | l2tp
  | etherIP
  deriving DecidableEq

/-- The algorithms that the server uses, and the parsers of what it decrypts. -/
structure Algorithms where
  /-- `IPsecCalcKeymat` from `SKEYID_d`, an SPI, the random numbers and the shared key. -/
  calcKeymat : List UInt8 → UInt32 → List UInt8 → List UInt8 → List UInt8 → List UInt8
  /-- `IkeHMac` of a key and data. -/
  hmac : List UInt8 → List UInt8 → List UInt8
  /-- `IkeCryptoDecrypt` of a key, an IV and data. -/
  decrypt : List UInt8 → List UInt8 → List UInt8 → List UInt8
  /-- The server that a payload goes to, in tunnel mode or not, by the next header. -/
  service : Bool → UInt8 → List UInt8 → Option Service

namespace IkeServer

variable (ike : IkeServer)

/-- Reading an `IKE_CLIENT`. -/
def ikeClient (c : Nat) : Except Fault IkeClient :=
  follow IkeClient.address .danglingClient ike.clientList c

/-- Reading an `IKE_SA`. -/
def ikeSa (sa : Nat) : Except Fault IkeSa :=
  follow IkeSa.address .danglingIkeSa ike.ikeSaList sa

/-- Reading an `IPSECSA`. -/
def ipsecSa (sa : Nat) : Except Fault IPsecSa :=
  follow IPsecSa.address .danglingIPsecSa ike.ipsecSaList sa

/-- Writing an `IKE_CLIENT`. -/
def setIkeClient (c : Nat) (change : IkeClient → IkeClient) : IkeServer :=
  { ike with clientList := writeAt IkeClient.address ike.clientList c change }

/-- Writing an `IKE_SA`. -/
def setIkeSa (sa : Nat) (change : IkeSa → IkeSa) : IkeServer :=
  { ike with ikeSaList := writeAt IkeSa.address ike.ikeSaList sa change }

/-- Writing an `IPSECSA`. -/
def setIPsecSa (sa : Nat) (change : IPsecSa → IPsecSa) : IkeServer :=
  { ike with ipsecSaList := writeAt IPsecSa.address ike.ipsecSaList sa change }

/-- The `IKE_SA` of an `IPSECSA` is read. -/
def readIkeSaOf (sa : IPsecSa) : Except Fault Unit :=
  match sa.ikeSa with
  | none => .error .danglingIkeSa
  | some ikeSa => do
      let _ ← ike.ikeSa ikeSa
      pure ()

end IkeServer

section

variable (algorithms : Algorithms)
variable (ike : IkeServer)

def sendInformationalExchangePacketEx (c : Nat) (forcePlain : Bool) : Except Fault Unit := do
  let client ← ike.ikeClient c
  match client.currentIkeSa with
  | none => pure ()
  | some sa =>
      if forcePlain then pure ()
      else do
        let _ ← ike.ikeSa sa
        pure ()

/-- `IPsecSaSendPacket` with a packet. -/
def ipsecSaSendPacket (sa : Nat) : Except Fault Unit := do
  let sa ← ike.ipsecSa sa
  ike.readIkeSaOf sa
  match sa.pairIPsecSa with
  | none => pure ()
  | some pair => do
      let other ← ike.ipsecSa pair
      ike.readIkeSaOf other
  let _ ← ike.ikeClient sa.ikeClient
  pure ()

/-- `IkeSaSendPacket` with a packet. -/
def ikeSaSendPacket (sa : Nat) : Except Fault Unit := do
  let sa ← ike.ikeSa sa
  let _ ← ike.ikeClient sa.ikeClient
  pure ()

def markIkeClientAsDeleted (c : Nat) : Except Fault IkeServer := do
  let client ← ike.ikeClient c
  if client.deleting then pure ike
  else
    pure
      { ike.setIkeClient c fun client => { client with deleting := true } with
        stateHasChanged := true }

def markIkeSaAsDeleted (sa : Nat) : Except Fault IkeServer := do
  let ikeSa ← ike.ikeSa sa
  if ikeSa.deleting then pure ike
  else do
    let ike :=
      { ike.setIkeSa sa fun ikeSa => { ikeSa with deleting := true } with
        stateHasChanged := true }
    sendInformationalExchangePacketEx ike ikeSa.ikeClient false
    pure ike

def markIPsecSaAsDeleted (sa : Nat) : Except Fault IkeServer := do
  let ipsecSa ← ike.ipsecSa sa
  if ipsecSa.deleting then pure ike
  else do
    let ike :=
      { ike.setIPsecSa sa fun ipsecSa => { ipsecSa with deleting := true } with
        stateHasChanged := true }
    sendInformationalExchangePacketEx ike ipsecSa.ikeClient false
    pure ike

def findIkeSaByResponderCookie (responderCookie : UInt64) : Option IkeSa :=
  if responderCookie = 0 then none
  else ike.ikeSaList.find? fun sa => sa.responderCookie = responderCookie

def findIkeSaByResponderCookieAndClient (responderCookie : UInt64) (c : Nat) :
    Option IkeSa :=
  match findIkeSaByResponderCookie ike responderCookie with
  | none => none
  | some sa => if sa.ikeClient ≠ c then none else some sa

def searchIkeSaByCookie (initCookie respCookie : UInt64) : Option IkeSa :=
  ike.ikeSaList.find? fun sa =>
    sa.initiatorCookie = initCookie ∧ sa.responderCookie = respCookie

/-- The loop of `FindIkeSaByEndPointAndInitiatorCookie`. -/
def findIkeSaByEndPoint
    (endpoint : Endpoint)
    (initCookie : UInt64)
    (mode : Mode) :
    List IkeSa → Except Fault (Option IkeSa)
  | [] => pure none
  | sa :: rest => do
      let c ← ike.ikeClient sa.ikeClient
      if sameEndpoint c.endpoint endpoint ∧ sa.initiatorCookie = initCookie ∧
          sa.mode = mode then pure (some sa)
      else findIkeSaByEndPoint endpoint initCookie mode rest

def searchIPsecSaByMessageId (c : Nat) (messageId : UInt32) : Option IPsecSa :=
  ike.ipsecSaList.find? fun sa =>
    sa.ikeClient = c ∧ sa.messageId = messageId ∧ sa.serverToClient = false ∧
      sa.established = false

def searchClientToServerIPsecSaBySpi (spi : UInt32) : Option IPsecSa :=
  if spi = 0 then none
  else ike.ipsecSaList.find? fun sa => sa.serverToClient = false ∧ sa.spi = spi

def searchIPsecSaBySpi (c : Nat) (spi : UInt32) : Option IPsecSa :=
  if spi = 0 then none
  else ike.ipsecSaList.find? fun sa => sa.spi = spi ∧ sa.ikeClient = c

def getNumberOfIPsecSaOfIkeClient (c : Nat) : Nat :=
  ike.ipsecSaList.countP fun sa => sa.ikeClient = c

def getNumberOfIkeSaOfIkeClient (c : Nat) : Nat :=
  ike.ikeSaList.countP fun sa => sa.ikeClient = c

/-- `Search` of `ClientList`.  Several clients may have the same endpoint; the search
meets `found` when this is one of them. -/
def searchClient (found : Nat) (endpoint : Endpoint) : Option IkeClient :=
  match ike.clientList.find? fun c => c.address = found ∧ sameEndpoint c.endpoint endpoint with
  | some c => some c
  | none => ike.clientList.find? fun c => sameEndpoint c.endpoint endpoint

end

end Ike
end SoftEther
