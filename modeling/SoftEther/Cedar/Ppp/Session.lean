import SoftEther.Cedar.Ppp.Password

/-!
# PPP sessions

The data of a PPP session: packets, options, the IPC that connects it to a hub, and what
the session waits for.  A session runs in a world that answers its questions: which packets
have come in, what `NewIPC` and the DHCP calls have returned, whether a packet could be
sent, whether time is up.  When an answer is missing the session waits.  A history tells
what has happened, the newest first.
-/

namespace SoftEther
namespace Ppp

open Network

/-! ## Packets -/

def PPP_PROTOCOL_LCP : UInt16 := 0xc021

def PPP_PROTOCOL_PAP : UInt16 := 0xc023

def PPP_PROTOCOL_IPCP : UInt16 := 0x8021

def PPP_PROTOCOL_CHAP : UInt16 := 0xc223

def PPP_PROTOCOL_IP : UInt16 := 0x0021

def PPP_LCP_CODE_REQ : UInt8 := 1

def PPP_LCP_CODE_ACK : UInt8 := 2

def PPP_LCP_CODE_NAK : UInt8 := 3

def PPP_LCP_CODE_REJECT : UInt8 := 4

def PPP_LCP_CODE_TERMINATE_REQ : UInt8 := 5

def PPP_LCP_CODE_CODE_REJECT : UInt8 := 7

def PPP_LCP_CODE_PROTOCOL_REJECT : UInt8 := 8

def PPP_LCP_CODE_ECHO_REQUEST : UInt8 := 9

def PPP_LCP_CODE_ECHO_RESPONSE : UInt8 := 10

def PPP_LCP_CODE_DROP : UInt8 := 11

def PPP_LCP_CODE_IDENTIFICATION : UInt8 := 12

def PPP_PAP_CODE_REQ : UInt8 := 1

def PPP_PAP_CODE_ACK : UInt8 := 2

def PPP_PAP_CODE_NAK : UInt8 := 3

def PPP_CHAP_CODE_RESPONSE : UInt8 := 2

def PPP_CHAP_CODE_SUCCESS : UInt8 := 3

def PPP_CHAP_CODE_FAILURE : UInt8 := 4

def PPP_LCP_OPTION_MRU : UInt8 := 1

def PPP_IPCP_OPTION_IP : UInt8 := 3

def PPP_IPCP_OPTION_DNS1 : UInt8 := 129

def PPP_IPCP_OPTION_WINS1 : UInt8 := 130

def PPP_IPCP_OPTION_DNS2 : UInt8 := 131

def PPP_IPCP_OPTION_WINS2 : UInt8 := 132

/-- `PPP_MRU_DEFAULT` and `PPP_MRU_MAX`. -/
def PPP_MRU_MAX : Nat := 1500

def PPP_MRU_MIN : Nat := 100

structure PppOption where
  type : UInt8
  /-- `Data` and `DataSize`. -/
  data : List UInt8
  isSupported : Bool := false
  isAccepted : Bool := false
  /-- `AltData` and `AltDataSize`. -/
  altData : List UInt8 := []
  deriving DecidableEq

structure PppLcp where
  code : UInt8
  id : UInt8
  optionList : List PppOption := []
  data : List UInt8 := []
  deriving DecidableEq

/-- What a packet carries: `Lcp` when `IsControl` is set, else `Data`. -/
inductive Body where
  | control (lcp : PppLcp)
  | data (bytes : List UInt8)
  deriving DecidableEq

structure PppPacket where
  protocol : UInt16
  /-- `IsControl`, and `Lcp` or `Data`. -/
  body : Body
  deriving DecidableEq

def pppLcpCodeIsNegative (code : UInt8) : Bool :=
  code = PPP_LCP_CODE_NAK ∨ code = PPP_LCP_CODE_REJECT ∨ code = PPP_LCP_CODE_CODE_REJECT ∨
    code = PPP_LCP_CODE_PROTOCOL_REJECT

def pppLcpCodeIsResponse (code : UInt8) : Bool :=
  code = PPP_LCP_CODE_ACK ∨ code = PPP_LCP_CODE_NAK ∨ code = PPP_LCP_CODE_REJECT ∨
    code = PPP_LCP_CODE_PROTOCOL_REJECT

def pppPapCodeIsResponse (code : UInt8) : Bool :=
  code = PPP_PAP_CODE_ACK ∨ code = PPP_PAP_CODE_NAK

def pppCodeIsResponse (protocol : UInt16) (code : UInt8) : Bool :=
  ((protocol = PPP_PROTOCOL_LCP ∨ protocol = PPP_PROTOCOL_IPCP) ∧ pppLcpCodeIsResponse code) ∨
    (protocol = PPP_PROTOCOL_PAP ∧ pppPapCodeIsResponse code)

def pppCodeIsRequest (protocol : UInt16) (code : UInt8) : Bool :=
  ((protocol = PPP_PROTOCOL_LCP ∨ protocol = PPP_PROTOCOL_IPCP) ∧ code = PPP_LCP_CODE_REQ) ∨
    (protocol = PPP_PROTOCOL_PAP ∧ code = PPP_PAP_CODE_REQ) ∨ protocol = PPP_PROTOCOL_CHAP

def pppIsSupportedProtocol (protocol : UInt16) : Bool :=
  protocol = PPP_PROTOCOL_LCP ∨ protocol = PPP_PROTOCOL_PAP ∨ protocol = PPP_PROTOCOL_CHAP ∨
    protocol = PPP_PROTOCOL_IPCP ∨ protocol = PPP_PROTOCOL_IP

def isZeroIP (ip : Ip) : Bool :=
  if isIP6 ip then ip.ipv6Addr.val.all (· = 0) else ip.addr.val.all (· = 0)

/-- `CmpIpAddr` finds no difference. -/
def sameIpAddr (ip1 ip2 : Ip) : Bool :=
  ip1.addr = ip2.addr ∧ ip1.ipv6Addr = ip2.ipv6Addr

def zeroIP : Ip :=
  uintToIP 0

def isValidUnicastIPAddressUINT4 (value : UInt32) : Bool :=
  let ip := uintToIP value
  !isIP6 ip && !isZeroIP ip &&
    !(224 ≤ ip.addr.val.headD 0 && ip.addr.val.headD 0 ≤ 239) && ip.addr.val.any (· ≠ 255)

/-- `DHCP_OPTION_LIST`: the numbers of a server's response. -/
structure DhcpOptionList where
  clientAddress : UInt32 := 0
  subnetMask : UInt32 := 0
  gateway : UInt32 := 0
  dnsServer : UInt32 := 0
  dnsServer2 : UInt32 := 0
  winsServer : UInt32 := 0
  winsServer2 : UInt32 := 0
  deriving DecidableEq

/-- `IPC`: the members that the PPP session goes by. -/
structure Ipc where
  clientIPAddress : Ip := zeroIP
  subnetMask : Ip := zeroIP
  defaultGateway : Ip := zeroIP
  /-- `DHCPForce` of the policy. -/
  dhcpForce : Bool
  msChapV2ServerResponse : ByteArrayOf 20
  deriving DecidableEq

def ipcSetIPv4Parameters (ip subnet gw : Ip) (ipc : Ipc) : Ipc :=
  { ipc with clientIPAddress := ip, subnetMask := subnet, defaultGateway := gw }

/-- `PPP_SESSION`. -/
structure Session where
  nextId : UInt8 := 0
  mru1 : Nat := PPP_MRU_MAX
  lastStoredPacket : Option PppPacket := none
  isTerminateReceived : Bool := false
  ipc : Option Ipc := none
  clientLcpOptionDetermined : Bool := false
  clientAddressOption : DhcpOptionList := {}
  dhcpIpAllocTried : Bool := false
  dhcpIpInformTried : Bool := false
  dhcpAllocated : Bool := false
  useStaticIPAddress : Bool := false
  enableMSCHAPv2 : Bool := true
  authProtocol : UInt16 := PPP_PROTOCOL_PAP
  authOk : Bool := false
  msChapV2ServerChallenge : ByteArrayOf 16 := ⟨List.replicate 16 0, length_zeros16⟩
  msChapV2ServerResponse : ByteArrayOf 20 := ⟨List.replicate 20 0, rfl⟩
  msChapV2ErrorCode : UInt32 := 691
  msChapV2UseDoubleMsChapV2 : Bool := false
  /-- The bytes of `EapClient`, and the challenge in it, when it is not `NULL`. -/
  eapClient : Option (ByteArrayOf 8 × ByteArrayOf 16) := none

/-- The arguments of `PPPRecvResponsePacket`. -/
structure Awaited where
  /-- The protocol and the identifier of `req`. -/
  req : Option (UInt16 × UInt8) := none
  /-- `expected_protocol`, that of `req` when there is one. -/
  expectedProtocol : UInt16
  finishWhenAllLcpAcked : Bool := false
  returnMsChapV2ResponseWithNoProcessing : Bool := false
  deriving DecidableEq

/-- The packet corresponds to the request. -/
def Awaited.isResponse (awaited : Awaited) (protocol : UInt16) (lcp : PppLcp) : Bool :=
  match awaited.req with
  | none => false
  | some (reqProtocol, reqId) =>
      protocol = reqProtocol && lcp.id = reqId &&
        (pppCodeIsResponse protocol lcp.code ||
          (awaited.returnMsChapV2ResponseWithNoProcessing && protocol = PPP_PROTOCOL_CHAP &&
            pppPapCodeIsResponse lcp.code))

/-! ## The world -/

deriving instance DecidableEq for AuthRequest

/-- What happens in a session. -/
inductive Event where
  /-- `PPPRecvResponsePacket` takes a control packet; there is an IPC at that time, or not. -/
  | took (awaited : Awaited) (protocol : UInt16) (lcp : PppLcp) (loggedIn : Bool)
  | challenged (id : UInt8)
  /-- `NewIPC` is called for a packet with a code and an identifier. -/
  | attempted (req : AuthRequest) (code id : UInt8)
  /-- `AuthOk` is set. -/
  | authenticated
  /-- `IPCDhcpAllocateIP` has returned an address. -/
  | allocated (address : UInt32)
  | determined (address : Ip)
  | answered (protocol : UInt16) (req ret : PppLcp) (ipc : Option Ipc)
  /-- `IPCSendIPv4`. -/
  | sentIPv4 (data : List UInt8)
  deriving DecidableEq

/-- What `NewIPC` returns. -/
inductive NewIpc where
  | ipc (dhcpForce : Bool) (msChapV2ServerResponse : ByteArrayOf 20)
  /-- `NULL`; the error may be `ERR_MSCHAP2_PASSWORD_NEED_RESET`. -/
  | null (passwordNeedReset : Bool)

/-- A session, the answers that it will get, and what has happened. -/
structure World where
  session : Session := {}
  arrivals : List (Option PppPacket) := []
  /-- Whether a tube is connected, a packet can be sent, or time is up. -/
  choices : List Bool := []
  /-- What `NewIPC` returns. -/
  newIpcs : List NewIpc := []
  /-- What `HubNewEapClient` returns. -/
  eapClients : List (Option (ByteArrayOf 8 × ByteArrayOf 16)) := []
  challenges : List (ByteArrayOf 16) := []
  /-- What `IPCDhcpRequestInformIP` returns. -/
  informs : List (Option DhcpOptionList) := []
  /-- What `IPCDhcpAllocateIP` returns. -/
  allocations : List (Option DhcpOptionList) := []
  /-- What has happened, the newest first. -/
  history : List Event := []

/-- Why a session does not go on. -/
inductive Stop where
  /-- `Ipc` is used while it is `NULL`. -/
  | nullIpc
  | waiting (world : World)

namespace World

variable (w : World)

/-- The session changes. -/
def set (session : Session) : World :=
  { w with session := session }

/-- Something happens. -/
def log (event : Event) : World :=
  { w with history := event :: w.history }

/-- The next of some answers. -/
def answer (answers : List α) (left : List α → World) : Except Stop (α × World) :=
  match answers with
  | [] => .error (.waiting w)
  | first :: rest => .ok (first, left rest)

/-- A tube is connected, a packet can be sent, or time is up. -/
def ask : Except Stop (Bool × World) :=
  w.answer w.choices fun rest => { w with choices := rest }

def pppRecvPacket : Except Stop (Option PppPacket × World) :=
  w.answer w.arrivals fun rest => { w with arrivals := rest }

def newIPC : Except Stop (NewIpc × World) :=
  w.answer w.newIpcs fun rest => { w with newIpcs := rest }

def hubNewEapClient : Except Stop (Option (ByteArrayOf 8 × ByteArrayOf 16) × World) :=
  w.answer w.eapClients fun rest => { w with eapClients := rest }

/-- `MsChapV2Server_GenerateChallenge`. -/
def generateChallenge : Except Stop (ByteArrayOf 16 × World) :=
  w.answer w.challenges fun rest => { w with challenges := rest }

/-- `p->Ipc` is used. -/
def useIpc : Except Stop Ipc :=
  match w.session.ipc with
  | none => .error .nullIpc
  | some ipc => .ok ipc

/-- `p->Ipc` is used on a condition. -/
def useIpcIf (condition : Bool) : Except Stop Unit :=
  if condition then w.useIpc.map fun _ => () else .ok ()

/-- `IPCSetIPv4Parameters` with `p->Ipc`. -/
def setIPv4Parameters (ip subnet gw : Ip) : Except Stop World := do
  let ipc ← w.useIpc
  .ok (w.set { w.session with ipc := some (ipcSetIPv4Parameters ip subnet gw ipc) })

/-- `IPCDhcpRequestInformIP` with `p->Ipc`. -/
def ipcDhcpRequestInformIP : Except Stop (Option DhcpOptionList × World) := do
  let _ ← w.useIpc
  w.answer w.informs fun rest => { w with informs := rest }

/-- `IPCDhcpAllocateIP` with `p->Ipc`. -/
def ipcDhcpAllocateIP : Except Stop (Option DhcpOptionList × World) := do
  let _ ← w.useIpc
  w.answer w.allocations fun rest => { w with allocations := rest }

end World

end Ppp
end SoftEther
