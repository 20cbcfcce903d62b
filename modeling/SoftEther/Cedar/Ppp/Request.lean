import SoftEther.Cedar.Ppp.Session

/-!
# Requests of a PPP client

`PPPProcessRequestPacket` with the functions for the IP options of IPCP.
-/

namespace SoftEther
namespace Ppp

open Network

/-- The options with the first one of a type changed. -/
def modifyOption (type : UInt8) (change : PppOption → PppOption) :
    List PppOption → List PppOption
  | [] => []
  | opt :: rest =>
      if opt.type = type then change opt :: rest else opt :: modifyOption type change rest

def getOptionValue (optionList : List PppOption) (type : UInt8) : Option PppOption :=
  optionList.find? fun opt => opt.type = type

def ipOfData (data : List UInt8) : Option Ip :=
  if size : data.length = 4 then some { addr := ⟨data, size⟩ } else none

/-- `PPPGetIPAddressValueFromLCP`: the address, and the options after it. -/
def pppGetIPAddressValueFromLCP (optionList : List PppOption) (type : UInt8) :
    Option Ip × List PppOption :=
  match getOptionValue optionList type with
  | none => (none, optionList)
  | some opt =>
      match ipOfData opt.data with
      | none => (none, optionList)
      | some ip =>
          (some ip, modifyOption type (fun opt => { opt with isSupported := true }) optionList)

/-- What becomes of an option that has the address `ip2` when the address is `ip`. -/
def answerAddress (ip2 ip : Ip) (opt : PppOption) : PppOption :=
  if isZeroIP ip then { opt with isSupported := false, isAccepted := false }
  else if sameIpAddr ip2 ip then { opt with isAccepted := true, isSupported := true }
  else { opt with isAccepted := false, isSupported := true, altData := ip.addr.val }

/-- `PPPSetIPAddressValueToLCP` with `only_modify`. -/
def pppSetIPAddressValueToLCP (optionList : List PppOption) (type : UInt8) (ip : Ip) :
    List PppOption :=
  match pppGetIPAddressValueFromLCP optionList type with
  | (none, optionList) => optionList
  | (some ip2, optionList) => modifyOption type (answerAddress ip2 ip) optionList

structure PppIpOption where
  ipAddress : Ip := zeroIP
  dnsServer1 : Ip := zeroIP
  dnsServer2 : Ip := zeroIP
  winsServer1 : Ip := zeroIP
  winsServer2 : Ip := zeroIP

/-- `PPPSetIPOptionToLCP` with `only_modify`. -/
def pppSetIPOptionToLCP (o : PppIpOption) (optionList : List PppOption) : List PppOption :=
  let optionList := pppSetIPAddressValueToLCP optionList PPP_IPCP_OPTION_IP o.ipAddress
  let optionList := pppSetIPAddressValueToLCP optionList PPP_IPCP_OPTION_DNS1 o.dnsServer1
  let optionList := pppSetIPAddressValueToLCP optionList PPP_IPCP_OPTION_DNS2 o.dnsServer2
  let optionList := pppSetIPAddressValueToLCP optionList PPP_IPCP_OPTION_WINS1 o.winsServer1
  pppSetIPAddressValueToLCP optionList PPP_IPCP_OPTION_WINS2 o.winsServer2

/-- `PPPGetIPOptionFromLCP`: the address, and the options after it; the other addresses are
not used. -/
def pppGetIPOptionFromLCP (optionList : List PppOption) : Option Ip × List PppOption :=
  let (ip, optionList) := pppGetIPAddressValueFromLCP optionList PPP_IPCP_OPTION_IP
  let (_, optionList) := pppGetIPAddressValueFromLCP optionList PPP_IPCP_OPTION_DNS1
  let (_, optionList) := pppGetIPAddressValueFromLCP optionList PPP_IPCP_OPTION_DNS2
  let (_, optionList) := pppGetIPAddressValueFromLCP optionList PPP_IPCP_OPTION_WINS1
  let (_, optionList) := pppGetIPAddressValueFromLCP optionList PPP_IPCP_OPTION_WINS2
  (ip, optionList)

/-- The initialization of the options of a request. -/
def resetOption (opt : PppOption) : PppOption :=
  { opt with isAccepted := false, isSupported := false, altData := [] }

/-- What an option of an LCP request does to the MRU, and what becomes of it. -/
def processLcpOption (mru1 : Nat) (t : PppOption) : Nat × PppOption :=
  if t.type = PPP_LCP_OPTION_MRU then
    let t := { t with isSupported := true }
    if t.data.length = 2 then
      let value := fromBigEndian t.data
      if value < PPP_MRU_MIN ∨ PPP_MRU_MAX < value then
        (mru1,
          { t with
            isAccepted := false
            altData := bigEndian 2 (max PPP_MRU_MIN (min value PPP_MRU_MAX)) })
      else (value, { t with isAccepted := true })
    else (mru1, t)
  else (mru1, t)

def processLcpOptions : Nat → List PppOption → Nat × List PppOption
  | mru1, [] => (mru1, [])
  | mru1, t :: rest =>
      let (mru1, t) := processLcpOption mru1 t
      let (mru1, rest) := processLcpOptions mru1 rest
      (mru1, t :: rest)

/-- The members of the session that the password of MS-CHAPv2 is made of. -/
def Session.passwordData (p : Session) : PppSession where
  ipc := p.ipc.isSome
  msChapV2ServerChallenge := p.msChapV2ServerChallenge
  eapClient :=
    match p.eapClient with
    | none => ⟨List.replicate 8 0, length_zeros8⟩
    | some (address, _) => address

/-- `AuthOk` is set. -/
def World.authenticate (w : World) : World :=
  (w.set { w.session with authOk := true }).log .authenticated

/-- The part of a request over CHAP or PAP that logs in, when there is no IPC yet: whether it
has been successful. -/
def login (hubs : Hubs) (w : World) (lcp : PppLcp) (req : AuthRequest) :
    Except Stop (Bool × World) :=
  match w.session.ipc with
  | some _ => .ok (true, w)
  | none =>
      match processRequestPacket hubs w.session.passwordData req with
      | none => .ok (false, w)
      | some _ => do
          let (result, w) ← (w.log (.attempted req lcp.code lcp.id)).newIPC
          match result, req with
          | .ipc dhcpForce response, .chap _ =>
              .ok (true, w.set
                { w.session with
                  ipc := some { dhcpForce := dhcpForce, msChapV2ServerResponse := response }
                  msChapV2ServerResponse := response })
          | .ipc dhcpForce response, .pap _ =>
              .ok (true, w.set
                { w.session with
                  ipc := some { dhcpForce := dhcpForce, msChapV2ServerResponse := response } })
          | .null passwordNeedReset, .chap _ =>
              .ok (false, w.set
                { w.session with
                  msChapV2ErrorCode := if passwordNeedReset then 942 else 691 })
          | .null _, .pap _ => .ok (false, w)

/-- A request over CHAP: the code and the data of the answer. -/
def processChap (hubs : Hubs) (w : World) (lcp : PppLcp) :
    Except Stop ((UInt8 × List UInt8) × World) := do
  let (ok, w) ← login hubs w lcp (.chap lcp.data)
  if ok then
    .ok ((PPP_CHAP_CODE_SUCCESS, ascii "S=" ++ binToStr w.session.msChapV2ServerResponse.val),
      w.authenticate)
  else
    .ok ((PPP_CHAP_CODE_FAILURE,
      ascii "E=" ++ toStr w.session.msChapV2ErrorCode ++ ascii " R=0 C=" ++
        binToStr w.session.msChapV2ServerChallenge.val ++ ascii " V=3"), w)

/-- A request over PAP: the code of the answer. -/
def processPap (hubs : Hubs) (w : World) (lcp : PppLcp) : Except Stop (UInt8 × World) := do
  let (ok, w) ← login hubs w lcp (.pap lcp.data)
  if ok then .ok (PPP_PAP_CODE_ACK, w.authenticate) else .ok (PPP_PAP_CODE_NAK, w)

/-- The client specifies an IP address, or does not. -/
def chooseStatic (w : World) (ipAddress : Ip) : Except Stop World :=
  if isZeroIP ipAddress then .ok (w.set { w.session with useStaticIPAddress := false })
  else do
    let ipc ← w.useIpc
    if ipc.dhcpForce = false ∧ w.session.dhcpAllocated = false ∧
        w.session.useStaticIPAddress = false then
      .ok (w.set
        { w.session with
          clientAddressOption := { clientAddress := ipToUINT ipAddress }
          useStaticIPAddress := true })
    else .ok w

/-- Get additional information from the DHCP server. -/
def tryInform (w : World) : Except Stop World :=
  if w.session.dhcpIpInformTried then .ok w
  else do
    let clientIp := uintToIP w.session.clientAddressOption.clientAddress
    let w ← w.setIPv4Parameters clientIp { addr := ⟨[255, 0, 0, 0], rfl⟩ } zeroIP
    let w := w.set { w.session with dhcpIpInformTried := true }
    let (cao, w) ← w.ipcDhcpRequestInformIP
    let w :=
      match cao with
      | none => w
      | some cao =>
          w.set
            { w.session with
              clientAddressOption := { cao with clientAddress := ipToUINT clientIp } }
    w.setIPv4Parameters zeroIP zeroIP zeroIP

/-- Get an IP address from a DHCP server. -/
def tryAllocate (w : World) : Except Stop World :=
  if w.session.dhcpIpAllocTried then .ok w
  else do
    let w := w.set { w.session with dhcpIpAllocTried := true }
    let (cao, w) ← w.ipcDhcpAllocateIP
    match cao with
    | none => .ok w
    | some cao =>
        .ok ((w.set { w.session with clientAddressOption := cao, dhcpAllocated := true }).log
          (.allocated cao.clientAddress))

def setAddress (w : World) (optionList : List PppOption) :
    Except Stop (List PppOption × World) :=
  let cao := w.session.clientAddressOption
  if isValidUnicastIPAddressUINT4 cao.clientAddress ∧ cao.subnetMask ≠ 0 then do
    let res : PppIpOption :=
      { ipAddress := uintToIP cao.clientAddress
        dnsServer1 := uintToIP cao.dnsServer
        dnsServer2 := uintToIP cao.dnsServer2
        winsServer1 := uintToIP cao.winsServer
        winsServer2 := uintToIP cao.winsServer2 }
    let w ← w.setIPv4Parameters res.ipAddress (uintToIP cao.subnetMask) (uintToIP cao.gateway)
    .ok (pppSetIPOptionToLCP res optionList, w.log (.determined res.ipAddress))
  else .ok (pppSetIPOptionToLCP {} optionList, w)

/-- A request over IPCP: the options of the answer. -/
def processIpcp (w : World) (optionList : List PppOption) :
    Except Stop (List PppOption × World) :=
  match pppGetIPOptionFromLCP optionList with
  | (none, optionList) => .ok (optionList, w)
  | (some ipAddress, optionList) => do
      let w ← chooseStatic w ipAddress
      let w ← if w.session.useStaticIPAddress then tryInform w else tryAllocate w
      setAddress w optionList

def optionAnswer (id : UInt8) (optionList : List PppOption) : PppLcp :=
  if optionList.any fun t => !t.isSupported then
    { code := PPP_LCP_CODE_REJECT
      id := id
      optionList :=
        (optionList.filter fun t => !t.isSupported).map fun t =>
          { type := t.type, data := t.data } }
  else if optionList.any fun t => !t.isAccepted then
    { code := PPP_LCP_CODE_NAK
      id := id
      optionList :=
        (optionList.filter fun t => !t.isAccepted).map fun t =>
          { type := t.type, data := t.altData } }
  else
    { code := PPP_LCP_CODE_ACK
      id := id
      optionList := optionList.map fun t => { type := t.type, data := t.data } }

/-- `PPPProcessRequestPacket`: the answer. -/
def pppProcessRequestPacket (hubs : Hubs) (w : World) (protocol : UInt16) (req : PppLcp) :
    Except Stop (PppLcp × World) :=
  let optionList := req.optionList.map resetOption
  if protocol = PPP_PROTOCOL_LCP then
    let (mru1, optionList) := processLcpOptions w.session.mru1 optionList
    let ret := optionAnswer req.id optionList
    let p := { w.session with mru1 := mru1 }
    let p :=
      if ret.code = PPP_LCP_CODE_ACK then { p with clientLcpOptionDetermined := true } else p
    .ok (ret, w.set p)
  else if protocol = PPP_PROTOCOL_CHAP then do
    let ((code, data), w) ← processChap hubs w req
    .ok ({ code := code, id := req.id, data := data }, w)
  else if protocol = PPP_PROTOCOL_PAP then do
    let (code, w) ← processPap hubs w req
    .ok ({ code := code, id := req.id }, w)
  else if protocol = PPP_PROTOCOL_IPCP then do
    let (optionList, w) ← processIpcp w optionList
    .ok (optionAnswer req.id optionList, w)
  else .ok (optionAnswer req.id optionList, w)

end Ppp
end SoftEther
