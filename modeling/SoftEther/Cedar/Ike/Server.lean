import SoftEther.Cedar.Ike.Defs

/-!
# What the IKE server does

The handlers of the packets that the server receives and of its interrupts.
-/

namespace SoftEther
namespace Ike

open Library Network

/-! ## Events -/

/-- The members of a UDP packet that do not depend on its data, and what the server
meets when it looks for a client at the time. -/
structure Arrival where
  /-- `Now` of the server. -/
  now : Nat
  /-- `SrcIP`, `SrcPort`, `DstIP` and `DestPort`. -/
  endpoint : Endpoint
  /-- The client that a search in `ClientList` meets, of several with one endpoint. -/
  found : Nat

/-- The header of an IKE packet. -/
structure Header where
  initiatorCookie : UInt64
  responderCookie : UInt64
  messageId : UInt32
  flagEncrypted : Bool

/-- What a packet of main mode or aggressive mode says. -/
structure Phase1Content where
  /-- `IkeParse` makes a packet. -/
  parsed : Bool
  natTraversal : Bool
  /-- `GetBestTransformSettingForIkeSa` finds a setting. -/
  transform : Bool
  keyExchange : Bool
  /-- `SKEYID_d` that these keys give. -/
  skeyidD : List UInt8
  hashRight : Bool
  /-- The client supports dead peer detection. -/
  dpdRfc3706 : Bool
  /-- The number that `GenerateNewResponserCookie` returns. -/
  newCookie : UInt64

/-- `IKE_PACKET_DELETE_PAYLOAD`. -/
inductive DeletePayload where
  | ipsecEsp (spis : List UInt32)
  | ike (responderCookies : List UInt64)

/-- A notification for dead peer detection. -/
structure NoticePayload where
  /-- `IKE_NOTICE_DPD_REQUEST`. -/
  request : Bool
  /-- The first half of the SPI. -/
  initCookie : UInt64
  /-- The second half of the SPI. -/
  respCookie : UInt64

/-- What a packet of an informational exchange says. -/
structure InformationalContent where
  deletes : List DeletePayload
  /-- The notifications. -/
  notices : List NoticePayload

/-- The first packet of a quick mode that the client starts. -/
structure QuickFirst where
  /-- What `GetBestTransformSettingForIPsecSa` finds. -/
  setting : Option TransformSetting
  keyPayload : Bool
  sharedKey : List UInt8
  initiatorRand : List UInt8
  responderRand : List UInt8
  /-- The number that `GenerateNewIPsecSaSpi` returns. -/
  spi : UInt32

/-- The second packet of a quick mode that the server started. -/
structure QuickSecond where
  /-- What `GetBestTransformSettingForIPsecSa` finds. -/
  setting : Option TransformSetting
  keyPayload : Bool
  sharedKey : List UInt8
  responderRand : List UInt8

/-- What a packet of quick mode says. -/
inductive QuickContent where
  /-- `IkeParse` makes no packet. -/
  | unparsable
  /-- The hash is not right, or a payload is missing. -/
  | invalid
  | first (content : QuickFirst)
  | second (content : QuickSecond)
  | third

/-- The random numbers of a quick mode that the server starts. -/
structure QuickStart where
  /-- The number that `GenerateNewMessageId` returns. -/
  messageId : UInt32
  /-- The number that `GenerateNewIPsecSaSpi` returns. -/
  spi : UInt32
  initiatorRand : List UInt8

/-- What happens at an interrupt, for each object by its address. -/
structure Interrupt where
  /-- `Now` of the server. -/
  now : Nat
  ikeSaTimedOut : Nat → Bool
  ipsecSaTimedOut : Nat → Bool
  quickMode : Nat → Option QuickStart
  clientTimedOut : Nat → Bool
  /-- The packets of the L2TP server and of the EtherIP server: whether one reaches the
  soft limit of its SA. -/
  sends : Nat → List Bool
  /-- The time of dead peer detection has come. -/
  dpd : Nat → Bool

/-- What happens to the server. -/
inductive Event where
  | main (arrival : Arrival) (header : Header) (content : Phase1Content)
  | aggressive (arrival : Arrival) (header : Header) (content : Phase1Content)
  | quick (arrival : Arrival) (header : Header) (content : QuickContent)
  | informational (arrival : Arrival) (header : Header) (content : Option InformationalContent)
  | esp (arrival : Arrival) (data : List UInt8)
  /-- `ProcessIKEInterrupts`. -/
  | interrupt (interrupt : Interrupt)

section

variable (algorithms : Algorithms)
variable (ike : IkeServer)

/-- The client `c` is merged into `cc`. -/
def mergeIkeClient (client cc : IkeClient) : IkeServer :=
  let move (owner : Nat) : Nat := if owner = client.address then cc.address else owner
  { ike with
    ikeSaList := ike.ikeSaList.map fun sa => { sa with ikeClient := move sa.ikeClient }
    ipsecSaList := ike.ipsecSaList.map fun sa => { sa with ikeClient := move sa.ikeClient }
    clientList :=
      (writeAt IkeClient.address ike.clientList cc.address fun cc =>
        { cc with
          firstCommTick := min cc.firstCommTick client.firstCommTick
          lastCommTick := max cc.lastCommTick client.lastCommTick }).filter
        fun other => other.address ≠ client.address }

/-- `SetIkeClientEndpoint`: the server and the client that takes over. -/
def setIkeClientEndpoint (c : Nat) (arrival : Arrival) :
    Except Fault (IkeServer × Option Nat) := do
  let client ← ike.ikeClient c
  if arrival.endpoint.clientPort = 0 ∨ arrival.endpoint.serverPort = 0 then pure (ike, none)
  else if sameEndpoint client.endpoint arrival.endpoint then pure (ike, some c)
  else if isSpecialPort arrival.endpoint.clientPort ∨
      isSpecialPort arrival.endpoint.serverPort then pure (ike, some c)
  else
    match searchClient ike arrival.found arrival.endpoint with
    | some cc =>
        if c ≠ cc.address ∧ cc.deleting = false ∧ client.l2tp = false then
          pure (mergeIkeClient ike client cc, some cc.address)
        else
          pure (ike.setIkeClient c fun client => { client with endpoint := arrival.endpoint },
            some c)
    | none =>
        pure (ike.setIkeClient c fun client => { client with endpoint := arrival.endpoint },
          some c)

/-- The search of `SearchIkeClientForIkePacket` by the cookies. -/
def searchClientByCookies (endpoint : Endpoint) (header : Header) :
    List IkeSa → Except Fault (Option Nat)
  | [] => pure none
  | sa :: rest =>
      if sa.initiatorCookie = header.initiatorCookie ∧
          sa.responderCookie = header.responderCookie then do
        let cc ← ike.ikeClient sa.ikeClient
        if sameIp cc.endpoint.serverIP endpoint.serverIP ∧
            sameIp cc.endpoint.clientIP endpoint.clientIP then pure (some cc.address)
        else searchClientByCookies endpoint header rest
      else searchClientByCookies endpoint header rest

/-- The client with the endpoint may be used for a packet with the cookies. -/
def acceptClient (c : IkeClient) (endpoint : Endpoint) (header : Header) :
    Except Fault Bool := do
  let hasSa := ike.ikeSaList.any fun sa =>
    sa.ikeClient = c.address ∧ sa.initiatorCookie = header.initiatorCookie ∧
      sa.responderCookie = header.responderCookie
  if endpoint.serverPort = IPSEC_PORT_IPSEC_ESP_UDP then pure true
  else
    match c.currentIkeSa with
    | none => pure hasSa
    | some sa => do
        let sa ← ike.ikeSa sa
        pure
          ((sa.initiatorCookie = header.initiatorCookie ∧
              sa.responderCookie = header.responderCookie) ∨ hasSa)

def searchIkeClientForIkePacket (arrival : Arrival) (header : Header) :
    Except Fault (Option Nat) := do
  let byCookies ←
    if header.initiatorCookie ≠ 0 ∧ header.responderCookie ≠ 0 then
      searchClientByCookies ike arrival.endpoint header ike.ikeSaList
    else pure none
  match byCookies with
  | some c => pure (some c)
  | none =>
      match searchClient ike arrival.found arrival.endpoint with
      | none => pure none
      | some c => do
          let ok ← acceptClient ike c arrival.endpoint header
          pure (if ok then some c.address else none)

/-- `NewIkeClient`, and `Insert` of the client. -/
def newIkeClient (endpoint : Endpoint) : IkeServer :=
  { ike with
    clientList :=
      { address := ike.nextAddress
        endpoint := endpoint
        firstCommTick := ike.now
        lastCommTick := ike.now } :: ike.clientList
    nextAddress := ike.nextAddress + 1 }

def searchOrCreateNewIkeClientForIkePacket (arrival : Arrival) (header : Header) :
    Except Fault (IkeServer × Option Nat) := do
  if arrival.endpoint.clientPort = 0 ∨ arrival.endpoint.serverPort = 0 then pure (ike, none)
  else do
    let c ← searchIkeClientForIkePacket ike arrival header
    match c with
    | some c => setIkeClientEndpoint ike c arrival
    | none =>
        if IKE_QUOTA_MAX_NUM_CLIENTS_PER_IP <
              (ike.clientList.countP fun c => sameIp c.endpoint.clientIP
                arrival.endpoint.clientIP) ∨
            IKE_QUOTA_MAX_NUM_CLIENTS < ike.clientList.length then pure (ike, none)
        else setIkeClientEndpoint (newIkeClient ike arrival.endpoint) ike.nextAddress arrival

/-! ## Main mode and aggressive mode -/

/-- `NewIkeSa`, and `Insert` of the SA. -/
def newIkeSa (c : Nat) (header : Header) (mode : Mode) (content : Phase1Content) : IkeServer :=
  { ike with
    ikeSaList :=
      { address := ike.nextAddress
        ikeClient := c
        initiatorCookie := header.initiatorCookie
        responderCookie := content.newCookie
        mode := mode
        lastCommTick := ike.now
        skeyidD := if mode = .aggressive then some content.skeyidD else none
        dpdRfc3706 := content.dpdRfc3706 } :: ike.ikeSaList
    nextAddress := ike.nextAddress + 1 }

/-- The first packet of main mode or of aggressive mode, which needs the key exchange in
the first packet. -/
def startPhase1
    (c : Nat)
    (arrival : Arrival)
    (header : Header)
    (mode : Mode)
    (content : Phase1Content) :
    Except Fault IkeServer := do
  if content.parsed = false ∨ content.natTraversal = false then pure ike
  else do
    -- The caller passes `DstIP` and `DestPort` for the client, `SrcIP` and `SrcPort` for the
    -- server.
    let existing ← findIkeSaByEndPoint ike arrival.endpoint.swapped header.initiatorCookie mode
      ike.ikeSaList
    match existing with
    | some _ => pure ike
    | none =>
        if content.transform ∧
            getNumberOfIkeSaOfIkeClient ike c ≤ IKE_QUOTA_MAX_SA_PER_CLIENT then
          if mode = .aggressive ∧ content.keyExchange = false then pure ike
          else do
            let sa := ike.nextAddress
            let ike := newIkeSa ike c header mode content
            ikeSaSendPacket ike sa
            pure ike
        else do
          sendInformationalExchangePacketEx ike c false
          pure ike

/-- `IkeSaRecvPacket`: whether there is a packet. -/
def ikeSaRecvPacket (sa : IkeSa) (content : Phase1Content) : Except Fault Bool :=
  if sa.skeyidD.isSome ∧ content.parsed = false then .error .nullPacket
  else pure content.parsed

def establishIkeSa (c sa : Nat) : IkeServer :=
  (ike.setIkeSa sa fun sa => { sa with state := .established, established := true }).setIkeClient
    c fun client => { client with currentIkeSa := some sa }

def procIkeMainModePacketRecv
    (arrival : Arrival)
    (header : Header)
    (content : Phase1Content) :
    Except Fault IkeServer := do
  if header.initiatorCookie = 0 then pure ike
  else do
    let (ike, c) ← searchOrCreateNewIkeClientForIkePacket ike arrival header
    match c with
    | none => pure ike
    | some c =>
        if header.responderCookie = 0 then startPhase1 ike c arrival header .main content
        else
          match findIkeSaByResponderCookieAndClient ike header.responderCookie c with
          | none => do
              sendInformationalExchangePacketEx ike c true
              pure ike
          | some sa =>
              if sa.mode ≠ .main then pure ike
              else do
                let ike := ike.setIkeSa sa.address fun sa => { sa with lastCommTick := ike.now }
                match sa.state with
                | .sa => do
                    let received ← ikeSaRecvPacket sa content
                    if received ∧ content.keyExchange then do
                      ikeSaSendPacket ike sa.address
                      pure
                        (ike.setIkeSa sa.address fun sa =>
                          { sa with state := .key, skeyidD := some content.skeyidD })
                    else pure ike
                | .key => do
                    let received ← ikeSaRecvPacket sa content
                    if received ∧ content.hashRight then do
                      ikeSaSendPacket ike sa.address
                      pure (establishIkeSa ike c sa.address)
                    else pure ike
                | .established => pure ike

def procIkeAggressiveModePacketRecv
    (arrival : Arrival)
    (header : Header)
    (content : Phase1Content) :
    Except Fault IkeServer := do
  if header.initiatorCookie = 0 then pure ike
  else do
    let (ike, c) ← searchOrCreateNewIkeClientForIkePacket ike arrival header
    match c with
    | none => pure ike
    | some c =>
        if header.responderCookie = 0 then startPhase1 ike c arrival header .aggressive content
        else
          match findIkeSaByResponderCookieAndClient ike header.responderCookie c with
          | none => do
              sendInformationalExchangePacketEx ike c true
              pure ike
          | some sa =>
              if sa.mode ≠ .aggressive then pure ike
              else do
                let ike := ike.setIkeSa sa.address fun sa => { sa with lastCommTick := ike.now }
                match sa.state with
                | .sa => do
                    let received ← ikeSaRecvPacket sa content
                    if received ∧ content.hashRight then
                      pure (establishIkeSa ike c sa.address)
                    else pure ike
                | _ => pure ike

def procDeletePayload (c : Nat) : DeletePayload → Except Fault IkeServer
  | .ipsecEsp spis =>
      spis.foldlM
        (fun ike spi =>
          match searchIPsecSaBySpi ike c spi with
          | none => pure ike
          | some sa => markIPsecSaAsDeleted ike sa.address)
        ike
  | .ike cookies =>
      cookies.foldlM
        (fun ike cookie =>
          match findIkeSaByResponderCookie ike cookie with
          | none => pure ike
          | some sa =>
              if sa.ikeClient = c then markIkeSaAsDeleted ike sa.address else pure ike)
        ike

/-- A notification for dead peer detection. -/
def procNoticePayload (c : Nat) (ikeSa : Nat) (notice : NoticePayload) :
    Except Fault IkeServer :=
  if notice.initCookie = 0 ∨ notice.respCookie = 0 then pure ike
  else
    match searchIkeSaByCookie ike notice.initCookie notice.respCookie with
    | none => pure ike
    | some found =>
        if found.ikeClient = c then do
          if notice.request then sendInformationalExchangePacketEx ike c false else pure ()
          let used ← ike.ikeSa ikeSa
          let _ ← ike.ikeClient used.ikeClient
          let touch (sa : IkeSa) : IkeSa := { sa with lastCommTick := ike.now }
          let ike := (ike.setIkeSa found.address touch).setIkeSa ikeSa touch
          let ike := ike.setIkeClient c fun client => { client with lastCommTick := ike.now }
          pure
            (ike.setIkeClient used.ikeClient fun client =>
              { client with lastCommTick := ike.now, currentIkeSa := some ikeSa })
        else pure ike

def procIkeInformationalExchangePacketRecv
    (arrival : Arrival)
    (header : Header)
    (content : Option InformationalContent) :
    Except Fault IkeServer := do
  if header.initiatorCookie = 0 ∨ header.responderCookie = 0 ∨ header.messageId = 0 ∨
      header.flagEncrypted = false then pure ike
  else do
    let (ike, c) ← searchOrCreateNewIkeClientForIkePacket ike arrival header
    match c with
    | none => pure ike
    | some c =>
        match findIkeSaByResponderCookieAndClient ike header.responderCookie c, content with
        | some sa, some content =>
            if sa.established then do
              let ike ← content.deletes.foldlM (fun ike => procDeletePayload ike c) ike
              content.notices.foldlM (fun ike => procNoticePayload ike c sa.address) ike
            else pure ike
        | _, _ => pure ike

/-! ## Quick mode -/

/-- `IkeNewKey` with the beginning of the key material. -/
def ikeNewKey (setting : TransformSetting) (keyMat : List UInt8) : Option (List UInt8) :=
  if setting.cryptoKeySize ≠ 0 ∧ setting.cryptoKeySize ∈ setting.crypto.keySizes then
    some (keyMat.take setting.cryptoKeySize)
  else none

/-- `HashKey` in the key material. -/
def hashKeyOf (setting : TransformSetting) (keyMat : List UInt8) : List UInt8 :=
  (keyMat.drop setting.cryptoKeySize).take setting.hashSize

def IPsecSa.withKeys (sa : IPsecSa) (setting : TransformSetting) (keyMat : List UInt8) :
    IPsecSa :=
  { sa with
    keyMat := some keyMat
    cryptoKey := ikeNewKey setting keyMat
    hashKey := hashKeyOf setting keyMat }

/-- What the two calls of `NewIPsecSa` of a quick mode share. -/
structure NewSa where
  /-- `c`. -/
  ikeClient : Nat
  ikeSa : IkeSa
  messageId : UInt32
  initiatorRand : List UInt8
  setting : TransformSetting

/-- An SA that `NewIPsecSa` has not given keys. -/
def NewSa.bare
    (new : NewSa)
    (address : Nat)
    (initiate serverToClient : Bool)
    (spi : UInt32) :
    IPsecSa :=
  { address := address
    ikeClient := new.ikeClient
    ikeSa := some new.ikeSa.address
    messageId := new.messageId
    spi := spi
    lastCommTick := ike.now
    transformSetting := new.setting
    serverToClient := serverToClient
    initiatorRand := new.initiatorRand
    initiated := initiate
    skeyidD := new.ikeSa.skeyidD.getD [] }

/-- `NewIPsecSa` when the server has started the quick mode. -/
def newIPsecSaInitiated
    (new : NewSa)
    (address : Nat)
    (serverToClient : Bool)
    (spi : UInt32) :
    IPsecSa :=
  new.bare ike address true serverToClient spi

/-- `NewIPsecSa` when the client has started the quick mode: the keys are made at once. -/
def newIPsecSa
    (new : NewSa)
    (address : Nat)
    (serverToClient : Bool)
    (spi : UInt32)
    (responderRand sharedKey : List UInt8) :
    IPsecSa :=
  (new.bare ike address false serverToClient spi).withKeys new.setting
    (algorithms.calcKeymat (new.ikeSa.skeyidD.getD []) spi new.initiatorRand responderRand
      sharedKey)

/-- The two SAs of a quick mode become a pair and come into the list. -/
def insertPair (clientToServer serverToClient : IPsecSa) : IkeServer :=
  { ike with
    ipsecSaList :=
      { serverToClient with pairIPsecSa := some clientToServer.address } ::
        { clientToServer with pairIPsecSa := some serverToClient.address } :: ike.ipsecSaList
    nextAddress := ike.nextAddress + 2 }

def startQuickMode (c : Nat) (start : QuickStart) : Except Fault IkeServer := do
  let client ← ike.ikeClient c
  match client.cachedTransformSetting, client.currentIkeSa with
  | some setting, some ikeSa => do
      let ikeSa ← ike.ikeSa ikeSa
      let new : NewSa :=
        { ikeClient := c
          ikeSa := ikeSa
          messageId := start.messageId
          initiatorRand := start.initiatorRand
          setting := setting }
      let ike := insertPair ike (newIPsecSaInitiated ike new ike.nextAddress false start.spi)
        (newIPsecSaInitiated ike new (ike.nextAddress + 1) true 0)
      ipsecSaSendPacket ike (ike.nextAddress - 1)
      pure ike
  | _, _ => pure ike

/-- The first packet of a quick mode that the client starts. -/
def procQuickFirst
    (c : Nat)
    (header : Header)
    (ikeSa : IkeSa)
    (content : QuickFirst) :
    Except Fault IkeServer := do
  match content.setting with
  | none => do
      sendInformationalExchangePacketEx ike c false
      pure ike
  | some setting =>
      if getNumberOfIPsecSaOfIkeClient ike c ≤ IKE_QUOTA_MAX_SA_PER_CLIENT then
        let ike := ike.setIkeClient c fun client =>
          { client with cachedTransformSetting := some setting }
        if setting.dh = false ∨ content.keyPayload then do
          let new : NewSa :=
            { ikeClient := c
              ikeSa := ikeSa
              messageId := header.messageId
              initiatorRand := content.initiatorRand
              setting := setting }
          let ike := insertPair ike
            (newIPsecSa algorithms ike new ike.nextAddress false content.spi
              content.responderRand content.sharedKey)
            (newIPsecSa algorithms ike new (ike.nextAddress + 1) true
              setting.spiServerToClient content.responderRand content.sharedKey)
          ipsecSaSendPacket ike (ike.nextAddress - 1)
          pure ike
        else pure ike
      else do
        sendInformationalExchangePacketEx ike c false
        pure ike

/-- Both SAs of a quick mode are established, and the client uses them. -/
def establishPair (c : Nat) (cs sc : IPsecSa) : IkeServer :=
  let establish (sa : IPsecSa) : IPsecSa :=
    { sa with established := true, lastCommTick := ike.now }
  ((ike.setIPsecSa cs.address establish).setIPsecSa sc.address establish).setIkeClient c
    fun client =>
      { client with
        currentIpSecSaRecv := some cs.address
        currentIpSecSaSend := some sc.address }

/-- The keys of an SA after the second packet of a quick mode. -/
def IPsecSa.deriveKeys
    (sa : IPsecSa)
    (setting : TransformSetting)
    (spi : UInt32)
    (initiatorRand : List UInt8)
    (content : QuickSecond) :
    IPsecSa :=
  { sa with
    spi := spi
    transformSetting := setting }.withKeys setting
      (algorithms.calcKeymat sa.skeyidD spi initiatorRand content.responderRand
        content.sharedKey)

/-- The second packet of a quick mode that the server started. -/
def procQuickSecond
    (c : Nat)
    (cs sc : IPsecSa)
    (content : QuickSecond) :
    Except Fault IkeServer := do
  match content.setting with
  | none => do
      sendInformationalExchangePacketEx ike c false
      pure ike
  | some setting =>
      if setting.dh = false ∨ content.keyPayload then do
        let ike := establishPair ike c cs sc
        let ike := (ike.setIPsecSa sc.address fun sa =>
            sa.deriveKeys algorithms setting setting.spiServerToClient sc.initiatorRand
              content).setIPsecSa
          cs.address fun sa =>
            sa.deriveKeys algorithms setting sa.spi sc.initiatorRand content
        ipsecSaSendPacket ike sc.address
        pure ike
      else pure ike

/-- A packet of a quick mode of which the server has the SAs. -/
def procQuickNext
    (c : Nat)
    (cs : IPsecSa)
    (content : QuickContent) :
    Except Fault IkeServer := do
  match cs.pairIPsecSa with
  | none => pure ike
  | some pair => do
      let sc ← ike.ipsecSa pair
      if sc.established ∨ cs.established then pure ike
      else do
        -- `IPsecSaRecvPacket`, which reads the flags of the packet even without one.
        ike.readIkeSaOf cs
        match content with
        | .unparsable => .error .nullPacket
        | .third =>
            if cs.initiated = false then pure (establishPair ike c cs sc) else pure ike
        | .second content =>
            if cs.initiated then procQuickSecond algorithms ike c cs sc content else pure ike
        | _ => pure ike

def procIkeQuickModePacketRecv
    (arrival : Arrival)
    (header : Header)
    (content : QuickContent) :
    Except Fault IkeServer := do
  if header.initiatorCookie = 0 ∨ header.responderCookie = 0 ∨ header.messageId = 0 ∨
      header.flagEncrypted = false then pure ike
  else do
    let (ike, c) ← searchOrCreateNewIkeClientForIkePacket ike arrival header
    match c with
    | none => pure ike
    | some c =>
        match findIkeSaByResponderCookieAndClient ike header.responderCookie c with
        | none => do
            sendInformationalExchangePacketEx ike c true
            pure ike
        | some sa =>
            if sa.established then do
              let ike := ike.setIkeSa sa.address fun sa => { sa with lastCommTick := ike.now }
              let _ ← ike.ikeClient sa.ikeClient
              let ike := ike.setIkeClient sa.ikeClient fun client =>
                { client with lastCommTick := ike.now, currentIkeSa := some sa.address }
              match searchIPsecSaByMessageId ike c header.messageId with
              | some cs => procQuickNext algorithms ike c cs content
              | none =>
                  match content with
                  | .first content => procQuickFirst algorithms ike c header sa content
                  | _ => pure ike
            else pure ike

/-! ## ESP -/

/-- The two numbers in front of an ESP packet. -/
def readUint (data : List UInt8) : UInt32 :=
  UInt32.ofNat (fromBigEndian (data.take 4))

/-- The SA that an ESP packet is verified with, when the packet is long enough. -/
def espSa (data : List UInt8) : Option IPsecSa :=
  if data.length < 8 then none
  else
    match searchClientToServerIPsecSaBySpi ike (readUint data) with
    | none => none
    | some sa =>
        let blockSize := sa.transformSetting.crypto.blockSize
        if data.length < 8 + blockSize + IKE_ESP_HASH_SIZE + blockSize then none else some sa

/-- The hash of an ESP packet is the one that `HashKey` gives. -/
def hashMatches (sa : IPsecSa) (data : List UInt8) : Bool :=
  let size := data.length - IKE_ESP_HASH_SIZE
  (algorithms.hmac (sa.hashKey.take sa.transformSetting.hashSize) (data.take size)).take
    IKE_ESP_HASH_SIZE = data.drop size

/-- The encrypted part of an ESP packet. -/
def encryptedPayload (sa : IPsecSa) (data : List UInt8) : List UInt8 :=
  (data.drop (8 + sa.transformSetting.crypto.blockSize)).take
    (data.length - IKE_ESP_HASH_SIZE - sa.transformSetting.crypto.blockSize - 8)

def isIPsecSaTunnelMode (sa : IPsecSa) : Bool :=
  sa.transformSetting.capsuleMode ∈
    [CapsuleMode.tunnel, CapsuleMode.natTunnel1, CapsuleMode.natTunnel2]

/-- `IPsecIkeClientManageL2TPServer` and `IPsecIkeClientManageEtherIPServer`. -/
def manageServer (c : Nat) (service : Service) : Except Fault IkeServer := do
  let client ← ike.ikeClient c
  let exists_ : Bool :=
    match service with
    | .l2tp => client.l2tp
    | .etherIP => client.etherIP
  match client.currentIpSecSaRecv with
  | some recv =>
      if exists_ then pure ()
      else do
        let _ ← ike.ipsecSa recv
        pure ()
  | none => pure ()
  pure
    (ike.setIkeClient c fun client =>
      match service with
      | .l2tp => { client with l2tp := true }
      | .etherIP => { client with etherIP := true })

/-- The payload of an ESP packet goes to a virtual server. -/
def deliver (c : Nat) (sa : IPsecSa) (payload : List UInt8) : Except Fault IkeServer :=
  match algorithms.service (isIPsecSaTunnelMode sa) (payload.getLastD 0) payload with
  | none => pure ike
  | some service => manageServer ike c service

/-- `CapsuleMode` of the SA that answers to a packet through UDP port 4500. -/
def CapsuleMode.throughNat : CapsuleMode → CapsuleMode
  | .tunnel => .natTunnel1
  | .transport => .natTransport1
  | other => other

/-- A quick mode is to be started because the sequence numbers or the lifetime run out. -/
def wantsQuickMode (sa : IPsecSa) (data : List UInt8) : Bool :=
  0xf0000000 ≤ readUint (data.drop 4) ∨
    (sa.transformSetting.lifeKilobytes ≠ 0 ∧
      sa.transformSetting.lifeKilobytes * 1000 * 2 / 3 ≤ sa.totalSize)

/-- The state of the client and of the SAs after an ESP packet. -/
def updateStatus (arrival : Arrival) (sa : IPsecSa) : Except Fault IkeServer := do
  let _ ← ike.ikeClient sa.ikeClient
  let touch (sa : IPsecSa) : IPsecSa := { sa with lastCommTick := ike.now }
  let ike := ike.setIkeClient sa.ikeClient fun client =>
    { client with currentIpSecSaRecv := some sa.address, lastCommTick := ike.now }
  match sa.pairIPsecSa with
  | none => pure (ike.setIPsecSa sa.address touch)
  | some pair => do
      let _ ← ike.ipsecSa pair
      let ike := ike.setIkeClient sa.ikeClient fun client =>
        { client with currentIpSecSaSend := some pair }
      let ike :=
        if arrival.endpoint.serverPort = IPSEC_PORT_IPSEC_ESP_UDP then
          ike.setIPsecSa pair fun other =>
            { other with
              transformSetting :=
                { other.transformSetting with
                  capsuleMode := other.transformSetting.capsuleMode.throughNat } }
        else ike
      pure ((ike.setIPsecSa sa.address touch).setIPsecSa pair touch)

/-- The flag of the client is set once for each SA. -/
def startQuickModeAsSoon (sa : IPsecSa) (data : List UInt8) : Except Fault IkeServer := do
  if wantsQuickMode sa data ∧ sa.startQMFlagSet = false then do
    let _ ← ike.ikeClient sa.ikeClient
    let ike := ike.setIkeClient sa.ikeClient fun client =>
      { client with startQuickModeAsSoon := true }
    pure (ike.setIPsecSa sa.address fun sa => { sa with startQMFlagSet := true })
  else pure ike

/-- An ESP packet of which the payload has been decrypted.  `sa` keeps the pointer to the
client that `ProcIPsecEspPacketRecv` has in `c`. -/
def procDecrypted
    (arrival : Arrival)
    (data : List UInt8)
    (sa : IPsecSa)
    (payload : List UInt8) :
    Except Fault IkeServer := do
  -- The last two bytes are the size of the padding and the next header.
  if payload.length - 2 < (payload.getD (payload.length - 2) 0).toNat then pure ike
  else do
    let sa := { sa with totalSize := sa.totalSize + payload.length }
    let ike := ike.setIPsecSa sa.address fun other => { other with totalSize := sa.totalSize }
    let ike ← deliver algorithms ike sa.ikeClient sa payload
    let ike ← updateStatus ike arrival sa
    let (ike, _) ← setIkeClientEndpoint ike sa.ikeClient arrival
    startQuickModeAsSoon ike sa data

def procIPsecEspPacketRecv (arrival : Arrival) (data : List UInt8) :
    Except Fault IkeServer := do
  match espSa ike data with
  | none => pure ike
  | some sa =>
      if hashMatches algorithms sa data = false then pure ike
      else
        let payload := encryptedPayload sa data
        if payload = [] ∨ payload.length % sa.transformSetting.crypto.blockSize ≠ 0 then
          pure ike
        else
          match sa.cryptoKey with
          | none => .error .nullKey
          | some key =>
              let iv := (data.drop 8).take sa.transformSetting.crypto.blockSize
              procDecrypted algorithms ike arrival data sa (algorithms.decrypt key iv payload)

def getOtherLatestIkeSa (sa : IkeSa) : Option IkeSa :=
  (ike.ikeSaList.foldl
    (fun (found : Nat × Option IkeSa) sa2 =>
      if sa2.address ≠ sa.address ∧ sa2.ikeClient = sa.ikeClient ∧ sa2.deleting = false ∧
          sa2.established ∧ found.1 < sa2.lastCommTick then (sa2.lastCommTick, some sa2)
      else found)
    (0, none)).2

/-- The time that `GetOtherLatestIPsecSa` goes by. -/
def lastCommTickOf (sa : IPsecSa) : Except Fault Nat :=
  match sa.serverToClient, sa.pairIPsecSa with
  | true, some pair => do
      let other ← ike.ipsecSa pair
      pure other.lastCommTick
  | _, _ => pure sa.lastCommTick

def getOtherLatestIPsecSa (sa : IPsecSa) : Except Fault (Option IPsecSa) := do
  let found ← ike.ipsecSaList.foldlM
    (fun (found : Nat × Option IPsecSa) sa2 =>
      if sa2.address ≠ sa.address ∧ sa2.ikeClient = sa.ikeClient ∧
          sa2.serverToClient = sa.serverToClient ∧ sa2.deleting = false ∧ sa2.established then do
        let tick ← lastCommTickOf ike sa2
        pure (if found.1 < tick then (tick, some sa2) else found)
      else pure found)
    (0, none)
  pure found.2

def replaced (old : Nat) (new : Option Nat) (pointer : Option Nat) : Option Nat :=
  if pointer = some old then new else pointer

def purgeIPsecSa (sa : Nat) : Except Fault IkeServer := do
  let ipsecSa ← ike.ipsecSa sa
  let other ← getOtherLatestIPsecSa ike ipsecSa
  let replace := replaced sa (other.map IPsecSa.address)
  pure
    { ike with
      ipsecSaList :=
        (ike.ipsecSaList.map fun sa2 =>
          { sa2 with pairIPsecSa := replace sa2.pairIPsecSa }).filter
            fun sa2 => sa2.address ≠ sa
      clientList := ike.clientList.map fun c =>
        { c with
          currentIpSecSaRecv := replace c.currentIpSecSaRecv
          currentIpSecSaSend := replace c.currentIpSecSaSend } }

/-- An IPsec SA of an IKE SA that is to go takes another one, or goes as well. -/
def replaceIkeSa (sa : Nat) (other : Option IkeSa) (ike : IkeServer) (ipsecSa : Nat) :
    Except Fault IkeServer := do
  let current ← ike.ipsecSa ipsecSa
  if current.ikeSa ≠ some sa then pure ike
  else
    match other with
    | none => do
        let ike ← markIPsecSaAsDeleted ike ipsecSa
        pure (ike.setIPsecSa ipsecSa fun current => { current with ikeSa := none })
    | some other =>
        pure (ike.setIPsecSa ipsecSa fun current => { current with ikeSa := some other.address })

def purgeIkeSa (sa : Nat) : Except Fault IkeServer := do
  let ikeSa ← ike.ikeSa sa
  let other := getOtherLatestIkeSa ike ikeSa
  let ike ← (ike.ipsecSaList.map IPsecSa.address).foldlM (replaceIkeSa sa other) ike
  pure
    { ike with
      clientList := ike.clientList.map fun c =>
        { c with currentIkeSa := replaced sa (other.map IkeSa.address) c.currentIkeSa }
      ikeSaList := ike.ikeSaList.filter fun other => other.address ≠ sa }

def purgeIkeClient (c : Nat) : Except Fault IkeServer := do
  let ike ← (ike.ikeSaList.map IkeSa.address).foldlM
    (fun ike sa => do
      let ikeSa ← ike.ikeSa sa
      if ikeSa.ikeClient = c then markIkeSaAsDeleted ike sa else pure ike)
    ike
  let ike ← (ike.ipsecSaList.map IPsecSa.address).foldlM
    (fun ike sa => do
      let ipsecSa ← ike.ipsecSa sa
      if ipsecSa.ikeClient = c then markIPsecSaAsDeleted ike sa else pure ike)
    ike
  pure { ike with clientList := ike.clientList.filter fun other => other.address ≠ c }

def purgeDeletingSAsAndClients : Except Fault IkeServer := do
  let ike ← ((ike.ikeSaList.filter IkeSa.deleting).map IkeSa.address).foldlM purgeIkeSa ike
  let ike ← ((ike.ipsecSaList.filter IPsecSa.deleting).map IPsecSa.address).foldlM
    purgeIPsecSa ike
  ((ike.clientList.filter IkeClient.deleting).map IkeClient.address).foldlM purgeIkeClient ike

/-- The loop at the end of `ProcessIKEInterrupts`, for so many rounds. -/
def purgeWhileChanged : Nat → IkeServer → Except Fault IkeServer
  | 0, _ => .error .endless
  | rounds + 1, ike => do
      let ike ← purgeDeletingSAsAndClients { ike with stateHasChanged := false }
      if ike.stateHasChanged then purgeWhileChanged rounds ike else pure ike

/-- The SAs that are not marked for deletion. -/
def unmarked : Nat :=
  (ike.ikeSaList.countP fun sa => sa.deleting = false) +
    ike.ipsecSaList.countP fun sa => sa.deleting = false

/-- The interrupt of an IKE SA: the last packet is sent again, and it may be marked for
deletion. -/
def interruptIkeSa (timedOut : Nat → Bool) (ike : IkeServer) (sa : Nat) :
    Except Fault IkeServer := do
  let ikeSa ← ike.ikeSa sa
  let c ← ike.ikeClient ikeSa.ikeClient
  if c.currentIkeSa ≠ some sa ∧ timedOut sa then markIkeSaAsDeleted ike sa else pure ike

def interruptIPsecSa (timedOut : Nat → Bool) (ike : IkeServer) (sa : Nat) :
    Except Fault IkeServer := do
  let ipsecSa ← ike.ipsecSa sa
  let c ← ike.ikeClient ipsecSa.ikeClient
  if c.currentIpSecSaRecv ≠ some sa ∧ c.currentIpSecSaSend ≠ some sa then do
    let _ ← lastCommTickOf ike ipsecSa
    if timedOut sa then markIPsecSaAsDeleted ike sa else pure ike
  else pure ike

/-- `IPsecSendPacketByIkeClient`; the packet may reach the soft limit of the SA. -/
def ipsecSendPacketByIkeClient (c : Nat) (ike : IkeServer) (softLimit : Bool) :
    Except Fault IkeServer := do
  let client ← ike.ikeClient c
  match client.currentIpSecSaSend with
  | none => pure ike
  | some send => do
      let sa ← ike.ipsecSa send
      let _ ← ike.ikeClient sa.ikeClient
      if softLimit ∧ sa.startQMFlagSet = false then
        pure
          ((ike.setIPsecSa send fun sa => { sa with startQMFlagSet := true }).setIkeClient
            sa.ikeClient fun client => { client with startQuickModeAsSoon := true })
      else pure ike

def interruptQuickMode (interrupt : Interrupt) (c : Nat) : Except Fault IkeServer := do
  let client ← ike.ikeClient c
  match client.currentIkeSa, interrupt.quickMode c with
  | some sa, some start => do
      let sa ← ike.ikeSa sa
      if client.deleting ∨ sa.deleting then pure ike
      else
        startQuickMode
          (ike.setIkeClient c fun client => { client with startQuickModeAsSoon := false })
          c start
  | _, _ => pure ike

def interruptServers (interrupt : Interrupt) (c : Nat) : Except Fault IkeServer := do
  let client ← ike.ikeClient c
  if client.l2tp ∨ client.etherIP then
    (interrupt.sends c).foldlM (ipsecSendPacketByIkeClient c) ike
  else pure ike

/-- Dead peer detection of a client. -/
def interruptDpd (interrupt : Interrupt) (c : Nat) : Except Fault Unit := do
  let client ← ike.ikeClient c
  match client.currentIkeSa with
  | none => pure ()
  | some sa => do
      let sa ← ike.ikeSa sa
      if interrupt.dpd c ∧ sa.established ∧ sa.dpdRfc3706 then
        sendInformationalExchangePacketEx ike c false
      else pure ()

def interruptIkeClient (interrupt : Interrupt) (ike : IkeServer) (c : Nat) :
    Except Fault IkeServer := do
  let ike ← interruptQuickMode ike interrupt c
  let ike ← if interrupt.clientTimedOut c then markIkeClientAsDeleted ike c else pure ike
  let ike ← interruptServers ike interrupt c
  interruptDpd ike interrupt c
  pure ike

def processIKEInterrupts (interrupt : Interrupt) : Except Fault IkeServer := do
  let ike := { ike with now := interrupt.now }
  let ike ← (ike.ikeSaList.map IkeSa.address).foldlM
    (interruptIkeSa interrupt.ikeSaTimedOut) ike
  let ike ← (ike.ipsecSaList.map IPsecSa.address).foldlM
    (interruptIPsecSa interrupt.ipsecSaTimedOut) ike
  let ike ← (ike.clientList.map IkeClient.address).foldlM (interruptIkeClient interrupt) ike
  purgeWhileChanged (unmarked ike + 1) ike

/-- What an event does, or how the server stops. -/
def proc : Event → Except Fault IkeServer
  | .main arrival header content =>
      procIkeMainModePacketRecv { ike with now := arrival.now } arrival header content
  | .aggressive arrival header content =>
      procIkeAggressiveModePacketRecv { ike with now := arrival.now } arrival header content
  | .quick arrival header content =>
      procIkeQuickModePacketRecv algorithms { ike with now := arrival.now } arrival header
        content
  | .informational arrival header content =>
      procIkeInformationalExchangePacketRecv { ike with now := arrival.now } arrival header
        content
  | .esp arrival data =>
      procIPsecEspPacketRecv algorithms { ike with now := arrival.now } arrival data
  | .interrupt interrupt => processIKEInterrupts ike interrupt

/-- The state after an event. -/
def step (event : Event) : Option IkeServer :=
  (proc algorithms ike event).toOption

/-- The states that the server reaches, whatever happens. -/
abbrev Reached (ike : IkeServer) : Prop :=
  Reaches (step algorithms) (fun _ _ => True) {} ike

end

end Ike
end SoftEther
