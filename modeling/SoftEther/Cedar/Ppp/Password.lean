import SoftEther.Mayaqua.Buf
import SoftEther.Mayaqua.Network
import SoftEther.Mayaqua.StrCmpi

/-!
# MS-CHAPv2 data in a password

A PPP session logs in to the virtual hub in the same process with a password.  For a
CHAP response the password is a text that carries the challenges, the response and the
address of the `EAP_CLIENT`, separated by colons behind the name that the client has
sent; for PAP it is what the client has sent.  `ServerAccept` and the functions it calls
take the text apart again.

The address is modelled by its bytes in memory; `BinToStr` and `Copy` treat it as such.
-/

namespace SoftEther
namespace Ppp

open Network

def MAX_USERNAME_LEN : Nat := 255

def MAX_HUBNAME_LEN : Nat := 255

def IPC_PASSWORD_MSCHAPV2_TAG : CString :=
  .ofAscii "xH7DiNlurDhcYV4a:"

def isEmptyStr (str : List UInt8) : Bool :=
  trim str = []

/-- `BinToStr` into a buffer that is large enough. -/
def binToStr (data : List UInt8) : List UInt8 :=
  data.flatMap hex2

/-! ## The client side -/

/-- The members of `PPP_SESSION` that the password is made from. -/
structure PppSession where
  /-- `Ipc` is not `NULL`. -/
  ipc : Bool
  msChapV2ServerChallenge : ByteArrayOf 16
  /-- The bytes of `EapClient`. -/
  eapClient : ByteArrayOf 8

/-- What the server knows about the names of hubs. -/
structure Hubs where
  /-- `IsHubExistsWithLock`. -/
  isHubExists : CString → Bool
  /-- `L2TP_DefaultHub` of the services. -/
  l2tpDefaultHub : CString

/-- `d.UserName` and `d.HubName` of `ETHERIP_ID`. -/
structure EtherIpId where
  userName : CString
  hubName : CString

/-- The bytes of a string up to a place and behind it. -/
def splitAt (src : List UInt8) (place : Nat) : CString × CString :=
  (.ofBuffer (src.take place), .ofBuffer (src.drop (place + 1)))

/-- `token1` and `token2` of `PPPParseUsername`: the name of the user, and the name of
the hub or nothing. -/
def parseTokens (hubs : Hubs) (src : List UInt8) : CString × CString :=
  let len := src.length
  let firstEn := src.findIdx (· = 92)
  let whole : CString × CString := (.ofBuffer src, .ofBuffer [])
  if 1 ≤ firstEn ∧ firstEn < len - 1 then
    let tokens := (splitAt src firstEn).swap
    if hubs.isHubExists tokens.2 then tokens else whole
  else
    let fromEnd := src.reverse.findIdx (· = 64)
    let tokens := if fromEnd = len then whole else splitAt src (len - 1 - fromEnd)
    if isEmptyStr tokens.2.bytes = false ∧ hubs.isHubExists tokens.2 = false then whole
    else tokens

def pppParseUsername (hubs : Hubs) (srcUsername : CString) : EtherIpId :=
  let src := trim (strCpy MAX_SIZE srcUsername).bytes
  let tokens := parseTokens hubs src
  let hubName := if isEmptyStr tokens.2.bytes then hubs.l2tpDefaultHub else tokens.2
  { userName := strCpy (MAX_USERNAME_LEN + 1) tokens.1
    hubName := strCpy (MAX_HUBNAME_LEN + 1) hubName }

/-- What `NewIPC` is called with. -/
structure Login where
  hubName : CString
  userName : CString
  password : CString

structure ChapResponse where
  /-- `username_tmp`. -/
  username : CString
  /-- `client_challenge_16`. -/
  clientChallenge : ByteArrayOf 16
  /-- `client_response_24`. -/
  clientResponse : ByteArrayOf 24

def chapResponse (data : List UInt8) : Option ChapResponse :=
  if large : 51 ≤ data.length ∧ data.head? = some 49 then
    let clientResponseBuffer := (data.drop 1).take 49
    have read : clientResponseBuffer.length = 49 := by
      rw [List.length_take, List.length_drop]
      omega
    some
      { username := .ofBuffer ((data.drop 50).take (MAX_SIZE - 1))
        clientChallenge := ⟨clientResponseBuffer.take 16, by
          rw [List.length_take]
          omega⟩
        clientResponse := ⟨(clientResponseBuffer.drop 24).take 24, by
          rw [List.length_take, List.length_drop]
          omega⟩ }
  else none

/-- The data behind the name in a text with MS-CHAPv2 data. -/
def challengeText (session : PppSession) (response : ChapResponse) : List UInt8 :=
  binToStr session.msChapV2ServerChallenge.val ++ 58 ::
    (binToStr response.clientChallenge.val ++ 58 ::
      (binToStr response.clientResponse.val ++ 58 :: binToStr session.eapClient.val))

def chapPassword (session : PppSession) (response : ChapResponse) : CString :=
  strCpy MAX_SIZE
    (.ofBuffer
      (IPC_PASSWORD_MSCHAPV2_TAG.bytes ++
        (response.username.bytes ++ 58 :: challengeText session response)))

/-- The name and the password in a PAP request. -/
def papFields : List UInt8 → Option (CString × CString)
  | [] => none
  | lenId :: data =>
      if lenId.toNat ≤ data.length then
        match data.drop lenId.toNat with
        | [] => none
        | lenPass :: rest =>
            if lenPass.toNat ≤ rest.length then
              some (.ofBuffer (data.take lenId.toNat), .ofBuffer (rest.take lenPass.toNat))
            else none
      else none

def chapLogin (hubs : Hubs) (session : PppSession) (response : ChapResponse) : Login where
  hubName := (pppParseUsername hubs response.username).hubName
  userName := (pppParseUsername hubs response.username).userName
  password := chapPassword session response

def papLogin (hubs : Hubs) (username password : CString) : Login where
  hubName := (pppParseUsername hubs username).hubName
  userName := (pppParseUsername hubs username).userName
  password := password

/-- A packet of the client that `PPPProcessRequestPacket` authenticates, with its data. -/
inductive AuthRequest where
  | chap (data : List UInt8)
  | pap (data : List UInt8)

/-- The call of `NewIPC` that `PPPProcessRequestPacket` makes. -/
def processRequestPacket (hubs : Hubs) (session : PppSession) : AuthRequest → Option Login
  | .chap data =>
      if session.ipc then none
      else
        match chapResponse data with
        | none => none
        | some response => some (chapLogin hubs session response)
  | .pap data =>
      if session.ipc then none
      else
        match papFields data with
        | none => none
        | some (username, password) =>
            if isEmptyStr (pppParseUsername hubs username).userName.bytes then none
            else some (papLogin hubs username password)

/-! ## The server side -/

/-- `IPC_MSCHAP_V2_AUTHINFO`. -/
structure MsChapV2AuthInfo where
  /-- `MsChapV2_PPPUsername`. -/
  pppUsername : List UInt8
  /-- `MsChapV2_ServerChallenge`. -/
  serverChallenge : ByteArrayOf 16
  /-- `MsChapV2_ClientChallenge`. -/
  clientChallenge : ByteArrayOf 16
  /-- `MsChapV2_ClientResponse`. -/
  clientResponse : ByteArrayOf 24
  /-- The bytes of `MsChapV2_EapClient`. -/
  eapClient : ByteArrayOf 8
  deriving DecidableEq

/-- `AuthType` of a user. -/
inductive AuthType where
  | anonymous
  | password
  | userCert
  | rootCert
  | radius
  | nt
  deriving DecidableEq

/-- The hub that a login reaches: its users, and what the checks say. -/
structure Server where
  /-- The type of the user that `AcGetUser` finds. -/
  authType : CString → Option AuthType
  samePassword : CString → CString → Bool
  sameAdministratorPassword : CString → Bool
  sameResponse : CString → MsChapV2AuthInfo → Bool
  /-- `MsChapV2DoBruteForce` finds a password. -/
  bruteForce : MsChapV2AuthInfo → Bool
  /-- `GSF_DISABLE_RADIUS_AUTH`. -/
  disableRadiusAuth : Bool
  radiusServer : CString → Bool
  radiusPassword : CString → CString → Bool
  radiusResponse : CString → MsChapV2AuthInfo → Bool
  /-- `EapClientSendMsChapv2AuthClientResponse` or its sibling for PEAP. -/
  eapClientResponse : ByteArrayOf 8 → MsChapV2AuthInfo → Bool
  /-- The program runs on Windows. -/
  win32 : Bool
  /-- `MsCheckLogon`. -/
  checkLogon : CString → CString → Bool
  /-- `MsPerformMsChapV2AuthByLsa`. -/
  lsaResponse : CString → MsChapV2AuthInfo → Bool

/-- What is done with the text of a password. -/
inductive Action where
  | checkedPlain (password : CString)
  | extracted (info : MsChapV2AuthInfo)
  /-- The memory at an address is read and written as an `EAP_CLIENT`. -/
  | dereferenced (eapClient : ByteArrayOf 8)
  deriving DecidableEq

variable {username serverChallenge clientChallenge clientResponse eapClient : List UInt8}
    {password : CString} {size : Nat}

def MsChapV2AuthInfo.IsOf (info : MsChapV2AuthInfo) (session : PppSession) : Prop :=
  info.serverChallenge = session.msChapV2ServerChallenge ∧
    info.eapClient = session.eapClient

section Actions

variable {property : Action → Prop}

variable {server : Server} {username password : CString}

end Actions

variable {username password : CString} {session : PppSession} {data : List UInt8}

/-- The packet is a CHAP response. -/
def AuthRequest.IsChap : AuthRequest → Prop
  | .chap _ => True
  | .pap _ => False

/-- What may be done with the password of a request: MS-CHAPv2 data are those that the
session has put in for a CHAP response. -/
def Genuine (session : PppSession) (request : AuthRequest) : Action → Prop
  | .checkedPlain _ => True
  | .extracted info => request.IsChap ∧ info.IsOf session
  | .dereferenced eapClient => request.IsChap ∧ eapClient = session.eapClient

theorem processRequestPacket_chap
    {hubs : Hubs}
    {login : Login} :
    processRequestPacket hubs session (.chap data) = some login ↔
      ∃ response, session.ipc = false ∧ chapResponse data = some response ∧
        chapLogin hubs session response = login := by
  unfold processRequestPacket
  dsimp only
  generalize chapResponse data = read
  cases read with
  | none => simp
  | some response => simp

end Ppp
end SoftEther
