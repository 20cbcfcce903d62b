import SoftEther.Mayaqua.Buf
import SoftEther.Mayaqua.Memory

/-!
# RADIUS packets

`RADIUS_PACKET` of `Radius.c`, its generator and its parser.  The MD5 hash is a parameter.
-/

namespace SoftEther
namespace Radius

def RADIUS_ATTRIBUTE_USER_NAME : UInt8 := 1

def RADIUS_ATTRIBUTE_SERVICE_TYPE : UInt8 := 6

def RADIUS_ATTRIBUTE_FRAMED_PROTOCOL : UInt8 := 7

def RADIUS_ATTRIBUTE_STATE : UInt8 := 24

def RADIUS_ATTRIBUTE_VENDOR_SPECIFIC : UInt8 := 26

def RADIUS_ATTRIBUTE_CALLED_STATION_ID : UInt8 := 30

def RADIUS_ATTRIBUTE_CALLING_STATION_ID : UInt8 := 31

def RADIUS_ATTRIBUTE_NAS_ID : UInt8 := 32

def RADIUS_ATTRIBUTE_PROXY_STATE : UInt8 := 33

def RADIUS_ATTRIBUTE_NAS_PORT_TYPE : UInt8 := 61

def RADIUS_ATTRIBUTE_TUNNEL_CLIENT_ENDPOINT : UInt8 := 66

def RADIUS_ATTRIBUTE_EAP_MESSAGE : UInt8 := 79

def RADIUS_ATTRIBUTE_EAP_AUTHENTICATOR : UInt8 := 80

def RADIUS_ATTRIBUTE_VLAN_ID : UInt8 := 81

def RADIUS_ATTRIBUTE_FRAMED_INTERFACE_ID : UInt8 := 96

def RADIUS_CODE_ACCESS_REQUEST : UInt8 := 1

def RADIUS_VENDOR_MICROSOFT : UInt32 := 311

/-- `RADIUS_AVP`; `DataSize` is the length of the data, and `Data` is filled with zeros. -/
structure Avp where
  type : UInt8
  vendorId : UInt32 := 0
  vendorCode : UInt8 := 0
  data : List UInt8
  deriving DecidableEq

def zero16 : ByteArrayOf 16 :=
  ⟨List.replicate 16 0, length_zeros16⟩

/-- `RADIUS_PACKET`. -/
structure Packet where
  code : UInt8
  packetId : UInt8
  avpList : List Avp := []
  authenticator : ByteArrayOf 16 := zero16
  parseEapAuthMessagePos : Nat := 0
  parseAuthenticatorPos : Nat := 0
  parseEapMessage : Option (List UInt8) := none
  parseEapMessageDataSize : Nat := 0
  /-- `Parse_State` and `Parse_StateSize`. -/
  parseState : List UInt8 := []
  deriving DecidableEq

/-- `NewRadiusAvp`; the size is a `UCHAR`. -/
def newRadiusAvp (type : UInt8) (vendorId : UInt32) (vendorCode : UInt8) (data : List UInt8) :
    Avp :=
  { type := type
    vendorId := vendorId
    vendorCode := vendorCode
    data := data.take (data.length % 256) }

def newRadiusPacket (code packetId : UInt8) : Packet :=
  { code := code, packetId := packetId }

def getRadiusAvp (p : Packet) (type : UInt8) : Option Avp :=
  p.avpList.find? fun avp => avp.type = type

def HMAC_BLOCK_SIZE : Nat := 64

section

variable (md5 : List UInt8 → ByteArrayOf 16)

/-- The key of `HMacMd5`, filled with zeros; a long key is hashed. -/
def hmacKey (key : List UInt8) : List UInt8 :=
  let k := if key.length ≤ HMAC_BLOCK_SIZE then key else (md5 key).val
  k ++ List.replicate (HMAC_BLOCK_SIZE - k.length) 0

def hMacMd5 (key data : List UInt8) : ByteArrayOf 16 :=
  let pad1 := (hmacKey md5 key).map fun byte => byte ^^^ 0x36
  let data2 := (hmacKey md5 key).map fun byte => byte ^^^ 0x5c
  md5 (data2 ++ (md5 (pad1 ++ data)).val)

/-- An attribute in `GenerateRadiusPacket`. -/
def generateAvp (a : Avp) : List UInt8 :=
  if a.type ≠ RADIUS_ATTRIBUTE_VENDOR_SPECIFIC then
    let data := if a.type = RADIUS_ATTRIBUTE_EAP_AUTHENTICATOR ∧ a.data.length = 16 then
      zero16.val else a.data
    [a.type, UInt8.ofNat (a.data.length + 2)] ++ data
  else
    [a.type, UInt8.ofNat (a.data.length + 8)] ++ writeBufInt a.vendorId ++
      [a.vendorCode, UInt8.ofNat (a.data.length + 2)] ++ a.data

/-- `eap_auth_pos`: where the last authenticator of an EAP message stands behind `pos`. -/
def eapAuthPos : List Avp → Nat → Nat → Nat
  | [], _, eapAuthPos => eapAuthPos
  | a :: avpList, pos, eapAuthPos' =>
      eapAuthPos avpList (pos + (generateAvp a).length)
        (if a.type = RADIUS_ATTRIBUTE_EAP_AUTHENTICATOR then pos + 2 else eapAuthPos')

/-- The packet that `GenerateRadiusPacket` sends: one with an EAP message has an authenticator
for it, and `Authenticator` is random. -/
def preparePacket (rand16 : ByteArrayOf 16) (p : Packet) : Packet :=
  let existEapMsg := p.avpList.any fun a => a.type = RADIUS_ATTRIBUTE_EAP_MESSAGE
  let existEapAuth := p.avpList.any fun a => a.type = RADIUS_ATTRIBUTE_EAP_AUTHENTICATOR
  { p with
    avpList :=
      if existEapMsg ∧ existEapAuth = false then
        p.avpList ++ [newRadiusAvp RADIUS_ATTRIBUTE_EAP_AUTHENTICATOR 0 0 zero16.val]
      else p.avpList
    authenticator := if p.authenticator = zero16 then rand16 else p.authenticator }

/-- The bytes of `GenerateRadiusPacket`. -/
def packetBytes (sharedSecret : List UInt8) (p : Packet) : List UInt8 :=
  let avps := p.avpList.flatMap generateAvp
  let b := [p.code, p.packetId] ++ bigEndian 2 (20 + avps.length) ++ p.authenticator.val ++ avps
  let pos := eapAuthPos p.avpList 20 0
  if pos ≠ 0 then copyAt b pos (hMacMd5 md5 sharedSecret b).val else b

/-- `GenerateRadiusPacket`: the packet that it has prepared, and its bytes. -/
def generateRadiusPacket (rand16 : ByteArrayOf 16) (p : Packet) (sharedSecret : List UInt8) :
    Packet × List UInt8 :=
  let p := preparePacket rand16 p
  (p, packetBytes md5 sharedSecret p)

end

/-! ## Parsing -/

def readBufChar (unread : List UInt8) : UInt8 × List UInt8 :=
  (unread.headD 0, unread.drop 1)

def readBufShort (unread : List UInt8) : Nat × List UInt8 :=
  let (block, read, unread) := readBuf unread 2
  (if read = 2 then fromBigEndian block else 0, unread)

def eapLen (message : List UInt8) : Nat :=
  fromBigEndian ((message.drop 2).take 2)

/-- The first EAP message that is whole is kept. -/
def keepEapMessage (a : Avp) (p : Packet) : Packet :=
  if a.type = RADIUS_ATTRIBUTE_EAP_MESSAGE ∧ 5 ≤ a.data.length ∧ a.data.length ≤ 1500 ∧
      5 ≤ eapLen a.data ∧ eapLen a.data ≤ a.data.length ∧ p.parseEapMessage = none then
    { p with parseEapMessageDataSize := eapLen a.data, parseEapMessage := some a.data }
  else p

/-- An attribute that is not vendor specific, behind its type: nothing for a break, else the
packet and what is left, or an error. -/
def parsePlainAvp (type : UInt8) (current : Nat) (p : Packet) (unread : List UInt8) :
    Option (Option (Packet × List UInt8)) :=
  match unread with
  | [] => none
  | uc :: unread =>
      if uc.toNat < 2 then some none
      else
        let dataSize := uc.toNat - 2
        let p := if type = RADIUS_ATTRIBUTE_EAP_AUTHENTICATOR ∧ dataSize = 16 then
          { p with parseEapAuthMessagePos := current + 2 } else p
        if unread.length < dataSize then some none
        else
          let a : Avp := { type := type, data := unread.take dataSize }
          let p := keepEapMessage a p
          some (some ({ p with avpList := p.avpList ++ [a] }, unread.drop dataSize))

/-- An attribute that is vendor specific, behind its type. -/
def parseVendorAvp (type : UInt8) (p : Packet) (unread : List UInt8) :
    Option (Option (Packet × List UInt8)) :=
  match unread with
  | [] => none
  | uc :: unread =>
      if uc.toNat < 8 then some none
      else
        let dataSize := uc.toNat - 8
        let (vendorId, unread) := readBufInt unread
        let (vendorCode, unread) := readBufChar unread
        match unread with
        | [] => none
        | uc :: unread =>
            if subUINT uc.toNat 2 ≠ dataSize then some none
            else if unread.length < dataSize then some none
            else
              let a : Avp :=
                { type := type
                  vendorId := vendorId
                  vendorCode := vendorCode
                  data := unread.take dataSize }
              some (some ({ p with avpList := p.avpList ++ [a] }, unread.drop dataSize))

/-- The loop over the attributes, for at most as many as there are bytes; `total` is the size of
the buffer. -/
def parseAvps (total : Nat) : Nat → List UInt8 → Packet → Option Packet
  | 0, _, p => some p
  | _ + 1, [], p => some p
  | rounds + 1, type :: unread, p =>
      let parsed :=
        if type ≠ RADIUS_ATTRIBUTE_VENDOR_SPECIFIC then
          parsePlainAvp type (total - (unread.length + 1)) p unread
        else parseVendorAvp type p unread
      match parsed with
      | none => some p
      | some none => none
      | some (some (p, unread)) => parseAvps total rounds unread p

/-- The state, and EAP messages that come in several attributes; `spare` is what lies in a
buffer behind its bytes. -/
def finishParse (spare : List UInt8) (p : Packet) : Packet :=
  let p :=
    match getRadiusAvp p RADIUS_ATTRIBUTE_STATE with
    | none => p
    | some avp => { p with parseState := avp.data }
  let messages : List Avp := p.avpList.filter fun avp => avp.type = RADIUS_ATTRIBUTE_EAP_MESSAGE
  if 2 ≤ messages.length then
    let b : List UInt8 := messages.flatMap Avp.data
    if eapLen (b ++ spare) ≤ b.length then
      { p with
        parseEapMessageDataSize := min b.length 1500
        parseEapMessage := some (b.take 1500) }
    else p
  else p

def parseRadiusPacket (spare data : List UInt8) : Option Packet :=
  if data = [] then none
  else
    let (code, unread) := readBufChar data
    let (packetId, unread) := readBufChar unread
    let (len, unread) := readBufShort unread
    let parseAuthenticatorPos := data.length - unread.length
    let (_, read, unread) := readBuf unread 16
    if read ≠ 16 then none
    else if len < 20 then none
    else if data.length < len then none
    else
      let p : Packet :=
        { code := code
          packetId := packetId
          parseAuthenticatorPos := parseAuthenticatorPos }
      (parseAvps len len (unread.take (len - 20)) p).map (finishParse spare)

theorem length_parsePlainAvp
    {type : UInt8}
    {current : Nat}
    {p after : Packet}
    {unread rest : List UInt8}
    (parsed : parsePlainAvp type current p unread = some (some (after, rest))) :
    rest.length ≤ unread.length := by
  cases unread with
  | nil => exact nomatch parsed
  | cons uc unread =>
      unfold parsePlainAvp at parsed
      dsimp only at parsed
      split at parsed
      · exact nomatch parsed
      · split at parsed
        · exact nomatch parsed
        · have same := congrArg Prod.snd (Option.some.inj (Option.some.inj parsed))
          dsimp only at same
          rw [← same, List.length_drop, List.length_cons]
          omega

theorem length_parseVendorAvp
    {type : UInt8}
    {p after : Packet}
    {unread rest : List UInt8}
    (parsed : parseVendorAvp type p unread = some (some (after, rest))) :
    rest.length ≤ unread.length := by
  cases unread with
  | nil => exact nomatch parsed
  | cons uc unread =>
      unfold parseVendorAvp at parsed
      dsimp only at parsed
      split at parsed
      · exact nomatch parsed
      · have shorter := length_readBufInt unread
        cases left : (readBufChar (readBufInt unread).2).2 with
        | nil =>
            rw [left] at parsed
            exact nomatch parsed
        | cons size behind =>
            have behindShorter : (readBufChar (readBufInt unread).2).2.length =
                (readBufInt unread).2.length - 1 := List.length_drop
            rw [left, List.length_cons] at behindShorter
            rw [left] at parsed
            dsimp only at parsed
            split at parsed
            · exact nomatch parsed
            · split at parsed
              · exact nomatch parsed
              · have same := congrArg Prod.snd (Option.some.inj (Option.some.inj parsed))
                dsimp only at same
                rw [← same, List.length_drop, List.length_cons]
                omega

theorem parseAvps_rounds
    (total : Nat)
    {rounds : Nat}
    {unread : List UInt8}
    (enough : unread.length ≤ rounds)
    (p : Packet)
    (more : Nat) :
    parseAvps total (rounds + more) unread p = parseAvps total rounds unread p := by
  induction rounds generalizing unread p with
  | zero =>
      have nothing : unread = [] := List.length_eq_zero_iff.mp (Nat.le_zero.mp enough)
      rw [nothing]
      cases more with
      | zero => rfl
      | succ more =>
          rw [Nat.zero_add]
          rfl
  | succ rounds inductionHypothesis =>
      rw [Nat.add_right_comm]
      cases unread with
      | nil => rfl
      | cons type unread =>
          have fewer : unread.length ≤ rounds := Nat.le_of_succ_le_succ enough
          unfold parseAvps
          dsimp only
          split
          · rfl
          · rfl
          · rename_i after rest parsed
            have shorter : rest.length ≤ unread.length := by
              split at parsed
              · exact length_parsePlainAvp parsed
              · exact length_parseVendorAvp parsed
            exact inductionHypothesis (Nat.le_trans shorter fewer) after

end Radius
end SoftEther
