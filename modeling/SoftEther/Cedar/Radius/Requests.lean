import SoftEther.Cedar.Radius.Codec

/-!
# The requests of the MS-CHAPv2 authentication

`EapClientSendMsChapv2AuthClientResponse` sends two requests.  Both have the general attributes,
the last state of the server and an EAP message; the first message has the name of the user behind
59 bytes.  The buffers of the client hold names that are longer than what an attribute can hold.
-/

namespace SoftEther
namespace Radius

def EAP_TYPE_MS_AUTH : UInt8 := 26

def EAP_MSCHAPV2_OP_RESPONSE : UInt8 := 2

def EAP_MSCHAPV2_OP_SUCCESS : UInt8 := 3

def eapRequest (e : EapClient) (eap : List UInt8) : Packet :=
  let p := eapSetRadiusGeneralAttributes
    (newRadiusPacket RADIUS_CODE_ACCESS_REQUEST e.nextRadiusPacketId) e
  { p with
    avpList := p.avpList ++
      (if e.lastState = [] then [] else [newRadiusAvp RADIUS_ATTRIBUTE_STATE 0 0 e.lastState]) ++
      [newRadiusAvp RADIUS_ATTRIBUTE_EAP_MESSAGE 0 0 eap] }

section

variable (e : EapClient) (eapId chapId : UInt8)
variable (clientResponse : ByteArrayOf 24) (clientChallenge : ByteArrayOf 16)

/-- `EAP_MSCHAPV2_RESPONSE`; `eapId` is `NextEapId` and `chapId` that of the challenge. -/
def eapMsChapV2Response : List UInt8 :=
  [EAP_CODE_RESPONSE, eapId] ++ (bigEndian 2 (59 + e.username.strLen) ++
    ([EAP_TYPE_MS_AUTH, EAP_MSCHAPV2_OP_RESPONSE, chapId] ++
      (bigEndian 2 (54 + e.username.strLen) ++ ([49] ++ (clientChallenge.val ++
        (List.replicate 8 0 ++ (clientResponse.val ++ ([0] ++ (e.username.bytes.take 255 ++
          List.replicate (256 - min 255 e.username.strLen) 0)))))))))

/-- The EAP message of the first request: what is sent of the structure. -/
def eap1 : List UInt8 :=
  (eapMsChapV2Response e eapId chapId clientResponse clientChallenge).take (e.username.strLen + 59)

/-- `EAP_MSCHAPV2_SUCCESS_CLIENT`, the EAP message of the second request. -/
def eap2 : List UInt8 :=
  [EAP_CODE_RESPONSE, eapId] ++ bigEndian 2 6 ++ [EAP_TYPE_MS_AUTH, EAP_MSCHAPV2_OP_SUCCESS]

/-- The first request of `EapClientSendMsChapv2AuthClientResponse`. -/
def request1 : Packet :=
  eapRequest e (eap1 e eapId chapId clientResponse clientChallenge)

/-- Its second request, the final packet. -/
def request2 : Packet :=
  eapRequest e (eap2 eapId)

end

/-! ## The attributes of a request -/

/-- The sizes are those of the arrays of `EAP_CLIENT`; a state came in one attribute. -/
structure EapClient.Held (e : EapClient) : Prop where
  username : e.username.strLen ≤ 255
  clientIpStr : e.clientIpStr.strLen ≤ 255
  calledStationStr : e.calledStationStr.strLen ≤ 255
  inVpnProtocolState : e.inVpnProtocolState.strLen ≤ 63
  /-- `LastStateSize`. -/
  lastState : e.lastState.length ≤ 255

/-- The strings of the client fit into an attribute; a blank station is left out. -/
structure EapClient.AttributesFit (e : EapClient) : Prop where
  username : e.username.strLen ≤ 253
  clientIpStr : e.clientIpStr.strLen ≤ 253
  calledStationStr : trim e.calledStationStr.bytes = [] ∨ e.calledStationStr.strLen ≤ 253
  lastState : e.lastState.length ≤ 253

def attributesBefore (e : EapClient) : List Avp :=
  (eapSetRadiusGeneralAttributes
    (newRadiusPacket RADIUS_CODE_ACCESS_REQUEST e.nextRadiusPacketId) e).avpList ++
    (if e.lastState = [] then [] else [newRadiusAvp RADIUS_ATTRIBUTE_STATE 0 0 e.lastState])

section

variable {type : UInt8} {data : List UInt8}

theorem length_data_newRadiusAvp (type : UInt8) (vendorId : UInt32) (vendorCode : UInt8)
    (data : List UInt8) :
    (newRadiusAvp type vendorId vendorCode data).data.length = data.length % 256 := by
  have less := Nat.mod_le data.length 256
  rw [newRadiusAvp, List.length_take]
  omega

theorem newRadiusAvp_fits_iff (plain : type ≠ RADIUS_ATTRIBUTE_VENDOR_SPECIFIC) :
    (newRadiusAvp type 0 0 data).Fits ↔ data.length % 256 ≤ 253 := by
  have same : (newRadiusAvp type 0 0 data).type ≠ RADIUS_ATTRIBUTE_VENDOR_SPECIFIC := plain
  rw [Avp.Fits, if_pos same, length_data_newRadiusAvp]
  exact and_iff_left ⟨rfl, rfl⟩

theorem newRadiusAvp_sized (plain : type ≠ RADIUS_ATTRIBUTE_VENDOR_SPECIFIC) (data : List UInt8) :
    (newRadiusAvp type 0 0 data).Fits ∨ (newRadiusAvp type 0 0 data).Overflows := by
  by_cases fits : data.length % 256 ≤ 253
  · exact Or.inl ((newRadiusAvp_fits_iff plain).mpr fits)
  · right
    refine ⟨plain, ?_⟩
    rw [length_data_newRadiusAvp]
    omega

theorem microsoftAvp_fits (vendorCode : UInt8) (small : data.length ≤ 247) :
    (microsoftAvp vendorCode data).Fits := by
  have vendor : ¬(microsoftAvp vendorCode data).type ≠ RADIUS_ATTRIBUTE_VENDOR_SPECIFIC :=
    not_not.mpr rfl
  rw [Avp.Fits, if_neg vendor, microsoftAvp, length_data_newRadiusAvp]
  omega

theorem forall_optionalAvp_iff (type : UInt8) (str : CString) (property : Avp → Prop) :
    (∀ a ∈ optionalAvp type str, property a) ↔
      trim str.bytes = [] ∨ property (newRadiusAvp type 0 0 str.bytes) := by
  unfold optionalAvp
  by_cases blank : trim str.bytes = []
  · rw [if_pos blank]
    simp [blank]
  · rw [if_neg blank, List.forall_mem_singleton]
    simp [blank]

theorem forall_state_iff (lastState : List UInt8) (property : Avp → Prop) :
    (∀ a ∈ (if lastState = [] then [] else [newRadiusAvp RADIUS_ATTRIBUTE_STATE 0 0 lastState]),
        property a) ↔
      lastState = [] ∨ property (newRadiusAvp RADIUS_ATTRIBUTE_STATE 0 0 lastState) := by
  by_cases nothing : lastState = []
  · rw [if_pos nothing]
    simp [nothing]
  · rw [if_neg nothing, List.forall_mem_singleton]
    simp [nothing]

end

theorem forall_attributesBefore_iff (e : EapClient) (property : Avp → Prop) :
    (∀ a ∈ attributesBefore e, property a) ↔
      (property (newRadiusAvp RADIUS_ATTRIBUTE_SERVICE_TYPE 0 0 (writeBufInt 2)) ∧
        property (newRadiusAvp RADIUS_ATTRIBUTE_FRAMED_PROTOCOL 0 0 (writeBufInt 1)) ∧
        property (newRadiusAvp RADIUS_ATTRIBUTE_NAS_PORT_TYPE 0 0 (writeBufInt 5))) ∧
      (trim e.calledStationStr.bytes = [] ∨
        property (newRadiusAvp RADIUS_ATTRIBUTE_CALLED_STATION_ID 0 0 e.calledStationStr.bytes)) ∧
      (property (newRadiusAvp RADIUS_ATTRIBUTE_CALLING_STATION_ID 0 0 e.clientIpStr.bytes) ∧
        property (newRadiusAvp RADIUS_ATTRIBUTE_TUNNEL_CLIENT_ENDPOINT 0 0 e.clientIpStr.bytes) ∧
        property (newRadiusAvp RADIUS_ATTRIBUTE_USER_NAME 0 0 e.username.bytes) ∧
        property (newRadiusAvp RADIUS_ATTRIBUTE_NAS_ID 0 0 (ascii "SoftEther VPN Server"))) ∧
      (trim e.inVpnProtocolState.bytes = [] ∨
        property (newRadiusAvp RADIUS_ATTRIBUTE_PROXY_STATE 0 0 e.inVpnProtocolState.bytes)) ∧
      (property (microsoftAvp 47 (writeBufInt 2)) ∧
        property (microsoftAvp 9 (writeBufInt RADIUS_VENDOR_MICROSOFT)) ∧
        property (microsoftAvp 18 (ascii "MSRASV5.20")) ∧
        property (microsoftAvp 56 (ascii "\x7b5DC53D72-9815-4E97-AC91-339BAFEA6C48\x7d")) ∧
        property (microsoftAvp 35 (ascii "MSRASV5.20")) ∧
        property (microsoftAvp 34 (ascii "MSRASV5.20"))) ∧
      (e.lastState = [] ∨
        property (newRadiusAvp RADIUS_ATTRIBUTE_STATE 0 0 e.lastState)) := by
  unfold attributesBefore eapSetRadiusGeneralAttributes newRadiusPacket
  simp only [List.forall_mem_append, forall_optionalAvp_iff, forall_state_iff, List.nil_append,
    List.forall_mem_cons, and_assoc]
  simp only [List.not_mem_nil, false_implies, implies_true, true_and]

theorem attributesBefore_fit_iff {e : EapClient} (held : e.Held) :
    (∀ a ∈ attributesBefore e, a.Fits) ↔ e.AttributesFit := by
  have username := held.username
  have clientIpStr := held.clientIpStr
  have calledStationStr := held.calledStationStr
  have inVpnProtocolState := held.inVpnProtocolState
  have lastState := held.lastState
  unfold CString.strLen at username clientIpStr calledStationStr inVpnProtocolState
  have constant (type : UInt8) (data : List UInt8) (plain : type ≠ RADIUS_ATTRIBUTE_VENDOR_SPECIFIC)
      (small : data.length ≤ 253) : (newRadiusAvp type 0 0 data).Fits :=
    (newRadiusAvp_fits_iff plain).mpr (by omega)
  have microsoft (vendorCode : UInt8) (data : List UInt8) (small : data.length ≤ 247) :
      (microsoftAvp vendorCode data).Fits := microsoftAvp_fits vendorCode small
  have held_iff {type : UInt8} {data : List UInt8} (plain : type ≠ RADIUS_ATTRIBUTE_VENDOR_SPECIFIC)
      (small : data.length ≤ 255) :
      (newRadiusAvp type 0 0 data).Fits ↔ data.length ≤ 253 := by
    rw [newRadiusAvp_fits_iff plain, Nat.mod_eq_of_lt (by omega)]
  rw [forall_attributesBefore_iff, held_iff (by decide) clientIpStr,
    held_iff (by decide) clientIpStr, held_iff (by decide) username,
    held_iff (by decide) calledStationStr, held_iff (by decide) lastState]
  constructor
  · rintro ⟨-, called, ⟨clientIp, -, user, -⟩, -, -, state⟩
    exact {
      username := user
      clientIpStr := clientIp
      calledStationStr := called
      lastState := by
        obtain nothing | small := state
        · rw [nothing]
          exact Nat.zero_le _
        · exact small }
  · intro fit
    refine ⟨⟨?_, ?_, ?_⟩, fit.calledStationStr, ⟨fit.clientIpStr, fit.clientIpStr, fit.username, ?_⟩,
      Or.inr ?_, ⟨?_, ?_, ?_, ?_, ?_, ?_⟩, Or.inr fit.lastState⟩
    · exact constant _ _ (by decide) (by decide)
    · exact constant _ _ (by decide) (by decide)
    · exact constant _ _ (by decide) (by decide)
    · exact constant _ _ (by decide) (by decide)
    · exact constant _ _ (by decide) (by omega)
    · exact microsoft _ _ (by decide)
    · exact microsoft _ _ (by decide)
    · exact microsoft _ _ (by decide)
    · exact microsoft _ _ (by decide)
    · exact microsoft _ _ (by decide)
    · exact microsoft _ _ (by decide)

theorem attributesBefore_sized (e : EapClient) :
    ∀ a ∈ attributesBefore e, a.Fits ∨ a.Overflows := by
  have microsoft (vendorCode : UInt8) (data : List UInt8) (small : data.length ≤ 247) :
      (microsoftAvp vendorCode data).Fits ∨ (microsoftAvp vendorCode data).Overflows :=
    Or.inl (microsoftAvp_fits vendorCode small)
  rw [forall_attributesBefore_iff]
  refine ⟨⟨?_, ?_, ?_⟩, Or.inr ?_, ⟨?_, ?_, ?_, ?_⟩, Or.inr ?_, ⟨?_, ?_, ?_, ?_, ?_, ?_⟩,
    Or.inr ?_⟩
  all_goals first
    | exact newRadiusAvp_sized (by decide) _
    | exact microsoft _ _ (by decide)

theorem attributesBefore_others (e : EapClient) :
    ∀ a ∈ attributesBefore e, a.type ≠ RADIUS_ATTRIBUTE_EAP_MESSAGE ∧
      a.type ≠ RADIUS_ATTRIBUTE_EAP_AUTHENTICATOR := by
  rw [forall_attributesBefore_iff]
  simp +decide [newRadiusAvp]

theorem length_attributesBefore_le (e : EapClient) : (attributesBefore e).length ≤ 200 := by
  have called : (optionalAvp RADIUS_ATTRIBUTE_CALLED_STATION_ID e.calledStationStr).length ≤ 1 := by
    unfold optionalAvp
    split
    · exact Nat.zero_le _
    · exact Nat.le_refl _
  have proxy : (optionalAvp RADIUS_ATTRIBUTE_PROXY_STATE e.inVpnProtocolState).length ≤ 1 := by
    unfold optionalAvp
    split
    · exact Nat.zero_le _
    · exact Nat.le_refl _
  have state : (if e.lastState = [] then []
      else [newRadiusAvp RADIUS_ATTRIBUTE_STATE 0 0 e.lastState]).length ≤ 1 := by
    split
    · exact Nat.zero_le _
    · exact Nat.le_refl _
  unfold attributesBefore eapSetRadiusGeneralAttributes newRadiusPacket
  simp only [List.length_append, List.length_cons, List.length_nil]
  omega

theorem eapRequest_request
    (e : EapClient)
    {eap : List UInt8}
    (header : 5 ≤ eap.length)
    (size : eapLen eap = eap.length) :
    EapRequest (eapRequest e eap) (attributesBefore e) eap where
  fresh := rfl
  avpList := rfl
  others := attributesBefore_others e
  sized := attributesBefore_sized e
  few := length_attributesBefore_le e
  header := header
  size := size

/-! ## The EAP messages -/

theorem length_eap1
    {e : EapClient}
    (held : e.Held)
    (eapId chapId : UInt8)
    (clientResponse : ByteArrayOf 24)
    (clientChallenge : ByteArrayOf 16) :
    (eap1 e eapId chapId clientResponse clientChallenge).length = e.username.strLen + 59 := by
  have small := held.username
  unfold eap1 eapMsChapV2Response
  simp only [List.length_take, List.length_append, length_bigEndian, clientChallenge.property,
    clientResponse.property, List.length_replicate, List.length_cons, List.length_nil]
  unfold CString.strLen at small ⊢
  omega

/-- The first message says its size. -/
theorem eapLen_eap1
    {e : EapClient}
    (held : e.Held)
    (eapId chapId : UInt8)
    (clientResponse : ByteArrayOf 24)
    (clientChallenge : ByteArrayOf 16) :
    eapLen (eap1 e eapId chapId clientResponse clientChallenge) = e.username.strLen + 59 := by
  have small := held.username
  unfold eapLen eap1 eapMsChapV2Response
  rw [List.drop_take, List.take_take, Nat.min_eq_left (by omega), List.drop_left' (by rfl),
    List.take_left' (length_bigEndian 2 _), fromBigEndian_bigEndian (by omega), Nat.add_comm]

/-- A request comes back with all its attributes and its whole EAP message, and is generated again,
exactly when the strings of the client fit into attributes, for the first request the name of the
user fits behind 59 bytes, and the authenticator was drawn at once. -/
theorem msChapV2Requests_roundTrip_iff
    (md5 : List UInt8 → ByteArrayOf 16)
    (spare : List UInt8)
    (rand16 again : ByteArrayOf 16)
    {e : EapClient}
    (held : e.Held)
    (eapId chapId : UInt8)
    (clientResponse : ByteArrayOf 24)
    (clientChallenge : ByteArrayOf 16) :
    (RoundTrips md5 spare e.sharedSecret.bytes rand16 again
        (request1 e eapId chapId clientResponse clientChallenge)
        (eap1 e eapId chapId clientResponse clientChallenge) ↔
      (e.AttributesFit ∧ e.username.strLen ≤ 194) ∧ (rand16 = zero16 → again = zero16)) ∧
    (RoundTrips md5 spare e.sharedSecret.bytes rand16 again (request2 e eapId) (eap2 eapId) ↔
      e.AttributesFit ∧ (rand16 = zero16 → again = zero16)) := by
  have length := length_eap1 held eapId chapId clientResponse clientChallenge
  have size := eapLen_eap1 held eapId chapId clientResponse clientChallenge
  have first := eapRequest_request e (show 5 ≤
    (eap1 e eapId chapId clientResponse clientChallenge).length by omega) (size.trans length.symm)
  have second := eapRequest_request e (show 5 ≤ (eap2 eapId).length from Nat.le_of_ble_eq_true rfl)
    (show eapLen (eap2 eapId) = (eap2 eapId).length from rfl)
  have short : (eap2 eapId).length ≤ 253 := Nat.le_of_ble_eq_true rfl
  constructor
  · unfold request1
    rw [first.comesBack_iff, attributesBefore_fit_iff held, length]
    refine and_congr_left fun _ => and_congr_right fun _ => ?_
    omega
  · unfold request2
    rw [second.comesBack_iff, attributesBefore_fit_iff held, and_iff_left short]

/-- A client whose user has a name of 195 bytes. -/
def longNameClient : EapClient :=
  { someClient with username := CString.ofBuffer (List.replicate 195 97) }

theorem longNameClient_held : longNameClient.Held where
  username := by decide +kernel
  clientIpStr := by decide +kernel
  calledStationStr := by decide +kernel
  inVpnProtocolState := by decide +kernel
  lastState := by decide +kernel

theorem msChapV2Requests_roundTrip_longName :
    (RoundTrips (fun _ => zero16) [] longNameClient.sharedSecret.bytes zero16 zero16
        (request1 longNameClient 1 2 ⟨List.replicate 24 3, rfl⟩ ⟨List.replicate 16 4, rfl⟩)
        (eap1 longNameClient 1 2 ⟨List.replicate 24 3, rfl⟩ ⟨List.replicate 16 4, rfl⟩) ↔
      (longNameClient.AttributesFit ∧ longNameClient.username.strLen ≤ 194) ∧
        (zero16 = zero16 → zero16 = zero16)) ∧
    (RoundTrips (fun _ => zero16) [] longNameClient.sharedSecret.bytes zero16 zero16
        (request2 longNameClient 1) (eap2 1) ↔
      longNameClient.AttributesFit ∧ (zero16 = zero16 → zero16 = zero16)) :=
  msChapV2Requests_roundTrip_iff (fun _ => zero16) [] zero16 zero16 longNameClient_held 1 2
    ⟨List.replicate 24 3, rfl⟩ ⟨List.replicate 16 4, rfl⟩

/-- The size of the EAP message with this name does not fit its byte: the request does not come back,
whatever the hash is. -/
theorem longName_lost :
    ¬∃ md5 : List UInt8 → ByteArrayOf 16,
      RoundTrips md5 [] longNameClient.sharedSecret.bytes zero16 zero16
        (request1 longNameClient 1 2 ⟨List.replicate 24 3, rfl⟩ ⟨List.replicate 16 4, rfl⟩)
        (eap1 longNameClient 1 2 ⟨List.replicate 24 3, rfl⟩ ⟨List.replicate 16 4, rfl⟩) := by
  rintro ⟨md5, roundTrips⟩
  have length := length_eap1 longNameClient_held 1 2 ⟨List.replicate 24 3, rfl⟩
    ⟨List.replicate 16 4, rfl⟩
  have size := eapLen_eap1 longNameClient_held 1 2 ⟨List.replicate 24 3, rfl⟩
    ⟨List.replicate 16 4, rfl⟩
  have long : longNameClient.username.strLen = 195 := by decide +kernel
  have request := eapRequest_request longNameClient
    (show 5 ≤ (eap1 longNameClient 1 2 ⟨List.replicate 24 3, rfl⟩
      ⟨List.replicate 16 4, rfl⟩).length by omega)
    (size.trans length.symm)
  unfold request1 at roundTrips
  rw [request.comesBack_iff] at roundTrips
  have small := roundTrips.1.2
  omega

end Radius
end SoftEther
