import SoftEther.Cedar.Radius.Eap

/-!
# The codec of RADIUS requests

`GenerateRadiusPacket` writes the size of an attribute into one byte, and `ParseRadiusPacket`
reads it from there.  A list of attributes is read back when each of them fits, and the packet is
rejected when one does not.  The requests of an `EAP_CLIENT` have strings of its buffers in their
attributes, and an EAP message that is longer than the name of the user.
-/

namespace SoftEther
namespace Radius

/-! ## Attributes that fit -/

/-- The bytes of an attribute, with its data as it stands. -/
def wireAvp (a : Avp) : List UInt8 :=
  if a.type ≠ RADIUS_ATTRIBUTE_VENDOR_SPECIFIC then
    [a.type, UInt8.ofNat (a.data.length + 2)] ++ a.data
  else
    [a.type, UInt8.ofNat (a.data.length + 8)] ++ writeBufInt a.vendorId ++
      [a.vendorCode, UInt8.ofNat (a.data.length + 2)] ++ a.data

/-- An attribute fits its size byte; one that is not vendor specific has no vendor. -/
def Avp.Fits (a : Avp) : Prop :=
  if a.type ≠ RADIUS_ATTRIBUTE_VENDOR_SPECIFIC then
    a.data.length ≤ 253 ∧ a.vendorId = 0 ∧ a.vendorCode = 0
  else a.data.length ≤ 247

/-- An attribute that is not vendor specific has a size of one byte too much. -/
def Avp.Overflows (a : Avp) : Prop :=
  a.type ≠ RADIUS_ATTRIBUTE_VENDOR_SPECIFIC ∧ 254 ≤ a.data.length ∧ a.data.length ≤ 255

def keptMessage (kept : Option (List UInt8) × Nat) (a : Avp) : Option (List UInt8) × Nat :=
  if a.type = RADIUS_ATTRIBUTE_EAP_MESSAGE ∧ 5 ≤ a.data.length ∧ a.data.length ≤ 1500 ∧
      5 ≤ eapLen a.data ∧ eapLen a.data ≤ a.data.length ∧ kept.1 = none then
    (some a.data, eapLen a.data)
  else kept

/-- What the packet has after the attribute. -/
structure Takes (p : Packet) (a : Avp) (after : Packet) : Prop where
  code : after.code = p.code
  packetId : after.packetId = p.packetId
  avpList : after.avpList = p.avpList ++ [a]
  /-- `Parse_EapMessage` and its size. -/
  kept : (after.parseEapMessage, after.parseEapMessageDataSize) =
    keptMessage (p.parseEapMessage, p.parseEapMessageDataSize) a

theorem keepEapMessage_eq (a : Avp) (p : Packet) :
    keepEapMessage a p =
      { p with
        parseEapMessage := (keptMessage (p.parseEapMessage, p.parseEapMessageDataSize) a).1
        parseEapMessageDataSize :=
          (keptMessage (p.parseEapMessage, p.parseEapMessageDataSize) a).2 } := by
  unfold keepEapMessage keptMessage
  split
  · rfl
  · rfl

theorem toNat_sizeByte {size : Nat} (small : size < 256) : (UInt8.ofNat size).toNat = size := by
  rw [UInt8.toNat_ofNat']
  exact Nat.mod_eq_of_lt small

theorem readBufChar_cons (byte : UInt8) (rest : List UInt8) :
    readBufChar (byte :: rest) = (byte, rest) := by
  rfl

section

variable {a : Avp}

theorem parsePlainAvp_wire
    (plain : a.type ≠ RADIUS_ATTRIBUTE_VENDOR_SPECIFIC)
    (fits : a.Fits)
    (current : Nat)
    (p : Packet)
    (rest : List UInt8) :
    ∃ after, Takes p a after ∧
      parsePlainAvp a.type current p (UInt8.ofNat (a.data.length + 2) :: (a.data ++ rest)) =
        some (some (after, rest)) := by
  rw [Avp.Fits, if_pos plain] at fits
  obtain ⟨small, vendorId, vendorCode⟩ := fits
  have size : (UInt8.ofNat (a.data.length + 2)).toNat = a.data.length + 2 :=
    toNat_sizeByte (by omega)
  have same : ({ type := a.type, data := a.data } : Avp) = a := by
    cases a
    simp only at vendorId vendorCode
    rw [vendorId, vendorCode]
  unfold parsePlainAvp
  dsimp only
  rw [size, Nat.add_sub_cancel, if_neg (by omega), List.length_append, if_neg (by omega),
    List.take_left, List.drop_left, same, keepEapMessage_eq]
  refine ⟨_, ?_, rfl⟩
  split
  · exact { code := rfl, packetId := rfl, avpList := rfl, kept := rfl }
  · exact { code := rfl, packetId := rfl, avpList := rfl, kept := rfl }

/-- A size that is one byte too long is rejected. -/
theorem parsePlainAvp_overflow
    (overflows : a.Overflows)
    (current : Nat)
    (p : Packet)
    (rest : List UInt8) :
    parsePlainAvp a.type current p (UInt8.ofNat (a.data.length + 2) :: rest) = some none := by
  obtain ⟨-, long, small⟩ := overflows
  have size : (UInt8.ofNat (a.data.length + 2)).toNat < 2 := by
    rw [UInt8.toNat_ofNat']
    omega
  rw [parsePlainAvp, if_pos size]

theorem parseVendorAvp_wire
    (vendor : a.type = RADIUS_ATTRIBUTE_VENDOR_SPECIFIC)
    (fits : a.Fits)
    (p : Packet)
    (rest : List UInt8) :
    ∃ after, Takes p a after ∧
      parseVendorAvp a.type p (UInt8.ofNat (a.data.length + 8) ::
        (writeBufInt a.vendorId ++
          (a.vendorCode :: UInt8.ofNat (a.data.length + 2) :: (a.data ++ rest)))) =
        some (some (after, rest)) := by
  rw [Avp.Fits, if_neg (not_not.mpr vendor)] at fits
  have size : (UInt8.ofNat (a.data.length + 8)).toNat = a.data.length + 8 :=
    toNat_sizeByte (by omega)
  have again : (UInt8.ofNat (a.data.length + 2)).toNat = a.data.length + 2 :=
    toNat_sizeByte (by omega)
  have less : subUINT (a.data.length + 2) 2 = a.data.length := by
    rw [subUINT_of_le (by omega) (by unfold X32; omega), Nat.add_sub_cancel]
  unfold parseVendorAvp
  simp only [readBufInt_write, readBufChar_cons]
  rw [size, Nat.add_sub_cancel, again, less, if_neg (by omega), if_neg (not_not.mpr rfl),
    List.length_append, if_neg (by omega), List.take_left, List.drop_left]
  refine ⟨_, ?_, rfl⟩
  have other : ¬a.type = RADIUS_ATTRIBUTE_EAP_MESSAGE := by
    rw [vendor]
    decide
  exact {
    code := rfl
    packetId := rfl
    avpList := rfl
    kept := by rw [keptMessage, if_neg fun both => other both.1] }

end

/-! ## Lists of attributes -/

theorem length_wireAvp_pos (a : Avp) : 2 ≤ (wireAvp a).length := by
  unfold wireAvp
  split
  · simp
  · simp only [List.length_append, List.length_cons, List.length_nil]
    omega

variable {a : Avp} {avps : List Avp}

theorem parseAvps_wire
    (fits : a.Fits)
    (total rounds : Nat)
    (p : Packet)
    (rest : List UInt8) :
    ∃ after, Takes p a after ∧
      parseAvps total (rounds + 1) (wireAvp a ++ rest) p = parseAvps total rounds rest after := by
  unfold wireAvp
  by_cases plain : a.type ≠ RADIUS_ATTRIBUTE_VENDOR_SPECIFIC
  · rw [if_pos plain, List.append_assoc]
    obtain ⟨after, takes, parsed⟩ := parsePlainAvp_wire plain fits
      (total - ((UInt8.ofNat (a.data.length + 2) :: (a.data ++ rest)).length + 1)) p rest
    refine ⟨after, takes, ?_⟩
    simp only [List.cons_append, List.nil_append, parseAvps]
    rw [if_pos plain, parsed]
  · rw [if_neg plain]
    obtain ⟨after, takes, parsed⟩ := parseVendorAvp_wire (not_not.mp plain) fits p rest
    refine ⟨after, takes, ?_⟩
    simp only [List.append_assoc, List.cons_append, List.nil_append, parseAvps]
    rw [if_neg plain, parsed]

theorem parseAvps_overflow
    (overflows : a.Overflows)
    (total rounds : Nat)
    (p : Packet)
    (rest : List UInt8) :
    parseAvps total (rounds + 1) (wireAvp a ++ rest) p = none := by
  unfold wireAvp
  rw [if_pos overflows.1]
  simp only [List.cons_append, List.nil_append, parseAvps]
  rw [if_pos overflows.1, parsePlainAvp_overflow overflows]

/-- What the packet has after some attributes. -/
structure TakesAll (p : Packet) (avps : List Avp) (after : Packet) : Prop where
  code : after.code = p.code
  packetId : after.packetId = p.packetId
  avpList : after.avpList = p.avpList ++ avps
  /-- `Parse_EapMessage` and its size. -/
  kept : (after.parseEapMessage, after.parseEapMessageDataSize) =
    avps.foldl keptMessage (p.parseEapMessage, p.parseEapMessageDataSize)

theorem parseAvps_flatMap_wire
    (fits : ∀ a ∈ avps, a.Fits)
    (total : Nat)
    {rounds : Nat}
    (enough : (avps.flatMap wireAvp).length ≤ rounds)
    (p : Packet) :
    ∃ after, TakesAll p avps after ∧
      parseAvps total rounds (avps.flatMap wireAvp) p = some after := by
  induction avps generalizing rounds p with
  | nil =>
      refine ⟨p, ?_, ?_⟩
      · exact {
          code := rfl
          packetId := rfl
          avpList := (List.append_nil _).symm
          kept := rfl }
      · cases rounds with
        | zero => rfl
        | succ rounds => rfl
  | cons a avps inductionHypothesis =>
      have longer := length_wireAvp_pos a
      rw [List.forall_mem_cons] at fits
      rw [List.flatMap_cons] at enough ⊢
      rw [List.length_append] at enough
      obtain ⟨fewer, rfl⟩ : ∃ fewer, rounds = fewer + 1 := ⟨rounds - 1, by omega⟩
      obtain ⟨middle, takes, parsed⟩ := parseAvps_wire fits.1 total fewer p (avps.flatMap wireAvp)
      obtain ⟨after, takesAll, parsedAll⟩ := @inductionHypothesis fits.2 fewer (by omega) middle
      refine ⟨after, ?_, parsed.trans parsedAll⟩
      exact {
        code := takesAll.code.trans takes.code
        packetId := takesAll.packetId.trans takes.packetId
        avpList := by rw [takesAll.avpList, takes.avpList, List.append_assoc, List.singleton_append]
        kept := by rw [takesAll.kept, takes.kept, List.foldl_cons] }

theorem parseAvps_flatMap_overflow
    (sized : ∀ a ∈ avps, a.Fits ∨ a.Overflows)
    (overflows : ¬∀ a ∈ avps, a.Fits)
    (total : Nat)
    {rounds : Nat}
    (enough : (avps.flatMap wireAvp).length ≤ rounds)
    (p : Packet) :
    parseAvps total rounds (avps.flatMap wireAvp) p = none := by
  induction avps generalizing rounds p with
  | nil => exact (overflows fun a listed => nomatch listed).elim
  | cons a avps inductionHypothesis =>
      have longer := length_wireAvp_pos a
      rw [List.forall_mem_cons] at sized overflows
      rw [List.flatMap_cons] at enough ⊢
      rw [List.length_append] at enough
      obtain ⟨fewer, rfl⟩ : ∃ fewer, rounds = fewer + 1 := ⟨rounds - 1, by omega⟩
      obtain fits | tooLong := sized.1
      · obtain ⟨middle, -, parsed⟩ := parseAvps_wire fits total fewer p (avps.flatMap wireAvp)
        rw [parsed]
        exact @inductionHypothesis sized.2 (fun all => overflows ⟨fits, all⟩) fewer (by omega) middle
      · exact parseAvps_overflow tooLong total fewer p _

/-! ## Packets with an EAP message -/

def eapAuthenticator (mac : ByteArrayOf 16) : Avp :=
  { type := RADIUS_ATTRIBUTE_EAP_AUTHENTICATOR, data := mac.val }

theorem eapAuthenticator_plain (mac : ByteArrayOf 16) :
    (eapAuthenticator mac).type ≠ RADIUS_ATTRIBUTE_VENDOR_SPECIFIC := by
  show RADIUS_ATTRIBUTE_EAP_AUTHENTICATOR ≠ RADIUS_ATTRIBUTE_VENDOR_SPECIFIC
  decide

theorem eapAuthenticator_fits (mac : ByteArrayOf 16) : (eapAuthenticator mac).Fits := by
  rw [Avp.Fits, if_pos (eapAuthenticator_plain mac)]
  refine ⟨?_, rfl, rfl⟩
  rw [eapAuthenticator, mac.property]
  decide

theorem generateAvp_eq_wire
    (other : a.type ≠ RADIUS_ATTRIBUTE_EAP_AUTHENTICATOR) :
    generateAvp a = wireAvp a := by
  unfold generateAvp wireAvp
  dsimp only
  rw [if_neg fun both : a.type = RADIUS_ATTRIBUTE_EAP_AUTHENTICATOR ∧ a.data.length = 16 =>
    other both.1]

theorem flatMap_generateAvp
    (others : ∀ a ∈ avps, a.type ≠ RADIUS_ATTRIBUTE_EAP_AUTHENTICATOR) :
    avps.flatMap generateAvp = avps.flatMap wireAvp := by
  induction avps with
  | nil => rfl
  | cons a avps inductionHypothesis =>
      rw [List.forall_mem_cons] at others
      rw [List.flatMap_cons, List.flatMap_cons, generateAvp_eq_wire others.1,
        inductionHypothesis others.2]

theorem eapAuthPos_append
    (others : ∀ a ∈ avps, a.type ≠ RADIUS_ATTRIBUTE_EAP_AUTHENTICATOR)
    (last : List Avp)
    (pos found : Nat) :
    eapAuthPos (avps ++ last) pos found =
      eapAuthPos last (pos + (avps.flatMap wireAvp).length) found := by
  induction avps generalizing pos with
  | nil => rfl
  | cons a avps inductionHypothesis =>
      rw [List.forall_mem_cons] at others
      rw [List.cons_append, eapAuthPos, if_neg others.1, inductionHypothesis others.2,
        generateAvp_eq_wire others.1, List.flatMap_cons, List.length_append, Nat.add_assoc]

/-- The bytes of a packet whose attributes stand as they are. -/
def wirePacket (code packetId : UInt8) (authenticator : ByteArrayOf 16) (avps : List Avp) :
    List UInt8 :=
  [code, packetId] ++ (bigEndian 2 (20 + (avps.flatMap wireAvp).length) ++
    (authenticator.val ++ avps.flatMap wireAvp))

theorem packetBytes_eq_wire
    (md5 : List UInt8 → ByteArrayOf 16)
    (sharedSecret : List UInt8)
    {p : Packet}
    (others : ∀ a ∈ avps, a.type ≠ RADIUS_ATTRIBUTE_EAP_AUTHENTICATOR)
    (avpList : p.avpList = avps ++ [eapAuthenticator zero16]) :
    ∃ mac, packetBytes md5 sharedSecret p =
      wirePacket p.code p.packetId p.authenticator (avps ++ [eapAuthenticator mac]) := by
  have generated : generateAvp (eapAuthenticator zero16) = [80, 18] ++ zero16.val := by decide
  have written (mac : ByteArrayOf 16) : wireAvp (eapAuthenticator mac) = [80, 18] ++ mac.val := by
    rw [wireAvp, if_pos (eapAuthenticator_plain mac), eapAuthenticator, mac.property]
    rfl
  have pos : eapAuthPos p.avpList 20 0 = 20 + (avps.flatMap wireAvp).length + 2 := by
    rw [avpList, eapAuthPos_append others]
    rfl
  have bytes (last : List UInt8) :
      avps.flatMap wireAvp ++ ([80, 18] ++ last) = (avps.flatMap wireAvp ++ [80, 18]) ++ last :=
    (List.append_assoc _ _ _).symm
  unfold packetBytes
  rw [pos, if_pos (by omega), avpList, List.flatMap_append, List.flatMap_singleton,
    flatMap_generateAvp others, generated]
  generalize unsigned : [p.code, p.packetId] ++
    bigEndian 2 (20 + (avps.flatMap wireAvp ++ ([80, 18] ++ zero16.val)).length) ++
      p.authenticator.val ++ (avps.flatMap wireAvp ++ ([80, 18] ++ zero16.val)) = b
  refine ⟨hMacMd5 md5 sharedSecret b, ?_⟩
  generalize hMacMd5 md5 sharedSecret b = mac
  have zeros : zero16.val.length = 16 := zero16.property
  have sameSize : (avps.flatMap wireAvp ++ ([80, 18] ++ zero16.val)).length =
      ((avps ++ [eapAuthenticator mac]).flatMap wireAvp).length := by
    rw [List.flatMap_append, List.flatMap_singleton, written, List.length_append,
      List.length_append, List.length_append, List.length_append, mac.property, zeros]
  have headerSize : (bigEndian 2
      (20 + (avps.flatMap wireAvp ++ ([80, 18] ++ zero16.val)).length)).length = 2 :=
    length_bigEndian 2 _
  rw [wirePacket, ← sameSize, List.flatMap_append, List.flatMap_singleton, written, ← unsigned]
  generalize bigEndian 2
    (20 + (avps.flatMap wireAvp ++ ([80, 18] ++ zero16.val)).length) = header at headerSize ⊢
  have front : ([p.code, p.packetId] ++ header ++ p.authenticator.val ++
      (avps.flatMap wireAvp ++ [80, 18])).length = 20 + (avps.flatMap wireAvp).length + 2 := by
    simp only [List.length_append, headerSize, p.authenticator.property, List.length_cons,
      List.length_nil]
    omega
  have middle := copyAt_middle (zeros.trans mac.property.symm)
    ([p.code, p.packetId] ++ header ++ p.authenticator.val ++ (avps.flatMap wireAvp ++ [80, 18])) []
  rw [List.append_nil, List.append_nil, front] at middle
  rw [bytes, bytes, ← List.append_assoc, middle]
  simp only [List.append_assoc]

theorem parseRadiusPacket_wire
    (spare : List UInt8)
    (code packetId : UInt8)
    (authenticator : ByteArrayOf 16)
    (small : 20 + (avps.flatMap wireAvp).length < 65536) :
    parseRadiusPacket spare (wirePacket code packetId authenticator avps) =
      (parseAvps (20 + (avps.flatMap wireAvp).length) (20 + (avps.flatMap wireAvp).length)
        (avps.flatMap wireAvp)
        { code := code, packetId := packetId, parseAuthenticatorPos := 4 }).map
          (finishParse spare) := by
  unfold wirePacket
  generalize avps.flatMap wireAvp = wire at small ⊢
  have len (rest : List UInt8) : readBufShort (bigEndian 2 (20 + wire.length) ++ rest) =
      (20 + wire.length, rest) := by
    have block := readBuf_append (bigEndian 2 (20 + wire.length)) rest
    rw [length_bigEndian] at block
    rw [readBufShort, block]
    dsimp only
    rw [if_pos rfl, fromBigEndian_bigEndian small]
  have auth : readBuf (authenticator.val ++ wire) 16 = (authenticator.val, 16, wire) := by
    have block := readBuf_append authenticator.val wire
    rwa [authenticator.property] at block
  have size : ([code, packetId] ++ (bigEndian 2 (20 + wire.length) ++
      (authenticator.val ++ wire))).length = 20 + wire.length := by
    simp only [List.length_append, length_bigEndian, authenticator.property, List.length_cons,
      List.length_nil]
    omega
  unfold parseRadiusPacket
  rw [if_neg (by simp)]
  simp only [List.cons_append, List.nil_append] at size ⊢
  simp only [readBufChar_cons, len, auth, size, List.length_append, authenticator.property]
  rw [if_neg (not_not.mpr rfl), if_neg (by omega), if_neg (Nat.lt_irrefl _),
    Nat.add_sub_cancel_left, List.take_length, Nat.add_comm 16 wire.length, ← Nat.sub_sub,
    Nat.add_sub_cancel]

theorem finishParse_of_few
    (spare : List UInt8)
    {p : Packet}
    (few : (p.avpList.filter fun avp => avp.type = RADIUS_ATTRIBUTE_EAP_MESSAGE).length < 2) :
    finishParse spare p = { p with
      parseState := ((getRadiusAvp p RADIUS_ATTRIBUTE_STATE).map Avp.data).getD p.parseState } := by
  unfold finishParse
  dsimp only
  cases getRadiusAvp p RADIUS_ATTRIBUTE_STATE with
  | none =>
      dsimp only
      rw [if_neg (by omega)]
      rfl
  | some avp =>
      dsimp only
      rw [if_neg (by omega)]
      rfl

/-- The size of a list of attributes. -/
theorem length_flatMap_wire_le
    (sized : ∀ a ∈ avps, a.Fits ∨ a.Overflows) :
    (avps.flatMap wireAvp).length ≤ 257 * avps.length := by
  induction avps with
  | nil => exact Nat.zero_le _
  | cons a avps inductionHypothesis =>
      rw [List.forall_mem_cons] at sized
      have rest := inductionHypothesis sized.2
      have first : (wireAvp a).length ≤ 257 := by
        unfold wireAvp
        by_cases plain : a.type ≠ RADIUS_ATTRIBUTE_VENDOR_SPECIFIC
        · rw [if_pos plain, List.length_append]
          obtain fits | overflows := sized.1
          · rw [Avp.Fits, if_pos plain] at fits
            have small := fits.1
            simp only [List.length_cons, List.length_nil]
            omega
          · have small := overflows.2.2
            simp only [List.length_cons, List.length_nil]
            omega
        · rw [if_neg plain]
          obtain fits | overflows := sized.1
          · rw [Avp.Fits, if_neg plain] at fits
            simp only [List.length_append, List.length_cons, List.length_nil, writeBufInt,
              length_bigEndian]
            omega
          · exact (plain overflows.1).elim
      rw [List.flatMap_cons, List.length_append, List.length_cons]
      omega

/-- A packet that has not been sent yet, with an EAP message behind its other attributes. -/
structure EapRequest (p : Packet) (before : List Avp) (eap : List UInt8) : Prop where
  /-- `Authenticator` is not set. -/
  fresh : p.authenticator = zero16
  avpList : p.avpList = before ++ [newRadiusAvp RADIUS_ATTRIBUTE_EAP_MESSAGE 0 0 eap]
  others : ∀ a ∈ before, a.type ≠ RADIUS_ATTRIBUTE_EAP_MESSAGE ∧
    a.type ≠ RADIUS_ATTRIBUTE_EAP_AUTHENTICATOR
  /-- The sizes are those of `RADIUS_AVP`. -/
  sized : ∀ a ∈ before, a.Fits ∨ a.Overflows
  /-- There are not many of them. -/
  few : before.length ≤ 200
  header : 5 ≤ eap.length
  size : eapLen eap = eap.length

/-- A packet is read back from some bytes: its code, its identifier, its attributes and behind them
the authenticator of its EAP message, and the whole message. -/
def ReadBack (spare bytes : List UInt8) (p : Packet) (eap : List UInt8) : Prop :=
  ∃ parsed mac, parseRadiusPacket spare bytes = some parsed ∧
    parsed.code = p.code ∧ parsed.packetId = p.packetId ∧
    parsed.avpList = p.avpList ++ [eapAuthenticator mac] ∧
    parsed.parseEapMessage = some eap ∧ parsed.parseEapMessageDataSize = eap.length

namespace EapRequest

variable {p : Packet} {before : List Avp} {eap : List UInt8}

theorem length_data (eap : List UInt8) :
    (newRadiusAvp RADIUS_ATTRIBUTE_EAP_MESSAGE 0 0 eap).data.length = eap.length % 256 := by
  have less := Nat.mod_le eap.length 256
  rw [newRadiusAvp, List.length_take]
  omega

theorem eap_plain (eap : List UInt8) :
    (newRadiusAvp RADIUS_ATTRIBUTE_EAP_MESSAGE 0 0 eap).type ≠
      RADIUS_ATTRIBUTE_VENDOR_SPECIFIC := by
  show RADIUS_ATTRIBUTE_EAP_MESSAGE ≠ RADIUS_ATTRIBUTE_VENDOR_SPECIFIC
  decide

theorem eap_fits_iff (eap : List UInt8) :
    (newRadiusAvp RADIUS_ATTRIBUTE_EAP_MESSAGE 0 0 eap).Fits ↔ eap.length % 256 ≤ 253 := by
  rw [Avp.Fits, if_pos (eap_plain eap), length_data]
  exact and_iff_left ⟨rfl, rfl⟩

theorem forall_avpList_iff (request : EapRequest p before eap) :
    (∀ a ∈ p.avpList, a.Fits) ↔ (∀ a ∈ before, a.Fits) ∧ eap.length % 256 ≤ 253 := by
  rw [request.avpList, List.forall_mem_append, List.forall_mem_singleton, eap_fits_iff eap]

theorem avpList_sized (request : EapRequest p before eap) :
    ∀ a ∈ p.avpList, a.Fits ∨ a.Overflows := by
  rw [request.avpList, List.forall_mem_append, List.forall_mem_singleton]
  refine ⟨request.sized, ?_⟩
  by_cases fits : eap.length % 256 ≤ 253
  · exact Or.inl ((eap_fits_iff eap).mpr fits)
  · right
    refine ⟨eap_plain eap, ?_⟩
    rw [length_data]
    omega

theorem avpList_others (request : EapRequest p before eap) :
    ∀ a ∈ p.avpList, a.type ≠ RADIUS_ATTRIBUTE_EAP_AUTHENTICATOR := by
  rw [request.avpList, List.forall_mem_append, List.forall_mem_singleton]
  refine ⟨fun a listed => (request.others a listed).2, ?_⟩
  show RADIUS_ATTRIBUTE_EAP_MESSAGE ≠ RADIUS_ATTRIBUTE_EAP_AUTHENTICATOR
  decide

theorem foldl_keptMessage (request : EapRequest p before eap) (mac : ByteArrayOf 16) :
    (p.avpList ++ [eapAuthenticator mac]).foldl keptMessage (none, 0) =
      keptMessage (none, 0) (newRadiusAvp RADIUS_ATTRIBUTE_EAP_MESSAGE 0 0 eap) := by
  have skips (a : Avp) (other : a.type ≠ RADIUS_ATTRIBUTE_EAP_MESSAGE)
      (kept : Option (List UInt8) × Nat) : keptMessage kept a = kept := by
    rw [keptMessage, if_neg fun both => other both.1]
  have front : before.foldl keptMessage (none, 0) = (none, 0) := by
    have others := request.others
    clear request
    induction before with
    | nil => rfl
    | cons a before inductionHypothesis =>
        rw [List.forall_mem_cons] at others
        rw [List.foldl_cons, skips a others.1.1]
        exact inductionHypothesis others.2
  rw [request.avpList, List.foldl_append, List.foldl_append, front]
  simp only [List.foldl_cons, List.foldl_nil]
  apply skips
  show RADIUS_ATTRIBUTE_EAP_AUTHENTICATOR ≠ RADIUS_ATTRIBUTE_EAP_MESSAGE
  decide

theorem one_message (request : EapRequest p before eap) (mac : ByteArrayOf 16) :
    ((p.avpList ++ [eapAuthenticator mac]).filter fun avp =>
      avp.type = RADIUS_ATTRIBUTE_EAP_MESSAGE).length < 2 := by
  have none_before : (before.filter fun avp =>
      decide (avp.type = RADIUS_ATTRIBUTE_EAP_MESSAGE)) = [] := by
    rw [List.filter_eq_nil_iff]
    intro a listed
    simpa using (request.others a listed).1
  have none_behind : ([eapAuthenticator mac].filter fun avp =>
      decide (avp.type = RADIUS_ATTRIBUTE_EAP_MESSAGE)) = [] := rfl
  have one := List.length_filter_le (fun avp : Avp =>
    decide (avp.type = RADIUS_ATTRIBUTE_EAP_MESSAGE))
    [newRadiusAvp RADIUS_ATTRIBUTE_EAP_MESSAGE 0 0 eap]
  rw [request.avpList, List.filter_append, List.filter_append, none_before, none_behind,
    List.nil_append, List.append_nil]
  exact Nat.lt_succ_of_le one

theorem readBack_wire_iff
    (request : EapRequest p before eap)
    (spare : List UInt8)
    (authenticator mac : ByteArrayOf 16) :
    ReadBack spare
        (wirePacket p.code p.packetId authenticator (p.avpList ++ [eapAuthenticator mac])) p eap ↔
      (∀ a ∈ before, a.Fits) ∧ eap.length ≤ 253 := by
  have macFits : ∀ a ∈ [eapAuthenticator mac], a.Fits :=
    List.forall_mem_singleton.mpr (eapAuthenticator_fits mac)
  have sized : ∀ a ∈ p.avpList ++ [eapAuthenticator mac], a.Fits ∨ a.Overflows :=
    List.forall_mem_append.mpr ⟨request.avpList_sized, fun a listed => Or.inl (macFits a listed)⟩
  have small := length_flatMap_wire_le sized
  have few := request.few
  have count : (p.avpList ++ [eapAuthenticator mac]).length = before.length + 2 := by
    rw [request.avpList, List.length_append, List.length_append]
    rfl
  rw [count] at small
  have parsedAs := parseRadiusPacket_wire spare p.code p.packetId authenticator
    (show 20 + ((p.avpList ++ [eapAuthenticator mac]).flatMap wireAvp).length < 65536 by omega)
  by_cases fits : ∀ a ∈ p.avpList, a.Fits
  · obtain ⟨after, takes, parsed⟩ := parseAvps_flatMap_wire
      (List.forall_mem_append.mpr ⟨fits, macFits⟩)
      (20 + ((p.avpList ++ [eapAuthenticator mac]).flatMap wireAvp).length) (Nat.le_add_left _ 20)
      { code := p.code, packetId := p.packetId, parseAuthenticatorPos := 4 }
    have avpList : after.avpList = p.avpList ++ [eapAuthenticator mac] := takes.avpList
    have kept := takes.kept.trans (request.foldl_keptMessage mac)
    rw [parsed, Option.map_some,
      finishParse_of_few spare (by rw [avpList]; exact request.one_message mac)] at parsedAs
    obtain ⟨beforeFits, eapFits⟩ := request.forall_avpList_iff.mp fits
    have data : (newRadiusAvp RADIUS_ATTRIBUTE_EAP_MESSAGE 0 0 eap).data.length =
        eap.length % 256 := length_data eap
    rw [and_iff_right beforeFits]
    constructor
    · rintro ⟨other, otherMac, otherParsed, -, -, -, message, -⟩
      cases parsedAs.symm.trans otherParsed
      have same : (keptMessage (none, 0)
          (newRadiusAvp RADIUS_ATTRIBUTE_EAP_MESSAGE 0 0 eap)).1 = some eap := by
        rw [← kept]
        exact message
      unfold keptMessage at same
      split at same
      · have whole := congrArg List.length (Option.some.inj same)
        omega
      · exact nomatch same
    · intro whole
      have dataIs : (newRadiusAvp RADIUS_ATTRIBUTE_EAP_MESSAGE 0 0 eap).data = eap := by
        rw [newRadiusAvp, Nat.mod_eq_of_lt (by omega), List.take_length]
      have header := request.header
      have size := request.size
      rw [keptMessage, dataIs, size, if_pos ⟨rfl, by omega, by omega, by omega, le_refl _, rfl⟩]
        at kept
      exact ⟨_, mac, parsedAs, takes.code, takes.packetId, avpList, congrArg Prod.fst kept,
        congrArg Prod.snd kept⟩
  · have notAll : ¬∀ a ∈ p.avpList ++ [eapAuthenticator mac], a.Fits := fun all =>
      fits (List.forall_mem_append.mp all).1
    rw [parseAvps_flatMap_overflow sized notAll _ (Nat.le_add_left _ 20)] at parsedAs
    constructor
    · rintro ⟨other, otherMac, otherParsed, -⟩
      exact nomatch parsedAs.symm.trans otherParsed
    · rintro ⟨beforeFits, whole⟩
      refine (fits (request.forall_avpList_iff.mpr ⟨beforeFits, ?_⟩)).elim
      have less := Nat.mod_le eap.length 256
      omega

end EapRequest

theorem authenticator_wirePacket
    (code packetId : UInt8)
    (authenticator : ByteArrayOf 16)
    (avps : List Avp) :
    ((wirePacket code packetId authenticator avps).drop 4).take 16 = authenticator.val := by
  have header : ([code, packetId] ++
      bigEndian 2 (20 + (avps.flatMap wireAvp).length)).length = 4 := by
    rw [List.length_append, length_bigEndian]
    rfl
  rw [wirePacket, ← List.append_assoc, List.drop_left' header]
  exact List.take_left' authenticator.property

/-- A request is read back from what is generated, and the packet that is left generates the same
bytes again. -/
def RoundTrips
    (md5 : List UInt8 → ByteArrayOf 16)
    (spare sharedSecret : List UInt8)
    (rand16 again : ByteArrayOf 16)
    (p : Packet)
    (eap : List UInt8) : Prop :=
  ReadBack spare (generateRadiusPacket md5 rand16 p sharedSecret).2 p eap ∧
    (generateRadiusPacket md5 again (generateRadiusPacket md5 rand16 p sharedSecret).1
      sharedSecret).2 = (generateRadiusPacket md5 rand16 p sharedSecret).2

namespace EapRequest

variable {p : Packet} {before : List Avp} {eap : List UInt8}

theorem preparePacket_eq (request : EapRequest p before eap) (rand16 : ByteArrayOf 16) :
    preparePacket rand16 p =
      { p with
        avpList := p.avpList ++ [eapAuthenticator zero16]
        authenticator := rand16 } := by
  have message : (p.avpList.any fun a => a.type = RADIUS_ATTRIBUTE_EAP_MESSAGE) = true := by
    rw [request.avpList, List.any_append, Bool.or_eq_true]
    exact Or.inr rfl
  have auth : (p.avpList.any fun a => a.type = RADIUS_ATTRIBUTE_EAP_AUTHENTICATOR) = false := by
    rw [List.any_eq_false]
    intro a listed
    simpa using request.avpList_others a listed
  have added : newRadiusAvp RADIUS_ATTRIBUTE_EAP_AUTHENTICATOR 0 0 zero16.val =
      eapAuthenticator zero16 := by
    decide
  unfold preparePacket
  dsimp only
  rw [message, auth, if_pos ⟨rfl, rfl⟩, if_pos request.fresh, added]

theorem preparePacket_again (request : EapRequest p before eap) (rand16 again : ByteArrayOf 16) :
    preparePacket again (preparePacket rand16 p) =
      { p with
        avpList := p.avpList ++ [eapAuthenticator zero16]
        authenticator := if rand16 = zero16 then again else rand16 } := by
  have auth : ((p.avpList ++ [eapAuthenticator zero16]).any fun a =>
      a.type = RADIUS_ATTRIBUTE_EAP_AUTHENTICATOR) = true := by
    rw [List.any_append, Bool.or_eq_true]
    exact Or.inr rfl
  rw [request.preparePacket_eq]
  unfold preparePacket
  dsimp only
  rw [auth, if_neg fun both => nomatch both.2]

theorem comesBack_iff
    (request : EapRequest p before eap)
    (md5 : List UInt8 → ByteArrayOf 16)
    (spare sharedSecret : List UInt8)
    (rand16 again : ByteArrayOf 16) :
    RoundTrips md5 spare sharedSecret rand16 again p eap ↔
      ((∀ a ∈ before, a.Fits) ∧ eap.length ≤ 253) ∧ (rand16 = zero16 → again = zero16) := by
  obtain ⟨mac, firstBytes⟩ := packetBytes_eq_wire md5 sharedSecret request.avpList_others
    (show (preparePacket rand16 p).avpList = p.avpList ++ [eapAuthenticator zero16] by
      rw [request.preparePacket_eq])
  obtain ⟨macAgain, bytesAgain⟩ := packetBytes_eq_wire md5 sharedSecret request.avpList_others
    (show (preparePacket again (preparePacket rand16 p)).avpList =
      p.avpList ++ [eapAuthenticator zero16] by rw [request.preparePacket_again])
  unfold RoundTrips generateRadiusPacket
  dsimp only
  refine and_congr ?_ ?_
  · rw [firstBytes, request.preparePacket_eq]
    exact request.readBack_wire_iff spare rand16 mac
  · constructor
    · intro same zero
      have auths := congrArg (fun bytes => (bytes.drop 4).take 16) same
      rw [firstBytes, bytesAgain, authenticator_wirePacket, authenticator_wirePacket,
        request.preparePacket_again, request.preparePacket_eq] at auths
      rw [if_pos zero] at auths
      exact (Subtype.ext auths).trans zero
    · intro drawn
      rw [request.preparePacket_again, request.preparePacket_eq]
      by_cases zero : rand16 = zero16
      · rw [if_pos zero, drawn zero, zero]
      · rw [if_neg zero]

end EapRequest

end Radius
end SoftEther
