import SoftEther.Cedar.OpenVpn.Defs
import SoftEther.Library.Faults

/-!
# Data packets

What `OvsProceccRecvPacket` does with the payload of a data packet on an established channel.
A pointer into a buffer is the list of the bytes from there on, next to the size that the code
keeps for it.  Every subtraction from a size and every read is checked; the processing ends in
a fault where the code would go astray.  The ciphers of OpenSSL are parameters.
-/

namespace SoftEther
namespace OpenVpn

open Library

def OPENVPN_TAG_SIZE : Nat := 16

def pingSignature : List UInt8 :=
  [0x2a, 0x18, 0x7b, 0xf3, 0x64, 0x1e, 0xb4, 0xcb, 0x07, 0xed, 0x2d, 0x0a, 0x98, 0x1f, 0xc7,
    0x48]

/-- What goes astray. -/
inductive DataFault
  | wraps
  | readsOutside
  deriving DecidableEq

/-- `CipherDecrypt` of an established channel with `IvRecv` and `MdRecv`.  A decryption that
fails gives nothing. -/
inductive CipherDecrypt
  /-- An AEAD cipher: what `CipherProcessAead` makes of the IV, the tag and the data, where the
  packet ID is also the additional data. -/
  | aead (ivRecv : List UInt8) (blockSize : Nat)
      (cipherProcessAead : List UInt8 → List UInt8 → List UInt8 → List UInt8)
  /-- Another cipher: what `MdProcess` makes of the data, and what `CipherProcess` makes of the
  IV and the data. -/
  | cbc (mdSize ivSize blockSize : Nat) (mdProcess : List UInt8 → List UInt8)
      (cipherProcess : List UInt8 → List UInt8 → List UInt8)

inductive DataOutcome
  | decodeError
  | ping
  | forward (data : List UInt8)
  deriving DecidableEq

/-- The subtraction of a number of bytes from a size. -/
def stepDown (size count : Nat) : Except DataFault Nat :=
  if count ≤ size then .ok (size - count) else .error .wraps

/-- Some bytes at a pointer. -/
def readAt (data : List UInt8) (count : Nat) : Except DataFault (List UInt8) :=
  if count ≤ data.length then .ok (data.take count) else .error .readsOutside

/-- The size cannot be that of encrypted data. -/
def badSize (blockSize size : Nat) : Bool :=
  size = 0 || (blockSize ≠ 0 && size % blockSize ≠ 0)

/-- What is done with the decrypted data behind the packet ID. -/
def dispose (data : List UInt8) (size : Nat) : Except DataFault DataOutcome :=
  if size < 4 then .ok .decodeError
  else if pingSignature.length ≤ size then do
    let start ← readAt data pingSignature.length
    if start = pingSignature then .ok .ping
    else do
      let data ← readAt data size
      .ok (.forward data)
  else do
    let data ← readAt data size
    .ok (.forward data)

/-- The part of `OvsProceccRecvPacket` for the payload of a data packet. -/
def ovsProceccDataPacket (cipher : CipherDecrypt) (payload : List UInt8) :
    Except DataFault DataOutcome :=
  match cipher with
  | .aead ivRecv blockSize cipherProcessAead => do
      let data := payload
      let size := payload.length
      -- Update variable part (packet ID) of IV
      let packetId ← readAt data 4
      let ivRecv := packetId ++ ivRecv.drop 4
      let data := data.drop 4
      let size ← stepDown size 4
      -- tag data
      if size < OPENVPN_TAG_SIZE then .ok .decodeError
      else do
        let tag ← readAt data OPENVPN_TAG_SIZE
        let data := data.drop OPENVPN_TAG_SIZE
        let size ← stepDown size OPENVPN_TAG_SIZE
        -- Decryption
        if badSize blockSize size then .ok .decodeError
        else do
          let encrypted ← readAt data size
          let tmpBuf := cipherProcessAead ivRecv tag encrypted
          if tmpBuf.length = 0 then .ok .decodeError
          else dispose tmpBuf tmpBuf.length
  | .cbc mdSize ivSize blockSize mdProcess cipherProcess => do
      let data := payload
      let size := payload.length
      if size < mdSize + ivSize + 4 then .ok .decodeError
      else do
        -- HMAC
        let hmac ← readAt data mdSize
        let data := data.drop mdSize
        let size ← stepDown size mdSize
        -- Confirmation of HMAC
        let checked ← readAt data size
        if mdProcess checked ≠ hmac then .ok .decodeError
        else do
          -- IV
          let iv ← readAt data ivSize
          let data := data.drop ivSize
          let size ← stepDown size ivSize
          -- Decryption
          if badSize blockSize size then .ok .decodeError
          else do
            let encrypted ← readAt data size
            let tmpBuf := cipherProcess iv encrypted
            if tmpBuf.length = 0 then .ok .decodeError
            else do
              -- Seek buffer after the packet ID
              let size ← stepDown tmpBuf.length 4
              dispose (tmpBuf.drop 4) size

/-- The packet passes the checks up to the decryption: it is long enough, its HMAC is right,
and its encrypted data have a good size. -/
def CipherDecrypt.checks (cipher : CipherDecrypt) (payload : List UInt8) : Bool :=
  match cipher with
  | .aead _ blockSize _ =>
      20 ≤ payload.length && !badSize blockSize (payload.length - 20)
  | .cbc mdSize ivSize blockSize mdProcess _ =>
      mdSize + ivSize + 4 ≤ payload.length &&
        mdProcess (payload.drop mdSize) = payload.take mdSize &&
        !badSize blockSize (payload.length - mdSize - ivSize)

def CipherDecrypt.decrypted (cipher : CipherDecrypt) (payload : List UInt8) : List UInt8 :=
  match cipher with
  | .aead ivRecv _ cipherProcessAead =>
      cipherProcessAead (payload.take 4 ++ ivRecv.drop 4) ((payload.drop 4).take 16)
        (payload.drop 20)
  | .cbc mdSize ivSize _ _ cipherProcess =>
      cipherProcess ((payload.drop mdSize).take ivSize) (payload.drop (mdSize + ivSize))

def CipherDecrypt.behindPacketId (cipher : CipherDecrypt) (payload : List UInt8) : List UInt8 :=
  match cipher with
  | .aead _ _ _ => cipher.decrypted payload
  | .cbc _ _ _ _ _ => (cipher.decrypted payload).drop 4

def CipherDecrypt.HasPacketId (cipher : CipherDecrypt) (payload : List UInt8) : Prop :=
  match cipher with
  | .aead _ _ _ => 4 ≤ payload.length
  | .cbc _ _ _ _ _ =>
      cipher.checks payload = true → cipher.decrypted payload = [] ∨
        4 ≤ (cipher.decrypted payload).length

/-- What is to be done with some data behind the packet ID. -/
def disposal (data : List UInt8) : DataOutcome :=
  if data.length < 4 then .decodeError
  else if pingSignature.isPrefixOf data then .ping
  else .forward data

/-- What is to become of a data packet. -/
def CipherDecrypt.outcome (cipher : CipherDecrypt) (payload : List UInt8) : DataOutcome :=
  if cipher.checks payload && !(cipher.decrypted payload).isEmpty then
    disposal (cipher.behindPacketId payload)
  else .decodeError

theorem stepDown_of_le
    {size count : Nat}
    (enough : count ≤ size) :
    stepDown size count = .ok (size - count) :=
  if_pos enough

variable {data : List UInt8} {payload : List UInt8}

theorem readAt_of_le
    {count : Nat}
    (enough : count ≤ data.length) :
    readAt data count = .ok (data.take count) :=
  if_pos enough

theorem readAt_all
    {size : Nat}
    (all : size = data.length) :
    readAt data size = .ok data := by
  rw [readAt_of_le (by omega), List.take_of_length_le (by omega)]

theorem dispose_eq
    {size : Nat}
    (all : size = data.length) :
    dispose data size = .ok (disposal data) := by
  unfold dispose disposal
  rw [all]
  by_cases small : data.length < 4
  · rw [if_pos small, if_pos small]
  · rw [if_neg small, if_neg small]
    by_cases long : pingSignature.length ≤ data.length
    · rw [if_pos long, readAt_of_le long, readAt_all rfl]
      have same : data.take pingSignature.length = pingSignature ↔
          pingSignature.isPrefixOf data = true := by
        rw [List.isPrefixOf_iff_prefix, List.prefix_iff_eq_take]
        exact eq_comm
      by_cases ping : pingSignature.isPrefixOf data = true
      · rw [if_pos ping]
        change (if data.take pingSignature.length = pingSignature then _ else _) = _
        rw [if_pos (same.mpr ping)]
      · rw [if_neg ping]
        change (if data.take pingSignature.length = pingSignature then _ else _) = _
        rw [if_neg fun equal => ping (same.mp equal)]
        rfl
    · have noPing : ¬pingSignature.isPrefixOf data = true := by
        rw [List.isPrefixOf_iff_prefix]
        exact fun isPrefix => long isPrefix.length_le
      rw [if_neg long, if_neg noPing, readAt_all rfl]
      rfl

theorem aead_eq_ok
    (ivRecv : List UInt8)
    (blockSize : Nat)
    (cipherProcessAead : List UInt8 → List UInt8 → List UInt8 → List UInt8)
    (packetId : 4 ≤ payload.length) :
    ovsProceccDataPacket (.aead ivRecv blockSize cipherProcessAead) payload =
      .ok (CipherDecrypt.outcome (.aead ivRecv blockSize cipherProcessAead) payload) := by
  have tagRest : (payload.drop 4).drop OPENVPN_TAG_SIZE = payload.drop 20 := by
    rw [List.drop_drop]
    rfl
  have sizes : payload.length - 4 - OPENVPN_TAG_SIZE = payload.length - 20 := by
    unfold OPENVPN_TAG_SIZE
    omega
  unfold ovsProceccDataPacket CipherDecrypt.outcome
  dsimp only
  rw [readAt_of_le packetId, stepDown_of_le packetId]
  change (if payload.length - 4 < OPENVPN_TAG_SIZE then _ else _) = _
  by_cases tagged : payload.length - 4 < OPENVPN_TAG_SIZE
  · have refused :
        CipherDecrypt.checks (.aead ivRecv blockSize cipherProcessAead) payload = false := by
      unfold OPENVPN_TAG_SIZE at tagged
      simp only [CipherDecrypt.checks, Bool.and_eq_false_iff, decide_eq_false_iff_not]
      exact .inl (by omega)
    rw [if_pos tagged, refused]
    rfl
  · have tag : OPENVPN_TAG_SIZE ≤ (payload.drop 4).length := by
      rw [List.length_drop]
      omega
    have checks : CipherDecrypt.checks (.aead ivRecv blockSize cipherProcessAead) payload =
        !badSize blockSize (payload.length - 20) := by
      unfold OPENVPN_TAG_SIZE at tagged
      simp only [CipherDecrypt.checks, Bool.and_eq_right_iff_imp, decide_eq_true_eq]
      omega
    rw [if_neg tagged, readAt_of_le tag, stepDown_of_le (Nat.not_lt.mp tagged), checks, sizes,
      tagRest]
    change (if badSize blockSize (payload.length - 20) then _ else _) = _
    by_cases bad : badSize blockSize (payload.length - 20) = true
    · rw [if_pos bad, bad]
      rfl
    · have whole : readAt (payload.drop 20) (payload.length - 20) = .ok (payload.drop 20) :=
        readAt_all (by rw [List.length_drop])
      rw [if_neg bad, Bool.eq_false_of_not_eq_true bad, whole]
      let tmp := CipherDecrypt.decrypted (.aead ivRecv blockSize cipherProcessAead) payload
      change (if tmp.length = 0 then _ else dispose tmp tmp.length) =
        .ok (if !false && !tmp.isEmpty then disposal tmp else _)
      generalize tmp = tmpBuf
      cases tmpBuf with
      | nil => rfl
      | cons first rest =>
          rw [if_neg (by simp), dispose_eq rfl]
          rfl

theorem aead_eq_error
    (ivRecv : List UInt8)
    (blockSize : Nat)
    (cipherProcessAead : List UInt8 → List UInt8 → List UInt8 → List UInt8)
    (short : ¬4 ≤ payload.length) :
    ovsProceccDataPacket (.aead ivRecv blockSize cipherProcessAead) payload =
      .error .readsOutside := by
  unfold ovsProceccDataPacket readAt
  dsimp only
  rw [if_neg short]
  rfl

theorem cbc_eq
    (mdSize ivSize blockSize : Nat)
    (mdProcess : List UInt8 → List UInt8)
    (cipherProcess : List UInt8 → List UInt8 → List UInt8)
    (payload : List UInt8) :
    ovsProceccDataPacket (.cbc mdSize ivSize blockSize mdProcess cipherProcess) payload =
      let cipher : CipherDecrypt := .cbc mdSize ivSize blockSize mdProcess cipherProcess
      if cipher.checks payload && !(cipher.decrypted payload).isEmpty then do
        let size ← stepDown (cipher.decrypted payload).length 4
        dispose ((cipher.decrypted payload).drop 4) size
      else .ok .decodeError := by
  unfold ovsProceccDataPacket
  dsimp only
  by_cases short : payload.length < mdSize + ivSize + 4
  · have refused : CipherDecrypt.checks
        (.cbc mdSize ivSize blockSize mdProcess cipherProcess) payload = false := by
      simp only [CipherDecrypt.checks, Bool.and_eq_false_iff, decide_eq_false_iff_not]
      exact .inl (.inl (by omega))
    rw [if_pos short, refused]
    rfl
  · have md : mdSize ≤ payload.length := by omega
    have behindMd : (payload.drop mdSize).length = payload.length - mdSize :=
      List.length_drop
    have iv : ivSize ≤ payload.length - mdSize := by omega
    have encrypted : (payload.drop mdSize).drop ivSize = payload.drop (mdSize + ivSize) := by
      rw [List.drop_drop]
    rw [if_neg short, readAt_of_le md, stepDown_of_le md]
    change (readAt (payload.drop mdSize) (payload.length - mdSize) >>= _) = _
    rw [readAt_all behindMd.symm]
    change (if mdProcess (payload.drop mdSize) ≠ payload.take mdSize then _ else _) = _
    by_cases right : mdProcess (payload.drop mdSize) = payload.take mdSize
    · have checks : CipherDecrypt.checks
          (.cbc mdSize ivSize blockSize mdProcess cipherProcess) payload =
          !badSize blockSize (payload.length - mdSize - ivSize) := by
        simp only [CipherDecrypt.checks, right, decide_true, Bool.and_true,
          Bool.and_eq_right_iff_imp, decide_eq_true_eq]
        omega
      rw [if_neg (not_not.mpr right), readAt_of_le (by omega), stepDown_of_le iv, encrypted,
        checks]
      change (if badSize blockSize (payload.length - mdSize - ivSize) then _ else _) = _
      by_cases bad : badSize blockSize (payload.length - mdSize - ivSize) = true
      · rw [if_pos bad, bad]
        rfl
      · have whole : readAt (payload.drop (mdSize + ivSize))
            (payload.length - mdSize - ivSize) = .ok (payload.drop (mdSize + ivSize)) :=
          readAt_all (by rw [List.length_drop, Nat.sub_sub])
        rw [if_neg bad, Bool.eq_false_of_not_eq_true bad, whole]
        let tmp := CipherDecrypt.decrypted
          (.cbc mdSize ivSize blockSize mdProcess cipherProcess) payload
        change (if tmp.length = 0 then _ else
            stepDown tmp.length 4 >>= fun size => dispose (tmp.drop 4) size) =
          if !false && !tmp.isEmpty then
            stepDown tmp.length 4 >>= fun size => dispose (tmp.drop 4) size
          else _
        generalize tmp = tmpBuf
        cases tmpBuf with
        | nil => rfl
        | cons first rest => rfl
    · have refused : CipherDecrypt.checks
          (.cbc mdSize ivSize blockSize mdProcess cipherProcess) payload = false := by
        simp [CipherDecrypt.checks, right]
      rw [if_pos right, refused]
      rfl

theorem ovsProceccDataPacket_cases
    (cipher : CipherDecrypt)
    (payload : List UInt8) :
    (cipher.HasPacketId payload ∧
        ovsProceccDataPacket cipher payload = .ok (cipher.outcome payload)) ∨
      (¬cipher.HasPacketId payload ∧
        ∃ fault, ovsProceccDataPacket cipher payload = .error fault) := by
  cases cipher with
  | aead ivRecv blockSize cipherProcessAead =>
      by_cases packetId : 4 ≤ payload.length
      · exact .inl ⟨packetId, aead_eq_ok ivRecv blockSize cipherProcessAead packetId⟩
      · exact .inr ⟨packetId, _, aead_eq_error ivRecv blockSize cipherProcessAead packetId⟩
  | cbc mdSize ivSize blockSize mdProcess cipherProcess =>
      rw [cbc_eq]
      unfold CipherDecrypt.outcome CipherDecrypt.behindPacketId CipherDecrypt.HasPacketId
      dsimp only
      generalize CipherDecrypt.checks _ payload = checks
      generalize CipherDecrypt.decrypted _ payload = decrypted
      cases checks with
      | false => exact .inl ⟨fun passed => (nomatch passed), rfl⟩
      | true =>
          cases decrypted with
          | nil => exact .inl ⟨fun _ => .inl rfl, rfl⟩
          | cons first rest =>
              by_cases packetId : 4 ≤ (first :: rest).length
              · refine .inl ⟨fun _ => .inr packetId, ?_⟩
                change (stepDown (first :: rest).length 4 >>= _) = _
                rw [stepDown_of_le packetId]
                exact dispose_eq (by rw [List.length_drop])
              · refine .inr ⟨?_, .wraps, ?_⟩
                · intro present
                  rcases present rfl with empty | long
                  · exact nomatch empty
                  · exact packetId long
                · change (stepDown (first :: rest).length 4 >>= _) = _
                  rw [stepDown, if_neg packetId]
                  rfl

/-- A data packet is processed without a wrapped subtraction and without a read outside, and
what goes to the hub are the decrypted data behind the packet ID, exactly when the packet has
its packet ID. -/
theorem ovsProceccDataPacket_eq_outcome_iff
    (cipher : CipherDecrypt)
    (payload : List UInt8) :
    ovsProceccDataPacket cipher payload = .ok (cipher.outcome payload) ↔
      cipher.HasPacketId payload := by
  rcases ovsProceccDataPacket_cases cipher payload with ⟨packetId, ran⟩ | ⟨missing, fault, ran⟩
  · exact iff_of_true ran packetId
  · rw [ran]
    exact iff_of_false (fun equal => nomatch equal) missing

/-- A payload of three bytes for an AEAD cipher. -/
theorem ovsProceccDataPacket_reads_outside :
    ovsProceccDataPacket (.aead (List.replicate 12 0) 1 fun _ _ data => data) [0, 0, 1] =
      .error .readsOutside := by
  decide

end OpenVpn
end SoftEther
