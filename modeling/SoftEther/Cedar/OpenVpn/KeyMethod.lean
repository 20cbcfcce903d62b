import SoftEther.Cedar.OpenVpn.Defs
import SoftEther.Library.Decoders

/-!
# The key message

`OPENVPN_KEY_METHOD_2` in both directions.  The message comes out of the SSL pipe in pieces,
and is parsed from its start each time; so it matters that no part of a message is taken for a
message, and that a message is taken off what follows it.
-/

namespace SoftEther
namespace OpenVpn

open Library

def ovsWriteStringToBuf (str : CString) (maxSize : Nat) : List UInt8 :=
  if str.strLen = 0 then bigEndian 2 0
  else
    let i := min (str.strLen + 1) maxSize
    bigEndian 2 (i % 65536) ++ str.bytes.take (i - 1) ++ [0]

def ovsBuildKeyMethod2 (d : KeyMethod2) : List UInt8 :=
  writeBufInt 0 ++ [2] ++ d.random1 ++ d.random2 ++ ovsWriteStringToBuf d.optionString 512 ++
    ovsWriteStringToBuf d.username 512 ++ ovsWriteStringToBuf d.password 512 ++
    ovsWriteStringToBuf d.peerInfo 1536

def readPreMasterSecret (clientMode : Bool) : PrefixDecoder UInt8 (List UInt8) :=
  fun b => if clientMode then readBlock b 48 else some (List.replicate 48 0, b)

/-- `OvsParseKeyMethod2`, up to `read_size`: the message and what follows it. -/
def readKeyMethod2 (clientMode : Bool) : PrefixDecoder UInt8 KeyMethod2 :=
  decodeThen (readBlock · 4) fun _ =>
  decodeThen (readBlock · 1) fun uc b =>
    if uc = [2] then
      decodeThen (readPreMasterSecret clientMode) (fun preMasterSecret =>
      decodeThen (readBlock · 32) fun random1 =>
      decodeThen (readBlock · 32) fun random2 =>
      decodeThen (ovsReadStringFromBuf · 512) fun optionString =>
      decodeThen (ovsReadStringFromBuf · 512) fun username =>
      decodeThen (ovsReadStringFromBuf · 512) fun password =>
      decodeThen (ovsReadStringFromBuf · 1536) fun peerInfo =>
      decodeNothing
        ⟨preMasterSecret, random1, random2, optionString, username, password, peerInfo⟩) b
    else none

/-- `OvsParseKeyMethod2` with `client_mode`: the message and `read_size`. -/
def ovsParseKeyMethod2Ex (clientMode : Bool) (data : List UInt8) : Option (KeyMethod2 × Nat) :=
  (readKeyMethod2 clientMode data).bind fun (ret, b) => some (ret, data.length - b.length)

theorem readBlock_eq_some
    {b block rest : List UInt8}
    {size : Nat}
    (read : readBlock b size = some (block, rest)) :
    b = block ++ rest ∧ block.length = size := by
  unfold readBlock readBuf at read
  dsimp only at read
  split at read
  · rename_i enough
    have long : size ≤ b.length := by omega
    have none : size - b.length = 0 := by omega
    rw [none, List.replicate_zero, List.append_nil] at read
    injection read with read
    injection read with blockEq restEq
    rw [← blockEq, ← restEq]
    exact ⟨(List.take_append_drop size b).symm, by rw [List.length_take]; omega⟩
  · exact nomatch read

theorem decodes_readBlock (block : List UInt8) :
    Decodes (readBlock · block.length) block block := by
  intro rest
  change readBlock (block ++ rest) block.length = _
  unfold readBlock
  rw [readBuf_append]
  exact if_pos rfl

theorem steady_readBlock (size : Nat) : Steady (readBlock · size) := by
  intro b block rest more read
  obtain ⟨rfl, rfl⟩ := readBlock_eq_some read
  have again := decodes_readBlock block (rest ++ more)
  rwa [← List.append_assoc] at again

theorem ovsReadStringFromBuf_eq (strSize : Nat) :
    (ovsReadStringFromBuf · strSize) =
      decodeThen (readBlock · 2) fun us b =>
        if fromBigEndian us = 0 then decodeNothing (.ofBuffer []) b
        else if strSize < fromBigEndian us then none
        else
          decodeThen (readBlock · (fromBigEndian us)) (fun str b =>
            if str.getD (fromBigEndian us - 1) 0 ≠ 0 then none
            else decodeNothing (.ofBuffer str) b) b := by
  funext b
  unfold ovsReadStringFromBuf
  rw [decodeThen_eq_bind]
  refine congrArg (Option.bind (readBlock b 2)) (funext fun first => ?_)
  change (if fromBigEndian first.1 = 0 then _ else _) = _
  split
  · rfl
  · split
    · rfl
    · rw [decodeThen_eq_bind]
      rfl

theorem steady_ovsReadStringFromBuf (strSize : Nat) :
    Steady (ovsReadStringFromBuf · strSize) := by
  rw [ovsReadStringFromBuf_eq]
  refine (steady_readBlock 2).bind fun us => .ite (fun _ => .nothing _) fun _ => ?_
  refine .ite (fun _ => .none) fun _ => ?_
  exact (steady_readBlock _).bind fun str => .ite (fun _ => .none) fun _ => .nothing _

theorem steady_readKeyMethod2 (clientMode : Bool) : Steady (readKeyMethod2 clientMode) := by
  have preMasterSecret : Steady (readPreMasterSecret clientMode) := by
    cases clientMode with
    | true => exact steady_readBlock 48
    | false => exact .nothing _
  refine (steady_readBlock 4).bind fun _ => (steady_readBlock 1).bind fun uc => ?_
  refine .ite (fun _ => ?_) fun _ => .none
  exact preMasterSecret.bind fun _ => (steady_readBlock 32).bind fun _ =>
    (steady_readBlock 32).bind fun _ => (steady_ovsReadStringFromBuf 512).bind fun _ =>
    (steady_ovsReadStringFromBuf 512).bind fun _ =>
    (steady_ovsReadStringFromBuf 512).bind fun _ =>
    (steady_ovsReadStringFromBuf 1536).bind fun _ => .nothing _

/-- A string in a message: nothing, or as many bytes as the field has place for, of which the
last is a terminator; there may be others before it. -/
structure KeyString (size : Nat) where
  bytes : List UInt8
  fits : bytes.length ≤ size
  terminated : bytes ≠ [] → bytes.getD (bytes.length - 1) 0 = 0

namespace KeyString

variable {size : Nat}

def written (s : KeyString size) : List UInt8 :=
  bigEndian 2 s.bytes.length ++ s.bytes

/-- The string in the field. -/
def text (s : KeyString size) : CString :=
  .ofBuffer s.bytes

theorem decodes
    (s : KeyString size)
    (small : size < 65536) :
    Decodes (ovsReadStringFromBuf · size) s.written s.text := by
  have length : fromBigEndian (bigEndian 2 s.bytes.length) = s.bytes.length :=
    fromBigEndian_bigEndian (Nat.lt_of_le_of_lt s.fits small)
  have field : Decodes (readBlock · 2) (bigEndian 2 s.bytes.length)
      (bigEndian 2 s.bytes.length) := by
    have block := decodes_readBlock (bigEndian 2 s.bytes.length)
    rwa [length_bigEndian] at block
  rw [ovsReadStringFromBuf_eq]
  refine field.bind ?_
  rw [length]
  by_cases empty : s.bytes = []
  · rw [text, empty]
    exact .ite_pos rfl (.nothing _)
  · have long : s.bytes.length ≠ 0 := fun none => empty (List.length_eq_zero_iff.mp none)
    refine .ite_neg long (.ite_neg (Nat.not_lt.mpr s.fits) ?_)
    refine (decodes_readBlock s.bytes).last ?_
    exact .ite_neg (not_not.mpr (s.terminated empty)) (.nothing s.text)

end KeyString

structure KeyMessage where
  reserved : ByteArrayOf 4
  preMasterSecret : ByteArrayOf 48
  random1 : ByteArrayOf 32
  random2 : ByteArrayOf 32
  optionString : KeyString 512
  username : KeyString 512
  password : KeyString 512
  peerInfo : KeyString 1536

namespace KeyMessage

/-- The bytes of a message of a client, which has a pre-master secret, or of a server. -/
def bytes (m : KeyMessage) (clientMode : Bool) : List UInt8 :=
  m.reserved.val ++ ([2] ++ ((if clientMode then m.preMasterSecret.val else []) ++
    (m.random1.val ++ (m.random2.val ++ (m.optionString.written ++ (m.username.written ++
      (m.password.written ++ m.peerInfo.written)))))))

def fields (m : KeyMessage) (clientMode : Bool) : KeyMethod2 where
  preMasterSecret := if clientMode then m.preMasterSecret.val else List.replicate 48 0
  random1 := m.random1.val
  random2 := m.random2.val
  optionString := m.optionString.text
  username := m.username.text
  password := m.password.text
  peerInfo := m.peerInfo.text

theorem decodes (m : KeyMessage) (clientMode : Bool) :
    Decodes (readKeyMethod2 clientMode) (m.bytes clientMode) (m.fields clientMode) := by
  have block : ∀ {size : Nat} (array : ByteArrayOf size),
      Decodes (readBlock · size) array.val array.val := by
    rintro size ⟨bytes, rfl⟩
    exact decodes_readBlock bytes
  have preMasterSecret : Decodes (readPreMasterSecret clientMode)
      (if clientMode then m.preMasterSecret.val else [])
      (if clientMode then m.preMasterSecret.val else List.replicate 48 0) := by
    cases clientMode with
    | true => exact block m.preMasterSecret
    | false => exact .nothing _
  refine (block m.reserved).bind (Decodes.bind (decodes_readBlock [2]) ?_)
  refine .ite_pos rfl ?_
  refine preMasterSecret.bind ((block m.random1).bind ((block m.random2).bind ?_))
  refine (m.optionString.decodes (by decide)).bind ?_
  refine (m.username.decodes (by decide)).bind ?_
  refine (m.password.decodes (by decide)).bind ?_
  exact (m.peerInfo.decodes (by decide)).last (.nothing _)

end KeyMessage

/-- The fields of a message that is built: arrays, and strings that fit into theirs. -/
structure KeyData where
  random1 : ByteArrayOf 32
  random2 : ByteArrayOf 32
  optionString : { str : CString // str.strLen < 512 }
  username : { str : CString // str.strLen < 512 }
  password : { str : CString // str.strLen < 512 }
  peerInfo : { str : CString // str.strLen < 1536 }

def KeyData.message (d : KeyData) : KeyMethod2 where
  preMasterSecret := List.replicate 48 0
  random1 := d.random1.val
  random2 := d.random2.val
  optionString := d.optionString.val
  username := d.username.val
  password := d.password.val
  peerInfo := d.peerInfo.val

def KeyString.ofText
    {size : Nat}
    (str : { str : CString // str.strLen < size }) :
    KeyString size where
  bytes := if str.val.strLen = 0 then [] else str.val.bytes ++ [0]
  fits := by
    split
    · exact Nat.zero_le size
    · rw [List.length_append]
      exact str.property
  terminated := by
    intro _
    split
    · rfl
    · rw [List.length_append, List.length_singleton, Nat.add_sub_cancel]
      simp

theorem KeyString.text_ofText
    {size : Nat}
    (str : { str : CString // str.strLen < size }) :
    (ofText str).text = str.val := by
  unfold text ofText
  dsimp only
  split
  · rename_i empty
    have none : str.val.bytes = [] := List.length_eq_zero_iff.mp empty
    rw [← CString.ofBuffer_append_zero str.val []]
    rw [none]
    rfl
  · exact CString.ofBuffer_append_zero str.val []

theorem KeyString.written_ofText
    {size : Nat}
    (small : size < 65536)
    (str : { str : CString // str.strLen < size }) :
    ovsWriteStringToBuf str.val size = (ofText str).written := by
  have fits := str.property
  unfold ovsWriteStringToBuf written ofText
  dsimp only
  split
  · rfl
  · have whole : min (str.val.strLen + 1) size = str.val.strLen + 1 := by omega
    have length : (str.val.bytes ++ [0]).length = str.val.strLen + 1 := by
      rw [List.length_append]
      rfl
    rw [whole, Nat.mod_eq_of_lt (by omega), Nat.add_sub_cancel, length, List.append_assoc]
    congr 2
    exact List.take_of_length_le (Nat.le_refl _)

/-- The message that is built, as a message that is parsed. -/
def KeyData.keyMessage (d : KeyData) : KeyMessage where
  reserved := ⟨[0, 0, 0, 0], rfl⟩
  preMasterSecret := ⟨List.replicate 48 0, rfl⟩
  random1 := d.random1
  random2 := d.random2
  optionString := .ofText d.optionString
  username := .ofText d.username
  password := .ofText d.password
  peerInfo := .ofText d.peerInfo

theorem KeyData.bytes_keyMessage (d : KeyData) :
    ovsBuildKeyMethod2 d.message = d.keyMessage.bytes false := by
  unfold ovsBuildKeyMethod2 KeyMessage.bytes
  have texts : ∀ {size : Nat}, size < 65536 → ∀ str : { str : CString // str.strLen < size },
      ovsWriteStringToBuf str.val size = (KeyString.ofText str).written :=
    fun small str => KeyString.written_ofText small str
  change writeBufInt 0 ++ [2] ++ d.random1.val ++ d.random2.val ++
    ovsWriteStringToBuf d.optionString.val 512 ++ ovsWriteStringToBuf d.username.val 512 ++
    ovsWriteStringToBuf d.password.val 512 ++ ovsWriteStringToBuf d.peerInfo.val 1536 = _
  rw [texts (by decide), texts (by decide), texts (by decide), texts (by decide)]
  simp only [List.append_assoc]
  rfl

theorem KeyData.fields_keyMessage (d : KeyData) : d.keyMessage.fields false = d.message := by
  unfold KeyMessage.fields KeyData.message KeyData.keyMessage
  dsimp only
  rw [KeyString.text_ofText, KeyString.text_ofText, KeyString.text_ofText,
    KeyString.text_ofText]
  rfl

theorem ovsParseKeyMethod2Ex_append
    {clientMode : Bool}
    {bytes : List UInt8}
    {fields : KeyMethod2}
    (decodes : Decodes (readKeyMethod2 clientMode) bytes fields)
    (rest : List UInt8) :
    ovsParseKeyMethod2Ex clientMode (bytes ++ rest) = some (fields, bytes.length) := by
  unfold ovsParseKeyMethod2Ex
  rw [decodes rest]
  change some (fields, (bytes ++ rest).length - rest.length) = _
  rw [List.length_append, Nat.add_sub_cancel]

/-- **The key message.**  A message is parsed as its fields and taken off what follows it, no
strict prefix of a message is taken for a message, and what a server builds is parsed as what
it was built from. -/
theorem ovsParseKeyMethod2_messages :
    (∀ (clientMode : Bool) (m : KeyMessage) (rest : List UInt8),
      ovsParseKeyMethod2Ex clientMode (m.bytes clientMode ++ rest) =
        some (m.fields clientMode, (m.bytes clientMode).length)) ∧
    (∀ (clientMode : Bool) (m : KeyMessage) (early late : List UInt8),
      m.bytes clientMode = early ++ late → late ≠ [] →
        ovsParseKeyMethod2Ex clientMode early = none) ∧
    ∀ (d : KeyData) (rest : List UInt8),
      ovsParseKeyMethod2Ex false (ovsBuildKeyMethod2 d.message ++ rest) =
        some (d.message, (ovsBuildKeyMethod2 d.message).length) := by
  refine ⟨?_, ?_, ?_⟩
  · intro clientMode m rest
    exact ovsParseKeyMethod2Ex_append (m.decodes clientMode) rest
  · intro clientMode m early late cut more
    have decodes := m.decodes clientMode
    rw [cut] at decodes
    unfold ovsParseKeyMethod2Ex
    rw [decodes.prefixFree (steady_readKeyMethod2 clientMode) more]
    rfl
  · intro d rest
    have decodes := d.keyMessage.decodes false
    rw [← d.bytes_keyMessage, d.fields_keyMessage] at decodes
    exact ovsParseKeyMethod2Ex_append decodes rest

end OpenVpn
end SoftEther
