import SoftEther.Cedar.Radius.Packet
import SoftEther.Library.Records
import SoftEther.Mayaqua.Pointer

/-!
# The authenticators of a RADIUS response

`RadiusValidateAuthenticator` works on one buffer: it puts the authenticator of the request into
the packet, appends the secret, and looks for a `Message-Authenticator` in the attributes and the
secret behind them.  It accepts the right packets exactly when what it finds first is an attribute
of the packet with sixteen bytes.
-/

namespace SoftEther
namespace Radius

open Library Pointer

/-- An attribute of a response; `DHCP_OPTION` holds it. -/
structure Attribute where
  id : UInt8
  data : List UInt8
  deriving DecidableEq

/-- An attribute off the front; a size below the least one ends the list. -/
def readAttribute (least : Nat) : PrefixDecoder UInt8 Attribute
  | attributeId :: size :: unread =>
      if size.toNat < least then none
      else
        let size := size.toNat - 2
        if unread.length < size then none
        else some ({ id := attributeId, data := unread.take size }, unread.drop size)
  | _ => none

def radiusParseOptions (b : List UInt8) : List Attribute :=
  (records (readAttribute 3) b.length 20 (b.drop 20)).map Record.value

section

variable (md5 : List UInt8 → ByteArrayOf 16)

/-- What is done with the first `Message-Authenticator`, which stops at `current`: `msgAuth0` is an
array that nobody has written. -/
def checkAuthenticator
    (msgAuth0 : ByteArrayOf 16)
    (secret : CString)
    (tmp : List UInt8)
    (current : Nat)
    (data : List UInt8) : Except ParseFailure Bool := do
  let msgAuth0 ← copyInto msgAuth0.val 0 data
  let tmp ← copyInto tmp (current - 16) zero16.val
  let msgAuth1 := hMacMd5 md5 secret.bytes (tmp.take (tmp.length - secret.strLen))
  pure (cmpBytes msgAuth0 msgAuth1.val = .eq)

/-- The loop that looks for a `Message-Authenticator`. -/
def authenticatorLoop
    (msgAuth0 : ByteArrayOf 16)
    (secret : CString)
    (tmp : List UInt8) :
    Nat → Nat → List UInt8 → Except ParseFailure Bool
  | 0, _, _ => .ok true
  | rounds + 1, current, unread =>
      match readAttribute 3 unread with
      | none => .ok true
      | some (opt, rest) =>
          let current := current + (unread.length - rest.length)
          if opt.id = RADIUS_ATTRIBUTE_EAP_AUTHENTICATOR then
            checkAuthenticator md5 msgAuth0 secret tmp current opt.data
          else authenticatorLoop msgAuth0 secret tmp rounds current rest

/-- The part of `RadiusValidateAuthenticator` behind the size of the packet. -/
def validateBuffer
    (msgAuth0 : ByteArrayOf 16)
    (b : List UInt8)
    (secret : CString)
    (requestAuthenticator : ByteArrayOf 16)
    (radiusRequireMessageAuthenticator : Bool) : Except ParseFailure Bool := do
  let auth0 := (b.drop 4).take 16
  let tmp ← copyInto b 4 requestAuthenticator.val
  let tmp := tmp ++ secret.bytes
  if cmpBytes auth0 (md5 tmp).val ≠ .eq then .ok false
  else if (radiusParseOptions tmp).any fun o => o.id = RADIUS_ATTRIBUTE_EAP_AUTHENTICATOR then
    authenticatorLoop md5 msgAuth0 secret tmp tmp.length 20 (tmp.drop 20)
  else .ok (!radiusRequireMessageAuthenticator)

/-- `RadiusValidateAuthenticator`; `msgAuth0` is what lies in the array before. -/
def radiusValidateAuthenticator
    (msgAuth0 : ByteArrayOf 16)
    (b : List UInt8)
    (secret : CString)
    (requestAuthenticator : ByteArrayOf 16)
    (radiusRequireMessageAuthenticator : Bool) : Except ParseFailure Bool :=
  if b.length < 20 then .ok false
  else if b.length ≠ fromBigEndian ((b.drop 2).take 2) then .ok false
  else validateBuffer md5 msgAuth0 b secret requestAuthenticator radiusRequireMessageAuthenticator

section

variable (b : List UInt8) (secret : CString) (requestAuthenticator : ByteArrayOf 16)

/-- The packet with the authenticator of the request in the place of its own. -/
def ofRequest : List UInt8 :=
  copyAt b 4 requestAuthenticator.val

/-- The attributes of the packet: each has two bytes and its data, up to the end of the packet or to
one that has not so many. -/
def attributesOf : List (Record Attribute) :=
  records (readAttribute 2) b.length 20 (b.drop 20)

/-- A `Message-Authenticator`. -/
def isAuthenticator (record : Record Attribute) : Bool :=
  record.value.id = RADIUS_ATTRIBUTE_EAP_AUTHENTICATOR

/-- The HMAC of the packet with zeros in the sixteen bytes before a position. -/
def hmacBefore (stop : Nat) : ByteArrayOf 16 :=
  hMacMd5 md5 secret.bytes
    ((copyAt (ofRequest b requestAuthenticator ++ secret.bytes) (stop - 16) zero16.val).take
      b.length)

/-- The size is the one that the packet says, and its authenticator is that of the response. -/
def Authentic : Prop :=
  20 ≤ b.length ∧ b.length = fromBigEndian ((b.drop 2).take 2) ∧
    (b.drop 4).take 16 = (md5 (ofRequest b requestAuthenticator ++ secret.bytes)).val

/-- An attribute of the packet is a `Message-Authenticator` of sixteen bytes, and they are the HMAC
of the packet with zeros in their place. -/
def RightAuthenticator (record : Record Attribute) : Prop :=
  record ∈ attributesOf b ∧ isAuthenticator record = true ∧
    record.value.data = (hMacMd5 md5 secret.bytes
      (copyAt (ofRequest b requestAuthenticator) (record.stop - 16) zero16.val)).val

def ValidResponse : Prop :=
  Authentic md5 b secret requestAuthenticator ∧
    ∃ record, RightAuthenticator md5 b secret requestAuthenticator record

/-- What the search finds first, in the attributes and the secret behind them. -/
def firstAuthenticator : Option (Record Attribute) :=
  (records (readAttribute 3) (b.length + secret.strLen) 20 (b.drop 20 ++ secret.bytes)).find?
    isAuthenticator

end

end

/-! ## What the search finds -/

theorem readAttribute_leaves (least : Nat) : Leaves (readAttribute least) := by
  intro items opt rest taken
  match items with
  | [] => exact nomatch taken
  | [_] => exact nomatch taken
  | attributeId :: size :: unread =>
      rw [readAttribute] at taken
      split at taken
      · exact nomatch taken
      dsimp only at taken
      split at taken
      · exact nomatch taken
      cases taken
      rw [List.length_drop, List.length_cons, List.length_cons]
      omega

theorem readAttribute_goesOnOver (more : List UInt8) :
    GoesOnOver (readAttribute 3) (readAttribute 2) more := by
  intro items opt rest taken
  match items with
  | [] => exact Or.inl rfl
  | [_] => exact Or.inl rfl
  | attributeId :: size :: unread =>
      rw [List.cons_append, List.cons_append, readAttribute] at taken
      rw [readAttribute]
      dsimp only at taken ⊢
      by_cases small : size.toNat < 3
      · rw [if_pos small] at taken
        exact nomatch taken
      rw [if_neg small] at taken
      rw [if_neg (by omega)]
      by_cases enough : unread.length < size.toNat - 2
      · rw [if_pos enough]
        exact Or.inl rfl
      rw [if_neg enough]
      rw [List.length_append, if_neg (by omega)] at taken
      cases taken
      right
      refine ⟨unread.drop (size.toNat - 2), ?_, ?_⟩
      · exact List.drop_append_of_le_length (by omega)
      · rw [List.take_append_of_le_length (by omega)]

section

variable {md5 : List UInt8 → ByteArrayOf 16}
variable {b : List UInt8} {secret : CString} {requestAuthenticator : ByteArrayOf 16}

theorem mem_attributesOf_of_first
    {found : Record Attribute}
    (first : firstAuthenticator b secret = some found) :
    found ∈ attributesOf b ∨ ∀ record ∈ attributesOf b, isAuthenticator record = false :=
  find?_records_append (readAttribute_goesOnOver secret.bytes) isAuthenticator first b.length

theorem stop_of_first
    {found : Record Attribute}
    (long : 20 ≤ b.length)
    (first : firstAuthenticator b secret = some found) :
    20 ≤ found.stop ∧ found.stop ≤ b.length + secret.strLen := by
  have bounds := stop_of_mem_records (readAttribute_leaves 3) (List.mem_of_find?_eq_some first)
  rw [List.length_append, List.length_drop] at bounds
  unfold CString.strLen
  omega

theorem stop_of_mem_attributesOf
    {record : Record Attribute}
    (long : 20 ≤ b.length)
    (listed : record ∈ attributesOf b) :
    20 ≤ record.stop ∧ record.stop ≤ b.length := by
  have bounds := stop_of_mem_records (readAttribute_leaves 2) listed
  rw [List.length_drop] at bounds
  omega

theorem authenticatorLoop_eq
    (msgAuth0 : ByteArrayOf 16)
    (tmp : List UInt8)
    (rounds current : Nat)
    (unread : List UInt8) :
    authenticatorLoop md5 msgAuth0 secret tmp rounds current unread =
      ((records (readAttribute 3) rounds current unread).find? isAuthenticator).elim (.ok true)
        fun found => checkAuthenticator md5 msgAuth0 secret tmp found.stop found.value.data := by
  induction rounds generalizing current unread with
  | zero => rfl
  | succ rounds inductionHypothesis =>
      rw [authenticatorLoop, records]
      cases taken : readAttribute 3 unread with
      | none => rfl
      | some both =>
          obtain ⟨opt, rest⟩ := both
          dsimp only
          by_cases wanted : opt.id = RADIUS_ATTRIBUTE_EAP_AUTHENTICATOR
          · rw [if_pos wanted, List.find?_cons_of_pos (by simp [isAuthenticator, wanted])]
            rfl
          · rw [if_neg wanted, List.find?_cons_of_neg (by simp [isAuthenticator, wanted])]
            exact inductionHypothesis _ _

theorem checkAuthenticator_eq
    {tmp data : List UInt8}
    {current : Nat}
    (msgAuth0 : ByteArrayOf 16)
    (after : 16 ≤ current)
    (inside : current ≤ tmp.length) :
    checkAuthenticator md5 msgAuth0 secret tmp current data =
      if 16 < data.length then .error .outside
      else .ok (decide (data ++ msgAuth0.val.drop data.length = (hMacMd5 md5 secret.bytes
        ((copyAt tmp (current - 16) zero16.val).take (tmp.length - secret.strLen))).val)) := by
  have zeros : zero16.val.length = 16 := zero16.property
  have sixteen : msgAuth0.val.length = 16 := msgAuth0.property
  have zeroed : copyInto tmp (current - 16) zero16.val =
      .ok (copyAt tmp (current - 16) zero16.val) := copyInto_of_le (by omega)
  have size : (copyAt tmp (current - 16) zero16.val).length = tmp.length :=
    length_copyAt (by omega)
  unfold checkAuthenticator
  by_cases long : 16 < data.length
  · rw [if_pos long, copyInto_of_lt (by omega), error_bind]
  · rw [if_neg long, copyInto_of_le (by omega), ok_bind, zeroed, ok_bind, size]
    have filled : copyAt msgAuth0.val 0 data = data ++ msgAuth0.val.drop data.length := by
      rw [copyAt, List.take_zero, List.nil_append, Nat.zero_add]
    rw [filled]
    generalize hMacMd5 md5 secret.bytes
      ((copyAt tmp (current - 16) zero16.val).take (tmp.length - secret.strLen)) = msgAuth1
    have sameSize : (data ++ msgAuth0.val.drop data.length).length = msgAuth1.val.length := by
      rw [msgAuth1.property, List.length_append, List.length_drop]
      omega
    exact congrArg Except.ok (decide_eq_decide.mpr (cmpBytes_eq_iff sameSize))

end

/-! ## The result -/

section

variable (md5 : List UInt8 → ByteArrayOf 16)
variable (b : List UInt8) (secret : CString) (requestAuthenticator : ByteArrayOf 16)

/-- The first one that is found has more data than the array. -/
def TooLong : Prop :=
  ∃ found, firstAuthenticator b secret = some found ∧ 16 < found.value.data.length

/-- The first one that is found is not an attribute of the packet with sixteen bytes, and its data
is the beginning of the HMAC that it is compared with. -/
def Forged : Prop :=
  ∃ found, firstAuthenticator b secret = some found ∧
    ¬(found ∈ attributesOf b ∧ found.value.data.length = 16) ∧
    found.value.data <+: (hmacBefore md5 b secret requestAuthenticator found.stop).val

/-- The packet has a right one, but it is not the one that is found first. -/
def Missed : Prop :=
  (∃ record, RightAuthenticator md5 b secret requestAuthenticator record) ∧
    ∀ found, firstAuthenticator b secret = some found →
      ¬RightAuthenticator md5 b secret requestAuthenticator found

end

section

variable {md5 : List UInt8 → ByteArrayOf 16}
variable {b : List UInt8} {secret : CString} {requestAuthenticator : ByteArrayOf 16}

theorem length_ofRequest (long : 20 ≤ b.length) :
    (ofRequest b requestAuthenticator).length = b.length :=
  length_copyAt (by rw [requestAuthenticator.property]; exact long)

theorem hmacBefore_of_le
    {stop : Nat}
    (long : 20 ≤ b.length)
    (after : 16 ≤ stop)
    (inside : stop ≤ b.length) :
    hmacBefore md5 b secret requestAuthenticator stop =
      hMacMd5 md5 secret.bytes
        (copyAt (ofRequest b requestAuthenticator) (stop - 16) zero16.val) := by
  have size : (ofRequest b requestAuthenticator).length = b.length := length_ofRequest long
  have zeros : zero16.val.length = 16 := zero16.property
  rw [hmacBefore, ← size, take_copyAt_append (by omega)]

theorem radiusValidateAuthenticator_of_not
    (msgAuth0 : ByteArrayOf 16)
    (radiusRequireMessageAuthenticator : Bool)
    (inauthentic : ¬Authentic md5 b secret requestAuthenticator) :
    radiusValidateAuthenticator md5 msgAuth0 b secret requestAuthenticator
      radiusRequireMessageAuthenticator = .ok false := by
  unfold radiusValidateAuthenticator
  by_cases short : b.length < 20
  · rw [if_pos short]
  rw [if_neg short]
  by_cases wrong : b.length ≠ fromBigEndian ((b.drop 2).take 2)
  · rw [if_pos wrong]
  rw [if_neg wrong]
  have inside : 4 + requestAuthenticator.val.length ≤ b.length := by
    rw [requestAuthenticator.property]
    omega
  unfold validateBuffer
  rw [copyInto_of_le inside, ok_bind, if_pos]
  intro same
  apply inauthentic
  refine ⟨Nat.not_lt.mp short, not_not.mp wrong, eq_of_cmpBytes ?_ same⟩
  rw [(md5 _).property, List.length_take, List.length_drop]
  omega

theorem radiusValidateAuthenticator_of_authentic
    (msgAuth0 : ByteArrayOf 16)
    (radiusRequireMessageAuthenticator : Bool)
    (authentic : Authentic md5 b secret requestAuthenticator) :
    radiusValidateAuthenticator md5 msgAuth0 b secret requestAuthenticator
        radiusRequireMessageAuthenticator =
      (firstAuthenticator b secret).elim (.ok !radiusRequireMessageAuthenticator) fun found =>
        if 16 < found.value.data.length then .error .outside
        else .ok (decide (found.value.data ++ msgAuth0.val.drop found.value.data.length =
          (hmacBefore md5 b secret requestAuthenticator found.stop).val)) := by
  obtain ⟨long, size, response⟩ := authentic
  have inside : 4 + requestAuthenticator.val.length ≤ b.length := by
    rw [requestAuthenticator.property]
    omega
  have tmpSize : (copyAt b 4 requestAuthenticator.val ++ secret.bytes).length =
      b.length + secret.strLen := by
    rw [List.length_append, length_copyAt inside]
    rfl
  have unread : (copyAt b 4 requestAuthenticator.val ++ secret.bytes).drop 20 =
      b.drop 20 ++ secret.bytes := by
    have header : (b.take 4 ++ requestAuthenticator.val).length = 20 := by
      rw [List.length_append, List.length_take, requestAuthenticator.property]
      omega
    rw [List.drop_append_of_le_length (by rw [length_copyAt inside]; exact long), copyAt,
      requestAuthenticator.property, List.drop_left' header]
  unfold radiusValidateAuthenticator
  rw [if_neg (Nat.not_lt.mpr long), if_neg (not_not.mpr size)]
  unfold validateBuffer radiusParseOptions
  rw [copyInto_of_le inside, ok_bind]
  dsimp only
  rw [unread, tmpSize, if_neg (not_not.mpr ?_), authenticatorLoop_eq]
  · unfold firstAuthenticator
    generalize recordsAre : records (readAttribute 3) (b.length + secret.strLen) 20
      (b.drop 20 ++ secret.bytes) = found
    have some_found : ((found.map Record.value).any fun o =>
        decide (o.id = RADIUS_ATTRIBUTE_EAP_AUTHENTICATOR)) = (found.find? isAuthenticator).isSome := by
      rw [List.any_map, Bool.eq_iff_iff, List.find?_isSome, List.any_eq_true]
      rfl
    rw [some_found]
    cases first : found.find? isAuthenticator with
    | none => rfl
    | some record =>
        have bounds := @stop_of_first b secret record long (by rw [firstAuthenticator, recordsAre, first])
        rw [if_pos (Option.isSome_some), Option.elim_some, Option.elim_some,
          checkAuthenticator_eq msgAuth0 (by omega) (by omega), tmpSize, Nat.add_sub_cancel]
        rfl
  · rw [response]
    exact (cmpBytes_eq_iff rfl).mpr rfl

end

/-! ## When the result is right -/

theorem filled_iff_of_lt
    {data : List UInt8}
    (short : data.length < 16)
    (mac : ByteArrayOf 16)
    (property : Prop) :
    (∀ msgAuth0 : ByteArrayOf 16,
        (data ++ msgAuth0.val.drop data.length = mac.val ↔ property)) ↔
      ¬data <+: mac.val ∧ ¬property := by
  constructor
  · intro same
    have different : ¬property := by
      intro holds
      have changed : (mac.val.map fun byte => byte + 1).length = 16 := by
        rw [List.length_map, mac.property]
      have filled := (same ⟨_, changed⟩).mpr holds
      have last := congrArg (fun bytes => bytes[15]?) filled
      have inside : 15 < mac.val.length := by
        rw [mac.property]
        decide
      have macLast : mac.val[15]? = some mac.val[15] :=
        List.getElem?_eq_getElem _
      dsimp only at last
      rw [List.getElem?_append_right (by omega), List.getElem?_drop,
        Nat.add_sub_cancel' (by omega), List.getElem?_map, macLast, Option.map_some] at last
      exact absurd (Option.some.inj last) (by simp)
    refine ⟨?_, different⟩
    rintro ⟨behind, isMac⟩
    apply different
    rw [← same mac, ← isMac, List.drop_left]
  · rintro ⟨other, different⟩ msgAuth0
    constructor
    · intro filled
      exact (other ⟨_, filled⟩).elim
    · intro holds
      exact (different holds).elim

section

variable {md5 : List UInt8 → ByteArrayOf 16}
variable {b : List UInt8} {secret : CString} {requestAuthenticator : ByteArrayOf 16}

theorem rightAuthenticator_iff
    {found : Record Attribute}
    (long : 20 ≤ b.length)
    (first : firstAuthenticator b secret = some found)
    (own : found ∈ attributesOf b) :
    RightAuthenticator md5 b secret requestAuthenticator found ↔
      found.value.data = (hmacBefore md5 b secret requestAuthenticator found.stop).val := by
  have bounds := stop_of_mem_attributesOf long own
  rw [hmacBefore_of_le long (by omega) bounds.2]
  constructor
  · exact fun right => right.2.2
  · exact fun same => ⟨own, List.find?_some first, same⟩

theorem RightAuthenticator.length_data
    {record : Record Attribute}
    (right : RightAuthenticator md5 b secret requestAuthenticator record) :
    record.value.data.length = 16 := by
  rw [right.2.2]
  exact (hMacMd5 md5 _ _).property

theorem append_drop_of_sixteen
    {data : List UInt8}
    (sixteen : data.length = 16)
    (msgAuth0 : ByteArrayOf 16) :
    data ++ msgAuth0.val.drop data.length = data := by
  have nothing : msgAuth0.val.drop data.length = [] := by
    apply List.drop_of_length_le
    rw [msgAuth0.property, sixteen]
  rw [nothing, List.append_nil]

theorem compared_iff_of_not_own
    {found : Record Attribute}
    (first : firstAuthenticator b secret = some found)
    (fits : found.value.data.length ≤ 16)
    (notOwn : ¬(found ∈ attributesOf b ∧ found.value.data.length = 16)) :
    (∀ msgAuth0 : ByteArrayOf 16,
        (found.value.data ++ msgAuth0.val.drop found.value.data.length =
            (hmacBefore md5 b secret requestAuthenticator found.stop).val ↔
          ∃ record, RightAuthenticator md5 b secret requestAuthenticator record)) ↔
      ¬found.value.data <+: (hmacBefore md5 b secret requestAuthenticator found.stop).val ∧
        ¬∃ record, RightAuthenticator md5 b secret requestAuthenticator record := by
  generalize hmacBefore md5 b secret requestAuthenticator found.stop = mac
  by_cases short : found.value.data.length < 16
  · exact filled_iff_of_lt short mac _
  have sixteen : found.value.data.length = 16 := by omega
  have nothing : ¬∃ record, RightAuthenticator md5 b secret requestAuthenticator record := by
    rintro ⟨record, own, isAuth, -⟩
    obtain foundOwn | others := mem_attributesOf_of_first first
    · exact notOwn ⟨foundOwn, sixteen⟩
    · rw [others record own] at isAuth
      exact nomatch isAuth
  have prefixIff : found.value.data <+: mac.val ↔ found.value.data = mac.val := by
    constructor
    · intro beginning
      exact beginning.eq_of_length (sixteen.trans mac.property.symm)
    · intro same
      exact same ▸ List.prefix_rfl
  simp only [append_drop_of_sixteen sixteen, prefixIff, nothing, iff_false, not_false_eq_true, and_true]
  constructor
  · intro all
    exact all zero16
  · intro other _
    exact other

/-- The result is right, whatever lies in the array, exactly when a packet with the authenticator of
the response has first, of all that the search finds in its attributes and the secret behind them,
one that fits the array, is its own or not the beginning of the HMAC, and is the right one if the
packet has a right one. -/
theorem radiusValidateAuthenticator_iff
    (md5 : List UInt8 → ByteArrayOf 16)
    (b : List UInt8)
    (secret : CString)
    (requestAuthenticator : ByteArrayOf 16) :
    (∀ msgAuth0 : ByteArrayOf 16, ∃ ret,
      radiusValidateAuthenticator md5 msgAuth0 b secret requestAuthenticator true = .ok ret ∧
        (ret = true ↔ ValidResponse md5 b secret requestAuthenticator)) ↔
      (Authentic md5 b secret requestAuthenticator →
        ¬TooLong b secret ∧ ¬Forged md5 b secret requestAuthenticator ∧
          ¬Missed md5 b secret requestAuthenticator) := by
  by_cases authentic : Authentic md5 b secret requestAuthenticator
  swap
  · refine iff_of_true (fun msgAuth0 => ⟨false, ?_, ?_⟩) fun holds => (authentic holds).elim
    · exact radiusValidateAuthenticator_of_not msgAuth0 true authentic
    · exact iff_of_false Bool.false_ne_true fun valid => authentic valid.1
  have validIff : ValidResponse md5 b secret requestAuthenticator ↔
      ∃ record, RightAuthenticator md5 b secret requestAuthenticator record :=
    and_iff_right authentic
  have someRet (result : Bool) (property : Prop) :
      (∃ ret, (.ok result : Except ParseFailure Bool) = .ok ret ∧ (ret = true ↔ property)) ↔
        (result = true ↔ property) := by
    constructor
    · rintro ⟨ret, same, iff⟩
      rwa [Except.ok.inj same]
    · intro iff
      exact ⟨result, rfl, iff⟩
  simp only [radiusValidateAuthenticator_of_authentic _ true authentic, validIff, authentic,
    forall_const]
  unfold TooLong Forged Missed
  cases first : firstAuthenticator b secret with
  | none =>
      simp only [Option.elim_none, someRet, reduceCtorEq, false_and, exists_false,
        not_false_eq_true, true_and, false_implies, implies_true, and_true, Bool.not_true,
        false_iff]
      constructor
      · exact fun all => all zero16
      · exact fun nothing _ => nothing
  | some found =>
      simp only [Option.elim_some, Option.some.injEq, exists_eq_left', forall_eq']
      by_cases long : 16 < found.value.data.length
      · simp only [long, not_true_eq_false, false_and, iff_false]
        intro result
        obtain ⟨ret, outside, -⟩ := result zero16
        exact nomatch outside
      simp only [if_neg long, someRet, decide_eq_true_eq]
      by_cases own : found ∈ attributesOf b ∧ found.value.data.length = 16
      · have right := @rightAuthenticator_iff md5 b secret requestAuthenticator found authentic.1
          first own.1
        simp only [append_drop_of_sixteen own.2, ← right]
        simp only [own, lt_irrefl, not_true_eq_false, false_and, and_self, not_false_eq_true,
          true_and]
        constructor
        · intro same missed
          exact missed.2 ((same zero16).mpr missed.1)
        · intro seen _
          constructor
          · exact fun isRight => ⟨found, isRight⟩
          · intro some_right
            by_contra wrong
            exact seen ⟨some_right, wrong⟩
      · rw [compared_iff_of_not_own first (Nat.not_lt.mp long) own]
        have notRight : ¬RightAuthenticator md5 b secret requestAuthenticator found :=
          fun isRight => own ⟨isRight.1, isRight.length_data⟩
        simp [long, own, notRight]

end

/-- A response with these attributes and the authenticator that belongs to them. -/
def responseOf
    (md5 : List UInt8 → ByteArrayOf 16)
    (secret : CString)
    (requestAuthenticator : ByteArrayOf 16)
    (attributes : List UInt8) : List UInt8 :=
  let header := [2, 1] ++ bigEndian 2 (20 + attributes.length)
  header ++
    ((md5 (header ++ (requestAuthenticator.val ++ attributes) ++ secret.bytes)).val ++ attributes)

section

variable
    (md5 : List UInt8 → ByteArrayOf 16)
    (secret : CString)
    (requestAuthenticator : ByteArrayOf 16)
    (attributes : List UInt8)

theorem length_responseOf :
    (responseOf md5 secret requestAuthenticator attributes).length = 20 + attributes.length := by
  simp only [responseOf, List.length_append, length_bigEndian, List.length_cons,
    List.length_nil]
  rw [(md5 _).property]
  omega

theorem drop_responseOf :
    (responseOf md5 secret requestAuthenticator attributes).drop 20 = attributes := by
  unfold responseOf
  rw [← List.append_assoc]
  apply List.drop_left'
  rw [List.length_append, List.length_append, length_bigEndian, (md5 _).property]
  rfl

theorem authentic_responseOf (small : 20 + attributes.length < 65536) :
    Authentic md5 (responseOf md5 secret requestAuthenticator attributes) secret
      requestAuthenticator := by
  have size := length_responseOf md5 secret requestAuthenticator attributes
  have header : ([2, 1] ++ bigEndian 2 (20 + attributes.length)).length = 4 := by
    rw [List.length_append, length_bigEndian]
    rfl
  refine ⟨by omega, ?_, ?_⟩
  · have two : ((responseOf md5 secret requestAuthenticator attributes).drop 2).take 2 =
        bigEndian 2 (20 + attributes.length) := by
      simp only [responseOf, List.cons_append, List.nil_append, List.drop_succ_cons, List.drop_zero]
      exact List.take_left' (length_bigEndian 2 _)
    rw [size, two, fromBigEndian_bigEndian small]
  · have ofRequestIs : ofRequest (responseOf md5 secret requestAuthenticator attributes)
        requestAuthenticator = ([2, 1] ++ bigEndian 2 (20 + attributes.length)) ++
          (requestAuthenticator.val ++ attributes) := by
      unfold ofRequest responseOf
      dsimp only
      generalize md5 _ = hash
      rw [← header]
      exact copyAt_middle (hash.property.trans requestAuthenticator.property.symm) _ _
    rw [ofRequestIs]
    unfold responseOf
    dsimp only
    rw [List.drop_left' header]
    exact List.take_left' (md5 _).property

end

/-- A `Message-Authenticator` of seventeen bytes in a response whose size and authenticator are
right is written over the end of the array, whatever the hash is. -/
theorem radiusValidateAuthenticator_overflows :
    ¬∃ md5 : List UInt8 → ByteArrayOf 16,
      radiusValidateAuthenticator md5 zero16
        (responseOf md5 (CString.ofBuffer [115]) zero16 ([80, 19] ++ List.replicate 17 0))
        (CString.ofBuffer [115]) zero16 true ≠ .error .outside := by
  rintro ⟨md5, inside⟩
  apply inside
  generalize attributesAre : [80, 19] ++ List.replicate 17 (0 : UInt8) = attributes
  have count : attributes.length = 19 := by
    rw [← attributesAre]
    rfl
  have authentic := authentic_responseOf md5 (CString.ofBuffer [115]) zero16 attributes (by omega)
  have first : firstAuthenticator (responseOf md5 (CString.ofBuffer [115]) zero16 attributes)
      (CString.ofBuffer [115]) =
        some { stop := 39, value := { id := 80, data := List.replicate 17 0 } } := by
    rw [firstAuthenticator, length_responseOf, drop_responseOf, ← attributesAre]
    decide +kernel
  rw [radiusValidateAuthenticator_of_authentic zero16 true authentic, first]
  rfl

end Radius
end SoftEther
