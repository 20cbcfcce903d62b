import SoftEther.Cedar.Ppp.Session
import SoftEther.Mayaqua.Pointer

/-!
# PPP packets as bytes

The builders and the parsers of `IPsec_PPP.c`.  A control packet has a length of its own besides
that of the frame; a list of options ends where the packet's own length says, and opaque data
end where the frame does.
-/

namespace SoftEther
namespace Ppp

open Library
open Pointer

/-- `PPP_LCP` between the bytes and the session: `Data` may be `NULL`. -/
structure LcpData where
  code : UInt8
  id : UInt8
  optionList : List PppOption := []
  /-- `Data` and `DataSize`. -/
  data : Option (List UInt8) := none
  deriving DecidableEq

/-- The session's view of a control packet. -/
def LcpData.lcp (c : LcpData) : PppLcp :=
  { code := c.code, id := c.id, optionList := c.optionList, data := c.data.getD [] }

def pppLcpCodeIsWithOptionList (code : UInt8) : Bool :=
  code = PPP_LCP_CODE_REQ ∨ code = PPP_LCP_CODE_ACK ∨ code = PPP_LCP_CODE_NAK

def pppCodeIsWithOptionList (protocol : UInt16) (code : UInt8) : Bool :=
  (protocol = PPP_PROTOCOL_LCP ∨ protocol = PPP_PROTOCOL_IPCP) ∧ pppLcpCodeIsWithOptionList code

/-- An option of `BuildLCPData`; `sz` is a `UCHAR`. -/
def buildOption (o : PppOption) : List UInt8 :=
  o.type :: UInt8.ofNat (o.data.length + 2) :: o.data

/-- What stands behind the length. -/
def LcpData.body (c : LcpData) : List UInt8 :=
  match c.data with
  | none => c.optionList.flatMap buildOption
  | some data => data

def buildLcpData (c : LcpData) : List UInt8 :=
  c.code :: c.id :: (bigEndian 2 (c.body.length + 4) ++ c.body)

/-- The loop over the options, for as many bytes as are left of the packet's own length. -/
def parseOptions (len : Nat) (buf : List UInt8) : Except ParseFailure (List PppOption) :=
  if len = 0 then .ok []
  else do
    let type ← readUCHAR buf
    if len - 1 < 1 then .error .rejected
    else do
      let uc ← readUCHAR (buf.drop 1)
      if uc.toNat < 2 then .error .rejected
      else if len - 2 < uc.toNat - 2 then .error .rejected
      else do
        let data ← cloneData (buf.drop 2) (uc.toNat - 2)
        let optionList ← parseOptions (len - 2 - (uc.toNat - 2)) ((buf.drop 2).drop (uc.toNat - 2))
        return { type := type, data := data } :: optionList
termination_by len

/-- The options or the data; `len` is what is left of the packet's own length, and `size` what
is left of the frame. -/
def parseBody (protocol : UInt16) (code id : UInt8) (len : Nat) (buf : List UInt8) (size : Nat) :
    Except ParseFailure LcpData :=
  if pppCodeIsWithOptionList protocol code = false then do
    let data ← cloneData buf size
    return { code := code, id := id, data := some data }
  else do
    let optionList ← parseOptions len buf
    return { code := code, id := id, optionList := optionList }

def parseLcp (protocol : UInt16) (data : List UInt8) (size : Nat) : Except ParseFailure LcpData :=
  if size = 0 then .error .rejected
  else do
    let code ← readUCHAR data
    let buf := data.drop 1
    let size := subUINT size 1
    if size < 1 then .error .rejected
    else do
      let id ← readUCHAR buf
      let buf := buf.drop 1
      let size := subUINT size 1
      if size < 2 then .error .rejected
      else do
        let len ← readUSHORT buf
        if len < 4 then .error .rejected
        else
          let buf := buf.drop 2
          let size := subUINT size 2
          if size < len - 4 then .error .rejected
          else parseBody protocol code id (len - 4) buf size

/-! ## What the parser makes of a packet -/

theorem parseLcp_cons
    (protocol : UInt16)
    (code id : UInt8)
    {length : Nat}
    (fits : length < 65536)
    {buf : List UInt8}
    (small : buf.length + 2 + 1 + 1 < X32) :
    parseLcp protocol (code :: id :: (bigEndian 2 length ++ buf)) (buf.length + 2 + 1 + 1) =
      if length < 4 then .error .rejected
      else if buf.length < length - 4 then .error .rejected
      else parseBody protocol code id (length - 4) buf buf.length := by
  have second : buf.length + 2 + 1 < X32 := by omega
  have third : buf.length + 2 < X32 := by omega
  unfold parseLcp
  rw [if_neg (by omega), readUCHAR_cons, ok_bind]
  dsimp only
  rw [subUINT_add small, if_neg (by omega), List.drop_succ_cons, List.drop_zero, readUCHAR_cons,
    ok_bind, subUINT_add second, if_neg (by omega), List.drop_succ_cons, List.drop_zero,
    readUSHORT_write fits, ok_bind, drop_bigEndian, subUINT_add third]

theorem parseOptions_cons
    {o : PppOption}
    (short : o.data.length ≤ 253)
    {len : Nat}
    {buf : List UInt8} :
    parseOptions (len + (o.data.length + 2)) (buildOption o ++ buf) =
      parseOptions len buf >>= fun optionList =>
        .ok ({ type := o.type, data := o.data } :: optionList) := by
  have size : (UInt8.ofNat (o.data.length + 2)).toNat = o.data.length + 2 :=
    UInt8.toNat_ofNat_of_lt' (by unfold UInt8.size; omega)
  have bytes : buildOption o ++ buf =
      o.type :: UInt8.ofNat (o.data.length + 2) :: (o.data ++ buf) := rfl
  rw [parseOptions, if_neg (by omega), bytes, readUCHAR_cons, ok_bind, if_neg (by omega),
    List.drop_succ_cons, List.drop_zero, readUCHAR_cons, ok_bind, size, if_neg (by omega),
    if_neg (by omega), List.drop_succ_cons, List.drop_succ_cons, List.drop_zero,
    Nat.add_sub_cancel, cloneData_append, ok_bind, List.drop_left]
  have left : len + (o.data.length + 2) - 2 - o.data.length = len := by omega
  rw [left]
  rfl

def parsedOptions (optionList : List PppOption) : List PppOption :=
  optionList.map fun o => { type := o.type, data := o.data }

/-- The bytes that options take. -/
def optionsLength (optionList : List PppOption) : Nat :=
  (optionList.map fun o => o.data.length + 2).sum

theorem length_flatMap_buildOption (optionList : List PppOption) :
    (optionList.flatMap buildOption).length = optionsLength optionList := by
  rw [List.length_flatMap]
  exact congrArg List.sum (List.map_congr_left fun o _ => rfl)

theorem parseOptions_build
    {optionList : List PppOption}
    (short : ∀ o ∈ optionList, o.data.length ≤ 253)
    (padding : List UInt8) :
    parseOptions (optionsLength optionList) (optionList.flatMap buildOption ++ padding) =
      .ok (parsedOptions optionList) := by
  induction optionList with
  | nil =>
      rw [parseOptions]
      rfl
  | cons o rest inductionHypothesis =>
      have total : optionsLength (o :: rest) = optionsLength rest + (o.data.length + 2) :=
        Nat.add_comm _ _
      have others := inductionHypothesis fun other listed =>
        short other (List.mem_cons_of_mem o listed)
      rw [total, List.flatMap_cons, List.append_assoc,
        parseOptions_cons (short o List.mem_cons_self), others]
      rfl

theorem ends_any {Value : Type} (parse : Except ParseFailure Value) :
    Ends (fun _ => True) parse fun _ => True := by
  cases parse with
  | ok value => exact trivial
  | error failure => exact trivial

theorem ends_cloneData (data : List UInt8) (size : Nat) :
    Ends (fun _ => True) (cloneData data size) fun block => block.length = size := by
  unfold cloneData readItems
  split
  · rename_i enough
    exact Ends.ok (List.length_take_of_le enough)
  · exact Ends.error trivial

theorem ends_parseOptions (len : Nat) (buf : List UInt8) :
    Ends (fun _ => True) (parseOptions len buf) fun optionList => optionsLength optionList = len := by
  induction len using Nat.strongRecOn generalizing buf with
  | ind len inductionHypothesis =>
      rw [parseOptions]
      by_cases done : len = 0
      · rw [if_pos done]
        exact Ends.ok done.symm
      · rw [if_neg done]
        refine (ends_any _).bind fun type _ => ?_
        by_cases single : len - 1 < 1
        · rw [if_pos single]
          exact Ends.error trivial
        · rw [if_neg single]
          refine (ends_any _).bind fun uc _ => ?_
          by_cases shortSize : uc.toNat < 2
          · rw [if_pos shortSize]
            exact Ends.error trivial
          · rw [if_neg shortSize]
            by_cases long : len - 2 < uc.toNat - 2
            · rw [if_pos long]
              exact Ends.error trivial
            · rw [if_neg long]
              refine (ends_cloneData _ _).bind fun data isData => ?_
              refine (inductionHypothesis _ (by omega) _).bind fun optionList others => ?_
              apply Ends.ok
              have total : optionsLength ({ type := type, data := data } :: optionList) =
                  (data.length + 2) + optionsLength optionList := rfl
              rw [total, others, isData]
              omega

theorem ends_withOptions (code id : UInt8) (len : Nat) (buf : List UInt8) :
    Ends (fun _ => True)
      (parseOptions len buf >>= fun optionList =>
        (.ok { code := code, id := id, optionList := optionList } : Except ParseFailure LcpData))
      fun ret => optionsLength ret.optionList = len := by
  apply (ends_parseOptions len buf).bind
  intro optionList taken
  exact Ends.ok taken

/-! ## The round trip -/

/-- A packet carries what its protocol and its code ask for: a list of options of at most 253
bytes, or opaque data. -/
def LcpData.Carries (c : LcpData) (protocol : UInt16) : Prop :=
  if pppCodeIsWithOptionList protocol c.code then
    c.data = none ∧ ∀ o ∈ c.optionList, o.data.length ≤ 253
  else c.data ≠ none ∧ c.optionList = []

structure LcpData.SameContent (c ret : LcpData) : Prop where
  code : ret.code = c.code
  id : ret.id = c.id
  /-- `OptionList`, with the types and the data of the options. -/
  optionList : ret.optionList.map (fun o => (o.type, o.data)) =
    c.optionList.map fun o => (o.type, o.data)
  data : ret.data = c.data

/-- A packet with padding behind it is parsed as it was built. -/
def ReturnsPadded (protocol : UInt16) (c : LcpData) (padding : List UInt8) : Prop :=
  ∃ ret, parseLcp protocol (buildLcpData c ++ padding) (buildLcpData c ++ padding).length = .ok ret ∧
    c.SameContent ret

/-- The packets that are parsed as they were built: a list of options whose length fits in the
packet's own length field; and opaque data without padding, whose length field is at least that
of the header. -/
def PaddingIgnored (protocol : UInt16) (c : LcpData) (padding : List UInt8) : Prop :=
  if pppCodeIsWithOptionList protocol c.code then (buildLcpData c).length < 65536
  else padding = [] ∧ 4 ≤ (buildLcpData c).length % 65536

theorem length_buildLcpData (c : LcpData) : (buildLcpData c).length = c.body.length + 4 := by
  simp [buildLcpData, length_bigEndian]
  omega

/-- The two bytes of a length hold it up to their width. -/
theorem bigEndian_mod (value : Nat) : bigEndian 2 value = bigEndian 2 (value % 65536) := by
  have high : UInt8.ofNat (value / 256 ^ 1) = UInt8.ofNat (value % 65536 / 256 ^ 1) := by
    apply UInt8.toNat_inj.mp
    rw [UInt8.toNat_ofNat', UInt8.toNat_ofNat']
    omega
  have low : UInt8.ofNat (value / 256 ^ 0) = UInt8.ofNat (value % 65536 / 256 ^ 0) := by
    apply UInt8.toNat_inj.mp
    rw [UInt8.toNat_ofNat', UInt8.toNat_ofNat']
    omega
  unfold bigEndian bigEndian bigEndian
  rw [high, low]

variable {padding : List UInt8} {protocol : UInt16}

theorem parseLcp_build
    (protocol : UInt16)
    (c : LcpData)
    (small : (buildLcpData c ++ padding).length < X32) :
    parseLcp protocol (buildLcpData c ++ padding) (buildLcpData c ++ padding).length =
      if (buildLcpData c).length % 65536 < 4 then .error .rejected
      else parseBody protocol c.code c.id ((buildLcpData c).length % 65536 - 4)
        (c.body ++ padding) (c.body ++ padding).length := by
  have bytes : buildLcpData c ++ padding =
      c.code :: c.id :: (bigEndian 2 ((c.body.length + 4) % 65536) ++ (c.body ++ padding)) := by
    rw [← bigEndian_mod]
    simp [buildLcpData]
  have total : (buildLcpData c ++ padding).length = (c.body ++ padding).length + 2 + 1 + 1 := by
    rw [List.length_append, List.length_append, length_buildLcpData]
    omega
  rw [total] at small ⊢
  have fits : (c.body.length + 4) % 65536 < 65536 := Nat.mod_lt _ (by decide)
  rw [bytes, parseLcp_cons protocol c.code c.id fits small, length_buildLcpData]
  have inside : (c.body ++ padding).length = c.body.length + padding.length := List.length_append
  have le := Nat.mod_le (c.body.length + 4) 65536
  by_cases short : (c.body.length + 4) % 65536 < 4
  · rw [if_pos short, if_pos short]
  · rw [if_neg short, if_neg short, if_neg (by omega)]

theorem optionsLength_congr
    {optionList other : List PppOption}
    (same : optionList.map (fun o => (o.type, o.data)) = other.map fun o => (o.type, o.data)) :
    optionsLength optionList = optionsLength other := by
  have lengths := congrArg (fun pairs : List (UInt8 × List UInt8) =>
    (pairs.map fun pair => pair.2.length + 2).sum) same
  simpa [optionsLength, Function.comp_def] using lengths

theorem returnsPadded_options
    {c : LcpData}
    (withOptions : pppCodeIsWithOptionList protocol c.code = true)
    (noData : c.data = none)
    (short : ∀ o ∈ c.optionList, o.data.length ≤ 253)
    (small : (buildLcpData c ++ padding).length < X32) :
    ReturnsPadded protocol c padding ↔ (buildLcpData c).length < 65536 := by
  have body : c.body = c.optionList.flatMap buildOption := by
    simp [LcpData.body, noData]
  have total : (buildLcpData c).length = optionsLength c.optionList + 4 := by
    rw [length_buildLcpData, body, length_flatMap_buildOption]
  have isOptions : ∀ len buf size, parseBody protocol c.code c.id len buf size =
      parseOptions len buf >>= fun optionList =>
        .ok { code := c.code, id := c.id, optionList := optionList } := by
    intro len buf size
    unfold parseBody
    rw [if_neg (by simp [withOptions])]
    rfl
  unfold ReturnsPadded
  rw [parseLcp_build protocol c small]
  constructor
  · rintro ⟨ret, parsed, same⟩
    by_cases header : (buildLcpData c).length % 65536 < 4
    · rw [if_pos header] at parsed
      exact nomatch parsed
    · rw [if_neg header, isOptions] at parsed
      have length := (ends_withOptions c.code c.id _ _).of_ok parsed
      rw [optionsLength_congr same.optionList] at length
      by_contra long
      have less : (buildLcpData c).length % 65536 < 65536 := Nat.mod_lt _ (by decide)
      omega
  · intro fits
    have mod : (buildLcpData c).length % 65536 = optionsLength c.optionList + 4 := by
      rw [Nat.mod_eq_of_lt fits, total]
    rw [mod, if_neg (by omega), isOptions, Nat.add_sub_cancel, body, parseOptions_build short]
    refine ⟨_, rfl, rfl, rfl, ?_, noData.symm⟩
    simp [parsedOptions]

theorem returnsPadded_data
    {c : LcpData}
    {padding data : List UInt8}
    (withoutOptions : pppCodeIsWithOptionList protocol c.code = false)
    (isData : c.data = some data)
    (noOptions : c.optionList = [])
    (small : (buildLcpData c ++ padding).length < X32) :
    ReturnsPadded protocol c padding ↔
      padding = [] ∧ 4 ≤ (buildLcpData c).length % 65536 := by
  have body : c.body = data := by
    simp [LcpData.body, isData]
  have taken : ∀ len, parseBody protocol c.code c.id len (c.body ++ padding)
      (c.body ++ padding).length =
        .ok { code := c.code, id := c.id, data := some (data ++ padding) } := by
    intro len
    unfold parseBody
    rw [if_pos withoutOptions, cloneData_self, body]
    rfl
  unfold ReturnsPadded
  rw [parseLcp_build protocol c small]
  by_cases header : (buildLcpData c).length % 65536 < 4
  · rw [if_pos header]
    constructor
    · rintro ⟨ret, parsed, _⟩
      exact nomatch parsed
    · exact fun both => absurd header (Nat.not_lt.mpr both.2)
  · rw [if_neg header, taken]
    constructor
    · rintro ⟨ret, parsed, same⟩
      have isRet := Except.ok.inj parsed
      have sameData : some (data ++ padding) = some data := by
        rw [← isData, ← same.data, ← isRet]
      exact ⟨List.append_right_eq_self.mp (Option.some.inj sameData), Nat.not_lt.mp header⟩
    · rintro ⟨rfl, _⟩
      refine ⟨_, rfl, rfl, rfl, ?_, ?_⟩
      · rw [noOptions]
      · rw [isData, List.append_nil]

/-- **The codec.**  A packet with padding behind it is parsed as it was built exactly when it
has options that fit, or opaque data and no padding. -/
theorem parseLcp_returnsPadded_iff
    {protocol : UInt16}
    {c : LcpData}
    {padding : List UInt8}
    (carries : c.Carries protocol)
    (small : (buildLcpData c ++ padding).length < X32) :
    ReturnsPadded protocol c padding ↔ PaddingIgnored protocol c padding := by
  unfold LcpData.Carries at carries
  unfold PaddingIgnored
  cases withOptions : pppCodeIsWithOptionList protocol c.code with
  | true =>
      rw [withOptions] at carries
      rw [if_pos rfl] at carries ⊢
      exact returnsPadded_options withOptions carries.1 carries.2 small
  | false =>
      rw [withOptions] at carries
      rw [if_neg (by simp)] at carries ⊢
      obtain ⟨data, isData⟩ := Option.ne_none_iff_exists'.mp carries.1
      exact returnsPadded_data withOptions isData carries.2 small

def mruRequest : LcpData where
  code := PPP_LCP_CODE_REQ
  id := 1
  optionList := [{ type := PPP_LCP_OPTION_MRU, data := [5, 220] }]

/-- The request is parsed whatever its padding. -/
theorem parseLcp_returnsPadded_iff_request :
    ReturnsPadded PPP_PROTOCOL_LCP mruRequest [0, 0] ↔
      PaddingIgnored PPP_PROTOCOL_LCP mruRequest [0, 0] :=
  parseLcp_returnsPadded_iff (by unfold LcpData.Carries; decide) (by decide)

/-- A response of MS-CHAPv2 by a user whose name is one letter. -/
def namedResponse : LcpData where
  code := PPP_CHAP_CODE_RESPONSE
  id := 1
  data := some (49 :: List.replicate 49 0 ++ [97])

/-- What is padded to the response becomes a part of the name. -/
theorem namedResponse_padded :
    (¬∀ (protocol : UInt16) (c : LcpData) (padding : List UInt8), c.Carries protocol →
      (buildLcpData c ++ padding).length < X32 → ReturnsPadded protocol c padding) ∧
      (parseLcp PPP_PROTOCOL_CHAP (buildLcpData namedResponse ++ [0x78]) 56).toOption.bind
          (fun c => (chapResponse c.lcp.data).map fun r => r.username.bytes) = some [97, 0x78] := by
  constructor
  · intro all
    have carries : namedResponse.Carries PPP_PROTOCOL_CHAP := by
      unfold LcpData.Carries
      decide
    obtain ⟨ret, returned, same⟩ :=
      all PPP_PROTOCOL_CHAP namedResponse [0x78] carries (by decide)
    rw [parseLcp_build PPP_PROTOCOL_CHAP namedResponse (by decide)] at returned
    have data : ret.data = some (49 :: List.replicate 49 0 ++ [97, 0x78]) := by
      rw [← Except.ok.inj returned]
      rfl
    exact absurd (data.symm.trans same.data) (by decide)
  · decide

end Ppp
end SoftEther
