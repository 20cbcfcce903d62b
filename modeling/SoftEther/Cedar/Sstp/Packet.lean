import Mathlib.Algebra.Order.BigOperators.Group.List
import SoftEther.Mayaqua.Pointer

/-!
# SSTP packets

`SSTP_PACKET` of `Interop_SSTP.c`, its builder and its parser.  Three lengths lie within each
other, that of the packet, the number of the attributes and that of an attribute; the builder
writes them with sixteen bits, and the parser takes twelve bits of the first and the last.
-/

namespace SoftEther
namespace Sstp

open Library
open Pointer

def SSTP_VERSION_1 : UInt8 := 0x10

/-- `SSTP_ATTRIBUTE`; `DataSize` is the length of the data. -/
structure Attribute where
  attributeId : UInt8
  data : List UInt8
  /-- `TotalLength`, which the builder and the parser set. -/
  totalLength : Nat := 0
  deriving DecidableEq

/-- `SSTP_PACKET`; `DataSize` is the length of the data. -/
structure Packet where
  version : UInt8 := 0
  isControl : Bool
  data : List UInt8 := []
  messageType : UInt16 := 0
  attibuteList : List Attribute := []
  deriving DecidableEq

def sstpBuildAttribute (a : Attribute) : List UInt8 :=
  [0, a.attributeId] ++ bigEndian 2 (a.data.length + 4) ++ a.data

def sstpBuildAttributeList (o : List Attribute) (messageType : UInt16) : List UInt8 :=
  bigEndian 2 messageType.toNat ++ bigEndian 2 o.length ++ o.flatMap sstpBuildAttribute

/-- The data that `SstpBuildPacket` sends: those of a control packet are its attributes. -/
def Packet.builtData (p : Packet) : List UInt8 :=
  if p.isControl then sstpBuildAttributeList p.attibuteList p.messageType else p.data

def sstpBuildPacket (p : Packet) : List UInt8 :=
  [SSTP_VERSION_1, if p.isControl then 1 else 0] ++ bigEndian 2 (p.builtData.length + 4) ++
    p.builtData

def sstpParseAttribute (data : List UInt8) (size : Nat) : Except ParseFailure Attribute :=
  if size = 0 then .error .rejected
  else if size < 4 then .error .rejected
  else do
    let data := data.drop 1
    let size := subUINT size 1
    let attributeId ← readUCHAR data
    let data := data.drop 1
    let size := subUINT size 1
    let length ← readUSHORT data
    let totalLength := length &&& 0xFFF
    let data := data.drop 2
    let size := subUINT size 2
    if totalLength < 4 then .error .rejected
    else if size < subUINT totalLength 4 then .error .rejected
    else do
      let block ← cloneData data (subUINT totalLength 4)
      return ⟨attributeId, block, totalLength⟩

/-- The loop of `SstpParseAttributeList`, for as many attributes as are missing. -/
def parseAttributes : Nat → List UInt8 → Nat → Except ParseFailure (List Attribute)
  | 0, _, _ => .ok []
  | missing + 1, data, size => do
      let a ← sstpParseAttribute data size
      if size < a.totalLength then .error .rejected
      else do
        let o ← parseAttributes missing (data.drop a.totalLength) (subUINT size a.totalLength)
        return a :: o

/-- `SstpParseAttributeList`: the message type and the attributes. -/
def sstpParseAttributeList (data : List UInt8) (size : Nat) :
    Except ParseFailure (UInt16 × List Attribute) :=
  if size = 0 then .error .rejected
  else if size < 4 then .error .rejected
  else do
    let messageType ← readUSHORT data
    let data := data.drop 2
    let size := subUINT size 2
    let num ← readUSHORT data
    let data := data.drop 2
    let size := subUINT size 2
    let o ← parseAttributes num data size
    return (UInt16.ofNat messageType, o)

def parseControl (p : Packet) : Except ParseFailure Packet :=
  if p.isControl then do
    let (messageType, attibuteList) ← sstpParseAttributeList p.data p.data.length
    return { p with messageType := messageType, attibuteList := attibuteList }
  else .ok p

def sstpParsePacket (data : List UInt8) (size : Nat) : Except ParseFailure Packet :=
  if size = 0 then .error .rejected
  else if size < 4 then .error .rejected
  else do
    let version ← readUCHAR data
    let data := data.drop 1
    let size := subUINT size 1
    if version ≠ SSTP_VERSION_1 then .error .rejected
    else do
      let flag ← readUCHAR data
      let data := data.drop 1
      let size := subUINT size 1
      let length ← readUSHORT data
      let len := length &&& 0xFFF
      let data := data.drop 2
      let size := subUINT size 2
      if len < 4 then .error .rejected
      else if size < len - 4 then .error .rejected
      else do
        let block ← cloneData data (len - 4)
        parseControl { version := version, isControl := flag &&& 0x01 ≠ 0, data := block }

/-! ## Reading what was built -/

theorem and_0xFFF_of_lt
    {value : Nat}
    (small : value < 4096) :
    value &&& 0xFFF = value := by
  have mask := Nat.and_two_pow_sub_one_eq_mod value 12
  rw [Nat.mod_eq_of_lt small] at mask
  exact mask

variable {data : List UInt8} {o : List Attribute}

theorem header_of_le
    (enough : 4 ≤ data.length) :
    ∃ first second third fourth rest, data = first :: second :: third :: fourth :: rest := by
  match data, enough with
  | first :: second :: third :: fourth :: rest, _ =>
      exact ⟨first, second, third, fourth, rest, rfl⟩

theorem length_sstpBuildAttribute (a : Attribute) :
    (sstpBuildAttribute a).length = a.data.length + 4 := by
  simp [sstpBuildAttribute, length_bigEndian]
  omega

theorem sstpParseAttribute_cons
    (reserved attributeId high low : UInt8)
    {rest data : List UInt8}
    (isData : data = reserved :: attributeId :: high :: low :: rest)
    (small : data.length < X32) :
    sstpParseAttribute data data.length =
      let totalLength := fromBigEndian [high, low] &&& 0xFFF
      if totalLength < 4 then .error .rejected
      else if rest.length < totalLength - 4 then .error .rejected
      else .ok ⟨attributeId, rest.take (totalLength - 4), totalLength⟩ := by
  subst isData
  have bytes : (reserved :: attributeId :: high :: low :: rest).length = rest.length + 4 := by
    simp
  rw [bytes] at small ⊢
  have small2 : rest.length + 2 < X32 := by omega
  have first : subUINT (rest.length + 4) 1 = rest.length + 3 :=
    (subUINT_of_le (by omega) small).trans (by omega)
  have second : subUINT (rest.length + 3) 1 = rest.length + 2 :=
    (subUINT_of_le (by omega) (by omega)).trans (by omega)
  have third : subUINT (rest.length + 2) 2 = rest.length := subUINT_add small2
  have number : readUSHORT (high :: low :: rest) = .ok (fromBigEndian [high, low]) := by
    unfold readUSHORT
    rw [readItems_of_le (by simp)]
    rfl
  unfold sstpParseAttribute
  rw [if_neg (by omega), if_neg (by omega)]
  dsimp only
  rw [first, second, third]
  simp only [List.drop_succ_cons, List.drop_zero, readUCHAR_cons, number, ok_bind]
  have mask : fromBigEndian [high, low] &&& 0xFFF ≤ 4095 := Nat.and_le_right
  generalize fromBigEndian [high, low] &&& 0xFFF = totalLength at mask
  by_cases short : totalLength < 4
  · rw [if_pos short, if_pos short]
  · have width : subUINT totalLength 4 = totalLength - 4 :=
      subUINT_of_le (by omega) (Nat.lt_of_le_of_lt mask (by decide))
    rw [if_neg short, if_neg short, width]
    by_cases excess : rest.length < totalLength - 4
    · rw [if_pos excess, if_pos excess]
    · have enough : totalLength - 4 ≤ rest.length := by omega
      rw [if_neg excess, if_neg excess, cloneData, readItems_of_le enough]
      rfl

theorem sstpParseAttribute_build
    {a : Attribute}
    {rest : List UInt8}
    (short : a.data.length + 4 < 4096)
    (small : (sstpBuildAttribute a ++ rest).length < X32) :
    sstpParseAttribute (sstpBuildAttribute a ++ rest) (sstpBuildAttribute a ++ rest).length =
      .ok { a with totalLength := a.data.length + 4 } := by
  have number : fromBigEndian (bigEndian 2 (a.data.length + 4)) = a.data.length + 4 :=
    fromBigEndian_bigEndian (by omega)
  have header : bigEndian 2 (a.data.length + 4) =
      [UInt8.ofNat ((a.data.length + 4) / 256 ^ 1), UInt8.ofNat ((a.data.length + 4) / 256 ^ 0)] :=
    rfl
  have bytes : sstpBuildAttribute a ++ rest =
      0 :: a.attributeId :: UInt8.ofNat ((a.data.length + 4) / 256 ^ 1) ::
        UInt8.ofNat ((a.data.length + 4) / 256 ^ 0) :: (a.data ++ rest) := by
    unfold sstpBuildAttribute
    rw [header]
    simp
  rw [sstpParseAttribute_cons _ _ _ _ bytes small, ← header, number, and_0xFFF_of_lt short]
  have block : (a.data ++ rest).take (a.data.length + 4 - 4) = a.data := by
    rw [Nat.add_sub_cancel, List.take_left]
  have fits : ¬(a.data ++ rest).length < a.data.length + 4 - 4 := by
    rw [List.length_append]
    omega
  dsimp only
  rw [if_neg (by omega), if_neg fits, block]

/-- The attributes as the parser returns them. -/
def withTotalLengths (o : List Attribute) : List Attribute :=
  o.map fun a => { a with totalLength := a.data.length + 4 }

theorem parseAttributes_build
    (short : ∀ a ∈ o, a.data.length + 4 < 4096)
    (small : (o.flatMap sstpBuildAttribute).length < X32) :
    parseAttributes o.length (o.flatMap sstpBuildAttribute)
        (o.flatMap sstpBuildAttribute).length = .ok (withTotalLengths o) := by
  induction o with
  | nil => rfl
  | cons a rest inductionHypothesis =>
      rw [List.flatMap_cons] at small ⊢
      have total : (sstpBuildAttribute a ++ rest.flatMap sstpBuildAttribute).length =
          (rest.flatMap sstpBuildAttribute).length + (a.data.length + 4) := by
        rw [List.length_append, length_sstpBuildAttribute, Nat.add_comm]
      have behind : (sstpBuildAttribute a ++ rest.flatMap sstpBuildAttribute).drop
          (a.data.length + 4) = rest.flatMap sstpBuildAttribute :=
        List.drop_left' (length_sstpBuildAttribute a)
      have left : subUINT (sstpBuildAttribute a ++ rest.flatMap sstpBuildAttribute).length
          (a.data.length + 4) = (rest.flatMap sstpBuildAttribute).length := by
        rw [total] at small ⊢
        exact subUINT_add small
      have inner : (rest.flatMap sstpBuildAttribute).length < X32 := by omega
      rw [List.length_cons, parseAttributes,
        sstpParseAttribute_build (short a List.mem_cons_self) small, ok_bind]
      dsimp only
      rw [if_neg (by omega), behind, left,
        inductionHypothesis (fun other listed => short other (List.mem_cons_of_mem a listed)) inner]
      rfl

theorem length_flatMap_build (o : List Attribute) :
    (o.flatMap sstpBuildAttribute).length = (o.map fun a => a.data.length + 4).sum := by
  rw [List.length_flatMap]
  exact congrArg List.sum (List.map_congr_left fun a _ => length_sstpBuildAttribute a)

theorem length_le_flatMap_build (o : List Attribute) :
    4 * o.length ≤ (o.flatMap sstpBuildAttribute).length := by
  induction o with
  | nil => exact Nat.le_refl _
  | cons a rest inductionHypothesis =>
      rw [List.flatMap_cons, List.length_append, length_sstpBuildAttribute, List.length_cons]
      omega

theorem short_of_mem
    {a : Attribute}
    (listed : a ∈ o) :
    a.data.length + 4 ≤ (o.flatMap sstpBuildAttribute).length := by
  rw [length_flatMap_build]
  exact List.single_le_sum (fun _ _ => Nat.zero_le _) _ (List.mem_map_of_mem listed)

theorem sstpParseAttributeList_build
    {messageType : UInt16}
    (short : (sstpBuildAttributeList o messageType).length < 4096) :
    sstpParseAttributeList (sstpBuildAttributeList o messageType)
        (sstpBuildAttributeList o messageType).length =
      .ok (messageType, withTotalLengths o) := by
  have bytes : sstpBuildAttributeList o messageType =
      bigEndian 2 messageType.toNat ++ (bigEndian 2 o.length ++ o.flatMap sstpBuildAttribute) :=
    List.append_assoc _ _ _
  have total : (sstpBuildAttributeList o messageType).length =
      (o.flatMap sstpBuildAttribute).length + 2 + 2 := by
    rw [bytes]
    simp [length_bigEndian]
    omega
  rw [total] at short ⊢
  have counted := length_le_flatMap_build o
  have limit : 4096 ≤ X32 := by decide
  have second : (o.flatMap sstpBuildAttribute).length + 2 < X32 := by omega
  have first : (o.flatMap sstpBuildAttribute).length + 2 + 2 < X32 := by omega
  unfold sstpParseAttributeList
  rw [if_neg (by omega), if_neg (by omega), bytes, readUSHORT_write messageType.toNat_lt, ok_bind]
  dsimp only
  rw [drop_bigEndian, readUSHORT_write (by omega), ok_bind, drop_bigEndian, subUINT_add first,
    subUINT_add second, parseAttributes_build _ (by omega), ok_bind, UInt16.ofNat_toNat]
  · rfl
  · intro a listed
    have place := short_of_mem listed
    omega

/-- The parser's result is the packet: its kind, and the data, or the message type and the
attributes with their ids and data. -/
structure Packet.SameContent (p ret : Packet) : Prop where
  isControl : ret.isControl = p.isControl
  /-- `Data` of a data packet. -/
  data : p.isControl = false → ret.data = p.data
  /-- `MessageType` of a control packet. -/
  messageType : p.isControl = true → ret.messageType = p.messageType
  /-- `AttibuteList` of a control packet. -/
  attibuteList : p.isControl = true →
    ret.attibuteList.map (fun a => (a.attributeId, a.data)) =
      p.attibuteList.map fun a => (a.attributeId, a.data)

theorem sstpParsePacket_build
    {p : Packet}
    (short : (sstpBuildPacket p).length ≤ 4095) :
    ∃ ret, sstpParsePacket (sstpBuildPacket p) (sstpBuildPacket p).length = .ok ret ∧
      p.SameContent ret := by
  have bytes : sstpBuildPacket p = SSTP_VERSION_1 :: (if p.isControl then 1 else 0) ::
      (bigEndian 2 (p.builtData.length + 4) ++ p.builtData) := by
    unfold sstpBuildPacket
    simp
  have total : (sstpBuildPacket p).length = p.builtData.length + 2 + 1 + 1 := by
    rw [bytes]
    simp [length_bigEndian]
    omega
  rw [total] at short ⊢
  have limit : 4096 ≤ X32 := by decide
  have first : p.builtData.length + 2 + 1 + 1 < X32 := by omega
  have second : p.builtData.length + 2 + 1 < X32 := by omega
  have third : p.builtData.length + 2 < X32 := by omega
  have len : (p.builtData.length + 4) &&& 0xFFF = p.builtData.length + 4 :=
    and_0xFFF_of_lt (by omega)
  have parsed : sstpParsePacket (sstpBuildPacket p) (p.builtData.length + 2 + 1 + 1) =
      parseControl { version := SSTP_VERSION_1, isControl := p.isControl, data := p.builtData } := by
    unfold sstpParsePacket
    rw [if_neg (by omega), if_neg (by omega), bytes, readUCHAR_cons, ok_bind]
    dsimp only
    rw [if_neg (not_not_intro rfl), List.drop_succ_cons, List.drop_zero, readUCHAR_cons, ok_bind,
      List.drop_succ_cons, List.drop_zero, readUSHORT_write (by omega), ok_bind, drop_bigEndian,
      subUINT_add first, subUINT_add second, subUINT_add third, len, if_neg (by omega),
      if_neg (by omega), Nat.add_sub_cancel, cloneData_self, ok_bind]
    cases p.isControl with
    | false => rfl
    | true => rfl
  rw [parsed]
  unfold parseControl
  cases control : p.isControl with
  | false =>
      have same : p.builtData = p.data := by
        simp [Packet.builtData, control]
      refine ⟨_, rfl, control.symm, fun _ => same, ?_, ?_⟩
      · exact fun yes => absurd (control.symm.trans yes) (by simp)
      · exact fun yes => absurd (control.symm.trans yes) (by simp)
  | true =>
      have same : p.builtData = sstpBuildAttributeList p.attibuteList p.messageType := by
        simp [Packet.builtData, control]
      have inner : (sstpBuildAttributeList p.attibuteList p.messageType).length < 4096 := by
        rw [← same]
        omega
      rw [if_pos rfl]
      dsimp only
      rw [same, sstpParseAttributeList_build inner, ok_bind]
      refine ⟨_, rfl, control.symm, ?_, fun _ => rfl, fun _ => ?_⟩
      · exact fun no => absurd (control.symm.trans no) (by simp)
      · simp [withTotalLengths]

/-! ## Staying inside the packet -/

structure Attribute.LiesIn (a : Attribute) (data : List UInt8) : Prop where
  header : 4 ≤ a.totalLength
  fits : a.totalLength ≤ data.length
  attributeId : data[1]? = some a.attributeId
  data : a.data = (data.drop 4).take (a.totalLength - 4)

/-- The attributes lie one after the other at the front of the data. -/
def LieIn : List Attribute → List UInt8 → Prop
  | [], _ => True
  | a :: o, data => a.LiesIn data ∧ LieIn o (data.drop a.totalLength)

theorem LieIn.sum_le
    (lie : LieIn o data) :
    (o.map Attribute.totalLength).sum ≤ data.length := by
  induction o generalizing data with
  | nil => exact Nat.zero_le _
  | cons a rest inductionHypothesis =>
      have later := inductionHypothesis lie.2
      have first := lie.1.fits
      rw [List.length_drop] at later
      rw [List.map_cons, List.sum_cons]
      omega

theorem inside_sstpParseAttribute
    (small : data.length < X32) :
    Inside (sstpParseAttribute data data.length) fun a => a.LiesIn data := by
  by_cases short : data.length < 4
  · have rejected : sstpParseAttribute data data.length = .error .rejected := by
      unfold sstpParseAttribute
      simp [short]
    rw [rejected]
    exact Inside.reject
  · obtain ⟨reserved, attributeId, high, low, rest, bytes⟩ := header_of_le (Nat.not_lt.mp short)
    rw [sstpParseAttribute_cons reserved attributeId high low bytes small]
    dsimp only
    generalize fromBigEndian [high, low] &&& 0xFFF = totalLength
    refine Inside.ite (fun _ => Inside.reject) fun long => ?_
    refine Inside.ite (fun _ => Inside.reject) fun enough => ?_
    refine Ends.ok ⟨Nat.not_lt.mp long, ?_, ?_, ?_⟩
    · rw [bytes]
      simp
      omega
    · rw [bytes]
      rfl
    · rw [bytes]
      rfl

theorem inside_parseAttributes
    {num : Nat}
    (small : data.length < X32) :
    Inside (parseAttributes num data data.length) fun o => o.length = num ∧ LieIn o data := by
  induction num generalizing data with
  | zero => exact Ends.ok ⟨rfl, trivial⟩
  | succ missing inductionHypothesis =>
      refine (inside_sstpParseAttribute small).bind fun a lies => ?_
      refine Inside.ite (fun _ => Inside.reject) fun _ => ?_
      have behind : (data.drop a.totalLength).length = data.length - a.totalLength :=
        List.length_drop
      rw [subUINT_of_le lies.fits small, ← behind]
      have shorter : (data.drop a.totalLength).length < X32 := by omega
      refine (inductionHypothesis shorter).bind fun o later => ?_
      exact Ends.ok ⟨congrArg Nat.succ later.1, lies, later.2⟩

/-- The number behind two bytes: the length of a packet, or how many attributes it has. -/
def announcedNumber (data : List UInt8) : Nat :=
  fromBigEndian ((data.drop 2).take 2)

/-- The attributes that the data of a control packet announce lie in the data. -/
structure AttributesIn (o : List Attribute) (data : List UInt8) : Prop where
  /-- The message type and the number take four bytes. -/
  header : 4 ≤ data.length
  number : o.length = announcedNumber data
  lie : LieIn o (data.drop 4)

theorem inside_sstpParseAttributeList
    (small : data.length < X32) :
    Inside (sstpParseAttributeList data data.length) fun result => AttributesIn result.2 data := by
  unfold sstpParseAttributeList
  refine Inside.ite (fun _ => Inside.reject) fun _ => ?_
  refine Inside.ite (fun _ => Inside.reject) fun short => ?_
  have header : 4 ≤ data.length := Nat.not_lt.mp short
  have behind : (data.drop 2).length = data.length - 2 := List.length_drop
  refine (inside_readUSHORT (by omega)).bind fun messageType _ => ?_
  dsimp only
  rw [subUINT_of_le (by omega) small, ← behind]
  refine (inside_readUSHORT (by omega)).bind fun num counted => ?_
  have last : ((data.drop 2).drop 2).length = (data.drop 2).length - 2 := List.length_drop
  rw [subUINT_of_le (by omega) (by omega), ← last]
  refine (inside_parseAttributes (by omega)).bind fun o parsed => ?_
  refine Ends.ok ⟨header, parsed.1.trans counted, ?_⟩
  have lie := parsed.2
  rwa [List.drop_drop] at lie

structure Packet.LiesIn (p : Packet) (data : List UInt8) : Prop where
  length : p.data.length + 4 = announcedNumber data &&& 0xFFF
  fits : p.data.length + 4 ≤ data.length
  data : p.data = (data.drop 4).take p.data.length
  control : p.isControl = true → AttributesIn p.attibuteList p.data

theorem inside_parseControl
    {p : Packet}
    (small : p.data.length < X32) :
    Inside (parseControl p) fun ret => ret.data = p.data ∧
      (ret.isControl = true → AttributesIn ret.attibuteList ret.data) := by
  refine Inside.ite (fun _ => ?_) fun isData => ?_
  · refine (inside_sstpParseAttributeList small).bind fun result lie => ?_
    exact Ends.ok ⟨rfl, fun _ => lie⟩
  · exact Ends.ok ⟨rfl, fun control => absurd control isData⟩

theorem inside_sstpParsePacket
    (small : data.length < X32) :
    Inside (sstpParsePacket data data.length) fun p => p.LiesIn data := by
  unfold sstpParsePacket
  refine Inside.ite (fun _ => Inside.reject) fun _ => ?_
  refine Inside.ite (fun _ => Inside.reject) fun short => ?_
  have header : 4 ≤ data.length := Nat.not_lt.mp short
  obtain ⟨first, second, third, fourth, rest, rfl⟩ := header_of_le header
  have total : (first :: second :: third :: fourth :: rest).length = rest.length + 2 + 1 + 1 := by
    simp
  rw [total] at small ⊢
  have small2 : rest.length + 2 + 1 < X32 := by omega
  have small3 : rest.length + 2 < X32 := by omega
  rw [readUCHAR_cons, ok_bind]
  dsimp only
  refine Inside.ite (fun _ => Inside.reject) fun _ => ?_
  rw [List.drop_succ_cons, List.drop_zero, readUCHAR_cons, ok_bind, List.drop_succ_cons,
    List.drop_zero, subUINT_add small, subUINT_add small2, subUINT_add small3]
  refine (inside_readUSHORT (by simp)).bind fun number isNumber => ?_
  have same : number = announcedNumber (first :: second :: third :: fourth :: rest) := isNumber
  have mask : number &&& 0xFFF ≤ 4095 := Nat.and_le_right
  refine Inside.ite (fun _ => Inside.reject) fun long => ?_
  refine Inside.ite (fun _ => Inside.reject) fun fits => ?_
  have enough : (number &&& 0xFFF) - 4 ≤ rest.length := Nat.not_lt.mp fits
  refine (inside_cloneData enough).bind fun block isBlock => ?_
  have length : block.length = (number &&& 0xFFF) - 4 := by
    rw [isBlock, List.length_take]
    exact Nat.min_eq_left enough
  have smaller : block.length < X32 := by omega
  refine (inside_parseControl smaller).mono fun p parsed => ?_
  have whole : p.data.length = (number &&& 0xFFF) - 4 := by
    rw [parsed.1]
    exact length
  refine ⟨?_, ?_, ?_, parsed.2⟩
  · rw [whole, ← same]
    omega
  · rw [whole, total]
    omega
  · rw [whole, parsed.1]
    exact isBlock

/-- **The codec.**  A packet of at most 4095 bytes is parsed as it was built; and whatever the
bytes, the parser reads only inside them, and the attributes of a control packet that it
accepts are as many as are announced and fit in the packet. -/
theorem sstpParsePacket_codec :
    (∀ p : Packet, (sstpBuildPacket p).length ≤ 4095 →
      ∃ ret, sstpParsePacket (sstpBuildPacket p) (sstpBuildPacket p).length = .ok ret ∧
        p.SameContent ret) ∧
      ∀ bytes : List UInt8, bytes.length < X32 →
        sstpParsePacket bytes bytes.length ≠ .error .outside ∧
          ∀ p, sstpParsePacket bytes bytes.length = .ok p →
            p.LiesIn bytes ∧ (p.isControl = true →
              4 + (p.attibuteList.map Attribute.totalLength).sum ≤ p.data.length) := by
  refine ⟨fun p short => sstpParsePacket_build short, fun bytes small => ?_⟩
  have inside := inside_sstpParsePacket small
  refine ⟨inside.ne_outside, fun p parsed => ?_⟩
  have lies := inside.of_ok parsed
  refine ⟨lies, fun control => ?_⟩
  have attributes := lies.control control
  have header := attributes.header
  have sum := attributes.lie.sum_le
  rw [List.length_drop] at sum
  omega

def connectRequest : Packet where
  isControl := true
  messageType := 1
  attibuteList := [⟨1, [0, 1], 0⟩]

/-- A connection request is parsed, and a packet that announces an attribute which is not there
is not read behind its end. -/
theorem sstpParsePacket_codec_examples :
    (∃ ret, sstpParsePacket (sstpBuildPacket connectRequest)
        (sstpBuildPacket connectRequest).length = .ok ret ∧ connectRequest.SameContent ret) ∧
      sstpParsePacket [0x10, 1, 0, 8, 0, 1, 0, 1] 8 ≠ .error .outside :=
  ⟨sstpParsePacket_codec.1 connectRequest (by decide),
    (sstpParsePacket_codec.2 [0x10, 1, 0, 8, 0, 1, 0, 1] (by decide)).1⟩

end Sstp
end SoftEther
