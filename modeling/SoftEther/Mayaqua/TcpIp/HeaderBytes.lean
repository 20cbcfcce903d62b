import SoftEther.Mayaqua.TcpIp.Packet

/-!
# Bytes of headers

A header of a frame depends on the first bytes of the frame alone.  Two blocks have the same start
when their first bytes agree; then they have the same fields there.
-/

namespace SoftEther
namespace TcpIp

variable {memory data : List UInt8}

theorem drop_copyAt_add
    {start : Nat}
    (inside : start ≤ memory.length)
    (offset : Nat) :
    (copyAt memory (start + offset) data).drop start = copyAt (memory.drop start) offset data := by
  have before : (memory.take (start + offset)).drop start = (memory.drop start).take offset := by
    rw [List.drop_take, Nat.add_sub_cancel_left]
  have reaches : start ≤ (memory.take (start + offset)).length := by
    rw [List.length_take]
    omega
  rw [copyAt, copyAt, List.append_assoc, List.append_assoc,
    List.drop_append_of_le_length reaches, before, List.drop_drop, Nat.add_assoc]

/-- What is written before the end of a block. -/
theorem copyAt_append
    {offset : Nat}
    (inside : offset + data.length ≤ memory.length)
    (rest : List UInt8) :
    copyAt (memory ++ rest) offset data = copyAt memory offset data ++ rest := by
  rw [copyAt, copyAt, List.take_append_of_le_length (by omega),
    List.drop_append_of_le_length inside, List.append_assoc, List.append_assoc, List.append_assoc]

/-- A write behind the start of a block leaves the start. -/
theorem take_copyAt
    {size offset : Nat}
    (before : size ≤ offset)
    (inside : offset ≤ memory.length) :
    (copyAt memory offset data).take size = memory.take size := by
  rw [copyAt, List.append_assoc, List.take_append_of_le_length
    (by rw [List.length_take]; omega), List.take_take, Nat.min_eq_left before]

/-- A field is what lies there. -/
theorem bytesAt_eq_take
    {data : List UInt8}
    {offset size : Nat}
    (inside : offset + size ≤ data.length) :
    (bytesAt data offset size).val = (data.drop offset).take size := by
  apply List.ext_getElem
  · rw [(bytesAt data offset size).property, List.length_take, List.length_drop]
    omega
  · intro place small _
    rw [(bytesAt data offset size).property] at small
    simp [bytesAt, List.getElem?_eq_getElem (by omega : offset + place < data.length)]

theorem bytesAt_drop
    (block : List UInt8)
    (start offset width : Nat) :
    bytesAt (block.drop start) offset width = bytesAt block (start + offset) width := by
  apply Subtype.ext
  apply List.map_congr_left
  intro place _
  rw [List.getD_eq_getElem?_getD, List.getD_eq_getElem?_getD, List.getElem?_drop, Nat.add_assoc]

theorem ushortAt_drop
    (block : List UInt8)
    (start offset : Nat) :
    ushortAt (block.drop start) offset = ushortAt block (start + offset) := by
  rw [ushortAt, ushortAt, bytesAt_drop]

theorem ushortAt_lt (data : List UInt8) (offset : Nat) : ushortAt data offset < 65536 := by
  have bound := fromBigEndian_lt (bytesAt data offset 2).val
  rw [(bytesAt data offset 2).property] at bound
  exact bound

/-! ## The same start -/

section SameStart

variable {first second : List UInt8} {size : Nat}

theorem getElem?_sameStart
    (same : first.take size = second.take size)
    {place : Nat}
    (inside : place < size) :
    first[place]? = second[place]? := by
  rw [← List.getElem?_take_of_lt inside, same, List.getElem?_take_of_lt inside]

theorem getD_sameStart
    (same : first.take size = second.take size)
    {place : Nat}
    (inside : place < size) :
    first.getD place 0 = second.getD place 0 := by
  rw [List.getD_eq_getElem?_getD, List.getD_eq_getElem?_getD, getElem?_sameStart same inside]

theorem bytesAt_sameStart
    (same : first.take size = second.take size)
    {offset width : Nat}
    (inside : offset + width ≤ size) :
    bytesAt first offset width = bytesAt second offset width := by
  apply Subtype.ext
  apply List.map_congr_left
  intro place listed
  have small := List.mem_range.mp listed
  exact getD_sameStart same (by omega)

theorem ushortAt_sameStart
    (same : first.take size = second.take size)
    {offset : Nat}
    (inside : offset + 2 ≤ size) :
    ushortAt first offset = ushortAt second offset := by
  rw [ushortAt, ushortAt, bytesAt_sameStart same inside]

theorem headerSize_sameStart
    (same : first.take size = second.take size)
    (inside : 1 ≤ size) :
    headerSize first = headerSize second := by
  rw [headerSize, headerSize, getD_sameStart same inside]

theorem getOffset_sameStart
    (same : first.take size = second.take size)
    (inside : 8 ≤ size) :
    getOffset first = getOffset second := by
  rw [getOffset, getOffset, getD_sameStart same (by omega), getD_sameStart same (by omega)]

theorem srcIP_sameStart
    (same : first.take size = second.take size)
    (inside : 20 ≤ size) :
    srcIP first = srcIP second := by
  rw [srcIP, srcIP, uintAt, uintAt, bytesAt_sameStart same (by omega)]

theorem dstIP_sameStart
    (same : first.take size = second.take size)
    (inside : 20 ≤ size) :
    dstIP first = dstIP second := by
  rw [dstIP, dstIP, uintAt, uintAt, bytesAt_sameStart same (by omega)]

theorem drop_sameStart
    (same : first.take size = second.take size)
    (offset : Nat) :
    (first.drop offset).take (size - offset) = (second.drop offset).take (size - offset) := by
  rw [← List.drop_take, same, List.drop_take]

theorem take_sameStart
    (same : first.take size = second.take size)
    {less : Nat}
    (shorter : less ≤ size) :
    first.take less = second.take less := by
  rw [← Nat.min_eq_left shorter, ← List.take_take, same, List.take_take]

theorem copyAt_sameStart
    (same : first.take size = second.take size)
    (whole : size ≤ first.length)
    {offset : Nat}
    {data : List UInt8}
    (inside : offset + data.length ≤ size) :
    (copyAt first offset data).take size = (copyAt second offset data).take size := by
  have behind := drop_sameStart same (offset + data.length)
  have before := take_sameStart same (Nat.le_of_add_right_le inside)
  have written : (first.take offset ++ data).length = offset + data.length := by
    rw [List.length_append, List.length_take, Nat.min_eq_left (by omega)]
  rw [copyAt, copyAt, ← before]
  generalize first.take offset ++ data = front at written ⊢
  rw [List.take_append, List.take_append, written, behind]

theorem ipCheckChecksum_sameStart
    (same : first.take size = second.take size)
    (whole : size ≤ first.length)
    (hasChecksum : 12 ≤ size)
    (inside : headerSize first ≤ size) :
    ipCheckChecksum first = ipCheckChecksum second := by
  have sameSize := headerSize_sameStart same (by omega)
  have cleared : (clearChecksum first).take (headerSize first) =
      (clearChecksum second).take (headerSize first) :=
    take_sameStart (copyAt_sameStart same whole hasChecksum) inside
  rw [ipCheckChecksum, ipCheckChecksum, ← sameSize, cleared, bytesAt_sameStart same hasChecksum]

end SameStart

end TcpIp
end SoftEther
