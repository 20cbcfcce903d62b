import SoftEther.Cedar.Tunnel.Line
import SoftEther.Cedar.Tunnel.Session

/-!
# R-UDP bulk transfer

A block goes over the bulk transfer as one datagram.  The data of a compressed block have a
signature in front of them, and those of an uncompressed block have nothing; so a frame that
begins with the signature is expanded by the peer.
-/

namespace SoftEther
namespace Tunnel

/-- The datagram that `ConnectionSend` makes of a block. -/
def bulkDatagram (b : Block) : List UInt8 :=
  if b.compressed then CONNECTION_BULK_COMPRESS_SIGNATURE ++ b.buf else b.buf

section

variable {zlib : Zlib}

theorem bulkBlock_compressed
    (lossless : zlib.Lossless)
    {frame : List UInt8}
    (nonempty : 0 < frame.length)
    (fits : frame.length ≤ MAX_PACKET_SIZE) :
    (bulkBlock zlib (bulkDatagram (newBlock zlib frame .compress))).buf = frame := by
  have back := lossless.uncompress_compress frame nonempty fits
  unfold newBlock bulkDatagram
  dsimp only
  generalize zlib.compress (calcCompress frame.length) frame = compressed at back
  have some : compressed ≠ [] := by
    rintro rfl
    rw [lossless.uncompress_nil] at back
    rw [← back] at nonempty
    exact absurd nonempty (Nat.lt_irrefl 0)
  have long : 8 < (CONNECTION_BULK_COMPRESS_SIGNATURE ++ compressed).length := by
    rw [List.length_append]
    exact Nat.lt_add_of_pos_right (List.length_pos_iff.mpr some)
  have signed : (CONNECTION_BULK_COMPRESS_SIGNATURE ++ compressed).take 8 =
      CONNECTION_BULK_COMPRESS_SIGNATURE :=
    List.take_left' rfl
  have data : (CONNECTION_BULK_COMPRESS_SIGNATURE ++ compressed).drop 8 = compressed :=
    List.drop_left' rfl
  rw [if_pos rfl, bulkBlock, if_pos ⟨long, signed⟩, data]
  exact back

theorem bulkBlock_uncompressed
    {frame : List UInt8}
    (long : 8 < frame.length) :
    (bulkBlock zlib (bulkDatagram (newBlock zlib frame .none))).buf =
      if frame.take 8 = CONNECTION_BULK_COMPRESS_SIGNATURE then
        zlib.uncompress MAX_PACKET_SIZE (frame.drop 8)
      else frame := by
  change (bulkBlock zlib frame).buf = _
  unfold bulkBlock
  by_cases signed : frame.take 8 = CONNECTION_BULK_COMPRESS_SIGNATURE
  · rw [if_pos ⟨long, signed⟩, if_pos signed]
    rfl
  · rw [if_neg fun both => signed both.2, if_neg signed]
    rfl

/-- **The bulk transfer.**  The peer makes a block with the frame exactly when the frame has
been compressed, or does not begin with the signature, or is what its own rest expands to. -/
theorem bulkBlock_buf_eq_iff
    (lossless : zlib.Lossless)
    (frame : List UInt8)
    (ethernet : 14 ≤ frame.length)
    (fits : frame.length ≤ MAX_PACKET_SIZE)
    (useCompress : Bool) :
    (bulkBlock zlib (bulkDatagram
        (newBlock zlib frame (if useCompress then .compress else .none)))).buf = frame ↔
      (useCompress = true ∨ frame.take 8 ≠ CONNECTION_BULK_COMPRESS_SIGNATURE ∨
        zlib.uncompress MAX_PACKET_SIZE (frame.drop 8) = frame) := by
  cases useCompress with
  | true =>
      rw [if_pos rfl]
      exact iff_of_true (bulkBlock_compressed lossless (by omega) fits) (.inl rfl)
  | false =>
      rw [if_neg (by decide), bulkBlock_uncompressed (by omega)]
      by_cases signed : frame.take 8 = CONNECTION_BULK_COMPRESS_SIGNATURE
      · rw [if_pos signed]
        simp [signed]
      · rw [if_neg signed]
        exact iff_of_true rfl (.inr (.inl signed))

end

/-- A frame for `00:01:02:03:04:05`. -/
def plainFrame : List UInt8 :=
  [0, 1, 2, 3, 4, 5, 2, 0, 0, 0, 0, 1, 8, 0]

theorem bulkBlock_buf_eq_iff_plain :
    (bulkBlock storedZlib (bulkDatagram
        (newBlock storedZlib plainFrame (if false then .compress else .none)))).buf =
        plainFrame ↔
      (false = true ∨ plainFrame.take 8 ≠ CONNECTION_BULK_COMPRESS_SIGNATURE ∨
        storedZlib.uncompress MAX_PACKET_SIZE (plainFrame.drop 8) = plainFrame) :=
  bulkBlock_buf_eq_iff storedZlib_lossless plainFrame (by decide) (by decide) false

/-- A frame for `DE:AD:BE:EF:CA:FE` from `FA:CE:00:00:00:01`. -/
def signedFrame : List UInt8 :=
  CONNECTION_BULK_COMPRESS_SIGNATURE ++ [0, 0, 0, 1, 8, 0]

/-- The peer expands the frame, and nothing comes of it. -/
theorem bulkBlock_signedFrame :
    signedFrame.length = 14 ∧
      (bulkBlock storedZlib (bulkDatagram (newBlock storedZlib signedFrame .none))).buf = [] := by
  decide +kernel

end Tunnel
end SoftEther
