import SoftEther.Library.OnesComplement
import SoftEther.Mayaqua.TcpIp.Packet

/-!
# The checksum of the Internet protocols

`IpChecksum` adds words as the host reads them, least significant byte first, in an `int`, and adds
the carries at the end.  What it stores is the complement of the ones' complement sum of the words
with the most significant byte first.
-/

namespace SoftEther
namespace TcpIp

open Library

/-- The loop of `IpChecksum`, with `sum` in its 32 bits. -/
def sumLoop (sum : UInt32) : List UInt8 → UInt32
  | low :: high :: rest => sumLoop (sum + UInt32.ofNat (low.toNat + 256 * high.toNat)) rest
  | [low] => sum + UInt32.ofNat low.toNat
  | [] => sum

/-- The words of a block, most significant byte first; a last byte alone is filled up with zero. -/
def bigEndianWords : List UInt8 → List Nat
  | high :: low :: rest => (256 * high.toNat + low.toNat) :: bigEndianWords rest
  | [high] => [256 * high.toNat]
  | [] => []

def onesComplementSum (buf : List UInt8) : Nat :=
  OnesComplement.sum 65535 (bigEndianWords buf)

theorem sumWords_le (buf : List UInt8) : 2 * sumWords buf ≤ 65535 * (buf.length + 1) := by
  induction buf using sumWords.induct with
  | case1 low high rest inductionHypothesis =>
      have lowByte := low.toNat_lt
      have highByte := high.toNat_lt
      simp only [sumWords, List.length_cons]
      omega
  | case2 low =>
      have lowByte := low.toNat_lt
      simp only [sumWords, List.length_singleton]
      omega
  | case3 => simp [sumWords]

theorem toNat_sumLoop
    (buf : List UInt8)
    {sum : UInt32}
    (small : sum.toNat + sumWords buf < 4294967296) :
    (sumLoop sum buf).toNat = sum.toNat + sumWords buf := by
  induction buf using sumWords.induct generalizing sum with
  | case1 low high rest inductionHypothesis =>
      have lowByte := low.toNat_lt
      have highByte := high.toNat_lt
      simp only [sumWords] at small ⊢
      have next : (sum + UInt32.ofNat (low.toNat + 256 * high.toNat)).toNat =
          sum.toNat + (low.toNat + 256 * high.toNat) := by
        rw [UInt32.toNat_add, UInt32.toNat_ofNat_of_lt' (by unfold UInt32.size; omega)]
        exact Nat.mod_eq_of_lt (by omega)
      rw [sumLoop, inductionHypothesis (by omega), next]
      omega
  | case2 low =>
      have lowByte := low.toNat_lt
      simp only [sumWords, sumLoop] at small ⊢
      rw [UInt32.toNat_add, UInt32.toNat_ofNat_of_lt' (by unfold UInt32.size; omega)]
      exact Nat.mod_eq_of_lt small
  | case3 => rfl

/-- Both carries are added behind the loop. -/
theorem foldSum_eq
    {sum : Nat}
    (small : sum < 2147483648) :
    foldSum sum = 65535 - OnesComplement.wordOf 65535 sum := by
  unfold foldSum
  dsimp only
  have split := Nat.div_add_mod sum 65536
  have low := Nat.mod_lt sum (by decide : 0 < 65536)
  obtain ⟨once, added⟩ : ∃ once, once = sum / 65536 + sum % 65536 := ⟨_, rfl⟩
  rw [← added]
  have folded : (once + once / 65536) % 65536 = OnesComplement.wordOf 65535 sum := by
    have value : ∃ carry, once = 65535 * carry + (once + once / 65536) % 65536 ∧
        ((once + once / 65536) % 65536 = 0 ↔ once = 0) ∧ (once + once / 65536) % 65536 ≤ 65535 := by
      by_cases carries : once < 65536
      · rw [Nat.div_eq_of_lt carries, Nat.add_zero, Nat.mod_eq_of_lt carries]
        exact ⟨0, by omega, .rfl, by omega⟩
      · have one : once / 65536 = 1 := by omega
        have rest : (once + 1) % 65536 = once - 65535 := by omega
        rw [one, rest]
        exact ⟨1, by omega, by omega, by omega⟩
    obtain ⟨carry, same, zero, bound⟩ := value
    have whole : sum = 65535 * (sum / 65536 + carry) + (once + once / 65536) % 65536 := by omega
    apply OnesComplement.eq_wordOf
    · rw [Nat.ModEq, whole, Nat.mul_add_mod]
    · exact bound
    · omega
  rw [folded]

theorem sum_bigEndianWords (buf : List UInt8) :
    ((bigEndianWords buf).sum ≡ 256 * sumWords buf [MOD 65535]) ∧
      ((bigEndianWords buf).sum = 0 ↔ sumWords buf = 0) ∧
        ∀ w ∈ bigEndianWords buf, w ≤ 65535 := by
  induction buf using sumWords.induct with
  | case1 low high rest inductionHypothesis =>
      obtain ⟨mod, zero, words⟩ := inductionHypothesis
      have lowByte := low.toNat_lt
      have highByte := high.toNat_lt
      simp only [bigEndianWords, sumWords, List.sum_cons, List.forall_mem_cons]
      refine ⟨?_, by omega, by omega, words⟩
      unfold Nat.ModEq at mod ⊢
      omega
  | case2 low =>
      have lowByte := low.toNat_lt
      simp only [bigEndianWords, sumWords, List.sum_singleton, List.forall_mem_singleton]
      exact ⟨.rfl, by omega, by omega⟩
  | case3 => simp [bigEndianWords, sumWords, Nat.ModEq.refl]

theorem littleUshort_complement
    {sum : Nat}
    (small : sum ≤ 65535) :
    littleUshort (65535 - sum) =
      bigEndian 2 (65535 - (256 * (sum % 256) + sum / 256)) := by
  obtain ⟨high, low, rfl, lowByte⟩ : ∃ high low, sum = 256 * high + low ∧ low < 256 :=
    ⟨sum / 256, sum % 256, (Nat.div_add_mod sum 256).symm, Nat.mod_lt _ (by decide)⟩
  have swapped : 256 * ((256 * high + low) % 256) + (256 * high + low) / 256 =
      256 * low + high := by omega
  have little : 65535 - (256 * high + low) = 256 * (255 - high) + (255 - low) := by omega
  have big : 65535 - (256 * low + high) = 256 * (255 - low) + (255 - high) := by omega
  have first : (65535 - (256 * high + low)) % 256 = (65535 - (256 * low + high)) / 256 := by
    rw [little, big, Nat.mul_add_mod, Nat.mul_add_div (by decide), Nat.mod_eq_of_lt (by omega),
      Nat.div_eq_of_lt (by omega), Nat.add_zero]
  have second : (65535 - (256 * high + low)) / 256 = (65535 - (256 * low + high)) % 256 := by
    rw [little, big, Nat.mul_add_mod, Nat.mul_add_div (by decide), Nat.mod_eq_of_lt (by omega),
      Nat.div_eq_of_lt (by omega), Nat.add_zero]
  rw [swapped, littleUshort, second, bigEndian, bigEndian, bigEndian, Nat.pow_one, ← first,
    Nat.pow_zero, Nat.div_one, UInt8.ofNat_mod_size, UInt8.ofNat_mod_size]

theorem wordOf_bigEndianWords (buf : List UInt8) :
    256 * (OnesComplement.wordOf 65535 (sumWords buf) % 256) +
      OnesComplement.wordOf 65535 (sumWords buf) / 256 = onesComplementSum buf := by
  obtain ⟨mod, zero, words⟩ := sum_bigEndianWords buf
  have small := OnesComplement.wordOf_le (by decide : 0 < 65535) (sumWords buf)
  have class_ := OnesComplement.wordOf_modEq (m := 65535) (sumWords buf)
  have none : OnesComplement.wordOf 65535 (sumWords buf) = 0 ↔ sumWords buf = 0 := by
    unfold OnesComplement.wordOf
    split <;> omega
  rw [onesComplementSum, OnesComplement.sum_eq (by decide) words]
  apply OnesComplement.eq_wordOf
  · refine Nat.ModEq.trans ?_ mod.symm
    have swapped := class_.mul_left 256
    unfold Nat.ModEq at swapped ⊢
    omega
  · omega
  · omega

/-- **The checksum.**  The sum of the words fits the `int`; what `IpChecksum` returns lies in memory
as the complement of the ones' complement sum, most significant byte first; and an IPv4 header into
which it is stored is accepted. -/
theorem ipChecksum_onesComplement
    {buf ip : List UInt8}
    (short : buf.length ≤ 65535)
    (whole : sizeofIPv4Header ≤ ip.length) :
    ((sumLoop 0 buf).toNat = sumWords buf ∧ sumWords buf < 2147483648) ∧
      littleUshort (ipChecksum buf) = bigEndian 2 (65535 - onesComplementSum buf) ∧
        ipCheckChecksum (fillChecksum ip) = true := by
  have bound := sumWords_le buf
  have fits : sumWords buf < 2147483648 := by omega
  have looped := toNat_sumLoop buf (show (0 : UInt32).toNat + sumWords buf < 4294967296 by
    simp only [UInt32.toNat_zero]
    omega)
  rw [UInt32.toNat_zero, Nat.zero_add] at looped
  refine ⟨⟨looped, fits⟩, ?_, ipCheckChecksum_fillChecksum whole⟩
  have small := OnesComplement.wordOf_le (by decide : 0 < 65535) (sumWords buf)
  rw [ipChecksum, foldSum_eq fits, littleUshort_complement small, wordOf_bigEndianWords]

/-- Three bytes, and a header without options. -/
theorem ipChecksum_onesComplement_odd :
    littleUshort (ipChecksum [0x12, 0x34, 0x56]) =
        bigEndian 2 (65535 - onesComplementSum [0x12, 0x34, 0x56]) ∧
      ipCheckChecksum (fillChecksum (List.replicate 20 0x45)) = true :=
  (ipChecksum_onesComplement (by decide) (by decide)).2

end TcpIp
end SoftEther
