import SoftEther.Mayaqua.TcpIp.AdjustTcpMss

/-!
# Frames with an adjusted segment size

What `AdjustTcpMssL2` and `AdjustTcpMssL3` do to a frame as a whole: the frame stays, or the MSS
option at the start of the options of a SYN segment is lowered and the checksum is made right.
-/

namespace SoftEther
namespace TcpIp

/-- The header of an Ethernet frame before an IP packet. -/
structure IsUntagged (link : List UInt8) : Prop where
  size : link.length = sizeofMacHeader
  isIp : isIpProtocol (ushortAt link 12) = true

/-- The header of an Ethernet frame with a VLAN tag before an IP packet. -/
structure IsTagged (tagVlanTpid : Nat) (link : List UInt8) : Prop where
  size : link.length = sizeofMacHeader + 4
  notIp : isIpProtocol (ushortAt link 12) = false
  isTag : ushortAt link 12 = vlanTpid tagVlanTpid
  isIp : isIpProtocol (ushortAt link 16) = true

/-- The MSS that `AdjustTcpMssL3` adjusts a packet to. -/
structure ClampL3 (mss : Nat) (f : TcpFrame) (clamp : Nat) : Prop where
  /-- Nothing stands before the packet. -/
  link : f.link = []
  positive : mss ≠ 0
  eq : clamp = mssFor f.ip mss

/-- The MSS that `AdjustTcpMssL2` adjusts a frame to: four bytes less in a VLAN tag. -/
inductive ClampL2 (mss tagVlanTpid : Nat) (f : TcpFrame) : Nat → Prop where
  /-- Without a tag. -/
  | untagged (link : IsUntagged f.link) (positive : mss ≠ 0) :
      ClampL2 mss tagVlanTpid f (mssFor f.ip mss)
  | tagged (link : IsTagged tagVlanTpid f.link) (enough : 5 ≤ mss) :
      ClampL2 mss tagVlanTpid f (mssFor f.ip (mss - 4))

/-- A frame with a TCP SYN segment without the flags `TCP_RST`, `TCP_PSH` and `TCP_URG`, whose
first option is an MSS. -/
structure TcpFrame.StartsWithMss (f : TcpFrame) : Prop where
  /-- The segment lies in an IP packet. -/
  isTcp : f.IsTcp
  syn : IsSyn f.tcp
  /-- It has no other flag. -/
  plain : isPlainSyn f.tcp = true
  first : MssOptionAt f.tcp 22

/-- What becomes of a frame.  It stays, or its MSS option is lowered and its checksum stays right,
when an IPv6 header counts the segment up to the end; and a greater MSS in the first option is
always lowered. -/
structure AdjustsMss
    (isClamp : TcpFrame → Nat → Prop)
    (frame after : List UInt8) :
    Prop where
  changes : after = frame ∨ ∃ (f : TcpFrame) (clamp : Nat) (tcp : List UInt8),
    isClamp f clamp ∧ f.bytes = frame ∧ f.StartsWithMss ∧ (f.setTcp tcp).bytes = after ∧
      LoweredTo clamp 22 f.tcp tcp ∧
        ((ipVersion f.ip = 6 → declaredTcpSize f.ip = f.tcp.length) →
          ChecksumOk f.ip f.tcp → ChecksumOk f.ip tcp)
  lowers : ∀ (f : TcpFrame) (clamp : Nat), isClamp f clamp → f.bytes = frame → f.StartsWithMss →
    clamp < ushortAt f.tcp 22 →
      ushortAt (after.drop (f.link.length + f.ip.length)) 22 = clamp

variable {f : TcpFrame}

theorem TcpFrame.StartsWithMss.large
    (starts : f.StartsWithMss) :
    24 ≤ f.tcp.length := by
  have room := ((mssOptionAt_first_iff starts.syn).mp starts.first).1
  have whole := starts.syn.whole
  unfold sizeofTcpHeader at room
  omega

theorem TcpFrame.IsTcp.counted
    (isTcp : f.IsTcp)
    (ipv6 : ipVersion f.ip = 6 → declaredTcpSize f.ip = f.tcp.length) :
    declaredTcpSize f.ip = f.tcp.length := by
  rcases isTcp with ipv4 | ⟨headers, _⟩
  · rw [declaredTcpSize, if_pos ipv4.version, ipv4.totalLength, Nat.add_sub_cancel_left]
  · exact ipv6 (ipVersion_of_isIPv6Headers headers).1

theorem TcpFrame.drop_bytes (f : TcpFrame) :
    f.bytes.drop (f.link.length + f.ip.length) = f.tcp ++ f.rest := by
  rw [TcpFrame.bytes, TcpFrame.packet, ← List.drop_drop, List.drop_left, List.drop_left]

theorem adjustsMss_of_rewrites
    {isClamp : TcpFrame → Nat → Prop}
    {frame after : List UInt8}
    (cases : after = frame ∨ ∃ (f : TcpFrame) (clamp : Nat),
      isClamp f clamp ∧ f.bytes = frame ∧ f.StartsWithMss ∧ clamp < ushortAt f.tcp 22)
    (rewrites : ∀ (f : TcpFrame) (clamp : Nat), isClamp f clamp → f.bytes = frame →
      f.StartsWithMss → clamp < ushortAt f.tcp 22 →
        after = (f.setTcp (writeMss f.ip f.tcp clamp)).bytes) :
    AdjustsMss isClamp frame after where
  changes := by
    rcases cases with same | ⟨f, clamp, isClamp, bytes, starts, high⟩
    · exact .inl same
    · refine .inr ⟨f, clamp, writeMss f.ip f.tcp clamp, isClamp, bytes, starts,
        (rewrites f clamp isClamp bytes starts high).symm, loweredTo_writeMss starts.large high, ?_⟩
      exact fun ipv6 _ => checksumOk_writeMss starts.large (starts.isTcp.counted ipv6) clamp
  lowers := by
    intro f clamp isClamp bytes starts high
    have lowered : LoweredTo clamp 22 f.tcp (writeMss f.ip f.tcp clamp) :=
      loweredTo_writeMss starts.large high
    have segment : ((f.setTcp (writeMss f.ip f.tcp clamp)).bytes).drop
        (f.link.length + f.ip.length) = writeMss f.ip f.tcp clamp ++ f.rest :=
      (f.setTcp (writeMss f.ip f.tcp clamp)).drop_bytes
    have same : (writeMss f.ip f.tcp clamp ++ f.rest).take (writeMss f.ip f.tcp clamp).length =
        (writeMss f.ip f.tcp clamp).take (writeMss f.ip f.tcp clamp).length := by
      rw [List.take_left, List.take_length]
    have inside : 22 + 2 ≤ (writeMss f.ip f.tcp clamp).length := lowered.length ▸ starts.large
    rw [rewrites f clamp isClamp bytes starts high, segment, ushortAt_sameStart same inside]
    exact lowered.value

theorem adjustTcpMssL3_adjusts (src : List UInt8) (mss : Nat) :
    AdjustsMss (ClampL3 mss) src (adjustTcpMssL3 src mss).1 := by
  apply adjustsMss_of_rewrites
  · rcases adjustTcpMssL3_cases src mss with
      same | ⟨f, link, rfl, isTcp, syn, plain, first, positive, high⟩
    · exact .inl same
    · refine .inr ⟨f, mssFor f.ip mss, ⟨link, positive, rfl⟩, ?_, ⟨isTcp, syn, plain, first⟩, high⟩
      rw [TcpFrame.bytes, link, List.nil_append]
  · rintro f clamp ⟨link, positive, rfl⟩ rfl ⟨isTcp, syn, plain, first⟩ high
    have bytes : ∀ g : TcpFrame, g.link = [] → g.bytes = g.packet := by
      intro g none
      rw [TcpFrame.bytes, none, List.nil_append]
    rw [bytes f link, adjustTcpMssL3_packet isTcp syn plain first positive high]
    exact (bytes (f.setTcp (writeMss f.ip f.tcp (mssFor f.ip mss))) link).symm

/-! ## Frames -/

theorem adjustBehind_bytes
    (starts : f.StartsWithMss)
    {mss : Nat}
    (positive : mss ≠ 0)
    (high : mssFor f.ip mss < ushortAt f.tcp 22) :
    (adjustBehind f.link.length f.bytes mss).1 =
      (f.setTcp (writeMss f.ip f.tcp (mssFor f.ip mss))).bytes := by
  unfold adjustBehind
  dsimp only
  rw [TcpFrame.bytes, List.drop_left, List.take_left, adjustTcpMssL3_packet starts.isTcp starts.syn
    starts.plain starts.first positive high]
  rfl

theorem adjustBehind_cases
    (offset : Nat)
    (src : List UInt8)
    (mss : Nat) :
    (adjustBehind offset src mss).1 = src ∨
      ∃ f : TcpFrame, f.link = src.take offset ∧ f.bytes = src ∧ f.StartsWithMss ∧ mss ≠ 0 ∧
        mssFor f.ip mss < ushortAt f.tcp 22 := by
  unfold adjustBehind
  dsimp only
  rcases adjustTcpMssL3_cases (src.drop offset) mss with
    same | ⟨f, _, packet, isTcp, syn, plain, first, positive, high⟩
  · rw [same, List.take_append_drop]
    exact .inl rfl
  · refine .inr ⟨{ f with link := src.take offset }, rfl, ?_, ⟨isTcp, syn, plain, first⟩,
      positive, high⟩
    have behind : ({ f with link := src.take offset } : TcpFrame).packet = src.drop offset :=
      packet
    rw [TcpFrame.bytes, behind, List.take_append_drop]

theorem TcpFrame.link_sameStart (f : TcpFrame) :
    f.link.take f.link.length = f.bytes.take f.link.length := by
  rw [TcpFrame.bytes, List.take_length, List.take_left]

/-- A frame stays, or the packet behind its link header is rewritten. -/
theorem adjustTcpMssL2_cases (src : List UInt8) (mss tagVlanTpid : Nat) :
    (adjustTcpMssL2 src mss tagVlanTpid).1 = src ∨
      ∃ (f : TcpFrame) (clamp : Nat), ClampL2 mss tagVlanTpid f clamp ∧ f.bytes = src ∧
        f.StartsWithMss ∧ clamp < ushortAt f.tcp 22 := by
  unfold adjustTcpMssL2
  split
  case isTrue => exact .inl rfl
  case isFalse =>
    split
    case isTrue => exact .inl rfl
    case isFalse whole =>
      unfold sizeofMacHeader at whole
      split
      case isTrue isIp =>
        rcases adjustBehind_cases sizeofMacHeader src mss with
          same | ⟨f, link, bytes, starts, positive, high⟩
        · exact .inl same
        · have size : f.link.length = sizeofMacHeader := by
            rw [link, List.length_take, sizeofMacHeader]
            omega
          have proto : ushortAt f.link 12 = ushortAt src 12 := by
            rw [← bytes]
            exact ushortAt_sameStart f.link_sameStart (by rw [size, sizeofMacHeader])
          refine .inr ⟨f, _, .untagged ⟨size, ?_⟩ positive, bytes, starts, high⟩
          rw [proto]
          exact isIp
      case isFalse notIp =>
        split
        case isFalse => exact .inl rfl
        case isTrue isTag =>
          split
          case isTrue => exact .inl rfl
          case isFalse room =>
            unfold sizeofMacHeader at room
            split
            case isFalse => exact .inl rfl
            case isTrue behindTag =>
              rcases adjustBehind_cases (sizeofMacHeader + 4) src (mss - 4) with
                same | ⟨f, link, bytes, starts, _, high⟩
              · exact .inl same
              · have size : f.link.length = sizeofMacHeader + 4 := by
                  rw [link, List.length_take, sizeofMacHeader]
                  omega
                have proto : ∀ offset, offset + 2 ≤ 18 →
                    ushortAt f.link offset = ushortAt src offset := by
                  intro offset inside
                  rw [← bytes]
                  exact ushortAt_sameStart f.link_sameStart (by rw [size, sizeofMacHeader]; omega)
                refine .inr ⟨f, _, .tagged ⟨size, ?_, ?_, ?_⟩ behindTag.2, bytes, starts, high⟩
                · rw [proto 12 (by omega)]
                  exact Bool.eq_false_iff.mpr notIp
                · rw [proto 12 (by omega)]
                  exact isTag
                · rw [proto 16 (by omega)]
                  exact behindTag.1

theorem adjustTcpMssL2_bytes
    {mss tagVlanTpid clamp : Nat}
    (isClamp : ClampL2 mss tagVlanTpid f clamp)
    (starts : f.StartsWithMss)
    (high : clamp < ushortAt f.tcp 22) :
    (adjustTcpMssL2 f.bytes mss tagVlanTpid).1 =
      (f.setTcp (writeMss f.ip f.tcp clamp)).bytes := by
  have length : f.bytes.length = f.link.length + f.packet.length := List.length_append
  cases isClamp with
  | untagged link positive =>
      have size := link.size
      have rewritten := adjustBehind_bytes starts positive high
      have proto : ushortAt f.link 12 = ushortAt f.bytes 12 :=
        ushortAt_sameStart f.link_sameStart (by rw [size, sizeofMacHeader])
      have notEmpty : ¬(f.bytes = [] ∨ mss = 0) := by
        rintro (empty | zero)
        · rw [empty, List.length_nil, size, sizeofMacHeader] at length
          omega
        · exact positive zero
      have isIp := link.isIp
      rw [proto] at isIp
      unfold adjustTcpMssL2
      rw [if_neg notEmpty, if_neg (by omega), if_pos isIp, ← size]
      exact rewritten
  | tagged link enough =>
      have size := link.size
      have rewritten := adjustBehind_bytes starts (by omega) high
      have proto : ∀ offset, offset + 2 ≤ 18 → ushortAt f.link offset = ushortAt f.bytes offset :=
        fun offset inside =>
          ushortAt_sameStart f.link_sameStart (by rw [size, sizeofMacHeader]; omega)
      have notIp := link.notIp
      have isTag := link.isTag
      have isIp := link.isIp
      rw [proto 12 (by omega)] at notIp isTag
      rw [proto 16 (by omega)] at isIp
      have notEmpty : ¬(f.bytes = [] ∨ mss = 0) := by
        rintro (empty | zero)
        · rw [empty, List.length_nil, size, sizeofMacHeader] at length
          omega
        · omega
      unfold adjustTcpMssL2
      rw [if_neg notEmpty, if_neg (by omega), if_neg (by rw [notIp]; decide), if_pos isTag,
        if_neg (by omega), if_pos ⟨isIp, enough⟩, ← size]
      exact rewritten

/-- `AdjustTcpMssL2` and `AdjustTcpMssL3` adjust every frame and every packet. -/
theorem adjustTcpMss_adjusts (src : List UInt8) (mss tagVlanTpid : Nat) :
    AdjustsMss (ClampL2 mss tagVlanTpid) src (adjustTcpMssL2 src mss tagVlanTpid).1 ∧
      AdjustsMss (ClampL3 mss) src (adjustTcpMssL3 src mss).1 := by
  refine ⟨adjustsMss_of_rewrites (adjustTcpMssL2_cases src mss tagVlanTpid) ?_,
    adjustTcpMssL3_adjusts src mss⟩
  rintro f clamp isClamp rfl starts high
  exact adjustTcpMssL2_bytes isClamp starts high

/-! ## Frames with a greater segment size -/

structure TcpFrame.IsWellFormedSyn (f : TcpFrame) : Prop where
  /-- The segment lies in an IP packet. -/
  isTcp : f.IsTcp
  syn : IsSyn f.tcp
  options : OptionsWhole f.tcp
  counted : declaredTcpSize f.ip = f.tcp.length
  checksum : ChecksumOk f.ip f.tcp

/-- Every frame stays, or its MSS option is lowered; and in a well-formed SYN segment no MSS
option, wherever it stands, stays greater than the MSS that the frame is adjusted to. -/
structure LowersEveryMss
    (isLink : List UInt8 → Prop)
    (mss : Nat)
    (frame after : List UInt8) :
    Prop where
  changes : after = frame ∨ ∃ (f : TcpFrame) (clamp place : Nat) (tcp : List UInt8),
    isLink f.link ∧ clamp ≤ mss ∧ f.bytes = frame ∧ f.IsTcp ∧ IsSyn f.tcp ∧
      MssOptionAt f.tcp place ∧ (f.setTcp tcp).bytes = after ∧ LoweredTo clamp place f.tcp tcp ∧
        (ChecksumOk f.ip f.tcp → ChecksumOk f.ip tcp)
  lowers : ∀ (f : TcpFrame) (place : Nat), isLink f.link → f.bytes = frame → f.IsWellFormedSyn →
    MssOptionAt f.tcp place → mss < ushortAt f.tcp place →
      ushortAt (after.drop (f.link.length + f.ip.length)) place ≤ mss

/-- The header of a frame before an IP packet. -/
def IsLink (tagVlanTpid : Nat) (link : List UInt8) : Prop :=
  IsUntagged link ∨ IsTagged tagVlanTpid link

/-- The IPv4 header of a packet from 192.168.0.1 to 192.168.0.2. -/
def exampleIp : List UInt8 :=
  fillChecksum [0x45, 0, 0, 44, 0, 0, 0x40, 0, 64, 6, 0, 0, 192, 168, 0, 1, 192, 168, 0, 2]

/-- A SYN segment with an MSS of 1460. -/
def exampleTcp (flag : UInt8) : List UInt8 :=
  let tcp := [0x30, 0x39, 0, 80, 0, 0, 0, 1, 0, 0, 0, 0, 0x60, flag, 0xff, 0xff, 0, 0, 0, 0] ++
    (TcpOption.mss 1460).bytes
  copyAt tcp 16 (littleUshort (tcpChecksum exampleIp tcp))

def exampleSyn (link : List UInt8) (flag : UInt8) : TcpFrame :=
  ⟨link, exampleIp, exampleTcp flag, []⟩

/-- The header of a frame with an IPv4 packet. -/
def exampleLink : List UInt8 :=
  [2, 0, 0, 0, 0, 2, 2, 0, 0, 0, 0, 1, 8, 0]

/-- The header of a frame with an IPv4 packet in a VLAN tag. -/
def exampleTag : List UInt8 :=
  [2, 0, 0, 0, 0, 2, 2, 0, 0, 0, 0, 1, 0x81, 0, 0, 5, 8, 0]

theorem isLink_exampleLink : IsLink 0 exampleLink :=
  .inl ⟨rfl, by decide⟩

theorem isLink_exampleTag : IsLink 0 exampleTag :=
  .inr ⟨rfl, by decide, by decide, by decide⟩

theorem isWellFormedSyn_exampleSyn
    (link : List UInt8)
    {flag : UInt8}
    (isSyn : flag = TCP_SYN ∨ flag = TCP_SYN ||| TCP_PSH) :
    (exampleSyn link flag).IsWellFormedSyn ∧ MssOptionAt (exampleSyn link flag).tcp 22 ∧
      ushortAt (exampleSyn link flag).tcp 22 = 1460 := by
  have facts : (exampleTcp flag).length = 24 ∧ tcpHeaderSize (exampleTcp flag) = 24 ∧
      tcpFlag (exampleTcp flag) &&& TCP_SYN ≠ 0 ∧
      tcpOptions (exampleTcp flag) = (TcpOption.mss 1460).bytes ∧
      (bytesAt (exampleTcp flag) 16 2).val = littleUshort (tcpChecksum exampleIp
        ((copyAt (exampleTcp flag) 16 (littleUshort 0)).take 24)) ∧
      ushortAt (exampleTcp flag) 22 = 1460 := by
    rcases isSyn with rfl | rfl
    · decide +kernel
    · decide +kernel
  obtain ⟨length, header, syn, options, checksum, value⟩ := facts
  have headers : IsIPv4Headers 24 exampleIp :=
    ⟨by decide +kernel, by decide +kernel, by decide +kernel, by decide +kernel,
      by decide +kernel, by decide +kernel, by decide +kernel⟩
  have size : declaredTcpSize exampleIp = 24 := by decide +kernel
  have first : tcpOptions (exampleTcp flag) = (TcpOption.mss 1460).bytes ++ [] := options
  refine ⟨⟨.inl (length.symm ▸ headers), ⟨?_, ?_, syn⟩, ⟨[.mss 1460], [], first, .inl rfl⟩, ?_,
    ⟨?_, ?_⟩⟩, ⟨[], 1460, [], first, rfl⟩, value⟩
  · exact header.symm ▸ by decide
  · exact (header.trans length.symm).le
  · exact size.trans length.symm
  · exact (size.trans length.symm).le
  · rw [← size] at checksum
    exact checksum

theorem not_lowersEveryMss
    {isLink : List UInt8 → Prop}
    {link after : List UInt8}
    {flag : UInt8}
    {mss : Nat}
    (isSyn : flag = TCP_SYN ∨ flag = TCP_SYN ||| TCP_PSH)
    (hasLink : isLink link)
    (less : mss < 1460)
    (greater : mss < ushortAt (after.drop (link.length + exampleIp.length)) 22) :
    ¬LowersEveryMss isLink mss (exampleSyn link flag).bytes after := by
  intro law
  obtain ⟨wellFormed, option, value⟩ := isWellFormedSyn_exampleSyn link isSyn
  have lowered := law.lowers (exampleSyn link flag) 22 hasLink rfl wellFormed option (value ▸ less)
  exact absurd lowered (Nat.not_le.mpr greater)

/-- The MSS stays greater when it is lowered to 64 at least, when the flag `TCP_PSH` is set, when a
VLAN tag leaves no MSS, and when there is no MSS to adjust to. -/
theorem adjustTcpMssL2_notEveryMss :
    ¬LowersEveryMss (IsLink 0) 50 (exampleSyn exampleLink TCP_SYN).bytes
        (adjustTcpMssL2 (exampleSyn exampleLink TCP_SYN).bytes 50 0).1 ∧
      ¬LowersEveryMss (IsLink 0) 1000 (exampleSyn exampleLink (TCP_SYN ||| TCP_PSH)).bytes
        (adjustTcpMssL2 (exampleSyn exampleLink (TCP_SYN ||| TCP_PSH)).bytes 1000 0).1 ∧
      ¬LowersEveryMss (IsLink 0) 4 (exampleSyn exampleTag TCP_SYN).bytes
        (adjustTcpMssL2 (exampleSyn exampleTag TCP_SYN).bytes 4 0).1 ∧
      ¬LowersEveryMss (IsLink 0) 0 (exampleSyn exampleLink TCP_SYN).bytes
        (adjustTcpMssL2 (exampleSyn exampleLink TCP_SYN).bytes 0 0).1 := by
  refine ⟨?_, ?_, ?_, ?_⟩
  · exact not_lowersEveryMss (.inl rfl) isLink_exampleLink (by decide) (by decide +kernel)
  · exact not_lowersEveryMss (.inr rfl) isLink_exampleLink (by decide) (by decide +kernel)
  · exact not_lowersEveryMss (.inl rfl) isLink_exampleTag (by decide) (by decide +kernel)
  · exact not_lowersEveryMss (.inl rfl) isLink_exampleLink (by decide) (by decide +kernel)

end TcpIp
end SoftEther
