import SoftEther.Mayaqua.TcpIp.DhcpModify

/-!
# What `DhcpModify` reads

`DhcpModify` goes over the header without taking its 44 bytes off the size that is left, and so it
searches and parses a block that is 44 bytes longer than the packet.  The bytes behind the packet
do not count exactly when the magic cookie and the end mark of the options both lie in the packet,
or when an option that is taken away reaches over all of the 44 bytes.
-/

namespace SoftEther
namespace TcpIp

theorem findCookie_cases
    (memory : Memory)
    (ptr size : Nat) :
    (findCookie memory ptr size = none ∧
      ∀ k, k + 5 ≤ size → region memory (ptr + k) 4 ≠ DHCP_MAGIC_COOKIE) ∨
    ∃ k, k + 5 ≤ size ∧ region memory (ptr + k) 4 = DHCP_MAGIC_COOKIE ∧
      (∀ j < k, region memory (ptr + j) 4 ≠ DHCP_MAGIC_COOKIE) ∧
      findCookie memory ptr size = some (ptr + k + 4, size - k - 4) := by
  induction size generalizing ptr with
  | zero => exact .inl ⟨rfl, fun k enough => absurd enough (by omega)⟩
  | succ size inductionHypothesis =>
      by_cases short : size + 1 < 5
      · refine .inl ⟨?_, fun k enough => absurd enough (by omega)⟩
        rw [findCookie, if_pos short]
      · by_cases here : region memory ptr 4 = DHCP_MAGIC_COOKIE
        · refine .inr ⟨0, by omega, here, fun j before => absurd before (by omega), ?_⟩
          rw [findCookie, if_neg short, if_pos here]
          rfl
        · have goesOn : findCookie memory ptr (size + 1) = findCookie memory (ptr + 1) size := by
            rw [findCookie, if_neg short, if_neg here]
          rw [goesOn]
          rcases inductionHypothesis (ptr + 1) with ⟨fails, nowhere⟩ | ⟨k, enough, found, first, is⟩
          · refine .inl ⟨fails, fun k enough => ?_⟩
            cases k with
            | zero => exact here
            | succ k =>
                have elsewhere := nowhere k (by omega)
                rwa [Nat.add_right_comm, Nat.add_assoc] at elsewhere
          · refine .inr ⟨k + 1, by omega, ?_, fun j before => ?_, ?_⟩
            · rwa [Nat.add_right_comm, Nat.add_assoc] at found
            · cases j with
              | zero => exact here
              | succ j =>
                  have elsewhere := first j (by omega)
                  rwa [Nat.add_right_comm, Nat.add_assoc] at elsewhere
            · rw [is, Nat.add_right_comm ptr 1 k, Nat.add_assoc ptr k 1, Nat.sub_sub, Nat.sub_sub]
              congr 2
              omega

theorem length_region (memory : Memory) (start size : Nat) :
    (region memory start size).length = size := by
  rw [region, List.length_map, List.length_range]

theorem region_add (memory : Memory) (start size more : Nat) :
    region memory start (size + more) =
      region memory start size ++ region memory (start + size) more := by
  unfold region
  rw [List.range_add, List.map_append, List.map_map]
  congr 1
  apply List.map_congr_left
  intro i _
  rw [Function.comp_apply, Nat.add_assoc]

/-- A block that lies in the packet. -/
theorem region_memoryOf
    (data : List UInt8)
    (behind : Memory)
    {start size : Nat}
    (inside : start + size ≤ data.length) :
    region (memoryOf data behind) start size = (data.drop start).take size := by
  apply List.ext_getElem
  · rw [length_region, List.length_take, List.length_drop]
    omega
  · intro i before _
    rw [length_region] at before
    have bound : start + i < data.length := by omega
    simp [region, memoryOf, List.getElem?_eq_getElem bound]

theorem region_behind
    (data : List UInt8)
    (behind : Memory)
    (start size : Nat) :
    region (memoryOf data behind) (data.length + start) size = region behind start size := by
  unfold region
  apply List.map_congr_left
  intro i _
  have outside : data.length ≤ data.length + start + i := by omega
  simp only [memoryOf, List.getElem?_eq_none outside, Option.getD_none]
  congr 1
  omega

theorem region_over
    (data : List UInt8)
    (behind : Memory)
    {start : Nat}
    (inside : start ≤ data.length)
    (more : Nat) :
    region (memoryOf data behind) start (data.length - start + more) =
      data.drop start ++ region behind 0 more := by
  rw [region_add, region_memoryOf data behind (by omega), List.take_of_length_le (by simp),
    Nat.add_sub_cancel' inside]
  exact congrArg _ (region_behind data behind 0 more)

/-- The first magic cookie behind the header lies in the packet. -/
structure FirstCookie (data : List UInt8) (p : Nat) : Prop where
  behindHeader : sizeofDhcpV4Header ≤ p
  isCookie : (data.drop p).take 4 = DHCP_MAGIC_COOKIE
  /-- There is none before. -/
  first : ∀ q, sizeofDhcpV4Header ≤ q → q < p → (data.drop q).take 4 ≠ DHCP_MAGIC_COOKIE

/-- The options of a packet have their end mark in the packet, or the packet ends in an option
that lacks 43 bytes or more and that is taken away. -/
def OptionsInside (removeDefaultGatewayOnReply : Bool) (b : List UInt8) : Prop :=
  optionsEnd b = .marked ∨
    ∃ missing last, optionsEnd b = .data missing ∧ sizeofDhcpV4Header ≤ missing + 1 ∧
      (parseDhcpOptions b).getLast? = some last ∧
      keepsOption removeDefaultGatewayOnReply (opcodeOf (parseDhcpOptions b)) last = false

/-- Reading stays inside the packet, as far as the result goes. -/
def StaysInside (removeDefaultGatewayOnReply : Bool) (data : List UInt8) : Prop :=
  data.length < sizeofDhcpV4Header ∨
    ∃ p, FirstCookie data p ∧ OptionsInside removeDefaultGatewayOnReply (data.drop (p + 4))

/-- The end of `DhcpModify`: the packet when it changes. -/
def changedPacket (data ret : List UInt8) : Option (List UInt8) :=
  if ret = data then none else some (padDhcp ret)

theorem changedPacket_eq
    (data : List UInt8)
    (behind : Memory)
    (ret : List UInt8) :
    (if data.length ≠ ret.length ∨ region (memoryOf data behind) 0 ret.length ≠ ret then
      some (padDhcp ret) else none) = changedPacket data ret := by
  have whole : region (memoryOf data behind) 0 data.length = data := by
    rw [region_memoryOf data behind (by omega), List.drop_zero, List.take_length]
  unfold changedPacket
  by_cases same : ret = data
  · rw [if_pos same, if_neg]
    rintro (other | differs)
    · exact other (congrArg List.length same).symm
    · apply differs
      rw [same, whole]
  · rw [if_neg same, if_pos]
    by_cases other : data.length = ret.length
    · refine .inr fun equal => same ?_
      rw [← other, whole] at equal
      exact equal.symm
    · exact .inl other

/-- The first bytes of the packet, and the options that stay. -/
def rebuiltDhcp
    (removeDefaultGatewayOnReply : Bool)
    (data : List UInt8)
    (p : Nat)
    (b : List UInt8) :
    List UInt8 :=
  data.take (p + 4) ++
    buildDhcpOptionsBuf (keptOptions removeDefaultGatewayOnReply (parseDhcpOptions b))

variable {p : Nat} {removeDefaultGatewayOnReply : Bool} {data data' : List UInt8} {d : DhcpOption}

theorem FirstCookie.length_le
    {data : List UInt8}
    (cookie : FirstCookie data p) :
    p + 4 ≤ data.length := by
  have size := congrArg List.length cookie.isCookie
  rw [List.length_take, List.length_drop] at size
  have four : DHCP_MAGIC_COOKIE.length = 4 := rfl
  omega

theorem dhcpModify_of_firstCookie
    {data : List UInt8}
    (cookie : FirstCookie data p)
    (removeDefaultGatewayOnReply : Bool)
    (behind : Memory) :
    dhcpModify removeDefaultGatewayOnReply (memoryOf data behind) data.length =
      changedPacket data
        (rebuiltDhcp removeDefaultGatewayOnReply data p
          (data.drop (p + 4) ++ region behind 0 sizeofDhcpV4Header)) := by
  have size := cookie.length_le
  have start := cookie.behindHeader
  have inPacket : ∀ q, q ≤ p →
      region (memoryOf data behind) q 4 = (data.drop q).take 4 := by
    intro q before
    exact region_memoryOf data behind (by omega)
  have found : findCookie (memoryOf data behind) sizeofDhcpV4Header data.length =
      some (p + 4, data.length - (p + 4) + sizeofDhcpV4Header) := by
    rcases findCookie_cases (memoryOf data behind) sizeofDhcpV4Header data.length with
      ⟨_, nowhere⟩ | ⟨k, enough, here, first, is⟩
    · have missing := nowhere (p - sizeofDhcpV4Header) (by unfold sizeofDhcpV4Header at *; omega)
      rw [Nat.add_sub_cancel' start, inPacket p le_rfl] at missing
      exact absurd cookie.isCookie missing
    · have atCookie : sizeofDhcpV4Header + k = p := by
        rcases Nat.lt_trichotomy (sizeofDhcpV4Header + k) p with before | same | after
        · rw [inPacket _ before.le] at here
          exact absurd here (cookie.first _ (Nat.le_add_right _ _) before)
        · exact same
        · have missing := first (p - sizeofDhcpV4Header) (by omega)
          rw [Nat.add_sub_cancel' start, inPacket p le_rfl] at missing
          exact absurd cookie.isCookie missing
      rw [is, atCookie]
      congr 2
      unfold sizeofDhcpV4Header at *
      omega
  unfold dhcpModify
  rw [if_neg (by omega), found]
  dsimp only
  rw [region_over data behind size, region_memoryOf data behind (by omega), List.drop_zero]
  exact changedPacket_eq data behind (rebuiltDhcp removeDefaultGatewayOnReply data p _)

/-! ## The result tells what was read -/

theorem append_zeros_injective
    {front front' : List UInt8}
    {last : UInt8}
    (nonzero : last ≠ 0)
    {n n' : Nat}
    (same : front ++ [last] ++ List.replicate n 0 = front' ++ [last] ++ List.replicate n' 0) :
    front ++ [last] = front' ++ [last] := by
  have noZeros : ∀ {front front' more : List UInt8},
      front' ++ [last] = front ++ [last] ++ more → (∀ x ∈ more, x = 0) →
      front ++ [last] = front' ++ [last] := by
    intro front front' more longer zeros
    rcases List.eq_nil_or_concat more with rfl | ⟨others, x, rfl⟩
    · rw [longer, List.append_nil]
    · rw [List.concat_eq_append, ← List.append_assoc] at longer
      have isLast := (List.append_inj' longer rfl).2
      injection isLast with isLast
      exact absurd (isLast.trans (zeros x (by simp))) nonzero
  rcases List.append_eq_append_iff.mp same with ⟨more, longer, isZeros⟩ | ⟨more, longer, isZeros⟩
  · apply noZeros longer
    intro x inside
    have isZero : x ∈ List.replicate n (0 : UInt8) := by
      rw [isZeros]
      exact List.mem_append_left _ inside
    exact List.eq_of_mem_replicate isZero
  · apply Eq.symm
    apply noZeros longer
    intro x inside
    have isZero : x ∈ List.replicate n' (0 : UInt8) := by
      rw [isZeros]
      exact List.mem_append_left _ inside
    exact List.eq_of_mem_replicate isZero

theorem changedPacket_injective
    {data front front' : List UInt8}
    (same : changedPacket data (front ++ [0xff]) = changedPacket data (front' ++ [0xff])) :
    front ++ [0xff] = front' ++ [0xff] := by
  unfold changedPacket at same
  by_cases unchanged : front ++ [0xff] = data
  · by_cases unchanged' : front' ++ [0xff] = data
    · exact unchanged.trans unchanged'.symm
    · rw [if_pos unchanged, if_neg unchanged'] at same
      exact nomatch same
  · by_cases unchanged' : front' ++ [0xff] = data
    · rw [if_neg unchanged, if_pos unchanged'] at same
      exact nomatch same
    · rw [if_neg unchanged, if_neg unchanged'] at same
      injection same with same
      exact append_zeros_injective (by decide) same

theorem keptOptions_of_changedPacket
    {data b b' : List UInt8}
    (same : changedPacket data (rebuiltDhcp removeDefaultGatewayOnReply data p b) =
      changedPacket data (rebuiltDhcp removeDefaultGatewayOnReply data p b')) :
    (keptOptions removeDefaultGatewayOnReply (parseDhcpOptions b)).flatMap buildDhcpOption =
      (keptOptions removeDefaultGatewayOnReply (parseDhcpOptions b')).flatMap buildDhcpOption := by
  unfold rebuiltDhcp buildDhcpOptionsBuf at same
  rw [← List.append_assoc, ← List.append_assoc] at same
  have written := changedPacket_injective same
  exact List.append_cancel_left (List.append_cancel_right written)

theorem eq_of_take_append
    {data data' rest rest' : List UInt8}
    (size : data.length = data'.length)
    (same : data.take 255 ++ rest = data'.take 255 ++ rest')
    (rests : rest = rest' → data.drop 255 = data'.drop 255) :
    data = data' := by
  have sizes : (data.take 255).length = (data'.take 255).length := by
    rw [List.length_take, List.length_take, size]
  obtain ⟨front, back⟩ := List.append_inj same sizes
  rw [← List.take_append_drop 255 data, front, rests back, List.take_append_drop]

/-- The bytes of the data of an option can be read off what is written for it. -/
theorem buildMore_injective
    {n : Nat}
    (enough : data.length ≤ n)
    (size : data.length = data'.length)
    (same : buildMore n data = buildMore n data') :
    data = data' := by
  induction n generalizing data data' with
  | zero =>
      rw [List.length_eq_zero_iff.mp (Nat.le_zero.mp enough),
        List.length_eq_zero_iff.mp (by omega : data'.length = 0)]
  | succ n inductionHypothesis =>
      unfold buildMore at same
      by_cases isNil : data = []
      · rw [isNil, List.length_eq_zero_iff.mp (by rw [← size, isNil]; rfl : data'.length = 0)]
      · have notNil : data' ≠ [] := by
          intro isNil'
          rw [isNil'] at size
          exact isNil (List.length_eq_zero_iff.mp size)
        have positive := List.length_pos_iff.mpr isNil
        rw [if_neg isNil, if_neg notNil] at same
        injection same with _ same
        injection same with _ same
        refine eq_of_take_append size same fun rest => inductionHypothesis ?_ ?_ rest
        · rw [List.length_drop]
          omega
        · rw [List.length_drop, List.length_drop, size]

theorem buildDhcpOption_injective
    {id : UInt8}
    (size : data.length = data'.length)
    (same : buildDhcpOption ⟨id, data⟩ = buildDhcpOption ⟨id, data'⟩) :
    data = data' := by
  unfold buildDhcpOption at same
  dsimp only at same
  rw [size] at same
  injection same with _ same
  injection same with _ same
  refine eq_of_take_append size same fun rest => buildMore_injective ?_ ?_ rest
  · rw [List.length_drop]
    omega
  · rw [List.length_drop, List.length_drop, size]

theorem getDhcpOption_append_other
    (o : List DhcpOption)
    {id : UInt8}
    (other : d.id ≠ id) :
    getDhcpOption (o ++ [d]) id = getDhcpOption o id := by
  rw [getDhcpOption, List.filter_append, List.filter_cons_of_neg (by simpa using other),
    List.filter_nil, List.append_nil, ← getDhcpOption]

theorem getDhcpOption_append_same
    (o : List DhcpOption)
    (d : DhcpOption) :
    getDhcpOption (o ++ [d]) d.id = some d := by
  rw [getDhcpOption, List.filter_append, List.filter_cons_of_pos (by simp), List.filter_nil,
    List.getLast?_concat]

theorem opcodeOf_last
    (front : List DhcpOption)
    (id : UInt8)
    (long : data.length ≠ 1)
    (long' : data'.length ≠ 1) :
    opcodeOf (front ++ [⟨id, data⟩]) = opcodeOf (front ++ [⟨id, data'⟩]) := by
  unfold opcodeOf
  by_cases isType : id = DHCP_ID_MESSAGE_TYPE
  · subst isType
    have found := getDhcpOption_append_same front ⟨DHCP_ID_MESSAGE_TYPE, data⟩
    have found' := getDhcpOption_append_same front ⟨DHCP_ID_MESSAGE_TYPE, data'⟩
    dsimp only at found found'
    rw [found, found']
    dsimp only
    rw [if_neg long, if_neg long']
  · rw [getDhcpOption_append_other front isType, getDhcpOption_append_other front isType]

theorem keptOptions_removed
    {o : List DhcpOption}
    (removed : keepsOption removeDefaultGatewayOnReply (opcodeOf (o ++ [d])) d = false) :
    keptOptions removeDefaultGatewayOnReply (o ++ [d]) =
      o.filter (keepsOption removeDefaultGatewayOnReply (opcodeOf (o ++ [d]))) := by
  rw [keptOptions, List.filter_append, List.filter_cons_of_neg (by rw [removed]; decide),
    List.filter_nil, List.append_nil]

theorem keptOptions_kept
    {o : List DhcpOption}
    (kept : keepsOption removeDefaultGatewayOnReply (opcodeOf (o ++ [d])) d = true) :
    keptOptions removeDefaultGatewayOnReply (o ++ [d]) =
      o.filter (keepsOption removeDefaultGatewayOnReply (opcodeOf (o ++ [d]))) ++ [d] := by
  rw [keptOptions, List.filter_append, List.filter_cons_of_pos kept, List.filter_nil]

theorem keptOptions_append
    (removeDefaultGatewayOnReply : Bool)
    (o : List DhcpOption) :
    keptOptions removeDefaultGatewayOnReply (o ++ [⟨0x0c, []⟩]) =
      keptOptions removeDefaultGatewayOnReply o ++ [⟨0x0c, []⟩] := by
  have opcode : opcodeOf (o ++ [⟨0x0c, []⟩]) = opcodeOf o := by
    unfold opcodeOf
    rw [getDhcpOption_append_other o (by decide)]
  have stays : ∀ opcode, keepsOption removeDefaultGatewayOnReply opcode ⟨0x0c, []⟩ = true := by
    intro opcode
    have other : ¬((0x0c : UInt8) = DHCP_ID_GATEWAY_ADDR ∨ (0x0c : UInt8) = DHCP_ID_DNS_ADDR ∨
        (0x0c : UInt8) = DHCP_ID_WINS_ADDR ∨ (0x0c : UInt8) = DHCP_ID_DOMAIN_NAME) := by
      decide
    rw [keepsOption, decide_eq_true_iff]
    exact fun removed => other removed.2.2
  rw [keptOptions_kept (stays _), opcode, ← keptOptions]

theorem region_getD
    {l : List UInt8}
    {size : Nat}
    (fits : l.length ≤ size) :
    region (fun i => l.getD i 0xff) 0 size = l ++ List.replicate (size - l.length) 0xff := by
  apply List.ext_getElem
  · rw [length_region, List.length_append, List.length_replicate]
    omega
  · intro i before _
    rw [List.getElem_append]
    by_cases inside : i < l.length
    · simp [region, inside]
    · simp [region, inside]

theorem parseDhcpOptionsFrom_ends (o : List DhcpOption) (n : Nat) :
    parseDhcpOptionsFrom o (List.replicate n 0xff) = o := by
  cases n with
  | zero => rfl
  | succ n => rw [List.replicate_succ, parseDhcpOptionsFrom_end]

theorem parseDhcpOptions_behind
    {b : List UInt8}
    (unmarked : optionsEnd b ≠ .marked)
    (short : (completion (optionsEnd b)).length + 2 ≤ sizeofDhcpV4Header) :
    ∃ o behind behind',
      parseDhcpOptions (b ++ region behind 0 sizeofDhcpV4Header) = o ∧
      parseDhcpOptions (b ++ region behind' 0 sizeofDhcpV4Header) = o ++ [⟨0x0c, []⟩] := by
  have whole := optionsEnd_completion unmarked
  generalize completion (optionsEnd b) = more at short whole
  refine ⟨parseDhcpOptions (b ++ more), fun i => more.getD i 0xff,
    fun i => (more ++ [0x0c, 0]).getD i 0xff, ?_, ?_⟩
  · unfold parseDhcpOptions
    rw [region_getD (by omega), ← List.append_assoc, parseDhcpOptionsFrom_whole whole,
      parseDhcpOptionsFrom_ends]
  · have adds : ∀ o : List DhcpOption, addDhcpOption o 0x0c [] = o ++ [⟨0x0c, []⟩] := by
      intro o
      unfold addDhcpOption
      cases o.getLast? with
      | none => rfl
      | some last => exact if_neg (by decide)
    have nothing : ∀ e, readPadded e (0 : UInt8).toNat = [] := by
      intro e
      exact List.length_eq_zero_iff.mp (length_readPadded e 0)
    have fits : (more ++ [(0x0c : UInt8), 0]).length ≤ sizeofDhcpV4Header := by
      rw [List.length_append]
      exact short
    unfold parseDhcpOptions
    rw [region_getD fits, List.append_assoc more, ← List.append_assoc b,
      parseDhcpOptionsFrom_whole whole, List.cons_append, List.cons_append,
      parseDhcpOptionsFrom_cons (by decide), nothing, adds]
    exact parseDhcpOptionsFrom_ends _ _

theorem parseDhcpOptions_long
    {b : List UInt8}
    {missing : Nat}
    (beyond : optionsEnd b = .data missing)
    (long : sizeofDhcpV4Header ≤ missing + 1) :
    ∃ (front : List DhcpOption) (last : DhcpOption),
      parseDhcpOptions b = front ++ [⟨last.id, last.data ++ readPadded [] missing⟩] ∧
      ∀ behind,
        parseDhcpOptions (b ++ region behind 0 sizeofDhcpV4Header) =
          front ++ [⟨last.id, last.data ++
            readPadded (region behind 0 sizeofDhcpV4Header) missing⟩] := by
  obtain ⟨front, last, reads⟩ := parseDhcpOptionsFrom_over beyond []
  refine ⟨front, last, ?_, fun behind => ?_⟩
  · have alone := reads [] (Nat.zero_le _)
    rwa [List.append_nil] at alone
  · exact reads _ (by rw [length_region]; exact long)

theorem opcodeOf_long
    (front : List DhcpOption)
    (last : DhcpOption)
    {missing : Nat}
    (long : sizeofDhcpV4Header ≤ missing + 1)
    (e : List UInt8) :
    opcodeOf (front ++ [⟨last.id, last.data ++ readPadded e missing⟩]) =
      opcodeOf (front ++ [⟨last.id, last.data ++ readPadded [] missing⟩]) := by
  have size : ∀ e, (last.data ++ readPadded e missing).length ≠ 1 := by
    intro e
    rw [List.length_append, length_readPadded]
    unfold sizeofDhcpV4Header at long
    omega
  exact opcodeOf_last front last.id (size e) (size [])

/-! ## When the bytes behind the packet count -/

section Reads

variable {removeDefaultGatewayOnReply : Bool} {data : List UInt8} {p : Nat}

theorem keptOptions_of_optionsInside
    {b : List UInt8}
    (inside : OptionsInside removeDefaultGatewayOnReply b)
    (behind : Memory) :
    keptOptions removeDefaultGatewayOnReply
        (parseDhcpOptions (b ++ region behind 0 sizeofDhcpV4Header)) =
      keptOptions removeDefaultGatewayOnReply (parseDhcpOptions b) := by
  rcases inside with marked | ⟨missing, taken, beyond, long, isLast, removed⟩
  · rw [parseDhcpOptions, parseDhcpOptionsFrom_marked marked, ← parseDhcpOptions]
  · obtain ⟨front, last, alone, reads⟩ := parseDhcpOptions_long beyond long
    rw [alone, List.getLast?_concat, Option.some_inj] at isLast
    rw [alone, ← isLast] at removed
    have removed' := removed
    rw [← opcodeOf_long front last long (region behind 0 sizeofDhcpV4Header)] at removed'
    rw [reads, alone, keptOptions_removed removed, keptOptions_removed removed',
      opcodeOf_long front last long]

theorem optionsInside_of_same
    {b : List UInt8}
    (same : ∀ behind behind' : Memory,
      (keptOptions removeDefaultGatewayOnReply
        (parseDhcpOptions (b ++ region behind 0 sizeofDhcpV4Header))).flatMap buildDhcpOption =
      (keptOptions removeDefaultGatewayOnReply
        (parseDhcpOptions (b ++ region behind' 0 sizeofDhcpV4Header))).flatMap buildDhcpOption) :
    OptionsInside removeDefaultGatewayOnReply b := by
  by_cases marked : optionsEnd b = .marked
  · exact .inl marked
  · by_cases short : (completion (optionsEnd b)).length + 2 ≤ sizeofDhcpV4Header
    · obtain ⟨o, behind, behind', ends, adds⟩ := parseDhcpOptions_behind marked short
      have sizes := congrArg List.length (same behind behind')
      rw [ends, adds, keptOptions_append, List.flatMap_append, List.length_append] at sizes
      exact absurd sizes (by simp [buildDhcpOption])
    · obtain ⟨missing, beyond, long⟩ : ∃ missing,
          optionsEnd b = .data missing ∧ sizeofDhcpV4Header ≤ missing + 1 := by
        cases ends : optionsEnd b with
        | marked => exact absurd ends marked
        | option => exact absurd (by rw [ends]; decide) short
        | size => exact absurd (by rw [ends]; decide) short
        | data missing =>
            refine ⟨missing, rfl, ?_⟩
            rw [ends, completion, List.length_replicate] at short
            omega
      obtain ⟨front, last, alone, reads⟩ := parseDhcpOptions_long beyond long
      refine .inr ⟨missing, ⟨last.id, last.data ++ readPadded [] missing⟩, beyond, long, ?_, ?_⟩
      · rw [alone, List.getLast?_concat]
      · rw [alone]
        by_contra kept
        rw [Bool.not_eq_false] at kept
        have keptAlways : ∀ e, keptOptions removeDefaultGatewayOnReply
            (front ++ [⟨last.id, last.data ++ readPadded e missing⟩]) =
              front.filter (keepsOption removeDefaultGatewayOnReply
                (opcodeOf (front ++ [⟨last.id, last.data ++ readPadded [] missing⟩]))) ++
                [⟨last.id, last.data ++ readPadded e missing⟩] := by
          intro e
          rw [← opcodeOf_long front last long e] at kept ⊢
          exact keptOptions_kept kept
        have written := same (fun _ => 0) (fun _ => 1)
        rw [reads, reads, keptAlways, keptAlways, List.flatMap_append, List.flatMap_append]
          at written
        have lasts := List.append_cancel_left written
        rw [List.flatMap_singleton, List.flatMap_singleton] at lasts
        have datas := buildDhcpOption_injective (by simp [length_readPadded]) lasts
        have blocks := List.append_cancel_left datas
        have firsts := congrArg List.head? blocks
        unfold sizeofDhcpV4Header at long
        obtain ⟨n, rfl⟩ : ∃ n, missing = n + 1 := ⟨missing - 1, by omega⟩
        have firstByte : ∀ byte : UInt8,
            (readPadded (region (fun _ => byte) 0 sizeofDhcpV4Header) (n + 1)).head? =
              some byte :=
          fun byte => rfl
        rw [firstByte, firstByte] at firsts
        exact absurd firsts (by decide)

theorem firstCookie_of_same
    (long : sizeofDhcpV4Header ≤ data.length)
    (same : ∀ behind behind' : Memory,
      dhcpModify removeDefaultGatewayOnReply (memoryOf data behind) data.length =
        dhcpModify removeDefaultGatewayOnReply (memoryOf data behind') data.length) :
    ∃ p, FirstCookie data p := by
  by_contra nowhere
  have notInside : ∀ q, sizeofDhcpV4Header ≤ q →
      (data.drop q).take 4 ≠ DHCP_MAGIC_COOKIE := by
    intro q
    induction q using Nat.strong_induction_on with
    | _ q inductionHypothesis =>
        exact fun behindHeader isCookie => nowhere
          ⟨q, behindHeader, isCookie, fun r start before => inductionHypothesis r before start⟩
  have without : dhcpModify removeDefaultGatewayOnReply (memoryOf data fun _ => 0) data.length =
      none := by
    have fails : findCookie (memoryOf data fun _ => 0) sizeofDhcpV4Header data.length = none := by
      rcases findCookie_cases (memoryOf data fun _ => 0) sizeofDhcpV4Header data.length with
        ⟨fails, _⟩ | ⟨k, enough, here, _, _⟩
      · exact fails
      · by_cases inside : sizeofDhcpV4Header + k + 4 ≤ data.length
        · rw [region_memoryOf data _ inside] at here
          exact absurd here (notInside _ (Nat.le_add_right _ _))
        · have lastByte := congrArg (fun l => l[3]?) here
          have outside : data.length ≤ sizeofDhcpV4Header + k + 3 := by omega
          simp [region, memoryOf, List.getElem?_eq_none outside, DHCP_MAGIC_COOKIE] at lastByte
    unfold dhcpModify
    rw [if_neg (by omega), fails]
  have cookieBehind : ∀ memory : Memory,
      region memory data.length 4 = DHCP_MAGIC_COOKIE →
        (∀ q, q + 4 ≤ data.length → sizeofDhcpV4Header ≤ q →
          region memory q 4 ≠ DHCP_MAGIC_COOKIE) →
        dhcpModify removeDefaultGatewayOnReply memory data.length ≠ none := by
    intro memory isCookie elsewhere
    unfold dhcpModify
    rw [if_neg (by omega)]
    rcases findCookie_cases memory sizeofDhcpV4Header data.length with
      ⟨_, missing⟩ | ⟨k, enough, here, _, is⟩
    · have notHere := missing (data.length - sizeofDhcpV4Header)
        (by unfold sizeofDhcpV4Header at *; omega)
      rw [Nat.add_sub_cancel' long] at notHere
      exact absurd isCookie notHere
    · rw [is]
      dsimp only
      rw [if_pos]
      · exact fun none => nomatch none
      · left
        rw [List.length_append, length_region, buildDhcpOptionsBuf, List.length_append]
        by_contra same
        exact elsewhere (sizeofDhcpV4Header + k) (by omega) (by omega) here
  have differs := cookieBehind (memoryOf data fun i => DHCP_MAGIC_COOKIE.getD i 0)
    (region_behind data _ 0 4) fun q inside start => by
      rw [region_memoryOf data _ inside]
      exact notInside q start
  exact differs ((same _ _).trans without)

/-- The result depends on the bytes of the packet alone exactly when the cookie and the options
lie in the packet. -/
theorem dhcpModify_readsInside_iff
    (removeDefaultGatewayOnReply : Bool)
    (data : List UInt8) :
    (∀ behind behind' : Memory,
      dhcpModify removeDefaultGatewayOnReply (memoryOf data behind) data.length =
        dhcpModify removeDefaultGatewayOnReply (memoryOf data behind') data.length) ↔
      StaysInside removeDefaultGatewayOnReply data := by
  constructor
  · intro same
    by_cases short : data.length < sizeofDhcpV4Header
    · exact .inl short
    · obtain ⟨p, cookie⟩ := firstCookie_of_same (Nat.le_of_not_lt short) same
      refine .inr ⟨p, cookie, optionsInside_of_same fun behind behind' => ?_⟩
      have results := same behind behind'
      rw [dhcpModify_of_firstCookie cookie, dhcpModify_of_firstCookie cookie] at results
      exact keptOptions_of_changedPacket results
  · rintro (short | ⟨p, cookie, inside⟩) behind behind'
    · rw [dhcpModify, dhcpModify, if_pos short, if_pos short]
    · rw [dhcpModify_of_firstCookie cookie, dhcpModify_of_firstCookie cookie, rebuiltDhcp,
        rebuiltDhcp, keptOptions_of_optionsInside inside, keptOptions_of_optionsInside inside]

/-- A packet of 44 bytes: the cookie is looked for, and found, behind it. -/
theorem dhcpModify_readsBehind :
    ¬∀ (removeDefaultGatewayOnReply : Bool) (data : List UInt8) (behind behind' : Memory),
      dhcpModify removeDefaultGatewayOnReply (memoryOf data behind) data.length =
        dhcpModify removeDefaultGatewayOnReply (memoryOf data behind') data.length := by
  intro alone
  have differs : dhcpModify true (memoryOf (List.replicate 44 0) fun _ => 0) 44 ≠
      dhcpModify true (memoryOf (List.replicate 44 0) fun i => DHCP_MAGIC_COOKIE.getD i 0) 44 := by
    decide +kernel
  exact differs (alone true (List.replicate 44 0) _ _)

end Reads

end TcpIp
end SoftEther
