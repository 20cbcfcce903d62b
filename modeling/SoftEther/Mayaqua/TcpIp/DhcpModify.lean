import SoftEther.Mayaqua.Fields

/-!
# Rewriting of DHCP packets

`DhcpModify`, which reads a packet at its pointer, and what of the memory behind the packet its
result depends on.
-/

namespace SoftEther
namespace TcpIp

/-- `sizeof(DHCPV4_HEADER)`. -/
def sizeofDhcpV4Header : Nat := 44

/-- `DHCP_MAGIC_COOKIE` as it lies in memory. -/
def DHCP_MAGIC_COOKIE : List UInt8 := [0x63, 0x82, 0x53, 0x63]

def DHCP_MIN_SIZE : Nat := 300

def DHCP_ID_MESSAGE_TYPE : UInt8 := 0x35

def DHCP_ID_GATEWAY_ADDR : UInt8 := 0x03

def DHCP_ID_DNS_ADDR : UInt8 := 0x06

def DHCP_ID_WINS_ADDR : UInt8 := 0x2c

def DHCP_ID_DOMAIN_NAME : UInt8 := 0x0f

def DHCP_ID_PRIVATE : UInt8 := 0xfa

def DHCP_OFFER : UInt8 := 2

def DHCP_ACK : UInt8 := 5

/-- The bytes from a pointer on. -/
abbrev Memory := Nat → UInt8

/-- A block of memory. -/
def region (memory : Memory) (start size : Nat) : List UInt8 :=
  (List.range size).map fun i => memory (start + i)

/-- The memory from a packet on, with what lies behind the packet. -/
def memoryOf (data : List UInt8) (behind : Memory) : Memory := fun i =>
  data[i]?.getD (behind (i - data.length))

structure DhcpOption where
  id : UInt8
  /-- `Data`, of `Size` bytes. -/
  data : List UInt8
  deriving DecidableEq

/-- `ReadBuf` into a block that has been zeroed. -/
def readPadded (b : List UInt8) (size : Nat) : List UInt8 :=
  b.take size ++ List.replicate (size - b.length) 0

/-- The branches of the loop of `ParseDhcpOptions` that take the data of an option: the last
option grows, or there is a new one. -/
def addDhcpOption (o : List DhcpOption) (c : UInt8) (data : List UInt8) : List DhcpOption :=
  match o.getLast? with
  | some last =>
      if c = DHCP_ID_PRIVATE then o.dropLast ++ [⟨last.id, last.data ++ data⟩]
      else o ++ [⟨c, data⟩]
  | none => o ++ [⟨c, data⟩]

/-- The loop of `ParseDhcpOptions`, with the number of its rounds. -/
def parseDhcpOptionsLoop : Nat → List DhcpOption → List UInt8 → List DhcpOption
  | fuel + 1, o, c :: sz :: b =>
      if c = 0xff then o
      else
        parseDhcpOptionsLoop fuel (addDhcpOption o c (readPadded b sz.toNat)) (b.drop sz.toNat)
  | _, o, _ => o

/-- The loop of `ParseDhcpOptions` from some options on.  Every round takes two bytes or more. -/
def parseDhcpOptionsFrom (o : List DhcpOption) (b : List UInt8) : List DhcpOption :=
  parseDhcpOptionsLoop b.length o b

def parseDhcpOptions (b : List UInt8) : List DhcpOption :=
  parseDhcpOptionsFrom [] b

/-- `GetDhcpOption`: the last one with the number. -/
def getDhcpOption (o : List DhcpOption) (id : UInt8) : Option DhcpOption :=
  (o.filter fun opt => opt.id = id).getLast?

/-- `Opcode` of `ParseDhcpOptionList`. -/
def opcodeOf (o : List DhcpOption) : UInt8 :=
  match getDhcpOption o DHCP_ID_MESSAGE_TYPE with
  | some a => if a.data.length = 1 then a.data.getD 0 0 else 0
  | none => 0

/-- The inner loop of `BuildDhcpOptionsBuf`, with the number of its rounds. -/
def buildMore : Nat → List UInt8 → List UInt8
  | 0, _ => []
  | fuel + 1, data =>
      if data = [] then []
      else
        DHCP_ID_PRIVATE :: UInt8.ofNat (min data.length 255) ::
          (data.take 255 ++ buildMore fuel (data.drop 255))

/-- What `BuildDhcpOptionsBuf` writes for an option. -/
def buildDhcpOption (d : DhcpOption) : List UInt8 :=
  d.id :: UInt8.ofNat (min d.data.length 255) ::
    (d.data.take 255 ++ buildMore d.data.length (d.data.drop 255))

def buildDhcpOptionsBuf (o : List DhcpOption) : List UInt8 :=
  o.flatMap buildDhcpOption ++ [0xff]

/-- The search for the magic cookie: the pointer behind it, and the size that is left. -/
def findCookie (memory : Memory) : Nat → Nat → Option (Nat × Nat)
  | _, 0 => none
  | ptr, size + 1 =>
      if size + 1 < 5 then none
      else if region memory ptr 4 = DHCP_MAGIC_COOKIE then some (ptr + 4, size + 1 - 4)
      else findCookie memory (ptr + 1) size

/-- An option stays in the packet. -/
def keepsOption (removeDefaultGatewayOnReply : Bool) (opcode : UInt8) (o : DhcpOption) : Bool :=
  ¬(removeDefaultGatewayOnReply ∧ (opcode = DHCP_OFFER ∨ opcode = DHCP_ACK) ∧
    (o.id = DHCP_ID_GATEWAY_ADDR ∨ o.id = DHCP_ID_DNS_ADDR ∨ o.id = DHCP_ID_WINS_ADDR ∨
      o.id = DHCP_ID_DOMAIN_NAME))

def keptOptions (removeDefaultGatewayOnReply : Bool) (o : List DhcpOption) : List DhcpOption :=
  o.filter (keepsOption removeDefaultGatewayOnReply (opcodeOf o))

/-- The padding of a packet. -/
def padDhcp (ret : List UInt8) : List UInt8 :=
  ret ++ List.replicate (DHCP_MIN_SIZE - ret.length) 0

/-- `DhcpModify` of the packet at the start of the memory: the new packet, or nothing when it is
invalid or does not change. -/
def dhcpModify (removeDefaultGatewayOnReply : Bool) (memory : Memory) (size : Nat) :
    Option (List UInt8) :=
  if size < sizeofDhcpV4Header then none
  else
    match findCookie memory sizeofDhcpV4Header size with
    | none => none
    | some (ptr, left) =>
        let opts := parseDhcpOptions (region memory ptr left)
        let ret := region memory 0 ptr ++
          buildDhcpOptionsBuf (keptOptions removeDefaultGatewayOnReply opts)
        if size ≠ ret.length ∨ region memory 0 ret.length ≠ ret then some (padDhcp ret) else none

variable {b : List UInt8} {c : UInt8} {sz : UInt8}

theorem parseDhcpOptionsLoop_enough
    {n m : Nat}
    (o : List DhcpOption)
    (enough : b.length ≤ n)
    (alsoEnough : b.length ≤ m) :
    parseDhcpOptionsLoop n o b = parseDhcpOptionsLoop m o b := by
  induction n generalizing m o b with
  | zero =>
      obtain rfl : b = [] := List.length_eq_zero_iff.mp (by omega)
      cases m with
      | zero => rfl
      | succ m => rfl
  | succ n inductionHypothesis =>
      cases b with
      | nil =>
          cases m with
          | zero => rfl
          | succ m => rfl
      | cons c rest =>
          cases m with
          | zero => exact absurd alsoEnough (by simp)
          | succ m =>
              cases rest with
              | nil => rfl
              | cons sz b =>
                  rw [List.length_cons, List.length_cons] at enough alsoEnough
                  unfold parseDhcpOptionsLoop
                  split
                  case isTrue => rfl
                  case isFalse =>
                    apply inductionHypothesis
                    · rw [List.length_drop]
                      omega
                    · rw [List.length_drop]
                      omega

theorem parseDhcpOptionsFrom_nil (o : List DhcpOption) : parseDhcpOptionsFrom o [] = o :=
  rfl

theorem parseDhcpOptionsFrom_single (o : List DhcpOption) (c : UInt8) :
    parseDhcpOptionsFrom o [c] = o :=
  rfl

theorem parseDhcpOptionsFrom_end (o : List DhcpOption) (b : List UInt8) :
    parseDhcpOptionsFrom o (0xff :: b) = o := by
  cases b with
  | nil => rfl
  | cons sz b =>
      unfold parseDhcpOptionsFrom
      rw [List.length_cons, List.length_cons, parseDhcpOptionsLoop, if_pos rfl]

theorem parseDhcpOptionsFrom_cons
    (option : c ≠ 0xff)
    (o : List DhcpOption)
    (sz : UInt8)
    (b : List UInt8) :
    parseDhcpOptionsFrom o (c :: sz :: b) =
      parseDhcpOptionsFrom (addDhcpOption o c (readPadded b sz.toNat)) (b.drop sz.toNat) := by
  have round : parseDhcpOptionsFrom o (c :: sz :: b) =
      parseDhcpOptionsLoop (b.length + 1) (addDhcpOption o c (readPadded b sz.toNat))
        (b.drop sz.toNat) :=
    if_neg option
  rw [round]
  apply parseDhcpOptionsLoop_enough
  · rw [List.length_drop]
    omega
  · exact le_rfl

theorem readPadded_append
    {size : Nat}
    (inside : size ≤ b.length)
    (e : List UInt8) :
    readPadded (b ++ e) size = readPadded b size := by
  unfold readPadded
  rw [List.take_append_of_le_length inside, List.length_append,
    Nat.sub_eq_zero_of_le (by omega), Nat.sub_eq_zero_of_le inside]

theorem readPadded_over
    {size : Nat}
    (beyond : b.length ≤ size)
    (e : List UInt8) :
    readPadded (b ++ e) size = b ++ readPadded e (size - b.length) := by
  unfold readPadded
  rw [List.take_append, List.take_of_length_le beyond, List.append_assoc, List.length_append,
    Nat.sub_add_eq]

theorem length_readPadded (b : List UInt8) (size : Nat) : (readPadded b size).length = size := by
  rw [readPadded, List.length_append, List.length_take, List.length_replicate]
  omega

inductive OptionsEnd where
  | marked
  | option
  | size
  | data (missing : Nat)
  deriving DecidableEq

/-- Where a block of options ends, with the number of rounds of a loop over it. -/
def optionsEndLoop : Nat → List UInt8 → OptionsEnd
  | _, [] => .option
  | _, [c] => if c = 0xff then .marked else .size
  | 0, _ => .option
  | fuel + 1, c :: sz :: b =>
      if c = 0xff then .marked
      else if b.length < sz.toNat then .data (sz.toNat - b.length)
      else optionsEndLoop fuel (b.drop sz.toNat)

def optionsEnd (b : List UInt8) : OptionsEnd :=
  optionsEndLoop b.length b

theorem optionsEndLoop_enough
    {n m : Nat}
    (enough : b.length ≤ n)
    (alsoEnough : b.length ≤ m) :
    optionsEndLoop n b = optionsEndLoop m b := by
  induction n generalizing m b with
  | zero =>
      obtain rfl : b = [] := List.length_eq_zero_iff.mp (by omega)
      cases m with
      | zero => rfl
      | succ m => rfl
  | succ n inductionHypothesis =>
      cases b with
      | nil =>
          cases m with
          | zero => rfl
          | succ m => rfl
      | cons c rest =>
          cases m with
          | zero => exact absurd alsoEnough (by simp)
          | succ m =>
              cases rest with
              | nil => rfl
              | cons sz b =>
                  rw [List.length_cons, List.length_cons] at enough alsoEnough
                  unfold optionsEndLoop
                  split
                  case isTrue => rfl
                  case isFalse =>
                    split
                    case isTrue => rfl
                    case isFalse =>
                      apply inductionHypothesis
                      · rw [List.length_drop]
                        omega
                      · rw [List.length_drop]
                        omega

theorem optionsEnd_cons
    (option : c ≠ 0xff)
    (inside : sz.toNat ≤ b.length) :
    optionsEnd (c :: sz :: b) = optionsEnd (b.drop sz.toNat) := by
  have round : optionsEnd (c :: sz :: b) = optionsEndLoop (b.length + 1) (b.drop sz.toNat) :=
    (if_neg option).trans (if_neg (by omega))
  rw [round]
  apply optionsEndLoop_enough
  · rw [List.length_drop]
    omega
  · exact le_rfl

theorem optionsEnd_over
    (option : c ≠ 0xff)
    (beyond : b.length < sz.toNat) :
    optionsEnd (c :: sz :: b) = .data (sz.toNat - b.length) :=
  (if_neg option).trans (if_pos beyond)

theorem optionsEnd_end (b : List UInt8) : optionsEnd (0xff :: b) = .marked := by
  cases b with
  | nil => rfl
  | cons sz b =>
      unfold optionsEnd
      rw [List.length_cons, List.length_cons, optionsEndLoop, if_pos rfl]

/-! ## What follows a block of options -/

theorem options_induction
    {motive : List UInt8 → Prop}
    (nil : motive [])
    (marked : ∀ b, motive (0xff :: b))
    (single : ∀ c, c ≠ 0xff → motive [c])
    (beyond : ∀ c sz b, c ≠ 0xff → b.length < sz.toNat → motive (c :: sz :: b))
    (option : ∀ c sz b, c ≠ 0xff → sz.toNat ≤ b.length → motive (b.drop sz.toNat) →
      motive (c :: sz :: b))
    (b : List UInt8) :
    motive b := by
  induction size : b.length using Nat.strong_induction_on generalizing b with
  | _ n inductionHypothesis =>
      cases b with
      | nil => exact nil
      | cons c rest =>
          by_cases isEnd : c = 0xff
          · rw [isEnd]
            exact marked rest
          · cases rest with
            | nil => exact single c isEnd
            | cons sz b =>
                by_cases inside : b.length < sz.toNat
                · exact beyond c sz b isEnd inside
                · refine option c sz b isEnd (by omega) (inductionHypothesis _ ?_ _ rfl)
                  rw [← size, List.length_drop, List.length_cons, List.length_cons]
                  omega

theorem parseDhcpOptionsFrom_append
    (option : c ≠ 0xff)
    (o : List DhcpOption)
    (inside : sz.toNat ≤ b.length)
    (e : List UInt8) :
    parseDhcpOptionsFrom o (c :: sz :: b ++ e) =
      parseDhcpOptionsFrom (addDhcpOption o c (readPadded b sz.toNat)) (b.drop sz.toNat ++ e) := by
  rw [List.cons_append, List.cons_append, parseDhcpOptionsFrom_cons option,
    readPadded_append inside, List.drop_append_of_le_length inside]

theorem parseDhcpOptionsFrom_marked
    (marked : optionsEnd b = .marked)
    (o : List DhcpOption)
    (e : List UInt8) :
    parseDhcpOptionsFrom o (b ++ e) = parseDhcpOptionsFrom o b := by
  induction b using options_induction generalizing o with
  | nil => exact nomatch marked
  | marked b => rw [List.cons_append, parseDhcpOptionsFrom_end, parseDhcpOptionsFrom_end]
  | single c option =>
      have size : optionsEnd [c] = .size := if_neg option
      rw [size] at marked
      exact nomatch marked
  | beyond c sz b option beyond =>
      rw [optionsEnd_over option beyond] at marked
      exact nomatch marked
  | option c sz b option inside inductionHypothesis =>
      rw [optionsEnd_cons option inside] at marked
      rw [parseDhcpOptionsFrom_append option o inside, inductionHypothesis marked,
        parseDhcpOptionsFrom_cons option]

theorem parseDhcpOptionsFrom_whole
    (whole : optionsEnd b = .option)
    (o : List DhcpOption)
    (e : List UInt8) :
    parseDhcpOptionsFrom o (b ++ e) = parseDhcpOptionsFrom (parseDhcpOptionsFrom o b) e := by
  induction b using options_induction generalizing o with
  | nil => rfl
  | marked b =>
      rw [optionsEnd_end] at whole
      exact nomatch whole
  | single c option =>
      have size : optionsEnd [c] = .size := if_neg option
      rw [size] at whole
      exact nomatch whole
  | beyond c sz b option beyond =>
      rw [optionsEnd_over option beyond] at whole
      exact nomatch whole
  | option c sz b option inside inductionHypothesis =>
      rw [optionsEnd_cons option inside] at whole
      rw [parseDhcpOptionsFrom_append option o inside, inductionHypothesis whole,
        parseDhcpOptionsFrom_cons option]

/-- The bytes that make a block of options whole. -/
def completion : OptionsEnd → List UInt8
  | .marked => []
  | .option => []
  | .size => [0]
  | .data missing => List.replicate missing 0

theorem optionsEnd_completion
    (unmarked : optionsEnd b ≠ .marked) :
    optionsEnd (b ++ completion (optionsEnd b)) = .option := by
  induction b using options_induction with
  | nil => rfl
  | marked b => exact absurd (optionsEnd_end b) unmarked
  | single c option =>
      have size : optionsEnd [c] = .size := if_neg option
      have inside : (0 : UInt8).toNat ≤ ([] : List UInt8).length := le_rfl
      rw [size]
      exact optionsEnd_cons option inside
  | beyond c sz b option beyond =>
      rw [optionsEnd_over option beyond]
      have filled : (b ++ List.replicate (sz.toNat - b.length) 0).length = sz.toNat := by
        rw [List.length_append, List.length_replicate]
        omega
      rw [completion, List.cons_append, List.cons_append, optionsEnd_cons option filled.ge,
        List.drop_eq_nil_of_le filled.le]
      rfl
  | option c sz b option inside inductionHypothesis =>
      rw [optionsEnd_cons option inside] at unmarked ⊢
      have longer : sz.toNat ≤ (b ++ completion (optionsEnd (b.drop sz.toNat))).length := by
        rw [List.length_append]
        omega
      rw [List.cons_append, List.cons_append, optionsEnd_cons option longer,
        List.drop_append_of_le_length inside]
      exact inductionHypothesis unmarked

theorem parseDhcpOptionsFrom_over
    {missing : Nat}
    (beyond : optionsEnd b = .data missing)
    (o : List DhcpOption) :
    ∃ (front : List DhcpOption) (last : DhcpOption),
      ∀ e : List UInt8, e.length ≤ missing + 1 →
        parseDhcpOptionsFrom o (b ++ e) =
          front ++ [⟨last.id, last.data ++ readPadded e missing⟩] := by
  induction b using options_induction generalizing o with
  | nil => exact nomatch beyond
  | marked b =>
      rw [optionsEnd_end] at beyond
      exact nomatch beyond
  | single c option =>
      have size : optionsEnd [c] = .size := if_neg option
      rw [size] at beyond
      exact nomatch beyond
  | beyond c sz b option short =>
      rw [optionsEnd_over option short] at beyond
      injection beyond with same
      obtain ⟨front, last, adds⟩ : ∃ (front : List DhcpOption) (last : DhcpOption),
          ∀ data : List UInt8,
            addDhcpOption o c (b ++ data) = front ++ [⟨last.id, last.data ++ data⟩] := by
        unfold addDhcpOption
        cases o.getLast? with
        | none => exact ⟨o, ⟨c, b⟩, fun data => rfl⟩
        | some last =>
            by_cases continues : c = DHCP_ID_PRIVATE
            · refine ⟨o.dropLast, ⟨last.id, last.data ++ b⟩, fun data => ?_⟩
              dsimp only
              rw [if_pos continues, List.append_assoc]
            · refine ⟨o, ⟨c, b⟩, fun data => ?_⟩
              dsimp only
              rw [if_neg continues]
      refine ⟨front, last, fun e atMost => ?_⟩
      have rest : ((b ++ e).drop sz.toNat).length ≤ 1 := by
        rw [List.length_drop, List.length_append]
        omega
      rw [List.cons_append, List.cons_append, parseDhcpOptionsFrom_cons option,
        readPadded_over (by omega), same, adds]
      generalize (b ++ e).drop sz.toNat = tail at rest
      cases tail with
      | nil => rfl
      | cons c others =>
          obtain rfl : others = [] := List.length_eq_zero_iff.mp (by simpa using rest)
          rfl
  | option c sz b option inside inductionHypothesis =>
      rw [optionsEnd_cons option inside] at beyond
      obtain ⟨front, last, reads⟩ :=
        inductionHypothesis beyond (addDhcpOption o c (readPadded b sz.toNat))
      refine ⟨front, last, fun e atMost => ?_⟩
      rw [parseDhcpOptionsFrom_append option o inside, reads e atMost]

end TcpIp
end SoftEther
