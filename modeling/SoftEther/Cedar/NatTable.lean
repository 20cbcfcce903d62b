import Mathlib.Data.List.Perm.Basic
import SoftEther.Library.Runs

/-!
# Session limits of the user-mode NAT

Every constructor of a NAT entry disconnects the oldest entry of the source address when there are
as many as an option of the hub allows.  `CreateNatUdp` asks whether the option for TCP is set, and
then compares with the one for UDP.
-/

namespace SoftEther.NatTable

open Library

def NAT_MAX_SESSIONS : Nat := 4096

def NAT_MAX_SESSIONS_KERNEL : Nat := 65536

inductive NatProtocol
  | tcp
  | udp
  | dns
  | icmp
  deriving DecidableEq

/-- The `SecureNAT_` options of `HUB_OPTION`. -/
structure HubOption where
  maxTcpSessionsPerIp : Nat
  maxTcpSynSentPerIp : Nat
  maxUdpSessionsPerIp : Nat
  maxDnsSessionsPerIp : Nat
  maxIcmpSessionsPerIp : Nat

/-- The addresses and ports of an entry. -/
structure NatFlow where
  srcIp : UInt32
  srcPort : UInt32
  destIp : UInt32
  destPort : UInt32
  deriving DecidableEq

/-- The fields of `NAT_ENTRY` that the limits depend on. -/
structure NatEntry where
  id : Nat
  protocol : NatProtocol
  flow : NatFlow
  lastCommTime : UInt64
  /-- `TcpStatus == NAT_TCP_CONNECTING`. -/
  tcpConnecting : Bool := true
  disconnectNow : Bool := false
  deriving DecidableEq

/-- `VH`. -/
structure VirtualHost where
  useNat : Bool
  nativeNat : Option Nat
  counter : Nat
  now : UInt64
  natTable : List NatEntry

/-- An entry that `GetNumNatEntriesPerIp` counts. -/
def NatEntry.counted
    (e : NatEntry)
    (ip : UInt32)
    (protocol : NatProtocol)
    (tcpSynSent : Bool) :
    Bool :=
  !e.disconnectNow && e.flow.srcIp == ip && e.protocol == protocol &&
    (protocol != .tcp || e.tcpConnecting == tcpSynSent)

namespace VirtualHost

def canCreateNewNatEntry (v : VirtualHost) : Bool :=
  v.useNat &&
    match v.nativeNat with
    | some num => num ≤ NAT_MAX_SESSIONS_KERNEL
    | none => v.natTable.length ≤ NAT_MAX_SESSIONS

def getNumNatEntriesPerIp
    (v : VirtualHost)
    (ip : UInt32)
    (protocol : NatProtocol)
    (tcpSynSent : Bool) :
    Nat :=
  v.natTable.countP (·.counted ip protocol tcpSynSent)

/-- The loop of `GetOldestNatEntryOfIp` from an index on. -/
def oldestFrom (ip : UInt32) (protocol : NatProtocol) :
    List NatEntry → (i : Nat) → (oldest : Option Nat) → (oldestTick : UInt64) → Option Nat
  | [], _, oldest, _ => oldest
  | e :: rest, i, oldest, oldestTick =>
      if e.counted ip protocol false && e.lastCommTime ≤ oldestTick then
        oldestFrom ip protocol rest (i + 1) (some i) e.lastCommTime
      else oldestFrom ip protocol rest (i + 1) oldest oldestTick

/-- The index of the entry that `GetOldestNatEntryOfIp` returns. -/
def getOldestNatEntryOfIp (v : VirtualHost) (ip : UInt32) (protocol : NatProtocol) : Option Nat :=
  oldestFrom ip protocol v.natTable 0 none 0xFFFFFFFFFFFFFFFF

def disconnectNatEntryNow (v : VirtualHost) (i : Nat) : VirtualHost :=
  { v with natTable := v.natTable.modify i fun e => { e with disconnectNow := true } }

/-- What the constructors share: an option is tested, and the number of entries is compared with an
option, before the entry is added. -/
def createLimited
    (options : Option HubOption)
    (v : VirtualHost)
    (protocol : NatProtocol)
    (flow : NatFlow)
    (tested limit : HubOption → Nat) :
    Option VirtualHost :=
  if v.canCreateNewNatEntry then
    let limited :=
      match options with
      | none => v
      | some o =>
          if tested o ≠ 0 ∧ limit o ≤ v.getNumNatEntriesPerIp flow.srcIp protocol false then
            match v.getOldestNatEntryOfIp flow.srcIp protocol with
            | some oldest => v.disconnectNatEntryNow oldest
            | none => v
          else v
    let n : NatEntry :=
      { id := v.counter + 1, protocol := protocol, flow := flow, lastCommTime := v.now }
    some { limited with counter := v.counter + 1, natTable := limited.natTable ++ [n] }
  else none

def createNatTcp
    (options : Option HubOption)
    (v : VirtualHost)
    (flow : NatFlow) :
    Option VirtualHost :=
  if options.any fun o => o.maxTcpSynSentPerIp ≠ 0 ∧
      o.maxTcpSynSentPerIp ≤ v.getNumNatEntriesPerIp flow.srcIp .tcp true then
    none
  else createLimited options v .tcp flow (·.maxTcpSessionsPerIp) (·.maxTcpSessionsPerIp)

/-- The option that is tested is the one of TCP. -/
def createNatUdp
    (options : Option HubOption)
    (v : VirtualHost)
    (flow : NatFlow) :
    Option VirtualHost :=
  createLimited options v .udp flow (·.maxTcpSessionsPerIp) (·.maxUdpSessionsPerIp)

def createNatDns
    (options : Option HubOption)
    (v : VirtualHost)
    (flow : NatFlow) :
    Option VirtualHost :=
  createLimited options v .dns flow (·.maxDnsSessionsPerIp) (·.maxDnsSessionsPerIp)

def createNatIcmp
    (options : Option HubOption)
    (v : VirtualHost)
    (flow : NatFlow) :
    Option VirtualHost :=
  createLimited options v .icmp flow (·.maxIcmpSessionsPerIp) (·.maxIcmpSessionsPerIp)

end VirtualHost

/-- What happens to the table. -/
inductive NatEvent
  /-- A packet asks for an entry. -/
  | create (protocol : NatProtocol) (flow : NatFlow)
  | communicated (i : Nat) (tcpConnecting : Bool)
  /-- An entry is to be disconnected. -/
  | finished (i : Nat)
  | deleted (i : Nat)
  /-- `Search` sorts the table. -/
  | sorted (table : List NatEntry)
  | environment (useNat : Bool) (nativeNat : Option Nat) (now : UInt64)

/-- The constructor of a protocol. -/
def createNat
    (options : Option HubOption)
    (v : VirtualHost)
    (protocol : NatProtocol)
    (flow : NatFlow) :
    Option VirtualHost :=
  match protocol with
  | .tcp => v.createNatTcp options flow
  | .udp => v.createNatUdp options flow
  | .dns => v.createNatDns options flow
  | .icmp => v.createNatIcmp options flow

/-- A constructor that fails changes nothing. -/
def step (options : Option HubOption) (v : VirtualHost) : NatEvent → Option VirtualHost
  | .create protocol flow => some ((createNat options v protocol flow).getD v)
  | .communicated i tcpConnecting =>
      some { v with natTable := v.natTable.modify i fun e =>
        { e with lastCommTime := v.now, tcpConnecting := tcpConnecting } }
  | .finished i => some (v.disconnectNatEntryNow i)
  | .deleted i => some { v with natTable := v.natTable.eraseIdx i }
  | .sorted table =>
      if table.isPerm v.natTable then some { v with natTable := table } else none
  | .environment useNat nativeNat now =>
      some { v with useNat := useNat, nativeNat := nativeNat, now := now }

/-- The limit that the options set for a protocol; 0 is no limit. -/
def configured (options : Option HubOption) (protocol : NatProtocol) : Nat :=
  match options with
  | none => 0
  | some o =>
      match protocol with
      | .tcp => o.maxTcpSessionsPerIp
      | .udp => o.maxUdpSessionsPerIp
      | .dns => o.maxDnsSessionsPerIp
      | .icmp => o.maxIcmpSessionsPerIp

/-- No address has more live entries of a protocol than its limit. -/
def WithinLimits (options : Option HubOption) (v : VirtualHost) : Prop :=
  ∀ ip protocol, protocol ≠ .tcp → configured options protocol ≠ 0 →
    v.getNumNatEntriesPerIp ip protocol false ≤ configured options protocol

/-- Without a limit a new entry leaves the others as they are. -/
def KeepsOthers
    (options : Option HubOption)
    (v : VirtualHost)
    (protocol : NatProtocol)
    (flow : NatFlow) :
    Prop :=
  ∀ after, protocol ≠ .tcp → configured options protocol = 0 →
    step options v (.create protocol flow) = some after → v.natTable <+: after.natTable

/-- The option that the constructor tests is zero exactly when the limit is: a condition on UDP. -/
def Consistent (options : Option HubOption) (event : NatEvent) : Prop :=
  ∀ flow, event = .create .udp flow →
    ∀ o, options = some o → (o.maxTcpSessionsPerIp = 0 ↔ o.maxUdpSessionsPerIp = 0)

section

variable {table : List NatEntry} {change : NatEntry → NatEntry} {counts : NatEntry → Bool}

theorem countP_modify_le
    (fewer : ∀ e, counts (change e) = true → counts e = true)
    (i : Nat) :
    (table.modify i change).countP counts ≤ table.countP counts := by
  induction table generalizing i with
  | nil => simp
  | cons e rest inductionHypothesis =>
      cases i with
      | zero =>
          have same := fewer e
          simp only [List.modify_zero_cons, List.countP_cons]
          split
          case isTrue changed =>
            simp [same changed]
          case isFalse => exact Nat.le_add_right _ _
      | succ i =>
          have others := inductionHypothesis i
          simp only [List.modify_succ_cons, List.countP_cons]
          omega

theorem countP_modify_lt
    {i : Nat}
    {e : NatEntry}
    (found : table[i]? = some e)
    (counted : counts e = true)
    (gone : counts (change e) = false) :
    (table.modify i change).countP counts < table.countP counts := by
  induction table generalizing i with
  | nil => exact absurd found (by simp)
  | cons first rest inductionHypothesis =>
      cases i with
      | zero =>
          simp only [List.getElem?_cons_zero, Option.some.injEq] at found
          subst found
          simp [counted, gone]
      | succ i =>
          have others := inductionHypothesis found
          simp only [List.modify_succ_cons, List.countP_cons]
          omega

end

namespace VirtualHost

variable {v : VirtualHost} {ip : UInt32} {protocol : NatProtocol}

theorem oldestFrom_counted
    {entries : List NatEntry}
    {i : Nat}
    {oldest : Option Nat}
    {oldestTick : UInt64}
    (earlier : ∀ j, oldest = some j →
      ∃ e, v.natTable[j]? = some e ∧ e.counted ip protocol false = true)
    (behind : v.natTable.drop i = entries)
    (j : Nat)
    (found : oldestFrom ip protocol entries i oldest oldestTick = some j) :
    ∃ e, v.natTable[j]? = some e ∧ e.counted ip protocol false = true := by
  induction entries generalizing i oldest oldestTick with
  | nil => exact earlier j found
  | cons e rest inductionHypothesis =>
      have here : v.natTable[i]? = some e := by
        rw [← List.head?_drop, behind]
        rfl
      have next : v.natTable.drop (i + 1) = rest := by
        rw [← List.tail_drop, behind]
        rfl
      unfold oldestFrom at found
      split at found
      case isTrue older =>
        rw [Bool.and_eq_true] at older
        refine inductionHypothesis (fun j same => ⟨e, ?_, older.1⟩) next found
        rw [← Option.some.inj same]
        exact here
      case isFalse => exact inductionHypothesis earlier next found

theorem oldestFrom_some
    {entries : List NatEntry}
    {i oldest : Nat}
    {oldestTick : UInt64} :
    (oldestFrom ip protocol entries i (some oldest) oldestTick).isSome = true := by
  induction entries generalizing i oldest oldestTick with
  | nil => rfl
  | cons e rest inductionHypothesis =>
      unfold oldestFrom
      split <;> exact inductionHypothesis

theorem getOldestNatEntryOfIp_isSome
    (some_ : 0 < v.getNumNatEntriesPerIp ip protocol false) :
    (v.getOldestNatEntryOfIp ip protocol).isSome = true := by
  have found : ∀ entries i, 0 < entries.countP (·.counted ip protocol false) →
      (oldestFrom ip protocol entries i none 0xFFFFFFFFFFFFFFFF).isSome = true := by
    intro entries
    induction entries with
    | nil => exact fun _ positive => absurd positive (by simp)
    | cons e rest inductionHypothesis =>
        intro i positive
        have early : e.lastCommTime ≤ 0xFFFFFFFFFFFFFFFF :=
          UInt64.le_iff_toNat_le.mpr (Nat.le_of_lt_succ e.lastCommTime.toNat_lt)
        unfold oldestFrom
        split
        case isTrue => exact oldestFrom_some
        case isFalse other =>
          apply inductionHypothesis
          rw [decide_eq_true early, Bool.and_true] at other
          rwa [List.countP_cons, if_neg other] at positive
  exact found v.natTable 0 some_

theorem createLimited_cases
    {options : Option HubOption}
    {protocol : NatProtocol}
    {flow : NatFlow}
    {tested limit : HubOption → Nat}
    {after : VirtualHost}
    (created : v.createLimited options protocol flow tested limit = some after) :
    ∃ n : NatEntry, n.protocol = protocol ∧ n.flow = flow ∧
      (after.natTable = v.natTable ++ [n] ∧
          (∀ o, options = some o → tested o ≠ 0 →
            v.getNumNatEntriesPerIp flow.srcIp protocol false < limit o ∨
              v.getNumNatEntriesPerIp flow.srcIp protocol false = 0) ∨
        ∃ o i e, options = some o ∧ tested o ≠ 0 ∧ v.natTable[i]? = some e ∧
          e.counted flow.srcIp protocol false = true ∧
            after.natTable =
              v.natTable.modify i (fun e => { e with disconnectNow := true }) ++ [n]) := by
  unfold createLimited at created
  split at created
  case isFalse => exact absurd created (by simp)
  case isTrue =>
    rw [← Option.some.inj created]
    refine ⟨{ id := v.counter + 1, protocol := protocol, flow := flow, lastCommTime := v.now },
      rfl, rfl, ?_⟩
    cases options with
    | none => exact .inl ⟨rfl, by simp⟩
    | some o =>
        dsimp only
        by_cases full : tested o ≠ 0 ∧
            limit o ≤ v.getNumNatEntriesPerIp flow.srcIp protocol false
        · rw [if_pos full]
          cases oldest : v.getOldestNatEntryOfIp flow.srcIp protocol with
          | none =>
              refine .inl ⟨rfl, fun _ _ _ => .inr ?_⟩
              by_contra positive
              have found := getOldestNatEntryOfIp_isSome (Nat.pos_of_ne_zero positive)
              rw [oldest] at found
              exact absurd found (by simp)
          | some i =>
              obtain ⟨e, listed, counted⟩ := oldestFrom_counted (by simp) List.drop_zero i oldest
              exact .inr ⟨o, i, e, rfl, full.1, listed, counted, rfl⟩
        · rw [if_neg full]
          refine .inl ⟨rfl, fun other same testedOther => .inl ?_⟩
          rw [← Option.some.inj same] at testedOther ⊢
          exact Nat.lt_of_not_le fun reached => full ⟨testedOther, reached⟩

end VirtualHost

theorem counted_iff
    {e : NatEntry}
    {ip : UInt32}
    {protocol : NatProtocol}
    (other : protocol ≠ .tcp) :
    e.counted ip protocol false = true ↔
      e.disconnectNow = false ∧ e.flow.srcIp = ip ∧ e.protocol = protocol := by
  simp [NatEntry.counted, other, and_assoc]

theorem createNat_eq
    {protocol : NatProtocol}
    (other : protocol ≠ .tcp)
    {options : Option HubOption}
    {v : VirtualHost}
    {flow : NatFlow}
    (consistent : Consistent options (.create protocol flow)) :
    ∃ tested limit : HubOption → Nat,
      createNat options v protocol flow = v.createLimited options protocol flow tested limit ∧
        ∀ o, options = some o →
          limit o = configured options protocol ∧ (tested o = 0 ↔ limit o = 0) := by
  cases protocol with
  | tcp => exact absurd rfl other
  | udp =>
      exact ⟨_, _, rfl, by rintro o rfl; exact ⟨rfl, consistent flow rfl o rfl⟩⟩
  | dns => exact ⟨_, _, rfl, by rintro o rfl; exact ⟨rfl, Iff.rfl⟩⟩
  | icmp => exact ⟨_, _, rfl, by rintro o rfl; exact ⟨rfl, Iff.rfl⟩⟩

section

variable {options : Option HubOption} {v after : VirtualHost}

theorem createLimited_within
    {ip : UInt32}
    {protocol created_ : NatProtocol}
    {flow : NatFlow}
    {tested limit : HubOption → Nat}
    (other : protocol ≠ .tcp)
    (limited : configured options protocol ≠ 0)
    (admits : created_ = protocol → ∀ o, options = some o →
      limit o = configured options protocol ∧ (tested o = 0 ↔ limit o = 0))
    (within : v.getNumNatEntriesPerIp ip protocol false ≤ configured options protocol)
    (created : v.createLimited options created_ flow tested limit = some after) :
    after.getNumNatEntriesPerIp ip protocol false ≤ configured options protocol := by
  unfold VirtualHost.getNumNatEntriesPerIp at within ⊢
  obtain ⟨n, ownProtocol, ownFlow, ⟨table, room⟩ | ⟨o, i, e, _, _, listed, counted, table⟩⟩ :=
    VirtualHost.createLimited_cases created
  · rw [table, List.countP_append, List.countP_singleton]
    split
    case isFalse => exact within
    case isTrue own =>
      obtain ⟨_, address, same⟩ := (counted_iff other).mp own
      rw [ownProtocol] at same
      rw [ownFlow] at address
      subst same address
      cases options with
      | none => exact absurd rfl limited
      | some o =>
          obtain ⟨equal, tests⟩ := admits rfl o rfl
          rw [equal] at tests
          have room := room o rfl (tests.not.mpr limited)
          rw [equal] at room
          unfold VirtualHost.getNumNatEntriesPerIp at room
          omega
  · rw [table, List.countP_append, List.countP_singleton]
    split
    case isFalse =>
      refine Nat.le_trans (countP_modify_le (fun e kept => ?_) i) within
      exact absurd ((counted_iff other).mp kept).1 (by simp)
    case isTrue own =>
      obtain ⟨_, address, same⟩ := (counted_iff other).mp own
      rw [ownProtocol] at same
      rw [ownFlow] at address
      subst same address
      have gone : NatEntry.counted { e with disconnectNow := true } flow.srcIp created_ false =
          false := by
        rw [Bool.eq_false_iff, Ne, counted_iff other]
        simp
      exact Nat.le_trans (countP_modify_lt listed counted gone) within

theorem step_within
    {event : NatEvent}
    (within : WithinLimits options v)
    (consistent : Consistent options event)
    (stepped : step options v event = some after) :
    WithinLimits options after := by
  intro ip protocol other limited
  have before := within ip protocol other limited
  cases event with
  | create created flow =>
      cases made : createNat options v created flow with
      | none =>
          simp only [step, made, Option.getD_none, Option.some.injEq] at stepped
          rwa [← stepped]
      | some next =>
          simp only [step, made, Option.getD_some, Option.some.injEq] at stepped
          subst stepped
          by_cases tcp : created = .tcp
          · subst tcp
            change v.createNatTcp options flow = some next at made
            unfold VirtualHost.createNatTcp at made
            split at made
            case isTrue => exact nomatch made
            case isFalse =>
              exact createLimited_within other limited (fun same => absurd same.symm other)
                before made
          · obtain ⟨tested, limit, equal, admits⟩ := createNat_eq tcp consistent
            rw [equal] at made
            refine createLimited_within other limited (fun same => ?_) before made
            rw [← same]
            exact admits
  | communicated i tcpConnecting =>
      rw [← Option.some.inj stepped]
      refine Nat.le_trans (countP_modify_le (fun e => ?_) i) before
      rw [counted_iff other, counted_iff other]
      exact id
  | finished i =>
      rw [← Option.some.inj stepped]
      refine Nat.le_trans (countP_modify_le (fun e kept => ?_) i) before
      exact absurd ((counted_iff other).mp kept).1 (by simp)
  | deleted i =>
      rw [← Option.some.inj stepped]
      exact Nat.le_trans (List.eraseIdx_sublist _ i).countP_le before
  | sorted table =>
      simp only [step, Option.ite_none_right_eq_some, Option.some.injEq] at stepped
      obtain ⟨perm, rfl⟩ := stepped
      unfold VirtualHost.getNumNatEntriesPerIp
      rw [(List.isPerm_iff.mp perm).countP_eq]
      exact before
  | environment useNat nativeNat now =>
      rw [← Option.some.inj stepped]
      exact before

/-- A constructor without a limit disconnects nothing. -/
theorem create_keepsOthers
    {protocol : NatProtocol}
    {flow : NatFlow}
    (consistent : Consistent options (.create protocol flow)) :
    KeepsOthers options v protocol flow := by
  intro after other unlimited stepped
  cases made : createNat options v protocol flow with
  | none =>
      simp only [step, made, Option.getD_none, Option.some.injEq] at stepped
      subst stepped
      exact List.prefix_rfl
  | some next =>
      simp only [step, made, Option.getD_some, Option.some.injEq] at stepped
      subst stepped
      obtain ⟨tested, limit, equal, admits⟩ := createNat_eq other consistent
      rw [equal] at made
      obtain ⟨n, _, _, ⟨table, _⟩ | ⟨o, _, _, same, positive, _⟩⟩ :=
        VirtualHost.createLimited_cases made
      · exact ⟨[n], table.symm⟩
      · obtain ⟨exactly, tests⟩ := admits o same
        exact absurd (tests.mpr (exactly.trans unlimited)) positive

end

/-- **Session limits.**  In a run whose UDP entries are made under options that are both zero or
both not, no address has more entries than the limit of the protocol, and an entry without a limit
disconnects no other one. -/
theorem natTable_limits
    {options : Option HubOption}
    {start v : VirtualHost}
    (empty : start.natTable = [])
    (reached : Reaches (step options) (fun _ event => Consistent options event) start v) :
    WithinLimits options v ∧
      ∀ protocol flow, Consistent options (.create protocol flow) →
        KeepsOthers options v protocol flow := by
  refine ⟨?_, fun protocol flow consistent => create_keepsOthers consistent⟩
  apply reached.invariant (WithinLimits options)
  · intro ip protocol _ _
    unfold VirtualHost.getNumNatEntriesPerIp
    rw [empty]
    exact Nat.zero_le _
  · exact fun _ _ _ within consistent stepped => step_within within consistent stepped

/-- A NAT without entries. -/
def newNat : VirtualHost where
  useNat := true
  nativeNat := none
  counter := 0
  now := 1000
  natTable := []

/-- A UDP packet of 192.168.30.10 to the DNS server 8.8.8.8. -/
def udpFrom (srcPort : UInt32) : NatEvent :=
  .create .udp ⟨3232243210, srcPort, 134744072, 53⟩

/-- Three packets with a limit of two entries. -/
theorem natTable_limits_three :
    ∃ v, run (step (some ⟨5, 5, 2, 2, 2⟩)) [udpFrom 4001, udpFrom 4002, udpFrom 4003] newNat =
        some v ∧
      WithinLimits (some ⟨5, 5, 2, 2, 2⟩) v := by
  obtain ⟨v, ran⟩ : ∃ v, run (step (some ⟨5, 5, 2, 2, 2⟩))
      [udpFrom 4001, udpFrom 4002, udpFrom 4003] newNat = some v := ⟨_, rfl⟩
  have empty : newNat.natTable = [] := rfl
  refine ⟨v, ran, (natTable_limits empty (Reaches.of_allowed ran ?_)).1⟩
  intro event _ _ flow _ o same
  rw [← Option.some.inj same]
  decide

/-- With the limit of TCP at zero, a limit of one UDP entry is not enforced. -/
theorem not_natTable_limits :
    ¬∀ options start v, start.natTable = [] →
      Reaches (step options) (fun _ _ => True) start v →
        WithinLimits options v ∧ ∀ protocol flow, KeepsOthers options v protocol flow := by
  intro always
  obtain ⟨v, ran, two⟩ :
      ∃ v, run (step (some ⟨0, 0, 1, 0, 0⟩)) [udpFrom 4001, udpFrom 4002] newNat = some v ∧
        v.getNumNatEntriesPerIp 3232243210 .udp false = 2 := ⟨_, rfl, by decide +kernel⟩
  have within :=
    (always _ newNat v rfl (Reaches.of_run ran)).1 3232243210 .udp (by decide) (by decide)
  rw [two] at within
  exact absurd within (by decide)

end SoftEther.NatTable
