import SoftEther.Cedar.Layer3.Defs
import SoftEther.Library.Runs

/-!
# The capacity of a layer-3 switch

The calls that change the interfaces and the routes of a switch.  `L3AddIf` compares the number
of routes with the limit on interfaces, so the interfaces stay within their limit as long as no
interface comes in when they have reached it.
-/

namespace SoftEther
namespace Layer3

open Library TcpIp

/-! ## The calls -/

def isSafeChar (c : UInt8) : Bool :=
  c ∈ ascii "ABCDEFGHIJKLMNOPQRSTUVWXYZabcdefghijklmnopqrstuvwxyz0123456789 ()-_#%&."

def isSafeStr (str : CString) : Bool :=
  str.bytes.all isSafeChar ∧ str.bytes.head? ≠ some 32 ∧ str.bytes.getLast? ≠ some 32

/-- The server capabilities that limit a switch. -/
structure Caps where
  /-- `i_max_l3_if`. -/
  maxL3If : Nat
  /-- `i_max_l3_table`. -/
  maxL3Table : Nat

/-- The interface that `L3AddIf` allocates. -/
def newL3If (hubname : CString) (ip subnet : UInt32) : L3If where
  hubName := strCpy (MAX_HUBNAME_LEN + 1) hubname
  ipAddress := ip
  subnetMask := subnet
  macAddress := macOf 0

def l3SearchIf (s : L3Sw) (hubname : CString) : Option L3If :=
  s.ifList.search (strCpy (MAX_HUBNAME_LEN + 1) hubname)

/-- `L3AddIf`: the switch, and whether an interface came in. -/
def l3AddIf
    (caps : Caps)
    (s : L3Sw)
    (hubname : Option CString)
    (ip subnet : UInt32) :
    L3Sw × Bool :=
  match hubname with
  | none => (s, false)
  | some hubname =>
      if isSafeStr hubname = false ∨ ip = 0 ∨ ip = allOnes then (s, false)
      else if caps.maxL3If ≤ s.tableList.num then (s, false)
      else if s.active then (s, false)
      else
        match l3SearchIf s hubname with
        | some _ => (s, false)
        | none => ({ s with ifList := s.ifList.insert (newL3If hubname ip subnet) }, true)

def l3DelIf (s : L3Sw) (hubname : Option CString) : L3Sw × Bool :=
  match hubname with
  | none => (s, false)
  | some hubname =>
      if s.active then (s, false)
      else
        match l3SearchIf s hubname with
        | none => (s, false)
        | some f => ({ s with ifList := s.ifList.delete f }, true)

def l3AddTable (caps : Caps) (s : L3Sw) (tbl : Option L3Table) : L3Sw × Bool :=
  match tbl with
  | none => (s, false)
  | some tbl =>
      if tbl.metric = 0 ∨ tbl.gatewayAddress = 0 ∨ tbl.gatewayAddress = allOnes then (s, false)
      else if caps.maxL3Table ≤ s.tableList.num then (s, false)
      else if s.active then (s, false)
      else
        match s.tableList.search tbl with
        | some _ => (s, false)
        | none => ({ s with tableList := s.tableList.insert tbl }, true)

def l3DelTable (s : L3Sw) (tbl : Option L3Table) : L3Sw × Bool :=
  match tbl with
  | none => (s, false)
  | some tbl =>
      if s.active then (s, false)
      else
        match s.tableList.search tbl with
        | none => (s, false)
        | some t => ({ s with tableList := s.tableList.delete t }, true)

/-- `L3SwStart`: the thread of the switch sets `Active`. -/
def l3SwStart (s : L3Sw) : L3Sw :=
  if s.active then s
  else if 1 ≤ s.ifList.num then { s with active := true } else s

def l3SwStop (s : L3Sw) : L3Sw :=
  { s with active := false }

/-- What is done to a switch. -/
inductive Call where
  | addIf (hubname : Option CString) (ip subnet : UInt32)
  | delIf (hubname : Option CString)
  | addTable (tbl : Option L3Table)
  | delTable (tbl : Option L3Table)
  | start
  | stop

/-- The switch after a call, and what the call returns; `L3SwStart` and `L3SwStop` return
nothing. -/
def answer (caps : Caps) (s : L3Sw) : Call → L3Sw × Bool
  | .addIf hubname ip subnet => l3AddIf caps s hubname ip subnet
  | .delIf hubname => l3DelIf s hubname
  | .addTable tbl => l3AddTable caps s tbl
  | .delTable tbl => l3DelTable s tbl
  | .start => (l3SwStart s, true)
  | .stop => (l3SwStop s, true)

/-- The switch after a call. -/
def step (caps : Caps) (s : L3Sw) (call : Call) : Option L3Sw :=
  some (answer caps s call).1

/-- The limits of a switch hold, and its interfaces and its routes are distinct. -/
structure WithinCaps (caps : Caps) (s : L3Sw) : Prop where
  ifs : s.ifList.num ≤ caps.maxL3If
  tables : s.tableList.num ≤ caps.maxL3Table
  hubNames : s.ifList.Distinct
  routes : s.tableList.items.Nodup

/-- The call adds an interface although there are as many as the capability allows. -/
def Exceeds (caps : Caps) (s : L3Sw) : Call → Prop
  | .addIf (some hubname) ip _ =>
      isSafeStr hubname = true ∧ ip ≠ 0 ∧ ip ≠ allOnes ∧ s.active = false ∧
        s.tableList.num < caps.maxL3If ∧ caps.maxL3If ≤ s.ifList.num ∧
        l3SearchIf s hubname = none
  | _ => False

/-- A call that returns false leaves both lists alone. -/
def FailureLeaves (caps : Caps) (s : L3Sw) : Prop :=
  ∀ call after, answer caps s call = (after, false) →
    after.ifList = s.ifList ∧ after.tableList = s.tableList

variable {caps : Caps}
variable {s : L3Sw}

theorem withinCaps_new (caps : Caps) : WithinCaps caps {} where
  ifs := Nat.zero_le _
  tables := Nat.zero_le _
  hubNames := KeyedList.Distinct.empty
  routes := List.nodup_nil

/-- An interface comes in while there are fewer than allowed. -/
theorem WithinCaps.addIf
    (within : WithinCaps caps s)
    {f : L3If}
    (room : s.ifList.num < caps.maxL3If)
    (searched : s.ifList.search f.hubName = none) :
    WithinCaps caps { s with ifList := s.ifList.insert f } where
  ifs := by
    rw [KeyedList.num_insert]
    exact room
  tables := within.tables
  hubNames := within.hubNames.insert searched
  routes := within.routes

theorem WithinCaps.delIf
    (within : WithinCaps caps s)
    (f : L3If) :
    WithinCaps caps { s with ifList := s.ifList.delete f } where
  ifs := Nat.le_trans (KeyedList.num_delete_le _ _) within.ifs
  tables := within.tables
  hubNames := within.hubNames.delete f
  routes := within.routes

/-- A route comes in while there are fewer than allowed. -/
theorem WithinCaps.addTable
    (within : WithinCaps caps s)
    {t : L3Table}
    (room : s.tableList.num < caps.maxL3Table)
    (searched : s.tableList.search t = none) :
    WithinCaps caps { s with tableList := s.tableList.insert t } where
  ifs := within.ifs
  tables := by
    rw [KeyedList.num_insert]
    exact room
  hubNames := within.hubNames
  routes := by
    rw [(s.tableList.insert_perm t).nodup_iff, List.nodup_cons]
    exact ⟨fun listed => KeyedList.search_complete searched listed rfl, within.routes⟩

theorem WithinCaps.delTable
    (within : WithinCaps caps s)
    (t : L3Table) :
    WithinCaps caps { s with tableList := s.tableList.delete t } where
  ifs := within.ifs
  tables := Nat.le_trans (KeyedList.num_delete_le _ _) within.tables
  hubNames := within.hubNames
  routes := within.routes.sublist List.erase_sublist

theorem WithinCaps.setActive
    (within : WithinCaps caps s)
    (active : Bool) :
    WithinCaps caps { s with active := active } where
  ifs := within.ifs
  tables := within.tables
  hubNames := within.hubNames
  routes := within.routes

/-! ## What a call can do -/

/-- What a call can do to a switch. -/
inductive Change (caps : Caps) (s : L3Sw) (call : Call) : L3Sw × Bool → Prop where
  | refused : ¬Exceeds caps s call → Change caps s call (s, false)
  | addIf (f : L3If) :
      s.ifList.search f.hubName = none →
      (Exceeds caps s call ↔ caps.maxL3If ≤ s.ifList.num) →
      Change caps s call ({ s with ifList := s.ifList.insert f }, true)
  | delIf (f : L3If) :
      ¬Exceeds caps s call →
      Change caps s call ({ s with ifList := s.ifList.delete f }, true)
  | addTable (t : L3Table) :
      s.tableList.search t = none →
      s.tableList.num < caps.maxL3Table →
      ¬Exceeds caps s call →
      Change caps s call ({ s with tableList := s.tableList.insert t }, true)
  | delTable (t : L3Table) :
      ¬Exceeds caps s call →
      Change caps s call ({ s with tableList := s.tableList.delete t }, true)
  | setActive (active : Bool) :
      ¬Exceeds caps s call →
      Change caps s call ({ s with active := active }, true)

theorem change_l3AddIf
    (caps : Caps)
    (s : L3Sw)
    (hubname : Option CString)
    (ip subnet : UInt32) :
    Change caps s (.addIf hubname ip subnet) (l3AddIf caps s hubname ip subnet) := by
  cases hubname with
  | none => exact .refused id
  | some name =>
      have exceeds_iff : Exceeds caps s (.addIf (some name) ip subnet) ↔
          isSafeStr name = true ∧ ip ≠ 0 ∧ ip ≠ allOnes ∧ s.active = false ∧
            s.tableList.num < caps.maxL3If ∧ caps.maxL3If ≤ s.ifList.num ∧
            l3SearchIf s name = none := .rfl
      dsimp only [l3AddIf]
      split
      case isTrue invalid =>
        refine .refused fun exceeds => ?_
        simp [exceeds_iff.mp exceeds] at invalid
      case isFalse valid =>
        split
        case isTrue full =>
          refine .refused fun exceeds => ?_
          have room := (exceeds_iff.mp exceeds).2.2.2.2.1
          omega
        case isFalse room =>
          split
          case isTrue active =>
            refine .refused fun exceeds => ?_
            simp [exceeds_iff.mp exceeds] at active
          case isFalse inactive =>
            split
            case h_1 found =>
              refine .refused fun exceeds => ?_
              exact nomatch found.symm.trans (exceeds_iff.mp exceeds).2.2.2.2.2.2
            case h_2 searched =>
              refine .addIf (newL3If name ip subnet) searched ?_
              simp only [not_or, Bool.not_eq_false] at valid
              simp [exceeds_iff, valid, inactive, searched, Nat.lt_of_not_le room]

theorem change_l3DelIf (caps : Caps) (s : L3Sw) (hubname : Option CString) :
    Change caps s (.delIf hubname) (l3DelIf s hubname) := by
  unfold l3DelIf
  split
  case h_1 => exact .refused id
  case h_2 =>
    split
    case isTrue => exact .refused id
    case isFalse =>
      split
      case h_1 => exact .refused id
      case h_2 f _ => exact .delIf f id

theorem change_l3AddTable (caps : Caps) (s : L3Sw) (tbl : Option L3Table) :
    Change caps s (.addTable tbl) (l3AddTable caps s tbl) := by
  unfold l3AddTable
  split
  case h_1 => exact .refused id
  case h_2 tbl =>
    split
    case isTrue => exact .refused id
    case isFalse =>
      split
      case isTrue => exact .refused id
      case isFalse room =>
        split
        case isTrue => exact .refused id
        case isFalse =>
          split
          case h_1 => exact .refused id
          case h_2 searched => exact .addTable tbl searched (Nat.lt_of_not_le room) id

theorem change_l3DelTable (caps : Caps) (s : L3Sw) (tbl : Option L3Table) :
    Change caps s (.delTable tbl) (l3DelTable s tbl) := by
  unfold l3DelTable
  split
  case h_1 => exact .refused id
  case h_2 =>
    split
    case isTrue => exact .refused id
    case isFalse =>
      split
      case h_1 => exact .refused id
      case h_2 t _ => exact .delTable t id

theorem change_l3SwStart (caps : Caps) (s : L3Sw) :
    Change caps s .start (l3SwStart s, true) := by
  unfold l3SwStart
  split
  case isTrue => exact .setActive s.active id
  case isFalse =>
    split
    case isTrue => exact .setActive true id
    case isFalse => exact .setActive s.active id

theorem change_answer (caps : Caps) (s : L3Sw) (call : Call) :
    Change caps s call (answer caps s call) := by
  cases call with
  | addIf hubname ip subnet => exact change_l3AddIf caps s hubname ip subnet
  | delIf hubname => exact change_l3DelIf caps s hubname
  | addTable tbl => exact change_l3AddTable caps s tbl
  | delTable tbl => exact change_l3DelTable caps s tbl
  | start => exact change_l3SwStart caps s
  | stop => exact .setActive false id

theorem WithinCaps.change_iff
    (within : WithinCaps caps s)
    {call : Call}
    {result : L3Sw × Bool}
    (change : Change caps s call result) :
    WithinCaps caps result.1 ↔ ¬Exceeds caps s call := by
  cases change with
  | refused allowed => exact iff_of_true within allowed
  | addIf f searched exceeds_iff =>
      rw [exceeds_iff, Nat.not_le]
      constructor
      · intro after
        have bound := after.ifs
        rw [KeyedList.num_insert] at bound
        exact bound
      · exact fun room => within.addIf room searched
  | delIf f allowed => exact iff_of_true (within.delIf f) allowed
  | addTable t searched room allowed => exact iff_of_true (within.addTable room searched) allowed
  | delTable t allowed => exact iff_of_true (within.delTable t) allowed
  | setActive active allowed => exact iff_of_true (within.setActive active) allowed

/-- A call that returns false changes nothing. -/
theorem failureLeaves (caps : Caps) (s : L3Sw) : FailureLeaves caps s := by
  intro call after answered
  have change := change_answer caps s call
  rw [answered] at change
  cases change
  exact ⟨rfl, rfl⟩

/-- As long as no interface comes in when there are as many as the capability allows, a switch
keeps within its limits, and calls that fail leave its lists alone. -/
theorem withinCaps_of_reaches
    {caps : Caps}
    {s : L3Sw}
    (reached : Reaches (step caps) (fun before call => ¬Exceeds caps before call) {} s) :
    WithinCaps caps s ∧ FailureLeaves caps s := by
  refine ⟨?_, failureLeaves caps s⟩
  refine reached.invariant (WithinCaps caps) (withinCaps_new caps) ?_
  intro before call after within allowed stepped
  injection stepped with same
  rw [← same]
  exact (within.change_iff (change_answer caps before call)).mpr allowed

instance (caps : Caps) (s : L3Sw) : (call : Call) → Decidable (Exceeds caps s call)
  | .addIf (some _) _ _ => inferInstanceAs (Decidable (_ ∧ _))
  | .addIf none _ _ => instDecidableFalse
  | .delIf _ => instDecidableFalse
  | .addTable _ => instDecidableFalse
  | .delTable _ => instDecidableFalse
  | .start => instDecidableFalse
  | .stop => instDecidableFalse

/-- The calls of `L3Test`. -/
def testCalls : List Call :=
  [.addIf (some (.ofAscii "DEFAULT")) 0x0101a8c0 0x00ffffff,
    .addIf (some (.ofAscii "DEFAULT2")) 0x0102a8c0 0x00ffffff, .start]

/-- A switch with both interfaces of `L3Test` is within the limits of a server. -/
theorem withinCaps_of_reaches_testCalls :
    ∃ s, run (step ⟨4096, 4096⟩) testCalls {} = some s ∧ s.ifList.num = 2 ∧
      WithinCaps ⟨4096, 4096⟩ s := by
  have ran : runChecked (step ⟨4096, 4096⟩)
      (fun before call => decide ¬Exceeds ⟨4096, 4096⟩ before call) testCalls {} =
        run (step ⟨4096, 4096⟩) testCalls {} := by
    decide +kernel
  refine ⟨_, rfl, by decide +kernel, (withinCaps_of_reaches ?_).1⟩
  exact (Reaches.of_runChecked (ran.trans rfl)).mono fun before call passed =>
    of_decide_eq_true passed

/-- The number of a letter of the alphabet as it stands in a name. -/
def letter (value : Nat) : UInt8 :=
  UInt8.ofNat (65 + value % 26)

def threeLetters (value : Nat) : CString :=
  .ofBuffer [letter (value / 676), letter (value / 26), letter value]

theorem charValue_letter :
    ∀ value < 26, charValue (toUpper (UInt8.ofNat (65 + value))) = 65 + (value : Int) := by
  decide +kernel

theorem letter_ne_zero : ∀ value < 26, UInt8.ofNat (65 + value) ≠ 0 := by
  decide +kernel

theorem bytes_threeLetters (value : Nat) :
    (threeLetters value).bytes = [letter (value / 676), letter (value / 26), letter value] := by
  apply CString.bytes_ofBuffer
  have nonzero : ∀ value, letter value ≠ 0 := fun value =>
    letter_ne_zero _ (Nat.mod_lt value (by decide))
  simp [Ne.symm (nonzero _)]

theorem eq_of_strCmpi_threeLetters
    {left right : Nat}
    (leftSmall : left < 17576)
    (rightSmall : right < 17576)
    (same : strCmpi (threeLetters left) (threeLetters right) = .eq) :
    left = right := by
  rw [strCmpi_eq] at same
  have values := Std.LawfulEqCmp.eq_of_compare same
  have upper : ∀ value, charValue (toUpper (letter value)) = 65 + ((value % 26 : Nat) : Int) :=
    fun value => charValue_letter _ (Nat.mod_lt value (by decide))
  simp only [upperValues, bytes_threeLetters, List.map_cons, List.map_nil, upper,
    List.cons_append, List.nil_append, List.cons.injEq] at values
  omega

/-- Short names are copied whole. -/
theorem strCpy_threeLetters (value : Nat) :
    strCpy (MAX_HUBNAME_LEN + 1) (threeLetters value) = threeLetters value := by
  apply CString.ext
  simp [strCpy, bytes_threeLetters, MAX_HUBNAME_LEN]

theorem isSafeStr_threeLetters (value : Nat) : isSafeStr (threeLetters value) = true := by
  have safe : ∀ value < 26, isSafeChar (UInt8.ofNat (65 + value)) = true ∧
      UInt8.ofNat (65 + value) ≠ 32 := by
    decide +kernel
  have letters : ∀ value, isSafeChar (letter value) = true ∧ letter value ≠ 32 :=
    fun value => safe _ (Nat.mod_lt value (by decide))
  simp [isSafeStr, bytes_threeLetters, letters]

theorem exists_interfaces
    {caps : Caps}
    (some_ : 0 < caps.maxL3If)
    (count : Nat)
    (small : count ≤ 17576) :
    ∃ s, Reaches (step caps) (fun _ _ => True) {} s ∧ s.ifList.num = count ∧
      s.tableList.num = 0 ∧ s.active = false ∧
      ∀ f ∈ s.ifList.items, ∃ value < count, f.hubName = threeLetters value := by
  induction count with
  | zero => exact ⟨{}, .start, rfl, rfl, rfl, by simp [KeyedList.empty]⟩
  | succ count inductionHypothesis =>
      obtain ⟨s, reached, num, noRoutes, inactive, names⟩ := inductionHypothesis (by omega)
      have searched : l3SearchIf s (threeLetters count) = none := by
        unfold l3SearchIf
        rw [strCpy_threeLetters]
        cases found : s.ifList.search (threeLetters count) with
        | none => rfl
        | some f =>
            obtain ⟨listed, same⟩ := KeyedList.search_sound_cmp found
            obtain ⟨value, below, name⟩ := names f listed
            rw [name] at same
            have equal := eq_of_strCmpi_threeLetters (by omega) (by omega) same
            omega
      have added : l3AddIf caps s (some (threeLetters count)) 1 0 =
          ({ s with ifList := s.ifList.insert (newL3If (threeLetters count) 1 0) }, true) := by
        have room : ¬caps.maxL3If ≤ s.tableList.num := by omega
        simp [l3AddIf, isSafeStr_threeLetters, allOnes, room, inactive, searched]
      have stepped : step caps s (.addIf (some (threeLetters count)) 1 0) =
          some { s with ifList := s.ifList.insert (newL3If (threeLetters count) 1 0) } := by
        rw [step, answer, added]
      refine ⟨_, reached.next trivial stepped, ?_, noRoutes, inactive, ?_⟩
      · rw [KeyedList.num_insert, num]
      · intro f listed
        obtain rfl | listed := List.mem_cons.mp ((KeyedList.insert_perm _ _).mem_iff.mp listed)
        · exact ⟨count, Nat.lt_succ_self count, strCpy_threeLetters count⟩
        · obtain ⟨value, below, name⟩ := names f listed
          exact ⟨value, Nat.lt_succ_of_lt below, name⟩

/-- A server takes 4097 interfaces into a switch without routes. -/
theorem not_withinCaps_manyInterfaces :
    ¬∀ s, Reaches (step ⟨4096, 4096⟩) (fun _ _ => True) {} s → WithinCaps ⟨4096, 4096⟩ s := by
  intro within
  have some_ : 0 < (⟨4096, 4096⟩ : Caps).maxL3If := by decide
  obtain ⟨s, reached, num, _⟩ := exists_interfaces some_ 4097 (by decide)
  have bound := (within s reached).ifs
  rw [num] at bound
  exact absurd bound (by decide)

end Layer3
end SoftEther
