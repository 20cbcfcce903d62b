import SoftEther.Library.KeyedTables
import SoftEther.Library.Runs
import SoftEther.Mayaqua.Buf
import SoftEther.Mayaqua.Memory
import SoftEther.Mayaqua.StrCmpi

/-!
# The limit of concurrent logins

The part of `ServerAccept` that counts the sessions of a user before it makes another
one, on a stand-alone server.  The lock of the hub is released while `SiEnumSessionMain`
enumerates the sessions, so that logins interleave between their enumeration and their
decision; a session is in the hub before its connection is in tunneling mode.

The comparison of sessions that keeps `SessionList` sorted is left out: the order of the
list does not matter to a count.
-/

namespace SoftEther
namespace MultiLogins

open Library

def MAX_USERNAME_LEN : Nat := 255

/-- `UniqueId` of `NODE_INFO`. -/
abbrev UniqueId := ByteArrayOf 16

/-- `IsZero` of an id. -/
def isZero (id : UniqueId) : Bool :=
  id.val.all (· = 0)

/-- The id of a `NODE_INFO` that has been cleared. -/
def zeroId : UniqueId :=
  ⟨List.replicate 16 0, length_zeros16⟩

def strLower (str : CString) : CString where
  bytes := str.bytes.map toLower
  noNul := by
    intro present
    obtain ⟨byte, listed, zero⟩ := List.mem_map.mp present
    have kept : ∀ byte : UInt8, toLower byte = 0 → byte = 0 :=
      forall_byte (by decide +kernel)
    exact str.noNul (kept byte zero ▸ listed)

/-- What the limit reads of a `SESSION` of the hub. -/
structure Session where
  /-- A record for the proofs: the sessions of the hub are numbered. -/
  serial : Nat
  username : CString
  /-- `node.UniqueId` in the thread of the session. -/
  clientId : UniqueId
  /-- `NodeInfo.UniqueId`. -/
  uniqueId : UniqueId := zeroId
  /-- `NormalClient`: `ServerAccept` has made the session. -/
  normalClient : Bool := true
  bridgeMode : Bool := false
  l3SwitchMode : Bool := false
  linkModeServer : Bool := false
  /-- The number of entries of `Connection->Tcp->TcpSockList`. -/
  numTcp : Nat := 0
  deriving DecidableEq

/-- `RPC_ENUM_SESSION_ITEM`. -/
structure EnumItem where
  /-- A record for the proofs: the number of the session. -/
  serial : Nat
  username : CString
  currentNumTcp : Nat
  linkMode : Bool
  bridgeMode : Bool
  layer3Mode : Bool
  uniqueId : UniqueId
  deriving DecidableEq

/-- What `SiEnumLocalSession` writes about a session. -/
def Session.item (s : Session) : EnumItem where
  serial := s.serial
  username := strCpy (MAX_USERNAME_LEN + 1) s.username
  currentNumTcp := s.numTcp
  linkMode := s.linkModeServer
  bridgeMode := s.bridgeMode
  layer3Mode := s.l3SwitchMode
  uniqueId := s.uniqueId

/-- A thread in `ServerAccept` whose user is authenticated. -/
structure Login where
  username : CString
  /-- `node.UniqueId`. -/
  uniqueId : UniqueId
  /-- `policy->MultiLogins`. -/
  multiLogins : Nat
  /-- `t.Sessions` after the enumeration. -/
  enumerated : Option (List EnumItem) := none
  deriving DecidableEq

structure Hub where
  /-- The option `max_multilogins_per_user` of `GetHubAdminOption`. -/
  maxMultiloginsPerUser : Nat
  sessionList : List Session := []
  logins : List Login := []
  numSessions : Nat := 0
  deriving DecidableEq

def Hub.maxLogins (h : Hub) (l : Login) : Nat :=
  if h.maxMultiloginsPerUser ≠ 0 then
    if l.multiLogins ≠ 0 then min l.multiLogins h.maxMultiloginsPerUser
    else h.maxMultiloginsPerUser
  else l.multiLogins

def Login.counts (l : Login) (e : EnumItem) : Bool :=
  e.bridgeMode = false ∧ e.layer3Mode = false ∧ e.linkMode = false ∧ e.currentNumTcp ≠ 0 ∧
    strCmpi e.username l.username = .eq ∧ (isZero e.uniqueId ∨ e.uniqueId ≠ l.uniqueId)

def Login.num (l : Login) (t : List EnumItem) : Nat :=
  t.countP l.counts

/-- The session that `ServerAccept` makes for a login. -/
def Hub.newServerSession (h : Hub) (l : Login) : Session where
  serial := h.numSessions
  username := strLower l.username
  clientId := l.uniqueId

def Hub.addSession (h : Hub) (s : Session) : Hub :=
  { h with sessionList := s :: h.sessionList, numSessions := h.numSessions + 1 }

/-- What the threads of a hub do. -/
inductive Event
  | arrive (l : Login)
  | enumerate (l : Login)
  /-- A login counts the sessions and decides with the lock of the hub; `accepted` says
  that the other limits of the server let it pass. -/
  | decide (l : Login) (accepted : Bool)
  /-- `NodeInfo` of a session is set. -/
  | receiveNode (s : Session)
  | tcp (s : Session) (numTcp : Nat)
  | leave (s : Session)
  /-- A session comes into the hub that `ServerAccept` has not made. -/
  | system (s : Session)

namespace Hub

/-- A login passes the limit, or it does not; without an enumeration it only passes when
there is no limit. -/
def passes (h : Hub) (l : Login) : Option Bool :=
  if h.maxLogins l = 0 then some true
  else
    match l.enumerated with
    | none => none
    | some t => some (l.num t < h.maxLogins l)

def step (h : Hub) : Event → Option Hub
  | .arrive l =>
      if l.enumerated = none then some { h with logins := l :: h.logins } else none
  | .enumerate l =>
      if l ∈ h.logins ∧ l.enumerated = none then
        some { h with logins :=
          { l with enumerated := some (h.sessionList.map Session.item) } :: h.logins.erase l }
      else none
  | .decide l accepted =>
      if l ∈ h.logins then
        match h.passes l with
        | none => none
        | some passed =>
            let decided := { h with logins := h.logins.erase l }
            some (if passed && accepted then decided.addSession (h.newServerSession l)
              else decided)
      else none
  | .receiveNode s =>
      if s ∈ h.sessionList then
        some { h with sessionList :=
          { s with uniqueId := s.clientId } :: h.sessionList.erase s }
      else none
  | .tcp s numTcp =>
      if s ∈ h.sessionList ∧ s.uniqueId = s.clientId then
        some { h with sessionList := { s with numTcp := numTcp } :: h.sessionList.erase s }
      else none
  | .leave s => some { h with sessionList := h.sessionList.erase s }
  | .system s =>
      if s.normalClient = false then some (h.addSession { s with serial := h.numSessions })
      else none

end Hub

theorem compareUpper_map_toLower (left right : List UInt8) :
    compareUpper (left.map toLower) right = compareUpper left right := by
  have upper : ∀ byte : UInt8, toUpper (toLower byte) = toUpper byte :=
    forall_byte (by decide +kernel)
  fun_induction compareUpper left right <;>
    simp_all [compareUpper]

/-- A name in small letters is the name. -/
theorem strCmpi_strLower (left right : CString) :
    strCmpi (strLower left) right = strCmpi left right :=
  compareUpper_map_toLower left.bytes right.bytes

theorem length_eq_of_compareUpper
    {left right : List UInt8}
    (leftNoNul : 0 ∉ left)
    (rightNoNul : 0 ∉ right)
    (same : compareUpper left right = .eq) :
    left.length = right.length := by
  fun_induction compareUpper left right with
  | case1 => rfl
  | case2 byte rest =>
      rw [compare_eq_iff_eq] at same
      simp only [List.mem_cons, not_or] at rightNoNul
      exact absurd same.symm (charValue_toUpper_ne_zero byte (Ne.symm rightNoNul.1))
  | case3 byte rest =>
      rw [compare_eq_iff_eq] at same
      simp only [List.mem_cons, not_or] at leftNoNul
      exact absurd same (charValue_toUpper_ne_zero byte (Ne.symm leftNoNul.1))
  | case4 left lefts right rights equal inductionHypothesis =>
      simp only [List.mem_cons, not_or] at leftNoNul rightNoNul
      simp [inductionHypothesis leftNoNul.2 rightNoNul.2 same]
  | case5 left lefts right rights different =>
      exact absurd same different

theorem strLen_eq_of_strCmpi
    {left right : CString}
    (same : strCmpi left right = .eq) :
    left.strLen = right.strLen :=
  length_eq_of_compareUpper left.noNul right.noNul same

/-! ## Sessions of a user -/

/-- `ServerAccept` has made the session for the user. -/
def Session.isOf (user : CString) (s : Session) : Bool :=
  s.normalClient && strCmpi s.username user = .eq

def Hub.sessionsOf (user : CString) (h : Hub) : List Session :=
  h.sessionList.filter (Session.isOf user)

/-- The logins of a user arrive with the limit of the user and with ids that no other login
and no session of the user has. -/
def ArrivesWith (user : CString) (limit : Nat) (h : Hub) : Event → Prop
  | .arrive l => strCmpi l.username user = .eq →
      h.maxLogins l = limit ∧ isZero l.uniqueId = false ∧
        (∀ other ∈ h.logins, strCmpi other.username user = .eq →
          other.uniqueId ≠ l.uniqueId) ∧
        ∀ s ∈ h.sessionsOf user, s.clientId ≠ l.uniqueId
  | _ => True

/-- A login of the user that the other limits let pass decides only when its enumeration has
met every session that the user has in the hub, with a TCP connection. -/
def HasMetAll (user : CString) (h : Hub) : Event → Prop
  | .decide l accepted => strCmpi l.username user = .eq → accepted = true →
      ∀ s ∈ h.sessionsOf user, ∃ e ∈ l.enumerated.getD [],
        e.serial = s.serial ∧ e.currentNumTcp ≠ 0
  | _ => True

instance (user : CString) (limit : Nat) (h : Hub) (event : Event) :
    Decidable (ArrivesWith user limit h event) := by
  cases event <;> unfold ArrivesWith <;> infer_instance

instance (user : CString) (h : Hub) (event : Event) : Decidable (HasMetAll user h event) := by
  cases event <;> unfold HasMetAll <;> infer_instance

/-- An item was written about a session. -/
structure EnumItem.Describes (e : EnumItem) (s : Session) : Prop where
  /-- The name is copied into the item. -/
  username : e.username = strCpy (MAX_USERNAME_LEN + 1) s.username
  modes : e.bridgeMode = s.bridgeMode ∧ e.layer3Mode = s.l3SwitchMode ∧
    e.linkMode = s.linkModeServer
  uniqueId : isZero e.uniqueId = true ∨ e.uniqueId = s.clientId

structure Session.Sound (s : Session) : Prop where
  /-- The sessions that `ServerAccept` makes are in no mode. -/
  modes : s.normalClient = true →
    s.bridgeMode = false ∧ s.l3SwitchMode = false ∧ s.linkModeServer = false
  uniqueId : s.normalClient = true → isZero s.uniqueId = true ∨ s.uniqueId = s.clientId

structure Hub.Enumerated (h : Hub) (t : List EnumItem) : Prop where
  serial : ∀ e ∈ t, e.serial < h.numSessions
  describes : ∀ e ∈ t, ∀ s ∈ h.sessionList, s.normalClient = true → e.serial = s.serial →
    e.Describes s

/-- What holds of a hub whose user has a limit. -/
structure Hub.Limited (user : CString) (limit : Nat) (h : Hub) : Prop where
  serials : UniqueKeys Session.serial h.sessionList
  numbered : ∀ s ∈ h.sessionList, s.serial < h.numSessions
  sessions : ∀ s ∈ h.sessionList, s.Sound
  enumerations : ∀ l ∈ h.logins, ∀ t, l.enumerated = some t → h.Enumerated t
  limits : ∀ l ∈ h.logins, strCmpi l.username user = .eq → h.maxLogins l = limit
  logins : h.logins.Pairwise fun l other => strCmpi l.username user = .eq →
    strCmpi other.username user = .eq → l.uniqueId ≠ other.uniqueId
  /-- The ids of the sessions. -/
  clients : ∀ l ∈ h.logins, strCmpi l.username user = .eq →
    ∀ s ∈ h.sessionsOf user, s.clientId ≠ l.uniqueId
  limited : (h.sessionsOf user).length ≤ limit

section

variable {user : CString}
variable {limit : Nat}
variable {h : Hub}

variable {l : Login}

theorem counts_of_describes
    {e : EnumItem}
    {s : Session}
    (fits : user.strLen ≤ MAX_USERNAME_LEN)
    (own : strCmpi l.username user = .eq)
    (isOf : s.isOf user = true)
    (sound : s.Sound)
    (describes : e.Describes s)
    (connected : e.currentNumTcp ≠ 0)
    (other : s.clientId ≠ l.uniqueId) :
    l.counts e = true := by
  obtain ⟨normal, named⟩ : s.normalClient = true ∧ strCmpi s.username user = .eq := by
    simpa [Session.isOf] using isOf
  obtain ⟨bridge, layer3, link⟩ := sound.modes normal
  have whole : e.username = s.username := by
    rw [describes.username, strCpy_of_le]
    rw [strLen_eq_of_strCmpi named]
    exact fits
  have sameName : strCmpi e.username l.username = .eq := by
    rw [whole]
    exact Std.TransCmp.eq_trans named (Std.OrientedCmp.eq_symm own)
  have new : isZero e.uniqueId = true ∨ e.uniqueId ≠ l.uniqueId := by
    cases describes.uniqueId with
    | inl zero => exact .inl zero
    | inr same => exact .inr (same ▸ other)
  simp [Login.counts, describes.modes, bridge, layer3, link, connected, sameName, new]

theorem length_sessionsOf_le_num
    {t : List EnumItem}
    (fits : user.strLen ≤ MAX_USERNAME_LEN)
    (limited : h.Limited user limit)
    (present : l ∈ h.logins)
    (own : strCmpi l.username user = .eq)
    (enumerated : l.enumerated = some t)
    (met : ∀ s ∈ h.sessionsOf user, ∃ e ∈ t, e.serial = s.serial ∧ e.currentNumTcp ≠ 0) :
    (h.sessionsOf user).length ≤ l.num t := by
  have unique : UniqueKeys Session.serial (h.sessionsOf user) :=
    limited.serials.sublist List.filter_sublist
  rw [Login.num, List.countP_eq_length_filter]
  apply unique.length_le
  intro s listed
  obtain ⟨e, item, same, connected⟩ := met s listed
  obtain ⟨inHub, isOf⟩ := List.mem_filter.mp listed
  have normal : s.normalClient = true := by
    simp only [Session.isOf, Bool.and_eq_true] at isOf
    exact isOf.1
  have describes := (limited.enumerations l present t enumerated).describes e item s inHub
    normal same
  have counted := counts_of_describes fits own isOf (limited.sessions s inHub) describes
    connected (limited.clients l present own s listed)
  exact ⟨e, List.mem_filter.mpr ⟨item, counted⟩, same⟩

/-! ## Steps -/

theorem limited_empty (maxMultiloginsPerUser : Nat) :
    ({ maxMultiloginsPerUser := maxMultiloginsPerUser } : Hub).Limited user limit where
  serials := List.nodup_nil
  numbered := fun _ listed => (nomatch listed)
  sessions := fun _ listed => (nomatch listed)
  enumerations := fun _ listed => (nomatch listed)
  limits := fun _ listed => (nomatch listed)
  logins := .nil
  clients := fun _ listed => (nomatch listed)
  limited := Nat.zero_le limit

theorem Hub.Limited.fewer
    {sessionList : List Session}
    {logins : List Login}
    (limited : h.Limited user limit)
    (sessions : sessionList.Sublist h.sessionList)
    (fewer : logins.Sublist h.logins) :
    ({ h with sessionList := sessionList, logins := logins } : Hub).Limited user limit where
  serials := limited.serials.sublist sessions
  numbered := fun s listed => limited.numbered s (sessions.subset listed)
  sessions := fun s listed => limited.sessions s (sessions.subset listed)
  enumerations := by
    intro l present t enumerated
    have before := limited.enumerations l (fewer.subset present) t enumerated
    exact ⟨before.serial, fun e item s listed =>
      before.describes e item s (sessions.subset listed)⟩
  limits := fun l present => limited.limits l (fewer.subset present)
  logins := limited.logins.sublist fewer
  clients := fun l present own s listed =>
    limited.clients l (fewer.subset present) own s ((sessions.filter _).subset listed)
  limited := (sessions.filter _).length_le.trans limited.limited

/-- A session may change what does not say whose it is. -/
theorem Hub.Limited.rewrite
    {old new : Session}
    (limited : h.Limited user limit)
    (present : old ∈ h.sessionList)
    (serial : new.serial = old.serial)
    (username : new.username = old.username)
    (clientId : new.clientId = old.clientId)
    (normalClient : new.normalClient = old.normalClient)
    (modes : new.bridgeMode = old.bridgeMode ∧ new.l3SwitchMode = old.l3SwitchMode ∧
      new.linkModeServer = old.linkModeServer)
    (sound : new.Sound) :
    ({ h with sessionList := new :: h.sessionList.erase old } : Hub).Limited user limit where
  serials := limited.serials.rewrite present serial
  numbered := by
    apply forall_mem_rewrite limited.numbered (.refl _)
    rw [serial]
    exact limited.numbered old present
  sessions := forall_mem_rewrite limited.sessions (.refl _) sound
  enumerations := by
    intro l login t enumerated
    have before := limited.enumerations l login t enumerated
    refine ⟨before.serial, fun e item => ?_⟩
    apply forall_mem_rewrite (before.describes e item) (.refl _)
    intro normal same
    have describes := before.describes e item old present (normalClient ▸ normal)
      (serial ▸ same)
    obtain ⟨bridge, layer3, link⟩ := modes
    refine ⟨?_, ?_, ?_⟩
    · rw [username]
      exact describes.username
    · rw [bridge, layer3, link]
      exact describes.modes
    · rw [clientId]
      exact describes.uniqueId
  limits := limited.limits
  logins := limited.logins
  clients := by
    intro l login own s listed
    obtain ⟨inHub, isOf⟩ := List.mem_filter.mp listed
    cases List.mem_cons.mp inHub with
    | inl same =>
        rw [same, Session.isOf, normalClient, username] at isOf
        rw [same, clientId]
        exact limited.clients l login own old (List.mem_filter.mpr ⟨present, isOf⟩)
    | inr kept =>
        exact limited.clients l login own s
          (List.mem_filter.mpr ⟨List.mem_of_mem_erase kept, isOf⟩)
  limited := by
    have counted := countP_rewrite (Session.isOf user) present (.refl (new :: _))
    have same : new.isOf user = old.isOf user := by
      rw [Session.isOf, Session.isOf, normalClient, username]
    rw [same] at counted
    have before := limited.limited
    rw [Hub.sessionsOf, ← List.countP_eq_length_filter] at before ⊢
    dsimp only
    omega

theorem Hub.Limited.addSession
    {s : Session}
    (limited : h.Limited user limit)
    (serial : s.serial = h.numSessions)
    (sound : s.Sound)
    (clients : s.isOf user = true → ∀ l ∈ h.logins, strCmpi l.username user = .eq →
      s.clientId ≠ l.uniqueId)
    (room : s.isOf user = true → (h.sessionsOf user).length < limit) :
    (h.addSession s).Limited user limit where
  serials := by
    apply limited.serials.cons
    intro other listed same
    have before := limited.numbered other listed
    omega
  numbered := by
    intro other listed
    change other.serial < h.numSessions + 1
    cases List.mem_cons.mp listed with
    | inl same =>
        rw [same, serial]
        exact Nat.lt_succ_self _
    | inr kept => exact Nat.lt_succ_of_lt (limited.numbered other kept)
  sessions := by
    intro other listed
    cases List.mem_cons.mp listed with
    | inl same => exact same ▸ sound
    | inr kept => exact limited.sessions other kept
  enumerations := by
    intro l present t enumerated
    have before := limited.enumerations l present t enumerated
    refine ⟨fun e item => Nat.lt_succ_of_lt (before.serial e item), ?_⟩
    intro e item other listed normal same
    cases List.mem_cons.mp listed with
    | inl new =>
        have earlier := before.serial e item
        rw [same, new, serial] at earlier
        exact absurd earlier (Nat.lt_irrefl _)
    | inr kept => exact before.describes e item other kept normal same
  limits := limited.limits
  logins := limited.logins
  clients := by
    intro l present own other listed
    obtain ⟨inHub, isOf⟩ := List.mem_filter.mp listed
    cases List.mem_cons.mp inHub with
    | inl same => exact same ▸ clients (same ▸ isOf) l present own
    | inr kept => exact limited.clients l present own other (List.mem_filter.mpr ⟨kept, isOf⟩)
  limited := by
    change ((s :: h.sessionList).filter _).length ≤ limit
    have before := limited.limited
    rw [Hub.sessionsOf] at before
    by_cases isOf : s.isOf user = true
    · rw [List.filter_cons_of_pos isOf, List.length_cons]
      exact room isOf
    · rw [List.filter_cons_of_neg isOf]
      exact before

theorem Hub.Limited.arrive
    (limited : h.Limited user limit)
    (arrives : ArrivesWith user limit h (.arrive l))
    (enumerated : l.enumerated = none) :
    ({ h with logins := l :: h.logins } : Hub).Limited user limit where
  serials := limited.serials
  numbered := limited.numbered
  sessions := limited.sessions
  enumerations := by
    intro other present t done
    cases List.mem_cons.mp present with
    | inl same =>
        rw [same, enumerated] at done
        exact nomatch done
    | inr kept =>
        have before := limited.enumerations other kept t done
        exact ⟨before.serial, before.describes⟩
  limits := by
    intro other present own
    cases List.mem_cons.mp present with
    | inl same => exact same ▸ (arrives (same ▸ own)).1
    | inr kept => exact limited.limits other kept own
  logins := by
    refine .cons ?_ limited.logins
    intro other present own otherOwn same
    exact (arrives own).2.2.1 other present otherOwn same.symm
  clients := by
    intro other present own
    cases List.mem_cons.mp present with
    | inl same => exact same ▸ (arrives (same ▸ own)).2.2.2
    | inr kept => exact limited.clients other kept own
  limited := limited.limited

theorem Hub.Limited.pairwise_cons_erase
    (limited : h.Limited user limit)
    (present : l ∈ h.logins) :
    (l :: h.logins.erase l).Pairwise fun l other => strCmpi l.username user = .eq →
      strCmpi other.username user = .eq → l.uniqueId ≠ other.uniqueId := by
  refine (List.perm_cons_erase present).pairwise limited.logins ?_
  intro _ _ apart own otherOwn
  exact (apart otherOwn own).symm

theorem Hub.Limited.enumerate
    (limited : h.Limited user limit)
    (present : l ∈ h.logins) :
    ({ h with logins :=
      { l with enumerated := some (h.sessionList.map Session.item) } :: h.logins.erase l }
        : Hub).Limited user limit where
  serials := limited.serials
  numbered := limited.numbered
  sessions := limited.sessions
  enumerations := by
    intro other listed t enumerated
    cases List.mem_cons.mp listed with
    | inl same =>
        rw [same] at enumerated
        injection enumerated with same
        rw [← same]
        constructor
        · intro e item
          obtain ⟨s, inHub, written⟩ := List.mem_map.mp item
          exact written ▸ limited.numbered s inHub
        · intro e item s inHub normal same
          obtain ⟨other, otherIn, written⟩ := List.mem_map.mp item
          have equal : other = s := by
            apply limited.serials.eq_of_key otherIn inHub
            rw [← same, ← written]
            rfl
          rw [← written, equal]
          exact ⟨rfl, ⟨rfl, rfl, rfl⟩, (limited.sessions s inHub).uniqueId normal⟩
    | inr kept =>
        have before := limited.enumerations other (List.mem_of_mem_erase kept) t enumerated
        exact ⟨before.serial, before.describes⟩
  limits := forall_mem_rewrite limited.limits (.refl _) (limited.limits l present)
  logins := by
    have split := List.pairwise_cons.mp (limited.pairwise_cons_erase present)
    exact .cons split.1 split.2
  clients := forall_mem_rewrite limited.clients (.refl _) (limited.clients l present)
  limited := limited.limited

theorem isOf_newServerSession {l : Login} :
    (h.newServerSession l).isOf user = true ↔ strCmpi l.username user = .eq := by
  simp [Session.isOf, Hub.newServerSession, strCmpi_strLower]

theorem Hub.Limited.decide
    {accepted : Bool}
    {after : Hub}
    (fits : user.strLen ≤ MAX_USERNAME_LEN)
    (positive : limit ≠ 0)
    (limited : h.Limited user limit)
    (met : HasMetAll user h (.decide l accepted))
    (stepped : h.step (.decide l accepted) = some after) :
    after.Limited user limit := by
  unfold Hub.step at stepped
  dsimp only at stepped
  split at stepped
  case isFalse => exact nomatch stepped
  case isTrue present =>
    have erased := limited.fewer (.refl h.sessionList) (@List.erase_sublist _ _ l h.logins)
    cases passed : h.passes l with
    | none =>
        rw [passed] at stepped
        exact nomatch stepped
    | some passes =>
        rw [passed] at stepped
        injection stepped with same
        rw [← same]
        split
        case isFalse => exact erased
        case isTrue both =>
          rw [Bool.and_eq_true] at both
          have zero : isZero zeroId = true := by decide
          refine erased.addSession (by rfl) ⟨fun _ => ⟨rfl, rfl, rfl⟩, fun _ => .inl zero⟩
            ?_ ?_
          · intro isOf other kept otherOwn
            have split := List.pairwise_cons.mp (limited.pairwise_cons_erase present)
            exact split.1 other kept (isOf_newServerSession.mp isOf) otherOwn
          · intro isOf
            have own := isOf_newServerSession.mp isOf
            have most := limited.limits l present own
            rw [both.1, Hub.passes, most, if_neg positive] at passed
            cases enumerated : l.enumerated with
            | none =>
                rw [enumerated] at passed
                exact nomatch passed
            | some t =>
                rw [enumerated] at passed
                injection passed with fewer
                refine Nat.lt_of_le_of_lt ?_ (of_decide_eq_true fewer)
                apply length_sessionsOf_le_num fits limited present own enumerated
                intro s listed
                have item := met own both.2 s listed
                rw [enumerated] at item
                exact item

theorem Hub.Limited.step
    {event : Event}
    {after : Hub}
    (fits : user.strLen ≤ MAX_USERNAME_LEN)
    (positive : limit ≠ 0)
    (limited : h.Limited user limit)
    (arrives : ArrivesWith user limit h event)
    (met : HasMetAll user h event)
    (stepped : h.step event = some after) :
    after.Limited user limit := by
  cases event with
  | arrive l =>
      unfold Hub.step at stepped
      dsimp only at stepped
      split at stepped
      case isTrue enumerated =>
        injection stepped with same
        exact same ▸ limited.arrive arrives enumerated
      case isFalse => exact nomatch stepped
  | enumerate l =>
      unfold Hub.step at stepped
      dsimp only at stepped
      split at stepped
      case isTrue present =>
        injection stepped with same
        exact same ▸ limited.enumerate present.1
      case isFalse => exact nomatch stepped
  | decide l accepted => exact limited.decide fits positive met stepped
  | receiveNode s =>
      unfold Hub.step at stepped
      dsimp only at stepped
      split at stepped
      case isTrue present =>
        injection stepped with same
        have sound := limited.sessions s present
        exact same ▸ limited.rewrite present rfl rfl rfl rfl ⟨rfl, rfl, rfl⟩
          ⟨sound.modes, fun _ => .inr rfl⟩
      case isFalse => exact nomatch stepped
  | tcp s numTcp =>
      unfold Hub.step at stepped
      dsimp only at stepped
      split at stepped
      case isTrue present =>
        injection stepped with same
        have sound := limited.sessions s present.1
        exact same ▸ limited.rewrite present.1 rfl rfl rfl rfl ⟨rfl, rfl, rfl⟩
          ⟨sound.modes, sound.uniqueId⟩
      case isFalse => exact nomatch stepped
  | leave s =>
      injection stepped with same
      exact same ▸ limited.fewer List.erase_sublist (.refl h.logins)
  | system s =>
      unfold Hub.step at stepped
      dsimp only at stepped
      split at stepped
      case isTrue system =>
        injection stepped with same
        have other : ({ s with serial := h.numSessions } : Session).isOf user = false := by
          simp [Session.isOf, system]
        have foreign : ∀ {p : Prop},
            ({ s with serial := h.numSessions } : Session).isOf user = true → p :=
          fun isOf => absurd (other.symm.trans isOf) (by decide)
        have normal : ∀ {p : Prop}, s.normalClient = true → p :=
          fun isNormal => absurd (system.symm.trans isNormal) (by decide)
        exact same ▸ limited.addSession rfl ⟨normal, normal⟩ foreign foreign
      case isFalse => exact nomatch stepped

end

/-- The sessions of a user are as many as the limit at most, as long as every login of the
user has met every session that the user has when it decides. -/
theorem sessionsOf_le_limit
    {user : CString}
    {limit maxMultiloginsPerUser : Nat}
    {h : Hub}
    (fits : user.strLen ≤ MAX_USERNAME_LEN)
    (positive : limit ≠ 0)
    (reached : Reaches Hub.step
      (fun h event => ArrivesWith user limit h event ∧ HasMetAll user h event)
      { maxMultiloginsPerUser := maxMultiloginsPerUser } h) :
    (h.sessionsOf user).length ≤ limit := by
  have limited : h.Limited user limit := by
    apply reached.invariant (Hub.Limited user limit)
    · exact limited_empty maxMultiloginsPerUser
    · intro before event after limited admitted stepped
      exact limited.step fits positive admitted.1 admitted.2 stepped
  exact limited.limited

/-- The name of the user. -/
def guest : CString :=
  .ofAscii "guest"

/-- A login of the user, who may be logged in so many times. -/
def guestLogin (multiLogins : Nat) (number : UInt8) : Login where
  username := guest
  uniqueId := ⟨List.replicate 16 number, List.length_replicate⟩
  multiLogins := multiLogins

/-- A login of the user that has enumerated the sessions. -/
def enumeratedLogin (multiLogins : Nat) (number : UInt8) (t : List EnumItem) : Login :=
  { guestLogin multiLogins number with enumerated := some t }

def guestSession (serial : Nat) (number : UInt8) : Session where
  serial := serial
  username := guest
  clientId := ⟨List.replicate 16 number, List.length_replicate⟩

/-- The session of a login in tunneling mode. -/
def tunneling (serial : Nat) (number : UInt8) : Session :=
  { guestSession serial number with
    uniqueId := ⟨List.replicate 16 number, List.length_replicate⟩
    numTcp := 1 }

/-- A login comes when the session of the first one is in tunneling mode. -/
def oneAfterTheOther : List Event :=
  [.arrive (guestLogin 2 1), .enumerate (guestLogin 2 1),
    .decide (enumeratedLogin 2 1 []) true, .receiveNode (guestSession 0 1),
    .tcp { guestSession 0 1 with uniqueId := (guestLogin 2 1).uniqueId } 1,
    .arrive (guestLogin 2 2), .enumerate (guestLogin 2 2),
    .decide (enumeratedLogin 2 2 [(tunneling 0 1).item]) true]

/-- A user with two sessions, whose limit is 2. -/
theorem sessionsOf_le_limit_oneAfterTheOther :
    ∃ h, runChecked Hub.step
        (fun h event => decide (ArrivesWith guest 2 h event ∧ HasMetAll guest h event))
        oneAfterTheOther { maxMultiloginsPerUser := 0 } = some h ∧
      (h.sessionsOf guest).length = 2 ∧ (h.sessionsOf guest).length ≤ 2 := by
  have ran : ((runChecked Hub.step
      (fun h event => decide (ArrivesWith guest 2 h event ∧ HasMetAll guest h event))
      oneAfterTheOther { maxMultiloginsPerUser := 0 }).map fun h =>
        (h.sessionsOf guest).length) = some 2 := by
    decide +kernel
  obtain ⟨h, last, two⟩ := Option.map_eq_some_iff.mp ran
  have reached : Reaches Hub.step
      (fun h event => ArrivesWith guest 2 h event ∧ HasMetAll guest h event)
      { maxMultiloginsPerUser := 0 } h :=
    (Reaches.of_runChecked last).mono fun _ _ => of_decide_eq_true
  exact ⟨h, last, two, sessionsOf_le_limit (by decide) (by decide) reached⟩

/-- Two logins have enumerated the sessions before one of them decides. -/
def bothAtOnce : List Event :=
  [.arrive (guestLogin 1 1), .arrive (guestLogin 1 2), .enumerate (guestLogin 1 1),
    .enumerate (guestLogin 1 2), .decide (enumeratedLogin 1 1 []) true,
    .decide (enumeratedLogin 1 2 []) true]

/-- The logins that enumerate before one of them decides all pass the limit. -/
theorem bothAtOnce_exceeds_limit :
    ∃ h, Reaches Hub.step (ArrivesWith guest 1) { maxMultiloginsPerUser := 0 } h ∧
      ¬(h.sessionsOf guest).length ≤ 1 := by
  have ran : ((runChecked Hub.step (fun h event => decide (ArrivesWith guest 1 h event))
      bothAtOnce { maxMultiloginsPerUser := 0 }).map fun h =>
        (h.sessionsOf guest).length) = some 2 := by
    decide +kernel
  obtain ⟨h, last, two⟩ := Option.map_eq_some_iff.mp ran
  refine ⟨h, (Reaches.of_runChecked last).mono fun _ _ => of_decide_eq_true, ?_⟩
  rw [two]
  decide

end MultiLogins
end SoftEther
