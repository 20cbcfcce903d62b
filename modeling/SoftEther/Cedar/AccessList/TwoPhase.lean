import Mathlib.Data.List.Find
import SoftEther.Cedar.AccessList.Defs

/-!
# The two phases of an access list

A packet meets the access list twice: when it is stored, the entries before the
first one with a destination user are scanned, and when it is forwarded, the
entries from there on.  Together both scans give the verdict of one scan from
left to right.  Two mechanisms stand beside the list and can only drop a
packet: the protocol filters of the hub and the redirection to a URL.
-/

namespace SoftEther
namespace AccessList

section

variable (userListContains : List UInt8 → UInt64 → Nat → Bool)

/-- Scanning stops here while the destination is not known. -/
def beforeDestUser (a : Access) : Bool :=
  a.destUsernameHash = 0

/-- The first active entry of the whole list that matches a packet whose source
and destination are known. -/
def firstMatch
    (hub : Hub)
    (srcSession destSession : Session)
    (p : Pkt) :
    Option Access :=
  hub.accessList.find?
    (isPacketMaskedByAccessList userListContains hub srcSession p
      destSession.asDestination)

/-- The verdict of one scan: the first matching entry decides, and a packet
that no entry matches passes. -/
def verdict
    (hub : Hub)
    (srcSession destSession : Session)
    (p : Pkt) :
    Bool :=
  match firstMatch userListContains hub srcSession destSession p with
  | some a => !a.discard
  | none => true

def passesBoth
    (hub : Hub)
    (srcSession destSession : Session)
    (p : Pkt) :
    Bool :=
  let stored :=
    applyAccessListToStoredPacket userListContains hub srcSession p
  stored.pass &&
    applyAccessListToForwardPacket userListContains hub stored.session
      destSession stored.packet

/-- A URL redirects the packet: the entry that matches it before any entry with
a destination user has one, or the session still redirects its first HTTP
access. -/
def redirected (hub : Hub) (srcSession : Session) (p : Pkt) : Bool :=
  ((hub.accessList.takeWhile beforeDestUser).find?
      (isPacketMaskedByAccessList userListContains hub srcSession p {})).any
    (fun a => redirectsByAccess a p) ||
  redirectsFirstTime srcSession p

variable {userListContains}

theorem isPacketMasked_destination
    {a : Access}
    (noDestUser : a.destUsernameHash = 0)
    (hub : Hub)
    (s : Session)
    (p : Pkt)
    (dest : Destination) :
    isPacketMaskedByAccessList userListContains hub s p dest a =
      isPacketMaskedByAccessList userListContains hub s p {} a := by
  have known : ∀ dest, destUserMatches userListContains hub a dest = true := by
    intro dest
    unfold destUserMatches
    rw [if_neg (not_not_intro noDestUser)]
  unfold isPacketMaskedByAccessList
  rw [known dest, known {}]

theorem isPacketMasked_afterFirstTime
    (hub : Hub)
    (s : Session)
    (p : Pkt)
    (dest : Destination) :
    isPacketMaskedByAccessList userListContains hub (afterFirstTime s p) p dest =
      isPacketMaskedByAccessList userListContains hub s p dest := by
  have sameNames : (afterFirstTime s p).usernameHash = s.usernameHash ∧
      (afterFirstTime s p).groupnameHash = s.groupnameHash ∧
      (afterFirstTime s p).normalClient = s.normalClient := by
    unfold afterFirstTime
    cases firstTimeHttpHeader s p with
    | none => exact ⟨rfl, rfl, rfl⟩
    | some header =>
        dsimp only
        split_ifs
        · exact ⟨rfl, rfl, rfl⟩
        · exact ⟨rfl, rfl, rfl⟩
  funext a
  unfold isPacketMaskedByAccessList srcUserMatches
  rw [sameNames.1, sameNames.2.1, sameNames.2.2]

theorem scanStored_eq
    (hub : Hub)
    (s : Session)
    (p : Pkt)
    (accessList : List Access) :
    scanStored userListContains hub s p accessList =
      (accessList.takeWhile beforeDestUser).find?
        (isPacketMaskedByAccessList userListContains hub s p {}) := by
  induction accessList with
  | nil => rfl
  | cons a rest inductionHypothesis =>
      unfold scanStored
      by_cases noDestUser : a.destUsernameHash = 0
      · have before : beforeDestUser a = true := decide_eq_true noDestUser
        rw [if_neg (not_not_intro noDestUser),
          List.takeWhile_cons_of_pos before, inductionHypothesis]
        by_cases masked :
            isPacketMaskedByAccessList userListContains hub s p {} a = true
        · rw [if_pos masked, List.find?_cons_of_pos masked]
        · rw [if_neg masked, List.find?_cons_of_neg masked]
      · have behind : ¬beforeDestUser a = true := by
          rw [beforeDestUser, decide_eq_true_eq]
          exact noDestUser
        rw [if_pos noDestUser, List.takeWhile_cons_of_neg behind]
        rfl

theorem scanForward_false
    (hub : Hub)
    (s : Session)
    (p : Pkt)
    (dest : Destination)
    (accessList : List Access) :
    scanForward userListContains hub s p dest false accessList =
      accessList.find?
        (isPacketMaskedByAccessList userListContains hub s p dest) := by
  induction accessList with
  | nil => rfl
  | cons a rest inductionHypothesis =>
      unfold scanForward
      simp only [ite_self, true_and]
      rw [inductionHypothesis]
      by_cases masked :
          isPacketMaskedByAccessList userListContains hub s p dest a = true
      · rw [if_pos masked, List.find?_cons_of_pos masked]
      · rw [if_neg masked, List.find?_cons_of_neg masked]

theorem scanForward_eq
    (hub : Hub)
    (s : Session)
    (p : Pkt)
    (dest : Destination)
    (accessList : List Access) :
    scanForward userListContains hub s p dest true accessList =
      (accessList.dropWhile beforeDestUser).find?
        (isPacketMaskedByAccessList userListContains hub s p dest) := by
  induction accessList with
  | nil => rfl
  | cons a rest inductionHypothesis =>
      by_cases noDestUser : a.destUsernameHash = 0
      · have before : beforeDestUser a = true := decide_eq_true noDestUser
        rw [List.dropWhile_cons_of_pos before, ← inductionHypothesis]
        conv_lhs => unfold scanForward
        simp only [noDestUser, ne_eq, not_true_eq_false, if_false,
          Bool.true_eq_false, false_and]
      · have behind : ¬beforeDestUser a = true := by
          rw [beforeDestUser, decide_eq_true_eq]
          exact noDestUser
        rw [List.dropWhile_cons_of_neg behind, ← scanForward_false]
        unfold scanForward
        simp only [if_pos noDestUser]

theorem firstMatch_eq
    (hub : Hub)
    (srcSession destSession : Session)
    (p : Pkt) :
    firstMatch userListContains hub srcSession destSession p =
      (scanStored userListContains hub srcSession p hub.accessList).or
        (scanForward userListContains hub srcSession p
          destSession.asDestination true hub.accessList) := by
  have earlySame :
      (hub.accessList.takeWhile beforeDestUser).find?
          (isPacketMaskedByAccessList userListContains hub srcSession p
            destSession.asDestination) =
        (hub.accessList.takeWhile beforeDestUser).find?
          (isPacketMaskedByAccessList userListContains hub srcSession p {}) := by
    apply List.find?_congr
    intro a present
    have before := List.mem_takeWhile_imp present
    exact isPacketMasked_destination (of_decide_eq_true before) hub srcSession p _
  rw [scanStored_eq, scanForward_eq, ← earlySame, ← List.find?_append,
    List.takeWhile_append_dropWhile]
  rfl

/-- A packet as `ParsePacket` leaves it: no access list has checked it. -/
def Pkt.parsed (p : Pkt) : Pkt :=
  { p with accessChecked := false }

private theorem redirected_eq
    (hub : Hub)
    (srcSession : Session)
    (p : Pkt) :
    redirected userListContains hub srcSession p =
      ((scanStored userListContains hub srcSession p hub.accessList).any
          (fun a => redirectsByAccess a p) ||
        redirectsFirstTime srcSession p) := by
  unfold redirected
  rw [scanStored_eq]

private theorem passesBoth_of_decided
    {hub : Hub}
    {srcSession destSession : Session}
    {p : Pkt}
    {a : Access}
    (unfiltered : filteredByOption hub.option p = false)
    (decided :
      scanStored userListContains hub srcSession p hub.accessList = some a) :
    passesBoth userListContains hub srcSession destSession p = true ↔
      redirected userListContains hub srcSession p = false ∧
        a.discard = false := by
  rw [redirected_eq, decided]
  unfold passesBoth applyAccessListToStoredPacket
  rw [if_neg (by rw [unfiltered]; simp), decided]
  have notScanned : ∀ session,
      applyAccessListToForwardPacket userListContains hub session destSession
        (p.check a) = true := fun _ => rfl
  dsimp only
  rw [notScanned, Option.any_some, Bool.and_true, decide_eq_true_eq]
  by_cases discards : a.discard = true
  · simp [discards]
  · by_cases firstTime : redirectsFirstTime srcSession p = true
    · simp [discards, firstTime]
    · simp [discards, firstTime]

private theorem passesBoth_of_undecided
    {hub : Hub}
    {srcSession destSession : Session}
    {p : Pkt}
    (unfiltered : filteredByOption hub.option p = false)
    (undecided :
      scanStored userListContains hub srcSession p hub.accessList = none) :
    passesBoth userListContains hub srcSession destSession p = true ↔
      redirected userListContains hub srcSession p = false ∧
        applyAccessListToForwardPacket userListContains hub srcSession destSession
          p = true := by
  have sameScan :
      applyAccessListToForwardPacket userListContains hub
          (afterFirstTime srcSession p) destSession p =
        applyAccessListToForwardPacket userListContains hub srcSession destSession
          p := by
    unfold applyAccessListToForwardPacket
    rw [scanForward_eq, scanForward_eq, isPacketMasked_afterFirstTime]
  rw [redirected_eq, undecided]
  unfold passesBoth applyAccessListToStoredPacket
  rw [if_neg (by rw [unfiltered]; simp), undecided]
  dsimp only
  rw [if_pos rfl, sameScan]
  cases redirectsFirstTime srcSession p <;> simp

/-- A parsed packet passes both phases exactly when no protocol filter of the
hub drops it, no URL redirects it, and the first active entry of the whole list
that matches it passes it or no entry matches it. -/
theorem passesBoth_iff
    (hub : Hub)
    (srcSession destSession : Session)
    (p : Pkt) :
    passesBoth userListContains hub srcSession destSession p.parsed = true ↔
      filteredByOption hub.option p.parsed = false ∧
        redirected userListContains hub srcSession p.parsed = false ∧
        verdict userListContains hub srcSession destSession p.parsed = true := by
  by_cases filtered : filteredByOption hub.option p.parsed = true
  · have dropped :
        passesBoth userListContains hub srcSession destSession p.parsed =
          false := by
      unfold passesBoth applyAccessListToStoredPacket
      rw [if_pos filtered]
      rfl
    rw [dropped, filtered]
    simp
  · have unfiltered : filteredByOption hub.option p.parsed = false := by
      simpa using filtered
    unfold verdict
    rw [firstMatch_eq]
    cases decided : scanStored userListContains hub srcSession p.parsed
        hub.accessList with
    | some a =>
        rw [passesBoth_of_decided unfiltered decided]
        simp [unfiltered]
    | none =>
        rw [passesBoth_of_undecided unfiltered decided, Option.none_or]
        simp only [unfiltered, true_and]
        rfl

end

def exampleSession : Session :=
  { usernameHash := 1, groupnameHash := 0, normalClient := true }

/-- An HTTP request from 10.0.0.2 to 10.0.0.1, "GET". -/
def exampleHttp : Pkt :=
  { macAddressSrc := ⟨[0, 172, 1, 2, 3, 4], rfl⟩
    macAddressDest := ⟨[0, 172, 5, 6, 7, 8], rfl⟩
    macProtocol := 2048
    l3 := .ipv4 { srcIP := 33554442, dstIP := 16777226, protocol := 6 }
    l4 := .tcp { srcPort := 49152, dstPort := 80, flag := 24 }
    payload := [71, 69, 84] }

/-- An entry that passes everything and redirects to "u". -/
def exampleRedirect : Access :=
  { active := true, discard := false, redirectUrl := ⟨[117], by decide⟩ }

/-- A session whose first HTTP access is redirected to "u". -/
def exampleFirstTime : Session :=
  { exampleSession with
    firstTimeHttpRedirect := true
    firstTimeHttpAccessCheckIp := 167772170
    firstTimeHttpRedirectUrl := ⟨[117], by decide⟩ }

/-- Both phases agree with one scan of the list on a packet. -/
def Agrees
    (hub : Hub)
    (srcSession destSession : Session)
    (p : Pkt) :
    Prop :=
  passesBoth (fun _ _ _ => false) hub srcSession destSession p = true ↔
    verdict (fun _ _ _ => false) hub srcSession destSession p = true

/-- The list alone does not decide: an option that filters IPv4, an entry that
redirects, and a session that redirects its first access each drop a packet
that the scan of the whole list passes. -/
theorem droppedBesideList :
    ¬Agrees { option := { filterIPv4 := true }, accessList := [] } exampleSession
        exampleSession exampleHttp ∧
      ¬Agrees { accessList := [exampleRedirect] } exampleSession exampleSession
        exampleHttp ∧
      ¬Agrees { accessList := [] } exampleFirstTime exampleSession
        exampleHttp := by
  unfold Agrees
  decide

end AccessList
end SoftEther
