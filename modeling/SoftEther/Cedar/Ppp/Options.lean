import SoftEther.Cedar.Ppp.Request

/-!
# The options of IPCP

An option with an address is accepted only when it has the address that the server has chosen,
and an answer is an acknowledgement only when every option is accepted.
-/

namespace SoftEther
namespace Ppp

open Network

/-- What a client has put into an option. -/
def PppOption.content (opt : PppOption) : UInt8 × List UInt8 :=
  (opt.type, opt.data)

def NotAccepted (type : UInt8) (optionList : List PppOption) : Prop :=
  ∀ opt ∈ optionList, opt.type = type → opt.isAccepted = false

def AcceptedIs (type : UInt8) (ip : Ip) (optionList : List PppOption) : Prop :=
  ∀ opt ∈ optionList, opt.type = type → opt.isAccepted = true →
    opt.data = ip.addr.val ∧ isZeroIP ip = false

theorem map_content_modifyOption
    {change : PppOption → PppOption}
    (keeps : ∀ opt, (change opt).content = opt.content)
    (type : UInt8)
    (optionList : List PppOption) :
    (modifyOption type change optionList).map PppOption.content =
      optionList.map PppOption.content := by
  induction optionList with
  | nil => rfl
  | cons opt rest inductionHypothesis =>
      unfold modifyOption
      split
      · rw [List.map_cons, List.map_cons, keeps]
      · rw [List.map_cons, List.map_cons, inductionHypothesis]

theorem mem_modifyOption
    {type : UInt8}
    {change : PppOption → PppOption}
    {optionList : List PppOption}
    {opt : PppOption}
    (listed : opt ∈ modifyOption type change optionList) :
    opt ∈ optionList ∨
      ∃ first, getOptionValue optionList type = some first ∧ opt = change first := by
  induction optionList with
  | nil => exact nomatch listed
  | cons head rest inductionHypothesis =>
      unfold modifyOption at listed
      unfold getOptionValue
      split at listed
      · rename_i same
        rw [List.find?_cons_of_pos (by simpa using same)]
        rcases List.mem_cons.mp listed with changed | old
        · exact .inr ⟨head, rfl, changed⟩
        · exact .inl (List.mem_cons_of_mem head old)
      · rename_i other
        rw [List.find?_cons_of_neg (by simpa using other)]
        rcases List.mem_cons.mp listed with same | old
        · exact .inl (by rw [same]; exact List.mem_cons_self)
        · rcases inductionHypothesis old with kept | changed
          · exact .inl (List.mem_cons_of_mem head kept)
          · exact .inr changed

theorem type_getOptionValue
    {optionList : List PppOption}
    {type : UInt8}
    {opt : PppOption}
    (found : getOptionValue optionList type = some opt) :
    opt.type = type := by
  have passed := List.find?_some found
  simpa using passed

theorem content_isSupported (opt : PppOption) :
    PppOption.content { opt with isSupported := true } = opt.content :=
  rfl

theorem content_answerAddress (ip2 ip : Ip) (opt : PppOption) :
    (answerAddress ip2 ip opt).content = opt.content := by
  unfold answerAddress
  split
  · rfl
  · split <;> rfl

/-- Looking for an address leaves what the client has put into the options, and accepts
nothing. -/
theorem pppGetIPAddressValueFromLCP_keeps (optionList : List PppOption) (type : UInt8) :
    (pppGetIPAddressValueFromLCP optionList type).2.map PppOption.content =
        optionList.map PppOption.content ∧
      ∀ opt ∈ (pppGetIPAddressValueFromLCP optionList type).2,
        opt ∈ optionList ∨ ∃ first ∈ optionList, opt = { first with isSupported := true } := by
  unfold pppGetIPAddressValueFromLCP
  split
  · exact ⟨rfl, fun _ listed => .inl listed⟩
  · split
    · exact ⟨rfl, fun _ listed => .inl listed⟩
    · refine ⟨map_content_modifyOption content_isSupported type optionList, ?_⟩
      intro opt listed
      rcases mem_modifyOption listed with old | ⟨first, found, changed⟩
      · exact .inl old
      · exact .inr ⟨first, List.mem_of_find?_eq_some found, changed⟩

theorem pppGetIPAddressValueFromLCP_property
    {property : PppOption → Prop}
    (blind : ∀ opt, property opt → property { opt with isSupported := true })
    {optionList : List PppOption}
    (holds : ∀ opt ∈ optionList, property opt)
    (type : UInt8) :
    ∀ opt ∈ (pppGetIPAddressValueFromLCP optionList type).2, property opt := by
  intro opt listed
  rcases (pppGetIPAddressValueFromLCP_keeps optionList type).2 opt listed with
    old | ⟨first, inside, changed⟩
  · exact holds opt old
  · rw [changed]
    exact blind first (holds first inside)

theorem pppGetIPAddressValueFromLCP_found
    {optionList : List PppOption}
    {type : UInt8}
    {ip : Ip}
    {first : PppOption}
    (found : (pppGetIPAddressValueFromLCP optionList type).1 = some ip)
    (value : getOptionValue (pppGetIPAddressValueFromLCP optionList type).2 type = some first) :
    first.data = ip.addr.val := by
  have sameData : ∀ {optionList : List PppOption} {opt : PppOption},
      getOptionValue optionList type = some opt →
        getOptionValue (modifyOption type (fun opt => { opt with isSupported := true })
          optionList) type = some { opt with isSupported := true } := by
    intro optionList opt
    induction optionList with
    | nil => exact fun missing => nomatch missing
    | cons head rest inductionHypothesis =>
        intro first
        unfold getOptionValue at first
        unfold modifyOption getOptionValue
        by_cases same : head.type = type
        · rw [List.find?_cons_of_pos (by simpa using same)] at first
          injection first with first
          rw [if_pos same, List.find?_cons_of_pos (by simpa using same), first]
        · rw [List.find?_cons_of_neg (by simpa using same)] at first
          rw [if_neg same, List.find?_cons_of_neg (by simpa using same)]
          exact inductionHypothesis first
  unfold pppGetIPAddressValueFromLCP at found value
  cases present : getOptionValue optionList type with
  | none =>
      rw [present] at found
      exact nomatch found
  | some opt =>
      rw [present] at found value
      dsimp only at found value
      unfold ipOfData at found value
      split at found
      · exact nomatch found
      · rename_i read
        split at read
        · rename_i size
          injection found with found
          injection read with read
          rw [dif_pos size] at value
          dsimp only at value
          rw [sameData present] at value
          injection value with value
          rw [← value, ← found, ← read]
        · exact nomatch read

theorem NotAccepted.get
    {type : UInt8}
    {optionList : List PppOption}
    (refused : NotAccepted type optionList)
    (looked : UInt8) :
    NotAccepted type (pppGetIPAddressValueFromLCP optionList looked).2 :=
  pppGetIPAddressValueFromLCP_property (fun _ holds => holds) refused looked

theorem map_content_setIPAddressValue
    (optionList : List PppOption)
    (type : UInt8)
    (ip : Ip) :
    (pppSetIPAddressValueToLCP optionList type ip).map PppOption.content =
      optionList.map PppOption.content := by
  have kept := (pppGetIPAddressValueFromLCP_keeps optionList type).1
  unfold pppSetIPAddressValueToLCP
  generalize pppGetIPAddressValueFromLCP optionList type = got at kept
  obtain ⟨found, after⟩ := got
  cases found with
  | none => exact kept
  | some ip2 => exact (map_content_modifyOption (content_answerAddress ip2 ip) type after).trans kept

theorem NotAccepted.set
    {type : UInt8}
    {optionList : List PppOption}
    (refused : NotAccepted type optionList)
    (ip : Ip) :
    AcceptedIs type ip (pppSetIPAddressValueToLCP optionList type ip) := by
  have looked := refused.get type
  have value := @pppGetIPAddressValueFromLCP_found optionList type
  unfold pppSetIPAddressValueToLCP
  generalize pppGetIPAddressValueFromLCP optionList type = got at looked value
  obtain ⟨found, after⟩ := got
  intro opt listed same accepted
  cases found with
  | none =>
      rw [looked opt listed same] at accepted
      exact nomatch accepted
  | some ip2 =>
      rcases mem_modifyOption listed with old | ⟨first, present, changed⟩
      · rw [looked opt old same] at accepted
        exact nomatch accepted
      · have data := value rfl present
        rw [changed] at accepted ⊢
        unfold answerAddress at accepted ⊢
        split at accepted
        · exact nomatch accepted
        · rename_i nonzero
          split at accepted
          · rename_i equal
            have addr : ip2.addr = ip.addr := (of_decide_eq_true equal).1
            rw [if_neg nonzero, if_pos equal, ← addr]
            exact ⟨data, Bool.eq_false_of_not_eq_true nonzero⟩
          · exact nomatch accepted

theorem AcceptedIs.setOther
    {type other : UInt8}
    {ip : Ip}
    {optionList : List PppOption}
    (accepted : AcceptedIs type ip optionList)
    (different : type ≠ other)
    (otherIp : Ip) :
    AcceptedIs type ip (pppSetIPAddressValueToLCP optionList other otherIp) := by
  have looked : AcceptedIs type ip (pppGetIPAddressValueFromLCP optionList other).2 := by
    apply pppGetIPAddressValueFromLCP_property _ accepted
    intro opt holds
    exact holds
  unfold pppSetIPAddressValueToLCP
  generalize pppGetIPAddressValueFromLCP optionList other = got at looked
  obtain ⟨found, after⟩ := got
  cases found with
  | none => exact looked
  | some ip2 =>
      intro opt listed same
      rcases mem_modifyOption listed with old | ⟨first, present, changed⟩
      · exact looked opt old same
      · have sameType : opt.type = other := by
          rw [changed]
          exact (congrArg Prod.fst (content_answerAddress ip2 otherIp first)).trans
            (type_getOptionValue present)
        exact absurd (same.symm.trans sameType) different

theorem pppSetIPOptionToLCP_acceptedIs
    {optionList : List PppOption}
    (refused : NotAccepted PPP_IPCP_OPTION_IP optionList)
    (o : PppIpOption) :
    AcceptedIs PPP_IPCP_OPTION_IP o.ipAddress (pppSetIPOptionToLCP o optionList) :=
  ((((refused.set o.ipAddress).setOther (by decide) o.dnsServer1).setOther (by decide)
    o.dnsServer2).setOther (by decide) o.winsServer1).setOther (by decide) o.winsServer2

theorem map_content_setIPOption (o : PppIpOption) (optionList : List PppOption) :
    (pppSetIPOptionToLCP o optionList).map PppOption.content =
      optionList.map PppOption.content := by
  unfold pppSetIPOptionToLCP
  dsimp only
  rw [map_content_setIPAddressValue, map_content_setIPAddressValue,
    map_content_setIPAddressValue, map_content_setIPAddressValue, map_content_setIPAddressValue]

theorem pppGetIPOptionFromLCP_keeps
    {optionList : List PppOption}
    (refused : NotAccepted PPP_IPCP_OPTION_IP optionList) :
    (pppGetIPOptionFromLCP optionList).2.map PppOption.content =
        optionList.map PppOption.content ∧
      NotAccepted PPP_IPCP_OPTION_IP (pppGetIPOptionFromLCP optionList).2 := by
  unfold pppGetIPOptionFromLCP
  dsimp only
  constructor
  · rw [(pppGetIPAddressValueFromLCP_keeps _ _).1, (pppGetIPAddressValueFromLCP_keeps _ _).1,
      (pppGetIPAddressValueFromLCP_keeps _ _).1, (pppGetIPAddressValueFromLCP_keeps _ _).1,
      (pppGetIPAddressValueFromLCP_keeps _ _).1]
  · exact ((((refused.get _).get _).get _).get _).get _

theorem isAccepted_of_ack
    {id : UInt8}
    {optionList : List PppOption}
    (ack : (optionAnswer id optionList).code = PPP_LCP_CODE_ACK) :
    ∀ opt ∈ optionList, opt.isAccepted = true := by
  unfold optionAnswer at ack
  split at ack
  · have code : PPP_LCP_CODE_REJECT = PPP_LCP_CODE_ACK := ack
    exact absurd code (by decide)
  · split at ack
    · have code : PPP_LCP_CODE_NAK = PPP_LCP_CODE_ACK := ack
      exact absurd code (by decide)
    · rename_i all
      intro opt listed
      cases accepted : opt.isAccepted with
      | true => rfl
      | false =>
          refine absurd (List.any_eq_true.mpr ⟨opt, listed, ?_⟩) all
          simp [accepted]

end Ppp
end SoftEther
