import SoftEther.Cedar.Ike.Payloads

/-!
# Nesting of payloads

The payloads that `IkeParsePayloadListEx` hands to `IkeParsePayload`, the lists that these open,
and how deep the recursion goes.  Only the first type of a list inside a payload is given by the
code, the others by the bytes of the packet.
-/

namespace SoftEther
namespace Ike
namespace Payloads

open SaPackets

/-- `IkeParsePayload` finds nothing wrong.  A list inside the payload does not count. -/
def payloadOk (payloadType : UInt8) (b : List UInt8) : Bool :=
  if payloadType = IKE_PAYLOAD_SA then (saRest b).isSome
  else if payloadType = IKE_PAYLOAD_PROPOSAL then (proposalRest b).isSome
  else (ikeParseBody payloadType b).isSome

/-- The list that a payload opens, with its first type. -/
def opens (payload : PacketPayload) : Option (List UInt8 × UInt8) :=
  if payload.payloadType = IKE_PAYLOAD_SA then
    (saRest payload.bitArray).map (·, IKE_PAYLOAD_PROPOSAL)
  else if payload.payloadType = IKE_PAYLOAD_PROPOSAL then
    (proposalRest payload.bitArray).map (·, IKE_PAYLOAD_TRANSFORM)
  else none

/-- The payloads of a list that `IkeParsePayload` gets, up to the end of the list or to what is
wrong with it. -/
def reached (data : List UInt8) (payloadType : UInt8) : List PacketPayload :=
  if payloadType = IKE_PAYLOAD_NONE then []
  else
    match data with
    | nextPayload :: _ :: high :: low :: rest =>
        let payloadSize := 256 * high.toNat + low.toNat
        if payloadSize < 4 then []
        else if rest.length < payloadSize - 4 then []
        else
          let bitArray := rest.take (payloadSize - 4)
          if payloadOk payloadType bitArray then
            ⟨payloadType, bitArray⟩ :: reached (rest.drop (payloadSize - 4)) nextPayload
          else [⟨payloadType, bitArray⟩]
    | _ => []
termination_by data.length

theorem reached_noHeader
    {data : List UInt8}
    {payloadType : UInt8}
    (more : payloadType ≠ IKE_PAYLOAD_NONE)
    (noHeader : ∀ (nextPayload reserved high low : UInt8) (rest : List UInt8),
      data = nextPayload :: reserved :: high :: low :: rest → False) :
    reached data payloadType = [] := by
  unfold reached
  rw [if_neg more]
  split
  case h_1 header => exact absurd rfl (noHeader _ _ _ _ _)
  case h_2 => rfl

/-- A list is read to its end, and nothing is wrong with it. -/
def ReadWhole (list : List UInt8 × UInt8) : Prop :=
  (SaPackets.ikeParsePayloadListEx payloadOk list.2 list.1).1.isSome

/-- One of the payloads of a list opens another one. -/
def Opens (list inner : List UInt8 × UInt8) : Prop :=
  ∃ payload ∈ reached list.1 list.2, opens payload = some inner

/-- What `IkeParsePayload` makes of a payload, whatever the lists inside it are. -/
def ParsesLike (parse : UInt8 → List UInt8 → Except TooDeep (Option Payload)) : Prop :=
  ∀ payloadType b,
    parse payloadType b = .error .tooDeep ∨
    (payloadOk payloadType b = false ∧ parse payloadType b = .ok none) ∨
    (payloadOk payloadType b = true ∧ ∃ p, parse payloadType b = .ok (some p) ∧
      p.packetPayload = ⟨payloadType, b⟩)

section One

variable (list : List UInt8 → UInt8 → Except TooDeep (Option (List Payload)))

theorem ikeParsePayload_opens
    {payload : PacketPayload}
    {inner : List UInt8 × UInt8}
    (isOpen : opens payload = some inner) :
    payloadOk payload.payloadType payload.bitArray = true ∧
      ∃ p : Option (List Payload) → Payload,
        (∀ l, (p l).packetPayload = payload ∧ (p l).payloadList = l) ∧
        ikeParsePayload list payload.payloadType payload.bitArray =
          (list inner.1 inner.2).map fun l => some (p l) := by
  obtain ⟨payloadType, b⟩ := payload
  unfold opens at isOpen
  dsimp only at isOpen ⊢
  by_cases isSa : payloadType = IKE_PAYLOAD_SA
  · rw [if_pos isSa, Option.map_eq_some_iff] at isOpen
    obtain ⟨rest, found, rfl⟩ := isOpen
    subst isSa
    refine ⟨by rw [payloadOk, if_pos rfl, found]; rfl, fun l => .sa b l, fun l => ⟨rfl, rfl⟩, ?_⟩
    rw [ikeParsePayload, if_pos rfl, ikeParseSaPayload, found]
  · by_cases isProposal : payloadType = IKE_PAYLOAD_PROPOSAL
    · rw [if_neg isSa, if_pos isProposal, Option.map_eq_some_iff] at isOpen
      obtain ⟨rest, found, rfl⟩ := isOpen
      subst isProposal
      refine ⟨by rw [payloadOk, if_neg isSa, if_pos rfl, found]; rfl,
        fun l => .proposal b (b.getD 0 0) (b.getD 1 0) ((b.drop 4).take (b.getD 2 0).toNat) l,
        fun l => ⟨rfl, rfl⟩, ?_⟩
      rw [ikeParsePayload, if_neg isSa, if_pos rfl, ikeParseProposalPayload, found]
    · rw [if_neg isSa, if_neg isProposal] at isOpen
      exact nomatch isOpen

theorem ikeParsePayload_closed
    {payload : PacketPayload}
    (closed : opens payload = none) :
    (payloadOk payload.payloadType payload.bitArray = false ∧
      ikeParsePayload list payload.payloadType payload.bitArray = .ok none) ∨
    (payloadOk payload.payloadType payload.bitArray = true ∧
      ∃ p : Payload, p.packetPayload = payload ∧ p.payloadList = none ∧
        ikeParsePayload list payload.payloadType payload.bitArray = .ok (some p)) := by
  obtain ⟨payloadType, b⟩ := payload
  unfold opens at closed
  dsimp only at closed ⊢
  by_cases isSa : payloadType = IKE_PAYLOAD_SA
  · rw [if_pos isSa, Option.map_eq_none_iff] at closed
    left
    rw [payloadOk, if_pos isSa, closed, ikeParsePayload, if_pos isSa, ikeParseSaPayload, closed]
    exact ⟨rfl, rfl⟩
  · by_cases isProposal : payloadType = IKE_PAYLOAD_PROPOSAL
    · rw [if_neg isSa, if_pos isProposal, Option.map_eq_none_iff] at closed
      left
      rw [payloadOk, if_neg isSa, if_pos isProposal, closed, ikeParsePayload, if_neg isSa,
        if_pos isProposal, ikeParseProposalPayload, closed]
      exact ⟨rfl, rfl⟩
    · rw [payloadOk, if_neg isSa, if_neg isProposal, ikeParsePayload, if_neg isSa,
        if_neg isProposal]
      cases ikeParseBody payloadType b with
      | none => exact .inl ⟨rfl, rfl⟩
      | some body => exact .inr ⟨rfl, .other b payloadType body, rfl, rfl, rfl⟩

theorem parsesLike_ikeParsePayload : ParsesLike (ikeParsePayload list) := by
  intro payloadType b
  cases isOpen : opens ⟨payloadType, b⟩ with
  | some inner =>
      obtain ⟨ok, p, holds, parsed⟩ := ikeParsePayload_opens list isOpen
      dsimp only at ok parsed
      rw [parsed]
      cases list inner.1 inner.2 with
      | error deep =>
          cases deep with
          | tooDeep => exact .inl rfl
      | ok l => exact .inr (.inr ⟨ok, p l, rfl, (holds l).1⟩)
  | none =>
      rcases ikeParsePayload_closed list isOpen with ⟨bad, parsed⟩ | ⟨ok, p, flat, _, parsed⟩
      · exact .inr (.inl ⟨bad, parsed⟩)
      · exact .inr (.inr ⟨ok, p, parsed, flat⟩)

end One

/-! ## The parsing of a list -/

section Lists

variable {parse : UInt8 → List UInt8 → Except TooDeep (Option Payload)}

theorem ikeParsePayloadListLoop_cases
    (like : ParsesLike parse)
    (data : List UInt8)
    (payloadType : UInt8) :
    (ikeParsePayloadListLoop parse data payloadType = .error .tooDeep ∧
      ∃ e ∈ reached data payloadType, parse e.payloadType e.bitArray = .error .tooDeep) ∨
    (∃ l total, ikeParsePayloadListLoop parse data payloadType = .ok (l, total) ∧
      SaPackets.ikeParsePayloadListEx payloadOk payloadType data =
        (l.map (List.map Payload.packetPayload), total) ∧
      (∀ e ∈ reached data payloadType, parse e.payloadType e.bitArray ≠ .error .tooDeep) ∧
      ∀ ps, l = some ps →
        List.Forall₂ (fun e p => parse e.payloadType e.bitArray = .ok (some p))
          (reached data payloadType) ps) := by
  induction data, payloadType using reached.induct with
  | case1 data =>
      right
      unfold ikeParsePayloadListLoop SaPackets.ikeParsePayloadListEx reached
      rw [if_pos rfl, if_pos rfl, if_pos rfl]
      refine ⟨some [], 0, rfl, rfl, fun e inside => absurd inside List.not_mem_nil, ?_⟩
      rintro ps isSome
      injection isSome with isSome
      subst isSome
      exact .nil
  | case2 payloadType more nextPayload reserved high low rest payloadSize small =>
      right
      unfold ikeParsePayloadListLoop SaPackets.ikeParsePayloadListEx reached
      rw [if_neg more, if_neg more, if_neg more]
      dsimp only
      rw [if_pos small, if_pos small, if_pos small]
      exact ⟨none, 4, rfl, rfl, fun e inside => absurd inside List.not_mem_nil,
        fun ps isSome => nomatch isSome⟩
  | case3 payloadType more nextPayload reserved high low rest payloadSize large short =>
      right
      unfold ikeParsePayloadListLoop SaPackets.ikeParsePayloadListEx reached
      rw [if_neg more, if_neg more, if_neg more]
      dsimp only
      rw [if_neg large, if_neg large, if_neg large, if_pos short, if_pos short, if_pos short]
      exact ⟨none, 4, rfl, rfl, fun e inside => absurd inside List.not_mem_nil,
        fun ps isSome => nomatch isSome⟩
  | case4 payloadType more nextPayload reserved high low rest payloadSize large enough bitArray ok
      inductionHypothesis =>
      unfold ikeParsePayloadListLoop SaPackets.ikeParsePayloadListEx reached
      rw [if_neg more, if_neg more, if_neg more]
      dsimp only
      rw [if_neg large, if_neg large, if_neg large, if_neg enough, if_neg enough, if_neg enough,
        if_pos ok, if_pos ok]
      rcases like payloadType bitArray with deep | ⟨bad, _⟩ | ⟨_, p, parsed, flat⟩
      · left
        rw [deep]
        exact ⟨rfl, _, List.mem_cons_self, deep⟩
      · exact absurd ok (by rw [bad]; decide)
      · rw [parsed]
        rcases inductionHypothesis with
          ⟨fails, e, inside, deep⟩ | ⟨l, total, goesOn, alone, safe, all⟩
        · left
          rw [fails]
          exact ⟨rfl, e, List.mem_cons_of_mem _ inside, deep⟩
        · right
          rw [goesOn, alone]
          refine ⟨l.map (p :: ·), payloadSize + total, rfl, ?_, ?_, ?_⟩
          · rw [Option.map_map, Option.map_map]
            congr 2
            funext others
            rw [Function.comp_apply, Function.comp_apply, List.map_cons, flat]
          · intro e inside
            rcases List.mem_cons.mp inside with rfl | inside
            · rw [parsed]
              exact fun deep => nomatch deep
            · exact safe e inside
          · intro ps isSome
            rw [Option.map_eq_some_iff] at isSome
            obtain ⟨others, found, rfl⟩ := isSome
            exact .cons parsed (all others found)
  | case5 payloadType more nextPayload reserved high low rest payloadSize large enough bitArray
      bad =>
      unfold ikeParsePayloadListLoop SaPackets.ikeParsePayloadListEx reached
      rw [if_neg more, if_neg more, if_neg more]
      dsimp only
      rw [if_neg large, if_neg large, if_neg large, if_neg enough, if_neg enough, if_neg enough,
        if_neg bad, if_neg bad]
      rcases like payloadType bitArray with deep | ⟨_, parsed⟩ | ⟨ok, _⟩
      · left
        rw [deep]
        exact ⟨rfl, _, List.mem_cons_self, deep⟩
      · right
        rw [parsed]
        refine ⟨none, payloadSize, rfl, rfl, ?_, fun ps isSome => nomatch isSome⟩
        intro e inside
        rw [List.mem_singleton.mp inside, parsed]
        exact fun deep => nomatch deep
      · exact absurd ok bad
  | case6 data payloadType more noHeader =>
      right
      have loop : ikeParsePayloadListLoop parse data payloadType = .ok (none, 0) := by
        unfold ikeParsePayloadListLoop
        rw [if_neg more]
        split
        case h_1 header => exact absurd rfl (noHeader _ _ _ _ _)
        case h_2 => rfl
      have alone : SaPackets.ikeParsePayloadListEx payloadOk payloadType data = (none, 0) := by
        unfold SaPackets.ikeParsePayloadListEx
        rw [if_neg more]
        split
        case h_1 header => exact absurd rfl (noHeader _ _ _ _ _)
        case h_2 => rfl
      rw [reached_noHeader more noHeader]
      exact ⟨none, 0, loop, alone, fun e inside => absurd inside List.not_mem_nil,
        fun ps isSome => nomatch isSome⟩

end Lists

theorem ParsesLike.packetPayload_eq
    {parse : UInt8 → List UInt8 → Except TooDeep (Option Payload)}
    (like : ParsesLike parse)
    {e : PacketPayload}
    {p : Payload}
    (parsed : parse e.payloadType e.bitArray = .ok (some p)) :
    p.packetPayload = e := by
  rcases like e.payloadType e.bitArray with deep | ⟨_, rejected⟩ | ⟨_, q, kept, flat⟩
  · rw [deep] at parsed
    exact nomatch parsed
  · rw [rejected] at parsed
    exact nomatch parsed
  · rw [kept] at parsed
    injection parsed with same
    injection same with same
    rw [← same, flat]

theorem ParsesLike.map_packetPayload
    {parse : UInt8 → List UInt8 → Except TooDeep (Option Payload)}
    (like : ParsesLike parse)
    {es : List PacketPayload}
    {ps : List Payload}
    (parsed : List.Forall₂
      (fun e p => parse e.payloadType e.bitArray = .ok (some p)) es ps) :
    ps.map Payload.packetPayload = es := by
  induction parsed with
  | nil => rfl
  | cons first _ inductionHypothesis =>
      rw [List.map_cons, like.packetPayload_eq first, inductionHypothesis]

theorem ikeParsePayload_tooDeep_iff
    (list : List UInt8 → UInt8 → Except TooDeep (Option (List Payload)))
    (e : PacketPayload) :
    ikeParsePayload list e.payloadType e.bitArray = .error .tooDeep ↔
      ∃ inner, opens e = some inner ∧ list inner.1 inner.2 = .error .tooDeep := by
  cases isOpen : opens e with
  | none =>
      have fine : ikeParsePayload list e.payloadType e.bitArray ≠ .error .tooDeep := by
        rcases ikeParsePayload_closed list isOpen with ⟨_, parsed⟩ | ⟨_, p, _, _, parsed⟩
        · rw [parsed]
          exact fun deep => nomatch deep
        · rw [parsed]
          exact fun deep => nomatch deep
      constructor
      · exact fun deep => absurd deep fine
      · rintro ⟨inner, isSome, _⟩
        exact nomatch isSome
  | some inner =>
      obtain ⟨_, p, _, parsed⟩ := ikeParsePayload_opens list isOpen
      rw [parsed]
      cases result : list inner.1 inner.2 with
      | error deep =>
          constructor
          · intro same
            injection same with same
            exact ⟨inner, rfl, by rw [result, same]⟩
          · rintro ⟨inner', same, isDeep⟩
            injection same with same
            rw [← same, result] at isDeep
            injection isDeep with isDeep
            rw [isDeep]
            rfl
      | ok l =>
          constructor
          · exact fun deep => nomatch deep
          · rintro ⟨inner', same, isDeep⟩
            injection same with same
            rw [← same, result] at isDeep
            exact nomatch isDeep

theorem type_of_opens
    {e : PacketPayload}
    {inner : List UInt8 × UInt8}
    (isOpen : opens e = some inner) :
    (e.payloadType = IKE_PAYLOAD_SA ∧ inner.2 = IKE_PAYLOAD_PROPOSAL) ∨
      (e.payloadType = IKE_PAYLOAD_PROPOSAL ∧ inner.2 = IKE_PAYLOAD_TRANSFORM) := by
  unfold opens at isOpen
  by_cases isSa : e.payloadType = IKE_PAYLOAD_SA
  · rw [if_pos isSa, Option.map_eq_some_iff] at isOpen
    obtain ⟨rest, _, rfl⟩ := isOpen
    exact .inl ⟨isSa, rfl⟩
  · by_cases isProposal : e.payloadType = IKE_PAYLOAD_PROPOSAL
    · rw [if_neg isSa, if_pos isProposal, Option.map_eq_some_iff] at isOpen
      obtain ⟨rest, _, rfl⟩ := isOpen
      exact .inr ⟨isProposal, rfl⟩
    · rw [if_neg isSa, if_neg isProposal] at isOpen
      exact nomatch isOpen

/-- What stands behind one of the members of a list that goes together with another one. -/
theorem exists_of_mem
    {α β : Type}
    {R : α → β → Prop}
    {es : List α}
    {ps : List β}
    (pairs : List.Forall₂ R es ps)
    {p : β}
    (inside : p ∈ ps) :
    ∃ e ∈ es, R e p := by
  induction pairs with
  | nil => exact absurd inside List.not_mem_nil
  | cons first _ inductionHypothesis =>
      rcases List.mem_cons.mp inside with rfl | inside
      · exact ⟨_, List.mem_cons_self, first⟩
      · obtain ⟨e, isThere, related⟩ := inductionHypothesis inside
        exact ⟨e, List.mem_cons_of_mem _ isThere, related⟩

/-! ## Levels of the recursion -/

section Levels

variable {levels : Nat} {list : List UInt8 × UInt8}

theorem ikeParsePayloadListEx_cases (levels : Nat) (list : List UInt8 × UInt8) :
    (ikeParsePayloadListEx (levels + 1) list.1 list.2 = .error .tooDeep ∧
      ∃ inner, Opens list inner ∧ ikeParsePayloadListEx levels inner.1 inner.2 = .error .tooDeep) ∨
    (∃ l total, ikeParsePayloadListEx (levels + 1) list.1 list.2 = .ok (l, total) ∧
      SaPackets.ikeParsePayloadListEx payloadOk list.2 list.1 =
        (l.map (List.map Payload.packetPayload), total) ∧
      (∀ inner, Opens list inner →
        ikeParsePayloadListEx levels inner.1 inner.2 ≠ .error .tooDeep) ∧
      ∀ ps, l = some ps →
        List.Forall₂
          (fun e p =>
            ikeParsePayload
              (fun data firstPayload =>
                (ikeParsePayloadListEx levels data firstPayload).map Prod.fst)
              e.payloadType e.bitArray = .ok (some p))
          (reached list.1 list.2) ps) := by
  have deepList : ∀ inner : List UInt8 × UInt8,
      (ikeParsePayloadListEx levels inner.1 inner.2).map Prod.fst = .error .tooDeep ↔
        ikeParsePayloadListEx levels inner.1 inner.2 = .error .tooDeep := by
    intro inner
    cases ikeParsePayloadListEx levels inner.1 inner.2 with
    | error deep =>
        cases deep with
        | tooDeep => exact ⟨fun _ => rfl, fun _ => rfl⟩
    | ok l => exact ⟨(fun deep => nomatch deep), fun deep => nomatch deep⟩
  rcases ikeParsePayloadListLoop_cases
      (parsesLike_ikeParsePayload fun data firstPayload =>
        (ikeParsePayloadListEx levels data firstPayload).map Prod.fst) list.1 list.2 with
    ⟨fails, e, inside, deep⟩ | ⟨l, total, parsed, alone, safe, all⟩
  · left
    obtain ⟨inner, isOpen, isDeep⟩ := (ikeParsePayload_tooDeep_iff _ e).mp deep
    exact ⟨fails, inner, ⟨e, inside, isOpen⟩, (deepList inner).mp isDeep⟩
  · right
    refine ⟨l, total, parsed, alone, ?_, all⟩
    rintro inner ⟨e, inside, isOpen⟩ isDeep
    exact safe e inside
      ((ikeParsePayload_tooDeep_iff _ e).mpr ⟨inner, isOpen, (deepList inner).mpr isDeep⟩)

theorem tooDeep_iff :
    ikeParsePayloadListEx (levels + 1) list.1 list.2 = .error .tooDeep ↔
      ∃ inner, Opens list inner ∧
        ikeParsePayloadListEx levels inner.1 inner.2 = .error .tooDeep := by
  rcases ikeParsePayloadListEx_cases levels list with ⟨fails, deep⟩ | ⟨l, total, parsed, _, safe, _⟩
  · exact ⟨fun _ => deep, fun _ => fails⟩
  · constructor
    · intro fails
      rw [parsed] at fails
      exact nomatch fails
    · rintro ⟨inner, isOpen, deep⟩
      exact absurd deep (safe inner isOpen)

variable {total : Nat}

theorem payloads_of_parsed
    {ps : List Payload}
    (parsed : ikeParsePayloadListEx (levels + 1) list.1 list.2 = .ok (some ps, total)) :
    List.Forall₂
      (fun e p =>
        ikeParsePayload
          (fun data firstPayload =>
            (ikeParsePayloadListEx levels data firstPayload).map Prod.fst)
          e.payloadType e.bitArray = .ok (some p))
      (reached list.1 list.2) ps := by
  rcases ikeParsePayloadListEx_cases levels list with ⟨fails, _⟩ | ⟨l, total', parsed', _, _, all⟩
  · rw [fails] at parsed
    exact nomatch parsed
  · rw [parsed'] at parsed
    injection parsed with same
    injection same with same _
    exact all ps same

theorem reached_of_parsed
    {ps : List Payload}
    (parsed : ikeParsePayloadListEx levels list.1 list.2 = .ok (some ps, total)) :
    ReadWhole list ∧ ps.map Payload.packetPayload = reached list.1 list.2 := by
  cases levels with
  | zero => exact nomatch parsed
  | succ levels =>
      rcases ikeParsePayloadListEx_cases levels list with
        ⟨fails, _⟩ | ⟨l, total', parsed', alone, _, all⟩
      · rw [fails] at parsed
        exact nomatch parsed
      · rw [parsed'] at parsed
        injection parsed with same
        injection same with same _
        subst same
        constructor
        · unfold ReadWhole
          rw [alone]
          rfl
        · exact (parsesLike_ikeParsePayload _).map_packetPayload (all ps rfl)

theorem list_of_payload
    {ps l : List Payload}
    (parsed : ikeParsePayloadListEx (levels + 1) list.1 list.2 = .ok (some ps, total))
    {p : Payload}
    (inside : p ∈ ps)
    (holds : p.payloadList = some l) :
    ∃ e ∈ reached list.1 list.2, ∃ inner total', opens e = some inner ∧
      e.payloadType = p.payloadType ∧
      ikeParsePayloadListEx levels inner.1 inner.2 = .ok (some l, total') := by
  obtain ⟨e, isReached, parsedAs⟩ := exists_of_mem (payloads_of_parsed parsed) inside
  have same := (parsesLike_ikeParsePayload _).packetPayload_eq parsedAs
  cases isOpen : opens e with
  | none =>
      rcases ikeParsePayload_closed (fun data firstPayload =>
          (ikeParsePayloadListEx levels data firstPayload).map Prod.fst) isOpen with
        ⟨_, rejected⟩ | ⟨_, q, _, noList, kept⟩
      · rw [rejected] at parsedAs
        exact nomatch parsedAs
      · rw [kept] at parsedAs
        injection parsedAs with isSame
        injection isSame with isSame
        rw [← isSame, noList] at holds
        exact nomatch holds
  | some inner =>
      obtain ⟨_, q, heldBy, makes⟩ := ikeParsePayload_opens (fun data firstPayload =>
        (ikeParsePayloadListEx levels data firstPayload).map Prod.fst) isOpen
      rw [makes] at parsedAs
      cases result : ikeParsePayloadListEx levels inner.1 inner.2 with
      | error deep =>
          rw [result] at parsedAs
          exact nomatch parsedAs
      | ok r =>
          rw [result] at parsedAs
          injection parsedAs with isSame
          injection isSame with isSame
          rw [← isSame, (heldBy _).2] at holds
          refine ⟨e, isReached, inner, r.2, isOpen, congrArg PacketPayload.payloadType same.symm, ?_⟩
          rw [result, ← holds]

theorem payload_of_list
    {ps l : List Payload}
    {total total' : Nat}
    (parsed : ikeParsePayloadListEx (levels + 1) list.1 list.2 = .ok (some ps, total))
    {e : PacketPayload}
    (isReached : e ∈ reached list.1 list.2)
    {inner : List UInt8 × UInt8}
    (isOpen : opens e = some inner)
    (inside : ikeParsePayloadListEx levels inner.1 inner.2 = .ok (some l, total')) :
    ∃ p ∈ ps, p.payloadType = e.payloadType ∧ p.payloadList = some l := by
  obtain ⟨p, isPayload, parsedAs⟩ := exists_of_mem (payloads_of_parsed parsed).flip isReached
  obtain ⟨_, q, heldBy, makes⟩ := ikeParsePayload_opens (fun data firstPayload =>
    (ikeParsePayloadListEx levels data firstPayload).map Prod.fst) isOpen
  rw [makes, inside] at parsedAs
  injection parsedAs with isSame
  injection isSame with isSame
  refine ⟨p, isPayload, ?_, ?_⟩
  · rw [← isSame]
    exact congrArg PacketPayload.payloadType (heldBy _).1
  · rw [← isSame]
    exact (heldBy _).2

end Levels

/-! ## The bound on the levels -/

variable {e : PacketPayload} {levels : Nat} {list : List UInt8 × UInt8} {l : List Payload}
    {q : Payload} {total : Nat}

theorem length_of_opens
    {list inner : List UInt8 × UInt8}
    (isOpen : Opens list inner) :
    inner.1.length + 8 ≤ list.1.length := by
  obtain ⟨e, inside, isOpen⟩ := isOpen
  have inBody : inner.1.length + 4 ≤ e.bitArray.length := by
    unfold opens at isOpen
    by_cases isSa : e.payloadType = IKE_PAYLOAD_SA
    · rw [if_pos isSa, Option.map_eq_some_iff] at isOpen
      obtain ⟨rest, found, rfl⟩ := isOpen
      simp only [saRest, Option.ite_none_left_eq_some, Option.some.injEq] at found
      obtain ⟨long, _, _, rfl⟩ := found
      rw [List.length_drop]
      omega
    · by_cases isProposal : e.payloadType = IKE_PAYLOAD_PROPOSAL
      · rw [if_neg isSa, if_pos isProposal, Option.map_eq_some_iff] at isOpen
        obtain ⟨rest, found, rfl⟩ := isOpen
        simp only [proposalRest, Option.ite_none_left_eq_some, Option.some.injEq] at found
        obtain ⟨long, _, rfl⟩ := found
        rw [List.length_drop, List.length_drop]
        omega
      · rw [if_neg isSa, if_neg isProposal] at isOpen
        exact nomatch isOpen
  have inList : e.bitArray.length + 4 ≤ list.1.length := by
    obtain ⟨data, payloadType⟩ := list
    clear isOpen inBody
    dsimp only at inside ⊢
    induction data, payloadType using reached.induct with
    | case1 data =>
        unfold reached at inside
        rw [if_pos rfl] at inside
        exact absurd inside List.not_mem_nil
    | case2 payloadType more nextPayload reserved high low rest payloadSize small =>
        unfold reached at inside
        rw [if_neg more] at inside
        dsimp only at inside
        rw [if_pos small] at inside
        exact absurd inside List.not_mem_nil
    | case3 payloadType more nextPayload reserved high low rest payloadSize large short =>
        unfold reached at inside
        rw [if_neg more] at inside
        dsimp only at inside
        rw [if_neg large, if_pos short] at inside
        exact absurd inside List.not_mem_nil
    | case4 payloadType more nextPayload reserved high low rest payloadSize large enough bitArray ok
        inductionHypothesis =>
        unfold reached at inside
        rw [if_neg more] at inside
        dsimp only at inside
        rw [if_neg large, if_neg enough, if_pos ok] at inside
        simp only [List.length_cons]
        rcases List.mem_cons.mp inside with rfl | inside
        · dsimp only
          rw [List.length_take]
          omega
        · have fits := inductionHypothesis inside
          rw [List.length_drop] at fits
          omega
    | case5 payloadType more nextPayload reserved high low rest payloadSize large enough bitArray
        bad =>
        unfold reached at inside
        rw [if_neg more] at inside
        dsimp only at inside
        rw [if_neg large, if_neg enough, if_neg bad] at inside
        simp only [List.length_cons]
        rw [List.mem_singleton.mp inside]
        dsimp only
        rw [List.length_take]
        omega
    | case6 data payloadType more noHeader =>
        rw [reached_noHeader more noHeader] at inside
        exact absurd inside List.not_mem_nil
  omega

theorem ikeParsePayloadListEx_bounded
    (list : List UInt8 × UInt8)
    (enough : list.1.length < 8 * levels) :
    ∃ r, ikeParsePayloadListEx levels list.1 list.2 = .ok r := by
  induction levels generalizing list with
  | zero => exact absurd enough (by omega)
  | succ levels inductionHypothesis =>
      rcases ikeParsePayloadListEx_cases levels list with
        ⟨_, inner, isOpen, deep⟩ | ⟨l, total, parsed, _, _, _⟩
      · have shorter := length_of_opens isOpen
        obtain ⟨r, parsed⟩ := inductionHypothesis inner (by omega)
        rw [parsed] at deep
        exact nomatch deep
      · exact ⟨(l, total), parsed⟩

/-! ## The types of the payloads that payloads hold -/

/-- A payload of a list, or one of those that a payload of it holds, and so on. -/
inductive Within (ps : List Payload) : Payload → Prop
  /-- It is in the list. -/
  | here {p : Payload} (inside : p ∈ ps) : Within ps p
  | deeper {q p : Payload} {l : List Payload} (outer : Within ps q)
      (holds : q.payloadList = some l) (inside : p ∈ l) : Within ps p

/-- An SA payload holds proposals alone, and a proposal payload holds transforms alone. -/
def TypesFit (ps : List Payload) : Prop :=
  ∀ q l, Within ps q → q.payloadList = some l → ∀ p ∈ l,
    (q.payloadType = IKE_PAYLOAD_SA → p.payloadType = IKE_PAYLOAD_PROPOSAL) ∧
      (q.payloadType = IKE_PAYLOAD_PROPOSAL → p.payloadType = IKE_PAYLOAD_TRANSFORM)

/-- All the payloads that are reached in a list have the type that it starts with: their
`NextPayload`, except in the last one, repeats it. -/
def Uniform (list : List UInt8 × UInt8) : Prop :=
  ∀ e ∈ reached list.1 list.2, e.payloadType = list.2

/-- No payload of the third level opens a list, and lists inside a payload are uniform, as far as
they and the lists around them are read whole. -/
structure Conforms (list : List UInt8 × UInt8) : Prop where
  /-- There are three levels. -/
  shallow : ∀ second third fourth, Opens list second → Opens second third → ¬Opens third fourth
  uniform : ReadWhole list → ∀ second, Opens list second → ReadWhole second →
    Uniform second ∧ ∀ third, Opens second third → ReadWhole third → Uniform third

theorem three_levels_iff (list : List UInt8 × UInt8) :
    ikeParsePayloadListEx 3 list.1 list.2 ≠ .error .tooDeep ↔
      ∀ second third fourth, Opens list second → Opens second third → ¬Opens third fourth := by
  constructor
  · intro enough second third fourth opensSecond opensThird opensFourth
    apply enough
    exact tooDeep_iff.mpr ⟨second, opensSecond, tooDeep_iff.mpr ⟨third, opensThird,
      tooDeep_iff.mpr ⟨fourth, opensFourth, rfl⟩⟩⟩
  · intro shallow deep
    obtain ⟨second, opensSecond, deep⟩ := tooDeep_iff.mp deep
    obtain ⟨third, opensThird, deep⟩ := tooDeep_iff.mp deep
    obtain ⟨fourth, opensFourth, _⟩ := tooDeep_iff.mp deep
    exact shallow second third fourth opensSecond opensThird opensFourth

/-- A list that has been parsed, and one of its payloads. -/
def ParsedAt (list : List UInt8 × UInt8) (q : Payload) : Prop :=
  ∃ levels l total, ikeParsePayloadListEx levels list.1 list.2 = .ok (some l, total) ∧ q ∈ l

theorem ParsedAt.inner
    (parsedAt : ParsedAt list q)
    (holds : q.payloadList = some l) :
    ReadWhole list ∧ ∃ e ∈ reached list.1 list.2, ∃ inner, opens e = some inner ∧
      e.payloadType = q.payloadType ∧ ReadWhole inner ∧
      l.map Payload.packetPayload = reached inner.1 inner.2 ∧ ∀ p ∈ l, ParsedAt inner p := by
  obtain ⟨levels, ps, total, parsed, inside⟩ := parsedAt
  cases levels with
  | zero => exact nomatch parsed
  | succ levels =>
      obtain ⟨e, isReached, inner, total', isOpen, sameType, inPayload⟩ :=
        list_of_payload parsed inside holds
      obtain ⟨whole, same⟩ := reached_of_parsed inPayload
      exact ⟨(reached_of_parsed parsed).1, e, isReached, inner, isOpen, sameType, whole, same,
        fun p isMember => ⟨levels, l, total', inPayload, isMember⟩⟩

theorem Within.place
    (shallow : ∀ second third fourth,
      Opens list second → Opens second third → ¬Opens third fourth)
    {levels : Nat}
    {ps : List Payload}
    {total : Nat}
    (parsed : ikeParsePayloadListEx levels list.1 list.2 = .ok (some ps, total))
    {q : Payload}
    (within : Within ps q) :
    ParsedAt list q ∨
      (∃ second, Opens list second ∧ ReadWhole second ∧ ParsedAt second q) ∨
      ∃ second third, Opens list second ∧ ReadWhole second ∧ Opens second third ∧
        ParsedAt third q := by
  induction within with
  | here inside => exact .inl ⟨levels, ps, total, parsed, inside⟩
  | deeper outer holds inside inductionHypothesis =>
      rcases inductionHypothesis with parsedAt | ⟨second, opensSecond, whole, parsedAt⟩ |
        ⟨second, third, opensSecond, whole, opensThird, parsedAt⟩
      · obtain ⟨_, e, isReached, inner, isOpen, _, isWhole, _, members⟩ := parsedAt.inner holds
        exact .inr (.inl ⟨inner, ⟨e, isReached, isOpen⟩, isWhole, members _ inside⟩)
      · obtain ⟨_, e, isReached, inner, isOpen, _, _, _, members⟩ := parsedAt.inner holds
        exact .inr (.inr ⟨second, inner, opensSecond, whole, ⟨e, isReached, isOpen⟩,
          members _ inside⟩)
      · obtain ⟨_, e, isReached, inner, isOpen, _⟩ := parsedAt.inner holds
        exact absurd ⟨e, isReached, isOpen⟩ (shallow second third inner opensSecond opensThird)

theorem types_of_uniform
    {inner : List UInt8 × UInt8}
    (isOpen : opens e = some inner)
    (sameType : e.payloadType = q.payloadType)
    (same : l.map Payload.packetPayload = reached inner.1 inner.2)
    (uniform : Uniform inner)
    {p : Payload}
    (inside : p ∈ l) :
    (q.payloadType = IKE_PAYLOAD_SA → p.payloadType = IKE_PAYLOAD_PROPOSAL) ∧
      (q.payloadType = IKE_PAYLOAD_PROPOSAL → p.payloadType = IKE_PAYLOAD_TRANSFORM) := by
  have isReached : p.packetPayload ∈ reached inner.1 inner.2 := by
    rw [← same]
    exact List.mem_map_of_mem inside
  have isFirst : p.payloadType = inner.2 := uniform _ isReached
  rw [isFirst, ← sameType]
  rcases type_of_opens isOpen with ⟨isSa, first⟩ | ⟨isProposal, first⟩
  · rw [isSa, first]
    exact ⟨fun _ => rfl, fun same => absurd same (by decide)⟩
  · rw [isProposal, first]
    exact ⟨fun same => absurd same (by decide), fun _ => rfl⟩

theorem Conforms.typesFit
    (conforms : Conforms list)
    {ps : List Payload}
    (parsed : ikeParsePayloadListEx levels list.1 list.2 = .ok (some ps, total)) :
    TypesFit ps := by
  intro q l within holds p inside
  have whole := (reached_of_parsed parsed).1
  rcases within.place conforms.shallow parsed with parsedAt |
    ⟨second, opensSecond, isWhole, parsedAt⟩ |
    ⟨second, third, opensSecond, isWhole, opensThird, parsedAt⟩
  · obtain ⟨_, e, isReached, inner, isOpen, sameType, innerWhole, same, _⟩ := parsedAt.inner holds
    exact types_of_uniform isOpen sameType same
      (conforms.uniform whole inner ⟨e, isReached, isOpen⟩ innerWhole).1 inside
  · obtain ⟨_, e, isReached, inner, isOpen, sameType, innerWhole, same, _⟩ := parsedAt.inner holds
    exact types_of_uniform isOpen sameType same
      ((conforms.uniform whole second opensSecond isWhole).2 inner ⟨e, isReached, isOpen⟩
        innerWhole) inside
  · obtain ⟨_, e, isReached, inner, isOpen, _⟩ := parsedAt.inner holds
    exact absurd ⟨e, isReached, isOpen⟩
      (conforms.shallow second third inner opensSecond opensThird)

theorem held_of_opens
    {list inner : List UInt8 × UInt8}
    {ps : List Payload}
    (parsed : ikeParsePayloadListEx levels list.1 list.2 = .ok (some ps, total))
    (isOpen : Opens list inner)
    (whole : ReadWhole inner) :
    ∃ levels' l total' e, opens e = some inner ∧
      ikeParsePayloadListEx levels' inner.1 inner.2 = .ok (some l, total') ∧
      ∃ p ∈ ps, p.payloadType = e.payloadType ∧ p.payloadList = some l := by
  obtain ⟨e, isReached, isOpen⟩ := isOpen
  cases levels with
  | zero => exact nomatch parsed
  | succ levels =>
      rcases ikeParsePayloadListEx_cases levels list with ⟨fails, _⟩ | ⟨_, _, _, _, safe, _⟩
      · rw [fails] at parsed
        exact nomatch parsed
      · have enough := safe inner ⟨e, isReached, isOpen⟩
        cases levels with
        | zero => exact absurd rfl enough
        | succ levels =>
            rcases ikeParsePayloadListEx_cases levels inner with
              ⟨fails, _⟩ | ⟨l, total', inPayload, alone, _, _⟩
            · exact absurd fails enough
            · unfold ReadWhole at whole
              rw [alone, Option.isSome_map] at whole
              obtain ⟨l, rfl⟩ := Option.isSome_iff_exists.mp whole
              exact ⟨levels + 1, l, total', e, isOpen, inPayload,
                payload_of_list parsed isReached isOpen inPayload⟩

theorem uniform_of_types
    {inner : List UInt8 × UInt8}
    (isOpen : opens e = some inner)
    (sameType : q.payloadType = e.payloadType)
    (same : l.map Payload.packetPayload = reached inner.1 inner.2)
    (types : ∀ p ∈ l,
      (q.payloadType = IKE_PAYLOAD_SA → p.payloadType = IKE_PAYLOAD_PROPOSAL) ∧
        (q.payloadType = IKE_PAYLOAD_PROPOSAL → p.payloadType = IKE_PAYLOAD_TRANSFORM)) :
    Uniform inner := by
  intro e' isReached
  rw [← same] at isReached
  obtain ⟨p, inside, rfl⟩ := List.mem_map.mp isReached
  rcases type_of_opens isOpen with ⟨isSa, first⟩ | ⟨isProposal, first⟩
  · exact ((types p inside).1 (sameType.trans isSa)).trans first.symm
  · exact ((types p inside).2 (sameType.trans isProposal)).trans first.symm

theorem conforms_of_typesFit
    {l : Option (List Payload)}
    (parsed : ikeParsePayloadListEx levels list.1 list.2 = .ok (l, total))
    (types : ∀ ps, l = some ps → TypesFit ps)
    (enough : ikeParsePayloadListEx 3 list.1 list.2 ≠ .error .tooDeep) :
    Conforms list where
  shallow := (three_levels_iff list).mp enough
  uniform whole second opensSecond secondWhole := by
    obtain ⟨ps, rfl⟩ : ∃ ps, l = some ps := by
      cases levels with
      | zero => exact nomatch parsed
      | succ levels =>
          rcases ikeParsePayloadListEx_cases levels list with
            ⟨fails, _⟩ | ⟨l', total', parsed', alone, _, _⟩
          · rw [fails] at parsed
            exact nomatch parsed
          · rw [parsed'] at parsed
            injection parsed with same
            injection same with same _
            unfold ReadWhole at whole
            rw [alone, Option.isSome_map, same] at whole
            exact Option.isSome_iff_exists.mp whole
    have fit := types ps rfl
    obtain ⟨levels', l, total', e, isOpen, inPayload, p, inside, sameType, holds⟩ :=
      held_of_opens parsed opensSecond secondWhole
    refine ⟨uniform_of_types isOpen sameType (reached_of_parsed inPayload).2
      (fit p l (.here inside) holds), fun third opensThird thirdWhole => ?_⟩
    obtain ⟨_, l', _, e', isOpen', inPayload', p', inside', sameType', holds'⟩ :=
      held_of_opens inPayload opensThird thirdWhole
    exact uniform_of_types isOpen' sameType' (reached_of_parsed inPayload').2
      (fit p' l' (.deeper (.here inside) holds inside') holds')

/-! ## Datagrams -/

section Datagrams

variable (decrypt : List UInt8 → List UInt8 → List UInt8 → List UInt8)

/-- The list of payloads of a datagram, when its header is valid and it can be decrypted. -/
def datagramList (cparam : Option CryptoParam) (data : List UInt8) :
    Option (List UInt8 × UInt8) :=
  (payloadData decrypt cparam data).map (·, data.getD 16 0)

/-- In the packet that comes out of a datagram the types fit, and three levels are enough for
the recursion. -/
def NestsAsTyped (cparam : Option CryptoParam) (data : List UInt8) : Prop :=
  ∀ levels p, ikeParse decrypt levels cparam data = .ok (some p) →
    (∀ ps, p.payloadList = some ps → TypesFit ps) ∧
      ikeParse decrypt 3 cparam data ≠ .error .tooDeep

variable {decrypt} {cparam : Option CryptoParam} {data : List UInt8}

theorem ikeParse_some
    {list : List UInt8 × UInt8}
    (isList : datagramList decrypt cparam data = some list)
    (levels : Nat) :
    (ikeParsePayloadListEx levels list.1 list.2 = .error .tooDeep ∧
      ikeParse decrypt levels cparam data = .error .tooDeep) ∨
    ∃ l total p, ikeParsePayloadListEx levels list.1 list.2 = .ok (l, total) ∧
      ikeParse decrypt levels cparam data = .ok (some p) ∧ p.payloadList = l := by
  obtain ⟨payload, found, rfl⟩ := Option.map_eq_some_iff.mp isList
  unfold ikeParse
  rw [found]
  dsimp only
  cases ikeParsePayloadListEx levels payload (data.getD 16 0) with
  | error deep =>
      cases deep with
      | tooDeep => exact .inl ⟨rfl, rfl⟩
  | ok r => exact .inr ⟨r.1, r.2, _, rfl, rfl, rfl⟩

theorem ikeParse_none
    (noList : datagramList decrypt cparam data = none)
    (levels : Nat) :
    ikeParse decrypt levels cparam data = .ok none := by
  rw [ikeParse, Option.map_eq_none_iff.mp noList]

theorem ikeParse_packet
    {levels : Nat}
    {r : Option ParsedPacket}
    (result : ikeParse decrypt levels cparam data = .ok r) :
    r.map ParsedPacket.packet =
      (SaPackets.ikeParse decrypt payloadOk cparam data).map Prod.fst := by
  have alike : ∀ {payload l total},
      ikeParsePayloadListEx levels payload (data.getD 16 0) = .ok (l, total) →
        SaPackets.ikeParsePayloadListEx payloadOk (data.getD 16 0) payload =
          (l.map (List.map Payload.packetPayload), total) := by
    intro payload l total parsed
    cases levels with
    | zero => exact nomatch parsed
    | succ levels =>
        rcases ikeParsePayloadListEx_cases levels (payload, data.getD 16 0) with
          ⟨fails, _⟩ | ⟨_, _, parsed', alone, _, _⟩
        · rw [fails] at parsed
          exact nomatch parsed
        · rw [parsed'] at parsed
          injection parsed with same
          rw [alone, ← (Prod.mk.inj same).1, ← (Prod.mk.inj same).2]
  unfold ikeParse at result
  unfold SaPackets.ikeParse
  unfold payloadData at result
  by_cases fits : HeaderFits data
  · rw [if_pos fits] at result
    rw [if_pos fits]
    dsimp only
    by_cases encrypted : isEncrypted data = true
    · rw [if_pos encrypted] at result
      rw [if_pos encrypted]
      cases plain : ikeDecrypt decrypt cparam (payloadOf data) with
      | none =>
          rw [plain] at result
          injection result with result
          rw [← result]
          rfl
      | some decrypted =>
          rw [plain] at result
          dsimp only [Option.map_some] at result ⊢
          cases parsed : ikeParsePayloadListEx levels decrypted.1 (data.getD 16 0) with
          | error deep =>
              rw [parsed] at result
              exact nomatch result
          | ok l =>
              rw [parsed] at result
              injection result with result
              rw [← result, alike parsed]
              simp only [Option.map_some, if_pos encrypted]
    · rw [if_neg encrypted] at result
      rw [if_neg encrypted]
      dsimp only at result
      cases parsed : ikeParsePayloadListEx levels (payloadOf data) (data.getD 16 0) with
      | error deep =>
          rw [parsed] at result
          exact nomatch result
      | ok l =>
          rw [parsed] at result
          injection result with result
          rw [← result, alike parsed]
          simp only [Option.map_some, if_neg encrypted]
  · rw [if_neg fits] at result
    rw [if_neg fits]
    injection result with result
    rw [← result]
    rfl

theorem ikeParse_bounded
    (decrypt : List UInt8 → List UInt8 → List UInt8 → List UInt8)
    (cparam : Option CryptoParam)
    (data : List UInt8) :
    ∃ levels r, ikeParse decrypt levels cparam data = .ok r := by
  cases isList : datagramList decrypt cparam data with
  | none => exact ⟨0, none, ikeParse_none isList 0⟩
  | some list =>
      obtain ⟨r, parsed⟩ : ∃ r,
          ikeParsePayloadListEx (list.1.length + 1) list.1 list.2 = .ok r :=
        ikeParsePayloadListEx_bounded list (by omega)
      rcases ikeParse_some isList (list.1.length + 1) with ⟨deep, _⟩ | ⟨_, _, p, _, result, _⟩
      · rw [deep] at parsed
        exact nomatch parsed
      · exact ⟨_, some p, result⟩

/-- The types and the levels of a datagram are as they should be exactly when its bytes conform:
no SA and no proposal stands in the third level, and the lists that are read whole inside a
payload name one type alone. -/
theorem nestsAsTyped_iff
    (decrypt : List UInt8 → List UInt8 → List UInt8 → List UInt8)
    (cparam : Option CryptoParam)
    (data : List UInt8) :
    NestsAsTyped decrypt cparam data ↔
      ∀ list, datagramList decrypt cparam data = some list → Conforms list := by
  constructor
  · intro nests list isList
    obtain ⟨r, enough⟩ : ∃ r,
        ikeParsePayloadListEx (list.1.length + 1) list.1 list.2 = .ok r :=
      ikeParsePayloadListEx_bounded list (by omega)
    rcases ikeParse_some isList (list.1.length + 1) with
      ⟨deep, _⟩ | ⟨l, total, p, parsed, result, sameList⟩
    · rw [deep] at enough
      exact nomatch enough
    · obtain ⟨types, three⟩ := nests _ p result
      rw [sameList] at types
      refine conforms_of_typesFit parsed types fun deep => three ?_
      rcases ikeParse_some isList 3 with ⟨_, fails⟩ | ⟨_, _, _, fine, _⟩
      · exact fails
      · rw [deep] at fine
        exact nomatch fine
  · intro conforms levels p result
    cases isList : datagramList decrypt cparam data with
    | none =>
        rw [ikeParse_none isList] at result
        injection result with result
        exact nomatch result
    | some list =>
        have fits := conforms list isList
        constructor
        · intro ps isPayloads
          rcases ikeParse_some isList levels with ⟨_, fails⟩ | ⟨l, total, q, parsed, same, holds⟩
          · rw [fails] at result
            exact nomatch result
          · rw [same] at result
            injection result with isSame
            injection isSame with isSame
            rw [isSame, isPayloads] at holds
            rw [← holds] at parsed
            exact fits.typesFit parsed
        · intro fails
          have three := (three_levels_iff list).mpr fits.shallow
          rcases ikeParse_some isList 3 with ⟨deep, _⟩ | ⟨_, _, _, _, fine, _⟩
          · exact three deep
          · rw [fails] at fine
            exact nomatch fine

end Datagrams

/-- An SA in an SA in an SA. -/
def nestedSas : List UInt8 :=
  List.replicate 16 0 ++ [1, 0x10, 2, 0, 0, 0, 0, 0, 0, 0, 0, 88] ++
  [0, 0, 0, 60, 0, 0, 0, 1, 0, 0, 0, 1] ++ [1, 0, 0, 8, 1, 1, 0, 0] ++
  [0, 0, 0, 40, 0, 0, 0, 1, 0, 0, 0, 1] ++ [1, 0, 0, 8, 1, 1, 0, 0] ++
  [0, 0, 0, 20, 0, 0, 0, 1, 0, 0, 0, 1] ++ [0, 0, 0, 8, 1, 1, 0, 0]

/-- The datagram is accepted, and its third SA opens a list of the fourth level. -/
theorem nestedSas_tooDeep :
    (∃ levels p, ikeParse (fun _ _ _ => []) levels none nestedSas = .ok (some p)) ∧
      ¬NestsAsTyped (fun _ _ _ => []) none nestedSas := by
  have isList : datagramList (fun _ _ _ => []) none nestedSas =
      some (nestedSas.drop 28, IKE_PAYLOAD_SA) := by
    decide +kernel
  have fails : (ikeParse (fun _ _ _ => []) 3 none nestedSas).toBool = false := by
    decide +kernel
  have deep : ikeParse (fun _ _ _ => []) 3 none nestedSas = .error .tooDeep := by
    rcases ikeParse_some isList 3 with ⟨_, deep⟩ | ⟨_, _, p, _, result, _⟩
    · exact deep
    · rw [result] at fails
      exact nomatch fails
  obtain ⟨levels, r, result⟩ := ikeParse_bounded (fun _ _ _ => []) none nestedSas
  rcases ikeParse_some isList levels with ⟨_, tooFew⟩ | ⟨_, _, p, _, accepted, _⟩
  · rw [tooFew] at result
    exact nomatch result
  · exact ⟨⟨levels, p, accepted⟩, fun nests => (nests levels p accepted).2 deep⟩

end Payloads
end Ike
end SoftEther
