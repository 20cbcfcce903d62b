import Mathlib.Data.List.Infix
import Mathlib.Logic.Function.Basic

/-!
# Packets that wait for a link

Packets are accepted for next hops.  A packet for a hop whose link is known goes out at once;
other packets wait until the link is learnt, or until the hop is forgotten.  A history says
what has happened, the latest first.
-/

namespace SoftEther
namespace Library

/-- What happens to a table of next hops. -/
inductive Happening (Hop Link Packet : Type) where
  | accept (hop : Hop) (packet : Packet)
  | learn (hop : Hop) (link : Link)
  | deliver (hop : Hop) (link : Link) (packet : Packet)

section

variable {Hop Link Packet : Type}
variable [DecidableEq Hop]

def Happening.acceptedFor (hop : Hop) : Happening Hop Link Packet → Option Packet
  | .accept other packet => if other = hop then some packet else none
  | _ => none

/-- The packet that goes out for the hop. -/
def Happening.deliveredFor (hop : Hop) : Happening Hop Link Packet → Option Packet
  | .deliver other _ packet => if other = hop then some packet else none
  | _ => none

/-- The packets that have been accepted for the hop, the first one first. -/
def accepted (hop : Hop) (history : List (Happening Hop Link Packet)) : List Packet :=
  history.reverse.filterMap (Happening.acceptedFor hop)

/-- The packets that have gone out for the hop, the first one first. -/
def delivered (hop : Hop) (history : List (Happening Hop Link Packet)) : List Packet :=
  history.reverse.filterMap (Happening.deliveredFor hop)

def lastLearnt (hop : Hop) : List (Happening Hop Link Packet) → Option Link
  | [] => none
  | .learn other link :: earlier => if other = hop then some link else lastLearnt hop earlier
  | _ :: earlier => lastLearnt hop earlier

variable {history : List (Happening Hop Link Packet)}
variable {hop other : Hop}
variable {link : Link}
variable {packet : Packet}

@[simp] theorem accepted_cons_accept :
    accepted hop (.accept other packet :: history) =
      accepted hop history ++ if other = hop then [packet] else [] := by
  by_cases same : other = hop <;> simp [accepted, Happening.acceptedFor, same]

@[simp] theorem accepted_cons_learn :
    accepted hop (.learn other link :: history) = accepted hop history := by
  simp [accepted, Happening.acceptedFor]

@[simp] theorem accepted_cons_deliver :
    accepted hop (.deliver other link packet :: history) = accepted hop history := by
  simp [accepted, Happening.acceptedFor]

@[simp] theorem delivered_cons_accept :
    delivered hop (.accept other packet :: history) = delivered hop history := by
  simp [delivered, Happening.deliveredFor]

@[simp] theorem delivered_cons_learn :
    delivered hop (.learn other link :: history) = delivered hop history := by
  simp [delivered, Happening.deliveredFor]

@[simp] theorem delivered_cons_deliver :
    delivered hop (.deliver other link packet :: history) =
      delivered hop history ++ if other = hop then [packet] else [] := by
  by_cases same : other = hop <;> simp [delivered, Happening.deliveredFor, same]

/-- Every packet goes out over the link that was learnt last for its hop. -/
def Addressed (history : List (Happening Hop Link Packet)) : Prop :=
  ∀ later hop link packet earlier, history = later ++ .deliver hop link packet :: earlier →
    lastLearnt hop earlier = some link

/-- At all times the packets that have gone out for a hop are some of the packets that have
been accepted for it, in their order. -/
def InOrder (history : List (Happening Hop Link Packet)) : Prop :=
  ∀ earlier, earlier <:+ history → ∀ hop, (delivered hop earlier).Sublist (accepted hop earlier)

theorem Addressed.nil : Addressed ([] : List (Happening Hop Link Packet)) := by
  intro later hop link packet earlier split
  simp at split

theorem InOrder.nil : InOrder ([] : List (Happening Hop Link Packet)) := by
  intro earlier before hop
  rw [List.suffix_nil.mp before]
  exact .refl _

theorem Addressed.cons
    {happening : Happening Hop Link Packet}
    (addressed : Addressed history)
    (latest : ∀ hop link packet, happening = .deliver hop link packet →
      lastLearnt hop history = some link) :
    Addressed (happening :: history) := by
  intro later hop link packet earlier split
  cases later with
  | nil =>
      injection split with same before
      exact before ▸ latest hop link packet same
  | cons first later =>
      injection split with _ before
      exact addressed later hop link packet earlier before

theorem InOrder.cons
    {happening : Happening Hop Link Packet}
    (inOrder : InOrder history)
    (now : ∀ hop, (delivered hop (happening :: history)).Sublist
      (accepted hop (happening :: history))) :
    InOrder (happening :: history) := by
  intro earlier before
  obtain rfl | before := List.suffix_cons_iff.mp before
  · exact now
  · exact inOrder earlier before

/-! ## Tables of next hops -/

structure HopTable (Hop Link Packet : Type) where
  link : Hop → Option Link
  waiting : Hop → List Packet
  history : List (Happening Hop Link Packet)

/-- What comes to a table of next hops. -/
inductive Input (Hop Link Packet : Type) where
  | accept (hop : Hop) (packet : Packet)
  | learn (hop : Hop) (link : Link)
  | forget (hop : Hop)

def HopTable.initial : HopTable Hop Link Packet where
  link := fun _ => none
  waiting := fun _ => []
  history := []

/-- Packets go out one after the other. -/
def deliverAll
    (hop : Hop)
    (link : Link)
    (packets : List Packet)
    (history : List (Happening Hop Link Packet)) :
    List (Happening Hop Link Packet) :=
  packets.foldl (fun history packet => .deliver hop link packet :: history) history

/-- What a table does; at most `limit` packets wait for a hop. -/
def HopTable.handle (limit : Nat) (table : HopTable Hop Link Packet) :
    Input Hop Link Packet → HopTable Hop Link Packet
  | .accept hop packet =>
      match table.link hop with
      | some link =>
          { table with
            history := .deliver hop link packet :: .accept hop packet :: table.history }
      | none =>
          { table with
            waiting :=
              if (table.waiting hop).length < limit then
                Function.update table.waiting hop (table.waiting hop ++ [packet])
              else table.waiting
            history := .accept hop packet :: table.history }
  | .learn hop link =>
      { link := Function.update table.link hop (some link)
        waiting := Function.update table.waiting hop []
        history := deliverAll hop link (table.waiting hop) (.learn hop link :: table.history) }
  | .forget hop =>
      { table with
        link := Function.update table.link hop none
        waiting := Function.update table.waiting hop [] }

/-- What a table does with one input after the other. -/
def HopTable.handleAll
    (limit : Nat)
    (table : HopTable Hop Link Packet)
    (inputs : List (Input Hop Link Packet)) :
    HopTable Hop Link Packet :=
  inputs.foldl (HopTable.handle limit) table

theorem HopTable.handleAll_forget
    (limit : Nat)
    (table : HopTable Hop Link Packet)
    (hops : List Hop) :
    table.handleAll limit (hops.map .forget) =
      { table with
        link := fun hop => if hop ∈ hops then none else table.link hop
        waiting := fun hop => if hop ∈ hops then [] else table.waiting hop } := by
  induction hops generalizing table with
  | nil => simp [HopTable.handleAll]
  | cons first hops inductionHypothesis =>
      rw [List.map_cons, HopTable.handleAll, List.foldl_cons, ← HopTable.handleAll,
        inductionHypothesis]
      simp only [HopTable.handle, Function.update_apply, List.mem_cons]
      congr 1
      · funext hop
        by_cases same : hop = first <;> simp [same]
      · funext hop
        by_cases same : hop = first <;> simp [same]

/-- A known link is the one that was learnt last, no packet waits for it, and the packets go
out in order. -/
structure HopTable.Sound (table : HopTable Hop Link Packet) : Prop where
  latest : ∀ {hop link}, table.link hop = some link → lastLearnt hop table.history = some link
  idle : ∀ {hop link}, table.link hop = some link → table.waiting hop = []
  rest : ∀ hop, (delivered hop table.history ++ table.waiting hop).Sublist
    (accepted hop table.history)
  addressed : Addressed table.history
  inOrder : InOrder table.history

variable {table : HopTable Hop Link Packet}

theorem HopTable.handle_accept_known
    (limit : Nat)
    (known : table.link hop = some link) :
    table.handle limit (.accept hop packet) =
      { table with
        history := .deliver hop link packet :: .accept hop packet :: table.history } := by
  simp only [HopTable.handle, known]

theorem HopTable.handle_accept_unknown
    (limit : Nat)
    (unknown : table.link hop = none) :
    table.handle limit (.accept hop packet) =
      { table with
        waiting :=
          if (table.waiting hop).length < limit then
            Function.update table.waiting hop (table.waiting hop ++ [packet])
          else table.waiting
        history := .accept hop packet :: table.history } := by
  simp only [HopTable.handle, unknown]

theorem HopTable.Sound.initial : (HopTable.initial : HopTable Hop Link Packet).Sound where
  latest known := nomatch known
  idle known := nomatch known
  rest _ := .refl _
  addressed := .nil
  inOrder := .nil

theorem lastLearnt_deliverAll
    (packets : List Packet) :
    lastLearnt other (deliverAll hop link packets history) = lastLearnt other history := by
  induction packets generalizing history with
  | nil => rfl
  | cons packet packets inductionHypothesis => exact inductionHypothesis

theorem accepted_deliverAll
    (packets : List Packet) :
    accepted other (deliverAll hop link packets history) = accepted other history := by
  induction packets generalizing history with
  | nil => rfl
  | cons packet packets inductionHypothesis =>
      rw [deliverAll, List.foldl_cons, ← deliverAll, inductionHypothesis, accepted_cons_deliver]

theorem delivered_deliverAll
    (packets : List Packet) :
    delivered other (deliverAll hop link packets history) =
      delivered other history ++ if hop = other then packets else [] := by
  induction packets generalizing history with
  | nil => simp [deliverAll]
  | cons packet packets inductionHypothesis =>
      rw [deliverAll, List.foldl_cons, ← deliverAll, inductionHypothesis, delivered_cons_deliver,
        List.append_assoc]
      by_cases same : hop = other <;> simp [same]

theorem Addressed.deliverAll
    (addressed : Addressed history)
    (latest : lastLearnt hop history = some link)
    (packets : List Packet) :
    Addressed (deliverAll hop link packets history) := by
  induction packets generalizing history with
  | nil => exact addressed
  | cons packet packets inductionHypothesis =>
      apply inductionHypothesis
      · apply addressed.cons
        rintro _ _ _ ⟨⟩
        exact latest
      · exact latest

theorem InOrder.deliverAll
    {packets : List Packet}
    (inOrder : InOrder history)
    (rest : (delivered hop history ++ packets).Sublist (accepted hop history)) :
    InOrder (deliverAll hop link packets history) := by
  induction packets generalizing history with
  | nil => exact inOrder
  | cons packet packets inductionHypothesis =>
      apply inductionHypothesis
      · apply inOrder.cons
        intro other
        rw [delivered_cons_deliver, accepted_cons_deliver]
        by_cases same : hop = other
        · subst same
          rw [if_pos rfl]
          have first : (delivered hop history ++ [packet]).Sublist
              (delivered hop history ++ packet :: packets) := by
            simp
          exact first.trans rest
        · rw [if_neg same, List.append_nil]
          exact inOrder history List.suffix_rfl other
      · rw [delivered_cons_deliver, if_pos rfl, accepted_cons_deliver]
        simpa using rest

theorem HopTable.Sound.accept
    (sound : table.Sound)
    (limit : Nat)
    (hop : Hop)
    (packet : Packet) :
    (table.handle limit (.accept hop packet)).Sound := by
  have accepting : Addressed (.accept hop packet :: table.history) :=
    sound.addressed.cons fun _ _ _ same => nomatch same
  have ordering : InOrder (.accept hop packet :: table.history) := by
    refine sound.inOrder.cons fun other => ?_
    rw [delivered_cons_accept, accepted_cons_accept]
    exact (sound.inOrder _ List.suffix_rfl other).trans (List.sublist_append_left _ _)
  cases known : table.link hop with
  | some link =>
      rw [HopTable.handle_accept_known limit known]
      have latest := sound.latest known
      have nothing := sound.idle known
      have all := sound.rest hop
      rw [nothing, List.append_nil] at all
      refine
        { latest := sound.latest
          idle := sound.idle
          rest := ?_
          addressed := ?_
          inOrder := ?_ }
      · intro other
        dsimp only
        rw [delivered_cons_deliver, delivered_cons_accept, accepted_cons_deliver,
          accepted_cons_accept]
        by_cases same : hop = other
        · subst same
          simpa [nothing] using all
        · simpa [same] using sound.rest other
      · apply accepting.cons
        rintro _ _ _ ⟨⟩
        exact latest
      · refine ordering.cons fun other => ?_
        rw [delivered_cons_deliver, delivered_cons_accept, accepted_cons_deliver,
          accepted_cons_accept]
        by_cases same : hop = other
        · subst same
          simpa using all
        · simpa [same] using sound.inOrder _ List.suffix_rfl other
  | none =>
      rw [HopTable.handle_accept_unknown limit known]
      have unknown : ∀ {other link}, table.link other = some link → other ≠ hop := by
        rintro other link found rfl
        exact nomatch known.symm.trans found
      refine
        { latest := sound.latest
          idle := ?_
          rest := ?_
          addressed := accepting
          inOrder := ordering }
      · intro other link found
        dsimp only
        split
        case isTrue =>
          rw [Function.update_of_ne (unknown found)]
          exact sound.idle found
        case isFalse => exact sound.idle found
      · intro other
        dsimp only
        rw [delivered_cons_accept, accepted_cons_accept]
        split
        case isTrue =>
          by_cases same : hop = other
          · subst same
            rw [Function.update_self, if_pos rfl, ← List.append_assoc]
            exact (sound.rest hop).append (.refl _)
          · rw [Function.update_of_ne (Ne.symm same), if_neg same, List.append_nil]
            exact sound.rest other
        case isFalse => exact (sound.rest other).trans (List.sublist_append_left _ _)

theorem HopTable.Sound.learn
    (sound : table.Sound)
    (limit : Nat)
    (hop : Hop)
    (link : Link) :
    (table.handle limit (.learn hop link)).Sound := by
  have learnt : lastLearnt hop (.learn hop link :: table.history) = some link := if_pos rfl
  have learning : Addressed (.learn hop link :: table.history) :=
    sound.addressed.cons fun _ _ _ same => nomatch same
  have ordering : InOrder (.learn hop link :: table.history) := by
    refine sound.inOrder.cons fun other => ?_
    rw [delivered_cons_learn, accepted_cons_learn]
    exact sound.inOrder _ List.suffix_rfl other
  have waits : (delivered hop (.learn hop link :: table.history) ++ table.waiting hop).Sublist
      (accepted hop (.learn hop link :: table.history)) := by
    rw [delivered_cons_learn, accepted_cons_learn]
    exact sound.rest hop
  refine
    { latest := ?_
      idle := ?_
      rest := ?_
      addressed := learning.deliverAll learnt _
      inOrder := ordering.deliverAll waits }
  · intro other known found
    dsimp only [HopTable.handle] at found ⊢
    rw [lastLearnt_deliverAll]
    by_cases same : hop = other
    · subst same
      rw [Function.update_self] at found
      exact learnt.trans found
    · rw [Function.update_of_ne (Ne.symm same)] at found
      rw [lastLearnt, if_neg same]
      exact sound.latest found
  · intro other known found
    dsimp only [HopTable.handle] at found ⊢
    by_cases same : other = hop
    · subst same
      rw [Function.update_self]
    · rw [Function.update_of_ne same] at found ⊢
      exact sound.idle found
  · intro other
    dsimp only [HopTable.handle]
    rw [delivered_deliverAll, accepted_deliverAll, delivered_cons_learn, accepted_cons_learn]
    by_cases same : hop = other
    · subst same
      rw [if_pos rfl, Function.update_self, List.append_nil]
      exact sound.rest hop
    · rw [if_neg same, Function.update_of_ne (Ne.symm same), List.append_nil]
      exact sound.rest other

theorem HopTable.Sound.forget
    (sound : table.Sound)
    (limit : Nat)
    (hop : Hop) :
    (table.handle limit (.forget hop)).Sound := by
  have known : ∀ {other link}, Function.update table.link hop none other = some link →
      other ≠ hop ∧ table.link other = some link := by
    intro other link found
    by_cases same : other = hop
    · subst same
      rw [Function.update_self] at found
      exact nomatch found
    · rw [Function.update_of_ne same] at found
      exact ⟨same, found⟩
  refine
    { latest := fun found => sound.latest (known found).2
      idle := ?_
      rest := ?_
      addressed := sound.addressed
      inOrder := sound.inOrder }
  · intro other link found
    obtain ⟨differs, before⟩ := known found
    dsimp only [HopTable.handle]
    rw [Function.update_of_ne differs]
    exact sound.idle before
  · intro other
    dsimp only [HopTable.handle]
    by_cases same : other = hop
    · subst same
      rw [Function.update_self, List.append_nil]
      exact sound.inOrder _ List.suffix_rfl other
    · rw [Function.update_of_ne same]
      exact sound.rest other

theorem HopTable.Sound.handleAll
    (sound : table.Sound)
    (limit : Nat)
    (inputs : List (Input Hop Link Packet)) :
    (table.handleAll limit inputs).Sound := by
  induction inputs generalizing table with
  | nil => exact sound
  | cons input inputs inductionHypothesis =>
      apply inductionHypothesis
      cases input with
      | accept hop packet => exact sound.accept limit hop packet
      | learn hop link => exact sound.learn limit hop link
      | forget hop => exact sound.forget limit hop

end

end Library
end SoftEther
