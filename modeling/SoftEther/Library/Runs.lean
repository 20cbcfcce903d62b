import Mathlib.Logic.Basic

/-!
# Runs of a partial step function

A system is a step function from a state and an event to the next state, or to
nothing when the system stops.  A run takes events that an admission predicate
allows in the state they meet.  The rules below turn a fact about one step
into a fact about every state a run reaches.
-/

namespace SoftEther
namespace Library

section

variable {State Event : Type}
variable (step : State → Event → Option State)
variable (allowed : State → Event → Prop)

/-- The states that runs from `start` reach when every event is allowed in the
state it meets. -/
inductive Reaches (start : State) : State → Prop
  | start : Reaches start start
  | next {state after : State} {event : Event} :
      Reaches start state →
      allowed state event →
      step state event = some after →
      Reaches start after

variable {step allowed}

theorem Reaches.invariant
    (Invariant : State → Prop)
    {start state : State}
    (reached : Reaches step allowed start state)
    (initially : Invariant start)
    (preserved : ∀ before event after,
      Invariant before → allowed before event →
        step before event = some after → Invariant after) :
    Invariant state := by
  induction reached with
  | start => exact initially
  | next _ admitted stepped inductionHypothesis =>
      exact preserved _ _ _ inductionHypothesis admitted stepped

/-- Runs under a stronger admission predicate are runs under a weaker one. -/
theorem Reaches.mono
    {weaker : State → Event → Prop}
    {start state : State}
    (reached : Reaches step allowed start state)
    (implies : ∀ before event, allowed before event → weaker before event) :
    Reaches step weaker start state := by
  induction reached with
  | start => exact .start
  | next _ admitted stepped inductionHypothesis =>
      exact .next inductionHypothesis (implies _ _ admitted) stepped

/-- Runs compose. -/
theorem Reaches.trans
    {start middle state : State}
    (first : Reaches step allowed start middle)
    (second : Reaches step allowed middle state) :
    Reaches step allowed start state := by
  induction second with
  | start => exact first
  | next _ admitted stepped inductionHypothesis =>
      exact .next inductionHypothesis admitted stepped

/-- The state after some events, one after the other. -/
def run (step : State → Event → Option State) :
    List Event → State → Option State
  | [], state => some state
  | event :: rest, state =>
      match step state event with
      | none => none
      | some after => run step rest after

/-- The state after some events, when a check passes each of them in the state it meets. -/
def runChecked (step : State → Event → Option State) (check : State → Event → Bool) :
    List Event → State → Option State
  | [], state => some state
  | event :: rest, state =>
      if check state event then
        match step state event with
        | none => none
        | some after => runChecked step check rest after
      else none

theorem Reaches.of_runChecked
    {check : State → Event → Bool}
    {events : List Event}
    {start state : State}
    (ran : runChecked step check events start = some state) :
    Reaches step (fun before event => check before event = true) start state := by
  induction events generalizing start with
  | nil =>
      injection ran with same
      rw [same]
      exact .start
  | cons event rest inductionHypothesis =>
      unfold runChecked at ran
      split at ran
      case isTrue passed =>
        cases stepped : step start event with
        | none =>
            rw [stepped] at ran
            exact nomatch ran
        | some after =>
            rw [stepped] at ran
            have first : Reaches step (fun before event => check before event = true)
                start after :=
              .next .start passed stepped
            exact first.trans (inductionHypothesis ran)
      case isFalse => exact nomatch ran

theorem run_append_singleton
    {events : List Event}
    {event : Event}
    {start state after : State}
    (ran : run step events start = some state)
    (stepped : step state event = some after) :
    run step (events ++ [event]) start = some after := by
  induction events generalizing start with
  | nil =>
      rw [Option.some.inj ran]
      simp only [List.nil_append, run, stepped]
  | cons first rest inductionHypothesis =>
      rw [List.cons_append]
      unfold run at ran ⊢
      cases taken : step start first with
      | none =>
          rw [taken] at ran
          exact nomatch ran
      | some next =>
          rw [taken] at ran
          exact inductionHypothesis ran

theorem Reaches.of_allowed
    {events : List Event}
    {start state : State}
    (ran : run step events start = some state)
    (always : ∀ event ∈ events, ∀ before, allowed before event) :
    Reaches step allowed start state := by
  induction events generalizing start with
  | nil =>
      injection ran with same
      rw [same]
      exact .start
  | cons event rest inductionHypothesis =>
      unfold run at ran
      cases stepped : step start event with
      | none =>
          rw [stepped] at ran
          exact nomatch ran
      | some after =>
          rw [stepped] at ran
          have first : Reaches step allowed start after :=
            .next .start (always event List.mem_cons_self start) stepped
          exact first.trans (inductionHypothesis ran fun later listed =>
            always later (List.mem_cons_of_mem event listed))

theorem Reaches.of_run
    {events : List Event}
    {start state : State}
    (ran : run step events start = some state) :
    Reaches step (fun _ _ => True) start state :=
  Reaches.of_allowed ran fun _ _ _ => trivial

end

end Library
end SoftEther
