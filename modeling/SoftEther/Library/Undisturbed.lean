import Mathlib.Data.List.Basic

/-!
# Events that leave no trace

A step may fail, and some of the events are the ones that are accepted.  When every other
event leaves the state as it is, a run comes to the state that the accepted events alone
come to.
-/

namespace SoftEther
namespace Library

section

variable {State Event Failure : Type}
variable (step : State → Event → Except Failure State)

/-- The state after some events, or the first failure. -/
def runEvents (state : State) (events : List Event) : Except Failure State :=
  events.foldlM step state

/-- Every event has the property in the state that it meets. -/
def Along (property : State → Event → Prop) : State → List Event → Prop
  | _, [] => True
  | state, event :: rest =>
      property state event ∧ ∀ after, step state event = .ok after → Along property after rest

/-- The event does not fail, and unless it is accepted it leaves the state as it is. -/
def LeavesNoTrace (accepted : State → Event → Bool) (state : State) (event : Event) : Prop :=
  ∃ after, step state event = .ok after ∧ (accepted state event = false → after = state)

def acceptedEvents (accepted : State → Event → Bool) : State → List Event → List Event
  | _, [] => []
  | state, event :: rest =>
      match step state event with
      | .error _ => []
      | .ok after =>
          if accepted state event then event :: acceptedEvents accepted after rest
          else acceptedEvents accepted after rest

/-- No event fails, and the accepted events alone come to the same state. -/
def Undisturbed
    (accepted : State → Event → Bool)
    (state : State)
    (events : List Event) : Prop :=
  Along step (LeavesNoTrace step accepted) state events ∧
    ∃ after, runEvents step state events = .ok after ∧
      runEvents step state (acceptedEvents step accepted state events) = .ok after

variable {step}

theorem along_congr
    {property other : State → Event → Prop}
    (same : ∀ state event, property state event ↔ other state event)
    (state : State)
    (events : List Event) :
    Along step property state events ↔ Along step other state events := by
  induction events generalizing state with
  | nil => exact Iff.rfl
  | cons event rest inductionHypothesis =>
      exact and_congr (same state event)
        (forall_congr' fun after => imp_congr_right fun _ => inductionHypothesis after)

theorem runEvents_cons
    {state after : State}
    {event : Event}
    (stepped : step state event = .ok after)
    (rest : List Event) :
    runEvents step state (event :: rest) = runEvents step after rest := by
  rw [runEvents, List.foldlM_cons, stepped]
  rfl

theorem runEvents_acceptedEvents
    {accepted : State → Event → Bool}
    {state : State}
    {events : List Event}
    (noTrace : Along step (LeavesNoTrace step accepted) state events) :
    ∃ after, runEvents step state events = .ok after ∧
      runEvents step state (acceptedEvents step accepted state events) = .ok after := by
  induction events generalizing state with
  | nil => exact ⟨state, rfl, rfl⟩
  | cons event rest inductionHypothesis =>
      obtain ⟨⟨next, stepped, kept⟩, others⟩ := noTrace
      obtain ⟨after, all, some⟩ := inductionHypothesis (others next stepped)
      refine ⟨after, (runEvents_cons stepped rest).trans all, ?_⟩
      unfold acceptedEvents
      rw [stepped]
      dsimp only
      cases takes : accepted state event with
      | true => exact (runEvents_cons stepped _).trans some
      | false =>
          rw [kept takes] at some
          simpa [kept takes] using some

theorem undisturbed_iff
    {accepted : State → Event → Bool}
    {state : State}
    {events : List Event} :
    Undisturbed step accepted state events ↔
      Along step (LeavesNoTrace step accepted) state events :=
  ⟨And.left, fun noTrace => ⟨noTrace, runEvents_acceptedEvents noTrace⟩⟩

end

end Library
end SoftEther
