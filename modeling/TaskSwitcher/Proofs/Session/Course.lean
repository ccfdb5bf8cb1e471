import TaskSwitcher.Proofs.Switcher.Reachable

/-!
# Courses of a session

A session interleaves three things as it likes: a step of a scenario is performed on the device, the
oldest waiting event is handled, and the overview looks at the registry.
-/

namespace TaskSwitcher

open Switcher (Handled)

/-- The courses of a session, each with what was handled on the way, oldest first, and the situation in
which it ends. `permitted` says which steps may be performed in which situation. -/
inductive Session (permitted : Switcher → ScenarioStep → Prop) (start : Switcher) :
    List Handled → Switcher → Prop where
  | start : Session permitted start [] start
  | step {history : List Handled} {switcher : Switcher}
      (course : Session permitted start history switcher) (step : ScenarioStep)
      (allowed : permitted switcher step) :
      Session permitted start history (switcher.applyStep step).1
  | next {history : List Handled} {switcher after : Switcher} {handled : Handled}
      (course : Session permitted start history switcher) (now : Nat)
      (next : switcher.handleNext now = some (handled, after)) :
      Session permitted start (history ++ [handled]) after
  | sync {history : List Handled} {switcher : Switcher}
      (course : Session permitted start history switcher) :
      Session permitted start history switcher.syncWindows

/-- The oldest waiting event is handled in the situation in which it waits no more. -/
theorem Switcher.handleNext_eq_some_iff (switcher after : Switcher) (now : Nat)
    (handled : Handled) :
    switcher.handleNext now = some (handled, after) ↔
      ∃ rest, switcher.mailbox.waiting = handled.event :: rest ∧
        switcher.taken.handle now handled.event = (after, handled.outcome) := by
  constructor
  · intro next
    obtain ⟨event, first, equal⟩ := Option.map_eq_some_iff.1 next
    obtain ⟨rest, waiting⟩ := List.head?_eq_some_iff.1 first
    cases equal
    exact ⟨rest, waiting, rfl⟩
  · rintro ⟨rest, waiting, served⟩
    rw [handleNext, waiting, List.head?_cons, Option.map_some, served]

namespace Session

variable {permitted : Switcher → ScenarioStep → Prop} {start switcher : Switcher}
  {history : List Handled}

/-- The course goes on with the event that has waited longest. -/
theorem handling (session : Session permitted start history switcher) (now : Nat) {event : Event}
    {rest : List Event} (waiting : switcher.mailbox.waiting = event :: rest) :
    Session permitted start (history ++ [⟨event, (switcher.taken.handle now event).2⟩])
      (switcher.taken.handle now event).1 :=
  session.next now ((Switcher.handleNext_eq_some_iff ..).2 ⟨rest, waiting, rfl⟩)

/-- Where more steps are permitted there are more sessions. -/
theorem mono {other : Switcher → ScenarioStep → Prop}
    (weaker : ∀ switcher step, permitted switcher step → other switcher step)
    (session : Session permitted start history switcher) : Session other start history switcher := by
  induction session with
  | start => exact .start
  | step _ step allowed inductionHypothesis =>
      exact inductionHypothesis.step step (weaker _ step allowed)
  | next _ now next inductionHypothesis => exact inductionHypothesis.next now next
  | sync _ inductionHypothesis => exact inductionHypothesis.sync

/-- A session gets into reachable situations only. -/
theorem reachable (session : Session permitted start history switcher)
    (reachable : start.Reachable) : switcher.Reachable := by
  induction session with
  | start => exact reachable
  | step _ step _ inductionHypothesis => exact inductionHypothesis.device _
  | @next _ before _ handled _ now next inductionHypothesis =>
      obtain ⟨rest, -, served⟩ := (Switcher.handleNext_eq_some_iff ..).1 next
      have taken : before.taken.Reachable := inductionHypothesis.device _
      have reached := taken.handle now handled.event
      rwa [served] at reached
  | sync _ inductionHypothesis => exact inductionHypothesis.sync

end Session

end TaskSwitcher
