import TaskSwitcher.Proofs.Session.Course
import TaskSwitcher.Proofs.Session.InStep
import TaskSwitcher.Proofs.Switcher.Refusal
import TaskSwitcher.Scenario.Rehearsal

/-!
# The strip is a projection of the registry

In a session whose reports speak of known windows the device stays in step with the windows shown. When
nothing waits any more the windows shown are therefore the open ones, and no report that was handled on
the way was refused.
-/

namespace TaskSwitcher

namespace Switcher

variable {switcher : Switcher}

/-! ### The windows shown as a set -/

/-- Which windows are shown after an event depends on which were shown, not on their order. -/
theorem toFinset_windowsAfter {windows : List WindowId} (distinct : windows.Nodup) (event : Event) :
    (windowsAfter windows event).toFinset = shownAfter windows.toFinset event := by
  cases event with
  | window report =>
      cases report with
      | added window =>
          ext id
          simp [windowsAfter, shownAfter]
      | changed window => rfl
      | closed id =>
          ext other
          simp [windowsAfter, shownAfter, distinct.mem_erase_iff]
      | activatedChanged window => rfl
  | _ => rfl

/-- Handling an event shows the windows that the event says. -/
theorem toFinset_windows_handle (proper : switcher.carousel.Proper) (now : Nat) (event : Event) :
    (switcher.handle now event).1.carousel.windows.toFinset =
      shownAfter switcher.carousel.windows.toFinset event := by
  rw [List.toFinset_eq_of_perm _ _ (shows_handle proper.valid.shows now event).perm,
    toFinset_windowsAfter proper.distinct]

/-- A look at the registry shows all open windows besides those that are shown. -/
theorem toFinset_windows_syncWindows (valid : switcher.carousel.Valid) :
    switcher.syncWindows.carousel.windows.toFinset =
      switcher.carousel.windows.toFinset ∪ switcher.registry.members := by
  rw [List.toFinset_eq_of_perm _ _ (shows_syncWindows valid.shows).perm, Registry.members,
    Registry.ids]
  generalize switcher.carousel.windows = shown
  induction switcher.registry.windows generalizing shown with
  | nil => simp
  | cons first rest inductionHypothesis =>
      rw [List.foldl_cons, inductionHypothesis]
      ext id
      simp [or_assoc]

/-! ### Handling keeps step -/

/-- A report that is understood is not refused. -/
theorem handleWindow_eq_ok {report : WindowEvent}
    (understood : Understood switcher.carousel.windows.toFinset (.window report)) :
    (switcher.handleWindow report).2 = .ok () := by
  cases outcome : (switcher.handleWindow report).2 with
  | ok _ => rfl
  | error failure =>
      obtain ⟨refused, -⟩ := refuses_of_handleWindow (Prod.ext rfl outcome)
      cases refused with
      | changed unknown => exact absurd (List.mem_toFinset.1 understood) unknown
      | closed unknown => exact absurd (List.mem_toFinset.1 understood) unknown
      | activated _ unknown => exact absurd (List.mem_toFinset.1 understood) unknown

end Switcher

/-! ### Sessions -/

/-- The report of a step, if it has one, speaks of a window that the registry has or introduces it. -/
def Switcher.Informed (switcher : Switcher) (step : ScenarioStep) : Prop :=
  ∀ report, step.window = some report → switcher.registry.Knows report

namespace Session

open Switcher (Handled Informed assemble)

variable {settings : Settings} {windows : List Window} {limit : Option Nat} {switcher : Switcher}
  {history : List Handled}

/-- On a new device nothing waits, so that the open windows stay what they are. -/
theorem inStep_assemble :
    (assemble settings true windows limit).toDevice.InStep
      (assemble settings true windows limit).registry.members where
  isOpen := rfl
  echoing := Registry.echoing_foldl_put _ windows
  distinct := Registry.nodup_ids_foldl_put _ windows List.nodup_nil
  leads := rfl

/-- An overview that has just started is in step. -/
theorem inStep_start :
    (assemble settings true windows limit).start.toDevice.InStep
      (assemble settings true windows limit).start.carousel.windows.toFinset := by
  refine (assemble settings true windows limit).relays_syncWindows.inStep ?_
  rw [Switcher.start, Switcher.toFinset_windows_syncWindows Carousel.valid_empty]
  have shown : ∅ ∪ (assemble settings true windows limit).registry.members =
      (assemble settings true windows limit).registry.members := Finset.empty_union _
  exact shown.symm ▸ inStep_assemble

/-- The event that has waited longest is understood, and after it was taken the device is in step with the
windows that it leads to. -/
theorem inStep_taken {event : Event} {rest : List Event}
    (inStep : switcher.toDevice.InStep switcher.carousel.windows.toFinset)
    (waiting : switcher.mailbox.waiting = event :: rest) :
    Understood switcher.carousel.windows.toFinset event ∧
      switcher.taken.toDevice.InStep (shownAfter switcher.carousel.windows.toFinset event) := by
  have leads := inStep.leads
  rw [waiting] at leads
  exact ⟨leads.1, { inStep with leads := by simpa [Switcher.taken, waiting] using leads.2 }⟩

/-- Handling the oldest waiting event keeps step: the windows shown change as the event tells. -/
theorem inStep_next {after : Switcher} {handled : Handled} {now : Nat}
    (reachable : switcher.Reachable)
    (inStep : switcher.toDevice.InStep switcher.carousel.windows.toFinset)
    (next : switcher.handleNext now = some (handled, after)) :
    after.toDevice.InStep after.carousel.windows.toFinset ∧
      Understood switcher.carousel.windows.toFinset handled.event := by
  obtain ⟨rest, waiting, served⟩ := (Switcher.handleNext_eq_some_iff ..).1 next
  obtain ⟨understood, taken⟩ := inStep_taken inStep waiting
  have reachableTaken : switcher.taken.Reachable := reachable.device _
  have shown := Switcher.toFinset_windows_handle reachableTaken.proper now handled.event
  have inStepAfter := (switcher.taken.relays_handle now handled.event).inStep taken
  rw [served] at inStepAfter shown
  exact ⟨shown ▸ inStepAfter, understood⟩

/-- A look at the registry keeps the overview in step. -/
theorem inStep_sync (reachable : switcher.Reachable)
    (inStep : switcher.toDevice.InStep switcher.carousel.windows.toFinset) :
    switcher.syncWindows.toDevice.InStep switcher.syncWindows.carousel.windows.toFinset := by
  refine switcher.relays_syncWindows.inStep ?_
  rw [Switcher.toFinset_windows_syncWindows reachable.valid]
  exact { inStep with leads := inStep.leads.union (Finset.Subset.refl _) }

/-- In an informed session the overview is in step at any time. -/
theorem inStep
    (session : Session Informed (assemble settings true windows limit).start history switcher) :
    switcher.toDevice.InStep switcher.carousel.windows.toFinset := by
  induction session with
  | start => exact inStep_start
  | step _ step informed inductionHypothesis =>
      exact (Device.relays_applyStep step informed).inStep inductionHypothesis
  | next course now next inductionHypothesis =>
      exact (inStep_next (course.reachable (.start rfl rfl)) inductionHypothesis next).1
  | sync course inductionHypothesis =>
      exact inStep_sync (course.reachable (.start rfl rfl)) inductionHypothesis

/-- No report that was handled in an informed session was refused. -/
theorem outcome_of_mem_history
    (session : Session Informed (assemble settings true windows limit).start history switcher)
    {handled : Handled} (member : handled ∈ history) {report : WindowEvent}
    (about : handled.event = .window report) : handled.outcome = .ok () := by
  induction session with
  | start => cases member
  | step _ _ _ inductionHypothesis => exact inductionHypothesis member
  | @next _ before after last course now next inductionHypothesis =>
      rcases List.mem_append.1 member with earlier | new
      · exact inductionHypothesis earlier
      · obtain rfl := List.mem_singleton.1 new
        have understood :=
          (inStep_next (course.reachable (.start rfl rfl)) course.inStep next).2
        obtain ⟨-, -, served⟩ := (Switcher.handleNext_eq_some_iff ..).1 next
        rw [about] at understood served
        have ok : (before.taken.handleWindow report).2 = .ok () :=
          Switcher.handleWindow_eq_ok understood
        exact (congrArg Prod.snd served).symm.trans ok
  | sync _ inductionHypothesis => exact inductionHypothesis member

/-- In a session whose reports speak of known windows no report is refused, and whenever nothing waits
the windows shown are the open ones, each shown once. -/
theorem strip_projects_registry
    (session : Session Informed (assemble settings true windows limit).start history switcher) :
    (∀ handled ∈ history, ∀ report, handled.event = .window report → handled.outcome = .ok ()) ∧
      (switcher.mailbox.waiting = [] →
        switcher.carousel.windows.Perm (switcher.registry.windows.map (·.id)) ∧
          switcher.carousel.windows.Nodup) := by
  refine ⟨fun handled member report about => session.outcome_of_mem_history member about,
    fun quiet => ?_⟩
  have distinct := (session.reachable (.start rfl rfl)).nodup_windows
  have leads := session.inStep.leads
  rw [quiet] at leads
  exact ⟨List.perm_of_nodup_nodup_toFinset_eq distinct session.inStep.distinct leads, distinct⟩

/-- The user closes the only card: the registry closes the window at once, and its echo takes the card
off the strip. -/
theorem strip_empty_after_close :
    ∃ history switcher,
      Session Informed (assemble {} true [Scenario.callsWindow] none).start history switcher ∧
        history.length = 2 ∧ switcher.carousel.windows = [] := by
  let close : UiEvent := .closeRequested (.page 0)
  let opened := (assemble {} true [Scenario.callsWindow] none).start
  let asked := (opened.applyStep (Scenario.uiStep close)).1
  let told := asked.taken.handle 0 (.ui close)
  let gone := told.1.taken.handle 0 (.window (.closed ⟨1⟩))
  have asking : Session Informed opened [] asked :=
    .step .start (Scenario.uiStep close) fun _ absent => nomatch absent
  have telling : Session Informed opened [⟨.ui close, told.2⟩] told.1 :=
    asking.handling 0 (by decide +kernel : asked.mailbox.waiting = [.ui close])
  have course : Session Informed opened
      [⟨.ui close, told.2⟩, ⟨.window (.closed ⟨1⟩), gone.2⟩] gone.1 :=
    telling.handling 0 (by decide +kernel : told.1.mailbox.waiting = [.window (.closed ⟨1⟩)])
  have quiet : gone.1.mailbox.waiting = [] := by decide +kernel
  have closed : gone.1.registry.windows = [] := by decide +kernel
  have same := (course.strip_projects_registry.2 quiet).1
  rw [closed] at same
  exact ⟨_, _, course, rfl, same.eq_nil⟩

end Session

end TaskSwitcher
