import TaskSwitcher.Scenario.Play

/-!
# What a step leaves behind

While the mailbox is open every part of a step is carried out. The device after the step is then known part
by part: the shell with what the step says about it, the registry with the report of the step, and the
mailbox with all events of the step behind those that waited before.
-/

namespace TaskSwitcher

/-- The usable area that a piece of news reports, if it speaks of that. -/
def Event.area? : Event → Option Size
  | .ui (.usableAreaChanged width height) => some ⟨width, height⟩
  | _ => none

/-- The area that a step reports, if it speaks of that. -/
def ScenarioStep.area? (step : ScenarioStep) : Option Size :=
  step.ui.bind fun event => (Event.ui event).area?

/-- The events that a step sends, in this order. -/
def ScenarioStep.events (step : ScenarioStep) : List Event :=
  (step.window.map Event.window).toList ++ (step.launch.map Event.launch).toList ++
    (step.ui.map Event.ui).toList

namespace Device

variable (device : Device)

/-- The registry after the report of a step. -/
def registryAfter (device : Device) (step : ScenarioStep) : Registry :=
  (step.window.map device.registry.learn).getD device.registry

/-- The shell after the flags and the action of a step. -/
def shellAfterStep (device : Device) (step : ScenarioStep) : Shell :=
  (step.ui.map (shellAfter (device.applyFlags step).shell)).getD (device.applyFlags step).shell

/-- A step changes the usable area of the shell exactly when it reports an area. -/
theorem usableArea_shellAfterStep (step : ScenarioStep) :
    (device.shellAfterStep step).usableArea = step.area?.getD device.shell.usableArea := by
  unfold shellAfterStep ScenarioStep.area?
  cases step.ui with
  | none => rfl
  | some event => cases event <;> rfl

variable (isOpen : device.mailbox.isOpen = true)

include isOpen

/-- An open mailbox takes the event as its last. -/
theorem send_of_isOpen (event : Event) :
    device.send event = ({ device with mailbox := device.mailbox.postAll [event] }, .ok ()) :=
  if_pos isOpen

/-- With an open mailbox a report is learned and then waits. -/
theorem applyWindow_of_isOpen (window : Option WindowEvent) :
    device.applyWindow window =
      ({ device with
         registry := (window.map device.registry.learn).getD device.registry
         mailbox := device.mailbox.postAll (window.map Event.window).toList }, .ok ()) := by
  cases window with
  | none => simp [applyWindow]
  | some report =>
      let learned := { device with registry := device.registry.learn report }
      exact learned.send_of_isOpen isOpen (.window report)

/-- With an open mailbox a launch waits, and nothing else changes. -/
theorem applyLaunch_of_isOpen (launch : Option LaunchEvent) :
    device.applyLaunch launch =
      ({ device with mailbox := device.mailbox.postAll (launch.map Event.launch).toList },
        .ok ()) := by
  cases launch with
  | none => simp [applyLaunch]
  | some report => exact device.send_of_isOpen isOpen (.launch report)

/-- With an open mailbox an action waits, and an area that it reports is set. -/
theorem applyUi_of_isOpen (ui : Option UiEvent) :
    device.applyUi ui =
      ({ device with
         shell := (ui.map (shellAfter device.shell)).getD device.shell
         mailbox := device.mailbox.postAll (ui.map Event.ui).toList }, .ok ()) := by
  cases ui with
  | none => simp [applyUi]
  | some event =>
      let informed := { device with shell := shellAfter device.shell event }
      exact informed.send_of_isOpen isOpen (.ui event)

/-- With an open mailbox a step does not fail, and does all that it says. -/
theorem applyStep_of_isOpen (step : ScenarioStep) :
    device.applyStep step =
      ({ registry := device.registryAfter step
         shell := device.shellAfterStep step
         mailbox := device.mailbox.postAll step.events }, .ok ()) := by
  have stays (events : List Event) : (device.mailbox.postAll events).isOpen = true :=
    (device.mailbox.isOpen_postAll events).trans isOpen
  have flagged : (device.applyFlags step).mailbox.isOpen = true := isOpen
  rw [applyStep, applyWindow_of_isOpen _ flagged, andThen, applyLaunch_of_isOpen _ (stays _),
    andThen, applyUi_of_isOpen]
  · rw [ScenarioStep.events, Mailbox.postAll_append, Mailbox.postAll_append]
    rfl
  · exact (Mailbox.isOpen_postAll ..).trans (stays _)

end Device

end TaskSwitcher
