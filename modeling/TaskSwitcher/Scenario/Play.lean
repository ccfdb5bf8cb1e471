import TaskSwitcher.Device
import TaskSwitcher.Failure
import TaskSwitcher.Scenario.Basic

/-!
# Performing a scenario

A step brings the shell and the registry up to date first and sends its events afterwards, so that
whoever handles an event finds the device as the event describes it. When the mailbox is closed the first
event that would have to be sent ends the performance; what was done before it stays done.
-/

namespace TaskSwitcher

/-- Why an event could not be sent. -/
def Failure.mailboxClosed : Failure :=
  .channelClosed "обзор больше не принимает события: channel closed"

namespace Device

/-- Sends an event, which fails if the mailbox is closed. -/
def send (device : Device) (event : Event) : Device × Outcome :=
  if device.mailbox.isOpen then
    ({ device with mailbox := device.mailbox.post event }, .ok ())
  else
    (device, .error .mailboxClosed)

/-- Goes on with `next` unless there was a failure. -/
def andThen (result : Device × Outcome) (next : Device → Device × Outcome) : Device × Outcome :=
  match result with
  | (device, .ok ()) => next device
  | (device, .error failure) => (device, .error failure)

/-- Sets the flags of the shell that a step mentions. -/
def applyFlags (device : Device) (step : ScenarioStep) : Device :=
  { device with
    shell :=
      { device.shell with
        overviewVisible := step.overviewVisible.getD device.shell.overviewVisible
        docked := step.docked.getD device.shell.docked } }

/-- Tells the registry of a window and reports it. -/
def applyWindow (device : Device) : Option WindowEvent → Device × Outcome
  | none => (device, .ok ())
  | some event => { device with registry := device.registry.learn event }.send (.window event)

/-- Reports a launch. -/
def applyLaunch (device : Device) : Option LaunchEvent → Device × Outcome
  | none => (device, .ok ())
  | some event => device.send (.launch event)

/-- The shell after an action, which changes it only if the action concerns the usable area. -/
def shellAfter (shell : Shell) : UiEvent → Shell
  | .usableAreaChanged width height => { shell with usableArea := ⟨width, height⟩ }
  | _ => shell

/-- Reports an action of the user or of the shell. -/
def applyUi (device : Device) : Option UiEvent → Device × Outcome
  | none => (device, .ok ())
  | some event => { device with shell := shellAfter device.shell event }.send (.ui event)

/-- Performs a step: the flags, then the report about a window, the launch and the action. It stops at
the first event that cannot be sent. -/
def applyStep (device : Device) (step : ScenarioStep) : Device × Outcome :=
  andThen ((device.applyFlags step).applyWindow step.window) fun device =>
    andThen (device.applyLaunch step.launch) fun device => device.applyUi step.ui

/-- Performs steps until one fails. -/
def play (device : Device) : List ScenarioStep → Device × Outcome
  | [] => (device, .ok ())
  | step :: steps => andThen (device.applyStep step) fun device => device.play steps

end Device

namespace Scenario

/-- Performs all steps and counts them. -/
def play (scenario : Scenario) (device : Device) : Device × Except Failure Nat :=
  ((device.play scenario.steps).1, (device.play scenario.steps).2.map fun _ => scenario.steps.length)

/-- The steps that are due within `limit` milliseconds after the moment `now`, if a step without a delay
of its own waits for `pause`. -/
def dueWithin (pause limit : Nat) (now : Nat) : List ScenarioStep → List ScenarioStep
  | [] => []
  | step :: steps =>
      let moment := now + (step.delay.map (·.toNat)).getD pause
      if moment ≤ limit then step :: dueWithin pause limit moment steps else []

end Scenario

end TaskSwitcher
