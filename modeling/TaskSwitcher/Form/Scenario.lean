import TaskSwitcher.Form.Event
import TaskSwitcher.Scenario.Basic

/-!
# Written forms of scenarios

Every part of a step may be missing or null.
-/

namespace TaskSwitcher

open Form

namespace ScenarioStep

/-- The fields of a step, in order. -/
def fieldNames : List String :=
  ["delay_ms", "overview_visible", "docked", "toplevel", "launch", "ui"]

/-- Reads a step. -/
def read (surplus : Surplus) : Reader ScenarioStep := fun value => do
  let given ← fields surplus fieldNames value
  let delay ← fieldOr given "delay_ms" none (readNullable readWord64)
  let overviewVisible ← fieldOr given "overview_visible" none (readNullable readBool)
  let docked ← fieldOr given "docked" none (readNullable readBool)
  let window ← fieldOr given "toplevel" none (readNullable WindowEvent.read)
  let launch ← fieldOr given "launch" none (readNullable (LaunchEvent.read surplus))
  let ui ← fieldOr given "ui" none (readNullable UiEvent.read)
  return { delay, overviewVisible, docked, window, launch, ui }

/-- The form of a step. -/
def form (step : ScenarioStep) : Value := .record [
  ("delay_ms", ofNullable ofWord64 step.delay),
  ("overview_visible", ofNullable .bool step.overviewVisible),
  ("docked", ofNullable .bool step.docked),
  ("toplevel", ofNullable WindowEvent.form step.window),
  ("launch", ofNullable LaunchEvent.form step.launch),
  ("ui", ofNullable UiEvent.form step.ui)]

end ScenarioStep

namespace Scenario

/-- Reads a scenario. -/
def read (surplus : Surplus) : Reader Scenario := fun value => do
  let given ← fields surplus ["steps"] value
  let steps ← fieldOr given "steps" [] (readList (ScenarioStep.read surplus))
  return { steps }

/-- The form of a scenario. -/
def form (scenario : Scenario) : Value :=
  .record [("steps", .list (scenario.steps.map ScenarioStep.form))]

end Scenario

end TaskSwitcher
