import TaskSwitcher.Launch
import TaskSwitcher.UiEvent
import TaskSwitcher.Window

/-!
# Scenarios

A scenario is a recorded session: a list of steps, each with a delay before it.
-/

namespace TaskSwitcher

/-- One step of a scenario. Whatever is absent stays as it is. -/
structure ScenarioStep where
  /-- The delay before the step, in milliseconds. -/
  delay : Option UInt64 := none
  overviewVisible : Option Bool := none
  docked : Option Bool := none
  window : Option WindowEvent := none
  launch : Option LaunchEvent := none
  ui : Option UiEvent := none
deriving DecidableEq

/-- A recorded session. -/
structure Scenario where
  steps : List ScenarioStep := []
deriving DecidableEq

end TaskSwitcher
