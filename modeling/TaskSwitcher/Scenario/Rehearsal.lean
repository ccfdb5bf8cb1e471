import TaskSwitcher.Scenario.Basic

/-!
# The built-in rehearsal

A short session on a phone, for trying the overview out without any compositor: two applications are
started and one of them fails, a dialog is opened and closed, the user scrolls, clicks and searches.
-/

namespace TaskSwitcher.Scenario

/-- The window of the first application. -/
def callsWindow : Window :=
  { id := ⟨1⟩, appId := "org.gnome.Calls", title := "Calls" }

/-- The window of the second application. -/
def settingsWindow : Window :=
  { id := ⟨2⟩, appId := "org.gnome.Settings", title := "Settings" }

/-- A dialog of the second application. -/
def dialogWindow : Window :=
  { id := ⟨3⟩, appId := "org.gnome.Settings", title := "Wi-Fi", parent := some ⟨2⟩ }

/-- A step with a launch report. -/
def launchStep (stage : LaunchStage) (appId token : String) : ScenarioStep :=
  { launch := some { stage, appId, startupId := ⟨token⟩ } }

/-- A step with a report about a window. -/
def windowStep (event : WindowEvent) : ScenarioStep :=
  { window := some event }

/-- A step with an action of the user. -/
def uiStep (event : UiEvent) : ScenarioStep :=
  { ui := some event }

/-- A step that opens or hides the overview. -/
def visibilityStep (visible : Bool) : ScenarioStep :=
  { overviewVisible := some visible }

/-- The rehearsal. -/
def rehearsal : Scenario where
  steps := [
    launchStep .started "org.gnome.Calls" "dry-calls-1",
    launchStep .ready "org.gnome.Calls" "dry-calls-1",
    windowStep (.added { callsWindow with activated := true }),
    launchStep .started "org.gnome.Maps" "dry-maps-1",
    launchStep .failed "org.gnome.Maps" "dry-maps-1",
    windowStep (.added { settingsWindow with activated := true }),
    windowStep (.added { dialogWindow with activated := true }),
    visibilityStep true,
    uiStep (.resized (.page 0) 180 324),
    uiStep (.pageChanged (some 0)),
    uiStep (.closeRequested (.page 2)),
    uiStep (.clicked (.page 0)),
    uiStep .focusAppSearch,
    uiStep (.search (.char 'm')),
    uiStep (.search .escape),
    uiStep .reset,
    visibilityStep false,
    windowStep (.changed { callsWindow with maximized := true }),
    windowStep (.changed { settingsWindow with fullscreen := true }),
    uiStep .refresh]

end TaskSwitcher.Scenario
