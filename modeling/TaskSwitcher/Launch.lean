/-!
# Launches of applications

A launch is announced before its window exists. A token ties the reports about one launch together.
-/

namespace TaskSwitcher

/-- The token of a launch. Nothing is read out of it. -/
structure StartupId where
  token : String
deriving DecidableEq

/-- How far a launch has come. -/
inductive LaunchStage where
  | started
  | ready
  | failed
deriving DecidableEq

/-- The spelling of a stage in texts. -/
def LaunchStage.text : LaunchStage → String
  | started => "Started"
  | ready => "Ready"
  | failed => "Failed"

/-- A report of the launch tracker. -/
structure LaunchEvent where
  stage : LaunchStage
  appId : String
  startupId : StartupId
deriving DecidableEq

/-- The line that describes a launch report. -/
def LaunchEvent.text (event : LaunchEvent) : String :=
  event.stage.text ++ " '" ++ event.appId ++ "' [" ++ event.startupId.token ++ "]"

end TaskSwitcher
