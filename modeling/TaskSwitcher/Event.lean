import TaskSwitcher.Launch
import TaskSwitcher.ThumbnailRequest
import TaskSwitcher.UiEvent
import TaskSwitcher.Window

/-!
# Everything that happens to the overview

All news reach the overview as values of one type, so that they can wait in one queue and be handled
strictly in the order of their arrival.
-/

namespace TaskSwitcher

/-- One piece of news. -/
inductive Event where
  | window (event : WindowEvent)
  | launch (event : LaunchEvent)
  | ui (event : UiEvent)
  /-- The picture that an activity asked for is there. -/
  | thumbnailReady (activity : Handle) (request : ThumbnailRequest)
  /-- Time to look for launches that wait too long. -/
  | tick (now : Nat)
deriving DecidableEq

/-- The line that describes a piece of news. -/
def Event.text : Event → String
  | window event => "toplevel: " ++ event.text
  | launch event => "launch: " ++ event.text
  | ui event => "ui: " ++ event.spelled
  | thumbnailReady activity request =>
      "thumbnail " ++ request.text ++ " ready for " ++ activity.text
  | tick _ => "tick"

/-- What the overview announces to the outside. -/
inductive Signal where
  | activityLaunched
  | activityRaised
  | activityClosed
  | selectionAborted
  | hasActivities (value : Bool)
deriving DecidableEq

/-- The name of an announcement. -/
def Signal.text : Signal → String
  | activityLaunched => "activity-launched"
  | activityRaised => "activity-raised"
  | activityClosed => "activity-closed"
  | selectionAborted => "selection-aborted"
  | hasActivities value => "has-activities=" ++ boolText value

end TaskSwitcher
