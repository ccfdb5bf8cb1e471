import TaskSwitcher.Form.Scenario
import TaskSwitcher.Scenario.Play
import TaskSwitcher.Scenario.Rehearsal
import TaskSwitcher.Settings.Basic
import TaskSwitcher.Toml.Document

/-!
# Sources of events

Events come from a recorded scenario or from the built-in rehearsal. A file that is named on the command
line counts more than the settings.
-/

namespace TaskSwitcher

/-- Where events come from. -/
inductive Source where
  | recording (scenario : Scenario)
  /-- The rehearsal, with the delay before each of its steps in milliseconds. It keeps running after
  its last step. -/
  | rehearsal (interval : Nat)

/-- How far a source has come. -/
inductive Progress where
  | finished
  | running
deriving DecidableEq

namespace Scenario

/-- Reads a scenario from the text of its file. -/
def ofFile (path : String) : Option String → Except Failure Scenario
  | none => .error (.file ("файл сценария " ++ Text.quoted path ++ " не найден"))
  | some content =>
      match (Toml.read? content).bind (read .ignored) with
      | none => .error (.configuration ("Сценарий " ++ Text.quoted path))
      | some scenario => .ok scenario

end Scenario

namespace Source

/-- The file of the recording to use, if one is to be used. -/
def recordingPath? (argument : Option String) (feed : Settings.Feed) : Option String :=
  argument.or (if feed.mode = "replay" then feed.replayPath else none)

/-- Chooses the source. `content` gives the text of a file, or nothing if it does not exist. -/
def choose (content : String → Option String) (argument : Option String) (feed : Settings.Feed) :
    Except Failure Source :=
  match recordingPath? argument feed with
  | some path => (Scenario.ofFile path (content path)).map recording
  | none => .ok (rehearsal feed.rehearsalInterval.toNat)

/-- The steps that a source performs. -/
def steps : Source → List ScenarioStep
  | recording scenario => scenario.steps
  | rehearsal _ => Scenario.rehearsal.steps

/-- The delay before steps that have none of their own. -/
def pause : Source → Nat
  | recording _ => 0
  | rehearsal interval => interval

/-- The steps that a source performs in its first `limit` milliseconds. -/
def due (source : Source) (limit : Nat) : List ScenarioStep :=
  Scenario.dueWithin source.pause limit 0 source.steps

/-- How far a source has come after `limit` milliseconds. -/
def progress (source : Source) (limit : Nat) : Progress :=
  match source with
  | recording scenario =>
      if (source.due limit).length = scenario.steps.length then .finished else .running
  | rehearsal _ => .running

/-- Lets a source run for `limit` milliseconds. -/
def run (source : Source) (limit : Nat) (device : Device) : Device × Except Failure Progress :=
  ((device.play (source.due limit)).1,
    (device.play (source.due limit)).2.map fun _ => source.progress limit)

end Source

end TaskSwitcher
