import TaskSwitcher.Environment.Variable
import TaskSwitcher.Form.Settings
import TaskSwitcher.Toml.Document

/-!
# Loading settings

Settings come from a file, from environment variables, which count more, and from the defaults, which
count less. They have to meet the conditions on settings.
-/

namespace TaskSwitcher.Settings

/-- Why settings cannot be used. -/
inductive LoadFailure where
  /-- The file is malformed, or a value is not of the kind that its field needs. -/
  | unreadable
  | faulty (fault : Fault)
deriving DecidableEq

/-- The settings themselves if they meet all conditions. -/
def checked (settings : Settings) : Except LoadFailure Settings :=
  match settings.fault? with
  | none => .ok settings
  | some fault => .error (.faulty fault)

/-- Loads settings from the text of a file, unless there is no file, and from variables. -/
def load (file : Option String) (assignments : List (String × String)) :
    Except LoadFailure Settings :=
  match Toml.read? (file.getD "") with
  | none => .error .unreadable
  | some document =>
      match read .ignored (document.overlay (Environment.record assignments)) with
      | none => .error .unreadable
      | some settings => settings.checked

end TaskSwitcher.Settings
