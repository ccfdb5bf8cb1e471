/-!
# Windows and what is reported about them

A window is known by its number. A report carries a whole snapshot of the window, so a reader needs no
earlier report to make sense of it; only a closing names the window alone.
-/

namespace TaskSwitcher

/-- The number of a window in the compositor. -/
structure WindowId where
  number : UInt64
deriving DecidableEq

/-- The spelling of a window number in texts. -/
def WindowId.text (id : WindowId) : String :=
  "toplevel-" ++ toString id.number.toNat

/-- A snapshot of one window. -/
structure Window where
  id : WindowId
  appId : String
  title : String := ""
  parent : Option WindowId := none
  maximized : Bool := false
  fullscreen : Bool := false
  activated : Bool := false
deriving DecidableEq

/-- Names a window by number, title and application; an empty title is left out. -/
def Window.text (window : Window) : String :=
  if window.title = "" then
    window.id.text ++ " (" ++ window.appId ++ ")"
  else
    window.id.text ++ " \"" ++ window.title ++ "\" (" ++ window.appId ++ ")"

/-- A report about a window. -/
inductive WindowEvent where
  | added (window : Window)
  | changed (window : Window)
  | closed (id : WindowId)
  | activatedChanged (window : Window)
deriving DecidableEq

/-- The window that a report is about. -/
def WindowEvent.id : WindowEvent → WindowId
  | added window => window.id
  | changed window => window.id
  | closed id => id
  | activatedChanged window => window.id

/-- The spelling of a truth value in texts. -/
def boolText (value : Bool) : String :=
  if value then "true" else "false"

/-- The line that describes a report. -/
def WindowEvent.text : WindowEvent → String
  | added window => "added " ++ window.text
  | changed window => "changed " ++ window.text
  | closed id => "closed " ++ id.text
  | activatedChanged window => "activated=" ++ boolText window.activated ++ " " ++ window.text

end TaskSwitcher
