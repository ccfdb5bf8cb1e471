import TaskSwitcher.Geometry

/-!
# The shell around the overview

What the overview reads from the shell, and the feedback it asks the shell for.
-/

namespace TaskSwitcher

/-- The state of the shell. -/
structure Shell where
  /-- The part of the screen that windows may use. -/
  usableArea : Size
  scaleFactor : Int32
  overviewVisible : Bool := false
  docked : Bool := false
  /-- The feedback that was asked for, oldest first. -/
  feedback : List String := []

/-- The shell after it was asked for feedback. -/
def Shell.giveFeedback (shell : Shell) (name : String) : Shell :=
  { shell with feedback := shell.feedback ++ [name] }

end TaskSwitcher
