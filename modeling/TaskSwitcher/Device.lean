import TaskSwitcher.Mailbox
import TaskSwitcher.Registry
import TaskSwitcher.Shell

/-!
# The device around the overview

The parts that exist whether or not anybody looks at the overview: the open windows, the shell and the
mailbox through which news travel.
-/

namespace TaskSwitcher

/-- The windows, the shell and the mailbox. -/
structure Device where
  registry : Registry
  shell : Shell
  mailbox : Mailbox := {}

end TaskSwitcher
