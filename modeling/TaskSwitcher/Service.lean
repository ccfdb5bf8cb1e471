import TaskSwitcher.Settings.Basic
import TaskSwitcher.Switcher.Handling

/-!
# The service

The service handles events one by one in the order of their arrival and counts them. Looking for
launches that wait too long is not counted as an event.
-/

namespace TaskSwitcher

/-- What the service has done, and how many cards there are in the end. -/
structure Report where
  processed : Nat := 0
  failed : Nat := 0
  activities : Nat := 0
deriving DecidableEq

/-- Whether an event counts as processed. -/
def Event.counts : Event → Bool
  | tick _ => false
  | _ => true

/-- The report of a service that handled one more event before everything else. -/
def Report.counting (report : Report) (event : Event) (outcome : Outcome) : Report where
  processed := report.processed + if event.counts then 1 else 0
  failed := report.failed + if outcome.isOk then 0 else 1
  activities := report.activities

namespace Switcher

/-- Handles events in order, each at its own time, and reports on it. Announcements are collected after
each event. -/
def serve (switcher : Switcher) : List (Nat × Event) → Switcher × Report
  | [] => (switcher, { activities := switcher.carousel.length })
  | (now, event) :: rest =>
      let handled := switcher.handle now event
      let served := handled.1.collected.serve rest
      (served.1, served.2.counting event handled.2)

/-- An overview with the parts that settings describe, before it has looked at any window. `wired` says
whether registry and pictures send news to the mailbox. -/
def assemble (settings : Settings) (wired : Bool) (windows : List Window)
    (launchTimeout : Option Nat) : Switcher where
  registry := windows.foldl Registry.put { echoing := wired }
  shell := settings.screen.shell
  splash := { preferDark := settings.screen.preferDark }
  apps := .ofList settings.apps.known
  thumbnailer := { answering := wired }
  launchTimeout := launchTimeout

end Switcher

end TaskSwitcher
