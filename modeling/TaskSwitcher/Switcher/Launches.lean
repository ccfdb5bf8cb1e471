import TaskSwitcher.Switcher.Basic

/-!
# Keeping up with launches

A launch of a recognised application is shown as a splash until its window takes the splash over, the
launch fails, or the splash has waited too long.
-/

namespace TaskSwitcher.Switcher

/-- A launch has started. -/
def launchStarted (switcher : Switcher) (appId : String) (startupId : StartupId) (now : Nat) :
    Switcher :=
  match switcher.apps.resolve appId with
  | none => switcher
  | some appInfo =>
      switcher.createActivity
        { Activity.launching appId appInfo startupId switcher.shell.usableArea now with
          lightStyle := !switcher.splash.preferDark }

/-- The card that a failed launch refers to: the splash of the launch, or else the first card of the
application. -/
def failureTarget? (switcher : Switcher) (appInfo : AppInfo) (startupId : StartupId) :
    Option Handle :=
  (switcher.carousel.findByStartupId? startupId).or (switcher.carousel.findByAppInfo? appInfo)

/-- A launch has failed. A card that has its window stays. -/
def launchFailed (switcher : Switcher) (appId : String) (startupId : StartupId) : Switcher :=
  match switcher.apps.resolve appId with
  | none => switcher
  | some appInfo =>
      match switcher.failureTarget? appInfo startupId with
      | none => switcher
      | some handle =>
          if (switcher.carousel.get? handle).any (·.isRunning) then switcher
          else switcher.destroyActivity handle

/-- Handles a report about a launch that comes at the time `now`. -/
def handleLaunch (switcher : Switcher) (now : Nat) (event : LaunchEvent) : Switcher :=
  match event.stage with
  | .started => switcher.launchStarted event.appId event.startupId now
  | .ready => switcher
  | .failed => switcher.launchFailed event.appId event.startupId

/-- The splashes that have waited for `timeout` or longer, in carousel order. -/
def expiredLaunches (switcher : Switcher) (now timeout : Nat) : List Handle :=
  (switcher.carousel.entries.filter fun entry => entry.2.launchExpired now timeout).map (·.1)

/-- Removes the splashes that have waited too long. -/
def expireLaunches (switcher : Switcher) (now : Nat) : Switcher :=
  match switcher.launchTimeout with
  | none => switcher
  | some timeout => (switcher.expiredLaunches now timeout).foldl destroyActivity switcher

/-- The number of splashes that `expireLaunches` removes. -/
def expiredCount (switcher : Switcher) (now : Nat) : Nat :=
  match switcher.launchTimeout with
  | none => 0
  | some timeout => (switcher.expiredLaunches now timeout).length

end TaskSwitcher.Switcher
