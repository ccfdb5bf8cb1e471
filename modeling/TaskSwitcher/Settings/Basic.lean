import TaskSwitcher.Shell
import TaskSwitcher.Text.Blank

/-!
# Settings

The settings of the program with their defaults, and the conditions they have to meet. The conditions
are tried in one order, and the first that is violated is the one reported.
-/

namespace TaskSwitcher

namespace Settings

/-- How the program reports on its work. -/
structure Logging where
  level : String := "info"
  format : String := "pretty"
  filter : String := "phone_overview=info"
deriving DecidableEq

/-- The screen and the state of the shell at the start. -/
structure Screen where
  usableWidth : Int32 := 360
  usableHeight : Int32 := 648
  scaleFactor : Int32 := 2
  preferDark : Bool := true
  docked : Bool := false
  overviewVisible : Bool := false
deriving DecidableEq

/-- How long splashes wait and how often they are looked at, in milliseconds. -/
structure Launching where
  /-- Zero means that splashes wait forever. -/
  timeout : UInt64 := 30000
  sweepInterval : UInt64 := 1000
deriving DecidableEq

/-- The applications that are recognised; all of them if the list is empty. -/
structure Apps where
  known : List String := []
deriving DecidableEq

/-- Where events come from. -/
structure Feed where
  mode : String := "dry_run"
  replayPath : Option String := none
  /-- The delay before each step of the rehearsal, in milliseconds. -/
  rehearsalInterval : UInt64 := 1000
deriving DecidableEq

end Settings

/-- All settings. -/
structure Settings where
  logging : Settings.Logging := {}
  screen : Settings.Screen := {}
  launch : Settings.Launching := {}
  apps : Settings.Apps := {}
  source : Settings.Feed := {}
deriving DecidableEq

namespace Settings

/-- How long a splash may wait, if there is a limit. -/
def Launching.limit (launching : Launching) : Option Nat :=
  if launching.timeout = 0 then none else some launching.timeout.toNat

/-- The shell as it is at the start. -/
def Screen.shell (screen : Screen) : Shell where
  usableArea := ⟨screen.usableWidth, screen.usableHeight⟩
  scaleFactor := screen.scaleFactor
  overviewVisible := screen.overviewVisible
  docked := screen.docked

/-- A condition that settings can violate. -/
inductive Fault where
  | unknownLevel (level : String)
  | unknownFormat (format : String)
  | emptyArea (width height : Int32)
  | scaleOutOfRange (scale : Int32)
  | sweepTooShort
  | timeoutBelowSweep
  | replayWithoutPath
  | unknownMode (mode : String)
  | rehearsalTooFast
  /-- The position of the entry is counted from one. -/
  | blankApp (position : Nat)
deriving DecidableEq

/-- The message for a violated condition. -/
def Fault.message : Fault → String
  | unknownLevel level => "Неверный уровень логирования: " ++ level
  | unknownFormat format => "Неверный формат логирования: " ++ format
  | emptyArea width height =>
      "Неверная полезная область экрана: " ++ toString width.toInt ++ "x" ++ toString height.toInt
  | scaleOutOfRange scale =>
      "scale_factor должен быть от 1 до 4, получено " ++ toString scale.toInt
  | sweepTooShort => "sweep_interval_ms должно быть минимум 100"
  | timeoutBelowSweep => "timeout_ms не может быть меньше sweep_interval_ms"
  | replayWithoutPath => "Для режима replay нужен replay_path"
  | unknownMode mode => "Неверный режим источника событий: " ++ mode
  | rehearsalTooFast => "dry_run_interval_ms должно быть минимум 10"
  | blankApp position => "Пустой app id в apps.known #" ++ toString position

/-- Levels of reports. -/
def levels : List String := ["trace", "debug", "info", "warn", "error"]

/-- Formats of reports. -/
def formats : List String := ["pretty", "json"]

/-- Whether an entry has no visible character. -/
def isBlankApp (app : String) : Bool :=
  (Text.trim app.toList).isEmpty

/-- The violated condition on the mode of the source, if any. -/
def Feed.modeFault? (feed : Feed) : Option Fault :=
  if feed.mode = "dry_run" then none
  else if feed.mode = "replay" then
    if feed.replayPath.isNone then some .replayWithoutPath else none
  else some (.unknownMode feed.mode)

/-- The conditions, each with whether it is violated, in the order in which they are tried. -/
def faults (settings : Settings) : List (Option Fault) := [
  if settings.logging.level ∈ levels then none else some (.unknownLevel settings.logging.level),
  if settings.logging.format ∈ formats then none
    else some (.unknownFormat settings.logging.format),
  if settings.screen.shell.usableArea.isDrawable then none
    else some (.emptyArea settings.screen.usableWidth settings.screen.usableHeight),
  if 1 ≤ settings.screen.scaleFactor ∧ settings.screen.scaleFactor ≤ 4 then none
    else some (.scaleOutOfRange settings.screen.scaleFactor),
  if settings.launch.sweepInterval < 100 then some .sweepTooShort else none,
  if 0 < settings.launch.timeout ∧ settings.launch.timeout < settings.launch.sweepInterval then
    some .timeoutBelowSweep else none,
  settings.source.modeFault?,
  if settings.source.rehearsalInterval < 10 then some .rehearsalTooFast else none,
  (settings.apps.known.findIdx? isBlankApp).map fun index => .blankApp (index + 1)]

/-- The first violated condition. -/
def fault? (settings : Settings) : Option Fault :=
  settings.faults.findSome? id

end Settings

end TaskSwitcher
