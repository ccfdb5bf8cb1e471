import TaskSwitcher.Form.Basic
import TaskSwitcher.Settings.Basic

/-!
# Written forms of settings

Every section and every field may be missing; its default then stands.
-/

namespace TaskSwitcher.Settings

open Form

/-- Reads the section on reports. -/
def Logging.read (surplus : Surplus) : Reader Logging := fun value => do
  let given ← fields surplus ["level", "format", "filter"] value
  let absent : Logging := {}
  let level ← fieldOr given "level" absent.level readText
  let format ← fieldOr given "format" absent.format readText
  let filter ← fieldOr given "filter" absent.filter readText
  return { level, format, filter }

/-- The form of the section on reports. -/
def Logging.form (part : Logging) : Value := .record [
  ("level", .text part.level),
  ("format", .text part.format),
  ("filter", .text part.filter)]

/-- Reads the section on the screen. -/
def Screen.read (surplus : Surplus) : Reader Screen := fun value => do
  let given ← fields surplus
    ["usable_width", "usable_height", "scale_factor", "prefer_dark", "docked", "overview_visible"]
    value
  let absent : Screen := {}
  let usableWidth ← fieldOr given "usable_width" absent.usableWidth readSigned32
  let usableHeight ← fieldOr given "usable_height" absent.usableHeight readSigned32
  let scaleFactor ← fieldOr given "scale_factor" absent.scaleFactor readSigned32
  let preferDark ← fieldOr given "prefer_dark" absent.preferDark readBool
  let docked ← fieldOr given "docked" absent.docked readBool
  let overviewVisible ← fieldOr given "overview_visible" absent.overviewVisible readBool
  return { usableWidth, usableHeight, scaleFactor, preferDark, docked, overviewVisible }

/-- The form of the section on the screen. -/
def Screen.form (part : Screen) : Value := .record [
  ("usable_width", ofSigned32 part.usableWidth),
  ("usable_height", ofSigned32 part.usableHeight),
  ("scale_factor", ofSigned32 part.scaleFactor),
  ("prefer_dark", .bool part.preferDark),
  ("docked", .bool part.docked),
  ("overview_visible", .bool part.overviewVisible)]

/-- Reads the section on launches. -/
def Launching.read (surplus : Surplus) : Reader Launching := fun value => do
  let given ← fields surplus ["timeout_ms", "sweep_interval_ms"] value
  let absent : Launching := {}
  let timeout ← fieldOr given "timeout_ms" absent.timeout readWord64
  let sweepInterval ← fieldOr given "sweep_interval_ms" absent.sweepInterval readWord64
  return { timeout, sweepInterval }

/-- The form of the section on launches. -/
def Launching.form (part : Launching) : Value := .record [
  ("timeout_ms", ofWord64 part.timeout),
  ("sweep_interval_ms", ofWord64 part.sweepInterval)]

/-- Reads the section on applications. -/
def Apps.read (surplus : Surplus) : Reader Apps := fun value => do
  let given ← fields surplus ["known"] value
  let known ← fieldOr given "known" [] (readList readText)
  return { known }

/-- The form of the section on applications. -/
def Apps.form (part : Apps) : Value :=
  .record [("known", .list (part.known.map .text))]

/-- Reads the section on the source of events. -/
def Feed.read (surplus : Surplus) : Reader Feed := fun value => do
  let given ← fields surplus ["mode", "replay_path", "dry_run_interval_ms"] value
  let absent : Feed := {}
  let mode ← fieldOr given "mode" absent.mode readText
  let replayPath ← fieldOr given "replay_path" absent.replayPath (readNullable readText)
  let rehearsalInterval ← fieldOr given "dry_run_interval_ms" absent.rehearsalInterval readWord64
  return { mode, replayPath, rehearsalInterval }

/-- The form of the section on the source of events. -/
def Feed.form (part : Feed) : Value := .record [
  ("mode", .text part.mode),
  ("replay_path", ofNullable .text part.replayPath),
  ("dry_run_interval_ms", ofWord64 part.rehearsalInterval)]

/-- Reads all settings. -/
def read (surplus : Surplus) : Reader Settings := fun value => do
  let given ← fields surplus ["logging", "screen", "launch", "apps", "source"] value
  let logging ← fieldOr given "logging" {} (Logging.read surplus)
  let screen ← fieldOr given "screen" {} (Screen.read surplus)
  let launch ← fieldOr given "launch" {} (Launching.read surplus)
  let apps ← fieldOr given "apps" {} (Apps.read surplus)
  let source ← fieldOr given "source" {} (Feed.read surplus)
  return { logging, screen, launch, apps, source }

/-- The form of all settings. -/
def form (settings : Settings) : Value := .record [
  ("logging", settings.logging.form),
  ("screen", settings.screen.form),
  ("launch", settings.launch.form),
  ("apps", settings.apps.form),
  ("source", settings.source.form)]

end TaskSwitcher.Settings
