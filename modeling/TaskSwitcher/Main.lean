import TaskSwitcher.CommandLine
import TaskSwitcher.Service
import TaskSwitcher.Settings.Load
import TaskSwitcher.Source

/-!
# The program

Loads the settings, chooses a source of events and lets the overview follow it, reporting on the standard
error stream. The program runs until it is stopped.
-/

namespace TaskSwitcher.Program

/-- The environment variables that can set something, one for each field of the settings. -/
def variableNames : List String :=
  match Settings.form {} with
  | .record sections =>
      sections.flatMap fun (part, value) =>
        match value with
        | .record fields => fields.map fun (field, _) => "OVERVIEW_" ++ part ++ "__" ++ field
        | _ => []
  | _ => []

/-- The spelling of a variable name in capital letters. -/
def capitals (name : String) : String :=
  String.ofList (name.toList.map Char.toUpper)

/-- The text of a file, if it can be read. -/
def fileText? (path : String) : IO (Option String) := do
  try
    return some (← IO.FS.readFile path)
  catch _ =>
    return none

/-- The variables that are set. -/
def setVariables : IO (List (String × String)) := do
  let found ← variableNames.mapM fun name => do
    return (← IO.getEnv (capitals name)).map fun value => (name, value)
  return found.filterMap id

/-- Writes a line if its level is not below the wanted one. -/
def report (wanted level line : String) : IO Unit := do
  if Settings.levels.idxOf wanted ≤ Settings.levels.idxOf level then
    IO.eprintln line

/-- Reports how the handling of an event has ended. -/
def reportOutcome (wanted : String) : Outcome → IO Unit
  | .ok () => pure ()
  | .error failure =>
      report wanted (if failure.isDisagreement then "error" else "warn") failure.message

/-- Handles all waiting events and looks for launches that wait too long. -/
def settle (wanted : String) (switcher : Switcher) : IO Switcher := do
  let now ← IO.monoMsNow
  let (next, handled) := switcher.pump now
  for one in handled do
    report wanted "debug" one.event.text
    reportOutcome wanted one.outcome
  let swept := next.expireLaunches now
  for signal in swept.signals do
    report wanted "info" signal.text
  return swept.collected

/-- Performs steps, each after its delay. -/
def perform (wanted : String) (pause : Nat) (switcher : Switcher) :
    List ScenarioStep → IO Switcher
  | [] => pure switcher
  | step :: steps => do
      IO.sleep (UInt32.ofNat ((step.delay.map (·.toNat)).getD pause))
      let (next, outcome) := switcher.applyStep step
      reportOutcome wanted outcome
      perform wanted pause (← settle wanted next) steps

/-- Looks for launches that wait too long, again and again. -/
partial def idle (wanted : String) (interval : UInt32) (switcher : Switcher) : IO Unit := do
  IO.sleep interval
  idle wanted interval (← settle wanted switcher)

/-- Runs the program with the given command line. -/
def run (line : CommandLine) : IO UInt32 := do
  match Settings.load (← fileText? line.settingsPath) (← setVariables) with
  | .error .unreadable =>
      IO.eprintln ("Не удалось загрузить конфигурацию из " ++ Text.quoted line.settingsPath)
      return 1
  | .error (.faulty fault) =>
      IO.eprintln fault.message
      return 1
  | .ok settings =>
      let wanted := line.level.getD settings.logging.level
      let feed :=
        if line.rehearse then { settings.source with mode := "dry_run" } else settings.source
      let path := (Source.recordingPath? line.recording feed).getD ""
      let content ← fileText? path
      match Source.choose (fun _ => content) line.recording feed with
      | .error failure =>
          IO.eprintln failure.message
          return 1
      | .ok source =>
          let switcher := (Switcher.assemble settings true [] settings.launch.limit).start
          let last ← perform wanted source.pause switcher source.steps
          idle wanted (UInt32.ofNat settings.launch.sweepInterval.toNat) last
          return 0

end TaskSwitcher.Program

/-- Starts the program. -/
def main (words : List String) : IO UInt32 := do
  match TaskSwitcher.CommandLine.read words with
  | .ok line => TaskSwitcher.Program.run line
  | .error fault =>
      IO.eprintln fault.message
      return 2
