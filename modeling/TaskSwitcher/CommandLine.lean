/-!
# The command line

The options of the program and the reader for them. A value follows its option as the next word or after
an equals sign.
-/

namespace TaskSwitcher

/-- What the command line asks for. -/
structure CommandLine where
  /-- The file with the settings. -/
  settingsPath : String := "overview.toml"
  /-- Whether to perform the rehearsal, whatever the settings say. -/
  rehearse : Bool := false
  /-- A recorded scenario to perform. -/
  recording : Option String := none
  /-- The level of reports, if it is not to be that of the settings. -/
  level : Option String := none
deriving DecidableEq

namespace CommandLine

/-- What is wrong with a command line. -/
inductive Fault where
  | unknownOption (word : String)
  | missingValue (option : String)
  | conflict
deriving DecidableEq

/-- The message for a command line that cannot be used. -/
def Fault.message : Fault → String
  | unknownOption word => "unexpected argument '" ++ word ++ "'"
  | missingValue option => "a value is required for '" ++ option ++ "'"
  | conflict => "the argument '--dry-run' cannot be used with '--replay'"

/-- Splits a word at its first equals sign, if it has one behind two dashes. -/
def splitWord (word : String) : String × Option String :=
  let characters := word.toList
  let name := characters.takeWhile (· ≠ '=')
  match characters with
  | '-' :: '-' :: _ =>
      match characters.drop name.length with
      | _ :: value => (String.ofList name, some (String.ofList value))
      | [] => (word, none)
  | _ => (word, none)

/-- Words in which every value stands as a word of its own. -/
def separated (words : List String) : List String :=
  words.flatMap fun word =>
    match splitWord word with
    | (name, some value) => [name, value]
    | (name, none) => [name]

/-- Reads options into a command line. -/
def readOptions (line : CommandLine) : List String → Except Fault CommandLine
  | [] => .ok line
  | "--dry-run" :: rest => readOptions { line with rehearse := true } rest
  | [option] =>
      if option ∈ ["-c", "--config", "--replay", "--log-level"] then .error (.missingValue option)
      else .error (.unknownOption option)
  | option :: value :: rest =>
      if option = "-c" ∨ option = "--config" then
        readOptions { line with settingsPath := value } rest
      else if option = "--replay" then readOptions { line with recording := some value } rest
      else if option = "--log-level" then readOptions { line with level := some value } rest
      else .error (.unknownOption option)

/-- Reads the words of a command line. -/
def read (words : List String) : Except Fault CommandLine :=
  match readOptions {} (separated words) with
  | .ok line => if line.rehearse && line.recording.isSome then .error .conflict else .ok line
  | .error fault => .error fault

end CommandLine

end TaskSwitcher
