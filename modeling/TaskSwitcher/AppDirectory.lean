import TaskSwitcher.Text.Blank
import TaskSwitcher.Text.Lowercase

/-!
# Recognising applications

Windows and launches report the application they belong to by an id whose spelling varies. The
directory maps such an id to the one desktop entry of the application, so that a window can be matched
with the launch that opened it.
-/

namespace TaskSwitcher

/-- What is known about an application: the name of its desktop entry. Two applications are the same
when their desktop entries are. -/
structure AppInfo where
  desktopId : String
deriving DecidableEq

/-- The ending of the names of desktop entries. -/
def desktopEnding : List Char := ".desktop".toList

/-- The applications that are recognised, without the ending of desktop entries, in the order in which
they are searched. The empty directory recognises every application. -/
structure AppDirectory where
  known : List String

namespace AppDirectory

/-- An id without one ending of desktop entries. -/
def stem (id : String) : String :=
  String.ofList (Text.withoutEnding desktopEnding id.toList)

/-- The directory of the listed applications. -/
def ofList (entries : List String) : AppDirectory :=
  ⟨entries.map stem⟩

/-- The form in which ids are compared when their spelling differs. -/
def folded (id : String) : List Char :=
  Text.lowercase id.toList

/-- The spelling under which an application is listed: its own if the directory is empty or has it,
otherwise the first one that differs in case only. -/
def lookup (directory : AppDirectory) (id : String) : Option String :=
  if directory.known.isEmpty || directory.known.contains id then
    some id
  else
    directory.known.find? fun entry => folded entry = folded id

/-- A reported id without surrounding blanks and without one ending of desktop entries. -/
def cleaned (id : String) : String :=
  stem (String.ofList (Text.trim id.toList))

/-- The application with the reported id, if the directory recognises it. -/
def resolve (directory : AppDirectory) (id : String) : Option AppInfo :=
  let id := cleaned id
  if id = "" then none
  else (directory.lookup id).map fun entry => ⟨entry ++ String.ofList desktopEnding⟩

end AppDirectory

end TaskSwitcher
