import TaskSwitcher.Event
import TaskSwitcher.Form.Basic

/-!
# Written forms of events

Reports about windows and actions of the user are records with a `kind`; addresses of cards and inputs
of the search field are choices.
-/

namespace TaskSwitcher

open Form

/-- Reads the number of a window. -/
def WindowId.read : Reader WindowId := fun value => (readWord64 value).map WindowId.mk

/-- The form of the number of a window. -/
def WindowId.form (id : WindowId) : Value := ofWord64 id.number

namespace Window

/-- The fields of a snapshot, in order. -/
def fieldNames : List String :=
  ["id", "app_id", "title", "parent", "maximized", "fullscreen", "activated"]

/-- Reads a snapshot of a window. Its number and its application have to be there. -/
def read : Reader Window := fun value => do
  let given ← fields .refused fieldNames value
  let id ← required given "id" WindowId.read
  let appId ← required given "app_id" readText
  let title ← fieldOr given "title" "" readText
  let parent ← fieldOr given "parent" none (readNullable WindowId.read)
  let maximized ← fieldOr given "maximized" false readBool
  let fullscreen ← fieldOr given "fullscreen" false readBool
  let activated ← fieldOr given "activated" false readBool
  return { id, appId, title, parent, maximized, fullscreen, activated }

/-- The fields of a snapshot with their values. -/
def formFields (window : Window) : Fields := [
  ("id", window.id.form),
  ("app_id", .text window.appId),
  ("title", .text window.title),
  ("parent", ofNullable WindowId.form window.parent),
  ("maximized", .bool window.maximized),
  ("fullscreen", .bool window.fullscreen),
  ("activated", .bool window.activated)]

/-- The form of a snapshot. -/
def form (window : Window) : Value := .record window.formFields

end Window

namespace WindowEvent

/-- Reads a report about a window. -/
def read : Reader WindowEvent := fun value => do
  let (kind, rest) ← tagged value
  match kind with
  | "added" => (Window.read rest).map added
  | "changed" => (Window.read rest).map changed
  | "activated_changed" => (Window.read rest).map activatedChanged
  | "closed" =>
      let given ← fields .refused ["id"] rest
      (required given "id" WindowId.read).map closed
  | _ => none

/-- The form of a report about a window. -/
def form : WindowEvent → Value
  | added window => .record (("kind", .text "added") :: window.formFields)
  | changed window => .record (("kind", .text "changed") :: window.formFields)
  | activatedChanged window => .record (("kind", .text "activated_changed") :: window.formFields)
  | closed id => .record [("kind", .text "closed"), ("id", id.form)]

end WindowEvent

/-- Reads the stage of a launch. -/
def LaunchStage.read : Reader LaunchStage := fun value => do
  let (name, payload) ← choice value
  if isBare payload then
    match name with
    | "started" => some .started
    | "ready" => some .ready
    | "failed" => some .failed
    | _ => none
  else none

/-- The form of the stage of a launch. -/
def LaunchStage.form : LaunchStage → Value
  | started => .text "started"
  | ready => .text "ready"
  | failed => .text "failed"

namespace LaunchEvent

/-- Reads a report about a launch. -/
def read (surplus : Surplus) : Reader LaunchEvent := fun value => do
  let given ← fields surplus ["stage", "app_id", "startup_id"] value
  let stage ← required given "stage" LaunchStage.read
  let appId ← required given "app_id" readText
  let token ← required given "startup_id" readText
  return { stage, appId, startupId := ⟨token⟩ }

/-- The form of a report about a launch. -/
def form (event : LaunchEvent) : Value := .record [
  ("stage", event.stage.form),
  ("app_id", .text event.appId),
  ("startup_id", .text event.startupId.token)]

end LaunchEvent

namespace Handle

/-- Reads a handle. -/
def read : Reader Handle := fun value => do
  let given ← fields .refused ["idx", "version"] value
  let slot ← required given "idx" readWord32
  let version ← required given "version" readWord32
  return normalized slot version

/-- The form of a handle. -/
def form (handle : Handle) : Value := .record [
  ("idx", .int handle.slot),
  ("version", ofWord32 handle.version)]

end Handle

namespace ActivityRef

/-- Reads the address of a card. -/
def read : Reader ActivityRef := fun value => do
  match ← choice value with
  | ("id", some payload) => (Handle.read payload).map id
  | ("page", some payload) => (readWord64 payload).map page
  | _ => none

/-- The form of the address of a card. -/
def form : ActivityRef → Value
  | id handle => .record [("id", handle.form)]
  | page index => .record [("page", ofWord64 index)]

end ActivityRef

namespace SearchInput

/-- Reads an input whose name may come with anything that `bare` accepts, unless it is a character. -/
def readWith (bare : Option Value → Bool) : Reader SearchInput := fun value => do
  match ← choice value with
  | ("char", some payload) => (readChar payload).map char
  | ("backspace", payload) => if bare payload then some backspace else none
  | ("escape", payload) => if bare payload then some escape else none
  | ("other", payload) => if bare payload then some other else none
  | _ => none

/-- Reads an input. -/
def read : Reader SearchInput := readWith isBare

/-- Whether a choice inside a record with a kind comes with nothing, null or an empty record. -/
def isBareInside : Option Value → Bool
  | some (.record []) => true
  | payload => isBare payload

/-- Reads an input inside a record with a kind. -/
def readInside : Reader SearchInput := readWith isBareInside

/-- The form of an input. -/
def form : SearchInput → Value
  | char character => .record [("char", .text (String.ofList [character]))]
  | backspace => .text "backspace"
  | escape => .text "escape"
  | other => .text "other"

end SearchInput

namespace UiEvent

/-- Reads an action without parts. -/
def readBare (event : UiEvent) : Reader UiEvent
  | .record _ | .list [] => some event
  | _ => none

/-- Reads a change of the page. The index may be missing in a record, but not in a list. -/
def readPageChanged : Reader UiEvent
  | .list [] => none
  | value => do
      let given ← fields .refused ["index"] value
      (fieldOr given "index" none (readNullable readWord64)).map pageChanged

/-- Reads an action of a kind whose parts begin with the address of a card. -/
def readAddressed (others : List String) (rest : ActivityRef → Fields → Option UiEvent) :
    Reader UiEvent := fun value => do
  let given ← fields .refused ("activity" :: others) value
  let activity ← required given "activity" ActivityRef.read
  rest activity given

/-- Reads the parts of an action of a given kind. -/
def readKind (kind : String) : Reader UiEvent :=
  match kind with
  | "clicked" => readAddressed [] fun activity _ => some (clicked activity)
  | "close_requested" => readAddressed [] fun activity _ => some (closeRequested activity)
  | "fullscreen_requested" => readAddressed ["fullscreen"] fun activity given =>
      (required given "fullscreen" readBool).map (fullscreenRequested activity)
  | "resized" => readAddressed ["width", "height"] fun activity given => do
      let width ← required given "width" readSigned32
      let height ← required given "height" readSigned32
      return resized activity width height
  | "focus_changed" => readAddressed ["has_focus"] fun activity given =>
      (required given "has_focus" readBool).map (focusChanged activity)
  | "page_changed" => readPageChanged
  | "app_launched" => fun value => do
      let given ← fields .refused ["app_id"] value
      (required given "app_id" readText).map appLaunched
  | "selection_aborted" => readBare selectionAborted
  | "usable_area_changed" => fun value => do
      let given ← fields .refused ["width", "height"] value
      let width ← required given "width" readSigned32
      let height ← required given "height" readSigned32
      return usableAreaChanged width height
  | "refresh" => readBare refresh
  | "reset" => readBare reset
  | "focus_app_search" => readBare focusAppSearch
  | "search" => fun value => do
      let given ← fields .refused ["input"] value
      (required given "input" SearchInput.readInside).map search
  | _ => fun _ => none

/-- Reads an action. -/
def read : Reader UiEvent := fun value => do
  let (kind, rest) ← tagged value
  readKind kind rest

/-- The form of an action of some kind with its parts. -/
def formOf (kind : String) (parts : Fields) : Value :=
  .record (("kind", .text kind) :: parts)

/-- The form of an action. -/
def form : UiEvent → Value
  | clicked activity => formOf "clicked" [("activity", activity.form)]
  | closeRequested activity => formOf "close_requested" [("activity", activity.form)]
  | fullscreenRequested activity fullscreen =>
      formOf "fullscreen_requested"
        [("activity", activity.form), ("fullscreen", .bool fullscreen)]
  | resized activity width height =>
      formOf "resized"
        [("activity", activity.form), ("width", ofSigned32 width), ("height", ofSigned32 height)]
  | focusChanged activity hasFocus =>
      formOf "focus_changed" [("activity", activity.form), ("has_focus", .bool hasFocus)]
  | pageChanged index => formOf "page_changed" [("index", ofNullable ofWord64 index)]
  | appLaunched appId => formOf "app_launched" [("app_id", .text appId)]
  | selectionAborted => formOf "selection_aborted" []
  | usableAreaChanged width height =>
      formOf "usable_area_changed" [("width", ofSigned32 width), ("height", ofSigned32 height)]
  | refresh => formOf "refresh" []
  | reset => formOf "reset" []
  | focusAppSearch => formOf "focus_app_search" []
  | search input => formOf "search" [("input", input.form)]

end UiEvent

end TaskSwitcher
