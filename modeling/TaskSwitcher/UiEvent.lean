import TaskSwitcher.Handle
import TaskSwitcher.Text.Quoted
import TaskSwitcher.Window

/-!
# What the user and the shell do to the overview

A card is addressed by its handle or by its page, the position in the carousel.
-/

namespace TaskSwitcher

/-- The address of a card. -/
inductive ActivityRef where
  | id (handle : Handle)
  | page (index : UInt64)
deriving DecidableEq

/-- Names a card in a message. -/
def ActivityRef.text : ActivityRef → String
  | id handle => handle.text
  | page index => "page #" ++ toString index.toNat

/-- One input for the search field. -/
inductive SearchInput where
  | char (character : Char)
  | backspace
  | escape
  | other
deriving DecidableEq

/-- Whether the search field used an input up. -/
inductive Propagation where
  | stop
  | proceed
deriving DecidableEq

/-- The spelling of a propagation. -/
def Propagation.text : Propagation → String
  | stop => "Stop"
  | proceed => "Proceed"

/-- An action of the user or of the shell. -/
inductive UiEvent where
  | clicked (activity : ActivityRef)
  | closeRequested (activity : ActivityRef)
  | fullscreenRequested (activity : ActivityRef) (fullscreen : Bool)
  | resized (activity : ActivityRef) (width height : Int32)
  | focusChanged (activity : ActivityRef) (hasFocus : Bool)
  /-- No index means that the carousel is empty. -/
  | pageChanged (index : Option UInt64)
  | appLaunched (appId : String)
  | selectionAborted
  | usableAreaChanged (width height : Int32)
  | refresh
  | reset
  | focusAppSearch
  | search (input : SearchInput)
deriving DecidableEq

/-- The spelled-out address of a card. -/
def ActivityRef.spelled : ActivityRef → String
  | id handle => "Id(" ++ handle.text ++ ")"
  | page index => "Page(" ++ toString index.toNat ++ ")"

/-- The spelled-out input. -/
def SearchInput.spelled : SearchInput → String
  | char character => "Char(" ++ Text.quotedChar character ++ ")"
  | backspace => "Backspace"
  | escape => "Escape"
  | other => "Other"

/-- A name followed by named parts in braces. -/
def spelledParts (name : String) (parts : List (String × String)) : String :=
  name ++ " \x7b " ++
    String.intercalate ", " (parts.map fun (part, value) => part ++ ": " ++ value) ++ " \x7d"

/-- The spelled-out action: its name and its parts. -/
def UiEvent.spelled : UiEvent → String
  | clicked activity => spelledParts "Clicked" [("activity", activity.spelled)]
  | closeRequested activity => spelledParts "CloseRequested" [("activity", activity.spelled)]
  | fullscreenRequested activity fullscreen =>
      spelledParts "FullscreenRequested"
        [("activity", activity.spelled), ("fullscreen", boolText fullscreen)]
  | resized activity width height =>
      spelledParts "Resized"
        [("activity", activity.spelled), ("width", toString width.toInt),
          ("height", toString height.toInt)]
  | focusChanged activity hasFocus =>
      spelledParts "FocusChanged"
        [("activity", activity.spelled), ("has_focus", boolText hasFocus)]
  | pageChanged none => spelledParts "PageChanged" [("index", "None")]
  | pageChanged (some index) =>
      spelledParts "PageChanged" [("index", "Some(" ++ toString index.toNat ++ ")")]
  | appLaunched appId => spelledParts "AppLaunched" [("app_id", Text.quoted appId)]
  | selectionAborted => "SelectionAborted"
  | usableAreaChanged width height =>
      spelledParts "UsableAreaChanged"
        [("width", toString width.toInt), ("height", toString height.toInt)]
  | refresh => "Refresh"
  | reset => "Reset"
  | focusAppSearch => "FocusAppSearch"
  | search input => spelledParts "Search" [("input", input.spelled)]

end TaskSwitcher
