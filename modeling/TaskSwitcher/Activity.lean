import TaskSwitcher.AppDirectory
import TaskSwitcher.Geometry
import TaskSwitcher.Launch
import TaskSwitcher.ThumbnailRequest

/-!
# Activities

An activity is what the user sees as one card. It either waits for the window of a launch, as a splash,
or shows a window. The step from the first to the second keeps the card and is never undone.
-/

namespace TaskSwitcher

/-- Whether an activity waits for its window or shows it. Times are in milliseconds. -/
inductive Phase where
  | launching (startupId : StartupId) (startedAt : Nat)
  | running (window : WindowId) (pending : Option ThumbnailRequest)
deriving DecidableEq

/-- One card. -/
structure Activity where
  appId : Option String
  appInfo : Option AppInfo
  parentAppId : Option String := none
  title : String := ""
  geometry : Geometry
  /-- Whether a splash is drawn light. -/
  lightStyle : Bool := false
  hasThumbnail : Bool := false
  /-- The size at which the card draws the picture of its window, once it is known. -/
  allocation : Option Size := none
  phase : Phase
deriving DecidableEq

namespace Activity

/-- The splash of a launch. -/
def launching (appId : String) (appInfo : AppInfo) (startupId : StartupId) (area : Size)
    (startedAt : Nat) : Activity where
  appId := some appId
  appInfo := some appInfo
  geometry := { size := area }
  phase := .launching startupId startedAt

/-- The card of a window that no launch announced. -/
def running (window : Window) (appInfo : Option AppInfo) (parentAppId : Option String)
    (area : Size) : Activity where
  appId := some window.appId
  appInfo := appInfo
  parentAppId := parentAppId
  title := window.title
  geometry := .ofWindow area window
  phase := .running window.id none

/-- The window that the card shows. -/
def window? (activity : Activity) : Option WindowId :=
  match activity.phase with
  | .launching .. => none
  | .running window _ => some window

/-- The token of the launch that the card waits for. -/
def startupId? (activity : Activity) : Option StartupId :=
  match activity.phase with
  | .launching startupId _ => some startupId
  | .running .. => none

/-- The picture that the card waits for. -/
def pending? (activity : Activity) : Option ThumbnailRequest :=
  match activity.phase with
  | .launching .. => none
  | .running _ pending => pending

/-- Whether the card shows a window. -/
def isRunning (activity : Activity) : Bool :=
  activity.window?.isSome

/-- Whether the card has waited for its window for `timeout` or longer. A clock that reads earlier than
the start counts as no time passed. -/
def launchExpired (activity : Activity) (now timeout : Nat) : Bool :=
  match activity.phase with
  | .launching _ startedAt => timeout ≤ now - startedAt
  | .running .. => false

/-- The card with its window, which takes the place of the launch. -/
def bindWindow (activity : Activity) (window : Window) (area : Size) : Activity :=
  { activity with
    appId := some window.appId
    title := window.title
    geometry := .ofWindow area window
    lightStyle := false
    phase := .running window.id none }

/-- The card with the title and state that a snapshot of its window reports. -/
def showing (activity : Activity) (window : Window) : Activity :=
  { activity with
    title := window.title
    geometry :=
      { activity.geometry with maximized := window.maximized, fullscreen := window.fullscreen } }

/-- The card with another assumed size of its window. -/
def withArea (activity : Activity) (area : Size) : Activity :=
  { activity with geometry := { activity.geometry with size := area } }

/-- The card with another assumption on whether its window fills the screen. -/
def withFullscreen (activity : Activity) (fullscreen : Bool) : Activity :=
  { activity with geometry := { activity.geometry with fullscreen } }

/-- The card drawn in another size. -/
def withAllocation (activity : Activity) (size : Size) : Activity :=
  { activity with allocation := some size }

/-- The request that is no longer wanted when `request` takes its place. A splash has no use for any
picture, so for it that is `request` itself. -/
def superseded (activity : Activity) (request : ThumbnailRequest) : Option ThumbnailRequest :=
  match activity.phase with
  | .launching .. => some request
  | .running _ pending => pending

/-- The card waiting for the picture of `request` and for no other; a splash waits for none. -/
def awaiting (activity : Activity) (request : Option ThumbnailRequest) : Activity :=
  match activity.phase with
  | .launching .. => activity
  | .running window _ => { activity with phase := .running window request }

/-- Whether the card waits for this very picture. -/
def awaits (activity : Activity) (request : ThumbnailRequest) : Bool :=
  activity.pending? = some request

/-- The card after the picture of `request` came; a picture it does not wait for is ignored. -/
def receive (activity : Activity) (request : ThumbnailRequest) : Activity :=
  if activity.awaits request then { activity.awaiting none with hasThumbnail := true } else activity

/-- The size at which the picture of the window is wanted: the one the card draws, or the one the window
is assumed to have. -/
def thumbnailSize (activity : Activity) : Size :=
  activity.allocation.getD activity.geometry.size

/-- Names the card by application and by what it shows. -/
def text (activity : Activity) : String :=
  let shown :=
    match activity.phase with
    | .launching startupId _ => "splash " ++ startupId.token
    | .running window _ => window.text
  "'" ++ activity.appId.getD "?" ++ "' [" ++ shown ++ "]"

end Activity

end TaskSwitcher
