import TaskSwitcher.Switcher.Basic

/-!
# Serving the user

Requests of the user about a card are passed on to the compositor; the card itself follows when the
compositor reports the result. A request that addresses no card fails and changes nothing.
-/

namespace TaskSwitcher.Switcher

/-- Does something with the handle of the addressed card, or fails if there is no such card. -/
def withHandle (switcher : Switcher) (reference : ActivityRef)
    (serve : Handle → Switcher × Outcome) : Switcher × Outcome :=
  match switcher.carousel.resolve? reference with
  | none => (switcher, .error (.activityNotFound reference.text))
  | some handle => serve handle

/-- Does something for the card of a handle, and nothing if there is none. -/
def onActivity (switcher : Switcher) (handle : Handle) (serve : Activity → Switcher) : Switcher :=
  match switcher.carousel.get? handle with
  | none => switcher
  | some activity => serve activity

/-- Does something for the window of a card, and nothing if the card is a splash. -/
def onWindow (switcher : Switcher) (handle : Handle) (serve : WindowId → Switcher) : Switcher :=
  switcher.onActivity handle fun activity =>
    match activity.window? with
    | none => switcher
    | some window => serve window

section

variable {switcher : Switcher} {reference : ActivityRef} {handle : Handle}
  {motive : Switcher → Prop} (unchanged : motive switcher)

include unchanged

/-- A request leaves the situation as it is or serves the handle that it addresses. -/
@[elab_as_elim]
theorem withHandle_induction {serve : Handle → Switcher × Outcome}
    (served : ∀ handle, switcher.carousel.resolve? reference = some handle → motive (serve handle).1) :
    motive (switcher.withHandle reference serve).1 := by
  unfold withHandle
  split
  · exact unchanged
  · next handle found => exact served handle found

/-- A handle leaves the situation as it is or serves its card. -/
@[elab_as_elim]
theorem onActivity_induction {serve : Activity → Switcher}
    (served : ∀ activity, switcher.carousel.get? handle = some activity → motive (serve activity)) :
    motive (switcher.onActivity handle serve) := by
  unfold onActivity
  split
  · exact unchanged
  · next activity found => exact served activity found

/-- A handle leaves the situation as it is or serves the window of its card. -/
@[elab_as_elim]
theorem onWindow_induction {serve : WindowId → Switcher}
    (served : ∀ activity window, switcher.carousel.get? handle = some activity →
      activity.window? = some window → motive (serve window)) :
    motive (switcher.onWindow handle serve) := by
  unfold onWindow
  refine onActivity_induction unchanged fun activity found => ?_
  split
  · exact unchanged
  · next window shows => exact served activity window found shows

end

/-- Brings to the front what a card shows: its window, or the splash of a launch that has a token. -/
def raise (switcher : Switcher) (activity : Activity) : Switcher :=
  match activity.phase with
  | .running window _ => (switcher.commandWindow (.activate window)).commandSplash .lowerAll
  | .launching startupId _ =>
      if startupId.token = "" then switcher else switcher.commandSplash (.raise startupId)

/-- A click raises what a card shows. -/
def clicked (switcher : Switcher) (reference : ActivityRef) : Switcher × Outcome :=
  switcher.withHandle reference fun handle =>
    (switcher.onActivity handle fun activity => (switcher.raise activity).emit .activityRaised,
      .ok ())

/-- Closing a card asks the compositor to close its window. A splash has nothing to close. -/
def closeRequested (switcher : Switcher) (reference : ActivityRef) : Switcher × Outcome :=
  switcher.withHandle reference fun handle =>
    (switcher.onWindow handle fun window =>
      ((switcher.commandWindow (.close window)).giveFeedback "window-close").emit .activityClosed,
      .ok ())

/-- A change of the full-screen state shows on the card at once and is asked of the compositor. -/
def fullscreenRequested (switcher : Switcher) (reference : ActivityRef) (fullscreen : Bool) :
    Switcher × Outcome :=
  switcher.withHandle reference fun handle =>
    (switcher.onWindow handle fun window =>
      (switcher.mapCarousel (·.modify handle (·.withFullscreen fullscreen))).commandWindow
        (.fullscreen window fullscreen),
      .ok ())

/-- A card is drawn in a new size, for which a picture is wanted. -/
def resized (switcher : Switcher) (reference : ActivityRef) (size : Size) : Switcher × Outcome :=
  switcher.withHandle reference fun handle =>
    if size.isDrawable then
      ((switcher.mapCarousel (·.modify handle (·.withAllocation size))).requestThumbnail handle,
        .ok ())
    else
      (switcher, .error (.invalidSize size.width size.height))

/-- A card that got the keyboard is scrolled to. -/
def focusChanged (switcher : Switcher) (reference : ActivityRef) (hasFocus : Bool) :
    Switcher × Outcome :=
  switcher.withHandle reference fun handle =>
    (if hasFocus then switcher.mapCarousel (·.scrollOnly handle) else switcher, .ok ())

/-- Moving to a page activates its window, but only while the overview is open on an undocked phone. -/
def pageChanged (switcher : Switcher) (index : Option UInt64) : Switcher × Outcome :=
  match index with
  | none => (switcher, .ok ())
  | some index =>
      if switcher.shell.docked || !switcher.shell.overviewVisible then (switcher, .ok ())
      else
        switcher.withHandle (.page index) fun handle =>
          ((switcher.onWindow handle fun window =>
              switcher.commandWindow (.activate window)).mapCarousel (·.grabFocus handle),
            .ok ())

/-- The part of the screen for windows has changed, and with it the size each window will take. -/
def usableAreaChanged (switcher : Switcher) (area : Size) : Switcher :=
  switcher.mapCarousel (·.mapActivities (·.withArea area))

/-- Gives the keyboard to the card of the active window and renews its picture. -/
def refresh (switcher : Switcher) : Switcher :=
  if switcher.carousel.isEmpty then switcher
  else
    match switcher.carousel.focused with
    | none => switcher
    | some handle => (switcher.mapCarousel (·.grabFocus handle)).requestThumbnail handle

/-- Empties the search field. -/
def resetGrid (switcher : Switcher) : Switcher :=
  { switcher with grid := switcher.grid.reset, calls := switcher.calls ++ [.gridReset] }

/-- Gives the keyboard to the search field. -/
def focusAppSearch (switcher : Switcher) : Switcher :=
  { switcher with
    grid := switcher.grid.focusSearch
    calls := switcher.calls ++ [.gridFocusSearch] }

/-- Passes an input to the search field. -/
def search (switcher : Switcher) (input : SearchInput) : Switcher × Propagation :=
  ({ switcher with
      grid := (switcher.grid.search input).1
      calls := switcher.calls ++ [.gridSearch input (switcher.grid.search input).2] },
    (switcher.grid.search input).2)

/-- Handles an action of the user or of the shell. -/
def handleUi (switcher : Switcher) : UiEvent → Switcher × Outcome
  | .clicked activity => switcher.clicked activity
  | .closeRequested activity => switcher.closeRequested activity
  | .fullscreenRequested activity fullscreen => switcher.fullscreenRequested activity fullscreen
  | .resized activity width height => switcher.resized activity ⟨width, height⟩
  | .focusChanged activity hasFocus => switcher.focusChanged activity hasFocus
  | .pageChanged index => switcher.pageChanged index
  | .appLaunched _ => (switcher.emit .activityLaunched, .ok ())
  | .selectionAborted => (switcher.emit .selectionAborted, .ok ())
  | .usableAreaChanged width height => (switcher.usableAreaChanged ⟨width, height⟩, .ok ())
  | .refresh => (switcher.refresh, .ok ())
  | .reset => (switcher.resetGrid, .ok ())
  | .focusAppSearch => (switcher.focusAppSearch, .ok ())
  | .search input => ((switcher.search input).1, .ok ())

end TaskSwitcher.Switcher
