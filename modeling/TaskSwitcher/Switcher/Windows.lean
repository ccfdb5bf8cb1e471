import TaskSwitcher.Switcher.Basic

/-!
# Keeping up with the windows

Every open window has exactly one card. A window of an application whose first card is still a splash
takes over that splash; any other new window gets a card of its own, behind the cards of its parent's
application if it has a parent.
-/

namespace TaskSwitcher.Switcher

/-- The application of the registered parent of a window. -/
def parentAppId? (switcher : Switcher) (window : Window) : Option String :=
  (switcher.registry.parent? window).map (·.appId)

/-- The splash that a new window takes over: the first card of its application, if that is a splash. -/
def splashFor? (switcher : Switcher) (appInfo : Option AppInfo) : Option Handle :=
  (appInfo.bind switcher.carousel.findByAppInfo?).filter fun handle =>
    (switcher.carousel.get? handle).any fun activity => !activity.isRunning

/-- Copies the title and state that a snapshot reports to the card of the window. -/
def showWindow (switcher : Switcher) (handle : Handle) (window : Window) : Switcher :=
  switcher.mapCarousel (·.modify handle (·.showing window))

/-- Gives a window the splash that it takes over. -/
def upgradeSplash (switcher : Switcher) (handle : Handle) (window : Window) : Switcher :=
  (switcher.mapCarousel
    (·.modify handle (·.bindWindow window switcher.shell.usableArea))).requestThumbnail handle

/-- Gives a window a card of its own. -/
def addCard (switcher : Switcher) (window : Window) : Switcher :=
  switcher.createActivity
    (.running window (switcher.apps.resolve window.appId) (switcher.parentAppId? window)
      switcher.shell.usableArea)

/-- Makes the card of a window the active one if the window is active. -/
def focusIfActive (switcher : Switcher) (window : Window) (handle : Handle) : Switcher :=
  if window.activated then switcher.focusActivity handle else switcher

/-- Gives a card to a window that has none. -/
def placeWindow (switcher : Switcher) (window : Window) : Switcher :=
  match switcher.splashFor? (switcher.apps.resolve window.appId) with
  | some handle => (switcher.upgradeSplash handle window).focusIfActive window handle
  | none => (switcher.addCard window).focusIfActive window switcher.carousel.nextHandle

/-- A window was opened. One that has a card already only has its state copied. -/
def windowAdded (switcher : Switcher) (window : Window) : Switcher :=
  match switcher.carousel.findByWindow? window.id with
  | some handle => switcher.showWindow handle window
  | none => switcher.placeWindow window

/-- A window has changed. While the overview is hidden its picture is renewed; the open overview renews
pictures itself. -/
def windowChanged (switcher : Switcher) (window : Window) : Switcher × Outcome :=
  match switcher.carousel.findByWindow? window.id with
  | none => (switcher, .error (.activityNotFound window.id.text))
  | some handle =>
      (if switcher.shell.overviewVisible then switcher.showWindow handle window
        else (switcher.showWindow handle window).requestThumbnail handle, .ok ())

/-- A window was closed. -/
def windowClosed (switcher : Switcher) (id : WindowId) : Switcher × Outcome :=
  match switcher.carousel.findByWindow? id with
  | none => (switcher, .error (.activityNotFound id.text))
  | some handle => (switcher.destroyActivity handle, .ok ())

/-- A window became active, or ceased to be, which calls for nothing. -/
def windowActivated (switcher : Switcher) (window : Window) : Switcher × Outcome :=
  if window.activated then
    match switcher.carousel.findByWindow? window.id with
    | none => (switcher, .error (.activityNotFound window.id.text))
    | some handle => (switcher.focusActivity handle, .ok ())
  else
    (switcher, .ok ())

/-- Handles a report about a window. -/
def handleWindow (switcher : Switcher) : WindowEvent → Switcher × Outcome
  | .added window => (switcher.windowAdded window, .ok ())
  | .changed window => switcher.windowChanged window
  | .closed id => switcher.windowClosed id
  | .activatedChanged window => switcher.windowActivated window

/-- Shows all windows of the registry, in its order. -/
def syncWindows (switcher : Switcher) : Switcher :=
  (switcher.registry.windows.foldl windowAdded switcher).announceOccupancy

end TaskSwitcher.Switcher
