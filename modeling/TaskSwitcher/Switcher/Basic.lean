import TaskSwitcher.AppGrid
import TaskSwitcher.Carousel.Basic
import TaskSwitcher.Device
import TaskSwitcher.Failure
import TaskSwitcher.SplashLayer
import TaskSwitcher.Thumbnailer

/-!
# The overview and the parts it works with

One value holds the whole situation: the carousel, the announcements that were not collected yet, and
every part that the overview commands. All commands go through the functions of this module, which also
keep a journal of them in the order in which they were given.
-/

namespace TaskSwitcher

/-- A command that the overview gave to one of the other parts. -/
inductive Call where
  | window (command : WindowCommand)
  | splash (command : SplashCommand)
  | feedback (name : String)
  | thumbnailRequest (request : ThumbnailRequest) (activity : Handle) (window : WindowId)
      (size : Size)
  | thumbnailCancel (request : ThumbnailRequest)
  | gridReset
  | gridFocusSearch
  | gridSearch (input : SearchInput) (propagation : Propagation)
deriving DecidableEq

/-- The overview with everything around it. -/
structure Switcher extends Device where
  carousel : Carousel := {}
  /-- How long a splash may wait for its window, in milliseconds; forever if absent. -/
  launchTimeout : Option Nat := none
  /-- The announcements that were not collected yet, oldest first. -/
  signals : List Signal := []
  splash : SplashLayer
  apps : AppDirectory
  thumbnailer : Thumbnailer := {}
  grid : AppGrid := {}
  /-- The commands given so far, oldest first. -/
  calls : List Call := []

namespace Switcher

/-- Announces something. -/
def emit (switcher : Switcher) (signal : Signal) : Switcher :=
  { switcher with signals := switcher.signals ++ [signal] }

/-- Announces the noted changes of whether there are any cards. -/
def announceOccupancy (switcher : Switcher) : Switcher :=
  { switcher with
    signals := switcher.signals ++ switcher.carousel.changes.map .hasActivities
    carousel := switcher.carousel.drain }

/-- Gives a command to the compositor, whose echo goes to the mailbox. -/
def commandWindow (switcher : Switcher) (command : WindowCommand) : Switcher :=
  { switcher with
    registry := (switcher.registry.perform command).1
    mailbox := switcher.mailbox.postAll ((switcher.registry.perform command).2.map .window)
    calls := switcher.calls ++ [.window command] }

/-- Gives a command to the splash layer. -/
def commandSplash (switcher : Switcher) (command : SplashCommand) : Switcher :=
  { switcher with
    splash := switcher.splash.perform command
    calls := switcher.calls ++ [.splash command] }

/-- Asks the shell for feedback. -/
def giveFeedback (switcher : Switcher) (name : String) : Switcher :=
  { switcher with
    shell := switcher.shell.giveFeedback name
    calls := switcher.calls ++ [.feedback name] }

/-- Asks for the picture of a window on behalf of an activity. -/
def askThumbnail (switcher : Switcher) (activity : Handle) (window : WindowId) (size : Size) :
    Switcher :=
  { switcher with
    thumbnailer := switcher.thumbnailer.request switcher.mailbox
    mailbox := switcher.thumbnailer.answer switcher.mailbox activity
    calls := switcher.calls ++
      [.thumbnailRequest switcher.thumbnailer.next activity window size] }

/-- Withdraws a request for a picture, if there is one. -/
def cancelThumbnail (switcher : Switcher) : Option ThumbnailRequest → Switcher
  | none => switcher
  | some request =>
      { switcher with
        thumbnailer := switcher.thumbnailer.cancel request
        calls := switcher.calls ++ [.thumbnailCancel request] }

/-- Changes the carousel. -/
def mapCarousel (switcher : Switcher) (change : Carousel → Carousel) : Switcher :=
  { switcher with carousel := change switcher.carousel }

/-- The factor between sizes on the screen and sizes of pictures. -/
def pictureScale (switcher : Switcher) : Int32 :=
  max switcher.shell.scaleFactor 1

/-- Asks for a new picture of the window that a card shows. The card then waits for this picture alone,
and an earlier request of the card is withdrawn. Nothing happens for a splash. -/
def requestThumbnail (switcher : Switcher) (handle : Handle) : Switcher :=
  match switcher.carousel.get? handle with
  | none => switcher
  | some activity =>
      match activity.window? with
      | none => switcher
      | some window =>
          ((switcher.askThumbnail handle window
                (activity.thumbnailSize.scaled switcher.pictureScale)).mapCarousel
              (·.modify handle (·.awaiting (some switcher.thumbnailer.next)))).cancelThumbnail
            (activity.superseded switcher.thumbnailer.next)

/-- Where a new card belongs: behind the group of its parent, or at the end. -/
def placeOf (switcher : Switcher) (activity : Activity) : Nat :=
  (activity.parentAppId.bind switcher.carousel.groupEnd?).getD switcher.carousel.length

/-- Puts a new card in its place. It gets the next handle of the carousel. -/
def createActivity (switcher : Switcher) (activity : Activity) : Switcher :=
  (switcher.mapCarousel (·.insert (switcher.placeOf activity) activity)).announceOccupancy

/-- Removes a card and withdraws its request for a picture. -/
def destroyActivity (switcher : Switcher) (handle : Handle) : Switcher :=
  match switcher.carousel.get? handle with
  | none => switcher
  | some activity =>
      ((switcher.mapCarousel (·.erase handle)).cancelThumbnail activity.pending?).announceOccupancy

/-- Makes a card the one of the active window and scrolls to it. -/
def focusActivity (switcher : Switcher) (handle : Handle) : Switcher :=
  switcher.mapCarousel fun carousel => (carousel.focus handle).scrollTo handle

end Switcher

end TaskSwitcher
