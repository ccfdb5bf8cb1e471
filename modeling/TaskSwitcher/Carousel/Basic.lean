import TaskSwitcher.Activity
import TaskSwitcher.Arena
import TaskSwitcher.UiEvent

/-!
# The carousel

The carousel is the ordered strip of cards. The cards lie in an arena; the strip itself is the list of
their handles. Three references point into it: the card of the window that the compositor regards as
active, the card that the strip is scrolled to, and the card that has the keyboard. They are handles, so
a reference to a card that is gone can be recognised; removing a card clears the references to it. The
carousel also notes whether it has any cards, and each change of that.
-/

namespace TaskSwitcher

/-- The strip of cards with the references into it. -/
structure Carousel where
  arena : Arena Activity := {}
  /-- The handles of the cards in their order on the strip. -/
  order : List Handle := []
  focused : Option Handle := none
  scrollTarget : Option Handle := none
  keyFocus : Option Handle := none
  /-- Whether there are any cards, as last noted. -/
  hasActivities : Bool := false
  /-- The changes of `hasActivities` that nobody has asked for yet, oldest first. -/
  changes : List Bool := []

namespace Carousel

/-- The card with this handle. -/
def get? (carousel : Carousel) (handle : Handle) : Option Activity :=
  carousel.arena.get? handle

/-- Whether the handle names a card of the strip. -/
def contains (carousel : Carousel) (handle : Handle) : Bool :=
  carousel.arena.contains handle

/-- The cards in their order, each with its handle. -/
def entries (carousel : Carousel) : List (Handle × Activity) :=
  carousel.order.filterMap fun handle => (carousel.get? handle).map (handle, ·)

/-- The cards in their order. -/
def activities (carousel : Carousel) : List Activity :=
  carousel.entries.map (·.2)

/-- The number of cards. -/
def length (carousel : Carousel) : Nat :=
  carousel.order.length

/-- Whether there are no cards. -/
def isEmpty (carousel : Carousel) : Bool :=
  carousel.order.isEmpty

/-- The handle of the first card with a property. -/
def findHandle? (carousel : Carousel) (matching : Activity → Bool) : Option Handle :=
  (carousel.entries.find? fun entry => matching entry.2).map (·.1)

/-- The handle of the card at a position. -/
def nth? (carousel : Carousel) (index : Nat) : Option Handle :=
  carousel.order[index]?

/-- The handle of the addressed card, if there is such a card. -/
def resolve? (carousel : Carousel) : ActivityRef → Option Handle
  | .id handle => if carousel.contains handle then some handle else none
  | .page index => carousel.nth? index.toNat

/-- The first card that shows the window. -/
def findByWindow? (carousel : Carousel) (window : WindowId) : Option Handle :=
  carousel.findHandle? fun activity => activity.window? = some window

/-- The first card of the application. -/
def findByAppInfo? (carousel : Carousel) (appInfo : AppInfo) : Option Handle :=
  carousel.findHandle? fun activity => activity.appInfo = some appInfo

/-- The first splash of the launch. -/
def findByStartupId? (carousel : Carousel) (startupId : StartupId) : Option Handle :=
  carousel.findHandle? fun activity => activity.startupId? = some startupId

/-- Whether a card belongs to the group of an application: a window of it, or a child of one. -/
def inGroup (appId : String) (activity : Activity) : Bool :=
  activity.appId = some appId || activity.parentAppId = some appId

/-- The position behind the last card of a group. -/
def groupEnd? (carousel : Carousel) (appId : String) : Option Nat :=
  (carousel.activities.reverse.findIdx? (inGroup appId)).map fun behind =>
    carousel.length - behind

/-- Whether there are cards now. -/
def occupied (carousel : Carousel) : Bool :=
  !carousel.isEmpty

/-- Notes whether there are cards now. -/
def noteOccupancy (carousel : Carousel) : Carousel :=
  if carousel.occupied = carousel.hasActivities then
    carousel
  else
    { carousel with
      hasActivities := carousel.occupied
      changes := carousel.changes ++ [carousel.occupied] }

/-- The carousel after the noted changes were asked for. -/
def drain (carousel : Carousel) : Carousel :=
  { carousel with changes := [] }

/-- The handle that the next card will get. -/
def nextHandle (carousel : Carousel) : Handle :=
  carousel.arena.next

/-- The carousel with a new card in front of the one at `position`, or at the end if there are not that
many cards. The card gets `nextHandle`. -/
def insert (carousel : Carousel) (position : Nat) (activity : Activity) : Carousel :=
  noteOccupancy
    { carousel with
      arena := carousel.arena.insert activity
      order := carousel.order.take position ++ carousel.nextHandle :: carousel.order.drop position }

/-- The carousel with a new card at the end. The card gets `nextHandle`. -/
def push (carousel : Carousel) (activity : Activity) : Carousel :=
  carousel.insert carousel.length activity

/-- A reference, unless it points to `gone`. -/
def withoutReference (gone : Handle) (reference : Option Handle) : Option Handle :=
  if reference = some gone then none else reference

/-- The carousel without the card with this handle. If there is no such card nothing changes. -/
def erase (carousel : Carousel) (handle : Handle) : Carousel :=
  if carousel.contains handle then
    noteOccupancy
      { carousel with
        arena := carousel.arena.remove handle
        order := carousel.order.filter (· ≠ handle)
        focused := withoutReference handle carousel.focused
        scrollTarget := withoutReference handle carousel.scrollTarget
        keyFocus := withoutReference handle carousel.keyFocus }
  else
    carousel

/-- The carousel with the card of one handle changed. -/
def modify (carousel : Carousel) (handle : Handle) (change : Activity → Activity) : Carousel :=
  { carousel with arena := carousel.arena.modify handle change }

/-- The carousel with every card changed. -/
def mapActivities (carousel : Carousel) (change : Activity → Activity) : Carousel :=
  { carousel with arena := carousel.arena.map change }

/-- Makes a card the one of the active window. -/
def focus (carousel : Carousel) (handle : Handle) : Carousel :=
  if carousel.contains handle then { carousel with focused := some handle } else carousel

/-- Scrolls to a card and gives it the keyboard. -/
def scrollTo (carousel : Carousel) (handle : Handle) : Carousel :=
  if carousel.contains handle then
    { carousel with scrollTarget := some handle, keyFocus := some handle }
  else
    carousel

/-- Scrolls to a card that has the keyboard already. -/
def scrollOnly (carousel : Carousel) (handle : Handle) : Carousel :=
  if carousel.contains handle then { carousel with scrollTarget := some handle } else carousel

/-- Gives a card the keyboard. -/
def grabFocus (carousel : Carousel) (handle : Handle) : Carousel :=
  if carousel.contains handle then { carousel with keyFocus := some handle } else carousel

end Carousel

end TaskSwitcher
