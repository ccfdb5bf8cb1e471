import TaskSwitcher.Scenario.Play
import TaskSwitcher.Switcher.Launches
import TaskSwitcher.Switcher.Requests
import TaskSwitcher.Switcher.Windows

/-!
# Handling events

Events are handled one at a time. An event that fails leaves everything as it was. Handling an event may
send further events to the mailbox, but never an endless stream of them: one action of the user leads to
at most three events in all, so three times the number of waiting events is enough to empty the mailbox.
-/

namespace TaskSwitcher.Switcher

/-- Accepts the picture a card waits for. Others, and those for cards that are gone, are ignored. -/
def thumbnailReady (switcher : Switcher) (handle : Handle) (request : ThumbnailRequest) : Switcher :=
  switcher.mapCarousel (·.modify handle (·.receive request))

/-- Handles one event that comes at the time `now`. -/
def handle (switcher : Switcher) (now : Nat) : Event → Switcher × Outcome
  | .window event => switcher.handleWindow event
  | .launch event => (switcher.handleLaunch now event, .ok ())
  | .ui event => switcher.handleUi event
  | .thumbnailReady activity request => (switcher.thumbnailReady activity request, .ok ())
  | .tick now => (switcher.expireLaunches now, .ok ())

/-- An event that was handled, and how that ended. -/
structure Handled where
  event : Event
  outcome : Outcome

/-- The situation after the oldest waiting event was taken out of the mailbox. -/
def taken (switcher : Switcher) : Switcher :=
  { switcher with mailbox := { switcher.mailbox with waiting := switcher.mailbox.waiting.tail } }

/-- Handles the oldest waiting event, if one waits. -/
def handleNext (switcher : Switcher) (now : Nat) : Option (Handled × Switcher) :=
  switcher.mailbox.waiting.head?.map fun event =>
    (⟨event, (switcher.taken.handle now event).2⟩, (switcher.taken.handle now event).1)

/-- Handles waiting events, oldest first and at most `limit` of them, those sent meanwhile included. -/
def pumpAtMost (switcher : Switcher) (now : Nat) : Nat → Switcher × List Handled
  | 0 => (switcher, [])
  | limit + 1 =>
      match switcher.handleNext now with
      | none => (switcher, [])
      | some (handled, next) =>
          ((next.pumpAtMost now limit).1, handled :: (next.pumpAtMost now limit).2)

/-- Handles waiting events until none waits. -/
def pump (switcher : Switcher) (now : Nat) : Switcher × List Handled :=
  switcher.pumpAtMost now (3 * switcher.mailbox.waiting.length)

/-- Performs a step of a scenario on the device, which the overview learns of from the mailbox. -/
def applyStep (switcher : Switcher) (step : ScenarioStep) : Switcher × Outcome :=
  ({ switcher with toDevice := (switcher.toDevice.applyStep step).1 },
    (switcher.toDevice.applyStep step).2)

/-- The situation after the announcements were collected. -/
def collected (switcher : Switcher) : Switcher :=
  { switcher with signals := [] }

/-- The situation in which an overview starts: all windows that are open already are shown. -/
def start (switcher : Switcher) : Switcher :=
  switcher.syncWindows

end TaskSwitcher.Switcher
