import TaskSwitcher.Event

/-!
# The mailbox of the overview

Events wait in the order in which they were sent. A closed mailbox takes no more events; those that wait
already stay.
-/

namespace TaskSwitcher

/-- The events that wait, oldest first. -/
structure Mailbox where
  waiting : List Event := []
  isOpen : Bool := true

namespace Mailbox

/-- The mailbox after an event was sent. A closed one loses it. -/
def post (mailbox : Mailbox) (event : Event) : Mailbox :=
  if mailbox.isOpen then { mailbox with waiting := mailbox.waiting ++ [event] } else mailbox

/-- The mailbox after several events were sent in order. -/
def postAll (mailbox : Mailbox) (events : List Event) : Mailbox :=
  if mailbox.isOpen then { mailbox with waiting := mailbox.waiting ++ events } else mailbox

/-- The mailbox after it was closed. -/
def close (mailbox : Mailbox) : Mailbox :=
  { mailbox with isOpen := false }

variable (mailbox : Mailbox) (events : List Event)

/-- Posting one event is posting a list of one. -/
theorem post_eq_postAll (event : Event) : mailbox.post event = mailbox.postAll [event] :=
  rfl

@[simp] theorem postAll_nil : mailbox.postAll [] = mailbox := by
  simp [postAll]

/-- Events may be posted in several lots. -/
theorem postAll_append (more : List Event) :
    mailbox.postAll (events ++ more) = (mailbox.postAll events).postAll more := by
  by_cases isOpen : mailbox.isOpen = true <;> simp [postAll, isOpen]

@[simp] theorem isOpen_postAll : (mailbox.postAll events).isOpen = mailbox.isOpen := by
  unfold postAll
  split <;> rfl

/-- The events that wait go on waiting, and others only come behind them. -/
theorem waiting_prefix_postAll : mailbox.waiting <+: (mailbox.postAll events).waiting := by
  unfold postAll
  split
  · exact List.prefix_append ..
  · exact List.prefix_rfl

/-- Whatever waits was waiting or has just been sent. -/
theorem mem_waiting_postAll {mailbox : Mailbox} {events : List Event} {event : Event}
    (waits : event ∈ (mailbox.postAll events).waiting) :
    event ∈ mailbox.waiting ∨ event ∈ events := by
  unfold postAll at waits
  split at waits
  · exact List.mem_append.1 waits
  · exact .inl waits

/-- An open mailbox keeps all that is posted, behind what waits already. -/
theorem waiting_postAll (isOpen : mailbox.isOpen = true) :
    (mailbox.postAll events).waiting = mailbox.waiting ++ events := by
  rw [postAll, if_pos isOpen]

end Mailbox

end TaskSwitcher
