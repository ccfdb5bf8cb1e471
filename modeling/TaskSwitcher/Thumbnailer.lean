import TaskSwitcher.Mailbox

/-!
# The maker of window pictures

Requests are numbered from one. A connected maker answers a request at once by a piece of news; a
request whose answer could not be delivered is kept until it is cancelled.
-/

namespace TaskSwitcher

/-- The maker of window pictures. -/
structure Thumbnailer where
  /-- The number of the next request. -/
  upcoming : UInt64 := 1
  /-- The requests without a delivered answer. -/
  pending : List ThumbnailRequest := []
  /-- Whether answers are sent at all. -/
  answering : Bool := false

namespace Thumbnailer

/-- The next request. -/
def next (thumbnailer : Thumbnailer) : ThumbnailRequest :=
  ⟨thumbnailer.upcoming⟩

/-- Whether the answer to a request reaches the mailbox. -/
def delivers (thumbnailer : Thumbnailer) (mailbox : Mailbox) : Bool :=
  thumbnailer.answering && mailbox.isOpen

/-- The set of pending requests with one more. -/
def including (pending : List ThumbnailRequest) (request : ThumbnailRequest) :
    List ThumbnailRequest :=
  if request ∈ pending then pending else pending ++ [request]

/-- The maker after `next` was asked for. -/
def request (thumbnailer : Thumbnailer) (mailbox : Mailbox) : Thumbnailer :=
  { thumbnailer with
    upcoming := thumbnailer.upcoming + 1
    pending :=
      if thumbnailer.delivers mailbox then thumbnailer.pending
      else including thumbnailer.pending thumbnailer.next }

/-- The mailbox after `next` was asked for on behalf of an activity. -/
def answer (thumbnailer : Thumbnailer) (mailbox : Mailbox) (activity : Handle) : Mailbox :=
  if thumbnailer.answering then mailbox.post (.thumbnailReady activity thumbnailer.next) else mailbox

/-- The maker after a request was withdrawn. -/
def cancel (thumbnailer : Thumbnailer) (request : ThumbnailRequest) : Thumbnailer :=
  { thumbnailer with pending := thumbnailer.pending.filter (· ≠ request) }

/-! ### What is kept and what is sent -/

variable (thumbnailer : Thumbnailer) (mailbox : Mailbox) (asked : ThumbnailRequest)

/-- A new request is kept if its answer does not reach the mailbox. -/
theorem mem_pending_request (request : ThumbnailRequest) :
    request ∈ (thumbnailer.request mailbox).pending ↔
      request ∈ thumbnailer.pending ∨
        request = thumbnailer.next ∧ ¬ thumbnailer.delivers mailbox = true := by
  unfold Thumbnailer.request including
  by_cases delivered : thumbnailer.delivers mailbox = true
  · simp [delivered]
  · by_cases known : thumbnailer.next ∈ thumbnailer.pending
    · simp only [delivered, known, if_true]
      constructor
      · exact .inl
      · rintro (member | ⟨rfl, -⟩)
        · exact member
        · exact known
    · simp [delivered, known]

/-- A new request is kept once, whatever its number. -/
theorem nodup_pending_request (distinct : thumbnailer.pending.Nodup) :
    (thumbnailer.request mailbox).pending.Nodup := by
  unfold Thumbnailer.request including
  by_cases delivered : thumbnailer.delivers mailbox = true
  · simpa [delivered] using distinct
  · by_cases known : thumbnailer.next ∈ thumbnailer.pending
    · simpa [delivered, known] using distinct
    · have apart (request : ThumbnailRequest) (member : request ∈ thumbnailer.pending) :
          request ≠ thumbnailer.next := fun same => known (same ▸ member)
      simpa [delivered, known, List.nodup_append, distinct] using apart

/-- What is withdrawn is kept no longer, and everything else is. -/
theorem mem_pending_cancel (request : ThumbnailRequest) :
    request ∈ (thumbnailer.cancel asked).pending ↔ request ∈ thumbnailer.pending ∧ request ≠ asked := by
  simp [cancel]

/-- Withdrawing a request repeats none of the others. -/
theorem nodup_pending_cancel (distinct : thumbnailer.pending.Nodup) :
    (thumbnailer.cancel asked).pending.Nodup :=
  distinct.filter _

/-- Nothing else is sent than the answer to the request. -/
theorem mem_waiting_answer (activity : Handle) (event : Event) :
    event ∈ (thumbnailer.answer mailbox activity).waiting ↔
      event ∈ mailbox.waiting ∨
        event = .thumbnailReady activity thumbnailer.next ∧
          thumbnailer.delivers mailbox = true := by
  unfold answer delivers Mailbox.post
  by_cases answering : thumbnailer.answering = true <;> by_cases isOpen : mailbox.isOpen = true <;>
    simp [answering, isOpen]

end Thumbnailer

end TaskSwitcher
