import TaskSwitcher.Proofs.Carousel.Views

/-!
# What the cards know of the pictures of their windows

A card either has a picture of its window or has none, and it may wait for a new one. A splash has no
window to take a picture of. A picture is expected when the card has one or waits for one; the arrival of
a picture, wanted or not, never makes an expected picture unexpected.
-/

namespace TaskSwitcher

/-- Whether there is a picture of a window already, and the request for a new one that is waited for. -/
structure Picture where
  taken : Bool
  pending : Option ThumbnailRequest
deriving DecidableEq

namespace Picture

/-- After the picture of `request` came. One that is not waited for is ignored. -/
def receive (picture : Picture) (request : ThumbnailRequest) : Picture :=
  if picture.pending = some request then ⟨true, none⟩ else picture

/-- There is a picture, or there will be one. -/
def Expected (picture : Picture) : Prop :=
  picture.taken = true ∨ picture.pending.isSome = true

variable {picture : Picture} (request other : ThumbnailRequest)

/-- An expected picture stays expected, whichever picture comes. -/
theorem Expected.receive (expected : picture.Expected) : (picture.receive request).Expected := by
  rw [Picture.receive]
  split
  · exact .inl rfl
  · exact expected

/-- What is still waited for was waited for before, and is not the picture that came. -/
theorem pending_receive (waits : (picture.receive request).pending = some other) :
    picture.pending = some other ∧ other ≠ request := by
  rw [receive] at waits
  split at waits
  · cases waits
  · next unwanted =>
      refine ⟨waits, fun same => unwanted ?_⟩
      rw [waits, same]

end Picture

namespace Activity

variable (activity : Activity)

/-- What a card knows of the picture of its window; a splash has no window. -/
def picture : Option Picture :=
  activity.window?.map fun _ => ⟨activity.hasThumbnail, activity.pending?⟩

/-- Waiting for a picture takes none away; a splash has nothing to wait for. -/
theorem picture_awaiting (request : Option ThumbnailRequest) :
    (activity.awaiting request).picture =
      activity.picture.map fun picture => { picture with pending := request } := by
  unfold awaiting picture window? pending?
  cases given : activity.phase <;> simp [given]

/-- The card takes a picture that comes as its knowledge of the picture does. -/
theorem picture_receive (request : ThumbnailRequest) :
    (activity.receive request).picture = activity.picture.map (·.receive request) := by
  unfold receive awaits awaiting picture window? pending? Picture.receive
  cases given : activity.phase with
  | launching startupId startedAt => simp [given]
  | running window pending =>
      by_cases wanted : pending = some request <;> simp [given, wanted]

/-- A card that waits for a picture shows a window. -/
theorem picture_of_pending?_eq_some {request : ThumbnailRequest}
    (waits : activity.pending? = some request) :
    activity.picture = some ⟨activity.hasThumbnail, some request⟩ := by
  rw [picture, waits]
  unfold pending? at waits
  unfold window?
  split at waits
  · cases waits
  · rfl

/-- A card with a window has no more use for the request that it waits for. -/
theorem superseded_eq_pending? {id : WindowId} (shows : activity.window? = some id)
    (request : ThumbnailRequest) : activity.superseded request = activity.pending? := by
  unfold window? at shows
  unfold superseded pending?
  cases phase : activity.phase with
  | launching startupId startedAt =>
      rw [phase] at shows
      cases shows
  | running window pending => rfl

/-- What a card waits for can be read off what it knows of its picture. -/
theorem pending?_eq : activity.pending? = activity.picture.bind Picture.pending := by
  unfold picture window? pending?
  cases activity.phase <;> rfl

end Activity

/-- What the card with this handle knows of the picture of its window. -/
abbrev Carousel.pictureOf? (carousel : Carousel) (handle : Handle) : Option Picture :=
  carousel.viewOf? Activity.picture handle

namespace Carousel

variable (carousel : Carousel) (handle other : Handle)

/-- The cards know what they knew, except that one now waits for a picture. -/
theorem pictureOf?_awaiting (pending : Option ThumbnailRequest) :
    (carousel.modify handle (·.awaiting pending)).pictureOf? other =
      (carousel.pictureOf? other).map fun picture =>
        if other = handle then { picture with pending } else picture :=
  carousel.viewOf?_modify_map Activity.picture handle other fun activity =>
    activity.picture_awaiting pending

/-- The cards know what they knew, except that a picture was sent to one. -/
theorem pictureOf?_receive (request : ThumbnailRequest) :
    (carousel.modify handle (·.receive request)).pictureOf? other =
      (carousel.pictureOf? other).map fun picture =>
        if other = handle then picture.receive request else picture :=
  carousel.viewOf?_modify_map Activity.picture handle other fun activity =>
    activity.picture_receive request

/-! ### Requests that are waited for -/

/-- The request whose picture the card with this handle waits for. -/
def awaited? (carousel : Carousel) (handle : Handle) : Option ThumbnailRequest :=
  carousel.viewOf? Activity.pending? handle

/-- What the card with this handle waits for can be read off what it knows of its picture. -/
theorem awaited?_eq : carousel.awaited? handle = (carousel.pictureOf? handle).bind Picture.pending := by
  unfold awaited? pictureOf? viewOf?
  cases carousel.get? handle with
  | none => rfl
  | some activity => exact activity.pending?_eq

/-- The cards wait for what they waited for, except that one of them waits for something else. -/
theorem awaited?_awaiting {picture : Picture} (shown : carousel.pictureOf? handle = some picture)
    (pending : Option ThumbnailRequest) :
    (carousel.modify handle (·.awaiting pending)).awaited? =
      Function.update carousel.awaited? handle pending := by
  funext other
  rw [awaited?_eq, pictureOf?_awaiting, Function.update_apply, awaited?_eq]
  split
  · next same => rw [same, shown]; rfl
  · cases carousel.pictureOf? other <;> rfl

/-- A card to which the picture came that it waits for waits for nothing; the others wait for what they
waited for. -/
theorem awaited?_receive {request : ThumbnailRequest}
    (waits : carousel.awaited? handle = some request) :
    (carousel.modify handle (·.receive request)).awaited? =
      Function.update carousel.awaited? handle none := by
  rw [awaited?_eq, Option.bind_eq_some_iff] at waits
  obtain ⟨picture, shown, pending⟩ := waits
  funext other
  rw [awaited?_eq, pictureOf?_receive, Function.update_apply, awaited?_eq]
  split
  · next same => simp [same, shown, Picture.receive, pending]
  · cases carousel.pictureOf? other <;> rfl

/-- A picture that is not waited for changes nothing about what is. -/
theorem awaited?_receive_of_ne {request : ThumbnailRequest}
    (unwanted : carousel.awaited? handle ≠ some request) :
    (carousel.modify handle (·.receive request)).awaited? = carousel.awaited? := by
  funext other
  rw [awaited?_eq, pictureOf?_receive, awaited?_eq]
  rw [awaited?_eq] at unwanted
  cases shown : carousel.pictureOf? other with
  | none => rfl
  | some picture =>
      rw [Option.map_some]
      split
      · next same =>
          have different : picture.pending ≠ some request := by
            rw [← same, shown] at unwanted
            exact unwanted
          rw [Picture.receive, if_neg different]
      · rfl

end Carousel

end TaskSwitcher
