import TaskSwitcher.Proofs.Carousel.Views
import TaskSwitcher.Proofs.Registry.Looks

/-!
# What the cards show of their windows

The face of a card is the window it shows and the look it gives it; a splash has no face. A carousel that
shows no window twice gives each window at most one look. Most changes of cards leave all faces alone.
-/

namespace TaskSwitcher

namespace Activity

/-- The look that a card gives its window. -/
def look (activity : Activity) : Look :=
  ⟨activity.title, activity.geometry.maximized, activity.geometry.fullscreen⟩

/-- The window that a card shows, and the look it gives it. -/
def face (activity : Activity) : Option (WindowId × Look) :=
  activity.window?.map fun id => (id, activity.look)

variable (activity : Activity)

/-- A card has the face of a window if it shows the window with this look. -/
theorem face_eq_some_iff (id : WindowId) (look : Look) :
    activity.face = some (id, look) ↔ activity.window? = some id ∧ activity.look = look := by
  simp only [face, Option.map_eq_some_iff, Prod.mk.injEq]
  constructor
  · rintro ⟨shown, window, rfl, rfl⟩
    exact ⟨window, rfl⟩
  · rintro ⟨window, rfl⟩
    exact ⟨id, window, rfl, rfl⟩

/-- Splashes, and only they, have no face. -/
theorem face_eq_none_iff : activity.face = none ↔ activity.window? = none := by
  simp [face]

@[simp] theorem face_awaiting (request : Option ThumbnailRequest) :
    (activity.awaiting request).face = activity.face := by
  unfold awaiting face window? look
  cases given : activity.phase <;> simp [given]

@[simp] theorem face_receive (request : ThumbnailRequest) :
    (activity.receive request).face = activity.face := by
  unfold receive
  split
  · exact activity.face_awaiting none
  · rfl

@[simp] theorem face_withAllocation (size : Size) :
    (activity.withAllocation size).face = activity.face :=
  rfl

@[simp] theorem face_withArea (area : Size) : (activity.withArea area).face = activity.face :=
  rfl

/-- A report changes the look and not the window. -/
theorem face_showing (window : Window) :
    (activity.showing window).face = activity.face.map fun face => (face.1, window.look) := by
  rw [face, face, Option.map_map]
  rfl

/-- A request for the full screen changes the look and not the window. -/
theorem face_withFullscreen (fullscreen : Bool) :
    (activity.withFullscreen fullscreen).face =
      activity.face.map fun face => (face.1, face.2.withFullscreen fullscreen) := by
  rw [face, face, Option.map_map]
  rfl

end Activity

namespace Carousel

/-- The face of the card with this handle. -/
abbrev faceOf? (carousel : Carousel) (handle : Handle) : Option (WindowId × Look) :=
  carousel.viewOf? Activity.face handle

/-- The look that the card of each window gives it. -/
def looks (carousel : Carousel) (id : WindowId) : Option Look :=
  ((carousel.findByWindow? id).bind carousel.get?).map Activity.look

/-- The window of a card is one part of its face. -/
theorem windowOf?_eq_faceOf? (carousel : Carousel) (handle : Handle) :
    carousel.windowOf? handle = (carousel.faceOf? handle).map (·.1) := by
  rw [windowOf?, faceOf?, viewOf?]
  cases carousel.get? handle with
  | none => rfl
  | some activity => simp [Activity.face, Function.comp_def]

/-- A card that shows a window has the face of the window. -/
theorem faceOf?_of_get? {carousel : Carousel} {handle : Handle} {activity : Activity} {id : WindowId}
    (found : carousel.get? handle = some activity) (shows : activity.window? = some id) :
    carousel.faceOf? handle = some (id, activity.look) :=
  (viewOf?_eq_some_iff ..).2 ⟨activity, found, (activity.face_eq_some_iff id _).2 ⟨shows, rfl⟩⟩

/-- A splash has no face, nor has a handle without a card. -/
theorem faceOf?_eq_none {carousel : Carousel} {handle : Handle}
    (splash : ∀ activity, carousel.get? handle = some activity → activity.window? = none) :
    carousel.faceOf? handle = none := by
  rw [faceOf?, viewOf?, Option.bind_eq_none_iff]
  intro activity found
  exact activity.face_eq_none_iff.2 (splash activity found)

/-- The cards show what they showed, except that one takes on the look of a snapshot. -/
theorem faceOf?_showing (carousel : Carousel) (handle other : Handle) (window : Window) :
    (carousel.modify handle (·.showing window)).faceOf? other =
      (carousel.faceOf? other).map fun face =>
        if other = handle then (face.1, window.look) else face :=
  carousel.viewOf?_modify_map Activity.face handle other fun activity =>
    activity.face_showing window

/-- The cards show what they showed, except that one fills the screen or does so no more. -/
theorem faceOf?_withFullscreen (carousel : Carousel) (handle other : Handle) (fullscreen : Bool) :
    (carousel.modify handle (·.withFullscreen fullscreen)).faceOf? other =
      (carousel.faceOf? other).map fun face =>
        if other = handle then (face.1, face.2.withFullscreen fullscreen) else face :=
  carousel.viewOf?_modify_map Activity.face handle other fun activity =>
    activity.face_withFullscreen fullscreen

/-! ### One look for each window -/

namespace Proper

variable {before after : Carousel} (proper : before.Proper) (properAfter : after.Proper)

include proper

/-- Where no window has two cards, the looks are read off the faces. -/
theorem looks_eq_some_iff (id : WindowId) (look : Look) :
    before.looks id = some look ↔ ∃ handle, before.faceOf? handle = some (id, look) := by
  simp only [looks, Option.map_eq_some_iff, Option.bind_eq_some_iff,
    proper.valid.findByWindow?_eq_some_iff proper.distinct, viewOf?_eq_some_iff,
    Activity.face_eq_some_iff, windowOf?_eq_some_iff]
  constructor
  · rintro ⟨activity, ⟨handle, ⟨card, present, shows⟩, found⟩, rfl⟩
    rw [found] at present
    cases present
    exact ⟨handle, activity, found, shows, rfl⟩
  · rintro ⟨handle, activity, found, shows, rfl⟩
    exact ⟨activity, ⟨handle, ⟨activity, found, shows⟩, found⟩, rfl⟩

/-- Two cards never have faces of the same window. -/
theorem eq_of_faceOf?_eq {first second : Handle} {id : WindowId} {look another : Look}
    (one : before.faceOf? first = some (id, look))
    (other : before.faceOf? second = some (id, another)) : first = second := by
  have firstShows : before.windowOf? first = some id := by
    rw [windowOf?_eq_faceOf?, one, Option.map_some]
  have secondShows : before.windowOf? second = some id := by
    rw [windowOf?_eq_faceOf?, other, Option.map_some]
  exact proper.valid.eq_of_windowOf?_eq proper.distinct firstShows secondShows

include properAfter

/-- Looks depend on faces alone. -/
theorem looks_congr (same : ∀ handle, after.faceOf? handle = before.faceOf? handle) :
    after.looks = before.looks := by
  funext id
  ext look
  rw [properAfter.looks_eq_some_iff, proper.looks_eq_some_iff]
  simp only [same]

/-- A card that had no face or one of the same window gives the window a new look. -/
theorem looks_update {handle : Handle} {id : WindowId} {look : Look}
    (changed : ∀ other, after.faceOf? other =
      if other = handle then some (id, look) else before.faceOf? other)
    (former : ∀ shown another, before.faceOf? handle = some (shown, another) → shown = id) :
    after.looks = Function.update before.looks id (some look) := by
  funext shown
  have given : after.faceOf? handle = some (id, look) := by rw [changed, if_pos rfl]
  by_cases asked : shown = id
  · subst asked
    rw [Function.update_self]
    exact (properAfter.looks_eq_some_iff shown look).2 ⟨handle, given⟩
  · rw [Function.update_of_ne asked]
    ext another
    rw [properAfter.looks_eq_some_iff, proper.looks_eq_some_iff]
    refine exists_congr fun other => ?_
    rw [changed]
    split
    · next same =>
        subst same
        constructor
        · intro equal
          cases equal
          exact absurd rfl asked
        · intro face
          exact absurd (former shown another face) asked
    · rfl

/-- Without its card a window has no look. -/
theorem looks_forget {handle : Handle} {id : WindowId} {former : Look}
    (shown : before.faceOf? handle = some (id, former))
    (changed : ∀ other, after.faceOf? other =
      if other = handle then none else before.faceOf? other) :
    after.looks = Function.update before.looks id none := by
  funext asked
  ext look
  rw [properAfter.looks_eq_some_iff]
  by_cases same : asked = id
  · subst same
    rw [Function.update_self]
    constructor
    -- No other card shows the window, as the strip is proper.
    · rintro ⟨other, face⟩
      rw [changed] at face
      split at face
      · cases face
      · next apart => exact absurd (proper.eq_of_faceOf?_eq face shown) apart
    · intro none
      cases none
  · rw [Function.update_of_ne same, proper.looks_eq_some_iff]
    refine exists_congr fun other => ?_
    rw [changed]
    split
    · next removed =>
        subst removed
        rw [shown]
        constructor
        · intro none
          cases none
        · intro equal
          cases equal
          exact absurd rfl same
    · rfl

end Proper

/-- The card of a window gives it its look. -/
theorem Proper.looks_of_get? {carousel : Carousel} (proper : carousel.Proper) {handle : Handle}
    {activity : Activity} {id : WindowId} (found : carousel.get? handle = some activity)
    (shows : activity.window? = some id) : carousel.looks id = some activity.look := by
  rw [proper.looks_eq_some_iff]
  exact ⟨handle, faceOf?_of_get? found shows⟩

/-- Showing the full screen on a card shows it in the look of its window. -/
theorem Proper.looks_withFullscreen {carousel : Carousel} (proper : carousel.Proper)
    {handle : Handle} {activity : Activity} {id : WindowId} {fullscreen : Bool}
    (properAfter : (carousel.modify handle (·.withFullscreen fullscreen)).Proper)
    (found : carousel.get? handle = some activity) (shows : activity.window? = some id) :
    (carousel.modify handle (·.withFullscreen fullscreen)).looks =
      Function.update carousel.looks id (some (activity.look.withFullscreen fullscreen)) := by
  have face := faceOf?_of_get? found shows
  have changed (other : Handle) :
      (carousel.modify handle (·.withFullscreen fullscreen)).faceOf? other =
        if other = handle then some (id, activity.look.withFullscreen fullscreen)
        else carousel.faceOf? other := by
    rw [faceOf?_withFullscreen]
    split
    · next same => rw [same, face, Option.map_some]
    · rw [Option.map_id']
  refine proper.looks_update properAfter changed ?_
  intro shown another given
  rw [face] at given
  cases given
  rfl

end Carousel

end TaskSwitcher
