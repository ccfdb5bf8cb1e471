import TaskSwitcher.Proofs.Carousel.Pictures

/-!
# How cards are drawn

A splash is drawn from what is known of its application before there is a window: it has no title, no
parent, no state of a window and no picture, and it is light unless the user prefers dark colours. A card
with a window is never light. A window that takes a splash over brings a title and a state of its own and
relies on the splash for the rest, so it matters that nobody else has written there. The focus is on cards
with a window only.
-/

namespace TaskSwitcher

namespace Activity

variable {activity after : Activity} {preferDark : Bool}

/-- The card shows an application, and nothing that only a window could tell. -/
structure PlainSplash (preferDark : Bool) (activity : Activity) : Prop where
  recognised : activity.appInfo.isSome = true
  untitled : activity.title = ""
  orphaned : activity.parentAppId = none
  unmaximized : activity.geometry.maximized = false
  notFullscreen : activity.geometry.fullscreen = false
  pictureless : activity.hasThumbnail = false
  light : activity.lightStyle = !preferDark

/-- A card that waits for its window is a plain splash, and a card with a window is not light. -/
structure WellDrawn (preferDark : Bool) (activity : Activity) : Prop where
  splash : activity.window? = none → activity.PlainSplash preferDark
  shown : ∀ id, activity.window? = some id → activity.lightStyle = false

/-- What may happen to a card on the strip. A report about a window and a request for the full screen
concern cards that have a window. -/
inductive Alters (activity : Activity) : Activity → Prop where
  | bindWindow (window : Window) (area : Size) : Alters activity (activity.bindWindow window area)
  | showing (id : WindowId) (shows : activity.window? = some id) (window : Window) :
      Alters activity (activity.showing window)
  | withFullscreen (id : WindowId) (shows : activity.window? = some id) (fullscreen : Bool) :
      Alters activity (activity.withFullscreen fullscreen)
  | withArea (area : Size) : Alters activity (activity.withArea area)
  | withAllocation (size : Size) : Alters activity (activity.withAllocation size)
  | awaiting (request : Option ThumbnailRequest) : Alters activity (activity.awaiting request)
  | receive (request : ThumbnailRequest) : Alters activity (activity.receive request)

/-- A splash has no use for pictures. -/
theorem awaiting_of_splash (splash : activity.window? = none) (request : Option ThumbnailRequest) :
    activity.awaiting request = activity := by
  unfold window? at splash
  unfold awaiting
  split
  · rfl
  · next window pending phase =>
      rw [phase] at splash
      cases splash

/-- A picture that comes for a splash is not shown. -/
theorem receive_of_splash (splash : activity.window? = none) (request : ThumbnailRequest) :
    activity.receive request = activity := by
  unfold window? at splash
  refine if_neg fun awaited => ?_
  unfold awaits pending? at awaited
  cases phase : activity.phase with
  | launching startupId startedAt => simp [phase] at awaited
  | running window pending =>
      rw [phase] at splash
      cases splash

/-- Waiting for a picture does not change the colours of a card. -/
theorem lightStyle_awaiting (activity : Activity) (request : Option ThumbnailRequest) :
    (activity.awaiting request).lightStyle = activity.lightStyle := by
  unfold awaiting
  split <;> rfl

/-- A picture does not change the colours of a card. -/
theorem lightStyle_receive (activity : Activity) (request : ThumbnailRequest) :
    (activity.receive request).lightStyle = activity.lightStyle := by
  unfold receive
  split
  · exact activity.lightStyle_awaiting none
  · rfl

/-- A card with a window does not lose it. -/
theorem Alters.exists_window? {id : WindowId} (alters : activity.Alters after)
    (shows : activity.window? = some id) : ∃ later, after.window? = some later := by
  cases alters with
  | bindWindow window area => exact ⟨window.id, rfl⟩
  | showing | withFullscreen | withArea | withAllocation => exact ⟨id, shows⟩
  | awaiting request => exact ⟨id, (activity.window?_awaiting request).trans shows⟩
  | receive request => exact ⟨id, (activity.window?_receive request).trans shows⟩

/-- A launch draws a plain splash. -/
theorem wellDrawn_launching (appId : String) (appInfo : AppInfo) (startupId : StartupId) (area : Size)
    (now : Nat) :
    WellDrawn preferDark
      { Activity.launching appId appInfo startupId area now with lightStyle := !preferDark } where
  splash _ := ⟨rfl, rfl, rfl, rfl, rfl, rfl, rfl⟩
  shown _ shows := nomatch shows

/-- A window without a launch gets a card in plain colours. -/
theorem wellDrawn_running (window : Window) (appInfo : Option AppInfo) (parentAppId : Option String)
    (area : Size) : (running window appInfo parentAppId area).WellDrawn preferDark where
  splash splash := nomatch splash
  shown _ _ := rfl

namespace WellDrawn

variable (drawn : activity.WellDrawn preferDark)

include drawn

/-- The card keeps its window or goes on without one, its colours stay, and so does a plain splash. -/
theorem of_window?_eq (window : after.window? = activity.window?)
    (light : after.lightStyle = activity.lightStyle)
    (plain : activity.window? = none → activity.PlainSplash preferDark →
      after.PlainSplash preferDark) : after.WellDrawn preferDark where
  splash splash := plain (window ▸ splash) (drawn.splash (window ▸ splash))
  shown id shows := light.trans (drawn.shown id (window ▸ shows))

/-- Nothing that may happen to a card spoils it. -/
theorem alter (alters : activity.Alters after) : after.WellDrawn preferDark := by
  have shown {id : WindowId} (shows : activity.window? = some id)
      (splash : activity.window? = none) : False := by
    cases shows.symm.trans splash
  cases alters with
  | bindWindow window area => exact ⟨(nomatch ·), fun _ _ => rfl⟩
  | showing id shows window =>
      exact drawn.of_window?_eq rfl rfl fun splash => (shown shows splash).elim
  | withFullscreen id shows fullscreen =>
      exact drawn.of_window?_eq rfl rfl fun splash => (shown shows splash).elim
  | withArea area => exact drawn.of_window?_eq rfl rfl fun _ plain => { plain with }
  | withAllocation size => exact drawn.of_window?_eq rfl rfl fun _ plain => { plain with }
  | awaiting request =>
      refine drawn.of_window?_eq (activity.window?_awaiting request)
        (activity.lightStyle_awaiting request) fun splash plain => ?_
      rwa [awaiting_of_splash splash]
  | receive request =>
      refine drawn.of_window?_eq (activity.window?_receive request)
        (activity.lightStyle_receive request) fun splash plain => ?_
      rwa [receive_of_splash splash]

end WellDrawn

end Activity

namespace Carousel

/-- The cards are well drawn, and the focused card has a window. -/
structure Presentable (preferDark : Bool) (carousel : Carousel) : Prop where
  cards : ∀ handle activity, carousel.get? handle = some activity → activity.WellDrawn preferDark
  focus : ∀ handle, carousel.focused = some handle → ∃ id, carousel.windowOf? handle = some id

/-- Where there are no cards, none is badly drawn. -/
theorem presentable_empty (preferDark : Bool) : ({} : Carousel).Presentable preferDark where
  cards handle _ found := nomatch (get?_empty handle).symm.trans found
  focus _ points := nomatch points

namespace Presentable

variable {preferDark : Bool} {carousel after : Carousel} (presentable : carousel.Presentable preferDark)

include presentable

/-- Scrolling, the keyboard and the order of the cards make no difference. -/
theorem of_same_arena (arena : after.arena = carousel.arena) (focused : after.focused = carousel.focused) :
    after.Presentable preferDark where
  cards handle activity found := by
    rw [get?, arena] at found
    exact presentable.cards handle activity found
  focus handle points := by
    rw [windowOf?_eq_viewOf?, viewOf?_eq_of_same_arena _ _ arena]
    exact presentable.focus handle (focused.symm.trans points)

/-- Every card is altered or stays as it is. -/
theorem alter {change : Handle → Activity → Activity}
    (altered : ∀ handle, after.get? handle = (carousel.get? handle).map (change handle))
    (alters : ∀ handle activity, carousel.get? handle = some activity →
      activity.Alters (change handle activity) ∨ change handle activity = activity)
    (focused : after.focused = carousel.focused) : after.Presentable preferDark where
  cards handle card found := by
    rw [altered] at found
    obtain ⟨activity, present, rfl⟩ := Option.map_eq_some_iff.1 found
    have drawn := presentable.cards handle activity present
    rcases alters handle activity present with changed | same
    · exact drawn.alter changed
    · rwa [same]
  focus handle points := by
    obtain ⟨id, shown⟩ := presentable.focus handle (focused.symm.trans points)
    obtain ⟨activity, present, shows⟩ := (windowOf?_eq_some_iff ..).1 shown
    rw [windowOf?, altered, present, Option.map_some, Option.bind_some]
    rcases alters handle activity present with changed | same
    · exact changed.exists_window? shows
    · exact ⟨id, same.symm ▸ shows⟩

/-- One card is altered. -/
theorem modify (handle : Handle) (change : Activity → Activity)
    (alters : ∀ activity, carousel.get? handle = some activity → activity.Alters (change activity)) :
    (carousel.modify handle change).Presentable preferDark := by
  refine presentable.alter (carousel.get?_modify handle · change) (fun other activity found => ?_) rfl
  split
  · next same => exact .inl (alters activity (same ▸ found))
  · exact .inr rfl

/-- All cards are altered at once. -/
theorem mapActivities (change : Activity → Activity)
    (alters : ∀ activity : Activity, activity.Alters (change activity)) :
    (carousel.mapActivities change).Presentable preferDark :=
  presentable.alter (carousel.get?_mapActivities · change) (fun _ activity _ => .inl (alters activity)) rfl

/-- A new card is not focused. -/
theorem insert (valid : carousel.Valid) (position : Nat) {activity : Activity}
    (drawn : activity.WellDrawn preferDark) :
    (carousel.insert position activity).Presentable preferDark where
  cards handle card found := by
    rw [valid.get?_insert] at found
    split at found
    · cases found
      exact drawn
    · exact presentable.cards handle card found
  focus handle points := by
    obtain ⟨id, shown⟩ := presentable.focus handle ((focused_insert ..).symm.trans points)
    have old : handle ≠ carousel.nextHandle := by
      rintro rfl
      cases (valid.viewOf?_nextHandle Activity.window?).symm.trans shown
    exact ⟨id, by rwa [windowOf?_eq_viewOf?, valid.viewOf?_insert, if_neg old]⟩

/-- The focus does not stay behind when its card goes. -/
theorem erase (handle : Handle) : (carousel.erase handle).Presentable preferDark where
  cards other activity found := by
    rw [get?_erase, Option.ite_none_left_eq_some] at found
    exact presentable.cards other activity found.2
  focus other points := by
    have left : other ≠ handle ∧ carousel.focused = some other := by
      unfold Carousel.erase at points
      split at points
      · rw [focused_noteOccupancy, withoutReference, Option.ite_none_left_eq_some] at points
        exact ⟨fun same => points.1 (same ▸ points.2), points.2⟩
      · next absent =>
          refine ⟨fun same => absent ?_, points⟩
          obtain ⟨id, shown⟩ := presentable.focus other points
          obtain ⟨activity, present, -⟩ := (windowOf?_eq_some_iff ..).1 shown
          exact (carousel.contains_iff handle).2 ⟨activity, same ▸ present⟩
    obtain ⟨id, shown⟩ := presentable.focus other left.2
    exact ⟨id, by rwa [windowOf?, get?_erase, if_neg left.1]⟩

/-- The focus may move to any card with a window. -/
theorem focus_of_windowOf? {handle : Handle} {id : WindowId}
    (shown : carousel.windowOf? handle = some id) (arena : after.arena = carousel.arena)
    (focused : after.focused = some handle) : after.Presentable preferDark where
  cards other activity found := by
    rw [get?, arena] at found
    exact presentable.cards other activity found
  focus other points := by
    obtain rfl := Option.some.inj (focused.symm.trans points)
    exact ⟨id, by rwa [windowOf?_eq_viewOf?, viewOf?_eq_of_same_arena _ _ arena]⟩

end Presentable

end Carousel

end TaskSwitcher
