import TaskSwitcher.Proofs.Carousel.Places
import TaskSwitcher.Proofs.Switcher.Announcements
import TaskSwitcher.Scenario.Rehearsal
import TaskSwitcher.Service

/-!
# Where a new window goes

A window without a card gets one in one of two ways. If the first card of its application is a splash, the
window takes this card over, which keeps its place and its handle, and a picture is asked for at once.
Otherwise a new card is put behind the group of the window's parent, or at the end of the strip. Either way
nothing happens to the other cards.
-/

namespace TaskSwitcher

/-- The references of `after` point to the card with this handle if its window is `active`, and to the same
cards as in `before` otherwise. -/
structure Carousel.PointsTo (handle : Handle) (active : Bool) (before after : Carousel) : Prop where
  focused : after.focused = if active then some handle else before.focused
  scrollTarget : after.scrollTarget = if active then some handle else before.scrollTarget
  keyFocus : after.keyFocus = if active then some handle else before.keyFocus

namespace Switcher

/-- The window takes over the splash between `front` and `back`. The card keeps its handle, its application,
its picture and the size in which it is drawn, and it waits for a new picture, which is the only one that is
asked for. Nothing is announced. -/
structure TakesOver (switcher : Switcher) (window : Window) (front : List (Handle × Activity))
    (handle : Handle) (splash : Activity) (back : List (Handle × Activity)) (after : Switcher) :
    Prop where
  order : after.carousel.order = switcher.carousel.order
  entries : after.carousel.entries = front ++ (handle,
    { splash with
      appId := some window.appId
      title := window.title
      geometry :=
        { size := switcher.shell.usableArea
          maximized := window.maximized
          fullscreen := window.fullscreen }
      lightStyle := false
      phase := .running window.id (some switcher.thumbnailer.next) }) :: back
  references : switcher.carousel.PointsTo handle window.activated after.carousel
  others : after =
    { switcher with
      carousel := after.carousel
      thumbnailer := switcher.thumbnailer.request switcher.mailbox
      mailbox := switcher.thumbnailer.answer switcher.mailbox handle
      calls := switcher.calls ++
        [.thumbnailRequest switcher.thumbnailer.next handle window.id
          ((splash.allocation.getD switcher.shell.usableArea).scaled switcher.pictureScale)] }

/-- The window gets a new card between `front` and `back`. No picture is asked for, and it is announced that
there are cards if there were none. -/
structure GetsCard (switcher : Switcher) (window : Window) (front back : List (Handle × Activity))
    (after : Switcher) : Prop where
  split : switcher.carousel.entries = front ++ back
  parted : Carousel.PartedFor (switcher.parentAppId? window) front back
  fresh : switcher.carousel.nextHandle ∉ switcher.carousel.order
  entries : after.carousel.entries = front ++ (switcher.carousel.nextHandle,
    .running window (switcher.apps.resolve window.appId) (switcher.parentAppId? window)
      switcher.shell.usableArea) :: back
  references :
    switcher.carousel.PointsTo switcher.carousel.nextHandle window.activated after.carousel
  others : after =
    { switcher with
      carousel := after.carousel
      signals := switcher.signals ++
        if switcher.carousel.isEmpty then [.hasActivities true] else [] }

variable {switcher : Switcher} {handle : Handle} {window : Window}

/-! ### Focus -/

/-- The card of an active window gets all references. -/
theorem focusIfActive_eq (live : switcher.carousel.contains handle = true) :
    switcher.focusIfActive window handle = switcher.mapCarousel fun carousel =>
      { carousel with
        focused := if window.activated then some handle else carousel.focused
        scrollTarget := if window.activated then some handle else carousel.scrollTarget
        keyFocus := if window.activated then some handle else carousel.keyFocus } := by
  unfold focusIfActive
  split
  · have scrolled : Carousel.contains { switcher.carousel with focused := some handle } handle =
        true := live
    simp only [focusActivity, mapCarousel, Carousel.focus, if_pos live, Carousel.scrollTo,
      if_pos scrolled]
  · rfl

/-- The references point to the card if its window is active, and stay otherwise. -/
theorem pointsTo_focusIfActive (window : Window)
    (live : switcher.carousel.contains handle = true) :
    switcher.carousel.PointsTo handle window.activated
      (switcher.focusIfActive window handle).carousel := by
  rw [focusIfActive_eq live]
  exact ⟨rfl, rfl, rfl⟩

/-- Moving the focus moves no card. -/
theorem order_focusIfActive :
    (switcher.focusIfActive window handle).carousel.order = switcher.carousel.order := by
  unfold focusIfActive
  split
  · rw [focusActivity, mapCarousel, Carousel.order_scrollTo, Carousel.order_focus]
  · rfl

/-- Moving the focus changes no card. -/
theorem entries_focusIfActive :
    (switcher.focusIfActive window handle).carousel.entries = switcher.carousel.entries := by
  refine Carousel.entries_eq_of_same_strip ?_ order_focusIfActive
  unfold focusIfActive
  split
  · rw [focusActivity, mapCarousel, Carousel.arena_scrollTo, Carousel.arena_focus]
  · rfl

/-- The focus is a matter of the carousel alone. -/
theorem focusIfActive_others :
    switcher.focusIfActive window handle =
      { switcher with carousel := (switcher.focusIfActive window handle).carousel } := by
  unfold focusIfActive
  split <;> rfl

/-! ### Taking over a splash -/

variable {front back : List (Handle × Activity)} {splash : Activity}

/-- The splash that a window takes over is the first card of its application. -/
theorem splashFor?_eq_some_iff (valid : switcher.carousel.Valid) {appInfo : Option AppInfo} :
    switcher.splashFor? appInfo = some handle ↔
      ∃ known front splash back, appInfo = some known ∧
        switcher.carousel.FirstWith (·.appInfo = some known) front handle splash back ∧
        splash.isRunning = false := by
  rw [splashFor?, Option.filter_eq_some_iff, Option.bind_eq_some_iff]
  constructor
  · rintro ⟨⟨known, rfl, search⟩, waiting⟩
    obtain ⟨front, splash, back, first⟩ :=
      (switcher.carousel.findHandle?_eq_some_iff).1 search
    refine ⟨known, front, splash, back, rfl, first, ?_⟩
    simpa [valid.get?_of_split first.split] using waiting
  · rintro ⟨known, front, splash, back, rfl, first, waiting⟩
    refine ⟨⟨known, rfl, ?_⟩, ?_⟩
    · exact (switcher.carousel.findHandle?_eq_some_iff).2 ⟨front, splash, back, first⟩
    · simp [valid.get?_of_split first.split, waiting]

/-- Where the first card of the application has a window, there is no splash to be taken over. -/
theorem splashFor?_eq_none (valid : switcher.carousel.Valid) {appInfo : Option AppInfo}
    (running : ∀ known front handle first back, appInfo = some known →
      switcher.carousel.FirstWith (·.appInfo = some known) front handle first back →
      first.isRunning = true) :
    switcher.splashFor? appInfo = none := by
  rw [Option.eq_none_iff_forall_ne_some]
  intro handle chosen
  obtain ⟨known, front, splash, back, recognised, first, waiting⟩ :=
    (splashFor?_eq_some_iff valid).1 chosen
  rw [running known front handle splash back recognised first] at waiting
  cases waiting

/-- A splash gets its window and at once asks for the picture of it. -/
theorem upgradeSplash_eq (window : Window)
    (found : switcher.carousel.get? handle = some splash) :
    switcher.upgradeSplash handle window =
      (switcher.askThumbnail handle window.id
        ((splash.allocation.getD switcher.shell.usableArea).scaled
          switcher.pictureScale)).mapCarousel fun carousel =>
        (carousel.modify handle (·.bindWindow window switcher.shell.usableArea)).modify handle
          (·.awaiting (some switcher.thumbnailer.next)) := by
  have bound : (switcher.mapCarousel
      (·.modify handle (·.bindWindow window switcher.shell.usableArea))).carousel.get? handle =
      some (splash.bindWindow window switcher.shell.usableArea) := by
    simp [mapCarousel, found]
  unfold upgradeSplash requestThumbnail
  rw [bound]
  rfl

/-- Upgrading the splash and moving the focus is all that a window does that takes it over. -/
theorem takesOver_upgradeSplash (valid : switcher.carousel.Valid)
    (split : switcher.carousel.entries = front ++ (handle, splash) :: back) :
    switcher.TakesOver window front handle splash back
      ((switcher.upgradeSplash handle window).focusIfActive window handle) := by
  have found := valid.get?_of_split split
  have upgraded := upgradeSplash_eq window found
  have live : (switcher.upgradeSplash handle window).carousel.contains handle = true := by
    rw [upgraded, mapCarousel, Carousel.contains_modify, Carousel.contains_modify]
    exact (Carousel.contains_iff ..).2 ⟨splash, found⟩
  constructor
  · rw [order_focusIfActive, upgraded]
    rfl
  · have bound := valid.entries_modify_of_split split
      (·.bindWindow window switcher.shell.usableArea)
    have awaiting := (valid.modify handle _).entries_modify_of_split bound
      (·.awaiting (some switcher.thumbnailer.next))
    rw [entries_focusIfActive, upgraded]
    exact awaiting
  · have points := pointsTo_focusIfActive window live
    rw [upgraded] at points ⊢
    exact ⟨points.focused, points.scrollTarget, points.keyFocus⟩
  · rw [focusIfActive_others, upgraded]
    rfl

/-! ### A card of its own -/

/-- A new card parts the strip behind the group of its parent. -/
theorem exists_parted_placeOf (valid : switcher.carousel.Valid) (activity : Activity) :
    ∃ front back, switcher.carousel.entries = front ++ back ∧
      Carousel.PartedFor activity.parentAppId front back ∧
      switcher.placeOf activity = front.length := by
  have atEnd (groupless : ∀ appId, activity.parentAppId = some appId →
      ∀ entry ∈ switcher.carousel.entries, Carousel.inGroup appId entry.2 = false)
      (nowhere : activity.parentAppId.bind switcher.carousel.groupEnd? = none) :
      ∃ front back, switcher.carousel.entries = front ++ back ∧
        Carousel.PartedFor activity.parentAppId front back ∧
        switcher.placeOf activity = front.length := by
    refine ⟨_, [], (List.append_nil _).symm, .atEnd groupless, ?_⟩
    rw [placeOf, nowhere, Option.getD_none, valid.length_entries]
  cases parent : activity.parentAppId with
  | none =>
      rw [parent] at atEnd
      exact atEnd (fun _ given => nomatch given) rfl
  | some appId =>
      rcases switcher.carousel.exists_last_of_group appId with
        groupless | ⟨earlier, last, back, split, member, others⟩
      · rw [parent] at atEnd
        refine atEnd ?_ (Carousel.groupEnd?_eq_none groupless)
        rintro _ ⟨rfl⟩
        exact groupless
      · refine ⟨earlier ++ [last], back, by rw [split, List.append_cons],
          .behindGroup rfl member others, ?_⟩
        rw [placeOf, parent, Option.bind_some, valid.groupEnd?_of_split split member others,
          Option.getD_some, List.length_append, List.length_singleton]

/-- Making the first card is announced, and making another is not. -/
theorem signals_createActivity (settled : switcher.carousel.Settled) (activity : Activity) :
    (switcher.createActivity activity).signals =
      switcher.signals ++ if switcher.carousel.isEmpty then [.hasActivities true] else [] := by
  have changes : (switcher.carousel.insert (switcher.placeOf activity) activity).changes =
      turn switcher.carousel.occupied true := by
    have occupied := switcher.carousel.hasActivities_insert (switcher.placeOf activity) activity
    rw [Carousel.insert, Carousel.hasActivities_noteOccupancy] at occupied
    rw [Carousel.insert, Carousel.changes_noteOccupancy, occupied, settled.flushed, settled.noted,
      List.nil_append]
  have announced : (switcher.createActivity activity).signals = switcher.signals ++
      (switcher.carousel.insert (switcher.placeOf activity) activity).changes.map .hasActivities :=
    rfl
  rw [announced, changes, Carousel.occupied]
  cases switcher.carousel.isEmpty <;> rfl

/-- Adding a card and moving the focus is all that a window does that gets its own. -/
theorem getsCard_addCard (valid : switcher.carousel.Valid)
    (settled : switcher.carousel.Settled) (window : Window) :
    ∃ front back, switcher.GetsCard window front back
      ((switcher.addCard window).focusIfActive window switcher.carousel.nextHandle) := by
  let card := Activity.running window (switcher.apps.resolve window.appId)
    (switcher.parentAppId? window) switcher.shell.usableArea
  obtain ⟨front, back, split, parted, place⟩ := exists_parted_placeOf valid card
  have entries : (switcher.addCard window).carousel.entries =
      front ++ (switcher.carousel.nextHandle, card) :: back := by
    rw [← valid.entries_insert_of_split split, ← place]
    rfl
  have live : (switcher.addCard window).carousel.contains switcher.carousel.nextHandle = true :=
    (valid.contains_insert _ (switcher.placeOf card) card).2 (.inl rfl)
  refine ⟨front, back, split, parted, valid.nextHandle_not_mem, ?_, ?_, ?_⟩
  · rw [entries_focusIfActive, entries]
  · have points := pointsTo_focusIfActive window live
    have created : switcher.carousel.focused = (switcher.addCard window).carousel.focused ∧
        switcher.carousel.scrollTarget = (switcher.addCard window).carousel.scrollTarget ∧
        switcher.carousel.keyFocus = (switcher.addCard window).carousel.keyFocus :=
      ⟨(Carousel.focused_insert ..).symm, (Carousel.scrollTarget_insert ..).symm,
        (Carousel.keyFocus_insert ..).symm⟩
    constructor
    · rw [points.focused, created.1]
    · rw [points.scrollTarget, created.2.1]
    · rw [points.keyFocus, created.2.2]
  · rw [focusIfActive_others, ← signals_createActivity settled card]
    rfl

/-! ### One of the two -/

/-- For a window without a card exactly one of two things is done. Where the first card of its application
is a splash, the window takes it over; where that is a card of a window, or the application has no card or is
not recognised, the window gets a card of its own. -/
theorem Reachable.new_window_placed (reachable : switcher.Reachable) (now : Nat) (window : Window)
    (unshown : window.id ∉ switcher.carousel.windows) :
    ∃ after, switcher.handle now (.window (.added window)) = (after, .ok ()) ∧
      (∀ appInfo front handle splash back, switcher.apps.resolve window.appId = some appInfo →
        switcher.carousel.FirstWith (·.appInfo = some appInfo) front handle splash back →
        splash.isRunning = false →
        switcher.TakesOver window front handle splash back after) ∧
      ((∀ appInfo front handle first back, switcher.apps.resolve window.appId = some appInfo →
        switcher.carousel.FirstWith (·.appInfo = some appInfo) front handle first back →
        first.isRunning = true) →
        ∃ front back, switcher.GetsCard window front back after) := by
  have valid := reachable.valid
  have added : switcher.windowAdded window = switcher.placeWindow window := by
    rw [windowAdded, (Carousel.findByWindow?_eq_none_iff ..).2 unshown]
  have handled : switcher.handle now (.window (.added window)) =
      (switcher.windowAdded window, .ok ()) := rfl
  rw [added] at handled
  refine ⟨_, handled, ?_, ?_⟩
  · intro appInfo front handle splash back recognised first waiting
    have chosen := (splashFor?_eq_some_iff valid).2
      ⟨appInfo, front, splash, back, recognised, first, waiting⟩
    unfold placeWindow
    rw [chosen]
    exact takesOver_upgradeSplash valid first.split
  · intro running
    unfold placeWindow
    rw [splashFor?_eq_none valid running]
    exact getsCard_addCard valid reachable.settled window

/-- The window of an application whose launch is under way takes over the splash. A dialog of another
application stands directly behind the card of its parent instead, in front of the splash. -/
theorem settings_takes_splash_dialog_joins_parent :
    let launched := ((assemble {} true [Scenario.callsWindow] none).start.handle 0
      (.launch ⟨.started, "org.gnome.Settings", ⟨"settings"⟩⟩)).1
    let dialog : Window := { id := ⟨3⟩, appId := "org.gnome.Calls.Dialog", parent := some ⟨1⟩ }
    (∃ front splash back after,
      launched.handle 0 (.window (.added Scenario.settingsWindow)) = (after, .ok ()) ∧
      launched.TakesOver Scenario.settingsWindow front ⟨2, 1⟩ splash back after ∧
      after.carousel.roster = [(⟨1, 1⟩, .window ⟨1⟩), (⟨2, 1⟩, .window ⟨2⟩)]) ∧
    ∃ front back after, launched.handle 0 (.window (.added dialog)) = (after, .ok ()) ∧
      launched.GetsCard dialog front back after ∧
      after.carousel.roster =
        [(⟨1, 1⟩, .window ⟨1⟩), (⟨3, 1⟩, .window ⟨3⟩), (⟨2, 1⟩, .launch ⟨"settings"⟩)] := by
  intro launched dialog
  have reachable : launched.Reachable :=
    .handle (.start rfl rfl) 0 (.launch ⟨.started, "org.gnome.Settings", ⟨"settings"⟩⟩)
  constructor
  · have chosen : launched.splashFor? (launched.apps.resolve Scenario.settingsWindow.appId) =
        some ⟨2, 1⟩ := by decide +kernel
    obtain ⟨appInfo, front, splash, back, recognised, first, waiting⟩ :=
      (splashFor?_eq_some_iff reachable.valid).1 chosen
    obtain ⟨after, handled, takesOver, -⟩ :=
      reachable.new_window_placed 0 Scenario.settingsWindow (by decide +kernel)
    refine ⟨front, splash, back, after, handled,
      takesOver appInfo front ⟨2, 1⟩ splash back recognised first waiting, ?_⟩
    have roster : (launched.handle 0 (.window (.added Scenario.settingsWindow))).1.carousel.roster =
        [(⟨1, 1⟩, .window ⟨1⟩), (⟨2, 1⟩, .window ⟨2⟩)] := by decide +kernel
    rwa [handled] at roster
  · obtain ⟨after, handled, -, getsCard⟩ := reachable.new_window_placed 0 dialog (by decide +kernel)
    obtain ⟨front, back, placed⟩ := getsCard fun appInfo front handle first back recognised found => by
      by_contra waiting
      have chosen := (splashFor?_eq_some_iff reachable.valid).2
        ⟨appInfo, front, first, back, recognised, found, by simpa using waiting⟩
      have none : launched.splashFor? (launched.apps.resolve dialog.appId) = none := by
        decide +kernel
      rw [none] at chosen
      cases chosen
    refine ⟨front, back, after, handled, placed, ?_⟩
    have roster : (launched.handle 0 (.window (.added dialog))).1.carousel.roster =
        [(⟨1, 1⟩, .window ⟨1⟩), (⟨3, 1⟩, .window ⟨3⟩), (⟨2, 1⟩, .launch ⟨"settings"⟩)] := by
      decide +kernel
    rwa [handled] at roster

end Switcher

end TaskSwitcher
