import TaskSwitcher.Proofs.Switcher.Looks

/-!
# A look at the registry

After a look at the registry each of its windows has one card, with the look that the registry has of it, and
the cards of other windows are as they were. There is nothing left to do then: the cards agree with the
registry, so a second look finds every window in place and changes nothing at all.
-/

namespace TaskSwitcher

/-- Replacing a value by itself does not show. -/
theorem Arena.modify_of_fixed {α : Type} {arena : Arena α} {handle : Handle} {change : α → α}
    {value : α} (found : arena.get? handle = some value) (fixed : change value = value) :
    arena.modify handle change = arena := by
  have atSlot := arena.exists_slot_of_get?_eq_some handle value found
  have slots : arena.slots.modify handle.slot (·.changeAt handle.version change) = arena.slots := by
    refine List.ext_getElem? fun position => ?_
    rw [List.getElem?_modify]
    split
    · next same =>
        rw [← same, atSlot]
        simp [Slot.changeAt, Slot.change, fixed]
    · exact id_map' _
  rw [modify, slots]

/-- A change that leaves the card as it is leaves the strip as it is. -/
theorem Carousel.modify_of_fixed {carousel : Carousel} {handle : Handle}
    {change : Activity → Activity} {activity : Activity}
    (found : carousel.get? handle = some activity) (fixed : change activity = activity) :
    carousel.modify handle change = carousel := by
  rw [modify, Arena.modify_of_fixed found fixed]

/-- A card that has the look of a snapshot is not changed by showing it. -/
theorem Activity.showing_of_look_eq {activity : Activity} {window : Window}
    (agrees : activity.look = window.look) : activity.showing window = activity := by
  simp only [look, Window.look, Look.mk.injEq] at agrees
  rw [showing, ← agrees.1, ← agrees.2.1, ← agrees.2.2]

namespace Switcher

variable {switcher : Switcher}

/-! ### The cards of other windows -/

/-- A request for the picture of one card leaves the other cards alone. -/
theorem get?_requestThumbnail_of_ne (switcher : Switcher) {handle other : Handle}
    (apart : other ≠ handle) :
    (switcher.requestThumbnail handle).carousel.get? other = switcher.carousel.get? other := by
  unfold requestThumbnail
  split
  · rfl
  · split
    · rfl
    · rw [carousel_cancelThumbnail]
      refine (switcher.carousel.get?_modify handle other _).trans ?_
      simp [apart]

/-- Moving the focus leaves all cards alone. -/
theorem get?_focusIfActive (switcher : Switcher) (window : Window) (handle other : Handle) :
    (switcher.focusIfActive window handle).carousel.get? other = switcher.carousel.get? other := by
  unfold focusIfActive
  split
  · simp [focusActivity, mapCarousel, Carousel.get?]
  · rfl

/-- Adding a window concerns one card only. It shows no other window before, and this window afterwards. -/
theorem exists_get?_windowAdded (proper : switcher.carousel.Proper) (window : Window) :
    ∃ handle,
      (∀ id, switcher.carousel.windowOf? handle = some id → id = window.id) ∧
      (switcher.windowAdded window).carousel.windowOf? handle = some window.id ∧
      ∀ other, other ≠ handle →
        (switcher.windowAdded window).carousel.get? other = switcher.carousel.get? other := by
  unfold windowAdded
  split
  · next found search =>
      rw [proper.valid.findByWindow?_eq_some_iff proper.distinct] at search
      -- The window has a card, which goes on showing it.
      refine ⟨found, fun id shown => ?_, ?_, fun other apart => ?_⟩
      · rw [search] at shown
        exact (Option.some.inj shown).symm
      · rw [← search]
        exact switcher.carousel.viewOf?_modify_of_keeps Activity.window? found found fun _ => rfl
      · exact (switcher.carousel.get?_modify found other _).trans (by simp [apart])
  · unfold placeWindow
    split
    · next chosen splash =>
        -- A splash is taken over, which shows no window before.
        obtain ⟨activity, found, waiting⟩ := exists_of_splashFor?_eq_some splash
        refine ⟨chosen, fun id shown => ?_, ?_, fun other apart => ?_⟩
        · rw [Carousel.windowOf?, found, Option.bind_some, waiting] at shown
          cases shown
        · rw [Carousel.windowOf?_eq_faceOf?, keepsFaces_focusIfActive, upgradeSplash,
            keepsFaces_requestThumbnail, ← Carousel.windowOf?_eq_faceOf?]
          refine (switcher.carousel.viewOf?_modify Activity.window? chosen chosen).trans ?_
          rw [if_pos rfl, found]
          rfl
        · rw [get?_focusIfActive, upgradeSplash, get?_requestThumbnail_of_ne _ apart]
          exact (switcher.carousel.get?_modify chosen other _).trans (by simp [apart])
    · let position := switcher.placeOf (.running window (switcher.apps.resolve window.appId)
        (switcher.parentAppId? window) switcher.shell.usableArea)
      -- A card is made under a handle that finds none before.
      refine ⟨switcher.carousel.nextHandle, fun id shown => ?_, ?_, fun other apart => ?_⟩
      · have unused := proper.valid.viewOf?_nextHandle Activity.window?
        rw [Carousel.windowOf?_eq_viewOf?, unused] at shown
        cases shown
      · rw [Carousel.windowOf?, get?_focusIfActive]
        refine (proper.valid.viewOf?_insert Activity.window? _ position _).trans ?_
        rw [if_pos rfl]
        rfl
      · rw [get?_focusIfActive]
        refine (proper.valid.get?_insert other position _).trans ?_
        rw [if_neg apart]

/-- The card of another window stays the card of that window, just as it is. -/
theorem get?_windowAdded_eq_some_iff (proper : switcher.carousel.Proper) {window : Window}
    {handle : Handle} {activity : Activity} {id : WindowId} (shows : activity.window? = some id)
    (apart : id ≠ window.id) :
    (switcher.windowAdded window).carousel.get? handle = some activity ↔
      switcher.carousel.get? handle = some activity := by
  obtain ⟨concerned, before, after, others⟩ := exists_get?_windowAdded proper window
  by_cases same : handle = concerned
  · subst same
    constructor
    · intro found
      rw [Carousel.windowOf?, found, Option.bind_some, shows] at after
      exact absurd (Option.some.inj after) apart
    · intro found
      refine absurd (before id ?_) apart
      rw [Carousel.windowOf?, found, Option.bind_some, shows]
  · rw [others handle same]

/-- Adding windows leaves the cards of the other windows alone. -/
theorem get?_foldl_windowAdded_eq_some_iff (proper : switcher.carousel.Proper)
    {windows : List Window} {handle : Handle} {activity : Activity} {id : WindowId}
    (shows : activity.window? = some id) (unlisted : id ∉ windows.map (·.id)) :
    (windows.foldl windowAdded switcher).carousel.get? handle = some activity ↔
      switcher.carousel.get? handle = some activity := by
  induction windows generalizing switcher with
  | nil => exact Iff.rfl
  | cons first rest inductionHypothesis =>
      rw [List.map_cons, List.mem_cons, not_or] at unlisted
      have properNext : (switcher.windowAdded first).carousel.Proper :=
        proper_handle proper 0 (.window (.added first))
      exact (inductionHypothesis properNext unlisted.2).trans
        (get?_windowAdded_eq_some_iff proper shows unlisted.1)

/-! ### The windows of the registry -/

/-- A look at the registry leaves the strip proper. -/
theorem proper_syncWindows (proper : switcher.carousel.Proper) :
    switcher.syncWindows.carousel.Proper :=
  ⟨valid_syncWindows proper.valid, nodup_windows_syncWindows proper.valid proper.distinct⟩

/-- Commands about pictures leave the registry alone. -/
theorem PerformsOnly.registry_eq {before after : Switcher}
    (only : PerformsOnly Call.AboutPicture before after) : after.registry = before.registry := by
  obtain ⟨calls, performs, aboutPictures⟩ := only
  rw [performs.parts]
  clear performs
  change (calls.foldl obey before).registry = before.registry
  induction calls generalizing before with
  | nil => rfl
  | cons first rest inductionHypothesis =>
      have unchanged : (before.obey first).registry = before.registry := by
        cases first with
        | window command => exact absurd (aboutPictures _ List.mem_cons_self) not_false
        | _ => rfl
      exact (inductionHypothesis fun call member =>
        aboutPictures call (List.mem_cons_of_mem first member)).trans unchanged

/-- A look at the registry does not change it. -/
theorem registry_syncWindows (switcher : Switcher) :
    switcher.syncWindows.registry = switcher.registry :=
  switcher.pictures_syncWindows.registry_eq

/-- After a look at the registry each of its windows has a card with the look that the registry has of it. -/
theorem exists_card_syncWindows (proper : switcher.carousel.Proper)
    (distinct : switcher.registry.ids.Nodup) {window : Window}
    (member : window ∈ switcher.registry.windows) :
    ∃ handle activity, switcher.syncWindows.carousel.get? handle = some activity ∧
      activity.window? = some window.id ∧ activity.look = window.look := by
  have agrees : switcher.syncWindows.carousel.looks window.id = some window.look := by
    have registered : switcher.registry.looks window.id = some window.look := by
      rw [Registry.looks, Registry.get?_of_mem distinct member, Option.map_some]
    rw [looks_syncWindows proper distinct, registered, Option.some_or]
  obtain ⟨handle, face⟩ := ((proper_syncWindows proper).looks_eq_some_iff _ _).1 agrees
  obtain ⟨activity, found, given⟩ := (Carousel.viewOf?_eq_some_iff ..).1 face
  exact ⟨handle, activity, found, (activity.face_eq_some_iff _ _).1 given⟩

/-! ### A second look -/

/-- A window that is shown as the registry has it is added in vain. -/
theorem windowAdded_of_shown (proper : switcher.carousel.Proper) {window : Window} {handle : Handle}
    {activity : Activity} (found : switcher.carousel.get? handle = some activity)
    (shows : activity.window? = some window.id) (agrees : activity.look = window.look) :
    switcher.windowAdded window = switcher := by
  have search : switcher.carousel.findByWindow? window.id = some handle :=
    (proper.valid.findByWindow?_eq_some_iff proper.distinct _ _).2
      ((Carousel.windowOf?_eq_some_iff ..).2 ⟨activity, found, shows⟩)
  have unchanged : switcher.carousel.modify handle (·.showing window) = switcher.carousel :=
    Carousel.modify_of_fixed found (Activity.showing_of_look_eq agrees)
  rw [windowAdded, search]
  change switcher.mapCarousel (·.modify handle (·.showing window)) = switcher
  rw [mapCarousel, unchanged]

/-- Windows of which none does anything when it is added do nothing together. -/
theorem foldl_windowAdded_of_vain {windows : List Window}
    (vain : ∀ window ∈ windows, switcher.windowAdded window = switcher) :
    windows.foldl windowAdded switcher = switcher := by
  induction windows with
  | nil => rfl
  | cons first rest inductionHypothesis =>
      rw [List.foldl_cons, vain first List.mem_cons_self]
      exact inductionHypothesis fun window member => vain window (List.mem_cons_of_mem first member)

/-- What was announced is not announced again. -/
theorem announceOccupancy_announceOccupancy (switcher : Switcher) :
    switcher.announceOccupancy.announceOccupancy = switcher.announceOccupancy := by
  simp [announceOccupancy, Carousel.drain]

/-- A second look at the registry changes nothing at all. -/
theorem syncWindows_syncWindows (proper : switcher.carousel.Proper)
    (distinct : switcher.registry.ids.Nodup) :
    switcher.syncWindows.syncWindows = switcher.syncWindows := by
  have vain : ∀ window ∈ switcher.registry.windows,
      switcher.syncWindows.windowAdded window = switcher.syncWindows := by
    intro window member
    obtain ⟨handle, activity, found, shows, agrees⟩ :=
      exists_card_syncWindows proper distinct member
    exact windowAdded_of_shown (proper_syncWindows proper) found shows agrees
  calc
    switcher.syncWindows.syncWindows
        = (switcher.registry.windows.foldl windowAdded
            switcher.syncWindows).announceOccupancy := by
          rw [syncWindows, registry_syncWindows]
    _ = switcher.syncWindows.announceOccupancy := by rw [foldl_windowAdded_of_vain vain]
    _ = switcher.syncWindows := announceOccupancy_announceOccupancy _

/-- Whatever the cards show and whatever the registry has, after a look at the registry each of its windows
has exactly one card, which shows the title and the state that the registry has of it. The cards of other
windows are the same as before. A second look changes nothing: not the cards, their order and the references
to them, not the announcements, the requests for pictures or the mailbox. -/
theorem Reachable.sync_completes (reachable : switcher.Reachable)
    (distinct : switcher.registry.ids.Nodup) :
    (∀ window ∈ switcher.registry.windows, ∃ handle activity,
      switcher.syncWindows.carousel.get? handle = some activity ∧
      activity.window? = some window.id ∧ activity.title = window.title ∧
      activity.geometry.maximized = window.maximized ∧
      activity.geometry.fullscreen = window.fullscreen ∧
      ∀ other, switcher.syncWindows.carousel.windowOf? other = some window.id → other = handle) ∧
    (∀ handle activity id, activity.window? = some id → id ∉ switcher.registry.ids →
      (switcher.syncWindows.carousel.get? handle = some activity ↔
        switcher.carousel.get? handle = some activity)) ∧
    switcher.syncWindows.syncWindows = switcher.syncWindows := by
  have proper := reachable.proper
  refine ⟨fun window member => ?_, fun handle activity id shows unknown => ?_, ?_⟩
  · obtain ⟨handle, activity, found, shows, agrees⟩ :=
      exists_card_syncWindows proper distinct member
    simp only [Activity.look, Window.look, Look.mk.injEq] at agrees
    refine ⟨handle, activity, found, shows, agrees.1, agrees.2.1, agrees.2.2, fun other same => ?_⟩
    have properAfter := proper_syncWindows proper
    exact properAfter.valid.eq_of_windowOf?_eq properAfter.distinct same
      ((Carousel.windowOf?_eq_some_iff ..).2 ⟨activity, found, shows⟩)
  · exact get?_foldl_windowAdded_eq_some_iff proper shows unknown
  · exact syncWindows_syncWindows proper distinct

/-- The overview shows a window that the registry has lost, and a splash. At a look at the registry the first
of two windows of an application takes over the splash, the other one gets a card of its own, and the card of
the lost window stays. -/
theorem settings_shown_besides_calls :
    let launched := ((assemble {} true [Scenario.callsWindow] none).start.handle 0
      (.launch ⟨.started, "org.gnome.Settings", ⟨"settings"⟩⟩)).1
    let registry : Registry :=
      { launched.registry with
        windows := [Scenario.dialogWindow, { Scenario.settingsWindow with fullscreen := true }] }
    let changed : Switcher := { launched with registry }
    (∃ handle activity, changed.syncWindows.carousel.get? handle = some activity ∧
      activity.window? = some Scenario.settingsWindow.id ∧
      activity.geometry.fullscreen = true) ∧
    (∀ activity, launched.carousel.get? ⟨1, 1⟩ = some activity →
      changed.syncWindows.carousel.get? ⟨1, 1⟩ = some activity) ∧
    changed.syncWindows.carousel.roster =
      [(⟨1, 1⟩, .window ⟨1⟩), (⟨2, 1⟩, .window ⟨3⟩), (⟨3, 1⟩, .window ⟨2⟩)] ∧
    changed.syncWindows.syncWindows = changed.syncWindows := by
  intro launched registry changed
  have reachable : changed.Reachable :=
    .device (.handle (.start rfl rfl) 0 (.launch ⟨.started, "org.gnome.Settings", ⟨"settings"⟩⟩))
      { launched.toDevice with registry }
  obtain ⟨complete, untouched, settled⟩ := reachable.sync_completes (by decide +kernel)
  refine ⟨?_, fun activity found => ?_, by decide +kernel, settled⟩
  · obtain ⟨handle, activity, found, shows, -, -, fullscreen, -⟩ :=
      complete { Scenario.settingsWindow with fullscreen := true } (.tail _ (.head _))
    exact ⟨handle, activity, found, shows, fullscreen⟩
  · have shows : launched.carousel.windowOf? ⟨1, 1⟩ = some ⟨1⟩ := by decide +kernel
    rw [Carousel.windowOf?, found, Option.bind_some] at shows
    exact (untouched ⟨1, 1⟩ activity ⟨1⟩ shows (by decide +kernel)).2 found

end Switcher

end TaskSwitcher
