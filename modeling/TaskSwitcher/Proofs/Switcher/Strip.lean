import TaskSwitcher.Proofs.Switcher.Deeds

/-!
# What handling does to the strip

Few events change who is on the strip. A report of a new window adds it, a report of a closed window
takes it away, and launches come and go; everything else is steady. `windowsAfter` says which windows are
shown after an event, and `shows_handle` that handling shows exactly those.
-/

namespace TaskSwitcher.Switcher

variable (switcher : Switcher) (handle : Handle) (window : Window) (activity : Activity)

/-! ### Steady parts -/

@[simp] theorem carousel_cancelThumbnail (request : Option ThumbnailRequest) :
    (switcher.cancelThumbnail request).carousel = switcher.carousel := by
  cases request <;> rfl

/-- A request for a picture is steady. -/
theorem steady_requestThumbnail :
    switcher.carousel.Steady (switcher.requestThumbnail handle).carousel := by
  unfold requestThumbnail
  split
  · exact .refl _
  · split
    · exact .refl _
    · rw [carousel_cancelThumbnail]
      exact .modify _ handle fun activity => activity.occupant_awaiting _

/-- Moving the focus changes no card. -/
theorem arena_focusActivity :
    (switcher.focusActivity handle).carousel.arena = switcher.carousel.arena :=
  (Carousel.arena_scrollTo _ handle).trans (Carousel.arena_focus _ handle)

/-- Moving the focus is steady. -/
theorem steady_focusActivity :
    switcher.carousel.Steady (switcher.focusActivity handle).carousel :=
  (Carousel.Steady.focus _ handle).trans (Carousel.Steady.scrollTo _ handle)

/-- A snapshot on a card is steady. -/
theorem steady_showWindow :
    switcher.carousel.Steady (switcher.showWindow handle window).carousel :=
  .modify _ handle fun activity => activity.occupant_showing window

/-- Moving the focus to an active window is steady. -/
theorem steady_focusIfActive :
    switcher.carousel.Steady (switcher.focusIfActive window handle).carousel := by
  unfold focusIfActive
  split
  · exact switcher.steady_focusActivity handle
  · exact .refl _

/-- A report that a window changed is steady. -/
theorem steady_windowChanged :
    switcher.carousel.Steady (switcher.windowChanged window).1.carousel := by
  unfold windowChanged
  split
  · exact .refl _
  · next found _ =>
      split
      · exact switcher.steady_showWindow found window
      · exact (switcher.steady_showWindow found window).trans (steady_requestThumbnail _ found)

/-- News about the activation are steady. -/
theorem steady_windowActivated :
    switcher.carousel.Steady (switcher.windowActivated window).1.carousel := by
  unfold windowActivated
  split
  · split
    · exact .refl _
    · next found _ => exact switcher.steady_focusActivity found
  · exact .refl _

/-- A command does not change the carousel. -/
theorem carousel_obey (call : Call) : (switcher.obey call).carousel = switcher.carousel := by
  cases call <;> rfl

/-- A touch is steady. -/
theorem Touch.steady {before after : Switcher} (touch : Touch before after) :
    before.carousel.Steady after.carousel := by
  cases touch with
  | request handle => exact before.steady_requestThumbnail handle
  | allocate handle size drawable =>
      exact .modify _ handle fun activity => activity.occupant_withAllocation size
  | area area => exact .mapActivities _ fun activity => activity.occupant_withArea area
  | scroll handle => exact .scrollOnly _ handle
  | grab handle => exact .grabFocus _ handle
  | command call other =>
      rw [carousel_obey]
      exact .refl _
  | emit signal other => exact .refl _

/-- Touches are steady. -/
theorem Touches.steady {before after : Switcher} (touches : Touches before after) :
    before.carousel.Steady after.carousel := by
  induction touches with
  | refl => exact .refl _
  | tail _ last inductionHypothesis => exact inductionHypothesis.trans last.steady

/-- No action of the user changes who is on the strip. -/
theorem steady_handleUi (action : UiEvent) :
    switcher.carousel.Steady (switcher.handleUi action).1.carousel := by
  rcases switcher.handleUi_cases action with
    touches | ⟨handle, activity, window, fullscreen, -, -, passedOn⟩
  · exact touches.steady
  · rw [passedOn]
    exact .modify _ handle fun activity => activity.occupant_withFullscreen fullscreen

/-- A picture that comes is steady. -/
theorem steady_thumbnailReady (request : ThumbnailRequest) :
    switcher.carousel.Steady (switcher.thumbnailReady handle request).carousel :=
  .modify _ handle fun activity => activity.occupant_receive request

/-! ### Cards that come and go -/

/-- The removal of a card erases it, and what waits to be told may be handed over. -/
theorem carousel_destroyActivity :
    (switcher.destroyActivity handle).carousel = switcher.carousel.erase handle ∨
      (switcher.destroyActivity handle).carousel = (switcher.carousel.erase handle).drain := by
  cases found : switcher.carousel.get? handle with
  | none =>
      have absent := (Carousel.contains_eq_false_iff ..).2 found
      left
      rw [destroyActivity, found, Carousel.erase_of_not_contains _ _ absent]
  | some activity =>
      right
      simp only [destroyActivity, found, announceOccupancy, carousel_cancelThumbnail]
      rfl

/-- Removing a card takes it off the strip; the rest is steady. -/
theorem steady_destroyActivity :
    (switcher.carousel.erase handle).Steady (switcher.destroyActivity handle).carousel := by
  rcases switcher.carousel_destroyActivity handle with same | drained
  · rw [same]
    exact .refl _
  · rw [drained]
    exact .drain _

/-- The removal of a card leaves every other handle its card. -/
theorem get?_destroyActivity (other : Handle) :
    (switcher.destroyActivity handle).carousel.get? other =
      if other = handle then none else switcher.carousel.get? other := by
  rw [← Carousel.get?_erase]
  rcases switcher.carousel_destroyActivity handle with same | drained
  · rw [same]
  · rw [drained]
    rfl

/-- The removal of a card leaves the others in their order. -/
theorem entries_destroyActivity :
    (switcher.destroyActivity handle).carousel.entries =
      switcher.carousel.entries.filter fun entry => entry.1 ≠ handle := by
  rw [← Carousel.entries_erase]
  rcases switcher.carousel_destroyActivity handle with same | drained
  · rw [same]
  · rw [drained]
    rfl

/-- Removing cards one after the other leaves the others as they are. -/
theorem get?_destroyActivities (handles : List Handle) (other : Handle) :
    (handles.foldl destroyActivity switcher).carousel.get? other =
      if other ∈ handles then none else switcher.carousel.get? other := by
  induction handles generalizing switcher with
  | nil => rfl
  | cons first rest inductionHypothesis =>
      rw [List.foldl_cons, inductionHypothesis, get?_destroyActivity]
      by_cases later : other ∈ rest <;> simp [later]

/-- What a view reads off a card goes with the card. -/
theorem viewOf?_destroyActivity {β : Type} (view : Activity → Option β) (other : Handle) :
    (switcher.destroyActivity handle).carousel.viewOf? view other =
      if other = handle then none else switcher.carousel.viewOf? view other := by
  rw [Carousel.viewOf?, get?_destroyActivity]
  split <;> rfl

section

variable {switcher handle activity} {shown : List WindowId}
  (shows : switcher.carousel.Shows shown)

include shows

/-- A new card shows its window besides the others, if it has one. -/
theorem shows_createActivity (activity : Activity) :
    (switcher.createActivity activity).carousel.Shows (activity.window?.toList ++ shown) :=
  (shows.insert (switcher.placeOf activity) activity).steady (.drain _)

/-- The removal of a card hides its window, if it has one. -/
theorem shows_destroyActivity (found : switcher.carousel.get? handle = some activity) :
    (switcher.destroyActivity handle).carousel.Shows (shown.diff activity.window?.toList) :=
  (shows.erase found).steady (switcher.steady_destroyActivity handle)

/-- Removing a splash, or nothing at all, leaves the windows shown alone. -/
theorem shows_destroySplash
    (splash : ∀ activity, switcher.carousel.get? handle = some activity → activity.window? = none) :
    (switcher.destroyActivity handle).carousel.Shows shown := by
  cases found : switcher.carousel.get? handle with
  | none =>
      rw [destroyActivity, found]
      exact shows
  | some activity =>
      have destroyed := shows_destroyActivity shows found
      rwa [splash activity found] at destroyed

/-- A splash that is taken over shows the window besides the others. -/
theorem shows_upgradeSplash (found : switcher.carousel.get? handle = some activity)
    (splash : activity.window? = none) (window : Window) :
    (switcher.upgradeSplash handle window).carousel.Shows (window.id :: shown) :=
  (shows.bind (·.bindWindow window switcher.shell.usableArea) found splash rfl).steady
    (steady_requestThumbnail
      (switcher.mapCarousel (·.modify handle (·.bindWindow window switcher.shell.usableArea)))
      handle)

/-- A window that is placed is shown besides the others, on a splash or on its own card. -/
theorem shows_placeWindow (window : Window) :
    (switcher.placeWindow window).carousel.Shows (window.id :: shown) := by
  unfold placeWindow
  split
  · next chosen found =>
      obtain ⟨activity, present, splash⟩ := exists_of_splashFor?_eq_some found
      exact (shows_upgradeSplash shows present splash window).steady (steady_focusIfActive ..)
  · exact (shows_createActivity shows _).steady (steady_focusIfActive ..)

/-- An opened window is shown once, whether or not it was shown before. -/
theorem shows_windowAdded (window : Window) :
    (switcher.windowAdded window).carousel.Shows (shown.insert window.id) := by
  unfold windowAdded
  split
  · next found search =>
      have known : window.id ∈ shown := by
        by_contra unknown
        rw [← shows.perm.mem_iff, ← Carousel.findByWindow?_eq_none_iff, search] at unknown
        cases unknown
      rw [List.insert_of_mem known]
      exact shows.steady (switcher.steady_showWindow found window)
  · next search =>
      rw [Carousel.findByWindow?_eq_none_iff, shows.perm.mem_iff] at search
      rw [List.insert_of_not_mem search]
      exact shows_placeWindow shows window

/-- A closed window is not shown any more, and all others are. -/
theorem shows_windowClosed (id : WindowId) :
    (switcher.windowClosed id).1.carousel.Shows (shown.erase id) := by
  unfold windowClosed
  split
  · next search =>
      rw [Carousel.findByWindow?_eq_none_iff, shows.perm.mem_iff] at search
      rw [List.erase_of_not_mem search]
      exact shows
  · next found search =>
      obtain ⟨activity, member, showing⟩ := Carousel.exists_of_findByWindow?_eq_some _ _ _ search
      have destroyed := shows_destroyActivity shows
        ((shows.valid.mem_entries_iff found activity).1 member)
      simpa [showing] using destroyed

/-- Removing splashes one after the other leaves the windows shown alone. -/
theorem shows_clearsSplashes {after : Switcher} (clears : ClearsSplashes switcher after) :
    after.carousel.Shows shown := by
  obtain ⟨handles, rfl, splashes⟩ := clears
  induction handles generalizing switcher with
  | nil => exact shows
  | cons first rest inductionHypothesis =>
      have left := shows_destroySplash shows (splashes first List.mem_cons_self)
      refine inductionHypothesis left ?_
      intro handle member activity found
      -- A card that is left was there before.
      rw [get?_destroyActivity, Option.ite_none_left_eq_some] at found
      exact splashes handle (List.mem_cons_of_mem first member) activity found.2

end

/-! ### The windows after an event -/

/-- The windows shown after an event, if those before it are `shown`. -/
def windowsAfter (shown : List WindowId) : Event → List WindowId
  | .window (.added window) => shown.insert window.id
  | .window (.closed id) => shown.erase id
  | _ => shown

/-- Handling an event shows a window that was opened, unless it is shown already, takes a window that
was closed off the strip, and leaves all other windows where they are. -/
theorem shows_handle {switcher : Switcher} {shown : List WindowId}
    (shows : switcher.carousel.Shows shown) (now : Nat) (event : Event) :
    (switcher.handle now event).1.carousel.Shows (windowsAfter shown event) := by
  cases event with
  | window event =>
      cases event with
      | added window => exact shows_windowAdded shows window
      | changed window => exact shows.steady (switcher.steady_windowChanged window)
      | closed id => exact shows_windowClosed shows id
      | activatedChanged window => exact shows.steady (switcher.steady_windowActivated window)
  | launch report =>
      rcases switcher.handleLaunch_cases now report with ⟨_, _, _, _, created⟩ | clears
      · rw [handle, created]
        exact shows_createActivity shows _
      · exact shows_clearsSplashes shows clears
  | ui event => exact shows.steady (switcher.steady_handleUi event)
  | thumbnailReady activity request =>
      exact shows.steady (switcher.steady_thumbnailReady activity request)
  | tick moment => exact shows_clearsSplashes shows (switcher.clearsSplashes_expireLaunches moment)

/-- Showing windows one after the other adds those that are not shown. -/
theorem shows_foldl_windowAdded {switcher : Switcher} {shown : List WindowId}
    (shows : switcher.carousel.Shows shown) (windows : List Window) :
    (windows.foldl windowAdded switcher).carousel.Shows
      (windows.foldl (fun shown window => shown.insert window.id) shown) := by
  induction windows generalizing switcher shown with
  | nil => exact shows
  | cons first rest inductionHypothesis =>
      exact inductionHypothesis (shows_windowAdded shows first)

/-- After a look at the registry its windows are shown besides those that were shown before. -/
theorem shows_syncWindows {switcher : Switcher} {shown : List WindowId}
    (shows : switcher.carousel.Shows shown) :
    switcher.syncWindows.carousel.Shows
      (switcher.registry.windows.foldl (fun shown window => shown.insert window.id) shown) :=
  (shows_foldl_windowAdded shows _).steady (.drain _)

end TaskSwitcher.Switcher
