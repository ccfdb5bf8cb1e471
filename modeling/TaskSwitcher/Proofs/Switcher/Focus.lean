import TaskSwitcher.Proofs.Session.Focus
import TaskSwitcher.Proofs.Switcher.Looks

/-!
# What handling does to the focus

A window is in focus when the focused card shows it. Handling an event moves the focus at least as
`focusAfter` says: the window that is in focus according to `focusAfter` is in focus.
-/

namespace TaskSwitcher

namespace Carousel

/-- The window that the focused card shows. -/
def focusedWindow? (carousel : Carousel) : Option WindowId :=
  carousel.focused.bind carousel.windowOf?

/-- A window is in focus when the focused handle finds its card. -/
theorem focusedWindow?_eq_some_iff (carousel : Carousel) (id : WindowId) :
    carousel.focusedWindow? = some id ↔
      ∃ handle, carousel.focused = some handle ∧ carousel.windowOf? handle = some id :=
  Option.bind_eq_some_iff

end Carousel

namespace Switcher

variable {switcher before middle after : Switcher} {handle : Handle} {id : WindowId}

/-! ### The focus stays -/

/-- If the window is in focus before, it still is afterwards. -/
def KeepsFocus (id : WindowId) (before after : Switcher) : Prop :=
  before.carousel.focusedWindow? = some id → after.carousel.focusedWindow? = some id

/-- The focus that is kept one time and then another is kept. -/
theorem KeepsFocus.trans (first : KeepsFocus id before middle) (second : KeepsFocus id middle after) :
    KeepsFocus id before after :=
  fun focused => second (first focused)

/-- The same card is focused, and cards go on showing their windows. -/
theorem KeepsFocus.of_focused_eq (same : after.carousel.focused = before.carousel.focused)
    (kept : ∀ handle, before.carousel.windowOf? handle = some id →
      after.carousel.windowOf? handle = some id) : KeepsFocus id before after := by
  intro focused
  obtain ⟨handle, points, shows⟩ := (Carousel.focusedWindow?_eq_some_iff ..).1 focused
  exact (Carousel.focusedWindow?_eq_some_iff ..).2 ⟨handle, same.trans points, kept handle shows⟩

/-- The same card is focused, and all cards keep their faces. -/
theorem KeepsFaces.keepsFocus (faces : KeepsFaces before after)
    (same : after.carousel.focused = before.carousel.focused) : KeepsFocus id before after := by
  refine .of_focused_eq same fun handle shows => ?_
  rw [Carousel.windowOf?_eq_faceOf?, faces handle, ← Carousel.windowOf?_eq_faceOf?]
  exact shows

@[simp] theorem focused_requestThumbnail (switcher : Switcher) (asking : Handle) :
    (switcher.requestThumbnail asking).carousel.focused = switcher.carousel.focused := by
  unfold requestThumbnail
  split
  · rfl
  · split
    · rfl
    · rw [carousel_cancelThumbnail]
      rfl

/-- A request for a picture does not move the focus. -/
theorem keepsFocus_requestThumbnail (switcher : Switcher) (asking : Handle) :
    KeepsFocus id switcher (switcher.requestThumbnail asking) :=
  (switcher.keepsFaces_requestThumbnail asking).keepsFocus
    (switcher.focused_requestThumbnail asking)

/-- A touch leaves the reference to the focused card alone. -/
theorem Touch.focused_eq (touch : Touch before after) :
    after.carousel.focused = before.carousel.focused := by
  cases touch with
  | request asking => exact before.focused_requestThumbnail asking
  | allocate other size drawable => rfl
  | area area => rfl
  | scroll other =>
      simp only [mapCarousel, Carousel.scrollOnly]
      split <;> rfl
  | grab other =>
      simp only [mapCarousel, Carousel.grabFocus]
      split <;> rfl
  | command call other => cases call <;> rfl
  | emit signal other => rfl

/-- Touches do not move the focus. -/
theorem Touches.keepsFocus (touches : Touches before after) : KeepsFocus id before after := by
  induction touches with
  | refl => exact fun focused => focused
  | tail _ last inductionHypothesis =>
      exact inductionHypothesis.trans (last.keepsFaces.keepsFocus last.focused_eq)

/-- A card that goes on showing its window keeps the focus. -/
theorem keepsFocus_modify (switcher : Switcher) (handle : Handle) {change : Activity → Activity}
    (kept : ∀ activity, (change activity).window? = activity.window?) :
    KeepsFocus id switcher (switcher.mapCarousel (·.modify handle change)) := by
  refine .of_focused_eq rfl fun other shows => ?_
  exact (switcher.carousel.viewOf?_modify_of_keeps Activity.window? handle other kept).trans shows

/-- A report that a window changed does not move the focus, even if the window is active. -/
theorem keepsFocus_windowChanged (switcher : Switcher) (window : Window) :
    KeepsFocus id switcher (switcher.windowChanged window).1 := by
  unfold windowChanged
  split
  · exact fun focused => focused
  · next found _ =>
      have shown : KeepsFocus id switcher (switcher.showWindow found window) :=
        switcher.keepsFocus_modify found fun _ => rfl
      split
      · exact shown
      · exact shown.trans (keepsFocus_requestThumbnail _ found)

/-- No action of the user moves the focus. A window that is asked to the front gets it by the report of its
activation. -/
theorem keepsFocus_handleUi (switcher : Switcher) (action : UiEvent) :
    KeepsFocus id switcher (switcher.handleUi action).1 := by
  rcases switcher.handleUi_cases action with
    touches | ⟨handle, activity, window, fullscreen, -, -, passedOn⟩
  · exact touches.keepsFocus
  · rw [passedOn]
    exact switcher.keepsFocus_modify handle fun _ => rfl

/-- A new card is not the focused one. -/
theorem keepsFocus_createActivity (valid : switcher.carousel.Valid) (activity : Activity) :
    KeepsFocus id switcher (switcher.createActivity activity) := by
  refine .of_focused_eq (switcher.carousel.focused_insert _ activity) fun handle shows => ?_
  refine (valid.viewOf?_insert Activity.window? handle _ activity).trans ?_
  have old : handle ≠ switcher.carousel.nextHandle := by
    rintro rfl
    have unused := valid.viewOf?_nextHandle Activity.window?
    rw [← Carousel.windowOf?_eq_viewOf?, shows] at unused
    cases unused
  rw [if_neg old]
  exact shows

/-- Removing a card that does not show the window leaves it in focus. -/
theorem keepsFocus_destroyActivity (switcher : Switcher) (gone : Handle)
    (other : switcher.carousel.windowOf? gone ≠ some id) :
    KeepsFocus id switcher (switcher.destroyActivity gone) := by
  intro focused
  obtain ⟨handle, points, shows⟩ := (Carousel.focusedWindow?_eq_some_iff ..).1 focused
  have apart : handle ≠ gone := fun same => other (same ▸ shows)
  rw [Carousel.focusedWindow?_eq_some_iff]
  refine ⟨handle, ?_, ?_⟩
  · have left : (switcher.carousel.erase gone).focused = some handle := by
      unfold Carousel.erase
      split
      · rw [Carousel.focused_noteOccupancy, Carousel.withoutReference, points, if_neg (by simpa)]
      · exact points
    rcases switcher.carousel_destroyActivity gone with same | drained
    · rw [same, left]
    · rw [drained]
      exact left
  · rw [Carousel.windowOf?, get?_destroyActivity, if_neg apart]
    exact shows

/-- A splash that goes takes the focus from no window. -/
theorem ClearsSplashes.keepsFocus (clears : ClearsSplashes before after) :
    KeepsFocus id before after := by
  obtain ⟨handles, rfl, splashes⟩ := clears
  induction handles generalizing before with
  | nil => exact fun focused => focused
  | cons first rest inductionHypothesis =>
      have splash : before.carousel.windowOf? first ≠ some id := by
        intro shows
        obtain ⟨activity, found, window⟩ := (Carousel.windowOf?_eq_some_iff ..).1 shows
        rw [splashes first List.mem_cons_self activity found] at window
        cases window
      refine (before.keepsFocus_destroyActivity first splash).trans (inductionHypothesis ?_)
      intro handle member activity found
      rw [get?_destroyActivity, Option.ite_none_left_eq_some] at found
      exact splashes handle (List.mem_cons_of_mem first member) activity found.2

/-- No report about a launch moves the focus away from a window. -/
theorem keepsFocus_handleLaunch (valid : switcher.carousel.Valid) (now : Nat)
    (report : LaunchEvent) : KeepsFocus id switcher (switcher.handleLaunch now report) := by
  rcases switcher.handleLaunch_cases now report with
    ⟨appId, appInfo, startupId, -, created⟩ | clears
  · rw [created]
    exact keepsFocus_createActivity valid _
  · exact clears.keepsFocus

/-! ### The focus moves -/

/-- The card of a window can take the focus. -/
theorem focused_focusActivity (shows : switcher.carousel.windowOf? handle = some id) :
    (switcher.focusActivity handle).carousel.focused = some handle := by
  obtain ⟨activity, found, -⟩ := (Carousel.windowOf?_eq_some_iff ..).1 shows
  have live := (Carousel.contains_iff ..).2 ⟨activity, found⟩
  have first : (switcher.carousel.focus handle).focused = some handle := by
    rw [Carousel.focus, if_pos live]
  refine Eq.trans ?_ first
  simp only [focusActivity, mapCarousel, Carousel.scrollTo]
  split <;> rfl

/-- Focusing the card of a window puts the window in focus. -/
theorem focusedWindow?_focusActivity (shows : switcher.carousel.windowOf? handle = some id) :
    (switcher.focusActivity handle).carousel.focusedWindow? = some id := by
  rw [Carousel.focusedWindow?_eq_some_iff]
  refine ⟨handle, focused_focusActivity shows, ?_⟩
  rw [Carousel.windowOf?_eq_faceOf?, switcher.keepsFaces_focusActivity handle,
    ← Carousel.windowOf?_eq_faceOf?]
  exact shows

/-- A splash shows the window that takes it over, and other cards show what they showed. -/
theorem windowOf?_upgradeSplash {activity : Activity}
    (found : switcher.carousel.get? handle = some activity) (window : Window) (other : Handle) :
    (switcher.upgradeSplash handle window).carousel.windowOf? other =
      if other = handle then some window.id else switcher.carousel.windowOf? other := by
  rw [upgradeSplash, Carousel.windowOf?_eq_faceOf?, keepsFaces_requestThumbnail,
    ← Carousel.windowOf?_eq_faceOf?]
  refine (switcher.carousel.viewOf?_modify Activity.window? handle other).trans ?_
  rw [found]
  rfl

/-- A window without a card gets one, which is focused if the window is active. -/
theorem placeWindow_cases (valid : switcher.carousel.Valid) (window : Window) :
    ∃ placed handle, switcher.placeWindow window = placed.focusIfActive window handle ∧
      placed.carousel.windowOf? handle = some window.id ∧ ∀ id, KeepsFocus id switcher placed := by
  unfold placeWindow
  split
  · next chosen splash =>
      obtain ⟨activity, found, waiting⟩ := exists_of_splashFor?_eq_some splash
      refine ⟨_, chosen, rfl, by rw [windowOf?_upgradeSplash found, if_pos rfl], fun id => ?_⟩
      refine .of_focused_eq (focused_requestThumbnail _ chosen) fun other shows => ?_
      rw [windowOf?_upgradeSplash found]
      split
      · next same =>
          rw [same, Carousel.windowOf?, found, Option.bind_some, waiting] at shows
          cases shows
      · exact shows
  · refine ⟨_, _, rfl, ?_, fun id => keepsFocus_createActivity valid _⟩
    refine (valid.viewOf?_insert Activity.window? switcher.carousel.nextHandle _ _).trans ?_
    rw [if_pos rfl]
    rfl

/-- An opened window takes the focus if the news says so. -/
theorem focusedWindow?_windowAdded (proper : switcher.carousel.Proper) (window : Window)
    (focused : focusAfter switcher.carousel.windows.toFinset switcher.carousel.focusedWindow?
      (.window (.added window)) = some id) :
    (switcher.windowAdded window).carousel.focusedWindow? = some id := by
  unfold windowAdded
  split
  · next found search =>
      have known : window.id ∈ switcher.carousel.windows.toFinset := by
        rw [List.mem_toFinset]
        by_contra unknown
        rw [← Carousel.findByWindow?_eq_none_iff, search] at unknown
        cases unknown
      have stays := focused
      rw [focusAfter, if_neg fun opens => opens.2 known] at stays
      exact switcher.keepsFocus_modify found (fun _ => rfl) stays
  · next search =>
      obtain ⟨placed, handle, places, shows, keeps⟩ := placeWindow_cases proper.valid window
      rw [Carousel.findByWindow?_eq_none_iff, ← List.mem_toFinset] at search
      rw [places, focusIfActive]
      rw [focusAfter] at focused
      split
      · next active =>
          rw [if_pos ⟨active, search⟩] at focused
          exact focused ▸ focusedWindow?_focusActivity shows
      · next inactive =>
          rw [if_neg fun opens => inactive opens.1] at focused
          exact keeps id focused

/-- An activated window takes the focus if the news says so. -/
theorem focusedWindow?_windowActivated (proper : switcher.carousel.Proper) {window : Window}
    (known : window.id ∈ switcher.carousel.windows)
    (focused : focusAfter switcher.carousel.windows.toFinset switcher.carousel.focusedWindow?
      (.window (.activatedChanged window)) = some id) :
    (switcher.windowActivated window).1.carousel.focusedWindow? = some id := by
  rw [focusAfter] at focused
  unfold windowActivated
  split
  · next active =>
      rw [if_pos active] at focused
      split
      · next search => exact absurd known ((Carousel.findByWindow?_eq_none_iff ..).1 search)
      · next found search =>
          rw [proper.valid.findByWindow?_eq_some_iff proper.distinct] at search
          exact focused ▸ focusedWindow?_focusActivity search
  · next inactive =>
      rw [if_neg inactive] at focused
      exact focused

/-- A closed window loses the focus, and no other one does. -/
theorem focusedWindow?_windowClosed (proper : switcher.carousel.Proper) (closed : WindowId)
    (focused : focusAfter switcher.carousel.windows.toFinset switcher.carousel.focusedWindow?
      (.window (.closed closed)) = some id) :
    (switcher.windowClosed closed).1.carousel.focusedWindow? = some id := by
  rw [focusAfter, Option.ite_none_left_eq_some] at focused
  obtain ⟨apart, focused⟩ := focused
  unfold windowClosed
  split
  · exact focused
  · next found search =>
      rw [proper.valid.findByWindow?_eq_some_iff proper.distinct] at search
      refine switcher.keepsFocus_destroyActivity found (fun shows => ?_) focused
      rw [search] at shows
      exact apart (focused.trans shows.symm)

/-- Handling an understood event puts in focus what `focusAfter` says. -/
theorem focusedWindow?_handle (proper : switcher.carousel.Proper) (now : Nat) {event : Event}
    (understood : Understood switcher.carousel.windows.toFinset event)
    (focused : focusAfter switcher.carousel.windows.toFinset switcher.carousel.focusedWindow? event =
      some id) :
    (switcher.handle now event).1.carousel.focusedWindow? = some id := by
  cases event with
  | window report =>
      cases report with
      | added window => exact focusedWindow?_windowAdded proper window focused
      | changed window => exact switcher.keepsFocus_windowChanged window focused
      | closed closed => exact focusedWindow?_windowClosed proper closed focused
      | activatedChanged window =>
          exact focusedWindow?_windowActivated proper (List.mem_toFinset.1 understood) focused
  | launch report => exact keepsFocus_handleLaunch proper.valid now report focused
  | ui action => exact switcher.keepsFocus_handleUi action focused
  | thumbnailReady activity request =>
      exact (switcher.keepsFaces_thumbnailReady activity request).keepsFocus rfl focused
  | tick moment => exact (switcher.clearsSplashes_expireLaunches moment).keepsFocus focused

end Switcher

end TaskSwitcher
