import TaskSwitcher.Proofs.Carousel.Looks
import TaskSwitcher.Proofs.Switcher.Reachable

/-!
# What handling does to the looks

A card copies the look of its window from every report that carries a snapshot, except from news about the
activation. Other events keep the faces of all cards, with one exception: a request for the full screen
shows on the card at once, before the window has changed.
-/

namespace TaskSwitcher.Switcher

variable {switcher before middle after : Switcher} {handle : Handle}

/-! ### Faces that stay -/

/-- Every card goes on showing what it showed, and there are no new faces. -/
def KeepsFaces (before after : Switcher) : Prop :=
  ∀ handle, after.carousel.faceOf? handle = before.carousel.faceOf? handle

/-- Faces that are kept one time and then another are kept. -/
theorem KeepsFaces.trans (first : KeepsFaces before middle) (second : KeepsFaces middle after) :
    KeepsFaces before after :=
  fun handle => (second handle).trans (first handle)

/-- A request for a picture changes no face. -/
theorem keepsFaces_requestThumbnail (switcher : Switcher) (asking : Handle) :
    KeepsFaces switcher (switcher.requestThumbnail asking) := by
  intro handle
  unfold requestThumbnail
  split
  · rfl
  · split
    · rfl
    · rw [carousel_cancelThumbnail]
      exact switcher.carousel.viewOf?_modify_of_keeps Activity.face asking handle
        fun activity => activity.face_awaiting _

/-- A touch changes no face. -/
theorem Touch.keepsFaces (touch : Touch before after) : KeepsFaces before after := by
  intro handle
  cases touch with
  | request asking => exact before.keepsFaces_requestThumbnail asking handle
  | allocate other size drawable =>
      exact before.carousel.viewOf?_modify_of_keeps Activity.face other handle
        fun activity => activity.face_withAllocation size
  | area area =>
      exact before.carousel.viewOf?_mapActivities Activity.face handle
        fun activity => activity.face_withArea area
  | scroll other =>
      exact Carousel.viewOf?_eq_of_same_arena _ _ (before.carousel.arena_scrollOnly other)
  | grab other =>
      exact Carousel.viewOf?_eq_of_same_arena _ _ (before.carousel.arena_grabFocus other)
  | command call other => cases call <;> rfl
  | emit signal other => rfl

/-- A picture that comes changes no face. -/
theorem keepsFaces_thumbnailReady (switcher : Switcher) (chosen : Handle)
    (request : ThumbnailRequest) : KeepsFaces switcher (switcher.thumbnailReady chosen request) :=
  fun handle => switcher.carousel.viewOf?_modify_of_keeps Activity.face chosen handle
    fun activity => activity.face_receive request

/-- Touches change no face. -/
theorem Touches.keepsFaces (touches : Touches before after) : KeepsFaces before after := by
  induction touches with
  | refl => exact fun handle => rfl
  | tail _ last inductionHypothesis => exact inductionHypothesis.trans last.keepsFaces

/-- Moving the focus changes no face. -/
theorem keepsFaces_focusActivity (switcher : Switcher) (chosen : Handle) :
    KeepsFaces switcher (switcher.focusActivity chosen) := by
  intro handle
  exact Carousel.viewOf?_eq_of_same_arena _ _ (switcher.arena_focusActivity chosen)

/-- Moving the focus to an active window changes no face. -/
theorem keepsFaces_focusIfActive (switcher : Switcher) (window : Window) (chosen : Handle) :
    KeepsFaces switcher (switcher.focusIfActive window chosen) := by
  unfold focusIfActive
  split
  · exact switcher.keepsFaces_focusActivity chosen
  · exact fun handle => rfl

/-- News about the activation change no face. -/
theorem keepsFaces_windowActivated (switcher : Switcher) (window : Window) :
    KeepsFaces switcher (switcher.windowActivated window).1 := by
  unfold windowActivated
  split
  · split
    · exact fun handle => rfl
    · next found _ => exact switcher.keepsFaces_focusActivity found
  · exact fun handle => rfl

/-- A splash has no face when it goes. -/
theorem ClearsSplashes.keepsFaces (clears : ClearsSplashes before after) :
    KeepsFaces before after := by
  obtain ⟨handles, rfl, splashes⟩ := clears
  intro handle
  rw [Carousel.faceOf?, Carousel.viewOf?, get?_destroyActivities]
  split
  · next removed => exact (Carousel.faceOf?_eq_none (splashes handle removed)).symm
  · rfl

/-- Splashes come and go without a face. -/
theorem keepsFaces_handleLaunch (valid : switcher.carousel.Valid) (now : Nat)
    (report : LaunchEvent) : KeepsFaces switcher (switcher.handleLaunch now report) := by
  rcases switcher.handleLaunch_cases now report with
    ⟨appId, appInfo, startupId, -, created⟩ | clears
  · intro handle
    rw [created]
    refine (valid.viewOf?_insert Activity.face handle _ _).trans ?_
    split
    · next new =>
        rw [new, Carousel.faceOf?, valid.viewOf?_nextHandle]
        rfl
    · rfl
  · exact clears.keepsFaces

/-! ### Faces that change -/

/-- The card of a window takes on the look of a snapshot. -/
theorem faceOf?_showWindow {id : WindowId} {former : Look}
    (shows : switcher.carousel.faceOf? handle = some (id, former)) (window : Window)
    (other : Handle) :
    (switcher.showWindow handle window).carousel.faceOf? other =
      if other = handle then some (id, window.look) else switcher.carousel.faceOf? other := by
  refine (switcher.carousel.faceOf?_showing handle other window).trans ?_
  split
  · next same => rw [same, shows, Option.map_some]
  · rw [Option.map_id']

/-- The card that is found for a window has a face of this window. -/
theorem exists_faceOf?_of_findByWindow? (proper : switcher.carousel.Proper) {id : WindowId}
    (search : switcher.carousel.findByWindow? id = some handle) :
    ∃ look, switcher.carousel.faceOf? handle = some (id, look) := by
  rw [proper.valid.findByWindow?_eq_some_iff proper.distinct, Carousel.windowOf?_eq_faceOf?,
    Option.map_eq_some_iff] at search
  obtain ⟨⟨shown, look⟩, face, rfl⟩ := search
  exact ⟨look, face⟩

/-- A window without a card gets one whose face is that of the snapshot. -/
theorem exists_faceOf?_placeWindow (valid : switcher.carousel.Valid) (window : Window) :
    ∃ handle, switcher.carousel.faceOf? handle = none ∧ ∀ other,
      (switcher.placeWindow window).carousel.faceOf? other =
        if other = handle then some (window.id, window.look)
        else switcher.carousel.faceOf? other := by
  unfold placeWindow
  split
  · next chosen splash =>
      obtain ⟨activity, found, waiting⟩ := exists_of_splashFor?_eq_some splash
      refine ⟨chosen, ?_, fun other => ?_⟩
      · refine Carousel.faceOf?_eq_none fun other alsoFound => ?_
        rw [found] at alsoFound
        cases alsoFound
        exact waiting
      · rw [keepsFaces_focusIfActive, upgradeSplash, keepsFaces_requestThumbnail]
        refine (switcher.carousel.viewOf?_modify Activity.face chosen other).trans ?_
        rw [found]
        rfl
  · refine ⟨switcher.carousel.nextHandle, valid.viewOf?_nextHandle Activity.face, fun other => ?_⟩
    rw [keepsFaces_focusIfActive]
    exact valid.viewOf?_insert Activity.face other _ _

/-! ### Looks -/

/-- A snapshot of an opened window gives its card the look of the window. -/
theorem looks_windowAdded (proper : switcher.carousel.Proper) (window : Window) :
    (switcher.windowAdded window).carousel.looks =
      Function.update switcher.carousel.looks window.id (some window.look) := by
  have properAfter : (switcher.windowAdded window).carousel.Proper :=
    proper_handle proper 0 (.window (.added window))
  unfold windowAdded at properAfter ⊢
  split at properAfter
  · next found search =>
      obtain ⟨former, face⟩ := exists_faceOf?_of_findByWindow? proper search
      refine proper.looks_update properAfter (faceOf?_showWindow face window) ?_
      intro shown another given
      rw [face] at given
      cases given
      rfl
  · obtain ⟨handle, faceless, changed⟩ := exists_faceOf?_placeWindow proper.valid window
    refine proper.looks_update properAfter changed ?_
    intro shown another given
    rw [faceless] at given
    cases given

/-- A snapshot of a changed window gives its card the look of the window. -/
theorem looks_windowChanged (proper : switcher.carousel.Proper) {window : Window}
    (known : window.id ∈ switcher.carousel.windows) :
    (switcher.windowChanged window).1.carousel.looks =
      Function.update switcher.carousel.looks window.id (some window.look) := by
  have properAfter : (switcher.windowChanged window).1.carousel.Proper :=
    proper_handle proper 0 (.window (.changed window))
  unfold windowChanged at properAfter ⊢
  split at properAfter
  · next search =>
      rw [Carousel.findByWindow?_eq_none_iff] at search
      exact absurd known search
  · next found search =>
      obtain ⟨former, face⟩ := exists_faceOf?_of_findByWindow? proper search
      have changed := faceOf?_showWindow face window
      refine proper.looks_update properAfter (fun other => Eq.trans ?_ (changed other)) ?_
      · split
        · rfl
        · exact keepsFaces_requestThumbnail _ found other
      · intro shown another given
        rw [face] at given
        cases given
        rfl

/-- A closed window has no look any more. -/
theorem looks_windowClosed (proper : switcher.carousel.Proper) (id : WindowId) :
    (switcher.windowClosed id).1.carousel.looks =
      Function.update switcher.carousel.looks id none := by
  have properAfter : (switcher.windowClosed id).1.carousel.Proper :=
    proper_handle proper 0 (.window (.closed id))
  unfold windowClosed at properAfter ⊢
  split at properAfter
  · next search =>
      have unseen : switcher.carousel.looks id = none := by
        rw [Carousel.looks, search, Option.bind_none, Option.map_none]
      rw [← unseen, Function.update_eq_self]
  · next found search =>
      obtain ⟨former, face⟩ := exists_faceOf?_of_findByWindow? proper search
      exact proper.looks_forget properAfter face fun other =>
        switcher.viewOf?_destroyActivity found Activity.face other

/-- Handling a report about a known window, or anything else but a request for the full screen, changes
the looks as the news tell. -/
theorem looks_handle (proper : switcher.carousel.Proper) (now : Nat) {event : Event}
    (known : ∀ window, event = .window (.changed window) →
      window.id ∈ switcher.carousel.windows)
    (other : ∀ reference fullscreen, event ≠ .ui (.fullscreenRequested reference fullscreen)) :
    (switcher.handle now event).1.carousel.looks = looksAfter switcher.carousel.looks event := by
  have kept (keeps : KeepsFaces switcher (switcher.handle now event).1) :
      (switcher.handle now event).1.carousel.looks = switcher.carousel.looks :=
    proper.looks_congr (proper_handle proper now event) keeps
  cases event with
  | window report =>
      cases report with
      | added window => exact looks_windowAdded proper window
      | changed window => exact looks_windowChanged proper (known window rfl)
      | closed id => exact looks_windowClosed proper id
      | activatedChanged window => exact kept (switcher.keepsFaces_windowActivated window)
  | launch report => exact kept (keepsFaces_handleLaunch proper.valid now report)
  | ui event =>
      have touches := switcher.touches_handleUi event fun reference fullscreen same =>
        other reference fullscreen (congrArg Event.ui same)
      exact kept touches.keepsFaces
  | thumbnailReady activity request =>
      exact kept (switcher.keepsFaces_thumbnailReady activity request)
  | tick moment => exact kept (switcher.clearsSplashes_expireLaunches moment).keepsFaces

/-! ### A look at the registry -/

/-- Adding windows one after the other gives the looks that reports of them would. -/
theorem looks_foldl_windowAdded (proper : switcher.carousel.Proper) (windows : List Window) :
    (windows.foldl windowAdded switcher).carousel.Proper ∧
      (windows.foldl windowAdded switcher).carousel.looks =
        windows.foldl (fun looks window => looksAfter looks (.window (.added window)))
          switcher.carousel.looks := by
  induction windows generalizing switcher with
  | nil => exact ⟨proper, rfl⟩
  | cons first rest inductionHypothesis =>
      have properNext : (switcher.windowAdded first).carousel.Proper :=
        proper_handle proper 0 (.window (.added first))
      have later := inductionHypothesis properNext
      rwa [looks_windowAdded proper first] at later

/-- After a look at the registry the cards give its windows the looks that it has, and other windows those
that they had. -/
theorem looks_syncWindows (proper : switcher.carousel.Proper)
    (distinct : switcher.registry.ids.Nodup) (id : WindowId) :
    switcher.syncWindows.carousel.looks id =
      (switcher.registry.looks id).or (switcher.carousel.looks id) := by
  have looks := (looks_foldl_windowAdded proper switcher.registry.windows).2
  exact (congrFun looks id).trans (foldl_looksAfter_added distinct switcher.carousel.looks id)

end TaskSwitcher.Switcher
