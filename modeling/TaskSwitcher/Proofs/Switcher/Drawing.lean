import TaskSwitcher.Proofs.Carousel.Drawing
import TaskSwitcher.Proofs.Switcher.Focus
import TaskSwitcher.Proofs.Switcher.Pictures

/-!
# Splashes stay plain, and the focus stays on windows

Whatever news come and whatever the user asks for, what a window tells is written on a card that has this
window, and such a card alone is given the focus. So every splash looks as the launch drew it, and renewing
the picture of the focused card is never in vain.
-/

namespace TaskSwitcher.Switcher

variable {switcher after : Switcher} {preferDark : Bool} {handle : Handle} {id : WindowId}

/-! ### The preferred colours -/

/-- No event changes the preference for dark splashes. -/
theorem preferDark_handle (switcher : Switcher) (now : Nat) (event : Event) :
    (switcher.handle now event).1.splash.preferDark = switcher.splash.preferDark := by
  obtain ⟨calls, performs⟩ := switcher.exists_performs_handle now event
  exact performs.keeps (·.splash.preferDark) (fun _ _ _ => rfl) fun _ call => by cases call <;> rfl

/-- A look at the registry leaves the preference for dark splashes alone. -/
theorem preferDark_syncWindows (switcher : Switcher) :
    switcher.syncWindows.splash.preferDark = switcher.splash.preferDark := by
  obtain ⟨calls, performs, -⟩ := switcher.pictures_syncWindows
  exact performs.keeps (·.splash.preferDark) (fun _ _ _ => rfl) fun _ call => by cases call <;> rfl

/-! ### Single deeds -/

section

variable (presentable : switcher.carousel.Presentable preferDark)

include presentable

/-- A request for a picture concerns a card that shows a window, which may wait for one. -/
theorem presentable_requestThumbnail (handle : Handle) :
    (switcher.requestThumbnail handle).carousel.Presentable preferDark := by
  rcases switcher.requestThumbnail_cases handle with
    unchanged | ⟨picture, window, size, -, requested⟩
  · rwa [unchanged]
  · rw [requested, carousel_cancelThumbnail]
    exact presentable.modify handle _ fun _ _ => .awaiting _

/-- A snapshot on the card of a window keeps the strip presentable. -/
theorem presentable_showWindow (shown : switcher.carousel.windowOf? handle = some id)
    (window : Window) : (switcher.showWindow handle window).carousel.Presentable preferDark := by
  refine presentable.modify handle _ fun activity found => .showing id ?_ window
  rwa [Carousel.windowOf?, found, Option.bind_some] at shown

/-- The focus may move to the card of a window. -/
theorem presentable_focusActivity (shown : switcher.carousel.windowOf? handle = some id) :
    (switcher.focusActivity handle).carousel.Presentable preferDark :=
  presentable.focus_of_windowOf? shown (switcher.arena_focusActivity handle)
    (focused_focusActivity shown)

/-- The focus moves to the card of a window or stays where it may be. -/
theorem presentable_focusIfActive (shown : switcher.carousel.windowOf? handle = some id)
    (window : Window) :
    (switcher.focusIfActive window handle).carousel.Presentable preferDark := by
  unfold focusIfActive
  split
  · exact presentable_focusActivity presentable shown
  · exact presentable

/-- A well drawn card keeps the strip presentable; it is not in focus yet. -/
theorem presentable_createActivity (valid : switcher.carousel.Valid) {activity : Activity}
    (drawn : activity.WellDrawn preferDark) :
    (switcher.createActivity activity).carousel.Presentable preferDark :=
  (presentable.insert valid (switcher.placeOf activity) drawn).of_same_arena rfl rfl

/-- A card that goes takes the focus with it if it has it. -/
theorem presentable_destroyActivity (handle : Handle) :
    (switcher.destroyActivity handle).carousel.Presentable preferDark := by
  have erased := presentable.erase handle
  rcases switcher.carousel_destroyActivity handle with same | drained
  · rwa [same]
  · rw [drained]
    exact erased.of_same_arena rfl rfl

/-- Removals keep the strip presentable. -/
theorem presentable_clears (clears : Clears switcher after) :
    after.carousel.Presentable preferDark :=
  clears.lift
    (motive := fun before after =>
      before.carousel.Presentable preferDark → after.carousel.Presentable preferDark)
    (fun _ => id) (fun first second => second ∘ first)
    (fun _ handle presentable => presentable_destroyActivity presentable handle) presentable

/-! ### Actions of the user -/

/-- A touch keeps the strip presentable. -/
theorem presentable_touch (touch : Touch switcher after) :
    after.carousel.Presentable preferDark := by
  cases touch with
  | request handle => exact presentable_requestThumbnail presentable handle
  | allocate handle size drawable =>
      exact presentable.modify handle _ fun _ _ => .withAllocation size
  | area area => exact presentable.mapActivities _ fun _ => .withArea area
  | scroll handle =>
      refine presentable.of_same_arena (Carousel.arena_scrollOnly _ handle) ?_
      exact (Touch.scroll handle).focused_eq
  | grab handle =>
      refine presentable.of_same_arena (Carousel.arena_grabFocus _ handle) ?_
      exact (Touch.grab handle).focused_eq
  | command call other => cases call <;> exact presentable
  | emit signal other => exact presentable

/-- Touches keep the strip presentable. -/
theorem presentable_touches (touches : Touches switcher after) :
    after.carousel.Presentable preferDark := by
  induction touches with
  | refl => exact presentable
  | tail _ last inductionHypothesis => exact presentable_touch inductionHypothesis last

/-- No action of the user leaves a card badly drawn. In particular no splash is told that it fills the
screen. -/
theorem presentable_handleUi (action : UiEvent) :
    (switcher.handleUi action).1.carousel.Presentable preferDark := by
  rcases switcher.handleUi_cases action with
    touches | ⟨handle, activity, window, fullscreen, found, shows, passedOn⟩
  · exact presentable_touches presentable touches
  · rw [passedOn]
    refine presentable.modify handle _ fun card present => .withFullscreen window ?_ fullscreen
    cases present.symm.trans found
    exact shows

/-! ### News -/

/-- A window takes over a splash and writes on its card, or it gets a card of its own. -/
theorem presentable_placeWindow (valid : switcher.carousel.Valid) (window : Window) :
    (switcher.placeWindow window).carousel.Presentable preferDark := by
  unfold placeWindow
  split
  · next chosen splash =>
      obtain ⟨activity, found, -⟩ := exists_of_splashFor?_eq_some splash
      have bound : (switcher.carousel.modify chosen
          (·.bindWindow window switcher.shell.usableArea)).Presentable preferDark :=
        presentable.modify chosen _ fun _ _ => .bindWindow window _
      have upgraded : (switcher.upgradeSplash chosen window).carousel.Presentable preferDark :=
        presentable_requestThumbnail bound chosen
      have shown : (switcher.upgradeSplash chosen window).carousel.windowOf? chosen = some window.id := by
        rw [windowOf?_upgradeSplash found, if_pos rfl]
      exact presentable_focusIfActive upgraded shown window
  · have added : (switcher.addCard window).carousel.Presentable preferDark :=
      presentable_createActivity presentable valid (Activity.wellDrawn_running ..)
    have shown : (switcher.addCard window).carousel.windowOf? switcher.carousel.nextHandle =
        some window.id :=
      (valid.viewOf?_insert Activity.window? ..).trans (if_pos rfl)
    exact presentable_focusIfActive added shown window

/-- A window that was opened gets a card that may be in focus, also where it takes over a splash. -/
theorem presentable_windowAdded (valid : switcher.carousel.Valid) (window : Window) :
    (switcher.windowAdded window).carousel.Presentable preferDark := by
  unfold windowAdded
  split
  · next found search =>
      exact presentable_showWindow presentable (Carousel.windowOf?_of_findByWindow? search) window
  · exact presentable_placeWindow presentable valid window

/-- A report that a window changed keeps the strip presentable. -/
theorem presentable_windowChanged (window : Window) :
    (switcher.windowChanged window).1.carousel.Presentable preferDark := by
  unfold windowChanged
  split
  · exact presentable
  · next found search =>
      have shown := presentable_showWindow presentable (Carousel.windowOf?_of_findByWindow? search) window
      split
      · exact shown
      · exact presentable_requestThumbnail shown found

/-- News about the activation move the focus to the card of a window. -/
theorem presentable_windowActivated (window : Window) :
    (switcher.windowActivated window).1.carousel.Presentable preferDark := by
  unfold windowActivated
  split
  · split
    · exact presentable
    · next found search =>
        exact presentable_focusActivity presentable (Carousel.windowOf?_of_findByWindow? search)
  · exact presentable

/-- A launch draws its splash in the colours that the user prefers. -/
theorem presentable_handleLaunch (valid : switcher.carousel.Valid)
    (preference : switcher.splash.preferDark = preferDark) (now : Nat) (report : LaunchEvent) :
    (switcher.handleLaunch now report).carousel.Presentable preferDark := by
  rcases switcher.handleLaunch_cases now report with
    ⟨appId, appInfo, startupId, -, created⟩ | clears
  · rw [created, preference]
    exact presentable_createActivity presentable valid (Activity.wellDrawn_launching ..)
  · exact presentable_clears presentable clears.clears

/-! ### Everything -/

/-- Every event keeps the strip presentable as long as splashes are drawn as preferred. -/
theorem presentable_handle (valid : switcher.carousel.Valid)
    (preference : switcher.splash.preferDark = preferDark) (now : Nat) (event : Event) :
    (switcher.handle now event).1.carousel.Presentable preferDark := by
  cases event with
  | window report =>
      cases report with
      | added window => exact presentable_windowAdded presentable valid window
      | changed window => exact presentable_windowChanged presentable window
      | closed id => exact presentable_clears presentable (switcher.clears_windowClosed id)
      | activatedChanged window => exact presentable_windowActivated presentable window
  | launch report => exact presentable_handleLaunch presentable valid preference now report
  | ui action => exact presentable_handleUi presentable action
  | thumbnailReady activity request =>
      exact presentable.modify activity _ fun _ _ => .receive request
  | tick moment =>
      exact presentable_clears presentable (switcher.clearsSplashes_expireLaunches moment).clears

/-- Windows that are added one after the other keep the strip presentable. -/
theorem presentable_foldl_windowAdded (valid : switcher.carousel.Valid) (windows : List Window) :
    (windows.foldl windowAdded switcher).carousel.Presentable preferDark := by
  induction windows generalizing switcher with
  | nil => exact presentable
  | cons first rest inductionHypothesis =>
      exact inductionHypothesis (presentable_windowAdded presentable valid first)
        (shows_windowAdded valid.shows first).valid

/-- A look at the registry keeps the strip presentable. -/
theorem presentable_syncWindows (valid : switcher.carousel.Valid) :
    switcher.syncWindows.carousel.Presentable preferDark :=
  (presentable_foldl_windowAdded presentable valid _).of_same_arena rfl rfl

end

/-- In every situation that can be reached the strip is presentable. -/
theorem Reachable.presentable (reachable : switcher.Reachable) :
    switcher.carousel.Presentable switcher.splash.preferDark := by
  induction reachable with
  | @start parts noCards _ =>
      have none : parts.carousel.Presentable parts.splash.preferDark :=
        noCards ▸ Carousel.presentable_empty _
      have synced := presentable_syncWindows none (noCards ▸ Carousel.valid_empty)
      rwa [← preferDark_syncWindows] at synced
  | handle before now event inductionHypothesis =>
      rw [preferDark_handle]
      exact presentable_handle inductionHypothesis before.valid rfl now event
  | sync before inductionHypothesis =>
      rw [preferDark_syncWindows]
      exact presentable_syncWindows inductionHypothesis before.valid
  | collect _ inductionHypothesis => exact inductionHypothesis
  | device _ _ inductionHypothesis => exact inductionHypothesis

/-! ### The focused card -/

/-- The picture of a card with a window is asked for at once, and the one that the card waited for is not
wanted any more. Nothing else is done to the parts around the overview. -/
theorem performs_requestThumbnail {card : Activity}
    (found : switcher.carousel.get? handle = some card) (shows : card.window? = some id) :
    Performs switcher
      (.thumbnailRequest switcher.thumbnailer.next handle id
          (card.thumbnailSize.scaled switcher.pictureScale) ::
        (card.pending?.map .thumbnailCancel).toList)
      (switcher.requestThumbnail handle) := by
  unfold requestThumbnail
  simp only [found, shows, card.superseded_eq_pending? shows]
  cases card.pending? with
  | none => exact ⟨rfl, rfl⟩
  | some former => exact ⟨rfl, List.append_assoc ..⟩

/-- A refresh is about the focused card and no other. -/
theorem refresh_of_focused (valid : switcher.carousel.Valid)
    (points : switcher.carousel.focused = some handle) :
    switcher.refresh = (switcher.mapCarousel (·.grabFocus handle)).requestThumbnail handle := by
  have member := (valid.mem_order_iff handle).2 (valid.focused_live handle points)
  have occupied : switcher.carousel.isEmpty = false := by
    rw [Carousel.isEmpty, List.isEmpty_eq_false_iff]
    exact List.ne_nil_of_mem member
  unfold refresh
  rw [if_neg (by rw [occupied]; exact Bool.false_ne_true), points]

/-- In every reachable situation a card that waits for its window is a plain splash in the colours that the
user prefers, a card with a window is not light, and the focused card, if there is one, has a window. So a
refresh with a focused card always asks for a picture of its window: the maker of pictures gets this request,
and is told that the card does not wait for an earlier one any more, and nothing else around the overview
changes. -/
theorem Reachable.cards_well_drawn (reachable : switcher.Reachable) :
    (∀ handle card, switcher.carousel.get? handle = some card →
        card.WellDrawn switcher.splash.preferDark) ∧
      ∀ handle, switcher.carousel.focused = some handle →
        ∃ card id, switcher.carousel.get? handle = some card ∧ card.window? = some id ∧
          ∀ now, Performs switcher
            (.thumbnailRequest switcher.thumbnailer.next handle id
                (card.thumbnailSize.scaled switcher.pictureScale) ::
              (card.pending?.map .thumbnailCancel).toList)
            (switcher.handle now (.ui .refresh)).1 := by
  have presentable := reachable.presentable
  refine ⟨presentable.cards, fun handle points => ?_⟩
  obtain ⟨id, shown⟩ := presentable.focus handle points
  obtain ⟨card, found, shows⟩ := (Carousel.windowOf?_eq_some_iff ..).1 shown
  refine ⟨card, id, found, shows, fun now => ?_⟩
  -- Giving the card the keyboard is the overview's own affair.
  let grabbed := switcher.mapCarousel (·.grabFocus handle)
  have own : Performs switcher [] grabbed := ⟨rfl, (List.append_nil _).symm⟩
  have arena : grabbed.carousel.arena = switcher.carousel.arena := Carousel.arena_grabFocus _ handle
  have present : grabbed.carousel.get? handle = some card := by
    rw [Carousel.get?, arena]
    exact found
  change Performs switcher _ switcher.refresh
  rw [refresh_of_focused reachable.valid points]
  exact own.trans (performs_requestThumbnail present shows)

/-- The settings are launched beside an active window: their splash is plain and light, and a refresh asks
for a picture of the window. -/
theorem settings_splash_is_light :
    let parts := assemble { screen := { preferDark := false } } true
      [{ Scenario.callsWindow with activated := true }] none
    let report : LaunchEvent := ⟨.started, "org.gnome.Settings", ⟨"settings-1"⟩⟩
    let launched := (parts.start.handle 0 (.launch report)).1
    (∃ splash, launched.carousel.get? ⟨2, 1⟩ = some splash ∧ splash.PlainSplash false) ∧
      (launched.handle 0 (.ui .refresh)).1.calls =
        [.thumbnailRequest ⟨1⟩ ⟨1, 1⟩ ⟨1⟩ ⟨720, 1296⟩] := by
  intro parts report launched
  have reachable : launched.Reachable := .handle (.start rfl rfl) 0 (.launch report)
  have light : launched.splash.preferDark = false := by decide +kernel
  obtain ⟨drawn, focused⟩ := reachable.cards_well_drawn
  rw [light] at drawn
  constructor
  · obtain ⟨splash, found⟩ : ∃ splash, launched.carousel.get? ⟨2, 1⟩ = some splash :=
      (Carousel.contains_iff ..).1 (by decide +kernel)
    have waits : launched.carousel.windowOf? ⟨2, 1⟩ = none := by decide +kernel
    rw [Carousel.windowOf?, found, Option.bind_some] at waits
    exact ⟨splash, found, (drawn ⟨2, 1⟩ splash found).splash waits⟩
  · obtain ⟨card, id, found, shows, asks⟩ := focused ⟨1, 1⟩ (by decide +kernel)
    have calls : launched.carousel.get? ⟨1, 1⟩ = some (.running
        { Scenario.callsWindow with activated := true } (launched.apps.resolve "org.gnome.Calls") none
        ⟨360, 648⟩) := by
      decide +kernel
    cases found.symm.trans calls
    cases shows
    rw [(asks 0).journal]
    decide +kernel

end TaskSwitcher.Switcher
