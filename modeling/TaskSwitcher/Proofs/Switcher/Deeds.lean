import Mathlib.Logic.Relation
import TaskSwitcher.Proofs.Carousel.Views
import TaskSwitcher.Proofs.Switcher.Journal

/-!
# What handling is made of

Whatever an event is, handling it consists of a few kinds of deeds. A touch leaves alone which cards there
are and what they show; the other deeds make a card, give a splash its window, change what a card shows,
or move the focus. News lead to chores, which are those deeds that need no user. Cards are removed by the
closing of a window, the failure of a launch or the clock, and these events do nothing else. A picture is
accepted by the event that brings it and by no other. What gets into the journal follows deed by deed.
-/

namespace TaskSwitcher

/-- What an announcement says about whether there are cards, if it speaks of that. -/
def Signal.occupancy? : Signal → Option Bool
  | hasActivities value => some value
  | _ => none

namespace Switcher

/-- A deed that leaves alone which cards there are, what they show and which of them is focused. -/
inductive Touch (switcher : Switcher) : Switcher → Prop where
  | request (handle : Handle) : Touch switcher (switcher.requestThumbnail handle)
  | allocate (handle : Handle) (size : Size) (drawable : size.isDrawable = true) :
      Touch switcher (switcher.mapCarousel (·.modify handle (·.withAllocation size)))
  | area (area : Size) : Touch switcher (switcher.usableAreaChanged area)
  | scroll (handle : Handle) : Touch switcher (switcher.mapCarousel (·.scrollOnly handle))
  | grab (handle : Handle) : Touch switcher (switcher.mapCarousel (·.grabFocus handle))
  | command (call : Call) (other : ¬ call.AboutPicture) : Touch switcher (switcher.obey call)
  | emit (signal : Signal) (other : signal.occupancy? = none) : Touch switcher (switcher.emit signal)

/-- A deed other than the removal of a card. -/
inductive Deed (switcher : Switcher) : Switcher → Prop where
  | touch {after : Switcher} (touch : Touch switcher after) : Deed switcher after
  | launch (appId : String) (appInfo : AppInfo) (startupId : StartupId) (now : Nat)
      (recognised : switcher.apps.resolve appId = some appInfo) :
      Deed switcher (switcher.createActivity
        { Activity.launching appId appInfo startupId switcher.shell.usableArea now with
          lightStyle := !switcher.splash.preferDark })
  | add (window : Window) : Deed switcher (switcher.addCard window)
  | bind (handle : Handle) (window : Window) (activity : Activity)
      (found : switcher.carousel.get? handle = some activity)
      (splash : activity.window? = none) :
      Deed switcher (switcher.mapCarousel
        (·.modify handle (·.bindWindow window switcher.shell.usableArea)))
  | show (handle : Handle) (window : Window) : Deed switcher (switcher.showWindow handle window)
  | fullscreen (handle : Handle) (fullscreen : Bool) :
      Deed switcher (switcher.mapCarousel (·.modify handle (·.withFullscreen fullscreen)))
  | focus (handle : Handle) : Deed switcher (switcher.focusActivity handle)
  | announce : Deed switcher switcher.announceOccupancy

/-- A deed that news lead to. -/
inductive Chore (switcher : Switcher) : Switcher → Prop where
  | request (handle : Handle) : Chore switcher (switcher.requestThumbnail handle)
  | launch (appId : String) (appInfo : AppInfo) (startupId : StartupId) (now : Nat)
      (recognised : switcher.apps.resolve appId = some appInfo) :
      Chore switcher (switcher.createActivity
        { Activity.launching appId appInfo startupId switcher.shell.usableArea now with
          lightStyle := !switcher.splash.preferDark })
  | add (window : Window) : Chore switcher (switcher.addCard window)
  | bind (handle : Handle) (window : Window) (activity : Activity)
      (found : switcher.carousel.get? handle = some activity)
      (splash : activity.window? = none) :
      Chore switcher (switcher.mapCarousel
        (·.modify handle (·.bindWindow window switcher.shell.usableArea)))
  | show (handle : Handle) (window : Window) : Chore switcher (switcher.showWindow handle window)
  | focus (handle : Handle) : Chore switcher (switcher.focusActivity handle)
  | announce : Chore switcher switcher.announceOccupancy

/-- Any number of touches, one after the other. -/
abbrev Touches : Switcher → Switcher → Prop :=
  Relation.ReflTransGen Touch

/-- Any number of deeds, one after the other. -/
abbrev Deeds : Switcher → Switcher → Prop :=
  Relation.ReflTransGen Deed

/-- Any number of chores, one after the other. -/
abbrev Chores : Switcher → Switcher → Prop :=
  Relation.ReflTransGen Chore

/-- Cards are removed one after the other, and nothing else is done. -/
def Clears (before after : Switcher) : Prop :=
  ∃ handles : List Handle, after = handles.foldl destroyActivity before

/-- Splashes are removed one after the other, and nothing else is done. -/
def ClearsSplashes (before after : Switcher) : Prop :=
  ∃ handles : List Handle, after = handles.foldl destroyActivity before ∧
    ∀ handle ∈ handles, ∀ activity, before.carousel.get? handle = some activity →
      activity.window? = none

variable (switcher : Switcher) (handle : Handle) (window : Window)

/-- Touches are deeds. -/
theorem Touches.deeds {before after : Switcher} (touches : Touches before after) :
    Deeds before after :=
  Relation.ReflTransGen.mono (fun _ _ => Deed.touch) _ _ touches

/-- What news lead to is one of the deeds. -/
theorem Chore.deed {before after : Switcher} (chore : Chore before after) : Deed before after := by
  cases chore with
  | request handle => exact .touch (.request handle)
  | launch appId appInfo startupId now recognised => exact .launch _ appInfo _ now recognised
  | add window => exact .add window
  | bind handle window activity found splash => exact .bind handle window activity found splash
  | «show» handle window => exact .show handle window
  | focus handle => exact .focus handle
  | announce => exact .announce

/-- All that news lead to is done by deeds. -/
theorem Chores.deeds {before after : Switcher} (chores : Chores before after) :
    Deeds before after :=
  Relation.ReflTransGen.mono (fun _ _ => Chore.deed) _ _ chores

/-! ### Actions of the user -/

/-- Bringing a card to the front gives commands and changes no card. -/
theorem touches_raise (activity : Activity) : Touches switcher (switcher.raise activity) := by
  unfold raise
  split
  · next window _ _ =>
      have activated : Touch switcher (switcher.obey (.window (.activate window))) :=
        .command _ not_false
      exact .tail (.single activated) (.command (.splash .lowerAll) not_false)
  · next startupId _ _ =>
      split
      · exact .refl
      · exact .single (.command (.splash (.raise startupId)) not_false)

/-- Moving to a page gives a command at most. -/
theorem touches_pageChanged (index : Option UInt64) :
    Touches switcher (switcher.pageChanged index).1 := by
  unfold pageChanged
  split
  · exact .refl
  · split
    · exact .refl
    · refine withHandle_induction .refl fun handle _ => ?_
      refine Relation.ReflTransGen.tail ?_ (.grab handle)
      refine onWindow_induction .refl fun _ window _ _ => ?_
      exact .single (.command (.window (.activate window)) not_false)

/-- Refreshing asks for a picture and changes no more than the request that a card waits for. -/
theorem touches_refresh : Touches switcher switcher.refresh := by
  unfold refresh
  split
  · exact .refl
  · split
    · exact .refl
    · next focused _ => exact .tail (.single (.grab focused)) (.request focused)

/-- An action of the user touches cards only, unless it asks for the full screen, which shows on the card
at once. -/
theorem touches_handleUi (event : UiEvent)
    (other : ∀ reference fullscreen, event ≠ .fullscreenRequested reference fullscreen) :
    Touches switcher (switcher.handleUi event).1 := by
  cases event with
  | clicked reference =>
      refine withHandle_induction .refl fun handle _ => ?_
      refine onActivity_induction .refl fun activity _ => ?_
      exact (switcher.touches_raise activity).tail (.emit .activityRaised rfl)
  | closeRequested reference =>
      refine withHandle_induction .refl fun handle _ => ?_
      refine onWindow_induction .refl fun _ window _ _ => ?_
      have closing : Touch switcher (switcher.obey (.window (.close window))) :=
        .command _ not_false
      refine Relation.ReflTransGen.tail ?_ (.emit .activityClosed rfl)
      exact .tail (.single closing) (.command (.feedback "window-close") not_false)
  | fullscreenRequested reference fullscreen => exact absurd rfl (other reference fullscreen)
  | resized reference width height =>
      refine withHandle_induction .refl fun handle _ => ?_
      split
      · next drawable =>
          exact .tail (.single (.allocate handle ⟨width, height⟩ drawable)) (.request handle)
      · exact .refl
  | focusChanged reference hasFocus =>
      refine withHandle_induction .refl fun handle _ => ?_
      cases hasFocus with
      | true => exact .single (.scroll handle)
      | false => exact .refl
  | pageChanged index => exact switcher.touches_pageChanged index
  | appLaunched appId => exact .single (.emit .activityLaunched rfl)
  | selectionAborted => exact .single (.emit .selectionAborted rfl)
  | usableAreaChanged width height => exact .single (.area ⟨width, height⟩)
  | refresh => exact switcher.touches_refresh
  | reset => exact .single (.command .gridReset not_false)
  | focusAppSearch => exact .single (.command .gridFocusSearch not_false)
  | search input =>
      exact .single (.command (.gridSearch input (switcher.grid.search input).2) not_false)

/-- A request for the full screen leaves everything as it is, or shows on the card of a window and is
passed on to this window. -/
theorem fullscreenRequested_cases (reference : ActivityRef) (fullscreen : Bool) :
    (switcher.fullscreenRequested reference fullscreen).1 = switcher ∨
      ∃ handle activity window, switcher.carousel.get? handle = some activity ∧
        activity.window? = some window ∧
        (switcher.fullscreenRequested reference fullscreen).1 =
          (switcher.mapCarousel (·.modify handle (·.withFullscreen fullscreen))).commandWindow
            (.fullscreen window fullscreen) := by
  unfold fullscreenRequested
  refine withHandle_induction (.inl rfl) fun handle _ => ?_
  refine onWindow_induction (.inl rfl) fun activity window found shows => ?_
  exact .inr ⟨handle, activity, window, found, shows, rfl⟩

/-- An action of the user touches cards only, or it asks for the full screen of a window, which shows on the
card at once and is passed on to the window. -/
theorem handleUi_cases (event : UiEvent) :
    Touches switcher (switcher.handleUi event).1 ∨
      ∃ handle activity window fullscreen, switcher.carousel.get? handle = some activity ∧
        activity.window? = some window ∧
        (switcher.handleUi event).1 =
          (switcher.mapCarousel (·.modify handle (·.withFullscreen fullscreen))).commandWindow
            (.fullscreen window fullscreen) := by
  by_cases asked : ∃ reference fullscreen, event = .fullscreenRequested reference fullscreen
  · obtain ⟨reference, fullscreen, rfl⟩ := asked
    rw [handleUi]
    rcases switcher.fullscreenRequested_cases reference fullscreen with
      unchanged | ⟨handle, activity, window, found, shows, passedOn⟩
    · left
      rw [unchanged]
    · exact .inr ⟨handle, activity, window, fullscreen, found, shows, passedOn⟩
  · have other reference fullscreen : event ≠ .fullscreenRequested reference fullscreen :=
      fun same => asked ⟨reference, fullscreen, same⟩
    exact .inl (switcher.touches_handleUi event other)

/-- No action of the user removes a card; that is left to the report that its window closed. -/
theorem deeds_handleUi (event : UiEvent) : Deeds switcher (switcher.handleUi event).1 := by
  rcases switcher.handleUi_cases event with
    touches | ⟨handle, activity, window, fullscreen, -, -, passedOn⟩
  · exact touches.deeds
  · rw [passedOn]
    have commanded (shown : Switcher) :
        Deed shown (shown.obey (.window (.fullscreen window fullscreen))) :=
      .touch (.command _ not_false)
    exact .tail (.single (.fullscreen handle fullscreen)) (commanded _)

/-! ### News -/

/-- Moving the focus is a chore. -/
theorem chores_focusIfActive : Chores switcher (switcher.focusIfActive window handle) := by
  unfold focusIfActive
  split
  · exact .single (.focus handle)
  · exact .refl

/-- The splash that a window takes over is a splash of the strip. -/
theorem exists_of_splashFor?_eq_some {switcher : Switcher} {handle : Handle}
    {appInfo : Option AppInfo}
    (chosen : switcher.splashFor? appInfo = some handle) :
    ∃ activity, switcher.carousel.get? handle = some activity ∧ activity.window? = none := by
  obtain ⟨-, waiting⟩ := Option.filter_eq_some_iff.1 chosen
  cases found : switcher.carousel.get? handle with
  | none => simp [found] at waiting
  | some activity => exact ⟨activity, rfl, by simpa [found, Activity.isRunning] using waiting⟩

/-- Showing an opened window takes chores only. -/
theorem chores_windowAdded : Chores switcher (switcher.windowAdded window) := by
  unfold windowAdded
  split
  · next found _ => exact .single (.show found window)
  · unfold placeWindow
    split
    · next chosen splash =>
        obtain ⟨activity, found, waiting⟩ := exists_of_splashFor?_eq_some splash
        have bound := Chore.bind chosen window activity found waiting
        exact (Relation.ReflTransGen.tail (.single bound) (.request chosen)).trans
          (chores_focusIfActive ..)
    · exact (Relation.ReflTransGen.single (.add window)).trans (chores_focusIfActive ..)

/-- Showing a changed window takes chores only. -/
theorem chores_windowChanged : Chores switcher (switcher.windowChanged window).1 := by
  unfold windowChanged
  split
  · exact .refl
  · next found _ =>
      split
      · exact .single (.show found window)
      · exact .tail (.single (.show found window)) (.request found)

/-- News about the activation take one chore at most. -/
theorem chores_windowActivated : Chores switcher (switcher.windowActivated window).1 := by
  unfold windowActivated
  split
  · split
    · exact .refl
    · next found _ => exact .single (.focus found)
  · exact .refl

/-- Removing nothing is clearing as well. -/
theorem Clears.refl : Clears switcher switcher :=
  ⟨[], rfl⟩

/-- The removal of one card is clearing. -/
theorem Clears.destroy : Clears switcher (switcher.destroyActivity handle) :=
  ⟨[handle], rfl⟩

/-- A relation that goes on from one situation to the next, and that holds along the removal of a card,
holds along all removals. -/
theorem Clears.lift {motive : Switcher → Switcher → Prop} {before after : Switcher}
    (refl : ∀ switcher, motive switcher switcher)
    (trans : ∀ {before middle after}, motive before middle → motive middle after →
      motive before after)
    (destroy : ∀ switcher handle, motive switcher (switcher.destroyActivity handle))
    (clears : Clears before after) : motive before after := by
  obtain ⟨handles, rfl⟩ := clears
  induction handles generalizing before with
  | nil => exact refl before
  | cons first rest inductionHypothesis => exact trans (destroy before first) inductionHypothesis

/-- A closed window takes its card with it and does nothing else. -/
theorem clears_windowClosed (id : WindowId) : Clears switcher (switcher.windowClosed id).1 := by
  unfold windowClosed
  split
  · exact .refl switcher
  · next found _ => exact .destroy switcher found

/-- Clearing splashes is clearing. -/
theorem ClearsSplashes.clears {before after : Switcher} (clears : ClearsSplashes before after) :
    Clears before after := by
  obtain ⟨handles, removed, -⟩ := clears
  exact ⟨handles, removed⟩

/-- Removing nothing is clearing splashes as well. -/
theorem ClearsSplashes.refl : ClearsSplashes switcher switcher :=
  ⟨[], rfl, fun _ none => nomatch none⟩

/-- A failed launch takes a splash with it and no card of a window. -/
theorem clearsSplashes_launchFailed (appId : String) (startupId : StartupId) :
    ClearsSplashes switcher (switcher.launchFailed appId startupId) := by
  unfold launchFailed
  split
  · exact .refl switcher
  · split
    · exact .refl switcher
    · next target _ =>
        split
        · exact .refl switcher
        · next waiting =>
            refine ⟨[target], rfl, fun handle member activity found => ?_⟩
            obtain rfl := List.mem_singleton.1 member
            simpa [found, Activity.isRunning] using waiting

/-- Only splashes wait too long. -/
theorem window?_of_mem_expiredLaunches {switcher : Switcher} {handle : Handle} {now timeout : Nat}
    (expired : handle ∈ switcher.expiredLaunches now timeout) (activity : Activity)
    (found : switcher.carousel.get? handle = some activity) : activity.window? = none := by
  simp only [expiredLaunches, List.mem_map, List.mem_filter] at expired
  obtain ⟨entry, ⟨member, late⟩, rfl⟩ := expired
  rw [((switcher.carousel.mem_entries ..).1 member).2, Option.some.injEq] at found
  exact found ▸ entry.2.window?_of_launchExpired late

/-- Looking for late launches removes splashes and no card of a window. -/
theorem clearsSplashes_expireLaunches (moment : Nat) :
    ClearsSplashes switcher (switcher.expireLaunches moment) := by
  unfold expireLaunches
  split
  · exact .refl switcher
  · next timeout _ =>
      exact ⟨switcher.expiredLaunches moment timeout, rfl, fun handle late =>
        window?_of_mem_expiredLaunches late⟩

/-- News about a launch bring a splash, take one away, or do nothing. -/
theorem handleLaunch_cases (now : Nat) (report : LaunchEvent) :
    (∃ appId appInfo startupId, switcher.apps.resolve appId = some appInfo ∧
      switcher.handleLaunch now report = switcher.createActivity
        { Activity.launching appId appInfo startupId switcher.shell.usableArea now with
          lightStyle := !switcher.splash.preferDark }) ∨
      ClearsSplashes switcher (switcher.handleLaunch now report) := by
  unfold handleLaunch
  split
  · unfold launchStarted
    split
    · exact .inr (.refl switcher)
    · next appInfo recognised => exact .inl ⟨_, appInfo, _, recognised, rfl⟩
  · exact .inr (.refl switcher)
  · exact .inr (switcher.clearsSplashes_launchFailed ..)

/-! ### Everything -/

/-- News lead to chores, or else to removals of cards, unless a picture has come. -/
theorem news_cases (now : Nat) {event : Event} (news : ∀ action, event ≠ .ui action) :
    (∃ activity request, event = .thumbnailReady activity request) ∨
      Chores switcher (switcher.handle now event).1 ∨
      Clears switcher (switcher.handle now event).1 := by
  cases event with
  | window report =>
      cases report with
      | added window => exact .inr (.inl (switcher.chores_windowAdded window))
      | changed window => exact .inr (.inl (switcher.chores_windowChanged window))
      | closed id => exact .inr (.inr (switcher.clears_windowClosed id))
      | activatedChanged window => exact .inr (.inl (switcher.chores_windowActivated window))
  | launch report =>
      rcases switcher.handleLaunch_cases now report with
        ⟨appId, appInfo, startupId, recognised, created⟩ | clears
      · have launched := Chore.launch appId appInfo startupId now recognised
        rw [← created] at launched
        exact .inr (.inl (.single launched))
      · exact .inr (.inr clears.clears)
  | ui action => exact absurd rfl (news action)
  | thumbnailReady activity request => exact .inl ⟨activity, request, rfl⟩
  | tick moment => exact .inr (.inr (switcher.clearsSplashes_expireLaunches moment).clears)

/-- Handling an event consists of deeds, or else of removals of cards, unless a picture has come. -/
theorem handle_cases (now : Nat) (event : Event) :
    (∃ activity request, event = .thumbnailReady activity request) ∨
      Deeds switcher (switcher.handle now event).1 ∨
      Clears switcher (switcher.handle now event).1 := by
  by_cases asked : ∃ action, event = .ui action
  · obtain ⟨action, rfl⟩ := asked
    exact .inr (.inl (switcher.deeds_handleUi action))
  · have news := switcher.news_cases now fun action same => asked ⟨action, same⟩
    exact news.imp_right (.imp_left Chores.deeds)

/-- A look at the registry takes chores only. -/
theorem chores_syncWindows : Chores switcher switcher.syncWindows := by
  rw [syncWindows]
  refine Relation.ReflTransGen.tail ?_ .announce
  generalize switcher.registry.windows = windows
  induction windows generalizing switcher with
  | nil => exact .refl
  | cons first rest inductionHypothesis =>
      rw [List.foldl_cons]
      exact (switcher.chores_windowAdded first).trans (inductionHypothesis _)

/-- A look at the registry removes no card. -/
theorem deeds_syncWindows : Deeds switcher switcher.syncWindows :=
  switcher.chores_syncWindows.deeds

/-! ### What gets into the journal -/

/-- A chore gives commands about pictures only. -/
theorem Chore.pictures {before after : Switcher} (chore : Chore before after) :
    PerformsOnly Call.AboutPicture before after := by
  cases chore with
  | request handle => exact before.pictures_requestThumbnail handle
  | _ => exact .own rfl

/-- Chores give commands about pictures only. -/
theorem Chores.pictures {before after : Switcher} (chores : Chores before after) :
    PerformsOnly Call.AboutPicture before after := by
  induction chores with
  | refl => exact .refl before
  | tail _ last inductionHypothesis => exact inductionHypothesis.trans last.pictures

/-- Removals of cards give commands about pictures only. -/
theorem Clears.pictures {before after : Switcher} (clears : Clears before after) :
    PerformsOnly Call.AboutPicture before after :=
  clears.lift (fun _ => .refl _) .trans pictures_destroyActivity

/-- News lead to no commands but those about pictures. -/
theorem pictures_news (now : Nat) {event : Event} (news : ∀ action, event ≠ .ui action) :
    PerformsOnly Call.AboutPicture switcher (switcher.handle now event).1 := by
  rcases switcher.news_cases now news with ⟨handle, request, rfl⟩ | chores | clears
  · exact .own rfl
  · exact chores.pictures
  · exact clears.pictures

/-- A look at the registry gives commands about pictures only. -/
theorem pictures_syncWindows : PerformsOnly Call.AboutPicture switcher switcher.syncWindows :=
  switcher.chores_syncWindows.pictures

/-- A deed changes the parts around the overview by commands alone. -/
theorem Deed.performsOnly {before after : Switcher} (deed : Deed before after) :
    PerformsOnly (fun _ => True) before after := by
  cases deed with
  | touch touch =>
      cases touch with
      | request handle => exact (before.pictures_requestThumbnail handle).mono fun _ _ => trivial
      | command call other => exact .command before call other
      | _ => exact .own rfl
  | _ => exact .own rfl

/-- Deeds change the parts around the overview by commands alone. -/
theorem Deeds.performsOnly {before after : Switcher} (deeds : Deeds before after) :
    PerformsOnly (fun _ => True) before after := by
  induction deeds with
  | refl => exact .refl before
  | tail _ last inductionHypothesis => exact inductionHypothesis.trans last.performsOnly

/-- Whatever happens, the parts around the overview change by commands alone, and the journal has them
all. -/
theorem exists_performs_handle (now : Nat) (event : Event) :
    ∃ calls, Performs switcher calls (switcher.handle now event).1 := by
  have only : PerformsOnly (fun _ => True) switcher (switcher.handle now event).1 := by
    rcases switcher.handle_cases now event with ⟨handle, request, rfl⟩ | deeds | clears
    · exact .own rfl
    · exact deeds.performsOnly
    · exact clears.pictures.mono fun _ _ => trivial
  obtain ⟨calls, performs, -⟩ := only
  exact ⟨calls, performs⟩

end Switcher

end TaskSwitcher
