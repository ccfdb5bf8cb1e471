import TaskSwitcher.Proofs.Carousel.Outlines
import TaskSwitcher.Proofs.Switcher.Happenings

/-!
# What the overview does not look at

Two situations may differ in something that no handler looks at. A congruence is a relation between such
situations that the parts of handling keep; then handling as a whole keeps it, event by event, and ends in
the same way on both sides. What pictures the cards have is never looked at, so a congruence may leave it
open.
-/

namespace TaskSwitcher.Switcher

/-- Situations that are alike show the same outside of what is left open, and are alike again after each
of the parts that handling is made of. -/
structure Congruence (alike : Switcher → Switcher → Prop) : Prop where
  device : ∀ {first second}, alike first second → first.toDevice = second.toDevice
  outline : ∀ {first second}, alike first second →
    first.carousel.outline = second.carousel.outline
  launchTimeout : ∀ {first second}, alike first second →
    first.launchTimeout = second.launchTimeout
  splash : ∀ {first second}, alike first second → first.splash = second.splash
  recognition : ∀ {first second}, alike first second → first.apps.resolve = second.apps.resolve
  mapCarousel : ∀ {first second change}, Carousel.Blind change → alike first second →
    alike (first.mapCarousel change) (second.mapCarousel change)
  request : ∀ {first second} handle, alike first second →
    alike (first.requestThumbnail handle) (second.requestThumbnail handle)
  destroy : ∀ {first second} handle, alike first second →
    alike (first.destroyActivity handle) (second.destroyActivity handle)
  announce : ∀ {first second}, alike first second →
    alike first.announceOccupancy second.announceOccupancy
  emit : ∀ {first second} signal, alike first second →
    alike (first.emit signal) (second.emit signal)
  window : ∀ {first second} command, alike first second →
    alike (first.commandWindow command) (second.commandWindow command)
  splashCommand : ∀ {first second} command, alike first second →
    alike (first.commandSplash command) (second.commandSplash command)
  feedback : ∀ {first second} name, alike first second →
    alike (first.giveFeedback name) (second.giveFeedback name)
  resetGrid : ∀ {first second}, alike first second → alike first.resetGrid second.resetGrid
  focusAppSearch : ∀ {first second}, alike first second →
    alike first.focusAppSearch second.focusAppSearch
  search : ∀ {first second} input, alike first second →
    alike (first.search input).1 (second.search input).1
  thumbnailReady : ∀ {first second} handle request, alike first second →
    alike (first.thumbnailReady handle request) (second.thumbnailReady handle request)
  collected : ∀ {first second}, alike first second → alike first.collected second.collected
  withDevice : ∀ {first second} device, alike first second →
    alike { first with toDevice := device } { second with toDevice := device }

/-- Two attempts end in the same way and in situations that are alike. -/
structure SameEnd (alike : Switcher → Switcher → Prop) (first second : Switcher × Outcome) : Prop where
  situation : alike first.1 second.1
  outcome : first.2 = second.2

namespace Congruence

variable {alike : Switcher → Switcher → Prop} (congruence : Congruence alike)
  {first second : Switcher} (same : alike first second)

include congruence same

/-! ### What is looked up -/

/-- Whatever can be asked of an outline has the same answer in situations that are alike. -/
theorem asked {β : Type} (question : Carousel → β)
    (outlined : ∀ carousel, question carousel.outline = question carousel) :
    question first.carousel = question second.carousel := by
  rw [← outlined first.carousel, congruence.outline same, outlined second.carousel]

/-- Situations that are alike have the card of a window under the same handle. -/
theorem findByWindow?_eq (window : WindowId) :
    first.carousel.findByWindow? window = second.carousel.findByWindow? window :=
  congruence.asked same (·.findByWindow? window) fun carousel =>
    carousel.findByWindow?_outline window

/-- Whether a card with some property is found, if the property does not depend on pictures. -/
theorem any_get?_eq (handle : Handle) {property : Activity → Bool}
    (blind : ∀ activity, property activity.outline = property activity) :
    (first.carousel.get? handle).any property = (second.carousel.get? handle).any property := by
  rcases Carousel.get?_cases_of_outline_eq (congruence.outline same) handle with
    ⟨one, two⟩ | ⟨one, two, foundOne, foundTwo, outlined⟩
  · rw [one, two]
  · rw [foundOne, foundTwo, Option.any_some, Option.any_some, ← blind one, outlined, blind two]

/-- Situations that are alike have the same splash for an application. -/
theorem splashFor?_eq (appInfo : Option AppInfo) :
    first.splashFor? appInfo = second.splashFor? appInfo := by
  have searched : first.carousel.findByAppInfo? = second.carousel.findByAppInfo? :=
    congruence.asked same _ fun carousel => funext carousel.findByAppInfo?_outline
  have waiting (handle : Handle) :
      (first.carousel.get? handle).any (fun activity => !activity.isRunning) =
        (second.carousel.get? handle).any fun activity => !activity.isRunning :=
    congruence.any_get?_eq same handle fun activity => by rw [activity.isRunning_outline]
  simp only [splashFor?, searched, waiting]

/-- A failed launch concerns the same splash in situations that are alike. -/
theorem failureTarget?_eq (appInfo : AppInfo) (startupId : StartupId) :
    first.failureTarget? appInfo startupId = second.failureTarget? appInfo startupId := by
  refine congruence.asked same (fun carousel =>
    (carousel.findByStartupId? startupId).or (carousel.findByAppInfo? appInfo)) fun carousel => ?_
  rw [carousel.findByStartupId?_outline, carousel.findByAppInfo?_outline]

/-- A new card has the same place in situations that are alike. -/
theorem placeOf_eq (activity : Activity) : first.placeOf activity = second.placeOf activity := by
  refine congruence.asked same (fun carousel =>
    (activity.parentAppId.bind carousel.groupEnd?).getD carousel.length) fun carousel => ?_
  have grouped : carousel.outline.groupEnd? = carousel.groupEnd? :=
    funext carousel.groupEnd?_outline
  rw [grouped]
  rfl

/-- The same launches wait too long in situations that are alike. -/
theorem expiredLaunches_eq (now timeout : Nat) :
    first.expiredLaunches now timeout = second.expiredLaunches now timeout := by
  refine congruence.asked same (fun carousel =>
    (carousel.entries.filter fun entry => entry.2.launchExpired now timeout).map (·.1))
    fun carousel => ?_
  rw [Carousel.outline, Carousel.entries_mapActivities, List.filter_map, List.map_map]
  simp only [Function.comp_def, Activity.launchExpired_outline]

/-! ### Parts of handling -/

/-- The same new card is put into both strips. -/
theorem create (activity : Activity) :
    alike (first.createActivity activity) (second.createActivity activity) := by
  rw [createActivity, congruence.placeOf_eq same, createActivity]
  exact congruence.announce (congruence.mapCarousel (.insert _ activity) same)

/-- Both move the focus or both leave it. -/
theorem focusIfActive (window : Window) (handle : Handle) :
    alike (first.focusIfActive window handle) (second.focusIfActive window handle) := by
  unfold Switcher.focusIfActive
  split
  · exact congruence.mapCarousel (.focus handle) same
  · exact same

/-- The same snapshot is shown on the card of both. -/
theorem showWindow (handle : Handle) (window : Window) :
    alike (first.showWindow handle window) (second.showWindow handle window) :=
  congruence.mapCarousel (.modify handle fun _ => rfl) same

/-- The same cards are removed from both. -/
theorem destroyAll (handles : List Handle) :
    alike (handles.foldl destroyActivity first) (handles.foldl destroyActivity second) := by
  induction handles generalizing first second with
  | nil => exact same
  | cons handle rest inductionHypothesis =>
      exact inductionHypothesis (congruence.destroy handle same)

/-! ### News -/

/-- The window takes over the splash of both. -/
theorem upgradeSplash (handle : Handle) (window : Window) :
    alike (first.upgradeSplash handle window) (second.upgradeSplash handle window) := by
  rw [Switcher.upgradeSplash, congruence.device same, Switcher.upgradeSplash]
  exact congruence.request handle (congruence.mapCarousel (.modify handle fun _ => rfl) same)

/-- The window gets a new card in both. -/
theorem addCard (window : Window) : alike (first.addCard window) (second.addCard window) := by
  rw [Switcher.addCard, parentAppId?, congruence.recognition same, congruence.device same]
  exact congruence.create same _

/-- A window that was opened is shown in both, on a splash or on a new card. -/
theorem windowAdded (window : Window) :
    alike (first.windowAdded window) (second.windowAdded window) := by
  unfold Switcher.windowAdded
  rw [congruence.findByWindow?_eq same]
  split
  · next found _ => exact congruence.showWindow same found window
  · unfold placeWindow
    rw [congruence.recognition same, congruence.splashFor?_eq same,
      congruence.asked same _ Carousel.nextHandle_outline]
    split
    · next chosen _ =>
        exact congruence.focusIfActive (congruence.upgradeSplash same chosen window) window chosen
    · exact congruence.focusIfActive (congruence.addCard same window) window _

/-- A report about a window ends alike in both. -/
theorem handleWindow (report : WindowEvent) :
    SameEnd alike (first.handleWindow report) (second.handleWindow report) := by
  cases report with
  | added window => exact ⟨congruence.windowAdded same window, rfl⟩
  | changed window =>
      simp only [Switcher.handleWindow, windowChanged]
      rw [congruence.findByWindow?_eq same]
      split
      · exact ⟨same, rfl⟩
      · next found _ =>
          have shown := congruence.showWindow same found window
          rw [congruence.device same]
          split
          · exact ⟨shown, rfl⟩
          · exact ⟨congruence.request found shown, rfl⟩
  | closed id =>
      simp only [Switcher.handleWindow, windowClosed]
      rw [congruence.findByWindow?_eq same]
      split
      · exact ⟨same, rfl⟩
      · next found _ => exact ⟨congruence.destroy found same, rfl⟩
  | activatedChanged window =>
      simp only [Switcher.handleWindow, windowActivated]
      split
      · rw [congruence.findByWindow?_eq same]
        split
        · exact ⟨same, rfl⟩
        · next found _ => exact ⟨congruence.mapCarousel (.focus found) same, rfl⟩
      · exact ⟨same, rfl⟩

/-- A report about a launch leaves both alike. -/
theorem handleLaunch (now : Nat) (report : LaunchEvent) :
    alike (first.handleLaunch now report) (second.handleLaunch now report) := by
  unfold Switcher.handleLaunch
  split
  · unfold launchStarted
    rw [congruence.recognition same]
    split
    · exact same
    · rw [congruence.device same, congruence.splash same]
      exact congruence.create same _
  · exact same
  · unfold launchFailed
    rw [congruence.recognition same]
    split
    · exact same
    · rw [congruence.failureTarget?_eq same]
      split
      · exact same
      · next target _ =>
          rw [congruence.any_get?_eq same target Activity.isRunning_outline]
          split
          · exact same
          · exact congruence.destroy target same

/-- Both lose the splashes of the same launches. -/
theorem expireLaunches (moment : Nat) :
    alike (first.expireLaunches moment) (second.expireLaunches moment) := by
  unfold Switcher.expireLaunches
  rw [congruence.launchTimeout same]
  split
  · exact same
  · next timeout _ =>
      rw [congruence.expiredLaunches_eq same]
      exact congruence.destroyAll same _

/-! ### Actions of the user -/

/-- An address is resolved alike in both, and what is done with the handle ends alike. -/
theorem withHandle (reference : ActivityRef) {serve other : Handle → Switcher × Outcome}
    (served : ∀ handle, SameEnd alike (serve handle) (other handle)) :
    SameEnd alike (first.withHandle reference serve) (second.withHandle reference other) := by
  unfold Switcher.withHandle
  rw [congruence.asked same (·.resolve? reference) fun carousel => carousel.resolve?_outline reference]
  split
  · exact ⟨same, rfl⟩
  · next handle _ => exact served handle

/-- What is done with a card is done with cards of the same outline. -/
theorem onActivity (handle : Handle) {serve other : Activity → Switcher}
    (served : ∀ one two, one.outline = two.outline → alike (serve one) (other two)) :
    alike (first.onActivity handle serve) (second.onActivity handle other) := by
  unfold Switcher.onActivity
  rcases Carousel.get?_cases_of_outline_eq (congruence.outline same) handle with
    ⟨one, two⟩ | ⟨one, two, foundOne, foundTwo, outlined⟩
  · rw [one, two]
    exact same
  · rw [foundOne, foundTwo]
    exact served one two outlined

/-- What is done with the window of a card is done with the same window. -/
theorem onWindow (handle : Handle) {serve other : WindowId → Switcher}
    (served : ∀ window, alike (serve window) (other window)) :
    alike (first.onWindow handle serve) (second.onWindow handle other) := by
  refine congruence.onActivity same handle fun one two outlined => ?_
  rw [← one.window?_outline, outlined, two.window?_outline]
  split
  · exact same
  · next window _ => exact served window

/-- Cards of the same outline are brought to the front alike. -/
theorem raise {one two : Activity} (outlined : one.outline = two.outline) :
    alike (first.raise one) (second.raise two) := by
  unfold Switcher.raise
  rcases Activity.phase_cases_of_outline_eq outlined with
    ⟨startupId, startedAt, phaseOne, phaseTwo⟩ | ⟨window, pending, other, phaseOne, phaseTwo⟩
  · rw [phaseOne, phaseTwo]
    dsimp only
    split
    · exact same
    · exact congruence.splashCommand _ same
  · rw [phaseOne, phaseTwo]
    exact congruence.splashCommand _ (congruence.window _ same)

/-- Moving to a page ends alike in both. -/
theorem pageChanged (index : Option UInt64) :
    SameEnd alike (first.pageChanged index) (second.pageChanged index) := by
  unfold Switcher.pageChanged
  split
  · exact ⟨same, rfl⟩
  · rw [congruence.device same]
    split
    · exact ⟨same, rfl⟩
    · refine congruence.withHandle same _ fun handle => ⟨?_, rfl⟩
      refine congruence.mapCarousel (.grabFocus handle) ?_
      exact congruence.onWindow same handle fun window => congruence.window _ same

/-- The focused card asks for a new picture in both. -/
theorem refresh : alike first.refresh second.refresh := by
  have grabbed (handle : Handle) := congruence.mapCarousel (.grabFocus handle) same
  unfold Switcher.refresh
  rw [congruence.asked same Carousel.isEmpty fun _ => rfl,
    congruence.asked same Carousel.focused fun _ => rfl]
  split
  · exact same
  · split
    · exact same
    · next focused _ => exact congruence.request focused (grabbed focused)

/-- An action of the user ends alike in both. -/
theorem handleUi (event : UiEvent) :
    SameEnd alike (first.handleUi event) (second.handleUi event) := by
  cases event with
  | clicked reference =>
      refine congruence.withHandle same reference fun handle => ⟨?_, rfl⟩
      refine congruence.onActivity same handle fun one two outlined => ?_
      exact congruence.emit .activityRaised (congruence.raise same outlined)
  | closeRequested reference =>
      refine congruence.withHandle same reference fun handle => ⟨?_, rfl⟩
      refine congruence.onWindow same handle fun window => ?_
      exact congruence.emit _ (congruence.feedback _ (congruence.window _ same))
  | fullscreenRequested reference fullscreen =>
      refine congruence.withHandle same reference fun handle => ⟨?_, rfl⟩
      refine congruence.onWindow same handle fun window => ?_
      exact congruence.window _ (congruence.mapCarousel (.modify handle fun _ => rfl) same)
  | resized reference width height =>
      refine congruence.withHandle same reference fun handle => ?_
      split
      · refine ⟨congruence.request handle ?_, rfl⟩
        exact congruence.mapCarousel (.modify handle fun _ => rfl) same
      · exact ⟨same, rfl⟩
  | focusChanged reference hasFocus =>
      refine congruence.withHandle same reference fun handle => ⟨?_, rfl⟩
      cases hasFocus with
      | true => exact congruence.mapCarousel (.scrollOnly handle) same
      | false => exact same
  | pageChanged index => exact congruence.pageChanged same index
  | appLaunched appId => exact ⟨congruence.emit _ same, rfl⟩
  | selectionAborted => exact ⟨congruence.emit _ same, rfl⟩
  | usableAreaChanged width height => exact ⟨congruence.mapCarousel (.area _) same, rfl⟩
  | refresh => exact ⟨congruence.refresh same, rfl⟩
  | reset => exact ⟨congruence.resetGrid same, rfl⟩
  | focusAppSearch => exact ⟨congruence.focusAppSearch same, rfl⟩
  | search input => exact ⟨congruence.search input same, rfl⟩

/-! ### Everything -/

/-- Situations that are alike handle an event in the same way, and are alike afterwards. -/
theorem handle (now : Nat) (event : Event) :
    SameEnd alike (first.handle now event) (second.handle now event) := by
  cases event with
  | window report => exact congruence.handleWindow same report
  | launch report => exact ⟨congruence.handleLaunch same now report, rfl⟩
  | ui event => exact congruence.handleUi same event
  | thumbnailReady activity request => exact ⟨congruence.thumbnailReady activity request same, rfl⟩
  | tick moment => exact ⟨congruence.expireLaunches same moment, rfl⟩

/-- A look at the registry leaves both alike. -/
theorem syncWindows : alike first.syncWindows second.syncWindows := by
  rw [Switcher.syncWindows, congruence.device same, Switcher.syncWindows]
  refine congruence.announce ?_
  generalize second.registry.windows = windows
  induction windows generalizing first second with
  | nil => exact same
  | cons window rest inductionHypothesis =>
      exact inductionHypothesis (congruence.windowAdded same window)

/-- The same event is the oldest one in both. -/
theorem taken : alike first.taken second.taken := by
  unfold Switcher.taken
  rw [congruence.device same]
  exact congruence.withDevice _ same

/-- Whatever happens to both leaves them alike. -/
theorem undergo (happening : Happening) :
    alike (first.undergo happening) (second.undergo happening) := by
  cases happening with
  | event now event => exact (congruence.handle same now event).situation
  | next now =>
      simp only [Switcher.undergo, handleNext]
      rw [congruence.device same]
      cases second.mailbox.waiting.head? with
      | none => exact same
      | some event => exact (congruence.handle (congruence.taken same) now event).situation
  | sync => exact congruence.syncWindows same
  | collect => exact congruence.collected same
  | device device => exact congruence.withDevice device same

end Congruence

end TaskSwitcher.Switcher
