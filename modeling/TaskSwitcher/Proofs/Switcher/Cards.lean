import TaskSwitcher.Proofs.Carousel.Outlines
import TaskSwitcher.Proofs.Scenario.Steps
import TaskSwitcher.Proofs.Switcher.Announcements

/-!
# What lasts on the cards

A card is made for a launch or for a window, may be given a window, and is changed in a few other ways. Whatever
is true of new cards and survives each of these changes is true of every card at all times. Three of the changes
depend on something from outside: a new card and one that gets its window ask the shell for the usable area, and
a report of another area is believed by all cards at once.
-/

namespace TaskSwitcher

namespace Switcher

/-- A property of cards that new cards have and that nothing takes away, as long as cards are told of none but
the given areas. -/
structure Lasting (areas : Size → Prop) (holds : Activity → Prop) : Prop where
  launching : ∀ {area}, areas area → ∀ appId appInfo startupId now lightStyle,
    holds { Activity.launching appId appInfo startupId area now with lightStyle }
  running : ∀ {area}, areas area → ∀ window appInfo parentAppId,
    holds (.running window appInfo parentAppId area)
  bindWindow : ∀ {activity area}, holds activity → areas area → ∀ window,
    holds (activity.bindWindow window area)
  withArea : ∀ {activity area}, holds activity → areas area → holds (activity.withArea area)
  withAllocation : ∀ {activity size}, holds activity → size.isDrawable = true →
    holds (activity.withAllocation size)
  withFullscreen : ∀ {activity}, holds activity → ∀ fullscreen,
    holds (activity.withFullscreen fullscreen)
  showing : ∀ {activity}, holds activity → ∀ window, holds (activity.showing window)
  awaiting : ∀ {activity}, holds activity → ∀ request, holds (activity.awaiting request)
  receive : ∀ {activity}, holds activity → ∀ request, holds (activity.receive request)

/-- The shell has one of these areas, and every card has this property. -/
structure Upholds (areas : Size → Prop) (holds : Activity → Prop) (switcher : Switcher) : Prop where
  shell : areas switcher.shell.usableArea
  cards : ∀ handle activity, switcher.carousel.get? handle = some activity → holds activity

namespace Upholds

variable {areas : Size → Prop} {holds : Activity → Prop} {switcher after : Switcher}
  (upholds : switcher.Upholds areas holds)

include upholds

/-- Nothing is done to the cards or to the area of the shell. -/
theorem of_same (arena : after.carousel.arena = switcher.carousel.arena)
    (usableArea : after.shell.usableArea = switcher.shell.usableArea) :
    after.Upholds areas holds where
  shell := usableArea ▸ upholds.shell
  cards handle activity found := by
    rw [Carousel.get?, arena] at found
    exact upholds.cards handle activity found

/-- A change of one card that keeps the property keeps it for all. -/
theorem modify (handle : Handle) (change : Activity → Activity)
    (keeps : ∀ activity, holds activity → holds (change activity)) :
    (switcher.mapCarousel (·.modify handle change)).Upholds areas holds where
  shell := upholds.shell
  cards other changed found := by
    obtain ⟨activity, present, rfl⟩ :=
      Option.map_eq_some_iff.1 ((switcher.carousel.get?_modify ..).symm.trans found)
    have former := upholds.cards other activity present
    split
    · exact keeps activity former
    · exact former

/-- The withdrawal of a request changes no card. -/
theorem cancelThumbnail (request : Option ThumbnailRequest) :
    (switcher.cancelThumbnail request).Upholds areas holds := by
  cases request with
  | none => exact upholds
  | some request => exact upholds.of_same rfl rfl

/-- A new card that has the property joins those that have it. -/
theorem create (valid : switcher.carousel.Valid) {activity : Activity}
    (made : holds activity) :
    (switcher.createActivity activity).Upholds areas holds where
  shell := upholds.shell
  cards handle card found := by
    have inserted := (valid.get?_insert handle (switcher.placeOf activity) activity).symm.trans found
    split at inserted
    · cases inserted
      exact made
    · exact upholds.cards handle card inserted

/-- The removal of a card takes the property from none of the others. -/
theorem destroy (handle : Handle) : (switcher.destroyActivity handle).Upholds areas holds where
  shell := by
    have same : (switcher.destroyActivity handle).shell = switcher.shell := by
      rw [destroyActivity]
      split
      · rfl
      · next activity _ => cases activity.pending? <;> rfl
    exact same ▸ upholds.shell
  cards other activity found := by
    rw [get?_destroyActivity, Option.ite_none_left_eq_some] at found
    exact upholds.cards other activity found.2

/-- The removal of several cards takes the property from none of the others. -/
theorem destroyAll (handles : List Handle) :
    (handles.foldl destroyActivity switcher).Upholds areas holds := by
  induction handles generalizing switcher with
  | nil => exact upholds
  | cons first rest inductionHypothesis => exact inductionHypothesis (upholds.destroy first)

/-- Bringing a card to the front changes none. -/
theorem raise (activity : Activity) : (switcher.raise activity).Upholds areas holds := by
  unfold Switcher.raise
  split
  · exact upholds.of_same rfl rfl
  · split
    · exact upholds
    · exact upholds.of_same rfl rfl

variable (lasting : Lasting areas holds)

include lasting

/-- A card that waits for a picture keeps the property. -/
theorem requestThumbnail (handle : Handle) :
    (switcher.requestThumbnail handle).Upholds areas holds := by
  rcases switcher.requestThumbnail_cases handle with
    unchanged | ⟨picture, window, size, -, requested⟩
  · rwa [unchanged]
  · rw [requested]
    have asked : (switcher.askThumbnail handle window size).Upholds areas holds :=
      upholds.of_same rfl rfl
    exact (asked.modify handle _ fun card former => lasting.awaiting former _).cancelThumbnail _

/-! ### News -/

/-- What news lead to keeps the property. -/
theorem chore (valid : switcher.carousel.Valid) (chore : Chore switcher after) :
    after.Upholds areas holds := by
  cases chore with
  | request handle => exact upholds.requestThumbnail lasting handle
  | launch appId appInfo startupId now recognised =>
      exact upholds.create valid (lasting.launching upholds.shell ..)
  | add window => exact upholds.create valid (lasting.running upholds.shell ..)
  | bind handle window activity found splash =>
      exact upholds.modify handle _ fun _ former => lasting.bindWindow former upholds.shell window
  | «show» handle window =>
      exact upholds.modify handle _ fun _ former => lasting.showing former window
  | focus handle => exact upholds.of_same (switcher.arena_focusActivity handle) rfl
  | announce => exact upholds.of_same rfl rfl

/-- Everything that news lead to keeps the property. -/
theorem chores (valid : switcher.carousel.Valid) (chores : Chores switcher after) :
    after.Upholds areas holds :=
  chores.lift
    (motive := fun before after => before.Upholds areas holds → after.Upholds areas holds)
    (fun _ => id) (fun first second => second ∘ first)
    (fun valid chore upholds => upholds.chore lasting valid chore) valid upholds

/-! ### Actions of the user -/

/-- What lasts is upheld by every action of the user that speaks of none but the given areas. -/
theorem handleUi {action : UiEvent}
    (allowed : ∀ area, (Event.ui action).area? = some area → areas area) :
    (switcher.handleUi action).1.Upholds areas holds := by
  cases action with
  | clicked reference =>
      refine withHandle_induction upholds fun handle _ => ?_
      exact onActivity_induction upholds fun activity _ => (upholds.raise activity).of_same rfl rfl
  | closeRequested reference =>
      refine withHandle_induction upholds fun handle _ => ?_
      exact onWindow_induction upholds fun _ _ _ _ => upholds.of_same rfl rfl
  | fullscreenRequested reference fullscreen =>
      refine withHandle_induction upholds fun handle _ => ?_
      refine onWindow_induction upholds fun _ _ _ _ => ?_
      have shown := upholds.modify handle (·.withFullscreen fullscreen) fun _ former =>
        lasting.withFullscreen former fullscreen
      exact shown.of_same rfl rfl
  | resized reference width height =>
      refine withHandle_induction upholds fun handle _ => ?_
      split
      · next drawable =>
          have allocated := upholds.modify handle (·.withAllocation ⟨width, height⟩) fun _ former =>
            lasting.withAllocation former drawable
          exact allocated.requestThumbnail lasting handle
      · exact upholds
  | focusChanged reference hasFocus =>
      refine withHandle_induction upholds fun handle _ => ?_
      cases hasFocus with
      | true => exact upholds.of_same (Carousel.arena_scrollOnly _ handle) rfl
      | false => exact upholds
  | pageChanged index =>
      simp only [Switcher.handleUi, pageChanged]
      split
      · exact upholds
      · split
        · exact upholds
        · refine withHandle_induction upholds fun handle _ => ?_
          have activated : (switcher.onWindow handle fun window =>
              switcher.commandWindow (.activate window)).Upholds areas holds :=
            onWindow_induction upholds fun _ _ _ _ => upholds.of_same rfl rfl
          exact activated.of_same (Carousel.arena_grabFocus _ handle) rfl
  | usableAreaChanged width height =>
      refine ⟨upholds.shell, fun handle card found => ?_⟩
      obtain ⟨activity, present, rfl⟩ :=
        Option.map_eq_some_iff.1 ((switcher.carousel.get?_mapActivities ..).symm.trans found)
      exact lasting.withArea (upholds.cards handle activity present) (allowed _ rfl)
  | refresh =>
      simp only [Switcher.handleUi, refresh]
      split
      · exact upholds
      · split
        · exact upholds
        · next focused _ =>
            have grabbed : (switcher.mapCarousel (·.grabFocus focused)).Upholds areas holds :=
              upholds.of_same (Carousel.arena_grabFocus _ focused) rfl
            exact grabbed.requestThumbnail lasting focused
  | _ => exact upholds.of_same rfl rfl

/-! ### Everything -/

/-- What lasts is upheld by the handling of every event that speaks of none but the given areas. -/
theorem handle (valid : switcher.carousel.Valid) (now : Nat) {event : Event}
    (allowed : ∀ area, event.area? = some area → areas area) :
    (switcher.handle now event).1.Upholds areas holds := by
  by_cases asked : ∃ action, event = .ui action
  · obtain ⟨action, rfl⟩ := asked
    exact upholds.handleUi lasting allowed
  · have news action : event ≠ .ui action := fun same => asked ⟨action, same⟩
    rcases switcher.news_cases now news with ⟨handle, request, rfl⟩ | chores | ⟨handles, cleared⟩
    · exact upholds.modify handle _ fun _ former => lasting.receive former request
    · exact upholds.chores lasting valid chores
    · rw [cleared]
      exact upholds.destroyAll handles

/-- The cards that a look at the registry makes have the property, and the others keep it. -/
theorem syncWindows (valid : switcher.carousel.Valid) :
    switcher.syncWindows.Upholds areas holds :=
  upholds.chores lasting valid switcher.chores_syncWindows

end Upholds

/-- What lasts whatever the areas are is true of every card in every reachable situation. -/
theorem Reachable.every_card {holds : Activity → Prop} {switcher : Switcher}
    (reachable : switcher.Reachable) (lasting : Lasting (fun _ => True) holds) :
    switcher.Upholds (fun _ => True) holds := by
  induction reachable with
  | @start parts noCards _ =>
      have none : parts.Upholds (fun _ => True) holds := by
        refine ⟨trivial, fun handle activity found => ?_⟩
        rw [noCards] at found
        cases (Carousel.get?_empty handle).symm.trans found
      exact none.syncWindows lasting (noCards ▸ Carousel.valid_empty)
  | handle before now event inductionHypothesis =>
      exact inductionHypothesis.handle lasting before.valid now fun _ _ => trivial
  | sync before inductionHypothesis => exact inductionHypothesis.syncWindows lasting before.valid
  | collect _ inductionHypothesis => exact inductionHypothesis.of_same rfl rfl
  | device _ _ inductionHypothesis => exact ⟨trivial, inductionHypothesis.cards⟩

end Switcher

end TaskSwitcher
