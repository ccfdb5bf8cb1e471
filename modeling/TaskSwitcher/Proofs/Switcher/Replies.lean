import TaskSwitcher.Proofs.Switcher.Announcements

/-!
# Replies to the user

What the user does has its own reply: the commands and announcements that it calls for. The reply to an action
about a card follows from what the address leads to. Actions that give a card a new size, and the refreshing of
the active card, ask for pictures besides; all others lead to their reply and to nothing else.
-/

namespace TaskSwitcher

namespace Carousel

/-- The addressed card. -/
def cardAt? (carousel : Carousel) (reference : ActivityRef) : Option Activity :=
  (carousel.resolve? reference).bind carousel.get?

/-- The window that the addressed card shows. -/
def windowAt? (carousel : Carousel) (reference : ActivityRef) : Option WindowId :=
  (carousel.cardAt? reference).bind Activity.window?

/-- The launch that the addressed card waits for. -/
def launchAt? (carousel : Carousel) (reference : ActivityRef) : Option StartupId :=
  (carousel.cardAt? reference).bind Activity.startupId?

/-- In a valid carousel the address of a card leads to the card. -/
theorem Valid.cardAt?_eq_none_iff {carousel : Carousel} (valid : carousel.Valid)
    (reference : ActivityRef) :
    carousel.cardAt? reference = none ↔ carousel.resolve? reference = none := by
  unfold cardAt?
  cases resolved : carousel.resolve? reference with
  | none => simp
  | some handle =>
      have live : handle ∈ carousel.order := by
        cases reference with
        | id named =>
            obtain ⟨contained, same⟩ := Option.ite_none_right_eq_some.1 resolved
            obtain rfl := Option.some.inj same
            exact (valid.mem_order_iff named).2 contained
        | page index => exact List.mem_of_getElem? resolved
      obtain ⟨activity, found⟩ := valid.exists_get? handle live
      simp [found]

end Carousel

/-- The action may ask for pictures: a card is drawn in a new size, or the active card is refreshed. -/
def UiEvent.Redraws : UiEvent → Prop
  | .resized .. | .refresh => True
  | _ => False

/-- The commands and announcements that an event calls for. -/
structure Reply where
  calls : List Call := []
  signals : List Signal := []

/-- What brings a card to the front: its window is activated and all splashes are lowered, or the splash of
a launch that has a token is raised. -/
def Activity.summons (activity : Activity) : List Call :=
  match activity.phase with
  | .running window _ => [.window (.activate window), .splash .lowerAll]
  | .launching startupId _ =>
      if startupId.token = "" then [] else [.splash (.raise startupId)]

/-- No picture is asked for to bring a card to the front. -/
theorem Activity.not_aboutPicture_summons (activity : Activity) :
    ∀ call ∈ activity.summons, ¬ call.AboutPicture := by
  unfold summons
  split
  · simp [Call.AboutPicture]
  · split <;> simp [Call.AboutPicture]

namespace Switcher

/-- The reply to an action of the user. -/
def replyToUi (switcher : Switcher) : UiEvent → Reply
  | .clicked reference =>
      match switcher.carousel.cardAt? reference with
      | none => {}
      | some activity => { calls := activity.summons, signals := [.activityRaised] }
  | .closeRequested reference =>
      match switcher.carousel.windowAt? reference with
      | none => {}
      | some window =>
          { calls := [.window (.close window), .feedback "window-close"]
            signals := [.activityClosed] }
  | .fullscreenRequested reference fullscreen =>
      match switcher.carousel.windowAt? reference with
      | none => {}
      | some window => { calls := [.window (.fullscreen window fullscreen)] }
  | .pageChanged none => {}
  | .pageChanged (some page) =>
      if switcher.shell.docked || !switcher.shell.overviewVisible then {}
      else
        match switcher.carousel.windowAt? (.page page) with
        | none => {}
        | some window => { calls := [.window (.activate window)] }
  | .appLaunched _ => { signals := [.activityLaunched] }
  | .selectionAborted => { signals := [.selectionAborted] }
  | .reset => { calls := [.gridReset] }
  | .focusAppSearch => { calls := [.gridFocusSearch] }
  | .search input => { calls := [.gridSearch input (switcher.grid.search input).2] }
  | .resized .. | .focusChanged .. | .usableAreaChanged .. | .refresh => {}

/-- The reply to an event. There is none to news. -/
def replyTo (switcher : Switcher) : Event → Reply
  | .ui action => switcher.replyToUi action
  | _ => {}

/-- From `before` to `after` exactly this reply was given. -/
structure Gives (before : Switcher) (reply : Reply) (after : Switcher) : Prop where
  performs : Performs before reply.calls after
  signals : after.signals = before.signals ++ reply.signals

variable {switcher before after : Switcher}

/-- News get no reply. -/
theorem replyTo_news (switcher : Switcher) {event : Event} (news : ∀ action, event ≠ .ui action) :
    switcher.replyTo event = {} := by
  cases event with
  | ui action => exact absurd rfl (news action)
  | _ => rfl

/-- The reply to an action of the user is not about pictures. -/
theorem not_aboutPicture_replyToUi (action : UiEvent) :
    ∀ call ∈ (switcher.replyToUi action).calls, ¬ call.AboutPicture := by
  unfold replyToUi
  split
  · next reference =>
      cases switcher.carousel.cardAt? reference with
      | none => simp
      | some activity => exact activity.not_aboutPicture_summons
  · next reference =>
      cases switcher.carousel.windowAt? reference <;> simp [Call.AboutPicture]
  · next reference fullscreen =>
      cases switcher.carousel.windowAt? reference <;> simp [Call.AboutPicture]
  · simp
  · next page =>
      split
      · simp
      · cases switcher.carousel.windowAt? (.page page) <;> simp [Call.AboutPicture]
  all_goals simp [Call.AboutPicture]

/-! ### What is served -/

/-- Cards are changed in silence. -/
theorem Gives.own (same : after = before.withOwn after.carousel before.signals) :
    Gives before {} after := by
  rw [same]
  exact ⟨⟨rfl, (List.append_nil _).symm⟩, (List.append_nil _).symm⟩

/-- Doing nothing gives the empty reply. -/
theorem Gives.unchanged : Gives switcher {} switcher :=
  .own rfl

/-- An announcement is no command. -/
theorem Performs.emit {calls : List Call} (performs : Performs before calls after) (signal : Signal) :
    Performs before calls (after.emit signal) where
  parts := congrArg (Switcher.emit · signal) performs.parts
  journal := performs.journal

/-- Bringing a card to the front gives the commands of its summons. -/
theorem performs_raise (activity : Activity) :
    Performs switcher activity.summons (switcher.raise activity) := by
  cases phase : activity.phase with
  | running window pending =>
      simp only [Activity.summons, raise, phase]
      exact ⟨rfl, List.append_assoc ..⟩
  | launching startupId startedAt =>
      simp only [Activity.summons, raise, phase]
      split
      · exact ⟨rfl, (List.append_nil _).symm⟩
      · exact ⟨rfl, rfl⟩

/-- Bringing a card to the front is not announced by itself. -/
theorem signals_raise (activity : Activity) : (switcher.raise activity).signals = switcher.signals := by
  unfold raise
  split
  · rfl
  · split <;> rfl

/-- A click is replied to by the summons of the card and the announcement of it. -/
theorem gives_clicked (reference : ActivityRef) :
    Gives switcher (switcher.replyToUi (.clicked reference)) (switcher.clicked reference).1 := by
  simp only [clicked, withHandle, onActivity, replyToUi, Carousel.cardAt?]
  cases switcher.carousel.resolve? reference with
  | none => exact .unchanged
  | some handle =>
      simp only [Option.bind_some]
      cases switcher.carousel.get? handle with
      | none => exact .unchanged
      | some activity =>
          refine ⟨(performs_raise activity).emit .activityRaised, ?_⟩
          exact congrArg (· ++ [.activityRaised]) (signals_raise activity)

/-- Nothing is done with the window of a splash. -/
theorem onWindow_of_none {handle : Handle} {serve : WindowId → Switcher}
    (splash : switcher.carousel.windowOf? handle = none) :
    switcher.onWindow handle serve = switcher := by
  refine onWindow_induction rfl fun activity window found shows => ?_
  rw [Carousel.windowOf?, found, Option.bind_some, shows] at splash
  cases splash

/-- What is to be done with the window of a card is done with the window that it shows. -/
theorem onWindow_of_some {handle : Handle} {window : WindowId} {serve : WindowId → Switcher}
    (shown : switcher.carousel.windowOf? handle = some window) :
    switcher.onWindow handle serve = serve window := by
  obtain ⟨activity, found, shows⟩ := (Carousel.windowOf?_eq_some_iff ..).1 shown
  simp only [onWindow, onActivity, found, shows]

/-- Serving the window of the addressed card gives a reply if it does so for each window. -/
theorem gives_withWindow (reference : ActivityRef) {serve : Handle → Switcher}
    {replyFor : WindowId → Reply}
    (unserved : ∀ handle, switcher.carousel.windowOf? handle = none →
      Gives switcher {} (serve handle))
    (served : ∀ handle window, switcher.carousel.windowOf? handle = some window →
      Gives switcher (replyFor window) (serve handle)) :
    Gives switcher
      (match switcher.carousel.windowAt? reference with
        | none => {}
        | some window => replyFor window)
      (switcher.withHandle reference fun handle => (serve handle, .ok ())).1 := by
  unfold withHandle Carousel.windowAt? Carousel.cardAt?
  cases switcher.carousel.resolve? reference with
  | none => exact .unchanged
  | some handle =>
      change Gives switcher (match switcher.carousel.windowOf? handle with
        | none => {}
        | some window => replyFor window) (serve handle)
      cases shown : switcher.carousel.windowOf? handle with
      | none => exact unserved handle shown
      | some window => exact served handle window shown

/-! ### All actions -/

/-- Every other action leads to its reply and to nothing else. -/
theorem gives_handleUi {action : UiEvent} (other : ¬ action.Redraws) :
    Gives switcher (switcher.replyToUi action) (switcher.handleUi action).1 := by
  cases action with
  | clicked reference => exact gives_clicked reference
  | closeRequested reference =>
      refine gives_withWindow reference (fun handle splash => ?_) fun handle window shown => ?_
      · rw [onWindow_of_none splash]
        exact .unchanged
      · rw [onWindow_of_some shown]
        exact ⟨⟨rfl, List.append_assoc ..⟩, rfl⟩
  | fullscreenRequested reference fullscreen =>
      refine gives_withWindow reference (fun handle splash => ?_) fun handle window shown => ?_
      · rw [onWindow_of_none splash]
        exact .unchanged
      · rw [onWindow_of_some shown]
        exact ⟨⟨rfl, rfl⟩, (List.append_nil _).symm⟩
  | resized reference width height => exact absurd trivial other
  | focusChanged reference hasFocus =>
      refine withHandle_induction .unchanged fun handle _ => ?_
      split <;> exact .own rfl
  | pageChanged index =>
      cases index with
      | none => exact .unchanged
      | some page =>
          simp only [handleUi, pageChanged, replyToUi]
          split
          · exact .unchanged
          · refine gives_withWindow (.page page) (fun handle splash => ?_)
              fun handle window shown => ?_
            · rw [onWindow_of_none splash]
              exact .own rfl
            · rw [onWindow_of_some shown]
              exact ⟨⟨rfl, rfl⟩, (List.append_nil _).symm⟩
  | usableAreaChanged width height => exact .own rfl
  | refresh => exact absurd trivial other
  | appLaunched appId => exact ⟨⟨rfl, (List.append_nil _).symm⟩, rfl⟩
  | selectionAborted => exact ⟨⟨rfl, (List.append_nil _).symm⟩, rfl⟩
  | _ => exact ⟨⟨rfl, rfl⟩, (List.append_nil _).symm⟩

/-- An action that redraws changes nothing, or changes cards in silence and asks for a picture. -/
theorem handleUi_of_redraws {action : UiEvent} (redraws : action.Redraws) :
    (switcher.handleUi action).1 = switcher ∨
      ∃ changed handle, changed = switcher.withOwn changed.carousel switcher.signals ∧
        (switcher.handleUi action).1 = changed.requestThumbnail handle := by
  cases action with
  | resized reference width height =>
      refine withHandle_induction (.inl rfl) fun handle _ => ?_
      split
      · exact .inr ⟨_, handle, rfl, rfl⟩
      · exact .inl rfl
  | refresh =>
      simp only [handleUi, refresh]
      split
      · exact .inl rfl
      · split
        · exact .inl rfl
        · next focused _ => exact .inr ⟨_, focused, rfl, rfl⟩
  | _ => cases redraws

end Switcher

end TaskSwitcher
