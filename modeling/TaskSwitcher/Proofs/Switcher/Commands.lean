import TaskSwitcher.Proofs.Switcher.Replies

/-!
# Commands come from the user

Reports about windows and launches, pictures and the clock make the overview ask for pictures and withdraw
such requests; nothing else is commanded because of them, so no echo of a command can lead to another one.
All other commands are replies to the user. A reply commands at most one window, and this is the one of the
card that the user addressed.
-/

namespace TaskSwitcher

/-- What the command tells the compositor, if it is for the compositor. -/
def Call.windowCommand? : Call → Option WindowCommand
  | window command => some command
  | _ => none

/-- The feedback that the command asks for, if it is for the shell. -/
def Call.feedback? : Call → Option String
  | feedback name => some name
  | _ => none

/-- A command about pictures tells the compositor nothing. -/
theorem Call.windowCommand?_of_aboutPicture {call : Call} (picture : call.AboutPicture) :
    call.windowCommand? = none := by
  cases call with
  | thumbnailRequest | thumbnailCancel => rfl
  | _ => cases picture

/-- A command about pictures asks for no feedback. -/
theorem Call.feedback?_of_aboutPicture {call : Call} (picture : call.AboutPicture) :
    call.feedback? = none := by
  cases call with
  | thumbnailRequest | thumbnailCancel => rfl
  | _ => cases picture

namespace Switcher

/-- From `before` to `after` a reply was given. Besides, pictures may have been asked for or such requests
withdrawn, and it may have been announced whether there are cards. -/
def Replies (before : Switcher) (reply : Reply) (after : Switcher) : Prop :=
  ∃ (pictures : List Call) (values : List Bool),
    Performs before (reply.calls ++ pictures) after ∧
      (∀ call ∈ pictures, call.AboutPicture) ∧
      after.signals = before.signals ++ (reply.signals ++ values.map .hasActivities)

variable {switcher before middle after : Switcher}

/-! ### News -/

/-- All that is announced is whether there are cards. -/
def Reticent (before after : Switcher) : Prop :=
  ∃ values : List Bool, after.signals = before.signals ++ values.map .hasActivities

namespace Reticent

/-- Where nothing is announced, nothing is announced but whether there are cards. -/
theorem silent (signals : after.signals = before.signals) : Reticent before after :=
  ⟨[], by rw [signals]; exact (List.append_nil _).symm⟩

/-- Two reticent parts are reticent together. -/
theorem trans (first : Reticent before middle) (second : Reticent middle after) :
    Reticent before after := by
  obtain ⟨values, told⟩ := first
  obtain ⟨more, toldMore⟩ := second
  exact ⟨values ++ more, by rw [toldMore, told, List.map_append, List.append_assoc]⟩

/-- Announcing whether there are cards is all that reticence allows. -/
theorem announce : Reticent before before.announceOccupancy :=
  ⟨_, rfl⟩

/-- A request for a picture announces nothing. -/
theorem requestThumbnail (handle : Handle) : Reticent before (before.requestThumbnail handle) := by
  refine .silent ?_
  rcases before.requestThumbnail_cases handle with
    unchanged | ⟨picture, window, size, -, requested⟩
  · rw [unchanged]
  · rw [requested, signals_cancelThumbnail]
    rfl

/-- What news lead to announces nothing but whether there are cards. -/
theorem chore (chore : Chore before after) : Reticent before after := by
  cases chore with
  | request handle => exact .requestThumbnail handle
  | launch appId appInfo startupId now recognised => exact ⟨_, rfl⟩
  | add window => exact ⟨_, rfl⟩
  | announce => exact ⟨_, rfl⟩
  | _ => exact .silent rfl

/-- Everything that news lead to announces nothing but whether there are cards. -/
theorem chores (chores : Chores before after) : Reticent before after := by
  induction chores with
  | refl => exact .silent rfl
  | tail _ last inductionHypothesis => exact inductionHypothesis.trans (.chore last)

/-- The removal of a card announces nothing but whether there are cards. -/
theorem destroyActivity (handle : Handle) : Reticent before (before.destroyActivity handle) := by
  unfold Switcher.destroyActivity
  split
  · exact .silent rfl
  · next activity _ =>
      have withdrawn : Reticent before
          ((before.mapCarousel (·.erase handle)).cancelThumbnail activity.pending?) :=
        .silent (signals_cancelThumbnail _)
      exact withdrawn.trans .announce

/-- News make the overview announce whether there are cards, and nothing else. -/
theorem handle (now : Nat) {event : Event} (news : ∀ action, event ≠ .ui action) :
    Reticent before (before.handle now event).1 := by
  rcases before.news_cases now news with ⟨handle, request, rfl⟩ | chores | clears
  · exact .silent rfl
  · exact .chores chores
  · exact clears.lift (fun _ => .silent rfl) .trans fun _ => .destroyActivity

end Reticent

/-! ### Replies -/

namespace Replies

/-- Where all commands are about pictures, the empty reply was given. -/
theorem pictures (only : PerformsOnly Call.AboutPicture before after) (reticent : Reticent before after) :
    Replies before {} after := by
  obtain ⟨pictures, performs, about⟩ := only
  obtain ⟨values, told⟩ := reticent
  exact ⟨pictures, values, performs, about, told⟩

/-- What is replied exactly is replied. -/
theorem exactly {reply : Reply} (gives : Gives before reply after) : Replies before reply after := by
  refine ⟨[], [], ?_, fun _ none => (nomatch none), ?_⟩
  · rw [List.append_nil]
    exact gives.performs
  · rw [List.map_nil, List.append_nil]
    exact gives.signals

end Replies

/-- An action of the user is replied to as `replyToUi` says, whether or not it can be served. -/
theorem replies_handleUi (action : UiEvent) :
    Replies switcher (switcher.replyToUi action) (switcher.handleUi action).1 := by
  by_cases redraws : action.Redraws
  · have none : switcher.replyToUi action = {} := by
      cases action with
      | resized | refresh => rfl
      | _ => cases redraws
    rw [none]
    rcases handleUi_of_redraws redraws with unchanged | ⟨changed, handle, own, requested⟩
    · rw [unchanged]
      exact .exactly .unchanged
    · rw [requested]
      have signals : changed.signals = switcher.signals := by rw [own]; rfl
      have same : changed = switcher.withOwn changed.carousel changed.signals := by
        rw [signals, ← own]
      exact .pictures (.trans (.own same) (changed.pictures_requestThumbnail handle))
        (.trans (.silent signals) (.requestThumbnail handle))
  · exact .exactly (gives_handleUi redraws)

/-- Whatever is handled gets its reply. -/
theorem replies_handle (now : Nat) (event : Event) :
    Replies switcher (switcher.replyTo event) (switcher.handle now event).1 := by
  by_cases asked : ∃ action, event = .ui action
  · obtain ⟨action, rfl⟩ := asked
    exact replies_handleUi action
  · have news action : event ≠ .ui action := fun same => asked ⟨action, same⟩
    rw [switcher.replyTo_news news]
    exact .pictures (switcher.pictures_news now news) (.handle now news)

/-! ### What a reply contains -/

/-- What an event makes the overview tell the compositor. -/
def windowCommand? (switcher : Switcher) : Event → Option WindowCommand
  | .ui (.clicked reference) => (switcher.carousel.windowAt? reference).map .activate
  | .ui (.closeRequested reference) => (switcher.carousel.windowAt? reference).map .close
  | .ui (.fullscreenRequested reference fullscreen) =>
      (switcher.carousel.windowAt? reference).map (.fullscreen · fullscreen)
  | .ui (.pageChanged (some page)) =>
      if switcher.shell.docked || !switcher.shell.overviewVisible then none
      else (switcher.carousel.windowAt? (.page page)).map .activate
  | _ => none

/-- Bringing a card to the front activates its window, if it shows one. -/
theorem filterMap_windowCommand?_summons (activity : Activity) :
    activity.summons.filterMap Call.windowCommand? =
      (activity.window?.map WindowCommand.activate).toList := by
  unfold Activity.summons Activity.window?
  cases activity.phase with
  | running window pending => rfl
  | launching startupId startedAt =>
      simp only
      split <;> rfl

/-- The reply to an event tells the compositor what the event makes the overview tell it. -/
theorem filterMap_windowCommand?_replyTo (event : Event) :
    (switcher.replyTo event).calls.filterMap Call.windowCommand? =
      (switcher.windowCommand? event).toList := by
  cases event with
  | ui action =>
      cases action with
      | clicked reference =>
          simp only [replyTo, replyToUi, windowCommand?, Carousel.windowAt?]
          cases switcher.carousel.cardAt? reference with
          | none => rfl
          | some activity => exact filterMap_windowCommand?_summons activity
      | closeRequested reference =>
          simp only [replyTo, replyToUi, windowCommand?]
          cases switcher.carousel.windowAt? reference <;> rfl
      | fullscreenRequested reference fullscreen =>
          simp only [replyTo, replyToUi, windowCommand?]
          cases switcher.carousel.windowAt? reference <;> rfl
      | pageChanged index =>
          cases index with
          | none => rfl
          | some page =>
              simp only [replyTo, replyToUi, windowCommand?]
              split
              · rfl
              · cases switcher.carousel.windowAt? (.page page) <;> rfl
      | _ => rfl
  | _ => rfl

/-- A splash is raised, or all of them are lowered, only when a card is clicked. -/
theorem replyToUi_of_ne_clicked {action : UiEvent} (other : ∀ reference, action ≠ .clicked reference) :
    (∀ command, .splash command ∉ (switcher.replyToUi action).calls) ∧
      .activityRaised ∉ (switcher.replyToUi action).signals := by
  unfold replyToUi
  split
  · next reference => exact absurd rfl (other reference)
  · next reference => cases switcher.carousel.windowAt? reference <;> simp
  · next reference fullscreen => cases switcher.carousel.windowAt? reference <;> simp
  · simp
  · next page =>
      split
      · simp
      · cases switcher.carousel.windowAt? (.page page) <;> simp
  all_goals simp

/-- Only a click commands splashes and announces that a card was brought to the front. -/
theorem replyTo_of_ne_clicked {event : Event}
    (other : ∀ reference, event ≠ .ui (.clicked reference)) :
    (∀ command, .splash command ∉ (switcher.replyTo event).calls) ∧
      .activityRaised ∉ (switcher.replyTo event).signals := by
  cases event with
  | ui action => exact replyToUi_of_ne_clicked fun reference same => other reference (same ▸ rfl)
  | _ => simp [replyTo]

/-- Feedback is given only when a card is to be closed. -/
theorem replyToUi_of_ne_closeRequested {action : UiEvent}
    (other : ∀ reference, action ≠ .closeRequested reference) :
    (switcher.replyToUi action).calls.filterMap Call.feedback? = [] ∧
      .activityClosed ∉ (switcher.replyToUi action).signals := by
  unfold replyToUi
  split
  · next reference =>
      cases switcher.carousel.cardAt? reference with
      | none => simp
      | some activity =>
          simp only [Activity.summons]
          cases activity.phase with
          | running window pending => simp [Call.feedback?]
          | launching startupId startedAt =>
              simp only
              split <;> simp [Call.feedback?]
  · next reference => exact absurd rfl (other reference)
  · next reference fullscreen =>
      cases switcher.carousel.windowAt? reference <;> simp [Call.feedback?]
  · simp [Call.feedback?]
  · next page =>
      split
      · simp
      · cases switcher.carousel.windowAt? (.page page) <;> simp [Call.feedback?]
  all_goals simp [Call.feedback?]

/-- Only the request to close a card gives feedback and is announced as that. -/
theorem replyTo_of_ne_closeRequested {event : Event}
    (other : ∀ reference, event ≠ .ui (.closeRequested reference)) :
    (switcher.replyTo event).calls.filterMap Call.feedback? = [] ∧
      .activityClosed ∉ (switcher.replyTo event).signals := by
  cases event with
  | ui action =>
      exact replyToUi_of_ne_closeRequested fun reference same => other reference (same ▸ rfl)
  | _ => simp [replyTo]

/-- A click raises the splash of the clicked card if its launch has a token. -/
theorem raise_mem_replyTo_clicked_iff (reference : ActivityRef) (startupId : StartupId) :
    .splash (.raise startupId) ∈ (switcher.replyTo (.ui (.clicked reference))).calls ↔
      switcher.carousel.launchAt? reference = some startupId ∧ startupId.token ≠ "" := by
  simp only [replyTo, replyToUi, Carousel.launchAt?]
  cases switcher.carousel.cardAt? reference with
  | none => simp
  | some activity =>
      simp only [Activity.summons, Option.bind_some, Activity.startupId?]
      cases activity.phase with
      | running window pending => simp
      | launching waited startedAt =>
          simp only [Option.some.injEq]
          split
          · next nameless =>
              constructor
              · intro raised
                cases raised
              · rintro ⟨rfl, named⟩
                exact absurd nameless named
          · next named =>
              simp only [List.mem_singleton, Call.splash.injEq, SplashCommand.raise.injEq]
              constructor
              · rintro rfl
                exact ⟨rfl, named⟩
              · rintro ⟨rfl, -⟩
                rfl

/-- A click lowers the splashes if the clicked card shows a window. -/
theorem lowerAll_mem_replyTo_clicked_iff (reference : ActivityRef) :
    .splash .lowerAll ∈ (switcher.replyTo (.ui (.clicked reference))).calls ↔
      ∃ id, switcher.carousel.windowAt? reference = some id := by
  simp only [replyTo, replyToUi, Carousel.windowAt?]
  cases switcher.carousel.cardAt? reference with
  | none => simp
  | some activity =>
      simp only [Activity.summons, Option.bind_some, Activity.window?]
      cases activity.phase with
      | running window pending => simp
      | launching waited startedAt =>
          simp only
          split <;> simp

section

variable (switcher) (event : Event) (id : WindowId)

/-- What makes the overview activate a window. -/
theorem windowCommand?_eq_activate_iff :
    switcher.windowCommand? event = some (.activate id) ↔
      (∃ reference, event = .ui (.clicked reference) ∧
          switcher.carousel.windowAt? reference = some id) ∨
        ∃ page, event = .ui (.pageChanged (some page)) ∧ switcher.shell.overviewVisible = true ∧
          switcher.shell.docked = false ∧ switcher.carousel.windowAt? (.page page) = some id := by
  unfold windowCommand?
  split
  · simp
  · simp
  · simp
  · next page =>
      cases docked : switcher.shell.docked <;>
        cases visible : switcher.shell.overviewVisible <;> simp
  · simp_all

/-- What makes the overview close a window. -/
theorem windowCommand?_eq_close_iff :
    switcher.windowCommand? event = some (.close id) ↔
      ∃ reference, event = .ui (.closeRequested reference) ∧
        switcher.carousel.windowAt? reference = some id := by
  unfold windowCommand?
  split
  · simp
  · simp
  · simp
  · simp
  · next unclosed _ _ =>
      refine iff_of_false (by simp) ?_
      rintro ⟨reference, closes, -⟩
      exact unclosed reference closes

/-- What makes the overview fill the screen with a window, or no longer. -/
theorem windowCommand?_eq_fullscreen_iff (fullscreen : Bool) :
    switcher.windowCommand? event = some (.fullscreen id fullscreen) ↔
      ∃ reference, event = .ui (.fullscreenRequested reference fullscreen) ∧
        switcher.carousel.windowAt? reference = some id := by
  unfold windowCommand?
  split
  · simp
  · simp
  · simp [and_comm]
  · simp
  · next unasked _ =>
      refine iff_of_false (by simp) ?_
      rintro ⟨reference, asks, -⟩
      exact unasked reference fullscreen asks

end

/-- What makes the overview raise a splash. -/
theorem raise_mem_replyTo_iff (event : Event) (startupId : StartupId) :
    .splash (.raise startupId) ∈ (switcher.replyTo event).calls ↔
      ∃ reference, event = .ui (.clicked reference) ∧
        switcher.carousel.launchAt? reference = some startupId ∧ startupId.token ≠ "" := by
  by_cases clicked : ∃ reference, event = .ui (.clicked reference)
  · obtain ⟨reference, rfl⟩ := clicked
    rw [raise_mem_replyTo_clicked_iff]
    simp
  · rw [not_exists] at clicked
    refine iff_of_false ((replyTo_of_ne_clicked clicked).1 _) ?_
    rintro ⟨reference, same, -⟩
    exact clicked reference same

/-- What makes the overview lower the splashes. -/
theorem lowerAll_mem_replyTo_iff (event : Event) :
    .splash .lowerAll ∈ (switcher.replyTo event).calls ↔
      ∃ reference id, event = .ui (.clicked reference) ∧
        switcher.carousel.windowAt? reference = some id := by
  by_cases clicked : ∃ reference, event = .ui (.clicked reference)
  · obtain ⟨reference, rfl⟩ := clicked
    rw [lowerAll_mem_replyTo_clicked_iff]
    simp
  · rw [not_exists] at clicked
    refine iff_of_false ((replyTo_of_ne_clicked clicked).1 _) ?_
    rintro ⟨reference, id, same, -⟩
    exact clicked reference same

/-- What makes the overview announce that a card was brought to the front. -/
theorem activityRaised_mem_replyTo_iff (event : Event) :
    .activityRaised ∈ (switcher.replyTo event).signals ↔
      ∃ reference activity, event = .ui (.clicked reference) ∧
        switcher.carousel.cardAt? reference = some activity := by
  by_cases clicked : ∃ reference, event = .ui (.clicked reference)
  · obtain ⟨reference, rfl⟩ := clicked
    cases found : switcher.carousel.cardAt? reference <;> simp [replyTo, replyToUi, found]
  · rw [not_exists] at clicked
    refine iff_of_false (replyTo_of_ne_clicked clicked).2 ?_
    rintro ⟨reference, activity, same, -⟩
    exact clicked reference same

/-- No feedback is given unless a window is told to close. -/
theorem replyTo_of_unclosed {event : Event}
    (unclosed : ∀ id, switcher.windowCommand? event ≠ some (.close id)) :
    (switcher.replyTo event).calls.filterMap Call.feedback? = [] ∧
      .activityClosed ∉ (switcher.replyTo event).signals := by
  by_cases closes : ∃ reference, event = .ui (.closeRequested reference)
  · obtain ⟨reference, rfl⟩ := closes
    cases shown : switcher.carousel.windowAt? reference with
    | none => simp [replyTo, replyToUi, shown]
    | some id => exact absurd (by simp [windowCommand?, shown]) (unclosed id)
  · rw [not_exists] at closes
    exact replyTo_of_ne_closeRequested closes

/-- A click succeeds when a card is clicked, also if this brings nothing to the front. -/
theorem clicked_eq_ok_iff (valid : switcher.carousel.Valid) (now : Nat) (reference : ActivityRef) :
    (switcher.handle now (.ui (.clicked reference))).2 = .ok () ↔
      ∃ activity, switcher.carousel.cardAt? reference = some activity := by
  rw [← Option.ne_none_iff_exists', ne_eq, valid.cardAt?_eq_none_iff]
  simp only [handle, handleUi, clicked, withHandle]
  cases switcher.carousel.resolve? reference <;> simp

/-! ### Everything -/

/-- The commands and announcements that an event with this outcome leads to serve the user, and the card
that the user addressed. -/
structure ServesUser (switcher : Switcher) (event : Event) (outcome : Outcome) (calls : List Call)
    (signals : List Signal) : Prop where
  single : (calls.filterMap Call.windowCommand?).length ≤ 1
  /-- A window is activated by a click on its card, or by moving to its page in the open overview of an
  undocked phone. -/
  activates : ∀ id, .window (.activate id) ∈ calls ↔
    (∃ reference, event = .ui (.clicked reference) ∧
        switcher.carousel.windowAt? reference = some id) ∨
      ∃ page, event = .ui (.pageChanged (some page)) ∧ switcher.shell.overviewVisible = true ∧
        switcher.shell.docked = false ∧ switcher.carousel.windowAt? (.page page) = some id
  closes : ∀ id, .window (.close id) ∈ calls ↔
    ∃ reference, event = .ui (.closeRequested reference) ∧
      switcher.carousel.windowAt? reference = some id
  fullscreens : ∀ id fullscreen, .window (.fullscreen id fullscreen) ∈ calls ↔
    ∃ reference, event = .ui (.fullscreenRequested reference fullscreen) ∧
      switcher.carousel.windowAt? reference = some id
  /-- A splash is raised by a click on it, if its launch has a token. -/
  raises : ∀ startupId, .splash (.raise startupId) ∈ calls ↔
    ∃ reference, event = .ui (.clicked reference) ∧
      switcher.carousel.launchAt? reference = some startupId ∧ startupId.token ≠ ""
  /-- All splashes are lowered by the click that activates a window. -/
  lowers : .splash .lowerAll ∈ calls ↔
    ∃ reference id, event = .ui (.clicked reference) ∧ .window (.activate id) ∈ calls
  /-- The closing of a window is accompanied by feedback and announced, both once. -/
  closing : ∀ id, .window (.close id) ∈ calls →
    calls.filterMap Call.feedback? = ["window-close"] ∧ signals.count .activityClosed = 1
  notClosing : (∀ id, .window (.close id) ∉ calls) →
    calls.filterMap Call.feedback? = [] ∧ .activityClosed ∉ signals
  raised : ∀ reference, event = .ui (.clicked reference) → outcome = .ok () →
    signals.count .activityRaised = 1
  notRaised : (∀ reference, event = .ui (.clicked reference) → outcome ≠ .ok ()) →
    .activityRaised ∉ signals
  news : (∀ action, event ≠ .ui action) → ∀ call ∈ calls, call.AboutPicture

/-- Commands about pictures make no difference to what is picked from the others. -/
theorem filterMap_append_pictures {β : Type} {kind : Call → Option β} {calls pictures : List Call}
    (about : ∀ call ∈ pictures, call.AboutPicture)
    (apart : ∀ {call : Call}, call.AboutPicture → kind call = none) :
    (calls ++ pictures).filterMap kind = calls.filterMap kind := by
  have none : pictures.filterMap kind = [] :=
    List.filterMap_eq_nil_iff.2 fun call given => apart (about call given)
  rw [List.filterMap_append, none, List.append_nil]

/-- Announcements of whether there are cards make no difference to how often others are made. -/
theorem count_append_occupancy {signal : Signal} (other : signal.occupancy? = none)
    (signals : List Signal) (values : List Bool) :
    (signals ++ values.map Signal.hasActivities).count signal = signals.count signal := by
  rw [List.count_append, Nat.add_eq_left, List.count_eq_zero, List.mem_map]
  rintro ⟨value, -, rfl⟩
  cases other

/-- The commands to the compositor are picked out of all commands. -/
theorem mem_filterMap_windowCommand?_iff {calls : List Call} (command : WindowCommand) :
    command ∈ calls.filterMap Call.windowCommand? ↔ .window command ∈ calls := by
  rw [List.mem_filterMap]
  constructor
  · rintro ⟨call, given, tells⟩
    cases call with
    | window told =>
        cases tells
        exact given
    | _ => cases tells
  · exact fun given => ⟨_, given, rfl⟩

/-- A reply serves the user, whatever is done about pictures and announced about the occupancy besides. -/
theorem servesUser_replyTo (valid : switcher.carousel.Valid) (now : Nat) (event : Event)
    {pictures : List Call} (about : ∀ call ∈ pictures, call.AboutPicture) (values : List Bool) :
    switcher.ServesUser event (switcher.handle now event).2
      ((switcher.replyTo event).calls ++ pictures)
      ((switcher.replyTo event).signals ++ values.map .hasActivities) := by
  have commands : ((switcher.replyTo event).calls ++ pictures).filterMap Call.windowCommand? =
      (switcher.windowCommand? event).toList := by
    rw [filterMap_append_pictures about Call.windowCommand?_of_aboutPicture,
      filterMap_windowCommand?_replyTo]
  have feedback : ((switcher.replyTo event).calls ++ pictures).filterMap Call.feedback? =
      (switcher.replyTo event).calls.filterMap Call.feedback? :=
    filterMap_append_pictures about Call.feedback?_of_aboutPicture
  -- Commands about pictures are for neither of the two, so the reply alone decides.
  have window (command : WindowCommand) :
      .window command ∈ (switcher.replyTo event).calls ++ pictures ↔
        switcher.windowCommand? event = some command := by
    rw [← mem_filterMap_windowCommand?_iff, commands, Option.mem_toList]
  have splash (command : SplashCommand) :
      .splash command ∈ (switcher.replyTo event).calls ++ pictures ↔
        .splash command ∈ (switcher.replyTo event).calls := by
    rw [List.mem_append, or_iff_left fun given => about (.splash command) given]
  constructor
  · rw [commands]
    cases switcher.windowCommand? event <;> simp
  · exact fun id => (window _).trans (switcher.windowCommand?_eq_activate_iff event id)
  · exact fun id => (window _).trans (switcher.windowCommand?_eq_close_iff event id)
  · exact fun id fullscreen =>
      (window _).trans (switcher.windowCommand?_eq_fullscreen_iff event id fullscreen)
  · exact fun startupId => (splash _).trans (raise_mem_replyTo_iff event startupId)
  · rw [splash, lowerAll_mem_replyTo_iff]
    refine exists_congr fun reference => exists_congr fun id => and_congr_right fun clicked => ?_
    rw [window, clicked, windowCommand?, Option.map_eq_some_iff]
    simp
  · intro id closing
    obtain ⟨reference, rfl, shows⟩ :=
      (switcher.windowCommand?_eq_close_iff event id).1 ((window _).1 closing)
    -- The occupancy is another announcement and does not count here.
    rw [feedback, count_append_occupancy rfl]
    simp only [replyTo, replyToUi, shows]
    exact ⟨rfl, rfl⟩
  · intro unclosed
    rw [feedback, ← List.count_eq_zero, count_append_occupancy rfl, List.count_eq_zero]
    exact replyTo_of_unclosed fun id tells => unclosed id ((window _).2 tells)
  · rintro reference rfl served
    obtain ⟨activity, found⟩ := (clicked_eq_ok_iff valid now reference).1 served
    rw [count_append_occupancy rfl]
    simp only [replyTo, replyToUi, found]
    rfl
  · intro unserved
    rw [← List.count_eq_zero, count_append_occupancy rfl, List.count_eq_zero,
      activityRaised_mem_replyTo_iff]
    rintro ⟨reference, activity, rfl, found⟩
    exact unserved reference rfl ((clicked_eq_ok_iff valid now reference).2 ⟨activity, found⟩)
  · intro news call given
    rw [switcher.replyTo_news news] at given
    exact about call given

/-- In every reachable situation the parts around the overview change by commands alone. Those that are not
about pictures are caused by the user and hit the card that the user addressed; no event leads to more than one
command to the compositor. -/
theorem Reachable.commands_serve_user (reachable : switcher.Reachable) (now : Nat) (event : Event) :
    ∃ calls signals,
      Performs switcher calls (switcher.handle now event).1 ∧
        (switcher.handle now event).1.signals = switcher.signals ++ signals ∧
        switcher.ServesUser event (switcher.handle now event).2 calls signals := by
  obtain ⟨pictures, values, performs, about, told⟩ := replies_handle now event
  exact ⟨_, _, performs, told, servesUser_replyTo reachable.valid now event about values⟩

/-- The card of the window is clicked, asked to close, and moved to while the overview is closed. The splash is
clicked and asked to close. -/
theorem calls_card_served :
    let opened := (assemble {} true [Scenario.callsWindow] none).start
    let launched := (opened.handle 0 (.launch
      { stage := .started, appId := "org.gnome.Settings", startupId := ⟨"token"⟩ })).1
    let told (action : UiEvent) (calls : List Call) (signals : List Signal) : Prop :=
      Performs launched calls (launched.handle 0 (.ui action)).1 ∧
        (launched.handle 0 (.ui action)).1.signals = launched.signals ++ signals
    (∃ calls signals, told (.clicked (.page 0)) calls signals ∧
        .window (.activate ⟨1⟩) ∈ calls ∧ .splash .lowerAll ∈ calls ∧
        signals.count .activityRaised = 1) ∧
      (∃ calls signals, told (.closeRequested (.page 0)) calls signals ∧
        .window (.close ⟨1⟩) ∈ calls ∧ calls.filterMap Call.feedback? = ["window-close"] ∧
        signals.count .activityClosed = 1) ∧
      (∃ calls signals, told (.pageChanged (some 0)) calls signals ∧
        ∀ id, .window (.activate id) ∉ calls) ∧
      (∃ calls signals, told (.clicked (.page 1)) calls signals ∧
        .splash (.raise ⟨"token"⟩) ∈ calls ∧ ∀ id, .window (.activate id) ∉ calls) ∧
      ∃ calls signals, told (.closeRequested (.page 1)) calls signals ∧
        (∀ id, .window (.close id) ∉ calls) ∧ .activityClosed ∉ signals := by
  intro opened launched told
  have reachable : launched.Reachable := .handle (.start rfl rfl) 0 _
  have shown : launched.carousel.windowAt? (.page 0) = some ⟨1⟩ := by decide +kernel
  have waits : launched.carousel.launchAt? (.page 1) = some ⟨"token"⟩ := by decide +kernel
  have splash : launched.carousel.windowAt? (.page 1) = none := by decide +kernel
  refine ⟨?_, ?_, ?_, ?_, ?_⟩
  · obtain ⟨calls, signals, performs, signalled, serves⟩ :=
      reachable.commands_serve_user 0 (.ui (.clicked (.page 0)))
    have activated := (serves.activates ⟨1⟩).2 (.inl ⟨_, rfl, shown⟩)
    exact ⟨calls, signals, ⟨performs, signalled⟩, activated, serves.lowers.2 ⟨_, _, rfl, activated⟩,
      serves.raised _ rfl (by decide +kernel)⟩
  · obtain ⟨calls, signals, performs, signalled, serves⟩ :=
      reachable.commands_serve_user 0 (.ui (.closeRequested (.page 0)))
    have closed := (serves.closes ⟨1⟩).2 ⟨_, rfl, shown⟩
    exact ⟨calls, signals, ⟨performs, signalled⟩, closed, serves.closing ⟨1⟩ closed⟩
  · obtain ⟨calls, signals, performs, signalled, serves⟩ :=
      reachable.commands_serve_user 0 (.ui (.pageChanged (some 0)))
    refine ⟨calls, signals, ⟨performs, signalled⟩, fun id activated => ?_⟩
    have hidden : launched.shell.overviewVisible = false := rfl
    rcases (serves.activates id).1 activated with ⟨_, clicked, _⟩ | ⟨_, _, visible, _⟩
    · cases clicked
    · cases hidden.symm.trans visible
  · obtain ⟨calls, signals, performs, signalled, serves⟩ :=
      reachable.commands_serve_user 0 (.ui (.clicked (.page 1)))
    have raised := (serves.raises ⟨"token"⟩).2 ⟨_, rfl, waits, by decide⟩
    refine ⟨calls, signals, ⟨performs, signalled⟩, raised, fun id activated => ?_⟩
    rcases (serves.activates id).1 activated with ⟨_, clicked, shows⟩ | ⟨_, turned, _⟩
    · cases clicked
      cases splash.symm.trans shows
    · cases turned
  · obtain ⟨calls, signals, performs, signalled, serves⟩ :=
      reachable.commands_serve_user 0 (.ui (.closeRequested (.page 1)))
    have unclosed id : .window (.close id) ∉ calls := fun closed => by
      obtain ⟨_, asked, shows⟩ := (serves.closes id).1 closed
      cases asked
      cases splash.symm.trans shows
    exact ⟨calls, signals, ⟨performs, signalled⟩, unclosed, (serves.notClosing unclosed).2⟩

end Switcher

end TaskSwitcher
