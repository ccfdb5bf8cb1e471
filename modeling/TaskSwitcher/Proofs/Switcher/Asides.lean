import TaskSwitcher.Proofs.Switcher.Congruence

/-!
# Asides

The arrival of pictures, inputs for the search field and the news that a launch is under way are asides:
what the overview does about everything else does not depend on them. `Resembles` says that two situations
show the same apart from what asides are about. Handling keeps it, and an aside on one side alone keeps it
too, so a run may be compared with the same run without its asides.
-/

namespace TaskSwitcher

/-- The command withdraws a request for a picture, or is for the search field. -/
def Call.isAside : Call → Bool
  | .thumbnailCancel _ | .gridReset | .gridFocusSearch | .gridSearch .. => true
  | _ => false

/-- The news bring a picture, are for the search field, or say that a launch is under way. -/
def Event.isAside : Event → Bool
  | .thumbnailReady .. | .launch ⟨.ready, _, _⟩ => true
  | .ui .reset | .ui .focusAppSearch | .ui (.search _) => true
  | _ => false

/-- An aside is handled. -/
def Happening.isAside : Happening → Bool
  | event _ news => news.isAside
  | _ => false

namespace Switcher

/-- How the handling of an event ends, if the happening is the handling of one. -/
def reply (switcher : Switcher) : Happening → Option Outcome
  | .event now event => some (switcher.handle now event).2
  | .next now => (switcher.handleNext now).map (·.1.outcome)
  | _ => none

/-- What happens one after the other, each with how it ends. -/
def replies (switcher : Switcher) : List Happening → List (Happening × Option Outcome)
  | [] => []
  | happening :: rest =>
      (happening, switcher.reply happening) :: (switcher.undergo happening).replies rest

/-- In situations that are alike a happening ends in the same way. -/
theorem Congruence.reply_eq {alike : Switcher → Switcher → Prop} (congruence : Congruence alike)
    {first second : Switcher} (same : alike first second) (happening : Happening) :
    first.reply happening = second.reply happening := by
  cases happening with
  | event now event => exact congrArg some (congruence.handle same now event).outcome
  | next now =>
      simp only [reply, handleNext]
      rw [congruence.device same]
      cases second.mailbox.waiting.head? with
      | none => rfl
      | some event =>
          exact congrArg some (congruence.handle (congruence.taken same) now event).outcome
  | _ => rfl

/-- Two runs of the same happenings that begin alike get the same replies and end alike. -/
theorem Congruence.replies_eq {alike : Switcher → Switcher → Prop} (congruence : Congruence alike)
    {first second : Switcher} (same : alike first second) (happenings : List Happening) :
    first.replies happenings = second.replies happenings ∧
      alike (first.undergoAll happenings) (second.undergoAll happenings) := by
  induction happenings generalizing first second with
  | nil => exact ⟨rfl, same⟩
  | cons happening rest inductionHypothesis =>
      obtain ⟨later, final⟩ := inductionHypothesis (congruence.undergo same happening)
      refine ⟨?_, final⟩
      rw [replies, congruence.reply_eq same, later, replies]

/-- Two situations show the same. Open are only whether a card has its picture and which one it waits for,
which requests for pictures were withdrawn, and what is in the search field. -/
structure Resembles (first second : Switcher) : Prop where
  /-- The windows with the commands given to them, the shell with its feedback, and the mailbox. -/
  device : first.toDevice = second.toDevice
  /-- The strip with its handles, its order and its references, and all of each card but its picture. -/
  cards : first.carousel.outline = second.carousel.outline
  launchTimeout : first.launchTimeout = second.launchTimeout
  signals : first.signals = second.signals
  splash : first.splash = second.splash
  apps : first.apps = second.apps
  nextRequest : first.thumbnailer.next = second.thumbnailer.next
  answering : first.thumbnailer.answering = second.thumbnailer.answering
  /-- The commands in their order, among them the requests for pictures with their numbers. -/
  calls : first.calls.filter (!·.isAside) = second.calls.filter (!·.isAside)

namespace Resembles

variable {first second third : Switcher}

/-- Every situation shows the same as itself. -/
theorem refl (switcher : Switcher) : switcher.Resembles switcher :=
  ⟨rfl, rfl, rfl, rfl, rfl, rfl, rfl, rfl, rfl⟩

/-- What shows the same in one direction does so in the other. -/
theorem symm (same : first.Resembles second) : second.Resembles first where
  device := same.device.symm
  cards := same.cards.symm
  launchTimeout := same.launchTimeout.symm
  signals := same.signals.symm
  splash := same.splash.symm
  apps := same.apps.symm
  nextRequest := same.nextRequest.symm
  answering := same.answering.symm
  calls := same.calls.symm

/-- Showing the same is handed on from one situation to the next. -/
theorem trans (same : first.Resembles second) (alsoSame : second.Resembles third) :
    first.Resembles third where
  device := same.device.trans alsoSame.device
  cards := same.cards.trans alsoSame.cards
  launchTimeout := same.launchTimeout.trans alsoSame.launchTimeout
  signals := same.signals.trans alsoSame.signals
  splash := same.splash.trans alsoSame.splash
  apps := same.apps.trans alsoSame.apps
  nextRequest := same.nextRequest.trans alsoSame.nextRequest
  answering := same.answering.trans alsoSame.answering
  calls := same.calls.trans alsoSame.calls

/-! ### What does not show -/

variable (switcher : Switcher)

/-- The withdrawal of a request does not show. -/
theorem cancelThumbnail (request : Option ThumbnailRequest) :
    (switcher.cancelThumbnail request).Resembles switcher := by
  cases request with
  | none => exact .refl switcher
  | some request =>
      refine ⟨rfl, rfl, rfl, rfl, rfl, rfl, rfl, rfl, ?_⟩
      simp [Switcher.cancelThumbnail, Call.isAside]

/-- A change of the picture of a card does not show. -/
theorem modify_of_hidden (handle : Handle) {change : Activity → Activity}
    (hidden : ∀ activity, (change activity).outline = activity.outline) :
    (switcher.mapCarousel (·.modify handle change)).Resembles switcher :=
  { Resembles.refl switcher with cards := switcher.carousel.outline_modify_of_hidden handle hidden }

/-- An aside does not show, and it does not fail. -/
theorem aside (now : Nat) {event : Event} (isAside : event.isAside = true) :
    (switcher.handle now event).1.Resembles switcher ∧ (switcher.handle now event).2 = .ok () := by
  have noted (grid : AppGrid) {call : Call} (dropped : call.isAside = true) :
      { switcher with grid, calls := switcher.calls ++ [call] }.Resembles switcher :=
    { Resembles.refl switcher with calls := by simp [dropped] }
  unfold Event.isAside at isAside
  split at isAside
  · exact ⟨.modify_of_hidden switcher _ fun activity => activity.outline_receive _, rfl⟩
  · exact ⟨.refl switcher, rfl⟩
  · exact ⟨noted _ rfl, rfl⟩
  · exact ⟨noted _ rfl, rfl⟩
  · exact ⟨noted _ rfl, rfl⟩
  · cases isAside

/-- An aside that is handled in both situations leaves them showing the same. -/
theorem asides (same : first.Resembles second) (now : Nat) (event : Event)
    (isAside : event.isAside = true) :
    (first.handle now event).1.Resembles (second.handle now event).1 :=
  (aside first now isAside).1.trans (same.trans (aside second now isAside).1.symm)

/-! ### What is done on both sides -/

variable (same : first.Resembles second)

include same

/-- A change that looks at no picture does the same to strips that show the same. -/
theorem mapCarousel {change : Carousel → Carousel} (blind : Carousel.Blind change) :
    (first.mapCarousel change).Resembles (second.mapCarousel change) :=
  { same with cards := blind _ _ same.cards }

/-- The same command is given on both sides. -/
theorem noting (call : Call) {one two : List Call} (notedOne : one = first.calls ++ [call])
    (notedTwo : two = second.calls ++ [call]) :
    one.filter (!·.isAside) = two.filter (!·.isAside) := by
  rw [notedOne, notedTwo, List.filter_append, same.calls, List.filter_append]

/-- A picture that is asked for in both situations has the same number. -/
theorem askThumbnail (handle : Handle) (window : WindowId) (size : Size) :
    (first.askThumbnail handle window size).Resembles (second.askThumbnail handle window size) := by
  have mailbox : first.thumbnailer.answer first.mailbox handle =
      second.thumbnailer.answer second.mailbox handle := by
    rw [Thumbnailer.answer, same.answering, same.device, same.nextRequest, Thumbnailer.answer]
  have request : ThumbnailRequest.mk (first.thumbnailer.upcoming + 1) =
      ThumbnailRequest.mk (second.thumbnailer.upcoming + 1) :=
    congrArg (fun request : ThumbnailRequest => ThumbnailRequest.mk (request.number + 1))
      same.nextRequest
  refine { same with device := ?_, nextRequest := request, calls := ?_ }
  · exact congrArg₂ (fun device mailbox => { device with mailbox }) same.device mailbox
  · refine same.noting (.thumbnailRequest second.thumbnailer.next handle window size) ?_ rfl
    rw [← same.nextRequest]
    rfl

/-- Both situations ask for the same picture, whatever request each of them withdraws for it. -/
theorem requestThumbnail (handle : Handle) :
    (first.requestThumbnail handle).Resembles (second.requestThumbnail handle) := by
  have waits (switcher : Switcher) (request : Option ThumbnailRequest) :
      (switcher.mapCarousel (·.modify handle (·.awaiting request))).Resembles switcher :=
    .modify_of_hidden switcher handle fun activity => activity.outline_awaiting request
  unfold Switcher.requestThumbnail
  rcases Carousel.get?_cases_of_outline_eq same.cards handle with
    ⟨one, two⟩ | ⟨one, two, foundOne, foundTwo, outlined⟩
  · rw [one, two]
    exact same
  · have shown : one.window? = two.window? := by
      rw [← one.window?_outline, outlined, two.window?_outline]
    have size : one.thumbnailSize = two.thumbnailSize := by
      rw [← one.thumbnailSize_outline, outlined, two.thumbnailSize_outline]
    have scale : first.pictureScale = second.pictureScale := by
      rw [pictureScale, same.device, pictureScale]
    rw [foundOne, foundTwo]
    dsimp only
    rw [shown, size, scale]
    split
    · exact same
    · have asked := same.askThumbnail handle
      -- Which request is withdrawn may differ, but that does not show.
      refine .trans (.cancelThumbnail ..) (.trans (waits ..) ?_)
      exact .trans (asked _ _) (.trans (waits ..).symm (Resembles.cancelThumbnail ..).symm)

/-- Both situations announce the same about whether there are cards. -/
theorem announceOccupancy : first.announceOccupancy.Resembles second.announceOccupancy := by
  have changes : first.carousel.changes = second.carousel.changes :=
    (congrArg Carousel.changes same.cards :
      first.carousel.outline.changes = second.carousel.outline.changes)
  refine { same with cards := ?_, signals := ?_ }
  · exact congrArg Carousel.drain same.cards
  · exact congrArg₂ (fun signals changes => signals ++ changes.map Signal.hasActivities)
      same.signals changes

/-- Both situations lose the same card, whatever request each of them withdraws for it. -/
theorem destroyActivity (handle : Handle) :
    (first.destroyActivity handle).Resembles (second.destroyActivity handle) := by
  unfold Switcher.destroyActivity
  rcases Carousel.get?_cases_of_outline_eq same.cards handle with
    ⟨one, two⟩ | ⟨one, two, foundOne, foundTwo, outlined⟩
  · rw [one, two]
    exact same
  · rw [foundOne, foundTwo]
    refine announceOccupancy ?_
    refine .trans (.cancelThumbnail ..) (.trans ?_ (Resembles.cancelThumbnail ..).symm)
    exact same.mapCarousel (.erase handle)

end Resembles

/-- What the asides are about is never looked at. -/
theorem congruence_resembles : Congruence Resembles where
  device := Resembles.device
  outline := Resembles.cards
  launchTimeout := Resembles.launchTimeout
  splash := Resembles.splash
  recognition same := congrArg AppDirectory.resolve same.apps
  mapCarousel blind same := same.mapCarousel blind
  request handle same := same.requestThumbnail handle
  destroy handle same := same.destroyActivity handle
  announce same := same.announceOccupancy
  emit signal same := { same with signals := congrArg (· ++ [signal]) same.signals }
  window command same := { same with
    device := congrArg (fun device : Device => { device with
      registry := (device.registry.perform command).1
      mailbox := device.mailbox.postAll ((device.registry.perform command).2.map .window) })
      same.device
    calls := same.noting (.window command) rfl rfl }
  splashCommand command same := { same with
    splash := congrArg (·.perform command) same.splash
    calls := same.noting (.splash command) rfl rfl }
  feedback name same := { same with
    device := congrArg (fun device : Device => { device with
      shell := device.shell.giveFeedback name }) same.device
    calls := same.noting (.feedback name) rfl rfl }
  resetGrid same := same.asides 0 (.ui .reset) rfl
  focusAppSearch same := same.asides 0 (.ui .focusAppSearch) rfl
  search input same := same.asides 0 (.ui (.search input)) rfl
  thumbnailReady handle request same := same.asides 0 (.thumbnailReady handle request) rfl
  collected same := { same with signals := rfl }
  withDevice _ same := { same with device := rfl }

/-! ### Runs -/

/-- Situations that resemble each other go through a happening with the same reply, and still resemble
each other. -/
theorem Resembles.undergo {first second : Switcher} (same : first.Resembles second)
    (happening : Happening) :
    first.reply happening = second.reply happening ∧
      (first.undergo happening).Resembles (second.undergo happening) :=
  ⟨congruence_resembles.reply_eq same happening, congruence_resembles.undergo same happening⟩

/-- A run and the same run without its asides reply in the same way to everything else, and end in
situations that resemble each other. -/
theorem Resembles.without_asides {first second : Switcher} (same : first.Resembles second)
    (happenings : List Happening) :
    (first.replies happenings).filter (!·.1.isAside) =
        second.replies (happenings.filter (!·.isAside)) ∧
      (first.undergoAll happenings).Resembles
        (second.undergoAll (happenings.filter (!·.isAside))) := by
  induction happenings generalizing first second with
  | nil => exact ⟨rfl, same⟩
  | cons happening rest inductionHypothesis =>
      cases kind : happening.isAside with
      | true =>
          have unseen : (first.undergo happening).Resembles second := by
            cases happening with
            | event now event => exact (aside first now kind).1.trans same
            | _ => cases kind
          obtain ⟨replies, final⟩ := inductionHypothesis unseen
          rw [List.filter_cons_of_neg (by simp [kind])]
          refine ⟨?_, final⟩
          rw [Switcher.replies, List.filter_cons_of_neg (by simp [kind])]
          exact replies
      | false =>
          obtain ⟨reply, next⟩ := same.undergo happening
          obtain ⟨replies, final⟩ := inductionHypothesis next
          rw [List.filter_cons_of_pos (by simp [kind])]
          refine ⟨?_, final⟩
          rw [Switcher.replies, List.filter_cons_of_pos (by simp [kind]), Switcher.replies, reply,
            replies]

/-- Asides do not interfere with anything else. Whatever happens to an overview, leaving out the asides
changes neither how the handling of any other event ends nor what is shown, announced, commanded or asked
for in the end. -/
theorem asides_do_not_interfere (switcher : Switcher) (happenings : List Happening) :
    let others := happenings.filter (!·.isAside)
    (switcher.replies happenings).filter (!·.1.isAside) = switcher.replies others ∧
      (switcher.undergoAll happenings).Resembles (switcher.undergoAll others) :=
  (Resembles.refl switcher).without_asides happenings

end Switcher

end TaskSwitcher
