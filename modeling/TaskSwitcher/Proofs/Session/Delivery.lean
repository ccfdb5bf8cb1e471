import TaskSwitcher.Proofs.Session.Course
import TaskSwitcher.Proofs.Session.Relay
import TaskSwitcher.Proofs.Switcher.Pictures

/-!
# No answer of the maker of pictures is lost

As long as the mailbox is open, whatever else happens, the answer to the request that a card waits for
waits in the mailbox. When nothing waits there, no card waits for a picture either, and every card that
ever asked for a picture has one.
-/

namespace TaskSwitcher.Switcher

/-- One thing that happens: the overview is given an event, takes the oldest one from the mailbox, looks at
the registry or has its announcements collected, or the device changes without it. Of the device nothing
is asked but that the mailbox stays open and keeps what waits in it. -/
inductive Move (before : Switcher) : Switcher → Prop where
  | given (now : Nat) (event : Event) : Move before (before.handle now event).1
  | next {handled : Handled} {after : Switcher} (now : Nat)
      (served : before.handleNext now = some (handled, after)) : Move before after
  | sync : Move before before.syncWindows
  | collect : Move before before.collected
  | device (device : Device) (isOpen : device.mailbox.isOpen = true)
      (keeps : before.mailbox.waiting <+: device.mailbox.waiting) :
      Move before { before with toDevice := device }

/-- The situations of an overview whose maker of pictures answers into an open mailbox. It starts without
cards and without requests. -/
inductive Wired : Switcher → Prop where
  | start {parts : Switcher} (noCards : parts.carousel = {})
      (isOpen : parts.mailbox.isOpen = true) (answering : parts.thumbnailer.answering = true)
      (settled : parts.thumbnailer.pending = []) : Wired parts
  | move {before after : Switcher} (wired : Wired before) (move : Move before after) : Wired after

/-- One or more moves, after each of which the card of the handle is there. -/
inductive Lasts (handle : Handle) (before : Switcher) : Switcher → Prop where
  | first {after : Switcher} (move : Move before after)
      (present : after.carousel.contains handle = true) : Lasts handle before after
  | next {middle after : Switcher} (lasts : Lasts handle before middle) (move : Move middle after)
      (present : after.carousel.contains handle = true) : Lasts handle before after

variable {switcher before after : Switcher} {handle : Handle}

/-- With an open mailbox a step of a scenario is a change of the device that keeps what waits. -/
theorem Move.step (isOpen : before.mailbox.isOpen = true) (step : ScenarioStep) :
    Move before (before.applyStep step).1 := by
  have relays : Device.Relays (fun _ _ => True) before.toDevice (before.applyStep step).1.toDevice :=
    Device.relays_applyStep step fun _ _ => trivial
  exact .device _ (relays.isOpen_eq.trans isOpen) relays.waiting_prefix

/-- Whatever happens, each picture that is waited for is still to come. -/
theorem Move.answered (move : Move before after) (answered : before.Answered []) :
    after.Answered [] := by
  cases move with
  | given now event => exact (answered.mono (List.nil_subset [event])).handle now
  | @next handled _ now served =>
      obtain ⟨rest, waiting, served⟩ := (handleNext_eq_some_iff ..).1 served
      -- The event that was taken counts as long as it was not handled.
      have taken : before.taken.Answered [handled.event] := by
        refine { answered with awaited := fun handle picture request known waits => ?_ }
        have awaited := answered.awaited handle picture request known waits
        rw [List.nil_append, waiting] at awaited
        simpa [Switcher.taken, waiting] using awaited
      have settled := taken.handle now
      rwa [served] at settled
  | sync => exact answered.deeds before.deeds_syncWindows
  | collect => exact { answered with }
  | device device isOpen keeps =>
      exact { answered with
        isOpen := isOpen
        awaited := fun handle picture request known waits =>
          keeps.subset (answered.awaited handle picture request known waits) }

/-- In a wired overview each picture that is waited for waits in the mailbox. -/
theorem Wired.answered (wired : Wired switcher) : switcher.Answered [] := by
  induction wired with
  | start noCards isOpen answering settled =>
      refine ⟨noCards ▸ Carousel.valid_empty, isOpen, answering, settled, ?_⟩
      intro handle picture request known waits
      obtain ⟨activity, found, -⟩ := (Carousel.viewOf?_eq_some_iff ..).1 known
      rw [noCards, ← Carousel.Valid.mem_entries_iff Carousel.valid_empty] at found
      cases found
  | move _ move inductionHypothesis => exact move.answered inductionHypothesis

/-- A card that is there after a move has its picture or waits for it, if it did so before the move or the
picture was asked for during the move. -/
theorem Move.keepsPromise (move : Move before after) (valid : before.carousel.Valid)
    (present : after.carousel.contains handle = true) : KeepsPromise handle before after := by
  have handled {switcher : Switcher} (valid : switcher.carousel.Valid) {now : Nat} {event : Event}
      (present : (switcher.handle now event).1.carousel.contains handle = true) :
      KeepsPromise handle switcher (switcher.handle now event).1 := by
    rcases switcher.handle_cases now event with ⟨activity, request, rfl⟩ | deeds | clears
    · exact .thumbnailReady switcher activity request
    · exact .deeds valid deeds
    · exact .clears clears present
  have same (device : Device) : KeepsPromise handle before { before with toDevice := device } :=
    ⟨id, [], (List.append_nil _).symm, fun _ _ _ none => nomatch none⟩
  cases move with
  | given now event => exact handled valid present
  | next now served =>
      obtain ⟨rest, waiting, served⟩ := (handleNext_eq_some_iff ..).1 served
      have first : KeepsPromise handle before before.taken := same before.taken.toDevice
      obtain rfl := congrArg Prod.fst served
      have validTaken : before.taken.carousel.Valid := valid
      exact first.trans (handled validTaken present)
  | sync => exact .deeds valid before.deeds_syncWindows
  | collect => exact ⟨id, [], (List.append_nil _).symm, fun _ _ _ none => nomatch none⟩
  | device device isOpen keeps => exact same device

/-- While a card is there, no picture is lost to it between two moments. -/
theorem Lasts.keepsPromise (lasts : Lasts handle before after) (wired : Wired before) :
    Wired after ∧ KeepsPromise handle before after := by
  induction lasts with
  | first move present =>
      exact ⟨wired.move move, move.keepsPromise wired.answered.valid present⟩
  | next _ move present inductionHypothesis =>
      obtain ⟨wiredMiddle, earlier⟩ := inductionHypothesis
      have later := move.keepsPromise wiredMiddle.answered.valid present
      exact ⟨wiredMiddle.move move, earlier.trans later⟩

namespace Wired

variable {activity : Activity} {request : ThumbnailRequest}

/-- The answer that a card waits for waits in the mailbox. -/
theorem mem_waiting (wired : Wired switcher) (found : switcher.carousel.get? handle = some activity)
    (waits : activity.pending? = some request) :
    .thumbnailReady handle request ∈ switcher.mailbox.waiting := by
  have known : switcher.carousel.pictureOf? handle = some ⟨activity.hasThumbnail, some request⟩ :=
    (Carousel.viewOf?_eq_some_iff ..).2
      ⟨activity, found, activity.picture_of_pending?_eq_some waits⟩
  exact wired.answered.awaited handle _ request known rfl

/-- When nothing waits in the mailbox no card waits for a picture. -/
theorem pending?_eq_none (wired : Wired switcher) (quiet : switcher.mailbox.waiting = [])
    (found : switcher.carousel.get? handle = some activity) : activity.pending? = none := by
  cases waits : activity.pending? with
  | none => rfl
  | some request =>
      have waiting := wired.mem_waiting found waits
      rw [quiet] at waiting
      cases waiting

/-- When nothing waits, the pictures that are expected are there. -/
theorem hasThumbnail_of_pictured (wired : Wired switcher) (quiet : switcher.mailbox.waiting = [])
    (pictured : switcher.Pictured handle) :
    ∃ activity, switcher.carousel.get? handle = some activity ∧ activity.hasThumbnail = true := by
  obtain ⟨picture, known, expected⟩ := pictured
  obtain ⟨activity, found, shown⟩ := (Carousel.viewOf?_eq_some_iff ..).1 known
  obtain ⟨window, -, rfl⟩ := Option.map_eq_some_iff.1 shown
  refine ⟨activity, found, ?_⟩
  rcases expected with taken | pending
  · exact taken
  · change activity.pending?.isSome = true at pending
    rw [wired.pending?_eq_none quiet found] at pending
    cases pending

/-- The answer to the request that a card waits for always waits in the mailbox. So when nothing waits
there, no card waits for a picture, no request is left with the maker of pictures, and a card has its
picture if one was asked for since some moment after which the card has been there all the time. -/
theorem answers_wait (wired : Wired switcher) :
    (∀ handle activity request, switcher.carousel.get? handle = some activity →
        activity.pending? = some request →
        .thumbnailReady handle request ∈ switcher.mailbox.waiting) ∧
      (switcher.mailbox.waiting = [] →
        (∀ handle activity, switcher.carousel.get? handle = some activity →
          activity.pending? = none) ∧
        switcher.thumbnailer.pending = [] ∧
        ∀ handle before, Wired before → Lasts handle before switcher →
          ∀ request window size,
            .thumbnailRequest request handle window size ∈ switcher.calls.drop before.calls.length →
            ∃ activity, switcher.carousel.get? handle = some activity ∧
              activity.hasThumbnail = true) := by
  refine ⟨fun handle activity request found waits => wired.mem_waiting found waits, fun quiet => ?_⟩
  refine ⟨fun handle activity found => wired.pending?_eq_none quiet found,
    wired.answered.settled, ?_⟩
  intro handle before wiredBefore lasts request window size given
  obtain ⟨calls, journal, asked⟩ := (lasts.keepsPromise wiredBefore).2.made
  rw [journal, List.drop_left] at given
  exact wired.hasThumbnail_of_pictured quiet (asked request window size given)

end Wired

/-- The picture of a window that has changed is asked for, and is there after its answer was handled. -/
theorem picture_of_calls_arrives :
    let opened := (assemble {} true [Scenario.callsWindow] none).syncWindows
    let asked := (opened.handle 0 (.window (.changed Scenario.callsWindow))).1
    let shown := (asked.taken.handle 0 (.thumbnailReady ⟨1, 1⟩ ⟨1⟩)).1
    asked.mailbox.waiting = [.thumbnailReady ⟨1, 1⟩ ⟨1⟩] ∧ shown.mailbox.waiting = [] ∧
      ∃ activity, shown.carousel.get? ⟨1, 1⟩ = some activity ∧ activity.hasThumbnail = true := by
  intro opened asked shown
  have waiting : asked.mailbox.waiting = [.thumbnailReady ⟨1, 1⟩ ⟨1⟩] := by decide +kernel
  have quiet : shown.mailbox.waiting = [] := by decide +kernel
  have asking : Move opened asked := .given 0 (.window (.changed Scenario.callsWindow))
  have showing : Move asked shown :=
    .next 0 ((handleNext_eq_some_iff asked shown 0 ⟨_, _⟩).2 ⟨[], waiting, rfl⟩)
  have wired : Wired opened := .move (.start rfl rfl rfl rfl) .sync
  have lasts : Lasts ⟨1, 1⟩ opened shown :=
    .next (.first asking (by decide +kernel)) showing (by decide +kernel)
  have arrives := ((wired.move asking).move showing).answers_wait.2 quiet
  refine ⟨waiting, quiet, arrives.2.2 ⟨1, 1⟩ opened wired lasts ⟨1⟩ ⟨1⟩ ?_ ?_⟩
  · exact opened.shell.usableArea.scaled opened.pictureScale
  · decide +kernel

end TaskSwitcher.Switcher
