import TaskSwitcher.Proofs.Switcher.Congruence
import TaskSwitcher.Proofs.Switcher.Expiry
import TaskSwitcher.Service

/-!
# Sweeps between the events

While the service handles the events that it receives, it looks from time to time for launches that wait
too long. Such a sweep may come before, between or behind the events. Sweeps are not counted and never
fail; and a sweep that finds no late launch does nothing at all, so that it may as well be left out.
-/

namespace TaskSwitcher

/-- The moment at which the launch began that the card waits for. -/
def Activity.startedAt? (activity : Activity) : Option Nat :=
  match activity.phase with
  | .launching _ startedAt => some startedAt
  | .running .. => none

/-- The service handles what it receives in the order of arrival, and sweeps whenever it likes, also after
the last event. Each event comes with the time at which it is handled. -/
inductive Interleaving : List (Nat × Event) → List (Nat × Event) → Prop where
  | done : Interleaving [] []
  | receive {received dispatched : List (Nat × Event)} (rest : Interleaving received dispatched)
      (now : Nat) (event : Event) :
      Interleaving ((now, event) :: received) ((now, event) :: dispatched)
  | sweep {received dispatched : List (Nat × Event)} (rest : Interleaving received dispatched)
      (now : Nat) : Interleaving received ((now, .tick now) :: dispatched)

/-- Everything that was received and counts is handled, in the order of arrival, and nothing else that
counts. -/
theorem Interleaving.filter_counts {received dispatched : List (Nat × Event)}
    (interleaving : Interleaving received dispatched) :
    dispatched.filter (·.2.counts) = received.filter (·.2.counts) := by
  induction interleaving with
  | done => rfl
  | receive rest now event inductionHypothesis =>
      rw [List.filter_cons, inductionHypothesis, List.filter_cons]
  | sweep rest now inductionHypothesis => exact inductionHypothesis

namespace Switcher

variable (switcher : Switcher)

/-- The events that the service handles, each with how that ends. -/
def handlings (switcher : Switcher) : List (Nat × Event) → List Handled
  | [] => []
  | (now, event) :: rest =>
      ⟨event, (switcher.handle now event).2⟩ :: (switcher.handle now event).1.collected.handlings rest

/-- Everything that is dispatched is handled, in the order in which it is dispatched. -/
theorem map_event_handlings (dispatched : List (Nat × Event)) :
    (switcher.handlings dispatched).map (·.event) = dispatched.map (·.2) := by
  induction dispatched generalizing switcher with
  | nil => rfl
  | cons first rest inductionHypothesis =>
      rw [handlings, List.map_cons, inductionHypothesis, List.map_cons]

/-- Only what counts can fail. -/
theorem handle_of_not_counts (now : Nat) {event : Event} (uncounted : event.counts = false) :
    (switcher.handle now event).2 = .ok () := by
  cases event with
  | tick moment => rfl
  | _ => cases uncounted

/-! ### What the report says -/

/-- The report counts as processed what counts of the events, whether it failed or not. -/
theorem processed_serve (dispatched : List (Nat × Event)) :
    (switcher.serve dispatched).2.processed = dispatched.countP (·.2.counts) := by
  induction dispatched generalizing switcher with
  | nil => rfl
  | cons first rest inductionHypothesis =>
      rw [serve, List.countP_cons]
      exact congrArg (· + _) (inductionHypothesis _)

/-- The report counts as failed the handlings that failed of events that count. -/
theorem failed_serve (dispatched : List (Nat × Event)) :
    (switcher.serve dispatched).2.failed =
      (switcher.handlings dispatched).countP fun handled =>
        handled.event.counts && !handled.outcome.isOk := by
  induction dispatched generalizing switcher with
  | nil => rfl
  | cons first rest inductionHypothesis =>
      obtain ⟨now, event⟩ := first
      have fails : (event.counts && !(switcher.handle now event).2.isOk) =
          !(switcher.handle now event).2.isOk := by
        cases counts : event.counts with
        | true => rfl
        | false =>
            rw [switcher.handle_of_not_counts now counts]
            rfl
      rw [serve, handlings, List.countP_cons, fails]
      refine congrArg₂ (· + ·) (inductionHypothesis _) ?_
      cases (switcher.handle now event).2.isOk <;> rfl

/-- The report counts the cards at the end. -/
theorem activities_serve (dispatched : List (Nat × Event)) :
    (switcher.serve dispatched).2.activities = (switcher.serve dispatched).1.carousel.length := by
  induction dispatched generalizing switcher with
  | nil => rfl
  | cons first rest inductionHypothesis => exact inductionHypothesis _

/-! ### Announcements are never looked at -/

section

variable {first second : Switcher}

/-- A question to which collecting makes no difference does not tell the two situations apart. -/
theorem asked_of_collected_eq {β : Type} (question : Switcher → β)
    (silent : ∀ switcher, question switcher.collected = question switcher)
    (same : first.collected = second.collected) : question first = question second := by
  rw [← silent first, same, silent second]

/-- Doing something after the announcements were collected makes no difference but for them. -/
theorem collected_eq_of_silent (change : Switcher → Switcher)
    (silent : ∀ switcher, (change switcher.collected).collected = (change switcher).collected)
    (same : first.collected = second.collected) :
    (change first).collected = (change second).collected := by
  rw [← silent first, same, silent second]

/-- Calling off the same picture in both situations leaves no other difference between them. -/
theorem collected_cancelThumbnail (same : first.collected = second.collected)
    (request : Option ThumbnailRequest) :
    (first.cancelThumbnail request).collected = (second.cancelThumbnail request).collected := by
  cases request with
  | none => exact same
  | some request =>
      exact collected_eq_of_silent (·.cancelThumbnail (some request)) (fun _ => rfl) same

/-- Whether a picture is asked for does not depend on what is announced. -/
theorem collected_requestThumbnail (handle : Handle) :
    (switcher.collected.requestThumbnail handle).collected =
      (switcher.requestThumbnail handle).collected := by
  unfold requestThumbnail
  have same : switcher.collected.carousel = switcher.carousel := rfl
  rw [same]
  split
  · rfl
  · split
    · rfl
    · exact collected_cancelThumbnail (by rfl) _

/-- Whether a card is taken off does not depend on what is announced. -/
theorem collected_destroyActivity (handle : Handle) :
    (switcher.collected.destroyActivity handle).collected =
      (switcher.destroyActivity handle).collected := by
  unfold destroyActivity
  have same : switcher.collected.carousel = switcher.carousel := rfl
  rw [same]
  split
  · rfl
  · next activity _ =>
      refine collected_eq_of_silent announceOccupancy (fun _ => rfl) ?_
      exact collected_cancelThumbnail (by rfl) activity.pending?

/-- Two situations that differ in what is announced stay so, whatever is done to both of them. -/
theorem congruence_collected : Congruence (·.collected = ·.collected) where
  device := asked_of_collected_eq toDevice fun _ => rfl
  outline := asked_of_collected_eq (·.carousel.outline) fun _ => rfl
  launchTimeout := asked_of_collected_eq launchTimeout fun _ => rfl
  splash := asked_of_collected_eq splash fun _ => rfl
  recognition := asked_of_collected_eq (·.apps.resolve) fun _ => rfl
  mapCarousel _ := collected_eq_of_silent (·.mapCarousel _) fun _ => rfl
  request handle :=
    collected_eq_of_silent (·.requestThumbnail handle) (collected_requestThumbnail · handle)
  destroy handle :=
    collected_eq_of_silent (·.destroyActivity handle) (collected_destroyActivity · handle)
  announce := collected_eq_of_silent announceOccupancy fun _ => rfl
  emit signal := collected_eq_of_silent (·.emit signal) fun _ => rfl
  window command := collected_eq_of_silent (·.commandWindow command) fun _ => rfl
  splashCommand command := collected_eq_of_silent (·.commandSplash command) fun _ => rfl
  feedback name := collected_eq_of_silent (·.giveFeedback name) fun _ => rfl
  resetGrid := collected_eq_of_silent resetGrid fun _ => rfl
  focusAppSearch := collected_eq_of_silent focusAppSearch fun _ => rfl
  search input := collected_eq_of_silent (fun switcher => (switcher.search input).1) fun _ => rfl
  thumbnailReady handle request :=
    collected_eq_of_silent (·.thumbnailReady handle request) fun _ => rfl
  collected := id
  withDevice device := collected_eq_of_silent (fun switcher => { switcher with toDevice := device })
    fun _ => rfl

end

/-! ### Sweeps that come in time -/

/-- At this moment no launch that still waits for its window has waited for the timeout. A clock that reads
earlier than the start counts as no time passed. -/
def NoneLate (switcher : Switcher) (moment : Nat) : Prop :=
  ∀ timeout ∈ switcher.launchTimeout, ∀ entry ∈ switcher.carousel.entries,
    ∀ startedAt ∈ entry.2.startedAt?, moment - startedAt < timeout

instance decidableNoneLate (switcher : Switcher) : DecidablePred switcher.NoneLate := fun moment =>
  inferInstanceAs (Decidable (∀ timeout ∈ switcher.launchTimeout,
    ∀ entry ∈ switcher.carousel.entries, ∀ startedAt ∈ entry.2.startedAt?,
      moment - startedAt < timeout))

/-- No sweep between the events finds a late launch. What is received is not restricted, even if it tells
of a moment itself. -/
inductive Timely : Switcher → List (Nat × Event) → List (Nat × Event) → Prop where
  | done (switcher : Switcher) : Timely switcher [] []
  | receive {switcher : Switcher} {received dispatched : List (Nat × Event)} (now : Nat)
      (event : Event) (rest : Timely (switcher.handle now event).1.collected received dispatched) :
      Timely switcher ((now, event) :: received) ((now, event) :: dispatched)
  | sweep {switcher : Switcher} {received dispatched : List (Nat × Event)} {now : Nat}
      (noneLate : switcher.NoneLate now)
      (rest : Timely (switcher.handle now (.tick now)).1.collected received dispatched) :
      Timely switcher received ((now, .tick now) :: dispatched)

/-- A sweep that finds no late launch does nothing. -/
theorem handle_tick_of_noneLate {moment : Nat} (noneLate : switcher.NoneLate moment) :
    switcher.expireLaunches moment = switcher := by
  cases limited : switcher.launchTimeout with
  | none => simp only [expireLaunches, limited]
  | some timeout =>
      refine (expireLaunches_of_none_overdue limited fun entry member overdue => ?_).1
      obtain ⟨startupId, startedAt, phase, late⟩ := overdue
      have started : entry.2.startedAt? = some startedAt := by
        rw [Activity.startedAt?, phase]
      have early := noneLate timeout limited entry member startedAt started
      omega

/-- No event sets another timeout. -/
theorem launchTimeout_handle (now : Nat) (event : Event) :
    (switcher.handle now event).1.launchTimeout = switcher.launchTimeout := by
  obtain ⟨calls, performs⟩ := switcher.exists_performs_handle now event
  refine performs.keeps launchTimeout (fun _ _ _ => rfl) fun switcher call => ?_
  cases call <;> rfl

/-- Without a timeout all sweeps come in time. -/
theorem timely_of_unlimited {switcher : Switcher} (unlimited : switcher.launchTimeout = none)
    {received dispatched : List (Nat × Event)} (interleaving : Interleaving received dispatched) :
    switcher.Timely received dispatched := by
  induction interleaving generalizing switcher with
  | done => exact .done switcher
  | receive rest now event inductionHypothesis =>
      have stays := (switcher.launchTimeout_handle now event).trans unlimited
      exact .receive now event (inductionHypothesis stays)
  | sweep rest now inductionHypothesis =>
      have stays := (switcher.launchTimeout_handle now (.tick now)).trans unlimited
      refine .sweep (fun timeout limited => ?_) (inductionHypothesis stays)
      rw [unlimited] at limited
      cases limited

/-- If all sweeps come in time, the service might as well have handled only what it received. -/
theorem serve_eq_of_timely {first second : Switcher} (same : first.collected = second.collected)
    {received dispatched : List (Nat × Event)} (timely : first.Timely received dispatched) :
    (first.serve dispatched).2 = (second.serve received).2 ∧
      (first.serve dispatched).1.collected = (second.serve received).1.collected := by
  induction timely generalizing second with
  | done switcher =>
      have cards := asked_of_collected_eq (·.carousel.length) (fun _ => rfl) same
      exact ⟨congrArg (Report.mk 0 0) cards, same⟩
  | receive now event rest inductionHypothesis =>
      have handled := congruence_collected.handle same now event
      obtain ⟨report, final⟩ := inductionHypothesis
        (congrArg Switcher.collected handled.situation)
      refine ⟨?_, final⟩
      rw [serve, serve, report, handled.outcome]
  | @sweep switcher received dispatched now noneLate rest inductionHypothesis =>
      have idle := switcher.handle_tick_of_noneLate noneLate
      have collected : ((switcher.handle now (.tick now)).1.collected).collected =
          second.collected := by
        rw [handle, idle]
        exact same
      exact inductionHypothesis collected

/-- Whenever the service sweeps while it handles what it received, it loses nothing. Its report counts
everything received that counts, those of them that failed at their turn, and the cards in the end. If there
is no timeout, or all sweeps come in time, then the report and the situation in the end, up to
announcements, are those of handling alone what was received. -/
theorem service_loses_nothing (switcher : Switcher) {received dispatched : List (Nat × Event)}
    (interleaving : Interleaving received dispatched) :
    let handlings := switcher.handlings dispatched
    let served := switcher.serve dispatched
    let alone := switcher.serve received
    (handlings.filter (·.event.counts)).map (·.event) =
        (received.filter (·.2.counts)).map (·.2) ∧
      served.2.processed = received.countP (·.2.counts) ∧
      ((∀ entry ∈ received, entry.2.counts = true) → served.2.processed = received.length) ∧
      served.2.failed =
        handlings.countP (fun handled => handled.event.counts && !handled.outcome.isOk) ∧
      served.2.activities = served.1.carousel.length ∧
      (switcher.launchTimeout = none ∨ switcher.Timely received dispatched →
        served.2 = alone.2 ∧ served.1.collected = alone.1.collected) := by
  intro handlings served alone
  have handled : (handlings.filter (·.event.counts)).map (·.event) =
      (received.filter (·.2.counts)).map (·.2) := by
    have events := congrArg (List.filter Event.counts) (switcher.map_event_handlings dispatched)
    rw [List.filter_map, List.filter_map] at events
    rw [← interleaving.filter_counts]
    exact events
  have processed : served.2.processed = received.countP (·.2.counts) := by
    rw [processed_serve, List.countP_eq_length_filter, interleaving.filter_counts,
      ← List.countP_eq_length_filter]
  refine ⟨handled, processed, fun all => ?_, switcher.failed_serve dispatched,
    switcher.activities_serve dispatched, fun inTime => ?_⟩
  · rw [processed, List.countP_eq_length]
    exact all
  · have timely : switcher.Timely received dispatched :=
      inTime.elim (timely_of_unlimited · interleaving) id
    exact serve_eq_of_timely rfl timely

/-- Sweeps come between a launch and its window, one moment before the launch is late, and later on. -/
theorem sweeps_around_calls :
    let parts := assemble {} false [] (some 10)
    let launched : Event := .launch ⟨.started, "org.gnome.Calls", ⟨"calls-1"⟩⟩
    let opened : Event := .window (.added Scenario.callsWindow)
    let unknown : Event := .window (.closed ⟨9⟩)
    let received := [(0, launched), (9, opened), (20, unknown)]
    let dispatched :=
      [(0, launched), (9, .tick 9), (9, opened), (20, .tick 20), (20, unknown), (30, .tick 30)]
    Interleaving received dispatched ∧ parts.Timely received dispatched ∧
      (parts.serve dispatched).2 = { processed := 3, failed := 1, activities := 1 } ∧
      (parts.serve dispatched).1.collected = (parts.serve received).1.collected := by
  intro parts launched opened unknown received dispatched
  have interleaving : Interleaving received dispatched := by
    apply Interleaving.receive
    apply Interleaving.sweep
    apply Interleaving.receive
    apply Interleaving.sweep
    apply Interleaving.receive
    exact .sweep .done 30
  have timely : parts.Timely received dispatched := by
    apply Timely.receive
    apply Timely.sweep (by decide +kernel)
    apply Timely.receive
    apply Timely.sweep (by decide +kernel)
    apply Timely.receive
    exact .sweep (by decide +kernel) (.done _)
  obtain ⟨-, -, -, -, -, sameAsAlone⟩ := service_loses_nothing parts interleaving
  obtain ⟨report, final⟩ := sameAsAlone (.inr timely)
  have counted : (parts.serve received).2 = { processed := 3, failed := 1, activities := 1 } := by
    decide +kernel
  exact ⟨interleaving, timely, report.trans counted, final⟩

end Switcher

end TaskSwitcher
