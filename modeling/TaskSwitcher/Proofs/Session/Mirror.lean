import TaskSwitcher.Proofs.Session.Projection
import TaskSwitcher.Proofs.Switcher.Looks

/-!
# Cards mirror their windows

The registry and the cards may say different things of a window only as long as reports wait: taken in
their order, the waiting reports lead from the looks that the cards give their windows to the looks that
the registry has. Showing the full screen on a card before its window has changed does no harm to this. For
if no waiting report speaks of the window, the registry's own record was changed at the same time, and if
one does, whatever the card shows meanwhile is forgotten.
-/

namespace TaskSwitcher

/-- The registry knows the window of a report, and news about the activation say nothing else that the
registry does not say itself. -/
def Registry.Repeats (registry : Registry) (report : WindowEvent) : Prop :=
  registry.Knows report ∧ ∀ window, report = .activatedChanged window →
    registry.looks window.id = some window.look

/-- What waits in the mailbox leads from the looks that are known to those of the registry. -/
def Device.Reflects (device : Device) (known : WindowId → Option Look) : Prop :=
  device.mailbox.waiting.foldl looksAfter known = device.registry.looks

namespace Device

variable {before after : Device} {shown : Finset WindowId} {known : WindowId → Option Look}

/-- One change of the device keeps the promise: a look that changes is reported behind everything. -/
theorem Relay.reflects (relay : Relay Registry.Repeats before after)
    (inStep : before.InStep shown) (reflects : before.Reflects known) : after.Reflects known := by
  have joined (events : List Event) :
      (before.mailbox.postAll events).waiting.foldl looksAfter known =
        events.foldl looksAfter before.registry.looks := by
    rw [Mailbox.waiting_postAll _ _ inStep.isOpen, List.foldl_append, reflects]
  cases relay with
  | shell shell => exact reflects
  | aside event unrelated =>
      refine (joined [event]).trans ?_
      cases event with
      | window report => exact unrelated.elim
      | _ => rfl
  | report report accepted =>
      refine (joined [.window report]).trans ?_
      exact (before.registry.looks_learn accepted.2).symm
  | command command =>
      refine (joined _).trans ?_
      rw [before.registry.snd_perform inStep.echoing]
      exact Registry.foldl_echo inStep.distinct command

/-- Any changes of the device keep the promise that what waits leads to the looks of the registry. -/
theorem Relays.reflects (relays : Relays Registry.Repeats before after)
    (inStep : before.InStep shown) (reflects : before.Reflects known) : after.Reflects known :=
  relays.keeps inStep (fun _ _ => And.left) Relay.reflects reflects

end Device

namespace Switcher

variable {switcher : Switcher} {shown : Finset WindowId}

/-- A step that tells the registry of a window gives it a report that it accepts. -/
def Faithful (switcher : Switcher) (step : ScenarioStep) : Prop :=
  ∀ report, step.window = some report → switcher.registry.Repeats report

/-! ### The full screen at once -/

/-- The card shows the full screen at once, and the registry is told to change its record. -/
theorem reflects_fullscreenRequested (reachable : switcher.Reachable)
    (inStep : switcher.toDevice.InStep shown)
    (reflects : switcher.toDevice.Reflects switcher.carousel.looks) (reference : ActivityRef)
    (fullscreen : Bool) :
    (switcher.fullscreenRequested reference fullscreen).1.toDevice.Reflects
      (switcher.fullscreenRequested reference fullscreen).1.carousel.looks := by
  have properAfter : (switcher.fullscreenRequested reference fullscreen).1.carousel.Proper :=
    (reachable.handle 0 (.ui (.fullscreenRequested reference fullscreen))).proper
  rcases switcher.fullscreenRequested_cases reference fullscreen with
    unchanged | ⟨handle, activity, id, found, shows, passedOn⟩
  · rwa [unchanged]
  · rw [passedOn] at properAfter ⊢
    have commanded : Device.Relay Registry.Repeats switcher.toDevice
        ((switcher.mapCarousel (·.modify handle (·.withFullscreen fullscreen))).commandWindow
          (.fullscreen id fullscreen)).toDevice := .command (.fullscreen id fullscreen)
    have looks : (switcher.carousel.modify handle (·.withFullscreen fullscreen)).looks =
        Function.update switcher.carousel.looks id
          (some (activity.look.withFullscreen fullscreen)) :=
      reachable.proper.looks_withFullscreen properAfter found shows
    have former := reachable.proper.looks_of_get? found shows
    have told : (switcher.registry.perform (.fullscreen id fullscreen)).1.looks =
        Function.update switcher.registry.looks id
          ((switcher.registry.looks id).map (·.withFullscreen fullscreen)) :=
      switcher.registry.looks_perform (.fullscreen id fullscreen)
    refine foldl_looksAfter_eq (commanded.reflects inStep reflects) fun asked agreed => ?_
    change (switcher.carousel.modify handle (·.withFullscreen fullscreen)).looks asked =
      (switcher.registry.perform (.fullscreen id fullscreen)).1.looks asked
    change switcher.carousel.looks asked =
      (switcher.registry.perform (.fullscreen id fullscreen)).1.looks asked at agreed
    rw [looks, ← agreed]
    by_cases same : asked = id
    · subst same
      rw [former, told, Function.update_self] at agreed
      -- The card agrees with the changed record, so it showed what was asked for already.
      obtain ⟨record, registered, equal⟩ := Option.map_eq_some_iff.1 agreed.symm
      rw [Function.update_self, former, ← equal]
      rfl
    · rw [Function.update_of_ne same]

/-! ### Along a session -/

/-- A look at the registry brings the looks of the cards nearer to where the reports lead. -/
theorem reflects_syncWindows (proper : switcher.carousel.Proper)
    (inStep : switcher.toDevice.InStep shown)
    (reflects : switcher.toDevice.Reflects switcher.carousel.looks) :
    switcher.syncWindows.toDevice.Reflects switcher.syncWindows.carousel.looks := by
  refine switcher.relays_syncWindows.reflects inStep ?_
  refine foldl_looksAfter_eq reflects fun id agreed => ?_
  rw [looks_syncWindows proper inStep.distinct, agreed]
  cases switcher.registry.looks id <;> rfl

/-- Handling the oldest event keeps the promise, as the cards take the look that it reports. -/
theorem reflects_next {after : Switcher} {handled : Handled} {now : Nat}
    (reachable : switcher.Reachable)
    (inStep : switcher.toDevice.InStep switcher.carousel.windows.toFinset)
    (reflects : switcher.toDevice.Reflects switcher.carousel.looks)
    (next : switcher.handleNext now = some (handled, after)) :
    after.toDevice.Reflects after.carousel.looks := by
  obtain ⟨rest, waiting, served⟩ := (handleNext_eq_some_iff ..).1 next
  obtain ⟨understood, inStepTaken⟩ := Session.inStep_taken inStep waiting
  have reachableTaken : switcher.taken.Reachable := reachable.device _
  have reflectsTaken : switcher.taken.toDevice.Reflects
      (looksAfter switcher.carousel.looks handled.event) := by
    simpa [Device.Reflects, taken, waiting] using reflects
  obtain rfl := congrArg Prod.fst served
  by_cases asked : ∃ reference fullscreen,
      handled.event = .ui (.fullscreenRequested reference fullscreen)
  · obtain ⟨reference, fullscreen, same⟩ := asked
    rw [same] at reflectsTaken ⊢
    exact reflects_fullscreenRequested reachableTaken inStepTaken reflectsTaken reference fullscreen
  · have looks : (switcher.taken.handle now handled.event).1.carousel.looks =
        looksAfter switcher.carousel.looks handled.event := by
      refine looks_handle reachableTaken.proper now ?_ ?_
      · intro window same
        rw [same] at understood
        exact List.mem_toFinset.1 understood
      · intro reference fullscreen same
        exact asked ⟨reference, fullscreen, same⟩
    rw [looks]
    exact (switcher.taken.relays_handle now handled.event).reflects inStepTaken reflectsTaken

end Switcher

namespace Session

open Switcher (Handled Faithful Informed assemble)

variable {settings : Settings} {windows : List Window} {limit : Option Nat} {switcher : Switcher}
  {history : List Handled}

/-- A faithful session tells of windows that the registry knows. -/
theorem informed {start : Switcher} (session : Session Faithful start history switcher) :
    Session Informed start history switcher :=
  session.mono fun _ _ faithful report given => (faithful report given).1

/-- At the start the cards give all windows the looks that the registry has. -/
theorem reflects_start :
    (assemble settings true windows limit).start.toDevice.Reflects
      (assemble settings true windows limit).start.carousel.looks := by
  let parts := assemble settings true windows limit
  have inStep : parts.toDevice.InStep parts.registry.members := inStep_assemble
  have proper : parts.carousel.Proper := Carousel.proper_empty
  refine parts.relays_syncWindows.reflects inStep ?_
  funext id
  exact (Switcher.looks_syncWindows proper inStep.distinct id).trans Option.or_none

/-- In a faithful session what waits leads the looks of the cards to those of the registry. -/
theorem reflects
    (session : Session Faithful (assemble settings true windows limit).start history switcher) :
    switcher.toDevice.Reflects switcher.carousel.looks := by
  induction session with
  | start => exact reflects_start
  | step course step faithful inductionHypothesis =>
      exact (Device.relays_applyStep step faithful).reflects course.informed.inStep
        inductionHypothesis
  | next course now next inductionHypothesis =>
      exact Switcher.reflects_next (course.reachable (.start rfl rfl)) course.informed.inStep
        inductionHypothesis next
  | sync course inductionHypothesis =>
      exact Switcher.reflects_syncWindows (course.reachable (.start rfl rfl)).proper
        course.informed.inStep inductionHypothesis

/-- In a session whose news about the activation repeat what the registry says, whenever nothing waits
the card of every open window has its title and shows correctly whether it is maximized and whether it
fills the screen. -/
theorem cards_mirror_windows
    (session : Session Faithful (assemble settings true windows limit).start history switcher)
    (quiet : switcher.mailbox.waiting = []) :
    ∀ window ∈ switcher.registry.windows, ∃ handle activity,
      switcher.carousel.findByWindow? window.id = some handle ∧
        switcher.carousel.get? handle = some activity ∧ activity.title = window.title ∧
        activity.geometry.maximized = window.maximized ∧
        activity.geometry.fullscreen = window.fullscreen := by
  intro window member
  have reflects := session.reflects
  rw [Device.Reflects, quiet] at reflects
  have registered := Registry.get?_of_mem session.informed.inStep.distinct member
  have look : switcher.carousel.looks window.id = some window.look := by
    rw [List.foldl_nil] at reflects
    rw [reflects, Registry.looks, registered, Option.map_some]
  rw [Carousel.looks, Option.map_eq_some_iff] at look
  obtain ⟨activity, shown, same⟩ := look
  obtain ⟨handle, search, found⟩ := Option.bind_eq_some_iff.1 shown
  rw [Activity.look, Window.look, Look.mk.injEq] at same
  exact ⟨handle, activity, search, found, same⟩

/-- The user asks for the full screen while a report of an earlier change is still on its way. The card
fills the screen at once, does so no more when the report was handled, and does so again after the echo. -/
theorem calls_fills_screen :
    ∃ history switcher,
      Session Faithful (assemble {} true [Scenario.callsWindow] none).start history switcher ∧
        history.length = 3 ∧ ∃ handle activity,
          switcher.carousel.findByWindow? ⟨1⟩ = some handle ∧
            switcher.carousel.get? handle = some activity ∧ activity.title = "Ringing" ∧
            activity.geometry.maximized = false ∧ activity.geometry.fullscreen = true := by
  let asking : UiEvent := .fullscreenRequested (.page 0) true
  let ringing : Window := { Scenario.callsWindow with title := "Ringing" }
  let filling : Window := { ringing with fullscreen := true }
  let opened := (assemble {} true [Scenario.callsWindow] none).start
  let visible := (opened.applyStep (Scenario.visibilityStep true)).1
  let asked := (visible.applyStep (Scenario.uiStep asking)).1
  let changed := (asked.applyStep (Scenario.windowStep (.changed ringing))).1
  let full := changed.taken.handle 0 (.ui asking)
  let late := full.1.taken.handle 0 (.window (.changed ringing))
  let told := late.1.taken.handle 0 (.window (.changed filling))
  have silent (step : ScenarioStep) (window : step.window = none) (switcher : Switcher) :
      switcher.Faithful step := fun report given => nomatch window.symm.trans given
  have faithful : asked.Faithful (Scenario.windowStep (.changed ringing)) := by
    intro report given
    cases given
    exact ⟨(by decide +kernel : asked.registry.has ⟨1⟩ = true), fun window other => nomatch other⟩
  have steps : Session Faithful opened [] changed :=
    .step (.step (.step .start _ (silent _ rfl _)) _ (silent _ rfl _)) _ faithful
  have first : Session Faithful opened [⟨.ui asking, full.2⟩] full.1 :=
    steps.handling 0
      (by decide +kernel : changed.mailbox.waiting = [.ui asking, .window (.changed ringing)])
  have second : Session Faithful opened
      [⟨.ui asking, full.2⟩, ⟨.window (.changed ringing), late.2⟩] late.1 :=
    first.handling 0 (by decide +kernel : full.1.mailbox.waiting =
      [.window (.changed ringing), .window (.changed filling)])
  have third : Session Faithful opened
      [⟨.ui asking, full.2⟩, ⟨.window (.changed ringing), late.2⟩,
        ⟨.window (.changed filling), told.2⟩] told.1 :=
    second.handling 0 (by decide +kernel : late.1.mailbox.waiting = [.window (.changed filling)])
  have quiet : told.1.mailbox.waiting = [] := by decide +kernel
  have member : filling ∈ told.1.registry.windows := by decide +kernel
  exact ⟨_, _, third, rfl, third.cards_mirror_windows quiet filling member⟩

end Session

end TaskSwitcher
