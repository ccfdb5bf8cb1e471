import TaskSwitcher.Proofs.Registry.Looks
import TaskSwitcher.Proofs.Scenario.Steps
import TaskSwitcher.Scenario.Rehearsal

/-!
# A scenario, act by act

Performing a scenario means to carry out a list of acts: a step sets the flags of the shell, then tells the
registry of a window, changes the usable area and sends its events, and whatever an event speaks of is done
before the event is sent. Acts are carried out in order up to the first event that cannot be sent. So an open
mailbox gets all events, each at a moment when the device is as the event says; a closed one ends the
performance at the first event, with everything done that comes before it and nothing that comes after it.
-/

namespace TaskSwitcher

/-- One thing that is done to the device in the course of a scenario. -/
inductive Act where
  /-- Sets the flags of the shell that are given. -/
  | flags (overviewVisible docked : Option Bool)
  | learn (report : WindowEvent)
  | area (area : Size)
  | send (event : Event)

/-- The registry learns of a window before the report is sent. -/
def WindowEvent.acts (report : WindowEvent) : List Act :=
  [.learn report, .send (.window report)]

/-- The usable area changes before the report of it is sent. -/
def UiEvent.acts : UiEvent → List Act
  | .usableAreaChanged width height =>
      [.area ⟨width, height⟩, .send (.ui (.usableAreaChanged width height))]
  | event => [.send (.ui event)]

/-- The acts of a step: flags, window, launch and action, as far as the step has them. -/
def ScenarioStep.acts (step : ScenarioStep) : List Act :=
  .flags step.overviewVisible step.docked ::
    (((step.window.map WindowEvent.acts).getD [] ++
      (step.launch.map fun report => [Act.send (.launch report)]).getD []) ++
      (step.ui.map UiEvent.acts).getD [])

/-- The acts of a scenario. -/
def Scenario.acts (scenario : Scenario) : List Act :=
  scenario.steps.flatMap ScenarioStep.acts

/-- The shell after steps: each flag and the usable area have the last value that a step gives them. -/
def Shell.after (shell : Shell) (steps : List ScenarioStep) : Shell :=
  { shell with
    overviewVisible := (steps.filterMap (·.overviewVisible)).getLast?.getD shell.overviewVisible
    docked := (steps.filterMap (·.docked)).getLast?.getD shell.docked
    usableArea := (steps.filterMap (·.area?)).getLast?.getD shell.usableArea }

/-- The registry after steps, which believes all their reports in order. -/
def Registry.after (registry : Registry) (steps : List ScenarioStep) : Registry :=
  (steps.filterMap (·.window)).foldl learn registry

namespace Device

/-- Carries out one act. Only the sending of an event can fail. -/
def carryOut (device : Device) : Act → Device × Outcome
  | .flags overviewVisible docked =>
      ({ device with
         shell :=
           { device.shell with
             overviewVisible := overviewVisible.getD device.shell.overviewVisible
             docked := docked.getD device.shell.docked } }, .ok ())
  | .learn report => ({ device with registry := device.registry.learn report }, .ok ())
  | .area area => ({ device with shell := { device.shell with usableArea := area } }, .ok ())
  | .send event => device.send event

/-- Carries out acts up to the first one that fails. -/
def carryOutAll (device : Device) : List Act → Device × Outcome
  | [] => (device, .ok ())
  | act :: rest => andThen (device.carryOut act) fun device => device.carryOutAll rest

variable (device : Device)

/-! ### Steps as acts -/

/-- Doing one thing after the other needs no brackets. -/
theorem andThen_assoc (result : Device × Outcome) (first second : Device → Device × Outcome) :
    andThen (andThen result first) second =
      andThen result fun device => andThen (first device) second := by
  obtain ⟨device, outcome⟩ := result
  cases outcome <;> rfl

/-- Nothing to do afterwards leaves the result as it is. -/
theorem andThen_ok (result : Device × Outcome) :
    andThen result (fun device => (device, .ok ())) = result := by
  obtain ⟨device, outcome⟩ := result
  cases outcome <;> rfl

/-- The later acts are carried out where the earlier ones end, unless one of these fails. -/
theorem carryOutAll_append (earlier later : List Act) :
    device.carryOutAll (earlier ++ later) =
      andThen (device.carryOutAll earlier) fun device => device.carryOutAll later := by
  induction earlier generalizing device with
  | nil => rfl
  | cons act rest inductionHypothesis =>
      rw [List.cons_append, carryOutAll, carryOutAll, andThen_assoc]
      simp only [inductionHypothesis]

/-- The report of a step, if there is one, is learned and then sent. -/
theorem applyWindow_eq_carryOutAll (window : Option WindowEvent) :
    device.applyWindow window = device.carryOutAll ((window.map WindowEvent.acts).getD []) := by
  cases window with
  | none => rfl
  | some report => exact (andThen_ok _).symm

/-- The launch of a step, if there is one, is sent. -/
theorem applyLaunch_eq_carryOutAll (launch : Option LaunchEvent) :
    device.applyLaunch launch =
      device.carryOutAll ((launch.map fun report => [Act.send (.launch report)]).getD []) := by
  cases launch with
  | none => rfl
  | some report => exact (andThen_ok _).symm

/-- The action of a step, if there is one, is sent, and an area is set before it is reported. -/
theorem applyUi_eq_carryOutAll (ui : Option UiEvent) :
    device.applyUi ui = device.carryOutAll ((ui.map UiEvent.acts).getD []) := by
  cases ui with
  | none => rfl
  | some event => cases event <;> exact (andThen_ok _).symm

/-- A step is applied by carrying out its acts. -/
theorem applyStep_eq_carryOutAll (step : ScenarioStep) :
    device.applyStep step = device.carryOutAll step.acts := by
  have flagged : device.carryOut (.flags step.overviewVisible step.docked) =
      (device.applyFlags step, .ok ()) := rfl
  rw [ScenarioStep.acts, carryOutAll, flagged, andThen, carryOutAll_append, carryOutAll_append,
    andThen_assoc, ← applyWindow_eq_carryOutAll, applyStep]
  simp only [applyLaunch_eq_carryOutAll, applyUi_eq_carryOutAll]

/-- Steps are played by carrying out the acts of all of them. -/
theorem play_eq_carryOutAll (steps : List ScenarioStep) :
    device.play steps = device.carryOutAll (steps.flatMap ScenarioStep.acts) := by
  induction steps generalizing device with
  | nil => rfl
  | cons step rest inductionHypothesis =>
      rw [play, List.flatMap_cons, carryOutAll_append, applyStep_eq_carryOutAll]
      simp only [inductionHypothesis]

/-- Performing steps one after the other, up to the first one that fails. -/
theorem play_append (earlier later : List ScenarioStep) :
    device.play (earlier ++ later) = andThen (device.play earlier) fun device => device.play later := by
  simp only [play_eq_carryOutAll, List.flatMap_append, carryOutAll_append]

/-! ### Events say how the device is -/

/-- The device is as the event says: the registry has the window as reported, or does not have the one that
was closed, and the shell has the reported area. -/
def Confirms (device : Device) : Event → Prop
  | .window (.closed id) => device.registry.get? id = none
  | .window (.added window) => device.registry.get? window.id = some window
  | .window (.changed window) => device.registry.get? window.id = some window
  | .window (.activatedChanged window) => device.registry.get? window.id = some window
  | .ui (.usableAreaChanged width height) => device.shell.usableArea = ⟨width, height⟩
  | _ => True

/-- While acts are carried out the device is as each event says at the moment when it is sent. -/
def ConfirmsAll (device : Device) : List Act → Prop
  | [] => True
  | act :: rest =>
      (∀ event, act = .send event → device.Confirms event) ∧ (device.carryOut act).1.ConfirmsAll rest

variable {device}

/-- Once the registry has learned of a report, it is as the report says. -/
theorem confirms_learn (report : WindowEvent) :
    { device with registry := device.registry.learn report }.Confirms (.window report) := by
  cases report with
  | closed id =>
      have gone : (device.registry.remove id).get? id = none := by
        rw [Registry.get?_remove, if_pos rfl]
      exact gone
  | added window | changed window | activatedChanged window =>
      have known : (device.registry.put window).get? window.id = some window := by
        rw [Registry.get?_put, if_pos rfl]
      exact known

/-- Acts that are confirmed wherever they start may follow any others. -/
theorem ConfirmsAll.append {earlier later : List Act} (first : device.ConfirmsAll earlier)
    (second : ∀ device : Device, device.ConfirmsAll later) : device.ConfirmsAll (earlier ++ later) := by
  induction earlier generalizing device with
  | nil => exact second device
  | cons act rest inductionHypothesis => exact ⟨first.1, inductionHypothesis first.2⟩

/-- A report about a window is true when it is sent. -/
theorem confirmsAll_acts_window (report : WindowEvent) : device.ConfirmsAll report.acts := by
  refine ⟨fun _ sent => (nomatch sent), fun event sent => ?_, trivial⟩
  cases sent
  exact confirms_learn report

/-- An action of the user is true when it is sent, also one that reports an area. -/
theorem confirmsAll_acts_ui (event : UiEvent) : device.ConfirmsAll event.acts := by
  cases event with
  | usableAreaChanged width height =>
      refine ⟨fun _ sent => (nomatch sent), fun event sent => ?_, trivial⟩
      cases sent
      rfl
  | _ =>
      refine ⟨fun event sent => ?_, trivial⟩
      cases sent
      trivial

/-- Everything that a step sends is true when it is sent. -/
theorem confirmsAll_acts_step (step : ScenarioStep) : device.ConfirmsAll step.acts := by
  refine ⟨fun _ sent => (nomatch sent), (ConfirmsAll.append ?_ fun device => ?_).append fun device => ?_⟩
  · cases step.window with
    | none => trivial
    | some report => exact confirmsAll_acts_window report
  · cases step.launch with
    | none => trivial
    | some report =>
        refine ⟨fun event sent => ?_, trivial⟩
        cases sent
        trivial
  · cases step.ui with
    | none => trivial
    | some event => exact confirmsAll_acts_ui event

/-- Everything that a scenario sends is true when it is sent. -/
theorem confirmsAll_acts (steps : List ScenarioStep) (device : Device) :
    device.ConfirmsAll (steps.flatMap ScenarioStep.acts) := by
  induction steps generalizing device with
  | nil => trivial
  | cons step rest inductionHypothesis =>
      rw [List.flatMap_cons]
      exact (confirmsAll_acts_step step).append inductionHypothesis

/-! ### An open mailbox -/

section

variable (isOpen : device.mailbox.isOpen = true)

include isOpen

/-- With an open mailbox each act succeeds and leaves the mailbox open. -/
theorem carryOut_of_isOpen (act : Act) :
    ∃ after, device.carryOut act = (after, .ok ()) ∧ after.mailbox.isOpen = true := by
  cases act with
  | send event =>
      refine ⟨_, device.send_of_isOpen isOpen event, ?_⟩
      rw [Mailbox.isOpen_postAll, isOpen]
  | _ => exact ⟨_, rfl, isOpen⟩

/-- No act fails, and when an event is sent the device is as it says. -/
theorem confirms_of_isOpen {acts earlier later : List Act} {event : Event}
    (confirms : device.ConfirmsAll acts) (split : acts = earlier ++ .send event :: later) :
    ∃ ready, device.carryOutAll earlier = (ready, .ok ()) ∧ ready.Confirms event := by
  induction earlier generalizing device acts with
  | nil =>
      rw [split] at confirms
      exact ⟨device, rfl, confirms.1 event rfl⟩
  | cons act rest inductionHypothesis =>
      rw [split] at confirms
      obtain ⟨middle, carriedOut, staysOpen⟩ := carryOut_of_isOpen isOpen act
      have remaining := confirms.2
      rw [carriedOut] at remaining
      obtain ⟨ready, all, agrees⟩ := inductionHypothesis staysOpen remaining rfl
      exact ⟨ready, by rw [carryOutAll, carriedOut, andThen, all], agrees⟩

end

end Device

/-! ### What steps say about shell and registry -/

/-- The last of the values that are given, or else the former one. -/
theorem getLast?_filterMap_cons_getD {α β : Type} (given : α → Option β) (first : α) (rest : List α)
    (former : β) :
    ((first :: rest).filterMap given).getLast?.getD former =
      (rest.filterMap given).getLast?.getD ((given first).getD former) := by
  cases known : given first with
  | none => rw [List.filterMap_cons_none known, Option.getD_none]
  | some value =>
      rw [List.filterMap_cons_some known, List.getLast?_cons, Option.getD_some, Option.getD_some]

namespace Shell

variable (shell : Shell)

/-- The first step sets the shell, and the rest sets it further. -/
theorem after_cons (step : ScenarioStep) (rest : List ScenarioStep) :
    shell.after (step :: rest) = (shell.after [step]).after rest := by
  simp only [after, getLast?_filterMap_cons_getD]
  rfl

/-- The later steps set the shell that the earlier ones leave. -/
theorem after_append (earlier later : List ScenarioStep) :
    shell.after (earlier ++ later) = (shell.after earlier).after later := by
  induction earlier generalizing shell with
  | nil => rfl
  | cons step rest inductionHypothesis =>
      rw [List.cons_append, after_cons, inductionHypothesis, ← after_cons]

end Shell

/-- The registry believes the first step and then the rest. -/
theorem Registry.after_cons (registry : Registry) (step : ScenarioStep) (rest : List ScenarioStep) :
    registry.after (step :: rest) = ((step.window.map registry.learn).getD registry).after rest := by
  rw [after, List.filterMap_cons]
  cases step.window <;> rfl

/-- A step sends nothing when it has neither a report nor a launch nor an action. -/
theorem ScenarioStep.events_eq_nil_iff (step : ScenarioStep) :
    step.events = [] ↔ step.window = none ∧ step.launch = none ∧ step.ui = none := by
  simp [events]

/-- A step without events reports no area. -/
theorem ScenarioStep.area?_of_events_eq_nil {step : ScenarioStep} (silent : step.events = []) :
    step.area? = none := by
  rw [area?, ((step.events_eq_nil_iff).1 silent).2.2, Option.bind_none]

namespace Device

variable {device : Device} {steps earlier later : List ScenarioStep} {step : ScenarioStep}

/-- What a step makes of the shell is what the shell is after this step. -/
theorem shellAfterStep_eq (device : Device) (step : ScenarioStep) :
    device.shellAfterStep step = device.shell.after [step] := by
  simp only [shellAfterStep, Shell.after, getLast?_filterMap_cons_getD, ScenarioStep.area?]
  cases step.ui with
  | none => rfl
  | some event => cases event <;> rfl

/-- With an open mailbox all steps are carried out. -/
theorem play_of_isOpen (isOpen : device.mailbox.isOpen = true) (steps : List ScenarioStep) :
    device.play steps =
      ({ registry := device.registry.after steps
         shell := device.shell.after steps
         mailbox := device.mailbox.postAll (steps.flatMap ScenarioStep.events) }, .ok ()) := by
  induction steps generalizing device with
  | nil =>
      rw [List.flatMap_nil, Mailbox.postAll_nil]
      rfl
  | cons step rest inductionHypothesis =>
      have staysOpen : (device.mailbox.postAll step.events).isOpen = true :=
        (device.mailbox.isOpen_postAll step.events).trans isOpen
      rw [play, device.applyStep_of_isOpen isOpen, andThen, inductionHypothesis staysOpen,
        shellAfterStep_eq, ← Shell.after_cons, ← Mailbox.postAll_append, ← List.flatMap_cons,
        Registry.after_cons, registryAfter]

/-! ### A closed mailbox -/

/-- A step without events only sets flags, and needs no mailbox. -/
theorem applyStep_of_events_eq_nil (silent : step.events = []) :
    device.applyStep step = ({ device with shell := device.shell.after [step] }, .ok ()) := by
  obtain ⟨window, launch, ui⟩ := step.events_eq_nil_iff.1 silent
  rw [← shellAfterStep_eq, shellAfterStep, applyStep, window, launch, ui]
  rfl

/-- Steps that send nothing succeed with any mailbox; they set flags of the shell and no more. -/
theorem play_of_events_eq_nil (silent : ∀ step ∈ steps, step.events = []) :
    device.play steps = ({ device with shell := device.shell.after steps }, .ok ()) := by
  induction steps generalizing device with
  | nil => rfl
  | cons step rest inductionHypothesis =>
      rw [List.forall_mem_cons] at silent
      rw [play, applyStep_of_events_eq_nil silent.1, andThen, inductionHypothesis silent.2,
        ← Shell.after_cons]

/-- Only a step that sends something sets the usable area. -/
theorem usableArea_after_of_events_eq_nil (shell : Shell)
    (silent : ∀ step ∈ steps, step.events = []) :
    (shell.after steps).usableArea = shell.usableArea := by
  have none : steps.filterMap (·.area?) = [] :=
    List.filterMap_eq_nil_iff.2 fun step member => ScenarioStep.area?_of_events_eq_nil (silent step member)
  rw [Shell.after, none]
  rfl

variable (closed : device.mailbox.isOpen = false)

include closed

/-- A closed mailbox takes nothing, and the device stays as it is. -/
theorem send_of_closed (event : Event) : device.send event = (device, .error .mailboxClosed) :=
  if_neg (by simp [closed])

/-- A step fails at its first event. The registry has learned of the window, which comes first; the usable
area has changed only if no other event comes before the report of it. -/
theorem applyStep_of_closed (sends : step.events ≠ []) :
    device.applyStep step =
      ({ device with
         registry := device.registryAfter step
         shell :=
           { device.shell.after [step] with
             usableArea :=
               if step.window = none ∧ step.launch = none then
                 step.area?.getD device.shell.usableArea
               else device.shell.usableArea } }, .error .mailboxClosed) := by
  have fails (middle : Device) (same : middle.mailbox = device.mailbox) (event : Event) :
      middle.send event = (middle, .error .mailboxClosed) :=
    send_of_closed (same ▸ closed) event
  simp only [Shell.after, getLast?_filterMap_cons_getD, registryAfter]
  rw [applyStep]
  cases window : step.window with
  | some report =>
      rw [applyWindow, fails]
      · rfl
      · rfl
  | none =>
      cases launch : step.launch with
      | some report =>
          rw [applyWindow, andThen, applyLaunch, fails]
          · rfl
          · rfl
      | none =>
          obtain ⟨event, ui⟩ : ∃ event, step.ui = some event := by
            refine Option.ne_none_iff_exists'.1 fun none => sends ?_
            exact step.events_eq_nil_iff.2 ⟨window, launch, none⟩
          rw [ScenarioStep.area?, ui, applyWindow, andThen, applyLaunch, andThen, applyUi, fails]
          · cases event <;> rfl
          · rfl

/-- Steps that send nothing come to pass, and the first step that sends something fails. -/
theorem play_of_closed (silent : ∀ before ∈ earlier, before.events = [])
    (sends : step.events ≠ []) :
    device.play (earlier ++ step :: later) =
      ({ device with
         registry := device.registryAfter step
         shell :=
           { device.shell.after (earlier ++ [step]) with
             usableArea :=
               if step.window = none ∧ step.launch = none then
                 step.area?.getD device.shell.usableArea
               else device.shell.usableArea } }, .error .mailboxClosed) := by
  let reached := { device with shell := device.shell.after earlier }
  have failed := applyStep_of_closed (show reached.mailbox.isOpen = false from closed) sends
  have area : reached.shell.usableArea = device.shell.usableArea :=
    usableArea_after_of_events_eq_nil device.shell silent
  rw [area] at failed
  rw [play_append, play_of_events_eq_nil silent, andThen, play, failed, andThen, Shell.after_append]
  rfl

end Device

namespace Scenario

/-- Whatever the delay before steps that have none of their own, all steps are due in the end. -/
theorem exists_dueWithin_eq (pause : Nat) (steps : List ScenarioStep) (now : Nat) :
    ∃ due, ∀ limit, due ≤ limit → dueWithin pause limit now steps = steps := by
  induction steps generalizing now with
  | nil => exact ⟨0, fun _ _ => rfl⟩
  | cons step rest inductionHypothesis =>
      let moment := now + (step.delay.map (·.toNat)).getD pause
      obtain ⟨due, all⟩ := inductionHypothesis moment
      refine ⟨max moment due, fun limit late => ?_⟩
      have reached : moment ≤ limit := (Nat.le_max_left ..).trans late
      have remaining := all limit ((Nat.le_max_right ..).trans late)
      rw [dueWithin]
      simp only [moment] at reached remaining
      rw [if_pos reached, remaining]

/-- A scenario carries out its acts and then counts its steps. -/
theorem play_eq_carryOutAll (scenario : Scenario) (device : Device) :
    scenario.play device =
      ((device.carryOutAll scenario.acts).1,
        (device.carryOutAll scenario.acts).2.map fun _ => scenario.steps.length) := by
  rw [play, Device.play_eq_carryOutAll, acts]

section

variable {scenario : Scenario} {device : Device} {earlier later : List ScenarioStep}
  {step : ScenarioStep}

/-- With an open mailbox a scenario runs to its end and sends everything that it has. -/
theorem play_of_isOpen (isOpen : device.mailbox.isOpen = true) :
    scenario.play device =
      ({ registry := device.registry.after scenario.steps
         shell := device.shell.after scenario.steps
         mailbox :=
           { device.mailbox with
             waiting :=
               device.mailbox.waiting ++ scenario.steps.flatMap ScenarioStep.events } },
        .ok scenario.steps.length) := by
  rw [play, Device.play_of_isOpen isOpen, Mailbox.postAll, if_pos isOpen]
  rfl

/-- A scenario that sends nothing runs to its end, also with a closed mailbox. -/
theorem play_of_events_eq_nil (silent : ∀ step ∈ scenario.steps, step.events = []) :
    scenario.play device =
      ({ device with shell := device.shell.after scenario.steps }, .ok scenario.steps.length) := by
  rw [play, Device.play_of_events_eq_nil silent]
  rfl

variable (closed : device.mailbox.isOpen = false)

include closed

/-- With a closed mailbox a scenario ends in the first step that sends something. The registry has learned of
the report of this step, and an area is set only if the step sends nothing else. -/
theorem play_of_closed (split : scenario.steps = earlier ++ step :: later)
    (silent : ∀ before ∈ earlier, before.events = []) (sends : step.events ≠ []) :
    scenario.play device =
      ({ device with
         registry := device.registryAfter step
         shell :=
           { device.shell.after (earlier ++ [step]) with
             usableArea :=
               if step.window = none ∧ step.launch = none then
                 step.area?.getD device.shell.usableArea
               else device.shell.usableArea } }, .error .mailboxClosed) := by
  rw [play, split, Device.play_of_closed closed silent sends]
  rfl

/-- With a closed mailbox exactly the scenarios that send something fail. -/
theorem play_fails_iff_of_closed :
    (∃ reason, (scenario.play device).2 = .error (.channelClosed reason)) ↔
      ∃ step ∈ scenario.steps, step.events ≠ [] := by
  constructor
  · rintro ⟨reason, failed⟩
    by_contra! silent
    rw [play_of_events_eq_nil silent] at failed
    cases failed
  · rintro ⟨step, member, sends⟩
    have found : (scenario.steps.find? fun step => step.events ≠ []).isSome = true :=
      List.find?_isSome.2 ⟨step, member, by simpa using sends⟩
    obtain ⟨first, search⟩ := Option.isSome_iff_exists.1 found
    obtain ⟨sendsFirst, earlier, later, split, silent⟩ := List.find?_eq_some_iff_append.1 search
    rw [play_of_closed closed split (by simpa using silent) (by simpa using sendsFirst)]
    exact ⟨_, rfl⟩

end

/-- Performing a scenario carries out its acts in their order, and all steps become due whatever the delay
before them. With an open mailbox it succeeds with the number of steps; all events are sent, the registry has
learned of all windows, the shell has the last values given, and at the moment when an event is sent the device
is as the event says. With a closed mailbox it fails exactly if some step has an event. All steps before the
first such step are carried out, as is this step up to its first event. -/
theorem play_carries_out_steps (scenario : Scenario) (pause : Nat) (device : Device) :
    (scenario.play device =
        ((device.carryOutAll scenario.acts).1,
          (device.carryOutAll scenario.acts).2.map fun _ => scenario.steps.length) ∧
      ∃ due, ∀ limit, due ≤ limit →
        dueWithin pause limit 0 scenario.steps = scenario.steps) ∧
    (device.mailbox.isOpen = true →
      scenario.play device =
        ({ registry := device.registry.after scenario.steps
           shell := device.shell.after scenario.steps
           mailbox :=
             { device.mailbox with
               waiting :=
                 device.mailbox.waiting ++ scenario.steps.flatMap ScenarioStep.events } },
          .ok scenario.steps.length) ∧
      ∀ earlier event later, scenario.acts = earlier ++ .send event :: later →
        ∃ ready, device.carryOutAll earlier = (ready, .ok ()) ∧ ready.Confirms event) ∧
    (device.mailbox.isOpen = false →
      ((∃ reason, (scenario.play device).2 = .error (.channelClosed reason)) ↔
        ∃ step ∈ scenario.steps, step.events ≠ []) ∧
      ((∀ step ∈ scenario.steps, step.events = []) →
        scenario.play device =
          ({ device with shell := device.shell.after scenario.steps },
            .ok scenario.steps.length)) ∧
      ∀ earlier step later, scenario.steps = earlier ++ step :: later →
        (∀ before ∈ earlier, before.events = []) → step.events ≠ [] →
        scenario.play device =
          ({ device with
             registry := device.registryAfter step
             shell :=
               { device.shell.after (earlier ++ [step]) with
                 usableArea :=
                   if step.window = none ∧ step.launch = none then
                     step.area?.getD device.shell.usableArea
                   else device.shell.usableArea } }, .error .mailboxClosed)) := by
  refine ⟨⟨scenario.play_eq_carryOutAll device, exists_dueWithin_eq pause scenario.steps 0⟩,
    fun isOpen => ⟨play_of_isOpen isOpen, fun earlier event later split => ?_⟩, fun closed => ?_⟩
  · exact Device.confirms_of_isOpen isOpen (Device.confirmsAll_acts scenario.steps device) split
  · exact ⟨play_fails_iff_of_closed closed, play_of_events_eq_nil,
      fun earlier step later => play_of_closed closed⟩

/-- The overview is shown, a window is opened while the phone is docked and the usable area grows, and the
window is closed. With an open mailbox all of this happens. With a closed one the report of the new window is
the first event, so the registry has the window, and neither the area nor the next step is reached. -/
theorem settings_played_open_and_closed :
    let scenario : Scenario := { steps := [
      visibilityStep true,
      { docked := some true
        window := some (.added settingsWindow)
        ui := some (.usableAreaChanged 720 1200) },
      windowStep (.closed ⟨2⟩)] }
    let device (isOpen : Bool) : Device :=
      { registry := { windows := [callsWindow] }
        shell := { usableArea := ⟨360, 648⟩, scaleFactor := 2 }
        mailbox := { isOpen } }
    ((scenario.play (device true)).2 = .ok 3 ∧
      (scenario.play (device true)).1.mailbox.waiting =
        [.window (.added settingsWindow), .ui (.usableAreaChanged 720 1200),
          .window (.closed ⟨2⟩)] ∧
      (scenario.play (device true)).1.registry.windows = [callsWindow]) ∧
    (scenario.play (device false)).2 = .error .mailboxClosed ∧
      (scenario.play (device false)).1.registry.windows = [callsWindow, settingsWindow] ∧
      (scenario.play (device false)).1.shell =
        { usableArea := ⟨360, 648⟩, scaleFactor := 2, overviewVisible := true, docked := true } := by
  intro scenario device
  obtain ⟨opened, -⟩ := (scenario.play_carries_out_steps 0 (device true)).2.1 rfl
  obtain ⟨-, -, stopped⟩ := (scenario.play_carries_out_steps 0 (device false)).2.2 rfl
  have failed := stopped [visibilityStep true] _ [windowStep (.closed ⟨2⟩)] rfl (by decide) (by decide)
  rw [opened, failed]
  exact ⟨⟨rfl, by decide +kernel, by decide +kernel⟩, rfl, by decide +kernel, rfl⟩

end Scenario

end TaskSwitcher
