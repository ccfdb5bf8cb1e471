import TaskSwitcher.Proofs.Registry.Activation
import TaskSwitcher.Proofs.Session.Projection
import TaskSwitcher.Proofs.Switcher.Focus

/-!
# The focus and the active window

The registry believes every snapshot that says a window is active. The overview moves the focus only when
the window is new or when the news are about the activation. So the focus may miss an activation that comes
with a report of a change, or with a report of an opened window that has a card already. As long as
activations are not reported in these ways, the active window is in focus whenever nothing waits.
-/

namespace TaskSwitcher

namespace Registry

/-- The registry knows the window of a report, and the report does not activate a known window unless
it is there to report activations. This is more than is needed: a snapshot that gives the activation back
to the window in focus would do no harm, but whether a window is in focus is not for the registry to know. -/
def Announces (registry : Registry) (report : WindowEvent) : Prop :=
  registry.Knows report ∧
    match report with
    | .added window =>
        window.activated = true → registry.has window.id = true → registry.IsActive window.id
    | .changed window => window.activated = true → registry.IsActive window.id
    | _ => True

variable {registry : Registry} {focus : Option WindowId}
  (focused : ∀ id, registry.IsActive id → focus = some id)

include focused

/-- A snapshot that is put in without moving the focus activates no window. -/
theorem focus_put {window : Window} (known : window.activated = true → registry.IsActive window.id)
    (id : WindowId) (active : (registry.put window).IsActive id) : focus = some id := by
  cases activated : window.activated with
  | true =>
      rw [isActive_put_of_activated _ _ _ activated] at active
      rw [active]
      exact focused _ (known activated)
  | false =>
      rw [isActive_put_of_not_activated _ _ _ activated] at active
      exact focused id active.2

/-- If the active window is in focus, it still is after a report that announces its activation. -/
theorem focusAfter_learn {report : WindowEvent} (announces : registry.Announces report)
    (id : WindowId) (active : (registry.learn report).IsActive id) :
    focusAfter registry.members focus (.window report) = some id := by
  obtain ⟨-, announces⟩ := announces
  cases report with
  | added window =>
      rw [focusAfter]
      split
      · next opens =>
          rw [learn, isActive_put_of_activated _ _ _ opens.1] at active
          rw [active]
      · next stays =>
          refine focus_put focused (fun activated => ?_) id active
          -- The window is shown already, so an active snapshot of it has to repeat its activation.
          refine announces activated ((registry.has_iff _).2 ((registry.mem_members _).1 ?_))
          by_contra unknown
          exact stays ⟨activated, unknown⟩
  | changed window => exact focus_put focused announces id active
  | closed closed =>
      rw [learn, isActive_remove] at active
      have still := focused id active.2
      rw [focusAfter, still, if_neg]
      intro same
      exact active.1 (Option.some.inj same)
  | activatedChanged window =>
      rw [focusAfter]
      split
      · next activated =>
          rw [learn, isActive_put_of_activated _ _ _ activated] at active
          rw [active]
      · next inactive =>
          exact focus_put focused (fun activated => absurd activated inactive) id active

/-- If the active window is in focus, it still is after the echo of a command. -/
theorem finalFocus_echo (command : WindowCommand) (id : WindowId)
    (active : (registry.perform command).1.IsActive id) :
    finalFocus registry.members focus ((echo registry.windows command).map .window) = some id := by
  cases command with
  | activate asked =>
      by_cases known : registry.has asked = true
      · rw [isActive_activate _ _ _ known] at active
        subst active
        have told : echo registry.windows (.activate id) =
            (registry.windows.filter fun window =>
              window.activated ≠ decide (window.id = id)).map fun window =>
                .activatedChanged (activatedAt id window) := if_pos known
        rw [told, List.map_map]
        refine finalFocus_activatedAt registry.members focus id _ ?_
        -- Either the window was active before, or the echo says that it is now.
        by_cases before : registry.IsActive id
        · exact .inl (focused id before)
        · obtain ⟨record, search⟩ := registry.exists_get?_of_has id known
          have named := registry.id_of_get?_eq_some search
          have inactive : record.activated = false := by
            rw [← Bool.not_eq_true]
            exact fun activated => before ⟨record, search, activated⟩
          right
          refine ⟨record, List.mem_filter.2 ⟨List.mem_of_find?_eq_some search, ?_⟩, named⟩
          simp [inactive, named]
      · rw [isActive_activate_unknown _ _ _ (Bool.not_eq_true _ ▸ known)] at active
        have silent : echo registry.windows (.activate asked) = [] := if_neg known
        rw [silent]
        exact focused id active
  | close closed =>
      have left : id ≠ closed ∧ registry.IsActive id := (registry.isActive_remove closed id).1 active
      have still := focused id left.2
      simp only [echo]
      split
      · rw [still]
        exact if_neg fun same => left.1 (Option.some.inj same)
      · exact still
  | fullscreen asked value =>
      rw [isActive_fullscreen] at active
      simp only [echo, List.map_map]
      have changed := finalFocus_changed registry.members focus
        ((registry.windows.filter fun window =>
          window.id = asked && window.fullscreen ≠ value).map fun window =>
            { window with fullscreen := value })
      rw [List.map_map] at changed
      exact changed.trans (focused id active)

end Registry

/-- What waits in the mailbox leads the focus to the active window of the registry. -/
def Device.Focuses (device : Device) (shown : Finset WindowId) (focus : Option WindowId) : Prop :=
  ∀ id, device.registry.IsActive id → finalFocus shown focus device.mailbox.waiting = some id

namespace Device

variable {before after : Device} {shown : Finset WindowId} {focus : Option WindowId}

/-- One change of the device keeps the promise: a window that becomes active is reported behind everything. -/
theorem Relay.focuses (relay : Relay Registry.Announces before after)
    (inStep : before.InStep shown) (focuses : before.Focuses shown focus) :
    after.Focuses shown focus := by
  have joined (events : List Event) :
      finalFocus shown focus (before.mailbox.postAll events).waiting =
        finalFocus before.registry.members
          (finalFocus shown focus before.mailbox.waiting) events := by
    rw [Mailbox.waiting_postAll _ _ inStep.isOpen, finalFocus_append,
      inStep.leads.foldl_shownAfter]
  intro id active
  cases relay with
  | shell shell => exact focuses id active
  | aside event unrelated =>
      refine (joined [event]).trans ?_
      cases event with
      | window report => exact unrelated.elim
      | _ => exact focuses id active
  | report report accepted =>
      refine (joined [.window report]).trans ?_
      exact Registry.focusAfter_learn focuses accepted id active
  | command command =>
      refine (joined _).trans ?_
      rw [before.registry.snd_perform inStep.echoing]
      exact Registry.finalFocus_echo focuses command id active

/-- Any changes of the device keep the promise that what waits leads to the active window. -/
theorem Relays.focuses (relays : Relays Registry.Announces before after)
    (inStep : before.InStep shown) (focuses : before.Focuses shown focus) :
    after.Focuses shown focus :=
  relays.keeps inStep (fun _ _ => And.left) Relay.focuses focuses

end Device

namespace Switcher

variable {switcher after : Switcher}

/-! ### A look at the registry -/

/-- Adding windows one after the other moves the focus as reports of them would. -/
theorem focusedWindow?_foldl_windowAdded (proper : switcher.carousel.Proper) (windows : List Window)
    {id : WindowId}
    (focused : finalFocus switcher.carousel.windows.toFinset switcher.carousel.focusedWindow?
      (windows.map fun window => .window (.added window)) = some id) :
    (windows.foldl windowAdded switcher).carousel.focusedWindow? = some id := by
  induction windows generalizing switcher with
  | nil => exact focused
  | cons first rest inductionHypothesis =>
      have properNext : (switcher.windowAdded first).carousel.Proper :=
        proper_handle proper 0 (.window (.added first))
      have shown : (switcher.windowAdded first).carousel.windows.toFinset =
          shownAfter switcher.carousel.windows.toFinset (.window (.added first)) :=
        toFinset_windows_handle proper 0 (.window (.added first))
      refine inductionHypothesis properNext ?_
      rw [shown]
      exact finalFocus_mono (Finset.Subset.refl _) Iff.rfl
        (focusedWindow?_windowAdded proper first) focused

/-- A look at the registry moves the focus as reports of all its windows would. -/
theorem focusedWindow?_syncWindows (proper : switcher.carousel.Proper) {id : WindowId}
    (focused : finalFocus switcher.carousel.windows.toFinset switcher.carousel.focusedWindow?
      (switcher.registry.windows.map fun window => .window (.added window)) = some id) :
    switcher.syncWindows.carousel.focusedWindow? = some id :=
  focusedWindow?_foldl_windowAdded proper switcher.registry.windows focused

/-- A look at the registry keeps the promise if the active window has its card already. -/
theorem focuses_syncWindows (proper : switcher.carousel.Proper)
    (inStep : switcher.toDevice.InStep switcher.carousel.windows.toFinset)
    (focuses : switcher.toDevice.Focuses switcher.carousel.windows.toFinset
      switcher.carousel.focusedWindow?)
    (seen : ∀ window ∈ switcher.registry.windows, window.activated = true →
      window.id ∈ switcher.carousel.windows) :
    switcher.syncWindows.toDevice.Focuses switcher.syncWindows.carousel.windows.toFinset
      switcher.syncWindows.carousel.focusedWindow? := by
  have shown := toFinset_windows_syncWindows proper.valid
  have inStepShown : switcher.toDevice.InStep switcher.syncWindows.carousel.windows.toFinset := by
    rw [shown]
    exact { inStep with leads := inStep.leads.union (Finset.Subset.refl _) }
  refine switcher.relays_syncWindows.focuses inStepShown fun id active => ?_
  rw [shown]
  refine finalFocus_mono Finset.subset_union_left ?_ (fun focused => ?_) (focuses id active)
  · -- The active window has a card already, so its card does not come early.
    obtain ⟨window, found, activated⟩ := active
    have named := switcher.registry.id_of_get?_eq_some found
    have known := seen window (List.mem_of_find?_eq_some found) activated
    rw [named, ← List.mem_toFinset] at known
    exact ⟨fun _ => Finset.mem_union_left _ known, fun _ => known⟩
  · refine focusedWindow?_syncWindows proper ?_
    rw [finalFocus_added_of_shown fun window member activated =>
      List.mem_toFinset.2 (seen window member activated)]
    exact focused

/-- Handling the oldest event keeps the promise, as it moves the focus where the event leads it. -/
theorem focuses_next {handled : Handled} {now : Nat} (reachable : switcher.Reachable)
    (inStep : switcher.toDevice.InStep switcher.carousel.windows.toFinset)
    (focuses : switcher.toDevice.Focuses switcher.carousel.windows.toFinset
      switcher.carousel.focusedWindow?)
    (next : switcher.handleNext now = some (handled, after)) :
    after.toDevice.Focuses after.carousel.windows.toFinset after.carousel.focusedWindow? := by
  obtain ⟨rest, waiting, served⟩ := (handleNext_eq_some_iff ..).1 next
  obtain ⟨understood, inStepTaken⟩ := Session.inStep_taken inStep waiting
  have proper : switcher.taken.carousel.Proper := reachable.proper
  have shown := toFinset_windows_handle proper now handled.event
  obtain rfl := congrArg Prod.fst served
  rw [shown]
  refine (switcher.taken.relays_handle now handled.event).focuses inStepTaken fun id active => ?_
  have taken := focuses id active
  rw [waiting] at taken
  have leads : finalFocus (shownAfter switcher.carousel.windows.toFinset handled.event)
      (focusAfter switcher.carousel.windows.toFinset switcher.carousel.focusedWindow? handled.event)
      switcher.taken.mailbox.waiting = some id := by
    have remaining : switcher.taken.mailbox.waiting = rest := congrArg List.tail waiting
    rw [remaining]
    exact taken
  exact finalFocus_mono (Finset.Subset.refl _) Iff.rfl
    (focusedWindow?_handle proper now understood) leads

/-! ### Courses that announce activations -/

/-- The courses of a session in which activations are announced. A look at the registry may be taken
whenever the active window has a card. An earlier look would give it its card and the focus, and with them
take from the report that still waits the power to move the focus: that is right unless another activation
waits in front of the report. Courses with such a look are left out, also where the focus ends up right. -/
inductive Announced (start : Switcher) : Switcher → Prop where
  | start : Announced start start
  | step {switcher : Switcher} (course : Announced start switcher) (step : ScenarioStep)
      (announces : ∀ report, step.window = some report → switcher.registry.Announces report) :
      Announced start (switcher.applyStep step).1
  | next {switcher after : Switcher} {handled : Handled} (course : Announced start switcher)
      (now : Nat) (next : switcher.handleNext now = some (handled, after)) : Announced start after
  | sync {switcher : Switcher} (course : Announced start switcher)
      (seen : ∀ window ∈ switcher.registry.windows, window.activated = true →
        window.id ∈ switcher.carousel.windows) : Announced start switcher.syncWindows

end Switcher

namespace Switcher.Announced

open Switcher (Handled Informed assemble)

variable {settings : Settings} {windows : List Window} {limit : Option Nat}
  {start switcher : Switcher}

/-- An announced course is a session whose steps tell of windows that the registry knows. -/
theorem session (announced : Announced start switcher) :
    ∃ history, Session Informed start history switcher := by
  induction announced with
  | start => exact ⟨[], .start⟩
  | step _ step announces inductionHypothesis =>
      obtain ⟨history, course⟩ := inductionHypothesis
      exact ⟨history, course.step step fun report given => (announces report given).1⟩
  | next _ now next inductionHypothesis =>
      obtain ⟨history, course⟩ := inductionHypothesis
      exact ⟨_, course.next now next⟩
  | sync _ _ inductionHypothesis =>
      obtain ⟨history, course⟩ := inductionHypothesis
      exact ⟨history, course.sync⟩

/-- At the start the window that was put in as the active one is in focus. -/
theorem focuses_start :
    (assemble settings true windows limit).start.toDevice.Focuses
      (assemble settings true windows limit).start.carousel.windows.toFinset
      (assemble settings true windows limit).start.carousel.focusedWindow? := by
  let parts := assemble settings true windows limit
  have inStep : parts.toDevice.InStep parts.registry.members := Session.inStep_assemble
  have proper : parts.carousel.Proper := Carousel.proper_empty
  have shown : parts.start.carousel.windows.toFinset = parts.registry.members := by
    rw [Switcher.start, toFinset_windows_syncWindows proper.valid]
    exact Finset.empty_union _
  have unique (first second : WindowId) (one : parts.registry.IsActive first)
      (another : parts.registry.IsActive second) : first = second := by
    refine Registry.isActive_foldl_put_unique _ windows (fun first second none => ?_) one another
    obtain ⟨window, found, -⟩ := none
    cases found
  change parts.start.toDevice.Focuses parts.start.carousel.windows.toFinset _
  rw [shown]
  refine parts.relays_syncWindows.focuses inStep fun id active => ?_
  obtain ⟨window, found, activated⟩ := active
  obtain rfl := parts.registry.id_of_get?_eq_some found
  refine focusedWindow?_syncWindows proper ?_
  refine finalFocus_added inStep.distinct (fun other _ seen => ?_)
    (List.mem_of_find?_eq_some found) activated fun other member alsoActive => ?_
  · cases seen
  · exact unique _ _ ⟨other, Registry.get?_of_mem inStep.distinct member, alsoActive⟩
      ⟨window, found, activated⟩

/-- In an announced session what waits leads the focus to the active window. -/
theorem focuses (announced : Announced (assemble settings true windows limit).start switcher) :
    switcher.toDevice.Focuses switcher.carousel.windows.toFinset
      switcher.carousel.focusedWindow? := by
  induction announced with
  | start => exact focuses_start
  | step course step announces inductionHypothesis =>
      obtain ⟨history, session⟩ := course.session
      exact (Device.relays_applyStep step announces).focuses session.inStep inductionHypothesis
  | next course now next inductionHypothesis =>
      obtain ⟨history, session⟩ := course.session
      exact focuses_next (session.reachable (.start rfl rfl)) session.inStep inductionHypothesis next
  | sync course seen inductionHypothesis =>
      obtain ⟨history, session⟩ := course.session
      exact focuses_syncWindows (session.reachable (.start rfl rfl)).proper session.inStep
        inductionHypothesis seen

/-- In a course that announces activations, whenever nothing waits the card of the active window is
focused. -/
theorem active_window_focused
    (announced : Announced (assemble settings true windows limit).start switcher)
    (quiet : switcher.mailbox.waiting = []) :
    ∀ window ∈ switcher.registry.windows, window.activated = true →
      ∃ handle, switcher.carousel.focused = some handle ∧
        switcher.carousel.findByWindow? window.id = some handle := by
  intro window member activated
  obtain ⟨history, session⟩ := announced.session
  have registered := Registry.get?_of_mem session.inStep.distinct member
  have focused := announced.focuses window.id ⟨window, registered, activated⟩
  rw [quiet] at focused
  obtain ⟨handle, points, shows⟩ := (Carousel.focusedWindow?_eq_some_iff ..).1 focused
  have proper := (session.reachable (.start rfl rfl)).proper
  exact ⟨handle, points, (proper.valid.findByWindow?_eq_some_iff proper.distinct _ _).2 shows⟩

/-- A click on the card of an inactive window activates the window, and its card is focused when the echo
was handled. -/
theorem clicked_window_focused :
    ∃ switcher, Announced (assemble {} true [Scenario.callsWindow] none).start switcher ∧
      switcher.mailbox.waiting = [] ∧ ∃ handle, switcher.carousel.focused = some handle ∧
        switcher.carousel.findByWindow? ⟨1⟩ = some handle := by
  let click : UiEvent := .clicked (.page 0)
  let active : Window := { Scenario.callsWindow with activated := true }
  let opened := (assemble {} true [Scenario.callsWindow] none).start
  let clicked := (opened.applyStep (Scenario.uiStep click)).1
  let asked := clicked.taken.handle 0 (.ui click)
  let told := asked.1.taken.handle 0 (.window (.activatedChanged active))
  have waits : clicked.mailbox.waiting = [.ui click] := by decide +kernel
  have echoed : asked.1.mailbox.waiting = [.window (.activatedChanged active)] := by decide +kernel
  have quiet : told.1.mailbox.waiting = [] := by decide +kernel
  have member : active ∈ told.1.registry.windows := by decide +kernel
  have clicking : Announced opened clicked :=
    .step .start (Scenario.uiStep click) fun _ absent => nomatch absent
  have asking : Announced opened asked.1 :=
    clicking.next 0 ((handleNext_eq_some_iff clicked asked.1 0 ⟨_, asked.2⟩).2 ⟨[], waits, rfl⟩)
  have telling : Announced opened told.1 :=
    asking.next 0 ((handleNext_eq_some_iff asked.1 told.1 0 ⟨_, told.2⟩).2 ⟨[], echoed, rfl⟩)
  exact ⟨told.1, telling, quiet, telling.active_window_focused quiet active member rfl⟩

/-- A report of a change may say that the window has become active. The registry believes it, the overview
does not look, and the card of the active window is not focused. -/
theorem focus_misses_reported_change :
    ∃ history switcher,
      Session Informed (assemble {} true [Scenario.callsWindow] none).start history switcher ∧
        switcher.mailbox.waiting = [] ∧ ∃ window ∈ switcher.registry.windows,
          window.activated = true ∧ switcher.carousel.findByWindow? window.id = some ⟨1, 1⟩ ∧
            switcher.carousel.focused = none := by
  let active : Window := { Scenario.callsWindow with activated := true }
  let opened := (assemble {} true [Scenario.callsWindow] none).start
  let visible := (opened.applyStep (Scenario.visibilityStep true)).1
  let changed := (visible.applyStep (Scenario.windowStep (.changed active))).1
  let told := changed.taken.handle 0 (.window (.changed active))
  have informed : visible.Informed (Scenario.windowStep (.changed active)) := by
    intro report given
    cases given
    exact (by decide +kernel : visible.registry.has ⟨1⟩ = true)
  have opening : Session Informed opened [] visible :=
    .step .start (Scenario.visibilityStep true) fun _ absent => nomatch absent
  have telling : Session Informed opened [⟨.window (.changed active), told.2⟩] told.1 :=
    (opening.step _ informed).handling 0
      (by decide +kernel : changed.mailbox.waiting = [.window (.changed active)])
  exact ⟨_, told.1, telling, by decide +kernel, active, by decide +kernel, rfl,
    by decide +kernel, by decide +kernel⟩

end Switcher.Announced

end TaskSwitcher
