import TaskSwitcher.Proofs.Scenario.Steps
import TaskSwitcher.Proofs.Session.Course
import TaskSwitcher.Proofs.Session.Relay
import TaskSwitcher.Proofs.Switcher.Areas

/-!
# Cards catch up with the usable area

The shell takes over a new usable area at once, the cards when the report of it is handled. In between
cards may assume the old area, the new one, or an area that is older than both; all that is certain is that
the newest report that waits speaks of the area that the shell has. When no report waits, the last one that
was handled spoke of it, and every card has believed it or was made since.
-/

namespace TaskSwitcher

/-- The area that the newest of these events reports, if any of them speaks of one. -/
def newestArea? (events : List Event) : Option Size :=
  (events.filterMap Event.area?).getLast?

section

variable (events more : List Event)

/-- The newest area is reported by the later events if they report one. -/
theorem newestArea?_append :
    newestArea? (events ++ more) = (newestArea? more).or (newestArea? events) := by
  rw [newestArea?, List.filterMap_append, List.getLast?_append]
  rfl

/-- The first event counts when no later one reports an area. -/
theorem newestArea?_cons (event : Event) :
    newestArea? (event :: events) = (newestArea? events).or event.area? := by
  rw [← List.singleton_append, newestArea?_append]
  cases reported : event.area? <;> simp [newestArea?, reported]

variable {events} in
/-- Events that report no area have no newest one. -/
theorem newestArea?_eq_none (silent : ∀ event ∈ events, event.area? = none) :
    newestArea? events = none := by
  rw [newestArea?, List.getLast?_eq_none_iff, List.filterMap_eq_nil_iff]
  exact silent

end

/-- Events that speak of no area make no difference to the areas that wait to be reported. -/
theorem Mailbox.filterMap_area?_postAll (mailbox : Mailbox) {events : List Event}
    (silent : ∀ event ∈ events, event.area? = none) :
    (mailbox.postAll events).waiting.filterMap Event.area? =
      mailbox.waiting.filterMap Event.area? := by
  unfold postAll
  split
  · rw [List.filterMap_append, List.filterMap_eq_nil_iff.2 silent, List.append_nil]
  · rfl

/-! ### Steps -/

/-- A step reports one area at most, in its action. -/
theorem ScenarioStep.newestArea?_events (step : ScenarioStep) :
    newestArea? step.events = step.area? := by
  obtain ⟨delay, overviewVisible, docked, window, launch, ui⟩ := step
  have silent : newestArea?
      ((window.map Event.window).toList ++ (launch.map Event.launch).toList) = none := by
    refine newestArea?_eq_none fun event member => ?_
    rcases List.mem_append.1 member with report | report
    · obtain ⟨_, -, rfl⟩ := Option.map_eq_some_iff.1 (Option.mem_toList.1 report)
      rfl
    · obtain ⟨_, -, rfl⟩ := Option.map_eq_some_iff.1 (Option.mem_toList.1 report)
      rfl
  rw [events, newestArea?_append, silent, Option.or_none]
  cases ui with
  | none => rfl
  | some event => exact newestArea?_cons [] (.ui event)

namespace Switcher

variable {switcher : Switcher}

/-! ### Commands of the overview -/

/-- No command touches the usable area, and none leads to a report about it. -/
theorem area_obey (switcher : Switcher) (call : Call) :
    (switcher.obey call).shell.usableArea = switcher.shell.usableArea ∧
      (switcher.obey call).mailbox.waiting.filterMap Event.area? =
        switcher.mailbox.waiting.filterMap Event.area? := by
  cases call with
  | window command =>
      refine ⟨rfl, switcher.mailbox.filterMap_area?_postAll fun event echoed => ?_⟩
      obtain ⟨report, -, rfl⟩ := List.mem_map.1 echoed
      rfl
  | thumbnailRequest request activity window size =>
      refine ⟨rfl, ?_⟩
      simp only [obey, askThumbnail, Thumbnailer.answer]
      split
      · refine switcher.mailbox.filterMap_area?_postAll fun event answered => ?_
        obtain rfl := List.mem_singleton.1 answered
        rfl
      · rfl
  | _ => exact ⟨rfl, rfl⟩

/-- Calls neither change the area of the shell nor report one. -/
theorem area_performs {before after : Switcher} {calls : List Call}
    (performs : Performs before calls after) :
    after.shell.usableArea = before.shell.usableArea ∧
      after.mailbox.waiting.filterMap Event.area? =
        before.mailbox.waiting.filterMap Event.area? :=
  ⟨performs.keeps (·.shell.usableArea) (fun _ _ _ => rfl) fun switcher call =>
      (switcher.area_obey call).1,
    performs.keeps (·.mailbox.waiting.filterMap Event.area?) (fun _ _ _ => rfl)
      fun switcher call => (switcher.area_obey call).2⟩

/-- An event that is handled leaves the area of the shell alone and makes no report of one. -/
theorem area_handle (switcher : Switcher) (now : Nat) (event : Event) :
    (switcher.handle now event).1.shell.usableArea = switcher.shell.usableArea ∧
      newestArea? (switcher.handle now event).1.mailbox.waiting =
        newestArea? switcher.mailbox.waiting := by
  obtain ⟨calls, performs⟩ := switcher.exists_performs_handle now event
  exact (area_performs performs).imp_right (congrArg List.getLast?)

/-- A look at the registry leaves the area of the shell alone and makes no report of one. -/
theorem area_syncWindows (switcher : Switcher) :
    switcher.syncWindows.shell.usableArea = switcher.shell.usableArea ∧
      newestArea? switcher.syncWindows.mailbox.waiting = newestArea? switcher.mailbox.waiting := by
  obtain ⟨calls, performs, -⟩ := switcher.pictures_syncWindows
  exact (area_performs performs).imp_right (congrArg List.getLast?)

/-! ### What is known of the area -/

/-- The newest report that waits speaks of the area that the shell has. While none waits, all cards assume
this area. -/
structure CatchesUp (switcher : Switcher) : Prop where
  newest : ∀ area, newestArea? switcher.mailbox.waiting = some area →
    switcher.shell.usableArea = area
  settled : newestArea? switcher.mailbox.waiting = none → switcher.Fills switcher.shell.usableArea

/-- A step sets the area of the shell and the report of it becomes the newest one. -/
theorem CatchesUp.applyStep (catchesUp : switcher.CatchesUp) (isOpen : switcher.mailbox.isOpen = true)
    (step : ScenarioStep) : (switcher.applyStep step).1.CatchesUp := by
  have applied := switcher.toDevice.applyStep_of_isOpen isOpen step
  have shell : (switcher.applyStep step).1.shell.usableArea =
      step.area?.getD switcher.shell.usableArea := by
    rw [← switcher.toDevice.usableArea_shellAfterStep]
    exact congrArg (·.1.shell.usableArea) applied
  have newest : newestArea? (switcher.applyStep step).1.mailbox.waiting =
      step.area?.or (newestArea? switcher.mailbox.waiting) := by
    rw [← step.newestArea?_events, ← newestArea?_append, ← switcher.mailbox.waiting_postAll _ isOpen]
    exact congrArg (fun result => newestArea? result.1.mailbox.waiting) applied
  cases reported : step.area? with
  | some area =>
      rw [reported] at shell newest
      refine ⟨fun other waits => ?_, fun none => ?_⟩
      · rw [newest] at waits
        cases waits
        exact shell
      · rw [newest] at none
        cases none
  | none =>
      rw [reported] at shell newest
      refine ⟨fun area waits => shell.trans (catchesUp.newest area (newest.symm.trans waits)), ?_⟩
      intro none
      have fills := catchesUp.settled (newest.symm.trans none)
      exact ⟨rfl, fun handle activity found => (fills.cards handle activity found).trans shell.symm⟩

/-- Of the reports that wait only the last one counts, so nothing has to be known of the cards while another
report waits behind the one that is handled. -/
theorem CatchesUp.next {after : Switcher} {handled : Handled} {now : Nat} (catchesUp : switcher.CatchesUp)
    (valid : switcher.carousel.Valid) (next : switcher.handleNext now = some (handled, after)) :
    after.CatchesUp := by
  obtain ⟨rest, waiting, served⟩ := (handleNext_eq_some_iff ..).1 next
  obtain rfl := congrArg Prod.fst served
  have remaining : switcher.taken.mailbox.waiting = rest := by simp [taken, waiting]
  obtain ⟨shell, newest⟩ := switcher.taken.area_handle now handled.event
  rw [remaining] at newest
  have former := newestArea?_cons rest handled.event
  rw [← waiting] at former
  -- The handled event counts only if no report waits behind it.
  refine ⟨fun area waits => ?_, fun none => ?_⟩
  · rw [newest] at waits
    rw [waits, Option.some_or] at former
    exact shell.trans (catchesUp.newest area former)
  · rw [newest] at none
    rw [none, Option.none_or] at former
    rw [shell]
    cases reported : handled.event.area? with
    | some area =>
        have right : switcher.taken.shell.usableArea = area :=
          catchesUp.newest area (former.trans reported)
        rw [right]
        exact fills_handle_of_area now reported right
    | none =>
        have fills := catchesUp.settled (former.trans reported)
        have fillsTaken : switcher.taken.Fills switcher.shell.usableArea := fills.of_same rfl rfl
        exact fillsTaken.handle valid now reported

/-- Cards made by a look at the registry assume the area of the shell. -/
theorem CatchesUp.syncWindows (catchesUp : switcher.CatchesUp) (valid : switcher.carousel.Valid) :
    switcher.syncWindows.CatchesUp := by
  obtain ⟨shell, newest⟩ := switcher.area_syncWindows
  refine ⟨fun area waits => ?_, fun none => ?_⟩
  · exact shell.trans (catchesUp.newest area (newest.symm.trans waits))
  · rw [shell]
    exact (catchesUp.settled (newest.symm.trans none)).syncWindows valid

end Switcher

namespace Session

open Switcher (Handled assemble)

variable {settings : Settings} {windows : List Window} {limit : Option Nat} {switcher : Switcher}
  {history : List Handled} {permitted : Switcher → ScenarioStep → Prop}

/-- Neither a step nor the overview closes the mailbox. -/
theorem isOpen
    (session : Session permitted (assemble settings true windows limit).start history switcher) :
    switcher.mailbox.isOpen = true := by
  induction session with
  | start => exact (Switcher.isOpen_syncWindows _).trans rfl
  | @step _ before _ step _ inductionHypothesis =>
      have relays : Device.Relays (fun _ _ => True) before.toDevice
          (before.applyStep step).1.toDevice := Device.relays_applyStep step fun _ _ => trivial
      exact relays.isOpen_eq.trans inductionHypothesis
  | @next _ before _ handled _ now next inductionHypothesis =>
      obtain ⟨rest, -, served⟩ := (Switcher.handleNext_eq_some_iff ..).1 next
      have stays := before.taken.isOpen_handle now handled.event
      rw [served] at stays
      exact stays.trans inductionHypothesis
  | sync _ inductionHypothesis =>
      exact (Switcher.isOpen_syncWindows _).trans inductionHypothesis

/-- In a session the cards have the area of the shell or will be told of it. -/
theorem catchesUp
    (session : Session permitted (assemble settings true windows limit).start history switcher) :
    switcher.CatchesUp := by
  induction session with
  | start =>
      have empty : (assemble settings true windows limit).CatchesUp := by
        refine ⟨fun area waits => ?_, fun _ => ⟨rfl, fun handle activity found => ?_⟩⟩
        · cases waits
        · cases (Carousel.get?_empty handle).symm.trans found
      exact empty.syncWindows Carousel.valid_empty
  | step course step _ inductionHypothesis => exact inductionHypothesis.applyStep course.isOpen step
  | next course now next inductionHypothesis =>
      exact inductionHypothesis.next (course.reachable (.start rfl rfl)).valid next
  | sync course inductionHypothesis =>
      exact inductionHypothesis.syncWindows (course.reachable (.start rfl rfl)).valid

/-- However steps and handled events were interleaved, whenever no report of a changed area waits every
card assumes that its window will fill the usable area of the shell. -/
theorem cards_fill_usable_area
    (session : Session (fun _ _ => True) (assemble settings true windows limit).start history
      switcher)
    (quiet : ∀ width height, .ui (.usableAreaChanged width height) ∉ switcher.mailbox.waiting) :
    ∀ activity ∈ switcher.carousel.activities,
      activity.geometry.size = switcher.shell.usableArea := by
  have none : newestArea? switcher.mailbox.waiting = none := by
    refine newestArea?_eq_none fun event waits => ?_
    cases event with
    | ui event =>
        cases event with
        | usableAreaChanged width height => exact absurd waits (quiet width height)
        | _ => rfl
    | _ => rfl
  intro activity member
  obtain ⟨handle, entry⟩ := (Carousel.mem_activities ..).1 member
  have found := ((switcher.carousel.mem_entries handle activity).1 entry).2
  exact (session.catchesUp.settled none).cards handle activity found

/-- A window is opened and the area changes twice before any of this is handled. The new card takes the last
area at once, is then given the one before it, and in the end has the last one again, as the old card has. -/
theorem settings_opened_before_changes :
    ∃ history switcher,
      Session (fun _ _ => True) (assemble {} true [Scenario.callsWindow] none).start history
        switcher ∧
        history.length = 3 ∧ switcher.carousel.length = 2 ∧
        ∀ activity ∈ switcher.carousel.activities, activity.geometry.size = ⟨720, 1200⟩ := by
  let added : WindowEvent := .added Scenario.settingsWindow
  let first : UiEvent := .usableAreaChanged 360 500
  let second : UiEvent := .usableAreaChanged 720 1200
  let opened := (assemble {} true [Scenario.callsWindow] none).start
  let joined := (opened.applyStep (Scenario.windowStep added)).1
  let smaller := (joined.applyStep (Scenario.uiStep first)).1
  let larger := (smaller.applyStep (Scenario.uiStep second)).1
  let one := larger.taken.handle 0 (.window added)
  let two := one.1.taken.handle 0 (.ui first)
  let three := two.1.taken.handle 0 (.ui second)
  have steps : Session (fun _ _ => True) opened [] larger :=
    .step (.step (.step .start _ trivial) _ trivial) _ trivial
  have handledOne : Session (fun _ _ => True) opened [⟨.window added, one.2⟩] one.1 :=
    steps.handling 0 (by decide +kernel :
      larger.mailbox.waiting = [.window added, .ui first, .ui second])
  have handledTwo : Session (fun _ _ => True) opened
      [⟨.window added, one.2⟩, ⟨.ui first, two.2⟩] two.1 :=
    handledOne.handling 0 (by decide +kernel : one.1.mailbox.waiting = [.ui first, .ui second])
  have course : Session (fun _ _ => True) opened
      [⟨.window added, one.2⟩, ⟨.ui first, two.2⟩, ⟨.ui second, three.2⟩] three.1 :=
    handledTwo.handling 0 (by decide +kernel : two.1.mailbox.waiting = [.ui second])
  have none : three.1.mailbox.waiting = [] := by decide +kernel
  have area : three.1.shell.usableArea = ⟨720, 1200⟩ := by decide +kernel
  refine ⟨_, _, course, rfl, by decide +kernel, ?_⟩
  have fills := course.cards_fill_usable_area fun width height waits => by
    rw [none] at waits
    cases waits
  exact area ▸ fills

end Session

end TaskSwitcher
