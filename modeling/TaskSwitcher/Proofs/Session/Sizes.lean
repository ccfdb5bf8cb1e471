import TaskSwitcher.Proofs.Scenario.Acts
import TaskSwitcher.Proofs.Session.Areas
import TaskSwitcher.Proofs.Switcher.Sizes

/-!
# Pictures are asked for in drawable sizes

The size that a card wants is the one that it is drawn in, which is never empty, or else the area that it was
told of last. Settings with an empty area are refused, but neither a step of a scenario nor a report of another
area is. So a request has a drawable size whenever its card was drawn, and all requests have one if all areas
that were reported in the session are drawable.
-/

namespace TaskSwitcher

/-- One thing that happens in a session. -/
inductive SessionMove where
  /-- A step of a scenario is performed on the device. -/
  | step (step : ScenarioStep)
  /-- An event is handled that comes at the time `now`, wherever it comes from. -/
  | event (now : Nat) (event : Event)
  /-- The oldest waiting event is handled, if one waits. -/
  | next (now : Nat)
  | sync
  | collect
  /-- From now on no events are taken. -/
  | close

/-- The area that is reported to the shell or to the overview. -/
def SessionMove.area? : SessionMove → Option Size
  | .step performed => performed.area?
  | .event _ handled => handled.area?
  | _ => none

/-- The area that an act gives to the shell or reports to the overview. -/
def Act.area? : Act → Option Size
  | .area given => some given
  | .send event => event.area?
  | _ => none

namespace Switcher

/-- The situation after a move. -/
def move (switcher : Switcher) : SessionMove → Switcher
  | .step step => (switcher.applyStep step).1
  | .event now event => (switcher.handle now event).1
  | .next now => switcher.undergo (.next now)
  | .sync => switcher.syncWindows
  | .collect => switcher.collected
  | .close => { switcher with mailbox := switcher.mailbox.close }

/-- The situation after several moves. -/
def moveAll (switcher : Switcher) (moves : List SessionMove) : Switcher :=
  moves.foldl move switcher

end Switcher

/-! ### Areas on the device -/

/-- The acts of a step speak of no other area than the step. -/
theorem ScenarioStep.area?_of_mem_acts {step : ScenarioStep} {act : Act} (member : act ∈ step.acts)
    {area : Size} (speaks : act.area? = some area) : step.area? = some area := by
  obtain ⟨delay, overviewVisible, docked, window, launch, ui⟩ := step
  rw [acts, List.mem_cons, List.mem_append, List.mem_append] at member
  rcases member with rfl | (seen | launched) | told
  · cases speaks
  · cases window with
    | none => cases seen
    | some report =>
        obtain rfl | rfl : act = .learn report ∨ act = .send (.window report) := by
          simpa [WindowEvent.acts] using seen
        · cases speaks
        · cases speaks
  · cases launch with
    | none => cases launched
    | some report =>
        obtain rfl := List.mem_singleton.1 launched
        cases speaks
  · cases ui with
    | none => cases told
    | some action =>
        cases action with
        | usableAreaChanged width height =>
            obtain rfl | rfl : act = .area ⟨width, height⟩ ∨
                act = .send (.ui (.usableAreaChanged width height)) := by
              simpa [UiEvent.acts] using told
            · exact speaks
            · exact speaks
        | _ =>
            obtain rfl := List.mem_singleton.1 told
            cases speaks

namespace Device

/-- The shell has one of these areas and this scale, and no event that waits reports another area. -/
structure Confined (areas : Size → Prop) (scale : Int32) (device : Device) : Prop where
  shell : areas device.shell.usableArea
  scale : device.shell.scaleFactor = scale
  waiting : ∀ area ∈ device.mailbox.waiting.filterMap Event.area?, areas area

variable {areas : Size → Prop} {scale : Int32} {device : Device}

/-- What each act keeps, all acts keep, whether or not one of them fails. -/
theorem carryOutAll_induction {motive : Device → Prop} {acts : List Act}
    (kept : ∀ act ∈ acts, ∀ device, motive device → motive (device.carryOut act).1)
    (start : motive device) : motive (device.carryOutAll acts).1 := by
  induction acts generalizing device with
  | nil => exact start
  | cons act rest inductionHypothesis =>
      have first := kept act List.mem_cons_self device start
      have later := inductionHypothesis
        (fun other member => kept other (List.mem_cons_of_mem act member)) first
      rw [Device.carryOutAll]
      cases result : device.carryOut act with
      | mk middle outcome =>
          rw [result] at first later
          cases outcome with
          | ok _ => exact later
          | error failure => exact first

/-- An act that speaks of none but these areas keeps the device confined to them. -/
theorem Confined.carryOut (confined : device.Confined areas scale) {act : Act}
    (allowed : ∀ area, act.area? = some area → areas area) :
    (device.carryOut act).1.Confined areas scale := by
  cases act with
  | flags overviewVisible docked => exact ⟨confined.shell, confined.scale, confined.waiting⟩
  | learn report => exact ⟨confined.shell, confined.scale, confined.waiting⟩
  | area area => exact ⟨allowed area rfl, confined.scale, confined.waiting⟩
  | send event =>
      rw [Device.carryOut, fst_send]
      refine ⟨confined.shell, confined.scale, fun area reported => ?_⟩
      obtain ⟨sent, waits, speaks⟩ := List.mem_filterMap.1 reported
      rcases Mailbox.mem_waiting_postAll waits with before | new
      · exact confined.waiting area (List.mem_filterMap.2 ⟨sent, before, speaks⟩)
      · obtain rfl := List.mem_singleton.1 new
        exact allowed area speaks

/-- A step that reports none but these areas keeps the device confined to them. -/
theorem Confined.applyStep (confined : device.Confined areas scale) {step : ScenarioStep}
    (allowed : ∀ area, step.area? = some area → areas area) :
    (device.applyStep step).1.Confined areas scale := by
  rw [applyStep_eq_carryOutAll]
  refine carryOutAll_induction (fun act member device former => ?_) confined
  exact former.carryOut fun area speaks => allowed area (step.area?_of_mem_acts member speaks)

end Device

namespace Switcher

variable {areas : Size → Prop} {holds : Activity → Prop} {scale : Int32}
  {switcher : Switcher}

/-! ### Along a session -/

/-- Calls set no area and report none. -/
theorem confined_performs {before after : Switcher} {calls : List Call}
    (confined : before.toDevice.Confined areas scale) (performs : Performs before calls after) :
    after.toDevice.Confined areas scale := by
  obtain ⟨shell, waiting⟩ := area_performs performs
  have kept : after.shell.scaleFactor = before.shell.scaleFactor :=
    performs.keeps (·.shell.scaleFactor) (fun _ _ _ => rfl) fun _ call => by cases call <;> rfl
  exact ⟨shell ▸ confined.shell, kept.trans confined.scale, waiting ▸ confined.waiting⟩

/-- The situation is sound, and only these areas were spoken of so far. -/
structure Screened (areas : Size → Prop) (holds : Activity → Prop) (scale : Int32)
    (switcher : Switcher) : Prop where
  valid : switcher.carousel.Valid
  confined : switcher.toDevice.Confined areas scale
  upholds : switcher.Upholds areas holds

namespace Screened

variable (screened : switcher.Screened areas holds scale) (lasting : Lasting areas holds)

include screened lasting

/-- An event that reports none but these areas keeps the situation screened. -/
theorem handle (now : Nat) {event : Event} (allowed : ∀ area, event.area? = some area → areas area) :
    (switcher.handle now event).1.Screened areas holds scale := by
  obtain ⟨calls, performs⟩ := switcher.exists_performs_handle now event
  exact ⟨valid_handle screened.valid now event, confined_performs screened.confined performs,
    screened.upholds.handle lasting screened.valid now allowed⟩

/-- A look at the registry gives new cards the area of the shell. -/
theorem syncWindows : switcher.syncWindows.Screened areas holds scale := by
  obtain ⟨calls, performs, -⟩ := switcher.pictures_syncWindows
  exact ⟨valid_syncWindows screened.valid, confined_performs screened.confined performs,
    screened.upholds.syncWindows lasting screened.valid⟩

omit lasting in
/-- Taking the oldest event from the mailbox changes no card. -/
theorem taken : switcher.taken.Screened areas holds scale := by
  refine ⟨screened.valid, ⟨screened.confined.shell, screened.confined.scale, fun area waits => ?_⟩,
    screened.upholds.of_same rfl rfl⟩
  exact screened.confined.waiting area (((List.tail_sublist _).filterMap _).subset waits)

/-- A move that speaks of none but these areas keeps the situation screened. -/
theorem move {move : SessionMove} (allowed : ∀ area, move.area? = some area → areas area) :
    (switcher.move move).Screened areas holds scale := by
  cases move with
  | step step =>
      have confined : (switcher.applyStep step).1.toDevice.Confined areas scale :=
        screened.confined.applyStep allowed
      refine ⟨screened.valid, confined, ⟨confined.shell, screened.upholds.cards⟩⟩
  | event now event => exact screened.handle lasting now allowed
  | next now =>
      rw [Switcher.move]
      rcases switcher.undergo_next_cases now with unchanged | ⟨event, waits, handled⟩
      · rwa [unchanged]
      · rw [handled]
        exact screened.taken.handle lasting now fun area speaks =>
          screened.confined.waiting area (List.mem_filterMap.2 ⟨event, waits, speaks⟩)
  | sync => exact screened.syncWindows lasting
  | collect => exact ⟨screened.valid, screened.confined, screened.upholds.of_same rfl rfl⟩
  | close =>
      refine ⟨screened.valid, ⟨screened.confined.shell, screened.confined.scale, ?_⟩,
        screened.upholds.of_same rfl rfl⟩
      exact screened.confined.waiting

/-- Moves that speak of none but these areas keep the situation screened. -/
theorem moveAll {moves : List SessionMove}
    (allowed : ∀ move ∈ moves, ∀ area, move.area? = some area → areas area) :
    (switcher.moveAll moves).Screened areas holds scale := by
  induction moves generalizing switcher with
  | nil => exact screened
  | cons first rest inductionHypothesis =>
      exact inductionHypothesis (screened.move lasting (allowed first List.mem_cons_self))
        fun move member => allowed move (List.mem_cons_of_mem first member)

end Screened

/-! ### Requests -/

/-- The size that a card is drawn in is never empty. -/
theorem lasting_allocation :
    Lasting (fun _ => True) fun activity =>
      ∀ size, activity.allocation = some size → size.isDrawable = true := by
  refine lasting_of_sizes (fun _ drawn => ∀ size, drawn = some size → size.isDrawable = true)
    (fun _ _ same => nomatch same) (fun _ former => former) fun drawable _ size same => ?_
  exact Option.some.inj same ▸ drawable

/-- The size that a card wants is not empty if it is never told of an empty area. -/
theorem lasting_drawable :
    Lasting (·.isDrawable = true) (·.thumbnailSize.isDrawable = true) := by
  refine lasting_of_sizes (fun assumed drawn => (drawn.getD assumed).isDrawable = true) id
    (fun {_ _ drawn} allowed former => ?_) fun drawable _ => drawable
  cases drawn with
  | none => exact allowed
  | some _ => exact former

/-- A new overview has no cards, and its shell has the area of the settings. -/
theorem screened_assemble (settings : Settings) (wired : Bool) (windows : List Window)
    (launchTimeout : Option Nat) (allowed : areas settings.screen.shell.usableArea) :
    (assemble settings wired windows launchTimeout).Screened areas holds
      settings.screen.scaleFactor where
  valid := Carousel.valid_empty
  confined := ⟨allowed, rfl, fun _ waits => nomatch waits⟩
  upholds := ⟨allowed, fun handle activity found => by
    cases (Carousel.get?_empty handle).symm.trans found⟩

/-- Every picture that a move asks for fits the card that it is for, as this is after the move. -/
theorem asks_move (valid : switcher.carousel.Valid) (move : SessionMove) :
    Asks (switcher.move move).Fits switcher (switcher.move move) := by
  cases move with
  | event now event => exact asks_handle valid now event
  | next now =>
      rw [Switcher.move]
      rcases switcher.undergo_next_cases now with unchanged | ⟨event, -, handled⟩
      · rw [unchanged]
        exact .silent rfl
      · rw [handled]
        have validTaken : switcher.taken.carousel.Valid := valid
        have taken (allowed) : Asks allowed switcher switcher.taken := .silent rfl
        exact (taken _).trans (asks_handle validTaken now event)
  | sync => exact asks_syncWindows valid
  | _ => exact .silent rfl

/-- Settings that are accepted have an area that is not empty and a scale of at least one. -/
theorem screen_of_sound {settings : Settings} (sound : settings.fault? = none) :
    settings.screen.shell.usableArea.isDrawable = true ∧ 1 ≤ settings.screen.scaleFactor := by
  simp only [Settings.fault?, Settings.faults, List.findSome?_eq_none_iff, id_eq,
    List.forall_mem_cons] at sound
  obtain ⟨-, -, area, scale, -⟩ := sound
  refine ⟨by simpa using area, ?_⟩
  have range : 1 ≤ settings.screen.scaleFactor ∧ settings.screen.scaleFactor ≤ 4 := by
    simpa using scale
  exact range.1

/-- In every session that starts with accepted settings, whatever happens in it, each picture is asked for on
behalf of a card that shows a window, for this window, and in the size that the card wants at the scale of the
shell. The size asked for is drawable exactly if the wanted one is, and then each side is the product or the end
of the range. The wanted size is drawable if the card was drawn, or if no empty area was reported. -/
theorem requests_fit_cards {settings : Settings} (sound : settings.fault? = none) (wired : Bool)
    (windows : List Window) (launchTimeout : Option Nat) (moves : List SessionMove) (move : SessionMove) :
    let before := (assemble settings wired windows launchTimeout).moveAll moves
    let after := before.move move
    ∃ calls, after.calls = before.calls ++ calls ∧
      ∀ request handle window size, .thumbnailRequest request handle window size ∈ calls →
        ∃ activity, after.carousel.get? handle = some activity ∧
          activity.window? = some window ∧
          size = activity.thumbnailSize.scaled after.shell.scaleFactor ∧
          size.isDrawable = activity.thumbnailSize.isDrawable ∧
          (activity.thumbnailSize.isDrawable = true →
            size.Magnifies activity.thumbnailSize after.shell.scaleFactor) ∧
          (activity.allocation ≠ none ∨
              (∀ reported ∈ moves ++ [move], ∀ area, reported.area? = some area →
                area.isDrawable = true) →
            activity.thumbnailSize.isDrawable = true) := by
  intro before after
  obtain ⟨area, scales⟩ := screen_of_sound sound
  have all {areas holds} (lasting : Lasting areas holds) (allowed : areas settings.screen.shell.usableArea)
      (reports : ∀ reported ∈ moves ++ [move], ∀ area, reported.area? = some area → areas area) :
      before.Screened areas holds settings.screen.scaleFactor ∧
        after.Screened areas holds settings.screen.scaleFactor := by
    have screened := (screened_assemble settings wired windows launchTimeout allowed).moveAll lasting
      fun reported member => reports reported (List.mem_append_left _ member)
    exact ⟨screened, screened.move lasting (reports move (by simp))⟩
  obtain ⟨screenedBefore, screened⟩ := all lasting_allocation trivial fun _ _ _ _ => trivial
  obtain ⟨calls, journal, fit⟩ := asks_move screenedBefore.valid move
  refine ⟨calls, journal, fun request handle window size given => ?_⟩
  obtain ⟨activity, found, shows, rfl⟩ := fit request handle window size given
  have scale : 1 ≤ after.shell.scaleFactor := screened.confined.scale ▸ scales
  rw [pictureScale_eq scale]
  refine ⟨activity, found, shows, rfl, Size.isDrawable_scaled scale, Size.magnifies_scaled scale, ?_⟩
  rintro (drawn | reports)
  · obtain ⟨size, known⟩ := Option.ne_none_iff_exists'.1 drawn
    rw [Activity.thumbnailSize, known]
    exact screened.upholds.cards handle activity found size known
  · exact (all lasting_drawable area reports).2.upholds.cards handle activity found

/-- A wide area is reported while the overview is hidden. The next picture is as wide as the range allows. -/
theorem calls_picture_reaches_end :
    let before := (assemble {} true [Scenario.callsWindow] none).moveAll
      [.sync, .event 0 (.ui (.usableAreaChanged 1500000000 500))]
    let after := before.move (.event 0 (.window (.changed Scenario.callsWindow)))
    let handle : Handle := ⟨1, 1⟩
    let size : Size := ⟨2147483647, 1000⟩
    after.calls = before.calls ++ [.thumbnailRequest ⟨1⟩ handle ⟨1⟩ size] ∧
      ∃ activity, after.carousel.get? handle = some activity ∧ activity.window? = some ⟨1⟩ ∧
        size.Magnifies activity.thumbnailSize after.shell.scaleFactor := by
  intro before after handle size
  have journal : after.calls = before.calls ++ [.thumbnailRequest ⟨1⟩ handle ⟨1⟩ size] := by
    decide +kernel
  have sound : ({} : Settings).fault? = none := by decide +kernel
  obtain ⟨calls, appended, fit⟩ := requests_fit_cards sound true [Scenario.callsWindow] none
    [.sync, .event 0 (.ui (.usableAreaChanged 1500000000 500))]
    (.event 0 (.window (.changed Scenario.callsWindow)))
  obtain rfl := List.append_cancel_left (appended.symm.trans journal)
  obtain ⟨activity, found, shows, -, drawable, magnifies, -⟩ :=
    fit ⟨1⟩ handle ⟨1⟩ size (List.mem_singleton.2 rfl)
  exact ⟨journal, activity, found, shows, magnifies (drawable.symm.trans (by decide))⟩

/-- An empty area is reported and believed, and the next picture is asked for without any size. -/
theorem picture_requested_without_size :
    let settings : Settings := {}
    let before := (assemble settings true [Scenario.callsWindow] none).moveAll
      [.sync, .event 0 (.ui (.usableAreaChanged 0 0))]
    let after := before.move (.event 0 (.window (.changed Scenario.callsWindow)))
    settings.fault? = none ∧
      ∃ request handle, .thumbnailRequest request handle ⟨1⟩ ⟨0, 0⟩ ∈ after.calls := by
  intro settings before after
  exact ⟨by decide +kernel, ⟨1⟩, ⟨1, 1⟩, by decide +kernel⟩

end Switcher

end TaskSwitcher
