import TaskSwitcher.Proofs.Registry.Orderly
import TaskSwitcher.Proofs.Session.Course
import TaskSwitcher.Proofs.Session.Relay
import TaskSwitcher.Proofs.Switcher.Pictures

/-!
# Handling comes to rest

Handling an event may send further events, which may send further ones. Yet every event has a price that
covers all of them: an action of the user leads to at most two echoes or one echo and a picture, news that
a window has come or changed lead to at most one picture, and everything else leads to nothing. Handling an
event takes at least one from the price of what waits, so that price bounds the number of events that are
handled before the mailbox is empty, whatever waits there at first.
-/

namespace TaskSwitcher

/-- The most events that are handled because of this one, itself included. -/
def Event.price : Event → Nat
  | .ui _ => 3
  | .window (.added _) => 2
  | .window (.changed _) => 2
  | _ => 1

/-- The price of several events together. -/
def Event.totalPrice : List Event → Nat
  | [] => 0
  | event :: rest => event.price + totalPrice rest

/-- An event is at least handled itself. -/
theorem Event.one_le_price (event : Event) : 1 ≤ event.price := by
  unfold price
  split <;> omega

/-- An event leads to two further ones at most. -/
theorem Event.price_le_three (event : Event) : event.price ≤ 3 := by
  unfold price
  split <;> omega

@[simp] theorem Event.totalPrice_nil : Event.totalPrice [] = 0 :=
  rfl

@[simp] theorem Event.totalPrice_cons (event : Event) (rest : List Event) :
    Event.totalPrice (event :: rest) = event.price + Event.totalPrice rest :=
  rfl

@[simp] theorem Event.totalPrice_append (events more : List Event) :
    Event.totalPrice (events ++ more) = Event.totalPrice events + Event.totalPrice more := by
  induction events with
  | nil => simp
  | cons first rest inductionHypothesis =>
      rw [List.cons_append, totalPrice_cons, totalPrice_cons, inductionHypothesis, Nat.add_assoc]

/-- Events cost at most three each. -/
theorem Event.totalPrice_le (events : List Event) : Event.totalPrice events ≤ 3 * events.length := by
  induction events with
  | nil => simp
  | cons event rest inductionHypothesis =>
      have price := event.price_le_three
      rw [totalPrice_cons, List.length_cons]
      omega

/-- What the waiting events cost. -/
def Mailbox.load (mailbox : Mailbox) : Nat :=
  Event.totalPrice mailbox.waiting

namespace Mailbox

variable (mailbox : Mailbox)

/-- Events that are posted cost what they cost, and nothing if the mailbox is closed. -/
theorem load_postAll_le (events : List Event) :
    (mailbox.postAll events).load ≤ mailbox.load + Event.totalPrice events := by
  unfold postAll
  split
  · simp [load]
  · omega

/-- Only an empty mailbox costs nothing. -/
theorem load_eq_zero_iff : mailbox.load = 0 ↔ mailbox.waiting = [] := by
  unfold load
  cases mailbox.waiting with
  | nil => simp
  | cons event rest =>
      have price := event.one_le_price
      simp only [Event.totalPrice_cons]
      constructor
      · intro nothing
        omega
      · intro empty
        cases empty

end Mailbox

/-! ### The price of echoes -/

namespace Registry

variable {registry : Registry}

/-- Reports of one price cost as much as there are of them. -/
theorem totalPrice_map_window {reports : List WindowEvent} {price : Nat}
    (each : ∀ report ∈ reports, (Event.window report).price = price) :
    Event.totalPrice (reports.map .window) = reports.length * price := by
  induction reports with
  | nil => simp
  | cons first rest inductionHypothesis =>
      have later := inductionHypothesis fun report member =>
        each report (List.mem_cons_of_mem first member)
      rw [List.map_cons, Event.totalPrice_cons, each first List.mem_cons_self, later,
        List.length_cons, Nat.succ_mul, Nat.add_comm]

/-- The echo of a command to a registry in order costs two at most. -/
theorem Orderly.totalPrice_echo_le (orderly : registry.Orderly) (command : WindowCommand) :
    Event.totalPrice ((registry.perform command).2.map .window) ≤ 2 := by
  rw [Registry.perform]
  split
  · cases command with
    | activate id =>
        -- One window gets the activation and at most one loses it.
        have few := orderly.length_echo_activate id
        have each : ∀ report ∈ echo registry.windows (.activate id),
            (Event.window report).price = 1 := by
          intro report member
          simp only [echo] at member
          split at member
          · obtain ⟨window, -, rfl⟩ := List.mem_map.1 member
            rfl
          · cases member
        rw [totalPrice_map_window each]
        omega
    | close id =>
        have few := length_echo_close registry.windows id
        have each : ∀ report ∈ echo registry.windows (.close id),
            (Event.window report).price = 1 := by
          intro report member
          simp only [echo] at member
          split at member
          · rw [List.mem_singleton.1 member]
            rfl
          · cases member
        rw [totalPrice_map_window each]
        omega
    | fullscreen id value =>
        -- There is at most one report, but the card may ask for a picture because of it.
        have few := orderly.length_echo_fullscreen id value
        have each : ∀ report ∈ echo registry.windows (.fullscreen id value),
            (Event.window report).price = 2 := by
          intro report member
          obtain ⟨window, -, rfl⟩ := List.mem_map.1 member
          rfl
        rw [totalPrice_map_window each]
        omega
  · simp

end Registry

/-- The device changes in ways that keep a registry attained. -/
theorem Device.Relays.attained {accepts : Registry → WindowEvent → Prop} {before after : Device}
    (relays : Relays accepts before after) (attained : before.registry.Attained) :
    after.registry.Attained := by
  induction relays with
  | refl => exact attained
  | tail _ last inductionHypothesis =>
      cases last with
      | shell shell => exact inductionHypothesis
      | aside event unrelated => exact inductionHypothesis
      | report report accepted => exact inductionHypothesis.learn report
      | command command => exact inductionHypothesis.perform command

namespace Switcher

variable {switcher before middle after : Switcher}

/-- The registry is still one that can come about after an event was handled. -/
theorem attained_handle (attained : switcher.registry.Attained) (now : Nat) (event : Event) :
    (switcher.handle now event).1.registry.Attained := by
  have relays : Device.Relays (fun _ _ => False) switcher.toDevice
      (switcher.handle now event).1.toDevice := switcher.relays_handle now event
  exact relays.attained attained

/-! ### What handling adds to the load -/

/-- Asking for a picture costs at most its answer. -/
theorem load_requestThumbnail_le (switcher : Switcher) (handle : Handle) :
    (switcher.requestThumbnail handle).mailbox.load ≤ switcher.mailbox.load + 1 := by
  rcases switcher.requestThumbnail_cases handle with
    unchanged | ⟨picture, window, size, -, requested⟩
  · rw [unchanged]
    omega
  · rw [requested, mailbox_cancelThumbnail]
    change (switcher.thumbnailer.answer switcher.mailbox handle).load ≤ _
    unfold Thumbnailer.answer
    split
    · rw [Mailbox.post_eq_postAll]
      exact switcher.mailbox.load_postAll_le [_]
    · omega

/-- A command costs two at most: two echoes about the activation, or one that may ask for a picture. -/
theorem load_commandWindow_le (orderly : switcher.registry.Orderly) (command : WindowCommand) :
    (switcher.commandWindow command).mailbox.load ≤ switcher.mailbox.load + 2 := by
  have posted := switcher.mailbox.load_postAll_le
    ((switcher.registry.perform command).2.map .window)
  have price := orderly.totalPrice_echo_le command
  change (switcher.mailbox.postAll ((switcher.registry.perform command).2.map .window)).load ≤ _
  omega

/-- Moving the focus sends nothing. -/
theorem mailbox_focusIfActive (switcher : Switcher) (window : Window) (handle : Handle) :
    (switcher.focusIfActive window handle).mailbox = switcher.mailbox := by
  unfold focusIfActive
  split <;> rfl

/-- Adding a window costs at most the answer to one request. -/
theorem load_windowAdded_le (switcher : Switcher) (window : Window) :
    (switcher.windowAdded window).mailbox.load ≤ switcher.mailbox.load + 1 := by
  unfold windowAdded
  split
  · exact Nat.le_succ _
  · unfold placeWindow
    split
    · rw [mailbox_focusIfActive]
      exact load_requestThumbnail_le ..
    · rw [mailbox_focusIfActive]
      exact Nat.le_succ _

/-- A change of a window costs at most the answer to one request. -/
theorem load_windowChanged_le (switcher : Switcher) (window : Window) :
    (switcher.windowChanged window).1.mailbox.load ≤ switcher.mailbox.load + 1 := by
  unfold windowChanged
  split
  · exact Nat.le_succ _
  · split
    · exact Nat.le_succ _
    · exact load_requestThumbnail_le ..

/-- News about the activation send nothing. -/
theorem mailbox_windowActivated (switcher : Switcher) (window : Window) :
    (switcher.windowActivated window).1.mailbox = switcher.mailbox := by
  unfold windowActivated
  split
  · split <;> rfl
  · rfl

/-- Removing cards sends nothing. -/
theorem Clears.mailbox_eq (clears : Clears before after) : after.mailbox = before.mailbox := by
  obtain ⟨handles, rfl⟩ := clears
  induction handles generalizing before with
  | nil => rfl
  | cons first rest inductionHypothesis =>
      obtain ⟨mailbox, -, -⟩ := before.destroyActivity_parts first
      rw [List.foldl_cons, inductionHypothesis, mailbox]

/-- News about a launch send nothing. -/
theorem mailbox_handleLaunch (switcher : Switcher) (now : Nat) (report : LaunchEvent) :
    (switcher.handleLaunch now report).mailbox = switcher.mailbox := by
  rcases switcher.handleLaunch_cases now report with
    ⟨appId, appInfo, startupId, -, created⟩ | clears
  · rw [created]
    rfl
  · exact clears.clears.mailbox_eq

/-- An action of the user costs at most one command. -/
theorem load_handleUi_le (orderly : switcher.registry.Orderly) (event : UiEvent) :
    (switcher.handleUi event).1.mailbox.load ≤ switcher.mailbox.load + 2 := by
  have unchanged : switcher.mailbox.load ≤ switcher.mailbox.load + 2 := by omega
  cases event with
  | clicked reference =>
      refine withHandle_induction unchanged fun handle _ => ?_
      refine onActivity_induction unchanged fun activity _ => ?_
      change (switcher.raise activity).mailbox.load ≤ _
      unfold raise
      split
      · next window _ _ => exact load_commandWindow_le orderly (.activate window)
      · split
        · exact unchanged
        · exact unchanged
  | closeRequested reference =>
      refine withHandle_induction unchanged fun handle _ => ?_
      refine onWindow_induction unchanged fun _ window _ _ => ?_
      exact load_commandWindow_le orderly (.close window)
  | fullscreenRequested reference fullscreen =>
      refine withHandle_induction unchanged fun handle _ => ?_
      refine onWindow_induction unchanged fun _ window _ _ => ?_
      exact load_commandWindow_le orderly (.fullscreen window fullscreen)
  | resized reference width height =>
      refine withHandle_induction unchanged fun handle _ => ?_
      split
      · exact (load_requestThumbnail_le _ handle).trans (Nat.le_succ _)
      · exact unchanged
  | focusChanged reference hasFocus =>
      refine withHandle_induction unchanged fun handle _ => ?_
      split <;> exact unchanged
  | pageChanged index =>
      simp only [handleUi, pageChanged]
      split
      · exact unchanged
      · split
        · exact unchanged
        · refine withHandle_induction unchanged fun handle _ => ?_
          change (switcher.onWindow handle _).mailbox.load ≤ _
          refine onWindow_induction unchanged fun _ window _ _ => ?_
          exact load_commandWindow_le orderly (.activate window)
  | appLaunched appId => exact unchanged
  | selectionAborted => exact unchanged
  | usableAreaChanged width height => exact unchanged
  | refresh =>
      simp only [handleUi, refresh]
      split
      · exact unchanged
      · split
        · exact unchanged
        · exact (load_requestThumbnail_le _ _).trans (Nat.le_succ _)
  | reset => exact unchanged
  | focusAppSearch => exact unchanged
  | search input => exact unchanged

/-- Handling an event sends less than the event is worth. -/
theorem load_handle_lt (orderly : switcher.registry.Orderly) (now : Nat) (event : Event) :
    (switcher.handle now event).1.mailbox.load < switcher.mailbox.load + event.price := by
  cases event with
  | window report =>
      cases report with
      | added window => exact Nat.lt_succ_of_le (switcher.load_windowAdded_le window)
      | changed window => exact Nat.lt_succ_of_le (switcher.load_windowChanged_le window)
      | closed id =>
          have mailbox := (switcher.clears_windowClosed id).mailbox_eq
          rw [handle, handleWindow, mailbox]
          exact Nat.lt_succ_self _
      | activatedChanged window =>
          rw [handle, handleWindow, mailbox_windowActivated]
          exact Nat.lt_succ_self _
  | launch report =>
      rw [handle, mailbox_handleLaunch]
      exact Nat.lt_succ_self _
  | ui event => exact Nat.lt_succ_of_le (load_handleUi_le orderly event)
  | thumbnailReady activity request => exact Nat.lt_succ_self _
  | tick moment =>
      have mailbox := (switcher.clearsSplashes_expireLaunches moment).clears.mailbox_eq
      rw [handle, mailbox]
      exact Nat.lt_succ_self _

/-! ### Any number of events -/

/-- Events are taken from the mailbox one after the other, the oldest first, and handled, each at a time of
its own. -/
inductive Serves : Switcher → List Handled → Switcher → Prop where
  | rest (switcher : Switcher) : Serves switcher [] switcher
  | next {before middle after : Switcher} {handled : Handled} {history : List Handled} (now : Nat)
      (served : before.handleNext now = some (handled, middle))
      (onward : Serves middle history after) : Serves before (handled :: history) after

/-- The event that waited longest is paid for by what it took from the mailbox. -/
theorem load_handleNext_lt (orderly : before.registry.Orderly) {now : Nat} {handled : Handled}
    (served : before.handleNext now = some (handled, after)) :
    after.mailbox.load < before.mailbox.load := by
  obtain ⟨rest, waiting, served⟩ := (handleNext_eq_some_iff ..).1 served
  have orderlyTaken : before.taken.registry.Orderly := orderly
  have handling := load_handle_lt orderlyTaken now handled.event
  rw [served] at handling
  change after.mailbox.load < before.taken.mailbox.load + handled.event.price at handling
  have taken : before.mailbox.load = handled.event.price + before.taken.mailbox.load := by
    simp [Mailbox.load, Switcher.taken, waiting]
  omega

/-- The registry is still one that can come about after the oldest event was handled. -/
theorem attained_handleNext (attained : before.registry.Attained) {now : Nat} {handled : Handled}
    (served : before.handleNext now = some (handled, after)) : after.registry.Attained := by
  obtain ⟨rest, -, served⟩ := (handleNext_eq_some_iff ..).1 served
  have attainedTaken : before.taken.registry.Attained := attained
  have kept := attained_handle attainedTaken now handled.event
  rwa [served] at kept

/-- Each event that was handled has lowered the load. -/
theorem Serves.length_add_load_le {history : List Handled} (serves : Serves before history after)
    (attained : before.registry.Attained) :
    history.length + after.mailbox.load ≤ before.mailbox.load := by
  induction serves with
  | rest switcher => simp
  | next now served onward inductionHypothesis =>
      have later := inductionHypothesis (attained_handleNext attained served)
      have lower := load_handleNext_lt attained.orderly served
      rw [List.length_cons]
      omega

/-- The overview has nothing to do when nothing waits. -/
theorem handleNext_eq_none_iff (switcher : Switcher) (now : Nat) :
    switcher.handleNext now = none ↔ switcher.mailbox.waiting = [] := by
  rw [handleNext, Option.map_eq_none_iff, List.head?_eq_none_iff]

/-- Pumping serves the mailbox, as far as the limit allows. -/
theorem serves_pumpAtMost (switcher : Switcher) (now limit : Nat) :
    Serves switcher (switcher.pumpAtMost now limit).2 (switcher.pumpAtMost now limit).1 := by
  induction limit generalizing switcher with
  | zero => exact .rest switcher
  | succ limit inductionHypothesis =>
      rw [pumpAtMost]
      split
      · exact .rest switcher
      · next handled next served => exact .next now served (inductionHypothesis next)

/-- A limit that covers the load is not reached before the mailbox is empty. -/
theorem waiting_pumpAtMost {limit : Nat} (attained : switcher.registry.Attained)
    (enough : switcher.mailbox.load ≤ limit) (now : Nat) :
    (switcher.pumpAtMost now limit).1.mailbox.waiting = [] := by
  induction limit generalizing switcher with
  | zero => exact (switcher.mailbox.load_eq_zero_iff).1 (Nat.le_zero.1 enough)
  | succ limit inductionHypothesis =>
      rw [pumpAtMost]
      split
      · next none => exact (switcher.handleNext_eq_none_iff now).1 none
      · next handled next served =>
          have lower := load_handleNext_lt attained.orderly served
          exact inductionHypothesis (attained_handleNext attained served) (by omega)

/-- Whatever waits in the mailbox, and whether or not echoes and pictures are sent there: handling the
waiting events, those sent meanwhile included, goes on until none waits, and takes no more events than the
prices of those that waited at first add up to. -/
theorem handling_comes_to_rest (attained : switcher.registry.Attained) :
    (∀ history after, Serves switcher history after →
        history.length ≤ Event.totalPrice switcher.mailbox.waiting ∧
          ∀ now, after.handleNext now = none ↔ after.mailbox.waiting = []) ∧
      ∀ now, Serves switcher (switcher.pump now).2 (switcher.pump now).1 ∧
        (switcher.pump now).1.mailbox.waiting = [] := by
  refine ⟨fun history after serves => ⟨?_, after.handleNext_eq_none_iff⟩, fun now => ⟨?_, ?_⟩⟩
  · exact (Nat.le_add_right ..).trans (serves.length_add_load_le attained)
  · exact switcher.serves_pumpAtMost now _
  · exact waiting_pumpAtMost attained (Event.totalPrice_le switcher.mailbox.waiting) now

/-- A click on the second of two windows, the first of which is active, takes the three events that it
may take: the click itself, and the news that one window ceased to be active and the other became so. -/
theorem click_on_settings_takes_three :
    let windows := [{ Scenario.callsWindow with activated := true }, Scenario.settingsWindow]
    let opened := (assemble {} true windows none).start
    let clicked := { opened with mailbox := { waiting := [.ui (.clicked (.page 1))] } }
    clicked.registry.Attained ∧ (clicked.pump 0).2.length = 3 ∧
      Event.totalPrice clicked.mailbox.waiting = 3 ∧
      (clicked.pump 0).1.mailbox.waiting = [] := by
  intro windows opened clicked
  have attained : clicked.registry.Attained :=
    .put (.put (.empty true) { Scenario.callsWindow with activated := true }) Scenario.settingsWindow
  have comesToRest := handling_comes_to_rest attained
  exact ⟨attained, by decide +kernel, rfl, (comesToRest.2 0).2⟩

end Switcher

end TaskSwitcher
