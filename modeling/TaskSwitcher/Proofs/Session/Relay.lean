import Mathlib.Logic.Relation
import TaskSwitcher.Proofs.Switcher.Deeds

/-!
# How the device changes

Both a step of a scenario and a command of the overview change the device in a few ways only. The shell
changes without a word; a report is believed by the registry and put into the mailbox; a command is carried
out by the registry and its echo put into the mailbox; and other events may join the queue. What each of
these keeps, all of them keep.
-/

namespace TaskSwitcher

/-- The event is no report about a window. -/
def Event.Unrelated : Event → Prop
  | .window _ => False
  | _ => True

namespace Device

/-- One change of the device. `accepts` says which reports the registry may be given. -/
inductive Relay (accepts : Registry → WindowEvent → Prop) (device : Device) : Device → Prop where
  | shell (shell : Shell) : Relay accepts device { device with shell }
  | aside (event : Event) (unrelated : event.Unrelated) :
      Relay accepts device { device with mailbox := device.mailbox.post event }
  | report (report : WindowEvent) (accepted : accepts device.registry report) :
      Relay accepts device
        { device with
          registry := device.registry.learn report
          mailbox := device.mailbox.post (.window report) }
  | command (command : WindowCommand) :
      Relay accepts device
        { device with
          registry := (device.registry.perform command).1
          mailbox := device.mailbox.postAll ((device.registry.perform command).2.map .window) }

/-- Any number of changes, one after the other. -/
abbrev Relays (accepts : Registry → WindowEvent → Prop) : Device → Device → Prop :=
  Relation.ReflTransGen (Relay accepts)

variable {accepts : Registry → WindowEvent → Prop} {device before after : Device}

/-- Reports that are accepted are accepted by whoever asks less. -/
theorem Relay.mono {other : Registry → WindowEvent → Prop}
    (weaker : ∀ registry report, accepts registry report → other registry report)
    (relay : Relay accepts before after) : Relay other before after := by
  cases relay with
  | shell shell => exact .shell shell
  | aside event unrelated => exact .aside event unrelated
  | report report accepted => exact .report report (weaker _ report accepted)
  | command command => exact .command command

/-- Changes whose reports are accepted are accepted by whoever asks less. -/
theorem Relays.mono {other : Registry → WindowEvent → Prop}
    (weaker : ∀ registry report, accepts registry report → other registry report)
    (relays : Relays accepts before after) : Relays other before after :=
  Relation.ReflTransGen.mono (fun _ _ relay => relay.mono weaker) _ _ relays

/-! ### Nothing gets lost -/

/-- No change of the device opens or closes the mailbox. -/
theorem Relay.isOpen_eq (relay : Relay accepts before after) :
    after.mailbox.isOpen = before.mailbox.isOpen := by
  cases relay with
  | shell shell => rfl
  | aside event unrelated => exact before.mailbox.isOpen_postAll [event]
  | report report accepted => exact before.mailbox.isOpen_postAll [.window report]
  | command command => exact before.mailbox.isOpen_postAll _

/-- A change of the device puts something behind what waits, or nothing. -/
theorem Relay.waiting_prefix (relay : Relay accepts before after) :
    before.mailbox.waiting <+: after.mailbox.waiting := by
  cases relay with
  | shell shell => exact List.prefix_rfl
  | aside event unrelated => exact before.mailbox.waiting_prefix_postAll [event]
  | report report accepted => exact before.mailbox.waiting_prefix_postAll [.window report]
  | command command => exact before.mailbox.waiting_prefix_postAll _

/-- No changes of the device open or close the mailbox. -/
theorem Relays.isOpen_eq (relays : Relays accepts before after) :
    after.mailbox.isOpen = before.mailbox.isOpen := by
  induction relays with
  | refl => rfl
  | tail _ last inductionHypothesis => exact last.isOpen_eq.trans inductionHypothesis

/-- What waits still waits in front after any changes of the device. -/
theorem Relays.waiting_prefix (relays : Relays accepts before after) :
    before.mailbox.waiting <+: after.mailbox.waiting := by
  induction relays with
  | refl => exact List.prefix_rfl
  | tail _ last inductionHypothesis => exact inductionHypothesis.trans last.waiting_prefix

/-! ### Steps of a scenario -/

/-- Whether or not the mailbox is open, sending changes nothing else. -/
theorem fst_send (device : Device) (event : Event) :
    (device.send event).1 = { device with mailbox := device.mailbox.post event } := by
  rw [send]
  split
  · rfl
  · next closed => rw [Mailbox.post, if_neg closed]

/-- One thing and then another are changes of the device if both are, whether or not the first one fails. -/
theorem relays_andThen {result : Device × Outcome} {next : Device → Device × Outcome}
    (first : Relays accepts device result.1)
    (second : ∀ middle, Relays accepts middle (next middle).1) :
    Relays accepts device (andThen result next).1 := by
  obtain ⟨middle, outcome⟩ := result
  cases outcome with
  | ok _ => exact first.trans (second middle)
  | error failure => exact first

/-- The report of a step is one change, if the registry may be given it. -/
theorem relays_applyWindow (window : Option WindowEvent)
    (accepted : ∀ report, window = some report → accepts device.registry report) :
    Relays accepts device (device.applyWindow window).1 := by
  cases window with
  | none => exact .refl
  | some report =>
      rw [applyWindow, fst_send]
      exact .single (.report report (accepted report rfl))

/-- The launch of a step is no more than an event aside. -/
theorem relays_applyLaunch (device : Device) (launch : Option LaunchEvent) :
    Relays accepts device (device.applyLaunch launch).1 := by
  cases launch with
  | none => exact .refl
  | some event =>
      rw [applyLaunch, fst_send]
      exact .single (.aside (.launch event) trivial)

/-- The action of a step is an event aside, after a change of the shell. -/
theorem relays_applyUi (device : Device) (ui : Option UiEvent) :
    Relays accepts device (device.applyUi ui).1 := by
  cases ui with
  | none => exact .refl
  | some event =>
      rw [applyUi, fst_send]
      exact .tail (.single (.shell (shellAfter device.shell event))) (.aside (.ui event) trivial)

/-- A step of a scenario consists of such changes. -/
theorem relays_applyStep (step : ScenarioStep)
    (accepted : ∀ report, step.window = some report → accepts device.registry report) :
    Relays accepts device (device.applyStep step).1 := by
  have flags : Relays accepts device (device.applyFlags step) := .single (.shell _)
  refine flags.trans (relays_andThen (relays_applyWindow step.window accepted) fun middle => ?_)
  exact relays_andThen (relays_applyLaunch middle step.launch) fun last =>
    relays_applyUi last step.ui

end Device

/-! ### Commands of the overview -/

namespace Switcher

open Device (Relays)

variable {accepts : Registry → WindowEvent → Prop} {before after : Switcher}

/-- A call is a command, an event aside or feedback of the shell, or it leaves the device alone. -/
theorem relays_obey (switcher : Switcher) (call : Call) :
    Relays accepts switcher.toDevice (switcher.obey call).toDevice := by
  cases call with
  | window command => exact .single (.command command)
  | feedback name => exact .single (.shell (switcher.shell.giveFeedback name))
  | thumbnailRequest request activity window size =>
      simp only [obey, askThumbnail, Thumbnailer.answer]
      split
      · exact .single (.aside (.thumbnailReady activity switcher.thumbnailer.next) trivial)
      · exact .refl
  | _ => exact .refl

/-- Whatever commands the overview gives, the device changes in these ways. -/
theorem relays_performs {calls : List Call} (performs : Performs before calls after) :
    Relays accepts before.toDevice after.toDevice := by
  have parts : after.toDevice = (calls.foldl obey before).toDevice := by
    rw [performs.parts]
    rfl
  rw [parts]
  clear performs parts
  induction calls generalizing before with
  | nil => exact .refl
  | cons call rest inductionHypothesis =>
      exact (before.relays_obey call).trans inductionHypothesis

/-- All that handling an event does to the device is done by such changes. -/
theorem relays_handle (switcher : Switcher) (now : Nat) (event : Event) :
    Relays accepts switcher.toDevice (switcher.handle now event).1.toDevice := by
  obtain ⟨calls, performs⟩ := switcher.exists_performs_handle now event
  exact relays_performs performs

/-- All that a look at the registry does to the device is done by events aside. -/
theorem relays_syncWindows (switcher : Switcher) :
    Relays accepts switcher.toDevice switcher.syncWindows.toDevice := by
  obtain ⟨calls, performs, -⟩ := switcher.pictures_syncWindows
  exact relays_performs performs

/-- Handling an event neither opens nor closes the mailbox. -/
theorem isOpen_handle (switcher : Switcher) (now : Nat) (event : Event) :
    (switcher.handle now event).1.mailbox.isOpen = switcher.mailbox.isOpen := by
  have relays : Relays (fun _ _ => True) switcher.toDevice (switcher.handle now event).1.toDevice :=
    switcher.relays_handle now event
  exact relays.isOpen_eq

/-- A look at the registry neither opens nor closes the mailbox. -/
theorem isOpen_syncWindows (switcher : Switcher) :
    switcher.syncWindows.mailbox.isOpen = switcher.mailbox.isOpen := by
  have relays : Relays (fun _ _ => True) switcher.toDevice switcher.syncWindows.toDevice :=
    switcher.relays_syncWindows
  exact relays.isOpen_eq

end Switcher

end TaskSwitcher
