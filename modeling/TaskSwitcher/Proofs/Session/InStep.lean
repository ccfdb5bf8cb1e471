import Mathlib.Data.Finset.Lattice.Lemmas
import TaskSwitcher.Proofs.Registry.Ids
import TaskSwitcher.Proofs.Session.Relay

/-!
# The mailbox makes up the difference

The registry changes at once, and the overview learns of it later, from reports that wait in the mailbox.
The two are in step when the waiting reports, taken in their order, lead from the windows that are shown
to the windows that are open, and none of them speaks of a window that is not shown at its turn. A report
and a command of the overview keep them in step: both change the registry and put into the mailbox what
makes up for the change.
-/

namespace TaskSwitcher

/-- The windows shown after a piece of news. -/
def shownAfter (shown : Finset WindowId) : Event → Finset WindowId
  | .window (.added window) => insert window.id shown
  | .window (.closed id) => shown.erase id
  | _ => shown

/-- A report speaks of a window that is shown, unless it is the one that introduces the window. -/
def Understood (shown : Finset WindowId) : Event → Prop
  | .window (.added _) => True
  | .window report => report.id ∈ shown
  | _ => True

/-- Each event is understood at its turn, and together they lead from the windows `shown` to `final`. -/
def Leads (final : Finset WindowId) : Finset WindowId → List Event → Prop
  | shown, [] => shown = final
  | shown, event :: rest => Understood shown event ∧ Leads final (shownAfter shown event) rest

namespace Leads

variable {shown middle final : Finset WindowId} {events more : List Event}

/-- Events that lead from the second windows to the third may follow those that lead to the second. -/
theorem append (first : Leads middle shown events) (second : Leads final middle more) :
    Leads final shown (events ++ more) := by
  induction events generalizing shown with
  | nil =>
      rw [first]
      exact second
  | cons event rest inductionHypothesis => exact ⟨first.1, inductionHypothesis first.2⟩

/-- Windows that are shown too early do no harm, as long as they are among those that are open in the
end. -/
theorem union {extra : Finset WindowId} (leads : Leads final shown events)
    (remain : extra ⊆ final) : Leads final (shown ∪ extra) events := by
  induction events generalizing shown extra with
  | nil =>
      have reached : shown = final := leads
      rw [reached]
      exact Finset.union_eq_left.2 remain
  | cons event rest inductionHypothesis =>
      obtain ⟨understood, later⟩ := leads
      constructor
      · unfold Understood at understood ⊢
        split at understood
        · trivial
        · exact Finset.mem_union_left extra understood
        · trivial
      · unfold shownAfter at later ⊢
        split at later
        · rw [← Finset.insert_union]
          exact inductionHypothesis later remain
        · next id =>
            rw [Finset.erase_union_distrib]
            exact inductionHypothesis later ((Finset.erase_subset id extra).trans remain)
        · exact inductionHypothesis later remain

/-- An event that is no report about a window leads nowhere. -/
theorem unrelated {event : Event} (aside : event.Unrelated) : Leads shown shown [event] := by
  cases event with
  | window report => exact aside.elim
  | launch event => exact ⟨trivial, rfl⟩
  | ui event => exact ⟨trivial, rfl⟩
  | thumbnailReady activity request => exact ⟨trivial, rfl⟩
  | tick now => exact ⟨trivial, rfl⟩

/-- Reports of changes to windows that are shown lead nowhere else. -/
theorem of_changes {reports : List WindowEvent}
    (changes : ∀ report ∈ reports, report.id ∈ shown ∧
      ((∃ window, report = .changed window) ∨ ∃ window, report = .activatedChanged window)) :
    Leads shown shown (reports.map .window) := by
  induction reports with
  | nil => rfl
  | cons first rest inductionHypothesis =>
      have later := inductionHypothesis fun report member =>
        changes report (List.mem_cons_of_mem first member)
      obtain ⟨known, ⟨window, rfl⟩ | ⟨window, rfl⟩⟩ := changes first List.mem_cons_self
      · exact ⟨known, later⟩
      · exact ⟨known, later⟩

end Leads

/-! ### The registry and its reports -/

namespace Registry

/-- The registry has the window that a report is about, unless the report introduces it. -/
def Knows (registry : Registry) : WindowEvent → Prop
  | .added _ => True
  | report => registry.has report.id = true

variable (registry : Registry)

/-- A snapshot makes its window one of the open ones. -/
theorem members_put (window : Window) :
    (registry.put window).members = insert window.id registry.members := by
  ext id
  rw [mem_members, ids_put, Finset.mem_insert, mem_members]
  split
  · next known => exact ⟨.inr, fun either => either.elim (fun same => same ▸ known) fun old => old⟩
  · rw [List.mem_append, List.mem_singleton, or_comm]

/-- A window that is gone is none of the open ones. -/
theorem members_remove (id : WindowId) :
    (registry.remove id).members = registry.members.erase id := by
  ext other
  rw [mem_members, ids_remove, List.mem_filter, Finset.mem_erase, mem_members]
  simp [and_comm]

/-- A report about a known window leads from the windows before it to those after it. -/
theorem leads_learn {report : WindowEvent} (knows : registry.Knows report) :
    Leads (registry.learn report).members registry.members [.window report] := by
  cases report with
  | added window => exact ⟨trivial, (registry.members_put window).symm⟩
  | changed window =>
      have known := (registry.mem_members window.id).2 ((registry.has_iff window.id).1 knows)
      refine ⟨known, ?_⟩
      rw [learn, members_put, Finset.insert_eq_of_mem known]
      rfl
  | closed id =>
      have known := (registry.mem_members _).2 ((registry.has_iff _).1 knows)
      exact ⟨known, (registry.members_remove id).symm⟩
  | activatedChanged window =>
      have known := (registry.mem_members window.id).2 ((registry.has_iff window.id).1 knows)
      refine ⟨known, ?_⟩
      rw [learn, members_put, Finset.insert_eq_of_mem known]
      rfl

/-- The echo of a command leads from the windows before it to those after it. -/
theorem leads_echo (command : WindowCommand) :
    Leads (registry.perform command).1.members registry.members
      ((echo registry.windows command).map .window) := by
  have within {window : Window} (member : window ∈ registry.windows) :
      window.id ∈ registry.members :=
    (registry.mem_members _).2 (List.mem_map.2 ⟨window, member, rfl⟩)
  cases command with
  | activate id =>
      have same : (registry.perform (.activate id)).1.members = registry.members := by
        rw [members, ids_perform, members]
      rw [same]
      refine Leads.of_changes fun report member => ?_
      simp only [echo] at member
      split at member
      · obtain ⟨window, chosen, rfl⟩ := List.mem_map.1 member
        have known : window.id ∈ registry.members := within (List.mem_of_mem_filter chosen)
        exact ⟨known, .inr ⟨_, rfl⟩⟩
      · cases member
  | close id =>
      have fewer : (registry.perform (.close id)).1.members = registry.members.erase id := by
        rw [← members_remove, members, ids_perform, members, ids_remove]
      rw [fewer]
      simp only [echo]
      split
      · next known =>
          exact ⟨(registry.mem_members id).2 ((registry.has_iff id).1 known), rfl⟩
      · next unknown =>
          -- Without an echo no window goes.
          have absent : id ∉ registry.members := fun member =>
            unknown ((registry.has_iff id).2 ((registry.mem_members id).1 member))
          rw [Finset.erase_eq_of_notMem absent]
          rfl
  | fullscreen id value =>
      have same : (registry.perform (.fullscreen id value)).1.members = registry.members := by
        rw [members, ids_perform, members]
      rw [same]
      refine Leads.of_changes fun report member => ?_
      obtain ⟨window, chosen, rfl⟩ := List.mem_map.1 member
      have known : window.id ∈ registry.members := within (List.mem_of_mem_filter chosen)
      exact ⟨known, .inl ⟨_, rfl⟩⟩

end Registry

/-! ### In step -/

/-- The registry echoes into an open mailbox, and what waits there leads from the windows `shown` to the
windows that are open. -/
structure Device.InStep (device : Device) (shown : Finset WindowId) : Prop where
  isOpen : device.mailbox.isOpen = true
  echoing : device.registry.echoing = true
  distinct : device.registry.ids.Nodup
  leads : Leads device.registry.members shown device.mailbox.waiting

namespace Device

variable {before after : Device} {shown : Finset WindowId}

/-- A change of the device keeps it in step, as long as a report speaks of a known window. -/
theorem Relay.inStep (relay : Relay Registry.Knows before after) (inStep : before.InStep shown) :
    after.InStep shown := by
  have isOpen := relay.isOpen_eq.trans inStep.isOpen
  cases relay with
  | shell shell => exact { inStep with }
  | aside event unrelated =>
      refine { inStep with isOpen := isOpen, leads := ?_ }
      rw [Mailbox.post_eq_postAll, Mailbox.waiting_postAll _ _ inStep.isOpen]
      exact inStep.leads.append (.unrelated unrelated)
  | report report accepted =>
      refine ⟨isOpen, ?_, ?_, ?_⟩
      · rw [Registry.echoing_learn, inStep.echoing]
      · exact before.registry.nodup_ids_learn inStep.distinct report
      · rw [Mailbox.post_eq_postAll, Mailbox.waiting_postAll _ _ inStep.isOpen]
        exact inStep.leads.append (before.registry.leads_learn accepted)
  | command command =>
      refine ⟨isOpen, inStep.echoing, ?_, ?_⟩
      · exact before.registry.nodup_ids_perform inStep.distinct command
      · rw [Mailbox.waiting_postAll _ _ inStep.isOpen,
          before.registry.snd_perform inStep.echoing]
        exact inStep.leads.append (before.registry.leads_echo command)

/-- Any changes of the device keep it in step. -/
theorem Relays.inStep (relays : Relays Registry.Knows before after)
    (inStep : before.InStep shown) : after.InStep shown := by
  induction relays with
  | refl => exact inStep
  | tail _ last inductionHypothesis => exact last.inStep inductionHypothesis

/-- What each change keeps as long as the device is in step, any number of changes keep. -/
theorem Relays.keeps {accepts : Registry → WindowEvent → Prop} {property : Device → Prop}
    (relays : Relays accepts before after) (inStep : before.InStep shown)
    (knows : ∀ registry report, accepts registry report → registry.Knows report)
    (kept : ∀ {middle last : Device}, Relay accepts middle last → middle.InStep shown →
      property middle → property last) (holds : property before) : property after := by
  induction relays with
  | refl => exact holds
  | tail earlier last inductionHypothesis =>
      exact kept last ((Relays.mono knows earlier).inStep inStep) inductionHypothesis

end Device

end TaskSwitcher
