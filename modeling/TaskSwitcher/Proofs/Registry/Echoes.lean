import TaskSwitcher.Proofs.Registry.Orderly
import TaskSwitcher.Scenario.Rehearsal
import TaskSwitcher.Service

/-!
# What an echo is good for

An observer that has a copy of the list of windows, and sees nothing but the reports that the registry sends
in answer to commands, keeps this copy current: after each command it is the list of the registry again. No
report is idle, each one changes the copy into which it is folded. A command that changes nothing is
recorded and not answered.
-/

namespace TaskSwitcher

namespace Registry

/-! ### Folding reports into a copy -/

/-- The list with a snapshot in place of the record of the same window. -/
def overwrite (windows : List Window) (snapshot : Window) : List Window :=
  windows.map fun known => if known.id = snapshot.id then snapshot else known

/-- The list with a report folded in: a closed window leaves it, and a snapshot overwrites the record of its
window. -/
def follow (windows : List Window) : WindowEvent → List Window
  | .added snapshot => overwrite windows snapshot
  | .changed snapshot => overwrite windows snapshot
  | .closed id => windows.filter fun known => known.id ≠ id
  | .activatedChanged snapshot => overwrite windows snapshot

/-- Each of the reports changes the list into which it is folded, one after the other. -/
def NoneIdle (windows : List Window) : List WindowEvent → Prop
  | [] => True
  | report :: rest => follow windows report ≠ windows ∧ NoneIdle (follow windows report) rest

/-- The later reports have to change what the earlier ones made of the list. -/
theorem noneIdle_append {windows : List Window} {earlier later : List WindowEvent} :
    NoneIdle windows (earlier ++ later) ↔
      NoneIdle windows earlier ∧ NoneIdle (earlier.foldl follow windows) later := by
  induction earlier generalizing windows with
  | nil => exact (true_and _).symm.to_iff
  | cons report rest inductionHypothesis =>
      simp only [List.cons_append, NoneIdle, List.foldl_cons, inductionHypothesis, and_assoc]

/-- A snapshot leaves the windows in their places. -/
theorem map_id_overwrite (windows : List Window) (snapshot : Window) :
    (overwrite windows snapshot).map (·.id) = windows.map (·.id) := by
  rw [overwrite, List.map_map]
  refine List.map_congr_left fun known _ => ?_
  by_cases same : known.id = snapshot.id <;> simp [same]

/-- The record of another window stays. -/
theorem mem_overwrite_of_ne {windows : List Window} {snapshot known : Window}
    (member : known ∈ windows) (apart : known.id ≠ snapshot.id) :
    known ∈ overwrite windows snapshot :=
  List.mem_map.2 ⟨known, member, if_neg apart⟩

/-- Where no two records have the same id, a snapshot replaces one record and no other. -/
theorem overwrite_eq_map {windows : List Window} (distinct : (windows.map (·.id)).Nodup)
    {snapshot known : Window} (member : known ∈ windows) (same : snapshot.id = known.id) :
    overwrite windows snapshot =
      windows.map fun window => if window = known then snapshot else window := by
  refine List.map_congr_left fun window listed => ?_
  by_cases replaced : window = known
  · rw [if_pos replaced, if_pos (by rw [replaced, same])]
  · have apart : window.id ≠ snapshot.id := fun named =>
      replaced (List.inj_on_of_nodup_map distinct listed member (named.trans same))
    rw [if_neg replaced, if_neg apart]

/-- A snapshot that differs from the record of its window changes the list. -/
theorem overwrite_ne {windows : List Window} {snapshot known : Window} (member : known ∈ windows)
    (same : known.id = snapshot.id) (differs : snapshot ≠ known) :
    overwrite windows snapshot ≠ windows := by
  intro unchanged
  rw [← unchanged] at member
  obtain ⟨former, -, rfl⟩ := List.mem_map.1 member
  by_cases named : former.id = snapshot.id
  · exact differs (if_pos named).symm
  · rw [if_neg named] at same
    exact named same

/-! ### A change told window by window -/

section

variable (change : Window → Window) (tell : Window → WindowEvent)
  (keepsId : ∀ window, (change window).id = window.id)
  (settles : ∀ window, change (change window) = change window)
  (overwrites : ∀ windows snapshot, follow windows (tell snapshot) = overwrite windows snapshot)

include keepsId settles overwrites

/-- Where some of the windows that a change affects were told of, telling of the others completes the
change, and none of these reports is idle. -/
theorem follow_rest {windows rest : List Window} (distinct : (windows.map (·.id)).Nodup)
    (once : (rest.map (·.id)).Nodup) (within : ∀ window ∈ rest, window ∈ windows)
    (affected : ∀ window ∈ rest, change window ≠ window)
    (complete : ∀ window ∈ windows, window ∈ rest ∨ change window = window) :
    (rest.map fun window => tell (change window)).foldl follow windows = windows.map change ∧
      NoneIdle windows (rest.map fun window => tell (change window)) := by
  induction rest generalizing windows with
  | nil =>
      refine ⟨?_, trivial⟩
      have unaffected : windows.map change = windows.map id :=
        List.map_congr_left fun window member => (complete window member).resolve_left List.not_mem_nil
      rw [unaffected, List.map_id]
      rfl
  | cons first rest inductionHypothesis =>
      rw [List.map_cons, List.nodup_cons] at once
      have known := within first List.mem_cons_self
      -- The first report settles its own window. In the list after it the others are as before, so
      -- the reports of them are still needed, and nothing else is.
      have told : overwrite windows (change first) =
          windows.map fun window => if window = first then change first else window :=
        overwrite_eq_map distinct known (keepsId first)
      have distinctAfter : ((overwrite windows (change first)).map (·.id)).Nodup := by
        rwa [map_id_overwrite]
      have withinAfter : ∀ window ∈ rest, window ∈ overwrite windows (change first) := by
        intro window member
        refine mem_overwrite_of_ne (within window (List.mem_cons_of_mem first member)) ?_
        rw [keepsId]
        exact fun same => once.1 (List.mem_map.2 ⟨window, member, same⟩)
      have completeAfter : ∀ window ∈ overwrite windows (change first),
          window ∈ rest ∨ change window = window := by
        intro window member
        rw [told] at member
        obtain ⟨former, present, rfl⟩ := List.mem_map.1 member
        by_cases same : former = first
        · rw [if_pos same]
          exact .inr (settles first)
        · rw [if_neg same]
          refine (complete former present).imp_left fun listed => ?_
          exact (List.mem_cons.1 listed).resolve_left same
      obtain ⟨followed, later⟩ := inductionHypothesis distinctAfter once.2 withinAfter
        (fun window member => affected window (List.mem_cons_of_mem first member)) completeAfter
      rw [List.map_cons, List.foldl_cons, NoneIdle, overwrites]
      refine ⟨followed.trans ?_, ?_, later⟩
      · rw [told, List.map_map]
        refine List.map_congr_left fun window _ => ?_
        by_cases same : window = first <;> simp [same, settles]
      · exact overwrite_ne known (keepsId first).symm (affected first List.mem_cons_self)

/-- A change is followed by telling of exactly the windows that it affects. -/
theorem follow_affected {windows : List Window} (distinct : (windows.map (·.id)).Nodup) :
    ((windows.filter fun window => change window ≠ window).map fun window =>
        tell (change window)).foldl follow windows = windows.map change ∧
      NoneIdle windows
        ((windows.filter fun window => change window ≠ window).map fun window =>
          tell (change window)) := by
  refine follow_rest change tell keepsId settles overwrites distinct ?_ ?_ ?_ ?_
  · exact distinct.sublist (List.filter_sublist.map _)
  · exact fun window member => (List.mem_filter.1 member).1
  · exact fun window member => of_decide_eq_true (List.mem_filter.1 member).2
  · intro window member
    by_cases affected : change window = window
    · exact .inr affected
    · exact .inl (List.mem_filter.2 ⟨member, decide_eq_true affected⟩)

end

/-! ### The echo of one command -/

/-- The window in the full-screen state that a command asks for, if it is the window of the command. -/
def fullscreenAt (id : WindowId) (value : Bool) (window : Window) : Window :=
  if window.id = id then { window with fullscreen := value } else window

/-- Activating a window changes the records in which the activation is not yet as it should be. -/
theorem activatedAt_ne_iff (id : WindowId) (window : Window) :
    activatedAt id window ≠ window ↔ window.activated ≠ decide (window.id = id) := by
  refine not_congr ⟨fun unchanged => ?_, fun agrees => ?_⟩
  · rw [← congrArg Window.activated unchanged, activatedAt]
  · rw [activatedAt, ← agrees]

/-- Filling the screen changes the record of the window if it is in the other state. -/
theorem fullscreenAt_ne_iff (id : WindowId) (value : Bool) (window : Window) :
    fullscreenAt id value window ≠ window ↔ window.id = id ∧ window.fullscreen ≠ value := by
  unfold fullscreenAt
  split
  · next named =>
      rw [and_iff_right named]
      refine not_congr ⟨fun unchanged => ?_, fun agrees => ?_⟩
      · rw [← congrArg Window.fullscreen unchanged]
      · rw [← agrees]
  · next other => simp [other]

/-- A window that fills the screen already is not changed by the same command again. -/
theorem fullscreenAt_fullscreenAt (id : WindowId) (value : Bool) (window : Window) :
    fullscreenAt id value (fullscreenAt id value window) = fullscreenAt id value window := by
  by_cases named : window.id = id <;> simp [fullscreenAt, named]

/-- A window that fills the screen is the same window. -/
theorem id_fullscreenAt (id : WindowId) (value : Bool) (window : Window) :
    (fullscreenAt id value window).id = window.id := by
  unfold fullscreenAt
  split <;> rfl

/-- Activating a window is told of the windows whose activation it changes. -/
theorem echo_activate {windows : List Window} {id : WindowId}
    (known : (windows.any fun window => window.id = id) = true) :
    echo windows (.activate id) =
      (windows.filter fun window => activatedAt id window ≠ window).map fun window =>
        .activatedChanged (activatedAt id window) := by
  simp only [echo, known, if_true, activatedAt_ne_iff]

/-- A command on the full screen is told of the window whose state it changes. -/
theorem echo_fullscreen (windows : List Window) (id : WindowId) (value : Bool) :
    echo windows (.fullscreen id value) =
      (windows.filter fun window => fullscreenAt id value window ≠ window).map fun window =>
        .changed (fullscreenAt id value window) := by
  have sameTest : (fun window : Window => window.id = id && window.fullscreen ≠ value) =
      fun window => decide (fullscreenAt id value window ≠ window) := by
    funext window
    simp only [fullscreenAt_ne_iff, Bool.decide_and]
  rw [echo, sameTest]
  refine List.map_congr_left fun window member => ?_
  have affected := (fullscreenAt_ne_iff id value window).1 (of_decide_eq_true (List.mem_filter.1 member).2)
  rw [fullscreenAt, if_pos affected.1]

/-- The echo of a command leads from a copy of the windows before it to those after it, and none of its
reports is idle. -/
theorem follow_echo {windows : List Window} (distinct : (windows.map (·.id)).Nodup)
    (command : WindowCommand) :
    (echo windows command).foldl follow windows = effect windows command ∧
      NoneIdle windows (echo windows command) := by
  cases command with
  | activate id =>
      cases known : windows.any fun window => window.id = id with
      | true =>
          rw [echo_activate known, effect, if_pos known]
          exact follow_affected (activatedAt id) .activatedChanged (fun _ => rfl) (fun _ => rfl)
            (fun _ _ => rfl) distinct
      | false => simp [echo, effect, known, NoneIdle]
  | close id =>
      cases known : windows.any fun window => window.id = id with
      | true =>
          refine ⟨by simp [echo, effect, known, follow], ?_⟩
          obtain ⟨window, member, named⟩ := List.any_eq_true.1 known
          -- The report is not idle, since a listed window is missing after it.
          have gone : window ∉ windows.filter fun known => known.id ≠ id := by
            simpa [member] using named
          have news : follow windows (.closed id) ≠ windows := by
            intro unchanged
            rw [follow] at unchanged
            rw [unchanged] at gone
            exact gone member
          simp only [echo, known, if_true]
          exact ⟨news, trivial⟩
      | false =>
          have unknown : ∀ window ∈ windows, window.id ≠ id := by simpa using known
          have all : windows.filter (fun window => window.id ≠ id) = windows :=
            List.filter_eq_self.2 fun window member => decide_eq_true (unknown window member)
          rw [effect, all]
          simp [echo, known, NoneIdle]
  | fullscreen id value =>
      rw [echo_fullscreen]
      exact follow_affected (fullscreenAt id value) .changed (id_fullscreenAt id value)
        (fullscreenAt_fullscreenAt id value) (fun _ _ => rfl) distinct

/-- A command that changes nothing is not answered. -/
theorem echo_eq_nil {windows : List Window} {command : WindowCommand}
    (unchanged : effect windows command = windows) : echo windows command = [] := by
  -- Where a change of all windows leaves the list alone, it leaves each window alone.
  have unaffected {change : Window → Window} (same : windows.map change = windows) :
      windows.filter (fun window => change window ≠ window) = [] := by
    refine List.filter_eq_nil_iff.2 fun window member => ?_
    have fixed := List.map_inj_left.1 (same.trans (List.map_id windows).symm) window member
    simpa using fixed
  cases command with
  | activate id =>
      cases known : windows.any fun window => window.id = id with
      | true =>
          rw [effect, if_pos known] at unchanged
          rw [echo_activate known, unaffected unchanged, List.map_nil]
      | false => simp [echo, known]
  | close id =>
      have unknown : ∀ window ∈ windows, window.id ≠ id := fun window member =>
        of_decide_eq_true (List.filter_eq_self.1 unchanged window member)
      have absent : (windows.any fun window => window.id = id) = false := by simpa using unknown
      simp [echo, absent]
  | fullscreen id value =>
      have same : windows.map (fullscreenAt id value) = windows := unchanged
      rw [echo_fullscreen, unaffected same, List.map_nil]

/-- A command that is repeated changes nothing the second time. -/
theorem effect_effect (windows : List Window) (command : WindowCommand) :
    effect (effect windows command) command = effect windows command := by
  cases command with
  | activate id =>
      cases known : windows.any fun window => window.id = id with
      | true =>
          have still : (windows.map (activatedAt id)).any (fun window => window.id = id) = true := by
            rw [List.any_map, ← known]
            rfl
          simp only [effect, known, still, if_true, List.map_map]
          rfl
      | false => simp [effect, known]
  | close id => simp only [effect, List.filter_filter, Bool.and_self]
  | fullscreen id value =>
      have twice : (windows.map (fullscreenAt id value)).map (fullscreenAt id value) =
          windows.map (fullscreenAt id value) := by
        rw [List.map_map]
        exact List.map_congr_left fun window _ => fullscreenAt_fullscreenAt id value window
      exact twice

end Registry

/-! ### The echoes of any commands -/

namespace Switcher

open Registry (follow NoneIdle)

/-- What an observer sees of some commands: the reports in answer to them wait behind everything else, they
turn a copy of the windows before into one of those after, none of them is idle, and each command is recorded
once. -/
structure Answers (before : Switcher) (commands : List WindowCommand) (reports : List WindowEvent)
    (after : Switcher) : Prop where
  waiting : after.mailbox.waiting = before.mailbox.waiting ++ reports.map .window
  current : reports.foldl follow before.registry.windows = after.registry.windows
  noneIdle : NoneIdle before.registry.windows reports
  recorded : after.registry.commands = before.registry.commands ++ commands

/-- No commands, no reports. -/
theorem Answers.refl (switcher : Switcher) : Answers switcher [] [] switcher :=
  ⟨(List.append_nil _).symm, rfl, trivial, (List.append_nil _).symm⟩

/-- What is seen of commands one after the other is seen of all of them together. -/
theorem Answers.trans {before middle after : Switcher} {commands more : List WindowCommand}
    {reports later : List WindowEvent} (first : Answers before commands reports middle)
    (second : Answers middle more later after) :
    Answers before (commands ++ more) (reports ++ later) after where
  waiting := by rw [second.waiting, first.waiting, List.map_append, List.append_assoc]
  current := by rw [List.foldl_append, first.current, second.current]
  noneIdle := by
    rw [Registry.noneIdle_append, first.current]
    exact ⟨first.noneIdle, second.noneIdle⟩
  recorded := by rw [second.recorded, first.recorded, List.append_assoc]

variable {switcher : Switcher}

/-- One command is answered by its echo, which tells of all that it changes. -/
theorem answers_commandWindow (distinct : switcher.registry.ids.Nodup)
    (echoing : switcher.registry.echoing = true) (isOpen : switcher.mailbox.isOpen = true)
    (command : WindowCommand) :
    Answers switcher [command] (Registry.echo switcher.registry.windows command)
      (switcher.commandWindow command) where
  waiting := by
    rw [commandWindow, Mailbox.waiting_postAll _ _ isOpen, Registry.snd_perform _ echoing]
  current := (Registry.follow_echo distinct command).1
  noneIdle := (Registry.follow_echo distinct command).2
  recorded := rfl

/-- Any commands are answered, each by its own echo. -/
theorem exists_answers (attained : switcher.registry.Attained)
    (echoing : switcher.registry.echoing = true) (isOpen : switcher.mailbox.isOpen = true)
    (commands : List WindowCommand) :
    ∃ reports, Answers switcher commands reports (commands.foldl commandWindow switcher) := by
  induction commands generalizing switcher with
  | nil => exact ⟨[], .refl switcher⟩
  | cons command rest inductionHypothesis =>
      have first := answers_commandWindow attained.orderly.distinct echoing isOpen command
      have attainedAfter : (switcher.commandWindow command).registry.Attained :=
        attained.perform command
      obtain ⟨later, second⟩ := inductionHypothesis attainedAfter echoing
        ((Mailbox.isOpen_postAll ..).trans isOpen)
      exact ⟨_, first.trans second⟩

/-- Nothing is sent in answer to a command that changes nothing. -/
theorem mailbox_commandWindow_of_unchanged {command : WindowCommand}
    (unchanged : (switcher.registry.perform command).1.windows = switcher.registry.windows) :
    (switcher.commandWindow command).mailbox = switcher.mailbox := by
  have silent : (switcher.registry.perform command).2 = [] := by
    rw [Registry.perform, Registry.echo_eq_nil unchanged, ite_self]
  rw [commandWindow, silent, List.map_nil, Mailbox.postAll_nil]

/-- An observer whose copy of the windows is current when some commands begin keeps it current through the
reports that it sees in answer to them, whichever windows they are for. No report is idle, and each command is
recorded once. A command that changes nothing is not answered, and repeating one changes nothing. -/
theorem copy_stays_current (attained : switcher.registry.Attained)
    (echoing : switcher.registry.echoing = true) (isOpen : switcher.mailbox.isOpen = true) :
    (∀ commands, ∃ reports,
      Answers switcher commands reports (commands.foldl commandWindow switcher)) ∧
    ∀ command,
      ((switcher.registry.perform command).1.windows = switcher.registry.windows →
        (switcher.commandWindow command).mailbox = switcher.mailbox) ∧
      ((switcher.commandWindow command).commandWindow command).mailbox =
        (switcher.commandWindow command).mailbox := by
  refine ⟨exists_answers attained echoing isOpen, fun command => ⟨?_, ?_⟩⟩
  · exact mailbox_commandWindow_of_unchanged
  · exact mailbox_commandWindow_of_unchanged
      (Registry.effect_effect switcher.registry.windows command)

/-- Of two open windows the inactive one is activated twice, the other one fills the screen and is closed, and
a window that does not exist is closed as well. Four reports keep a copy of the windows current. -/
theorem settings_copy_stays_current :
    let opened := assemble {} true [{ Scenario.callsWindow with activated := true },
      Scenario.settingsWindow] none
    let commands : List WindowCommand :=
      [.activate ⟨2⟩, .activate ⟨2⟩, .fullscreen ⟨1⟩ true, .close ⟨9⟩, .close ⟨1⟩]
    ∃ reports, Answers opened commands reports (commands.foldl commandWindow opened) ∧
      reports.length = 4 ∧
      (commands.foldl commandWindow opened).registry.windows =
        [{ Scenario.settingsWindow with activated := true }] := by
  intro opened commands
  have attained : opened.registry.Attained := .put (.put (.empty true) _) _
  obtain ⟨reports, answers⟩ := (copy_stays_current attained rfl rfl).1 commands
  refine ⟨reports, answers, ?_, by decide +kernel⟩
  have noNews : opened.mailbox.waiting = [] := rfl
  have sent : (commands.foldl commandWindow opened).mailbox.waiting.length = 4 := by
    decide +kernel
  rwa [answers.waiting, noNews, List.nil_append, List.length_map] at sent

end Switcher

end TaskSwitcher
