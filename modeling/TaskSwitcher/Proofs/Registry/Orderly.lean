import Mathlib.Data.List.Perm.Subperm
import TaskSwitcher.Proofs.Registry.Activation

/-!
# Registries in order

Whatever a registry is told and asked, it lists no window twice and has at most one active window. That
keeps its echoes short: activating a window is news about two windows at most, the one that becomes active
and the one that was, and any other command is news about one.
-/

namespace TaskSwitcher.Registry

/-- The registries that come from an empty one by snapshots, removals and commands. -/
inductive Attained : Registry → Prop where
  | empty (echoing : Bool) : Attained { echoing }
  | put {registry : Registry} (attained : Attained registry) (window : Window) :
      Attained (registry.put window)
  | remove {registry : Registry} (attained : Attained registry) (id : WindowId) :
      Attained (registry.remove id)
  | perform {registry : Registry} (attained : Attained registry) (command : WindowCommand) :
      Attained (registry.perform command).1

/-- No window is listed twice, and at most one is active. -/
structure Orderly (registry : Registry) : Prop where
  distinct : registry.ids.Nodup
  unique : ∀ first second, registry.IsActive first → registry.IsActive second → first = second

variable {registry : Registry}

/-! ### What keeps a registry in order -/

/-- Nothing is out of order in an empty registry. -/
theorem orderly_empty (echoing : Bool) : Orderly { echoing } where
  distinct := List.nodup_nil
  unique := by
    rintro first second ⟨window, found, -⟩
    cases found

/-- A snapshot keeps the registry in order: an active one takes the activation from all other windows. -/
theorem Orderly.put (orderly : registry.Orderly) (window : Window) :
    (registry.put window).Orderly where
  distinct := registry.nodup_ids_put window orderly.distinct
  unique _ _ := registry.isActive_put_unique window orderly.unique

/-- A window that is gone leaves the registry in order. -/
theorem Orderly.remove (orderly : registry.Orderly) (id : WindowId) :
    (registry.remove id).Orderly where
  distinct := by
    rw [ids_remove]
    exact orderly.distinct.filter _
  unique first second one another := by
    rw [isActive_remove] at one another
    exact orderly.unique first second one.2 another.2

/-- No command brings the registry out of order. -/
theorem Orderly.perform (orderly : registry.Orderly) (command : WindowCommand) :
    (registry.perform command).1.Orderly where
  distinct := registry.nodup_ids_perform orderly.distinct command
  unique first second one another := by
    cases command with
    | activate id =>
        cases known : registry.has id with
        | true =>
            rw [isActive_activate _ _ _ known] at one another
            rw [one, another]
        | false =>
            rw [isActive_activate_unknown _ _ _ known] at one another
            exact orderly.unique first second one another
    | close id => exact (orderly.remove id).unique first second one another
    | fullscreen id value =>
        rw [isActive_fullscreen] at one another
        exact orderly.unique first second one another

/-- Every registry that can come about is in order. -/
theorem Attained.orderly (attained : registry.Attained) : registry.Orderly := by
  induction attained with
  | empty echoing => exact orderly_empty echoing
  | put _ window inductionHypothesis => exact inductionHypothesis.put window
  | remove _ id inductionHypothesis => exact inductionHypothesis.remove id
  | perform _ command inductionHypothesis => exact inductionHypothesis.perform command

/-- A registry that was told of a report is one that can come about. -/
theorem Attained.learn (attained : registry.Attained) (report : WindowEvent) :
    (registry.learn report).Attained := by
  cases report with
  | added window => exact attained.put window
  | changed window => exact attained.put window
  | closed id => exact attained.remove id
  | activatedChanged window => exact attained.put window

/-! ### Short echoes -/

/-- Activating a window changes this window and the one that was active, if they need it. -/
theorem Orderly.length_echo_activate (orderly : registry.Orderly) (id : WindowId) :
    (echo registry.windows (.activate id)).length ≤ 2 := by
  simp only [echo]
  split
  · rw [List.length_map]
    let changed := registry.windows.filter fun window => window.activated ≠ decide (window.id = id)
    have concerned (window : Window) (member : window ∈ changed) :
        window.id = id ∨ registry.IsActive window.id := by
      obtain ⟨present, differs⟩ := List.mem_filter.1 member
      by_cases named : window.id = id
      · exact .inl named
      · have active : window.activated = true := by simpa [named] using differs
        exact .inr ⟨window, get?_of_mem orderly.distinct present, active⟩
    have distinct : (changed.map (·.id)).Nodup :=
      orderly.distinct.sublist (List.filter_sublist.map _)
    -- The active window, or `id` once more where no window is active.
    obtain ⟨active, only⟩ : ∃ active, ∀ other, registry.IsActive other → other = active := by
      by_cases some : ∃ active, registry.IsActive active
      · obtain ⟨active, isActive⟩ := some
        exact ⟨active, fun other otherActive => orderly.unique other active otherActive isActive⟩
      · exact ⟨id, fun other otherActive => absurd ⟨other, otherActive⟩ some⟩
    have within : changed.map (·.id) ⊆ [id, active] := by
      intro other member
      obtain ⟨window, present, rfl⟩ := List.mem_map.1 member
      rcases concerned window present with named | isActive
      · simp [named]
      · simp [only window.id isActive]
    have few := (List.subperm_of_subset distinct within).length_le
    rwa [List.length_map] at few
  · simp

/-- A command to close a window is answered by one report at most. -/
theorem length_echo_close (windows : List Window) (id : WindowId) :
    (echo windows (.close id)).length ≤ 1 := by
  simp only [echo]
  split <;> simp

/-- A command to fill the screen is answered by one report at most, as no window is listed twice. -/
theorem Orderly.length_echo_fullscreen (orderly : registry.Orderly) (id : WindowId)
    (value : Bool) : (echo registry.windows (.fullscreen id value)).length ≤ 1 := by
  simp only [echo, List.length_map, filter_fullscreen_eq id orderly.distinct value]
  calc
    ((registry.get? id).toList.filter fun window => window.fullscreen ≠ value).length
        ≤ (registry.get? id).toList.length := List.length_filter_le ..
    _ ≤ 1 := by cases registry.get? id <;> simp

end TaskSwitcher.Registry
