import Mathlib.Data.Finset.Basic
import TaskSwitcher.Registry

/-!
# The windows that are open

The numbers of the registered windows, without the snapshots. A report or a command adds a number, takes
one away or leaves the list alone, and never lists a number twice.
-/

namespace TaskSwitcher.Registry

/-- The numbers of the open windows, in the order of the registry. -/
def ids (registry : Registry) : List WindowId :=
  registry.windows.map (·.id)

/-- The numbers of the open windows as a set. -/
def members (registry : Registry) : Finset WindowId :=
  registry.ids.toFinset

variable (registry : Registry) (window : Window) (id : WindowId)

/-- A window is open when its number is among those of the registry. -/
theorem has_iff : registry.has id = true ↔ id ∈ registry.ids := by
  simp [has, ids]

@[simp] theorem mem_members : id ∈ registry.members ↔ id ∈ registry.ids :=
  List.mem_toFinset

variable {window id} in
/-- What is found under a number has that number. -/
theorem id_of_get?_eq_some (found : registry.get? id = some window) : window.id = id := by
  simpa using List.find?_some found

/-- Something is found under the number of an open window. -/
theorem exists_get?_of_has (known : registry.has id = true) :
    ∃ window, registry.get? id = some window := by
  obtain ⟨member, present, named⟩ := List.any_eq_true.1 known
  exact Option.isSome_iff_exists.1 (List.find?_isSome.2 ⟨member, present, named⟩)

/-! ### Reports -/

/-- A snapshot of a window that is not open adds its number behind the others. -/
theorem ids_put :
    (registry.put window).ids =
      if window.id ∈ registry.ids then registry.ids else registry.ids ++ [window.id] := by
  -- Taking the activation from the other windows leaves their numbers alone.
  have others :
      (if window.activated then
        registry.windows.map fun other => { other with activated := false }
      else registry.windows).map (·.id) = registry.ids := by
    split <;> simp [ids]
  by_cases known : window.id ∈ registry.ids
  · rw [if_pos known, ← others, put, if_pos ((registry.has_iff _).2 known), ids, List.map_map]
    refine List.map_congr_left fun other _ => ?_
    by_cases same : other.id = window.id <;> simp [same]
  · rw [if_neg known, put, if_neg (mt (registry.has_iff _).1 known), ids, List.map_append, others]
    rfl

/-- A window that is gone takes its number with it. -/
theorem ids_remove : (registry.remove id).ids = registry.ids.filter (· ≠ id) := by
  simp only [ids, remove, List.filter_map, Function.comp_def]

/-- A snapshot lists no window a second time. -/
theorem nodup_ids_put (distinct : registry.ids.Nodup) : (registry.put window).ids.Nodup := by
  rw [ids_put]
  split
  · exact distinct
  · next unknown => simpa using distinct.concat unknown

/-- No report makes the registry list a window twice. -/
theorem nodup_ids_learn (distinct : registry.ids.Nodup) (report : WindowEvent) :
    (registry.learn report).ids.Nodup := by
  cases report with
  | added window => exact registry.nodup_ids_put window distinct
  | changed window => exact registry.nodup_ids_put window distinct
  | closed id =>
      rw [learn, ids_remove]
      exact distinct.filter _
  | activatedChanged window => exact registry.nodup_ids_put window distinct

@[simp] theorem echoing_learn (report : WindowEvent) :
    (registry.learn report).echoing = registry.echoing := by
  cases report <;> rfl

/-- However often a window is put into a registry, its number is listed once. -/
theorem nodup_ids_foldl_put (windows : List Window) (distinct : registry.ids.Nodup) :
    (windows.foldl put registry).ids.Nodup := by
  induction windows generalizing registry with
  | nil => exact distinct
  | cons first rest inductionHypothesis =>
      exact inductionHypothesis (registry.put first) (registry.nodup_ids_put first distinct)

/-- Snapshots leave the registry echoing or silent, as it was. -/
theorem echoing_foldl_put (windows : List Window) :
    (windows.foldl put registry).echoing = registry.echoing := by
  induction windows generalizing registry with
  | nil => rfl
  | cons first rest inductionHypothesis => exact inductionHypothesis (registry.put first)

/-! ### Commands -/

/-- What an echoing registry answers to a command is the echo of the command. -/
theorem snd_perform (echoing : registry.echoing = true) (command : WindowCommand) :
    (registry.perform command).2 = echo registry.windows command :=
  if_pos echoing

/-- Only closing a window changes which windows are open. -/
theorem ids_perform (command : WindowCommand) :
    (registry.perform command).1.ids =
      match command with
      | .close id => registry.ids.filter (· ≠ id)
      | _ => registry.ids := by
  cases command with
  | activate id =>
      simp only [ids, perform, effect]
      split
      · rw [List.map_map]
        rfl
      · rfl
  | close id => simp only [ids, perform, effect, List.filter_map, Function.comp_def]
  | fullscreen id value =>
      simp only [ids, perform, effect, List.map_map]
      refine List.map_congr_left fun other _ => ?_
      by_cases same : other.id = id <;> simp [same]

/-- No command makes the registry list a window twice. -/
theorem nodup_ids_perform (distinct : registry.ids.Nodup) (command : WindowCommand) :
    (registry.perform command).1.ids.Nodup := by
  rw [ids_perform]
  split
  · exact distinct.filter _
  · exact distinct

end TaskSwitcher.Registry
