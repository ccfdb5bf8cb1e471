import TaskSwitcher.Proofs.Registry.Orderly
import TaskSwitcher.Scenario.Rehearsal

/-!
# Where windows stand in the registry

As long as no window is listed twice, whatever concerns one window concerns one place of the list: a snapshot
takes the place of the one before it, a closed window leaves its place, and the full-screen state changes in
place. New windows stand behind all others. So windows never change their order, however long the registry is
told of windows and given commands, and however often a window is closed and opened again.
-/

namespace TaskSwitcher

/-- A window after a snapshot of another one: an active window takes the activation from all others. -/
def Window.besides (snapshot other : Window) : Window :=
  if snapshot.activated then { other with activated := false } else other

@[simp] theorem Window.id_besides (snapshot other : Window) : (snapshot.besides other).id = other.id := by
  unfold besides
  split <;> rfl

namespace Registry

/-- What can be done to a registry: it is told of a window, whether new or changed, it is told that a window is
gone, or it is given a command. -/
inductive Operation where
  | put (window : Window)
  | remove (id : WindowId)
  | perform (command : WindowCommand)

/-- The registry after an operation. -/
def operate (registry : Registry) : Operation → Registry
  | .put window => registry.put window
  | .remove id => registry.remove id
  | .perform command => (registry.perform command).1

/-- The registry after several operations, the first one first. -/
def operateAll (registry : Registry) (operations : List Operation) : Registry :=
  operations.foldl operate registry

/-- The place of a window in the list, or the end of the list if it is not open. -/
def placeOf (registry : Registry) (id : WindowId) : Nat :=
  registry.ids.idxOf id

/-- The active windows, in the order of the registry. -/
def activeIds (registry : Registry) : List WindowId :=
  (registry.windows.filter (·.activated)).map (·.id)

variable {registry : Registry} {id : WindowId}

/-- A registry is still attained after further operations. -/
theorem Attained.operateAll (attained : registry.Attained) (operations : List Operation) :
    (registry.operateAll operations).Attained := by
  induction operations generalizing registry with
  | nil => exact attained
  | cons first rest inductionHypothesis =>
      apply inductionHypothesis
      cases first with
      | put window => exact attained.put window
      | remove id => exact attained.remove id
      | perform command => exact attained.perform command

/-! ### One place for each window -/

/-- Where no two windows have the same id, changing all windows with an id changes one place. -/
theorem map_ite_eq_modify {windows : List Window} (distinct : (windows.map (·.id)).Nodup)
    (id : WindowId) (change : Window → Window) :
    (windows.map fun window => if window.id = id then change window else window) =
      windows.modify ((windows.map (·.id)).idxOf id) change := by
  induction windows with
  | nil => rfl
  | cons first rest inductionHypothesis =>
      rw [List.map_cons, List.nodup_cons] at distinct
      by_cases same : first.id = id
      · have unconcerned : rest.map (fun window => if window.id = id then change window else window) =
            rest := by
          refine (List.map_congr_left fun window member => ?_).trans (List.map_id rest)
          refine if_neg fun named => distinct.1 ?_
          exact List.mem_map.2 ⟨window, member, named.trans same.symm⟩
        rw [List.map_cons, if_pos same, unconcerned, List.map_cons, same, List.idxOf_cons_self,
          List.modify_zero_cons]
      · rw [List.map_cons, if_neg same, inductionHypothesis distinct.2, List.map_cons,
          List.idxOf_cons_ne _ same, List.modify_succ_cons]

/-- Where no two windows have the same id, taking out all windows with an id takes out one place. -/
theorem filter_ne_eq_eraseIdx {windows : List Window} (distinct : (windows.map (·.id)).Nodup)
    (id : WindowId) :
    (windows.filter fun window => window.id ≠ id) =
      windows.eraseIdx ((windows.map (·.id)).idxOf id) := by
  induction windows with
  | nil => rfl
  | cons first rest inductionHypothesis =>
      rw [List.map_cons, List.nodup_cons] at distinct
      by_cases same : first.id = id
      · have others : rest.filter (fun window => window.id ≠ id) = rest := by
          refine List.filter_eq_self.2 fun window member => decide_eq_true fun named => distinct.1 ?_
          exact List.mem_map.2 ⟨window, member, named.trans same.symm⟩
        rw [List.filter_cons_of_neg (by simpa using same), others, List.map_cons, same,
          List.idxOf_cons_self, List.eraseIdx_cons_zero]
      · rw [List.filter_cons_of_pos (by simpa using same), inductionHypothesis distinct.2,
          List.map_cons, List.idxOf_cons_ne _ same, List.eraseIdx_cons_succ]

/-- A snapshot touches the other windows only by taking the activation from them. -/
theorem map_besides_eq (window : Window) (windows : List Window) :
    (if window.activated then windows.map fun other => { other with activated := false } else windows) =
      windows.map window.besides := by
  unfold Window.besides
  split
  · rfl
  · exact (List.map_id' _).symm

/-- A snapshot of a window that is not listed is put behind all others, which are kept. -/
theorem windows_put_of_not_mem {window : Window} (fresh : window.id ∉ registry.ids) :
    (registry.put window).windows = registry.windows.map window.besides ++ [window] := by
  have unknown := mt (registry.has_iff window.id).1 fresh
  rw [put, ← map_besides_eq]
  exact if_neg unknown

section

variable (distinct : registry.ids.Nodup)

include distinct

/-- A snapshot of a window that is listed takes the place of the one before it. -/
theorem windows_put_of_mem {window : Window} (known : window.id ∈ registry.ids) :
    (registry.put window).windows =
      (registry.windows.map window.besides).set (registry.placeOf window.id) window := by
  have sameIds : (registry.windows.map window.besides).map (·.id) = registry.ids := by
    rw [List.map_map]
    exact List.map_congr_left fun other _ => window.id_besides other
  rw [put, if_pos ((registry.has_iff _).2 known)]
  simp only [map_besides_eq]
  rw [map_ite_eq_modify (sameIds ▸ distinct) window.id fun _ => window, sameIds,
    ← List.set_eq_modify]
  rfl

/-- A window that is gone leaves the list at its place; one that is not open has no place there. -/
theorem windows_remove (id : WindowId) :
    (registry.remove id).windows = registry.windows.eraseIdx (registry.placeOf id) :=
  filter_ne_eq_eraseIdx distinct id

/-- Filling the screen changes the record at the place of the window. -/
theorem windows_fullscreen (id : WindowId) (value : Bool) :
    (registry.perform (.fullscreen id value)).1.windows =
      registry.windows.modify (registry.placeOf id) fun window => { window with fullscreen := value } :=
  map_ite_eq_modify distinct id fun window => { window with fullscreen := value }

/-! ### Active windows -/

/-- The listed active windows are the active ones. -/
theorem mem_activeIds_iff : id ∈ registry.activeIds ↔ registry.IsActive id := by
  simp only [activeIds, List.mem_map, List.mem_filter]
  constructor
  · rintro ⟨window, ⟨member, active⟩, rfl⟩
    exact ⟨window, get?_of_mem distinct member, active⟩
  · rintro ⟨window, found, active⟩
    have member : window ∈ registry.windows := List.mem_of_find?_eq_some found
    exact ⟨window, ⟨member, active⟩, registry.id_of_get?_eq_some found⟩

/-- No active window is listed twice. -/
theorem nodup_activeIds : registry.activeIds.Nodup :=
  distinct.sublist (List.filter_sublist.map _)

/-- The only active window is listed alone. -/
theorem activeIds_eq_singleton (only : ∀ other, registry.IsActive other ↔ other = id) :
    registry.activeIds = [id] := by
  refine List.perm_singleton.1 ?_
  rw [List.perm_ext_iff_of_nodup (nodup_activeIds distinct) (List.nodup_singleton id)]
  intro other
  rw [mem_activeIds_iff distinct, only, List.mem_singleton]

end

/-- In an orderly registry at most one window is listed as active. -/
theorem Orderly.length_activeIds_le_one (orderly : registry.Orderly) :
    registry.activeIds.length ≤ 1 := by
  have nodup := nodup_activeIds orderly.distinct
  have active {id : WindowId} (member : id ∈ registry.activeIds) : registry.IsActive id :=
    (mem_activeIds_iff orderly.distinct).1 member
  cases listed : registry.activeIds with
  | nil => exact Nat.zero_le 1
  | cons first rest =>
      rw [listed] at nodup active
      cases rest with
      | nil => exact Nat.le_refl 1
      | cons second others =>
          have same := orderly.unique first second (active List.mem_cons_self)
            (active (List.mem_cons_of_mem first List.mem_cons_self))
          exact absurd (same ▸ List.mem_cons_self) (List.nodup_cons.1 nodup).1

/-! ### The order of the windows -/

/-- The windows that stay keep their order, and at most one is new, which stands behind them. -/
def KeepsOrder (before after : Registry) : Prop :=
  ∃ opened, after.ids = before.ids.filter (· ∈ after.ids) ++ opened ∧ opened.length ≤ 1

/-- Where windows only go, those that stay keep their order. -/
theorem keepsOrder_of_filter {after : Registry} {stays : WindowId → Bool}
    (ids : after.ids = registry.ids.filter stays) : KeepsOrder registry after := by
  refine ⟨[], ?_, Nat.zero_le 1⟩
  rw [List.append_nil, ids]
  refine List.filter_congr fun id member => ?_
  simp [member]

/-- Where at most one window comes, behind the others, these keep their order. -/
theorem keepsOrder_of_append {after : Registry} {opened : List WindowId}
    (ids : after.ids = registry.ids ++ opened) (few : opened.length ≤ 1) :
    KeepsOrder registry after := by
  refine ⟨opened, ?_, few⟩
  have allStay : registry.ids.filter (· ∈ after.ids) = registry.ids := by
    refine List.filter_eq_self.2 fun id member => decide_eq_true ?_
    rw [ids]
    exact List.mem_append_left opened member
  rw [allStay, ids]

/-- No operation changes the order of the windows that stay. -/
theorem keepsOrder_operate (registry : Registry) (operation : Operation) :
    KeepsOrder registry (registry.operate operation) := by
  cases operation with
  | put window =>
      have ids := registry.ids_put window
      split at ids
      · exact keepsOrder_of_append (ids.trans (List.append_nil _).symm) (Nat.zero_le 1)
      · exact keepsOrder_of_append ids (Nat.le_refl 1)
  | remove id => exact keepsOrder_of_filter (registry.ids_remove id)
  | perform command =>
      have ids := registry.ids_perform command
      cases command with
      | activate id => exact keepsOrder_of_append (ids.trans (List.append_nil _).symm) (Nat.zero_le 1)
      | close id => exact keepsOrder_of_filter ids
      | fullscreen id value =>
          exact keepsOrder_of_append (ids.trans (List.append_nil _).symm) (Nat.zero_le 1)

/-! ### Registries at any time -/

/-- What can be relied on at any time: how the windows are listed, and what the next operation does to them. -/
structure Dependable (registry : Registry) : Prop where
  /-- No window is listed twice. -/
  distinct : registry.ids.Nodup
  /-- At most one window is active. -/
  oneActive : registry.activeIds.length ≤ 1
  /-- Windows that stay keep their order. -/
  order : ∀ operation, KeepsOrder registry (registry.operate operation)
  /-- A snapshot of a window that is not listed stands behind all others, which are kept and at most lose the
  activation. -/
  opened : ∀ window, window.id ∉ registry.ids →
    (registry.operate (.put window)).windows = registry.windows.map window.besides ++ [window]
  /-- A snapshot of a listed window takes its place, and has no effect on the others but on which of them is
  active. -/
  updated : ∀ window, window.id ∈ registry.ids →
    (registry.operate (.put window)).windows =
      (registry.windows.map window.besides).set (registry.placeOf window.id) window
  /-- A window that is gone leaves its place, and no other window goes. -/
  removed : ∀ id, (registry.operate (.remove id)).windows =
    registry.windows.eraseIdx (registry.placeOf id)
  /-- Filling the screen concerns one place. -/
  filled : ∀ id value, (registry.operate (.perform (.fullscreen id value))).windows =
    registry.windows.modify (registry.placeOf id) fun window => { window with fullscreen := value }
  /-- A listed window that is activated is the only active one. -/
  activated : ∀ id ∈ registry.ids,
    (registry.operate (.perform (.activate id))).activeIds = [id]

/-- After any operations no window is listed twice and at most one is active, and the next operation leaves
the windows in their order: it replaces, removes or changes the window that it is about where this stands, puts
it behind all others if it is new, and activates no other. -/
theorem dependable_operateAll (echoing : Bool) (operations : List Operation) :
    Dependable (operateAll { echoing } operations) := by
  have orderly := (Attained.operateAll (.empty echoing) operations).orderly
  generalize operateAll { echoing } operations = registry at orderly
  have distinct := orderly.distinct
  exact {
    distinct
    oneActive := orderly.length_activeIds_le_one
    order := registry.keepsOrder_operate
    opened := fun window fresh => windows_put_of_not_mem fresh
    updated := fun window known => windows_put_of_mem distinct known
    removed := windows_remove distinct
    filled := windows_fullscreen distinct
    activated := fun id known => by
      refine activeIds_eq_singleton (orderly.perform (.activate id)).distinct fun other => ?_
      exact registry.isActive_activate id other ((registry.has_iff id).2 known) }

/-- The settings are opened as the active window beside another one, which was active. They are listed behind
it and take the activation, until it is activated again. -/
theorem settings_listed_behind_calls :
    let calls : Window := { Scenario.callsWindow with activated := true }
    let settings : Window := { Scenario.settingsWindow with activated := true }
    let before := operateAll { echoing := true } [.put calls]
    let both := operateAll { echoing := true } [.put calls, .put settings]
    settings.id ∉ before.ids ∧
      both.windows = [{ calls with activated := false }, settings] ∧ both.activeIds = [⟨2⟩] ∧
      calls.id ∈ both.ids ∧ (both.operate (.perform (.activate ⟨1⟩))).activeIds = [⟨1⟩] := by
  intro calls settings before both
  have fresh : settings.id ∉ before.ids := by decide
  have known : calls.id ∈ both.ids := by decide
  have listed := (dependable_operateAll true [.put calls]).opened settings fresh
  have activated := (dependable_operateAll true [.put calls, .put settings]).activated calls.id known
  exact ⟨fresh, listed, by decide, known, activated⟩

end Registry

end TaskSwitcher
