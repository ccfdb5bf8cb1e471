import TaskSwitcher.Proofs.Registry.Looks

/-!
# Which window is active

A snapshot of an active window takes the activation from all others, and so does the command to activate a
window that is registered. A registry that grew by snapshots has at most one active window.
-/

namespace TaskSwitcher.Registry

/-- The window is registered and active. -/
def IsActive (registry : Registry) (id : WindowId) : Prop :=
  ∃ window, registry.get? id = some window ∧ window.activated = true

variable (registry : Registry) (window : Window) (id other : WindowId)

/-! ### Reports -/

/-- After a snapshot of an active window this window alone is active. -/
theorem isActive_put_of_activated (active : window.activated = true) :
    (registry.put window).IsActive id ↔ id = window.id := by
  rw [IsActive, get?_put]
  split
  · next same =>
      constructor
      · intro _
        exact same
      · intro _
        exact ⟨window, rfl, active⟩
  · next apart =>
      constructor
      · rintro ⟨record, found, activated⟩
        obtain ⟨former, -, rfl⟩ := Option.map_eq_some_iff.1 found
        cases activated
      · intro same
        exact absurd same apart

/-- A snapshot of an inactive window makes no difference to the others. -/
theorem isActive_put_of_not_activated (inactive : window.activated = false) :
    (registry.put window).IsActive id ↔ id ≠ window.id ∧ registry.IsActive id := by
  have kept (record : Window) :
      (if window.activated then { record with activated := false } else record) = record := by
    rw [inactive]
    rfl
  rw [IsActive, get?_put]
  simp only [kept, Option.map_id']
  split
  · next same =>
      constructor
      · rintro ⟨record, found, activated⟩
        cases found
        rw [inactive] at activated
        cases activated
      · rintro ⟨apart, -⟩
        exact absurd same apart
  · next apart => exact (and_iff_right apart).symm

/-- A window that is gone is not active, and the others are active as before. -/
theorem isActive_remove :
    (registry.remove id).IsActive other ↔ other ≠ id ∧ registry.IsActive other := by
  rw [IsActive, get?_remove]
  split
  · next same => simp [same]
  · next apart => exact (and_iff_right apart).symm

/-! ### Commands -/

/-- Activating a registered window leaves it alone active. -/
theorem isActive_activate (known : registry.has id = true) :
    (registry.perform (.activate id)).1.IsActive other ↔ other = id := by
  rw [IsActive, get?_activate, if_pos known]
  constructor
  · rintro ⟨record, activated, active⟩
    obtain ⟨former, search, rfl⟩ := Option.map_eq_some_iff.1 activated
    have named := registry.id_of_get?_eq_some search
    exact named.symm.trans (of_decide_eq_true active)
  · rintro rfl
    obtain ⟨record, search⟩ := registry.exists_get?_of_has other known
    have named := registry.id_of_get?_eq_some search
    exact ⟨activatedAt other record, by rw [search, Option.map_some], decide_eq_true named⟩

/-- Activating a window that is not open takes the activation from no other. -/
theorem isActive_activate_unknown (unknown : registry.has id = false) :
    (registry.perform (.activate id)).1.IsActive other ↔ registry.IsActive other := by
  rw [IsActive, get?_activate, unknown]
  rfl

/-- Filling the screen does not activate a window. -/
theorem isActive_fullscreen (value : Bool) :
    (registry.perform (.fullscreen id value)).1.IsActive other ↔ registry.IsActive other := by
  rw [IsActive, get?_fullscreen]
  constructor
  · rintro ⟨record, changed, active⟩
    obtain ⟨former, search, rfl⟩ := Option.map_eq_some_iff.1 changed
    refine ⟨former, search, ?_⟩
    split at active
    · exact active
    · exact active
  · rintro ⟨record, search, active⟩
    refine ⟨_, by rw [search, Option.map_some], ?_⟩
    split
    · exact active
    · exact active

/-! ### One active window -/

/-- A snapshot keeps it so that at most one window is active. -/
theorem isActive_put_unique
    (unique : ∀ first second, registry.IsActive first → registry.IsActive second → first = second)
    {first second : WindowId} (one : (registry.put window).IsActive first)
    (another : (registry.put window).IsActive second) : first = second := by
  cases active : window.activated with
  | true =>
      rw [isActive_put_of_activated _ _ _ active] at one another
      rw [one, another]
  | false =>
      rw [isActive_put_of_not_activated _ _ _ active] at one another
      exact unique first second one.2 another.2

/-- A registry that grew by snapshots has at most one active window. -/
theorem isActive_foldl_put_unique (windows : List Window)
    (unique : ∀ first second, registry.IsActive first → registry.IsActive second → first = second)
    {first second : WindowId} (one : (windows.foldl put registry).IsActive first)
    (another : (windows.foldl put registry).IsActive second) : first = second := by
  induction windows generalizing registry with
  | nil => exact unique first second one another
  | cons window rest inductionHypothesis =>
      refine inductionHypothesis (registry.put window) ?_ one another
      exact fun first second => registry.isActive_put_unique window unique

end TaskSwitcher.Registry
