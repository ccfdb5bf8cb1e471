import TaskSwitcher.Proofs.Carousel.Roster

/-!
# Reading one thing off each card

A view reads something off a card, or finds nothing to read. What the operations of a carousel do to a
view is the same for all views: a new card adds its own, a removed card takes its own away, and a change
that keeps the view of each card keeps all of it.
-/

namespace TaskSwitcher.Carousel

variable {β : Type} (view : Activity → Option β) (carousel : Carousel) (handle other : Handle)
  {change : Activity → Activity}

/-- What the view reads off the card with this handle. -/
def viewOf? (view : Activity → Option β) (carousel : Carousel) (handle : Handle) : Option β :=
  (carousel.get? handle).bind view

/-- A handle has a view when it finds a card with this view. -/
theorem viewOf?_eq_some_iff (value : β) :
    carousel.viewOf? view handle = some value ↔
      ∃ activity, carousel.get? handle = some activity ∧ view activity = some value :=
  Option.bind_eq_some_iff

/-- The window of a handle is one of the views of its card. -/
theorem windowOf?_eq_viewOf? : carousel.windowOf? handle = carousel.viewOf? Activity.window? handle :=
  rfl

/-- Changing a card makes no difference to the views of others. -/
theorem viewOf?_modify :
    (carousel.modify handle change).viewOf? view other =
      if other = handle then (carousel.get? handle).bind fun activity => view (change activity)
      else carousel.viewOf? view other := by
  rw [viewOf?, get?_modify]
  by_cases same : other = handle
  · subst same
    rw [if_pos rfl]
    cases carousel.get? other <;> simp
  · rw [if_neg same]
    simp [same, viewOf?]

/-- A change that acts on the view of a card acts on the view of the changed card only. -/
theorem viewOf?_modify_map {effect : β → β}
    (acts : ∀ activity, view (change activity) = (view activity).map effect) :
    (carousel.modify handle change).viewOf? view other =
      (carousel.viewOf? view other).map fun value =>
        if other = handle then effect value else value := by
  rw [viewOf?_modify]
  split
  · next same =>
      rw [viewOf?, same]
      cases carousel.get? handle with
      | none => rfl
      | some activity => exact acts activity
  · rw [Option.map_id']

/-- A change that the view leaves out is not seen, whichever card is looked at. -/
theorem viewOf?_modify_of_keeps (keeps : ∀ activity, view (change activity) = view activity) :
    (carousel.modify handle change).viewOf? view other = carousel.viewOf? view other := by
  rw [viewOf?_modify]
  split
  · next same => simp only [keeps, same, viewOf?]
  · rfl

/-- A change of all cards that the view leaves out is not seen. -/
theorem viewOf?_mapActivities (keeps : ∀ activity, view (change activity) = view activity) :
    (carousel.mapActivities change).viewOf? view other = carousel.viewOf? view other := by
  rw [viewOf?, get?_mapActivities, viewOf?]
  cases carousel.get? other with
  | none => rfl
  | some activity => exact keeps activity

/-- Views are read off the arena alone. -/
theorem viewOf?_eq_of_same_arena {first second : Carousel} (arena : first.arena = second.arena) :
    first.viewOf? view other = second.viewOf? view other := by
  simp only [viewOf?, get?, arena]

section

variable {carousel} (valid : carousel.Valid)

include valid

/-- Only the new handle sees the new card. -/
theorem Valid.viewOf?_insert (position : Nat) (activity : Activity) :
    (carousel.insert position activity).viewOf? view other =
      if other = carousel.nextHandle then view activity else carousel.viewOf? view other := by
  rw [viewOf?, valid.get?_insert]
  split <;> rfl

/-- A handle that is not in use shows nothing. -/
theorem Valid.viewOf?_nextHandle : carousel.viewOf? view carousel.nextHandle = none := by
  rw [viewOf?, get?, nextHandle, valid.arena.get?_next]
  rfl

end

end TaskSwitcher.Carousel
