import TaskSwitcher.Carousel.Basic

/-!
# What the operations do to the strip

A carousel is read through the order of its handles, the cards that the handles find, the list of entries
and the references. Each lemma says what one operation does to one of these, so that nothing else has to
look into the operations.
-/

namespace TaskSwitcher.Carousel

variable (carousel : Carousel) (handle other : Handle) (change : Activity → Activity)
  (position : Nat) (activity : Activity)

/-! ### Looking cards up -/

/-- A handle is on the strip exactly if it finds a card. -/
theorem contains_iff :
    carousel.contains handle = true ↔ ∃ activity, carousel.get? handle = some activity :=
  carousel.arena.contains_iff handle

/-- A handle that is not on the strip finds no card. -/
theorem contains_eq_false_iff :
    carousel.contains handle = false ↔ carousel.get? handle = none :=
  carousel.arena.contains_eq_false_iff handle

/-- An entry is a handle of the order together with the card that it finds. -/
theorem mem_entries :
    (handle, activity) ∈ carousel.entries ↔
      handle ∈ carousel.order ∧ carousel.get? handle = some activity := by
  simp only [entries, List.mem_filterMap, Option.map_eq_some_iff, Prod.mk.injEq]
  constructor
  · rintro ⟨found, member, card, present, rfl, rfl⟩
    exact ⟨member, present⟩
  · rintro ⟨member, present⟩
    exact ⟨handle, member, activity, present, rfl, rfl⟩

/-- The cards are those of the entries. -/
theorem mem_activities :
    activity ∈ carousel.activities ↔ ∃ handle, (handle, activity) ∈ carousel.entries := by
  simp [activities]

/-- A search comes back without a handle only if no card of the strip has the property. -/
theorem findHandle?_eq_none_iff {matching : Activity → Bool} :
    carousel.findHandle? matching = none ↔
      ∀ activity ∈ carousel.activities, matching activity = false := by
  simp only [findHandle?, activities, Option.map_eq_none_iff, List.find?_eq_none, List.forall_mem_map,
    Bool.not_eq_true]

/-- A handle that was found by a property is on the strip, and its card has the property. -/
theorem exists_of_findHandle?_eq_some {matching : Activity → Bool}
    (found : carousel.findHandle? matching = some handle) :
    ∃ activity, (handle, activity) ∈ carousel.entries ∧ matching activity = true := by
  obtain ⟨entry, search, rfl⟩ := Option.map_eq_some_iff.1 found
  exact ⟨entry.2, List.mem_of_find?_eq_some search, by simpa using List.find?_some search⟩

/-! ### Noting occupancy -/

@[simp] theorem arena_noteOccupancy : carousel.noteOccupancy.arena = carousel.arena := by
  unfold noteOccupancy; split <;> rfl

@[simp] theorem order_noteOccupancy : carousel.noteOccupancy.order = carousel.order := by
  unfold noteOccupancy; split <;> rfl

@[simp] theorem focused_noteOccupancy : carousel.noteOccupancy.focused = carousel.focused := by
  unfold noteOccupancy; split <;> rfl

@[simp] theorem scrollTarget_noteOccupancy :
    carousel.noteOccupancy.scrollTarget = carousel.scrollTarget := by
  unfold noteOccupancy; split <;> rfl

@[simp] theorem keyFocus_noteOccupancy : carousel.noteOccupancy.keyFocus = carousel.keyFocus := by
  unfold noteOccupancy; split <;> rfl

@[simp] theorem hasActivities_noteOccupancy :
    carousel.noteOccupancy.hasActivities = carousel.occupied := by
  unfold noteOccupancy
  split
  · next same => exact same.symm
  · rfl

/-! ### New cards -/

@[simp] theorem arena_insert :
    (carousel.insert position activity).arena = carousel.arena.insert activity := by
  simp [insert]

@[simp] theorem order_insert :
    (carousel.insert position activity).order =
      carousel.order.take position ++ carousel.nextHandle :: carousel.order.drop position := by
  simp [insert]

@[simp] theorem focused_insert : (carousel.insert position activity).focused = carousel.focused := by
  simp [insert]

@[simp] theorem scrollTarget_insert :
    (carousel.insert position activity).scrollTarget = carousel.scrollTarget := by
  simp [insert]

@[simp] theorem keyFocus_insert :
    (carousel.insert position activity).keyFocus = carousel.keyFocus := by
  simp [insert]

@[simp] theorem hasActivities_insert :
    (carousel.insert position activity).hasActivities = true := by
  simp [insert, occupied, isEmpty]

/-! ### Cards that go -/

/-- A handle without a card leaves everything as it is. -/
theorem erase_of_not_contains (absent : carousel.contains handle = false) :
    carousel.erase handle = carousel := by
  simp [erase, absent]

@[simp] theorem get?_erase :
    (carousel.erase handle).get? other =
      if other = handle then none else carousel.get? other := by
  by_cases live : carousel.contains handle = true
  · simp [erase, live, get?, carousel.arena.get?_remove]
  · rw [Bool.not_eq_true] at live
    rw [erase_of_not_contains carousel handle live]
    split
    · next same => rw [same, ← contains_eq_false_iff, live]
    · rfl

/-- A handle that is gone leaves its place, and the others move up. -/
theorem order_erase (live : carousel.contains handle = true) :
    (carousel.erase handle).order = carousel.order.filter (· ≠ handle) := by
  simp [erase, live]

@[simp] theorem entries_erase :
    (carousel.erase handle).entries = carousel.entries.filter fun entry => entry.1 ≠ handle := by
  by_cases live : carousel.contains handle = true
  · simp only [entries, order_erase carousel handle live, List.filterMap_filter,
      List.filter_filterMap]
    refine congrArg (List.filterMap · _) (funext fun found => ?_)
    by_cases same : found = handle
    · cases carousel.get? found <;> simp [same, Option.filter]
    · cases present : carousel.get? found <;> simp [same, present, Option.filter]
  · rw [Bool.not_eq_true] at live
    rw [erase_of_not_contains carousel handle live]
    refine (List.filter_eq_self.2 fun entry member => ?_).symm
    have present := ((carousel.mem_entries entry.1 entry.2).1 member).2
    have apart : entry.1 ≠ handle := fun same => by
      rw [contains_eq_false_iff, ← same, present] at live
      cases live
    simpa using apart

/-! ### Changed cards -/

@[simp] theorem get?_modify :
    (carousel.modify handle change).get? other =
      (carousel.get? other).map fun activity =>
        if other = handle then change activity else activity :=
  carousel.arena.get?_modify handle other change

@[simp] theorem contains_modify :
    (carousel.modify handle change).contains other = carousel.contains other := by
  simp [contains, modify, Arena.contains, carousel.arena.get?_modify]

@[simp] theorem entries_modify :
    (carousel.modify handle change).entries =
      carousel.entries.map fun entry =>
        if entry.1 = handle then (entry.1, change entry.2) else entry := by
  simp only [entries, List.map_filterMap]
  refine congrArg (List.filterMap · _) (funext fun found => ?_)
  rw [get?_modify, Option.map_map, Option.map_map]
  refine congrArg (Option.map · _) (funext fun card => ?_)
  by_cases same : found = handle <;> simp [same]

@[simp] theorem get?_mapActivities :
    (carousel.mapActivities change).get? handle = (carousel.get? handle).map change :=
  carousel.arena.get?_map handle change

@[simp] theorem contains_mapActivities :
    (carousel.mapActivities change).contains handle = carousel.contains handle := by
  simp [contains, mapActivities, Arena.contains, carousel.arena.get?_map]

@[simp] theorem entries_mapActivities :
    (carousel.mapActivities change).entries =
      carousel.entries.map fun entry => (entry.1, change entry.2) := by
  simp only [entries, List.map_filterMap]
  refine congrArg (List.filterMap · _) (funext fun found => ?_)
  rw [get?_mapActivities, Option.map_map, Option.map_map]
  rfl

/-! ### References -/

@[simp] theorem arena_focus : (carousel.focus handle).arena = carousel.arena := by
  unfold focus; split <;> rfl

@[simp] theorem order_focus : (carousel.focus handle).order = carousel.order := by
  unfold focus; split <;> rfl

@[simp] theorem arena_scrollTo : (carousel.scrollTo handle).arena = carousel.arena := by
  unfold scrollTo; split <;> rfl

@[simp] theorem order_scrollTo : (carousel.scrollTo handle).order = carousel.order := by
  unfold scrollTo; split <;> rfl

@[simp] theorem arena_scrollOnly : (carousel.scrollOnly handle).arena = carousel.arena := by
  unfold scrollOnly; split <;> rfl

@[simp] theorem order_scrollOnly : (carousel.scrollOnly handle).order = carousel.order := by
  unfold scrollOnly; split <;> rfl

@[simp] theorem arena_grabFocus : (carousel.grabFocus handle).arena = carousel.arena := by
  unfold grabFocus; split <;> rfl

@[simp] theorem order_grabFocus : (carousel.grabFocus handle).order = carousel.order := by
  unfold grabFocus; split <;> rfl

/-- The entries are determined by the arena and the order alone. -/
theorem entries_eq_of_same_strip {first second : Carousel} (arena : first.arena = second.arena)
    (order : first.order = second.order) : first.entries = second.entries := by
  simp only [entries, get?, arena, order]

end TaskSwitcher.Carousel
