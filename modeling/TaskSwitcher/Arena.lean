import TaskSwitcher.Handle

/-!
# Storage addressed by handles

An arena keeps values in numbered slots and names each value by a handle. A slot whose value was removed
is used again, the most recently freed one first, under a version that is two higher; versions count
modulo 2^32. A handle finds a value only while the slot has the version of the handle, so the handle of
a removed value does not find the value that took its slot.
-/

namespace TaskSwitcher

/-- One place of an arena. -/
structure Slot (α : Type) where
  /-- Odd while the slot is in use. -/
  version : UInt32
  content : Option α

namespace Slot

variable {α : Type}

/-- The value of a slot for those who know its version. -/
def contentAt (slot : Slot α) (version : UInt32) : Option α :=
  if slot.version = version then slot.content else none

/-- The slot with its value changed, if it has one. -/
def change (slot : Slot α) (change : α → α) : Slot α :=
  { slot with content := slot.content.map change }

/-- The slot with its value changed for those who know its version. -/
def changeAt (slot : Slot α) (version : UInt32) (change : α → α) : Slot α :=
  if slot.version = version then slot.change change else slot

end Slot

/-- The slots used so far. Position 0 is never handed out. -/
structure Arena (α : Type) where
  slots : List (Slot α) := [⟨0, none⟩]
  /-- The slots that were given back, most recently freed first. -/
  free : List Nat := []

namespace Arena

variable {α : Type}

/-- The value with this handle. -/
def get? (arena : Arena α) (handle : Handle) : Option α :=
  arena.slots[handle.slot]?.bind (·.contentAt handle.version)

/-- Whether the handle names a value of the arena. -/
def contains (arena : Arena α) (handle : Handle) : Bool :=
  (arena.get? handle).isSome

/-- The handle that the next value will get: the slot that was freed last under its next odd version, or
else a new slot. -/
def next (arena : Arena α) : Handle :=
  match arena.free with
  | [] => ⟨arena.slots.length, 1⟩
  | slot :: _ => ⟨slot, (arena.slots[slot]?.map Slot.version).getD 0 + 1⟩

/-- The arena with one more value, which gets the handle `next`. -/
def insert (arena : Arena α) (value : α) : Arena α :=
  match arena.free with
  | [] => { arena with slots := arena.slots ++ [⟨1, some value⟩] }
  | slot :: free => { slots := arena.slots.set slot ⟨arena.next.version, some value⟩, free }

/-- The arena without the value of this handle. If there is no such value nothing changes. -/
def remove (arena : Arena α) (handle : Handle) : Arena α :=
  if arena.contains handle then
    { slots := arena.slots.set handle.slot ⟨handle.version + 1, none⟩
      free := handle.slot :: arena.free }
  else
    arena

/-- The arena with the value of one handle changed. -/
def modify (arena : Arena α) (handle : Handle) (change : α → α) : Arena α :=
  { arena with slots := arena.slots.modify handle.slot (·.changeAt handle.version change) }

/-- The arena with every value changed. -/
def map (arena : Arena α) (change : α → α) : Arena α :=
  { arena with slots := arena.slots.map (·.change change) }

/-! ### What a handle finds -/

section

variable (arena : Arena α) (handle other : Handle) (value : α) (change : α → α)

/-- A handle names a value exactly if something is found under it. -/
theorem contains_iff : arena.contains handle = true ↔ ∃ value, arena.get? handle = some value := by
  rw [contains, Option.isSome_iff_exists]

/-- A handle that names no value finds nothing, be it stale, forged or of a slot never used. -/
theorem contains_eq_false_iff : arena.contains handle = false ↔ arena.get? handle = none := by
  rw [contains, Option.isSome_eq_false_iff, Option.isNone_iff_eq_none]

/-- The slot of a handle that finds something has the version of the handle. -/
theorem exists_slot_of_get?_eq_some (found : arena.get? handle = some value) :
    arena.slots[handle.slot]? = some ⟨handle.version, some value⟩ := by
  obtain ⟨slot, atSlot, content⟩ := Option.bind_eq_some_iff.1 found
  rw [Slot.contentAt, Option.ite_none_right_eq_some] at content
  rw [atSlot, ← content.1, ← content.2]

/-- A removed value is not found any more, and all others are. -/
theorem get?_remove :
    (arena.remove handle).get? other = if other = handle then none else arena.get? other := by
  by_cases live : arena.contains handle = true
  · obtain ⟨value, found⟩ := (arena.contains_iff handle).1 live
    have atSlot := arena.exists_slot_of_get?_eq_some handle value found
    obtain ⟨inside, -⟩ := List.getElem?_eq_some_iff.1 atSlot
    simp only [remove, live, if_true, get?, List.getElem?_set]
    by_cases same : other = handle
    · simp [same, inside, Slot.contentAt]
    · by_cases shared : handle.slot = other.slot
      · -- Another handle of the same slot has another version, so it found nothing before.
        have apart : handle.version ≠ other.version := fun equal =>
          same (by cases other; cases handle; simp_all)
        rw [shared] at atSlot inside
        simp only [same, if_false, shared, inside, if_true, atSlot, Option.bind_some,
          Slot.contentAt, apart]
        split <;> rfl
      · simp [same, shared]
  · rw [remove, if_neg live]
    split
    · next same => rw [same, ← arena.contains_eq_false_iff, Bool.eq_false_iff]; exact live
    · rfl

/-- A change is seen through the handle of the changed value and through no other. -/
theorem get?_modify :
    (arena.modify handle change).get? other =
      (arena.get? other).map fun value => if other = handle then change value else value := by
  simp only [get?, modify, List.getElem?_modify]
  cases arena.slots[other.slot]? with
  | none => rfl
  | some slot =>
      by_cases shared : handle.slot = other.slot
      · by_cases present : slot.version = handle.version
        · by_cases same : handle.version = other.version
          · have equal : other = handle := by cases other; cases handle; simp_all
            simp [Slot.changeAt, Slot.change, Slot.contentAt, present, equal]
          · have apart : other ≠ handle := fun equal => same (equal ▸ rfl)
            simp [Slot.changeAt, Slot.change, Slot.contentAt, shared, present, same]
        · by_cases equal : other = handle
          · simp [Slot.changeAt, Slot.contentAt, present, equal]
          · simp [Slot.changeAt, present, equal]
      · have apart : other ≠ handle := fun equal => shared (equal ▸ rfl)
        simp [shared, apart]

/-- A change of all values is seen through every handle. -/
theorem get?_map : (arena.map change).get? handle = (arena.get? handle).map change := by
  simp only [get?, map, List.getElem?_map]
  cases arena.slots[handle.slot]? with
  | none => rfl
  | some slot => by_cases present : slot.version = handle.version <;>
      simp [Slot.change, Slot.contentAt, present]

end

/-! ### Free slots -/

/-- The list of free slots names slots without a value, each of them once. -/
structure Valid (arena : Arena α) : Prop where
  free_nodup : arena.free.Nodup
  vacant_of_mem_free : ∀ position ∈ arena.free,
    ∃ version, arena.slots[position]? = some ⟨version, none⟩

section

variable {arena : Arena α} (valid : arena.Valid) (handle : Handle) (value : α) (change : α → α)

/-- An arena that was never used has no free slots to agree about. -/
theorem valid_empty : ({} : Arena α).Valid where
  free_nodup := List.nodup_nil
  vacant_of_mem_free := by simp

include valid

/-- A handle is handed out only while it finds nothing. -/
theorem Valid.get?_next : arena.get? arena.next = none := by
  cases freed : arena.free with
  | nil => simp [get?, next, freed]
  | cons slot free =>
      obtain ⟨version, vacant⟩ := valid.vacant_of_mem_free slot (by simp [freed])
      simp [get?, next, freed, vacant, Slot.contentAt]

/-- A new value is found under the handle that `next` promised. -/
theorem Valid.get?_insert_next : (arena.insert value).get? arena.next = some value := by
  cases freed : arena.free with
  | nil => simp [insert, next, freed, get?, Slot.contentAt]
  | cons slot free =>
      obtain ⟨version, vacant⟩ := valid.vacant_of_mem_free slot (by simp [freed])
      obtain ⟨inside, -⟩ := List.getElem?_eq_some_iff.1 vacant
      simp [insert, next, freed, get?, inside, Slot.contentAt]

/-- Other handles, those of former users of the slot included, find what they found before. -/
theorem Valid.get?_insert_of_ne (apart : handle ≠ arena.next) :
    (arena.insert value).get? handle = arena.get? handle := by
  -- The version tells the new value apart from whatever else is looked up in its slot.
  have differs (shared : arena.next.slot = handle.slot) : arena.next.version ≠ handle.version :=
    fun same => apart (by cases handle; cases given : arena.next; simp_all)
  cases freed : arena.free with
  | nil =>
      simp only [next, freed] at differs
      simp only [insert, freed, get?, List.getElem?_append]
      rcases Nat.lt_trichotomy handle.slot arena.slots.length with old | new | beyond
      · simp only [old, if_true]
      · simp [new, Slot.contentAt, differs new.symm]
      · rw [if_neg (by omega), List.getElem?_eq_none (by simp; omega),
          List.getElem?_eq_none (by omega)]
  | cons slot free =>
      obtain ⟨version, vacant⟩ := valid.vacant_of_mem_free slot (by simp [freed])
      obtain ⟨inside, -⟩ := List.getElem?_eq_some_iff.1 vacant
      have place : arena.next.slot = slot := by simp [next, freed]
      simp only [insert, freed, get?, List.getElem?_set]
      by_cases shared : slot = handle.slot
      · have found : (arena.slots[handle.slot]?.bind (·.contentAt handle.version)) = none := by
          rw [← shared, vacant]; simp [Slot.contentAt]
        rw [found]
        simp [shared, shared ▸ inside, Slot.contentAt, differs (place.trans shared)]
      · simp only [shared, if_false]

/-- The new value is found by its handle; otherwise each handle finds what it found before. -/
theorem Valid.get?_insert :
    (arena.insert value).get? handle =
      if handle = arena.next then some value else arena.get? handle := by
  split
  · next same => rw [same]; exact valid.get?_insert_next value
  · next apart => exact valid.get?_insert_of_ne handle value apart

/-- Handing out a slot takes it off the free list. -/
theorem Valid.insert : (arena.insert value).Valid := by
  cases freed : arena.free with
  | nil =>
      refine ⟨by simp [Arena.insert, freed], ?_⟩
      simp [Arena.insert, freed]
  | cons slot free =>
      have distinct := freed ▸ valid.free_nodup
      rw [List.nodup_cons] at distinct
      refine ⟨by simpa [Arena.insert, freed] using distinct.2, fun position member => ?_⟩
      simp only [Arena.insert, freed] at member ⊢
      have other : slot ≠ position := fun same => distinct.1 (same ▸ member)
      rw [List.getElem?_set_ne other]
      exact valid.vacant_of_mem_free position (by simp [freed, member])

/-- A slot that was given back is put on the free list, where it was not before. -/
theorem Valid.remove : (arena.remove handle).Valid := by
  by_cases live : arena.contains handle = true
  · obtain ⟨value, found⟩ := (arena.contains_iff handle).1 live
    have atSlot := arena.exists_slot_of_get?_eq_some handle value found
    obtain ⟨inside, -⟩ := List.getElem?_eq_some_iff.1 atSlot
    have occupied : handle.slot ∉ arena.free := by
      intro member
      obtain ⟨version, vacant⟩ := valid.vacant_of_mem_free handle.slot member
      simp [atSlot] at vacant
    rw [Arena.remove, if_pos live]
    refine ⟨List.nodup_cons.2 ⟨occupied, valid.free_nodup⟩, fun position member => ?_⟩
    rcases List.mem_cons.1 member with rfl | earlier
    · exact ⟨handle.version + 1, List.getElem?_set_self inside⟩
    · have other : handle.slot ≠ position := fun same => occupied (same ▸ earlier)
      rw [List.getElem?_set_ne other]
      exact valid.vacant_of_mem_free position earlier
  · rwa [Arena.remove, if_neg live]

/-- Changing a value neither frees a slot nor takes one. -/
theorem Valid.modify : (arena.modify handle change).Valid := by
  refine ⟨valid.free_nodup, fun position member => ?_⟩
  obtain ⟨version, vacant⟩ := valid.vacant_of_mem_free position member
  refine ⟨version, ?_⟩
  simp only [Arena.modify, List.getElem?_modify, vacant]
  by_cases changed : handle.slot = position <;> by_cases known : version = handle.version <;>
    simp [changed, known, Slot.changeAt, Slot.change]

/-- Changing all values neither frees a slot nor takes one. -/
theorem Valid.map : (arena.map change).Valid := by
  refine ⟨valid.free_nodup, fun position member => ?_⟩
  obtain ⟨version, vacant⟩ := valid.vacant_of_mem_free position member
  exact ⟨version, by simp [Arena.map, vacant, Slot.change]⟩

end

end Arena

end TaskSwitcher
