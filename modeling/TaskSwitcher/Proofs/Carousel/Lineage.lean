import Mathlib.Data.List.Nodup
import TaskSwitcher.Carousel.Lemmas

/-!
# Handles are handed out once

The version of a slot grows by one when the slot is given away and by one when it is given back, until it
would not fit into 32 bits any more. So an arena that has handed out few enough handles remembers them all:
each names a slot under a version that the slot has reached, and the next handle names a version that its
slot has not reached yet.
-/

namespace TaskSwitcher.Arena

variable {α : Type} {arena after : Arena α} {issued : List Handle}

/-- The version of each slot, and whether it is in use. -/
def shapes (arena : Arena α) : List (UInt32 × Bool) :=
  arena.slots.map fun slot => (slot.version, slot.content.isSome)

/-- A slot is seen in the shapes with its version and whether it is in use. -/
theorem shapes_eq_some {position : Nat} {slot : Slot α} (found : arena.slots[position]? = some slot) :
    arena.shapes[position]? = some (slot.version, slot.content.isSome) := by
  rw [shapes, List.getElem?_map, found, Option.map_some]

@[simp] theorem shapes_map (arena : Arena α) (change : α → α) :
    (arena.map change).shapes = arena.shapes := by
  simp [shapes, map, Slot.change]

@[simp] theorem shapes_modify (arena : Arena α) (handle : Handle) (change : α → α) :
    (arena.modify handle change).shapes = arena.shapes := by
  apply List.ext_getElem?
  intro position
  simp only [shapes, modify, List.getElem?_map, List.getElem?_modify]
  cases arena.slots[position]? with
  | none => rfl
  | some slot =>
      by_cases changed : handle.slot = position <;> by_cases known : slot.version = handle.version <;>
        simp [changed, known, Slot.changeAt, Slot.change]

/-! ### Slots that move on -/

/-- The slot of `place` moves on to a higher version, that of `place`, and is then in use or not. All other
slots stay as they are. -/
structure MovesOn (before after : Arena α) (place : Handle) (inUse : Bool) : Prop where
  here : after.shapes[place.slot]? = some (place.version, inUse)
  elsewhere : ∀ position, position ≠ place.slot →
    after.shapes[position]? = before.shapes[position]?
  higher : ∀ version used, before.shapes[place.slot]? = some (version, used) →
    version.toNat < place.version.toNat

/-- A version that is not the last of its kind goes up by one. -/
theorem toNat_succ_of_lt {version : UInt32} (few : version.toNat + 1 < UInt32.size) :
    (version + 1).toNat = version.toNat + 1 := by
  rw [UInt32.toNat_add]
  exact Nat.mod_eq_of_lt few

/-- A value is put into the slot of the next handle. -/
theorem movesOn_insert (valid : arena.Valid)
    (few : ∀ version, arena.shapes[arena.next.slot]? = some (version, false) →
      version.toNat + 1 < UInt32.size) (value : α) :
    MovesOn arena (arena.insert value) arena.next true := by
  cases freed : arena.free with
  | nil =>
      -- A slot is appended, and no slot was here before.
      have shapes : (arena.insert value).shapes = arena.shapes ++ [(1, true)] := by
        simp [insert, freed, Arena.shapes]
      have next : arena.next = ⟨arena.shapes.length, 1⟩ := by
        simp [Arena.next, freed, Arena.shapes]
      rw [next]
      refine ⟨by simp [shapes], fun position apart => ?_, by simp⟩
      rw [shapes, List.getElem?_append]
      split
      · rfl
      · next beyond =>
          simp only at apart
          rw [List.getElem?_eq_none (by simp; omega), List.getElem?_eq_none (by omega)]
  | cons slot free =>
      -- A slot is used again, in its next version.
      obtain ⟨version, vacant⟩ := valid.vacant_of_mem_free slot (by simp [freed])
      have shape : arena.shapes[slot]? = some (version, false) := shapes_eq_some vacant
      have inside := (List.getElem?_eq_some_iff.1 shape).1
      have next : arena.next = ⟨slot, version + 1⟩ := by simp [Arena.next, freed, vacant]
      have shapes : (arena.insert value).shapes = arena.shapes.set slot (version + 1, true) := by
        simp [insert, freed, next, Arena.shapes, List.map_set]
      rw [next] at few ⊢
      refine ⟨?_, fun position apart => ?_, fun former used found => ?_⟩
      · rw [shapes, List.getElem?_set_self inside]
      · rw [shapes, List.getElem?_set_ne (Ne.symm apart)]
      · rw [shape] at found
        cases found
        exact (toNat_succ_of_lt (few version shape)).symm ▸ Nat.lt_succ_self _

/-- The slot of a removed value is given back. -/
theorem movesOn_remove {handle : Handle} (live : arena.contains handle = true)
    (few : handle.version.toNat + 1 < UInt32.size) :
    MovesOn arena (arena.remove handle) ⟨handle.slot, handle.version + 1⟩ false := by
  obtain ⟨value, found⟩ := (arena.contains_iff handle).1 live
  have shape := shapes_eq_some (arena.exists_slot_of_get?_eq_some handle value found)
  have inside := (List.getElem?_eq_some_iff.1 shape).1
  have shapes : (arena.remove handle).shapes =
      arena.shapes.set handle.slot (handle.version + 1, false) := by
    simp [remove, live, Arena.shapes, List.map_set]
  refine ⟨?_, fun position apart => ?_, fun former used known => ?_⟩
  · rw [shapes, List.getElem?_set_self inside]
  · rw [shapes, List.getElem?_set_ne (Ne.symm apart)]
  · rw [shape] at known
    cases known
    exact (toNat_succ_of_lt few).symm ▸ Nat.lt_succ_self _

/-! ### Remembered handles -/

/-- The arena has handed out these handles, no two of them alike, and each slot has reached all versions
under which it was handed out. The version of a slot, which counts giving away and giving back, shows that
it was not given away more often than there are handles. -/
structure Remembers (arena : Arena α) (issued : List Handle) : Prop where
  distinct : issued.Nodup
  reached : ∀ handle ∈ issued, ∃ version inUse,
    arena.shapes[handle.slot]? = some (version, inUse) ∧ handle.version.toNat ≤ version.toNat
  bounded : ∀ (position : Nat) (version : UInt32) (inUse : Bool),
    arena.shapes[position]? = some (version, inUse) →
    version.toNat + inUse.toNat ≤ 2 * issued.length

/-- An arena that was never used has issued nothing. -/
theorem remembers_empty : ({} : Arena α).Remembers [] where
  distinct := List.nodup_nil
  reached := by simp
  bounded position version inUse found := by
    cases position with
    | zero =>
        cases found
        exact Nat.le_refl 0
    | succ position => simp [shapes] at found

namespace Remembers

variable (remembers : arena.Remembers issued)

include remembers

/-- Only versions and free slots are remembered, and no values. -/
theorem of_shapes_eq (same : after.shapes = arena.shapes) : after.Remembers issued where
  distinct := remembers.distinct
  reached := same ▸ remembers.reached
  bounded := same ▸ remembers.bounded

/-- The order in which handles were issued makes no difference. -/
theorem perm {other : List Handle} (same : issued.Perm other) : arena.Remembers other where
  distinct := same.nodup_iff.1 remembers.distinct
  reached handle member := remembers.reached handle (same.mem_iff.2 member)
  bounded := same.length_eq ▸ remembers.bounded

section

variable {place : Handle} {inUse : Bool} (moves : MovesOn arena after place inUse)

include moves

/-- A slot goes on from the version that was issued with it. -/
theorem reached_of_movesOn {handle : Handle} (member : handle ∈ issued) :
    ∃ version used, after.shapes[handle.slot]? = some (version, used) ∧
      handle.version.toNat ≤ version.toNat := by
  obtain ⟨version, used, found, reached⟩ := remembers.reached handle member
  by_cases same : handle.slot = place.slot
  · rw [same] at found ⊢
    have older := Nat.le_of_lt (moves.higher version used found)
    exact ⟨place.version, inUse, moves.here, Nat.le_trans reached older⟩
  · exact ⟨version, used, (moves.elsewhere handle.slot same).trans found, reached⟩

/-- A version that a slot has only just reached was never handed out before. -/
theorem not_mem_of_movesOn : place ∉ issued := by
  intro member
  obtain ⟨version, used, found, reached⟩ := remembers.reached place member
  exact absurd reached (Nat.not_le_of_lt (moves.higher version used found))

/-- Each use of a slot takes its version up by two at most, so versions stay below twice the number of
handles issued. -/
theorem bounded_of_movesOn {count : Nat} (more : issued.length ≤ count)
    (fits : place.version.toNat + inUse.toNat ≤ 2 * count) {position : Nat} {version : UInt32}
    {used : Bool} (found : after.shapes[position]? = some (version, used)) :
    version.toNat + used.toNat ≤ 2 * count := by
  by_cases same : position = place.slot
  · rw [same, moves.here] at found
    cases found
    exact fits
  · rw [moves.elsewhere position same] at found
    have bound := remembers.bounded position version used found
    omega

end

/-- The next handle was never handed out before. -/
theorem insert (valid : arena.Valid) (few : 2 * (issued.length + 1) < UInt32.size) (value : α) :
    (arena.insert value).Remembers (issued ++ [arena.next]) := by
  have vacant (version : UInt32) (found : arena.shapes[arena.next.slot]? = some (version, false)) :
      version.toNat ≤ 2 * issued.length := remembers.bounded _ version false found
  have moves := movesOn_insert valid (fun version found => by have := vacant version found; omega)
    value
  -- The version that is handed out is the first of a new slot or follows that of a vacant one.
  have fits : arena.next.version.toNat + 1 ≤ 2 * (issued.length + 1) := by
    cases freed : arena.free with
    | nil =>
        simp only [next, freed, UInt32.reduceToNat]
        omega
    | cons slot rest =>
        obtain ⟨version, unused⟩ := valid.vacant_of_mem_free slot (by simp [freed])
        have next : arena.next = ⟨slot, version + 1⟩ := by simp [Arena.next, freed, unused]
        have bound := vacant version (by rw [next]; exact shapes_eq_some unused)
        have higher : (version + 1).toNat = version.toNat + 1 := toNat_succ_of_lt (by omega)
        simp only [next]
        omega
  refine ⟨?_, fun handle member => ?_, fun position version inUse found => ?_⟩
  · simpa using remembers.distinct.concat (remembers.not_mem_of_movesOn moves)
  · rcases List.mem_append.1 member with old | last
    · exact remembers.reached_of_movesOn moves old
    · rw [List.mem_singleton.1 last]
      exact ⟨arena.next.version, true, moves.here, Nat.le_refl _⟩
  · rw [List.length_append, List.length_singleton]
    exact remembers.bounded_of_movesOn moves (Nat.le_succ _) fits found

/-- Giving a slot back hands nothing out. -/
theorem remove (few : 2 * issued.length < UInt32.size) (handle : Handle) :
    (arena.remove handle).Remembers issued := by
  by_cases live : arena.contains handle = true
  · obtain ⟨value, found⟩ := (arena.contains_iff handle).1 live
    have shape := shapes_eq_some (arena.exists_slot_of_get?_eq_some handle value found)
    have bound : handle.version.toNat + 1 ≤ 2 * issued.length :=
      remembers.bounded handle.slot handle.version true shape
    have moves := movesOn_remove live (by omega)
    have higher : (handle.version + 1).toNat = handle.version.toNat + 1 :=
      toNat_succ_of_lt (by omega)
    refine ⟨remembers.distinct, fun other => remembers.reached_of_movesOn moves,
      fun position version inUse => remembers.bounded_of_movesOn moves (Nat.le_refl _) ?_⟩
    simp only [Bool.toNat_false]
    omega
  · rw [Arena.remove, if_neg live]
    exact remembers

end Remembers

/-- Changing the value of a handle that finds none changes nothing. -/
theorem modify_of_get?_eq_none {handle : Handle} (absent : arena.get? handle = none)
    (change : α → α) : arena.modify handle change = arena := by
  have slots : arena.slots.modify handle.slot (·.changeAt handle.version change) = arena.slots := by
    apply List.ext_getElem?
    intro position
    rw [List.getElem?_modify]
    by_cases same : handle.slot = position
    · subst same
      cases found : arena.slots[handle.slot]? with
      | none => simp
      | some slot =>
          obtain ⟨version, content⟩ := slot
          have vacant : (Slot.mk version content).contentAt handle.version = none := by
            simpa [get?, found] using absent
          by_cases known : version = handle.version
          · have empty : content = none := by simpa [Slot.contentAt, known] using vacant
            simp [Slot.changeAt, Slot.change, empty]
          · simp [Slot.changeAt, known]
    · simp [same]
  rw [modify, slots]

end TaskSwitcher.Arena
