import Mathlib.Data.List.Nodup
import TaskSwitcher.Carousel.Lemmas

/-!
# The strip and its arena agree

A carousel is valid when its order lists the handles of the arena's cards, each once, when every
reference into it points to a card, and when the noted occupancy is the present one. Every operation
keeps a carousel valid, whatever handle it is given. In a valid carousel no handle of the order looks
into the void, so the entries are the order with a card at every place.
-/

namespace TaskSwitcher.Carousel

/-- What the order, the arena, the references and the noted occupancy have to do with each other. -/
structure Valid (carousel : Carousel) : Prop where
  arena : carousel.arena.Valid
  order_nodup : carousel.order.Nodup
  mem_order_iff : ∀ handle, handle ∈ carousel.order ↔ carousel.contains handle = true
  focused_live : ∀ handle, carousel.focused = some handle → carousel.contains handle = true
  scrollTarget_live : ∀ handle, carousel.scrollTarget = some handle → carousel.contains handle = true
  keyFocus_live : ∀ handle, carousel.keyFocus = some handle → carousel.contains handle = true
  hasActivities_eq : carousel.hasActivities = carousel.occupied

/-- The empty carousel is valid. -/
theorem valid_empty : ({} : Carousel).Valid where
  arena := Arena.valid_empty
  order_nodup := List.nodup_nil
  mem_order_iff handle := by
    cases handle with
    | mk slot version =>
        cases slot <;> simp [contains, Arena.contains, Arena.get?, Slot.contentAt]
  focused_live := by simp
  scrollTarget_live := by simp
  keyFocus_live := by simp
  hasActivities_eq := rfl

/-- No handle finds a card in the empty carousel. -/
theorem get?_empty (handle : Handle) : ({} : Carousel).get? handle = none := by
  rw [← contains_eq_false_iff, ← Bool.not_eq_true, ← valid_empty.mem_order_iff]
  exact List.not_mem_nil

variable {carousel : Carousel} (valid : carousel.Valid) (handle : Handle)
  (change : Activity → Activity) (position : Nat) (activity : Activity)

include valid

/-! ### Reading a valid carousel -/

/-- Every handle of the order finds its card. -/
theorem Valid.exists_get? (member : handle ∈ carousel.order) :
    ∃ activity, carousel.get? handle = some activity :=
  (carousel.contains_iff handle).1 ((valid.mem_order_iff handle).1 member)

/-- In a valid carousel a handle that finds a card has a place in the order. -/
theorem Valid.mem_order_of_get? (found : carousel.get? handle = some activity) :
    handle ∈ carousel.order :=
  (valid.mem_order_iff handle).2 ((carousel.contains_iff handle).2 ⟨activity, found⟩)

/-- An entry is a handle with the card that it finds. -/
theorem Valid.mem_entries_iff :
    (handle, activity) ∈ carousel.entries ↔ carousel.get? handle = some activity := by
  rw [mem_entries]
  exact ⟨And.right, fun found => ⟨valid.mem_order_of_get? handle activity found, found⟩⟩

/-- Taking all cards along the order misses none of them. -/
theorem Valid.map_fst_entries : carousel.entries.map (·.1) = carousel.order := by
  rw [entries, List.map_filterMap]
  calc
    carousel.order.filterMap
          (fun handle => ((carousel.get? handle).map (handle, ·)).map (·.1)) =
        carousel.order.filterMap some := by
      refine List.filterMap_congr fun found member => ?_
      obtain ⟨card, present⟩ := valid.exists_get? found member
      simp [present]
    _ = carousel.order := List.filterMap_some

/-! ### New cards -/

/-- The handle of a new card is not in use. -/
theorem Valid.nextHandle_not_mem : carousel.nextHandle ∉ carousel.order := by
  intro member
  obtain ⟨card, found⟩ := valid.exists_get? carousel.nextHandle member
  rw [get?, nextHandle, valid.arena.get?_next] at found
  cases found

/-- The new handle finds the new card, and every other handle finds what it found. -/
theorem Valid.get?_insert :
    (carousel.insert position activity).get? handle =
      if handle = carousel.nextHandle then some activity else carousel.get? handle := by
  rw [get?, arena_insert, valid.arena.get?_insert]
  rfl

/-- Inserting gives life to the new handle and to no other. -/
theorem Valid.contains_insert :
    (carousel.insert position activity).contains handle = true ↔
      handle = carousel.nextHandle ∨ carousel.contains handle = true := by
  rw [contains_iff, contains_iff, valid.get?_insert]
  by_cases new : handle = carousel.nextHandle <;> simp [new]

omit valid in
/-- A new card gets one place of the order, and all other cards keep theirs. -/
theorem order_insert_perm :
    (carousel.insert position activity).order.Perm (carousel.nextHandle :: carousel.order) := by
  rw [order_insert]
  refine List.perm_middle.trans (List.Perm.cons _ ?_)
  rw [List.take_append_drop]

/-- Inserting keeps a carousel valid, at whatever position. -/
theorem Valid.insert : (carousel.insert position activity).Valid where
  arena := by rw [arena_insert]; exact valid.arena.insert activity
  order_nodup := by
    rw [(order_insert_perm position activity).nodup_iff, List.nodup_cons]
    exact ⟨valid.nextHandle_not_mem, valid.order_nodup⟩
  mem_order_iff handle := by
    rw [(order_insert_perm position activity).mem_iff, List.mem_cons, valid.mem_order_iff,
      valid.contains_insert]
  focused_live handle points := by
    rw [focused_insert] at points
    exact (valid.contains_insert ..).2 (.inr (valid.focused_live handle points))
  scrollTarget_live handle points := by
    rw [scrollTarget_insert] at points
    exact (valid.contains_insert ..).2 (.inr (valid.scrollTarget_live handle points))
  keyFocus_live handle points := by
    rw [keyFocus_insert] at points
    exact (valid.contains_insert ..).2 (.inr (valid.keyFocus_live handle points))
  hasActivities_eq := by simp [occupied, isEmpty]

/-- A card behind all others keeps a carousel valid. -/
theorem Valid.push : (carousel.push activity).Valid :=
  valid.insert carousel.length activity

omit valid in
/-- Where every element has an image, the images of the first elements are the first images. -/
theorem filterMap_take_of_forall_some {α β : Type} {image : α → Option β} {elements : List α}
    (total : ∀ element ∈ elements, ∃ value, image element = some value) (count : Nat) :
    (elements.take count).filterMap image = (elements.filterMap image).take count ∧
      (elements.drop count).filterMap image = (elements.filterMap image).drop count := by
  induction elements generalizing count with
  | nil => simp
  | cons first rest inductionHypothesis =>
      obtain ⟨value, found⟩ := total first List.mem_cons_self
      have later := inductionHypothesis fun element member =>
        total element (List.mem_cons_of_mem first member)
      cases count with
      | zero => simp
      | succ count => simpa [found] using later count

/-- A new card is put between the entries in front of its place and those behind. -/
theorem Valid.entries_insert :
    (carousel.insert position activity).entries =
      carousel.entries.take position ++
        (carousel.nextHandle, activity) :: carousel.entries.drop position := by
  have others (part : List Handle) (within : ∀ handle ∈ part, handle ∈ carousel.order) :
      part.filterMap (fun handle =>
          ((carousel.insert position activity).get? handle).map (handle, ·)) =
        part.filterMap (fun handle => (carousel.get? handle).map (handle, ·)) := by
    refine List.filterMap_congr fun handle member => ?_
    have old : handle ≠ carousel.nextHandle := fun same =>
      valid.nextHandle_not_mem (same ▸ within handle member)
    rw [valid.get?_insert, if_neg old]
  have total : ∀ handle ∈ carousel.order,
      ∃ entry, (carousel.get? handle).map (handle, ·) = some entry := by
    intro handle member
    obtain ⟨card, found⟩ := valid.exists_get? handle member
    exact ⟨(handle, card), by rw [found, Option.map_some]⟩
  obtain ⟨front, back⟩ := filterMap_take_of_forall_some total position
  rw [entries, order_insert, List.filterMap_append, List.filterMap_cons, valid.get?_insert,
    if_pos rfl, others _ fun handle => List.mem_of_mem_take,
    others _ fun handle => List.mem_of_mem_drop, front, back]
  rfl

/-! ### Cards that go -/

/-- Erasing keeps a carousel valid, also with a handle that is dead. -/
theorem Valid.erase : (carousel.erase handle).Valid := by
  by_cases live : carousel.contains handle = true
  · have contains_erase (other : Handle) :
        (carousel.erase handle).contains other = true ↔
          other ≠ handle ∧ carousel.contains other = true := by
      rw [contains_iff, contains_iff, get?_erase]
      by_cases same : other = handle <;> simp [same]
    -- A reference that is left is an old one to another card.
    have reference (old : Option Handle)
        (points : ∀ other, old = some other → carousel.contains other = true) (other : Handle)
        (left : withoutReference handle old = some other) :
        (carousel.erase handle).contains other = true := by
      rw [withoutReference] at left
      split at left
      · cases left
      · next apart => exact (contains_erase other).2 ⟨fun same => apart (same ▸ left), points other left⟩
    refine ⟨?_, ?_, fun other => ?_, ?_, ?_, ?_, ?_⟩
    · simpa [Carousel.erase, live] using valid.arena.remove handle
    · rw [order_erase carousel handle live]
      exact valid.order_nodup.filter _
    · rw [order_erase carousel handle live, contains_erase, ← valid.mem_order_iff]
      simp [and_comm]
    · simpa [Carousel.erase, live] using reference carousel.focused valid.focused_live
    · simpa [Carousel.erase, live] using reference carousel.scrollTarget valid.scrollTarget_live
    · simpa [Carousel.erase, live] using reference carousel.keyFocus valid.keyFocus_live
    · simp [Carousel.erase, live, occupied, isEmpty]
  · rw [Bool.not_eq_true] at live
    rwa [erase_of_not_contains carousel handle live]

/-! ### Changed cards -/

/-- Cards may be exchanged as long as the same handles find one. -/
theorem Valid.withArena {arena : Arena Activity} (arenaValid : arena.Valid)
    (same : ∀ handle, arena.contains handle = carousel.contains handle) :
    { carousel with arena }.Valid where
  arena := arenaValid
  order_nodup := valid.order_nodup
  mem_order_iff other := by
    have unchanged : { carousel with arena }.contains other = carousel.contains other := same other
    rw [unchanged, valid.mem_order_iff]
  focused_live other points := (same other).trans (valid.focused_live other points)
  scrollTarget_live other points := (same other).trans (valid.scrollTarget_live other points)
  keyFocus_live other points := (same other).trans (valid.keyFocus_live other points)
  hasActivities_eq := valid.hasActivities_eq

/-- A change of one card keeps a carousel valid. -/
theorem Valid.modify : (carousel.modify handle change).Valid :=
  valid.withArena (valid.arena.modify handle change) fun other =>
    carousel.contains_modify handle other change

/-- A change of all cards keeps a carousel valid. -/
theorem Valid.mapActivities : (carousel.mapActivities change).Valid :=
  valid.withArena (valid.arena.map change) fun other => carousel.contains_mapActivities other change

/-! ### References -/

/-- Moving the focus keeps a carousel valid. -/
theorem Valid.focus : (carousel.focus handle).Valid := by
  unfold Carousel.focus
  split
  · next live => exact { valid with focused_live := fun _ points => Option.some.inj points ▸ live }
  · exact valid

/-- Scrolling keeps a carousel valid. -/
theorem Valid.scrollTo : (carousel.scrollTo handle).Valid := by
  unfold Carousel.scrollTo
  split
  · next live =>
      exact
        { valid with
          scrollTarget_live := fun _ points => Option.some.inj points ▸ live
          keyFocus_live := fun _ points => Option.some.inj points ▸ live }
  · exact valid

/-- The signal to scroll keeps a carousel valid. -/
theorem Valid.scrollOnly : (carousel.scrollOnly handle).Valid := by
  unfold Carousel.scrollOnly
  split
  · next live =>
      exact { valid with scrollTarget_live := fun _ points => Option.some.inj points ▸ live }
  · exact valid

/-- The signal to grab the focus keeps a carousel valid. -/
theorem Valid.grabFocus : (carousel.grabFocus handle).Valid := by
  unfold Carousel.grabFocus
  split
  · next live => exact { valid with keyFocus_live := fun _ points => Option.some.inj points ▸ live }
  · exact valid

/-- Handing over the waiting signals keeps a carousel valid. -/
theorem Valid.drain : carousel.drain.Valid :=
  { valid with }

end TaskSwitcher.Carousel
