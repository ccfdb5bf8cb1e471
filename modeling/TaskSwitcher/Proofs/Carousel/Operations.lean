import TaskSwitcher.Proofs.Carousel.Validity

/-!
# Histories of a carousel

Whatever is done to a carousel from the outside is a sequence of operations, with handles of any origin:
present ones, handles of cards that are gone, the null handle, invented ones. After every such history
the carousel is valid, a further card goes exactly to its place, and a removal takes exactly one card
and the references to it.
-/

namespace TaskSwitcher.Carousel

/-- Something that can be done to a carousel. Editing a card is any change of it. -/
inductive Operation where
  | push (activity : Activity)
  | insert (position : Nat) (activity : Activity)
  | erase (handle : Handle)
  | modify (handle : Handle) (change : Activity → Activity)
  | mapActivities (change : Activity → Activity)
  | focus (handle : Handle)
  | scrollTo (handle : Handle)
  | scrollOnly (handle : Handle)
  | grabFocus (handle : Handle)
  | drain

/-- The carousel after an operation. -/
def perform (carousel : Carousel) : Operation → Carousel
  | .push activity => carousel.push activity
  | .insert position activity => carousel.insert position activity
  | .erase handle => carousel.erase handle
  | .modify handle change => carousel.modify handle change
  | .mapActivities change => carousel.mapActivities change
  | .focus handle => carousel.focus handle
  | .scrollTo handle => carousel.scrollTo handle
  | .scrollOnly handle => carousel.scrollOnly handle
  | .grabFocus handle => carousel.grabFocus handle
  | .drain => carousel.drain

/-- A new carousel after a history of operations, oldest first. -/
def afterOperations (operations : List Operation) : Carousel :=
  operations.foldl perform {}

/-- One operation keeps a carousel valid. -/
theorem Valid.perform {carousel : Carousel} (valid : carousel.Valid) (operation : Operation) :
    (carousel.perform operation).Valid := by
  cases operation with
  | push activity => exact valid.push activity
  | insert position activity => exact valid.insert position activity
  | erase handle => exact valid.erase handle
  | modify handle change => exact valid.modify handle change
  | mapActivities change => exact valid.mapActivities change
  | focus handle => exact valid.focus handle
  | scrollTo handle => exact valid.scrollTo handle
  | scrollOnly handle => exact valid.scrollOnly handle
  | grabFocus handle => exact valid.grabFocus handle
  | drain => exact valid.drain

/-- A history of operations keeps a carousel valid. -/
theorem Valid.foldl_perform {carousel : Carousel} (valid : carousel.Valid)
    (operations : List Operation) : (operations.foldl Carousel.perform carousel).Valid := by
  induction operations generalizing carousel with
  | nil => exact valid
  | cons operation rest inductionHypothesis => exact inductionHypothesis (valid.perform operation)

/-- `after` is `before` with one more card, whose handle was not in use, in front of the one at
`position` or at the end. -/
structure InsertsAt (position : Nat) (activity : Activity) (before after : Carousel) : Prop where
  fresh : before.contains before.nextHandle = false
  order_eq : after.order =
    before.order.insertIdx (min position before.order.length) before.nextHandle
  get?_eq : ∀ handle, after.get? handle =
    if handle = before.nextHandle then some activity else before.get? handle
  focused_eq : after.focused = before.focused
  scrollTarget_eq : after.scrollTarget = before.scrollTarget
  keyFocus_eq : after.keyFocus = before.keyFocus

/-- `after` is `before` without one card and without the references to it. -/
structure Drops (gone : Handle) (before after : Carousel) : Prop where
  order_eq : after.order = before.order.filter (· ≠ gone)
  get?_eq : ∀ handle, after.get? handle = if handle = gone then none else before.get? handle
  focused_eq : after.focused = if before.focused = some gone then none else before.focused
  scrollTarget_eq :
    after.scrollTarget = if before.scrollTarget = some gone then none else before.scrollTarget
  keyFocus_eq : after.keyFocus = if before.keyFocus = some gone then none else before.keyFocus

/-- Parting a list at a position beyond its end parts it at the end. -/
theorem take_append_cons_drop_eq_insertIdx {α : Type} (elements : List α) (position : Nat)
    (element : α) :
    elements.take position ++ element :: elements.drop position =
      elements.insertIdx (min position elements.length) element := by
  induction elements generalizing position with
  | nil => simp
  | cons first rest inductionHypothesis =>
      cases position with
      | zero => simp
      | succ position => simpa [Nat.succ_min_succ] using inductionHypothesis position

/-- Inserting a card does what is specified, and nothing else. -/
theorem Valid.insertsAt {carousel : Carousel} (valid : carousel.Valid) (position : Nat)
    (activity : Activity) :
    InsertsAt position activity carousel (carousel.insert position activity) where
  fresh := (carousel.contains_eq_false_iff _).2 valid.arena.get?_next
  order_eq := by rw [order_insert, take_append_cons_drop_eq_insertIdx]
  get?_eq handle := valid.get?_insert handle position activity
  focused_eq := focused_insert ..
  scrollTarget_eq := scrollTarget_insert ..
  keyFocus_eq := keyFocus_insert ..

/-- Removing a card does what is specified, and nothing else. -/
theorem drops_erase (carousel : Carousel) {gone : Handle} (live : carousel.contains gone = true) :
    Drops gone carousel (carousel.erase gone) where
  order_eq := carousel.order_erase gone live
  get?_eq handle := carousel.get?_erase gone handle
  focused_eq := by simp [erase, live, withoutReference]
  scrollTarget_eq := by simp [erase, live, withoutReference]
  keyFocus_eq := by simp [erase, live, withoutReference]

/-- After every history the strip and the arena agree: the order lists the handles of the cards, each
once; the references point to cards; the noted occupancy is the present one; and going along the order
finds a card at every place. From there a new card goes to its place and nothing else moves, a removal
takes one card with the references to it, and removing what is not there changes nothing. -/
theorem strip_agrees_after_operations (operations : List Operation) :
    let carousel := afterOperations operations
    (carousel.order.Nodup ∧
      ∀ handle, handle ∈ carousel.order ↔ carousel.contains handle = true) ∧
    ((∀ handle, carousel.focused = some handle → carousel.contains handle = true) ∧
      (∀ handle, carousel.scrollTarget = some handle → carousel.contains handle = true) ∧
      ∀ handle, carousel.keyFocus = some handle → carousel.contains handle = true) ∧
    (carousel.hasActivities = !carousel.order.isEmpty) ∧
    ((∀ handle ∈ carousel.order, ∃ activity, carousel.get? handle = some activity) ∧
      carousel.entries.map (·.1) = carousel.order) ∧
    (∀ position activity,
      InsertsAt position activity carousel (carousel.insert position activity)) ∧
    (∀ activity, InsertsAt carousel.order.length activity carousel (carousel.push activity)) ∧
    ∀ gone,
      if carousel.contains gone = true then Drops gone carousel (carousel.erase gone)
      else carousel.erase gone = carousel := by
  intro carousel
  have valid : carousel.Valid := valid_empty.foldl_perform operations
  refine ⟨⟨valid.order_nodup, valid.mem_order_iff⟩,
    ⟨valid.focused_live, valid.scrollTarget_live, valid.keyFocus_live⟩, valid.hasActivities_eq,
    ⟨fun handle => valid.exists_get? handle, valid.map_fst_entries⟩,
    fun position activity => valid.insertsAt position activity,
    fun activity => valid.insertsAt _ activity, fun gone => ?_⟩
  split
  · next live => exact drops_erase carousel live
  · next absent => exact carousel.erase_of_not_contains gone (Bool.eq_false_iff.2 absent)

end TaskSwitcher.Carousel
