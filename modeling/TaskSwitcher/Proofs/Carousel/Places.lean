import TaskSwitcher.Proofs.Carousel.Validity

/-!
# Places on the strip

The strip is parted at the first card that has a property, or behind the last card of a group. What looking
for a card finds, and what changing, adding or removing one does, is stated for the parts: only the place in
the middle is touched.
-/

namespace TaskSwitcher.Carousel

/-- The first card with a property, and what stands in front of it and behind it. -/
structure FirstWith (carousel : Carousel) (matching : Activity → Bool)
    (front : List (Handle × Activity)) (handle : Handle) (activity : Activity)
    (back : List (Handle × Activity)) : Prop where
  split : carousel.entries = front ++ (handle, activity) :: back
  has : matching activity = true
  earlier : ∀ entry ∈ front, matching entry.2 = false

/-- The first card with a property is on the strip. -/
theorem FirstWith.mem_entries {carousel : Carousel} {matching : Activity → Bool}
    {front back : List (Handle × Activity)} {handle : Handle} {activity : Activity}
    (first : carousel.FirstWith matching front handle activity back) :
    (handle, activity) ∈ carousel.entries := by
  rw [first.split]
  exact List.mem_append_right front List.mem_cons_self

/-- How the strip is parted for a new card whose parent is of the application `parent`. -/
inductive PartedFor (parent : Option String) :
    List (Handle × Activity) → List (Handle × Activity) → Prop where
  /-- The last card of the group stands directly in front of the new card. -/
  | behindGroup {appId : String} {earlier back : List (Handle × Activity)} {last : Handle × Activity}
      (known : parent = some appId) (member : inGroup appId last.2 = true)
      (others : ∀ entry ∈ back, inGroup appId entry.2 = false) :
      PartedFor parent (earlier ++ [last]) back
  /-- Where there is no group, all cards stand in front of the new card. -/
  | atEnd {front : List (Handle × Activity)}
      (groupless : ∀ appId, parent = some appId → ∀ entry ∈ front, inGroup appId entry.2 = false) :
      PartedFor parent front []

/-! ### Looking for a place -/

section

variable (carousel : Carousel) {matching : Activity → Bool} {handle : Handle}

/-- Looking for a property finds the first card that has it. -/
theorem findHandle?_eq_some_iff :
    carousel.findHandle? matching = some handle ↔
      ∃ front activity back, carousel.FirstWith matching front handle activity back := by
  rw [findHandle?, Option.map_eq_some_iff]
  constructor
  · rintro ⟨⟨found, activity⟩, search, rfl⟩
    obtain ⟨has, front, back, split, earlier⟩ := List.find?_eq_some_iff_append.1 search
    exact ⟨front, activity, back, split, has, by simpa using earlier⟩
  · rintro ⟨front, activity, back, split, has, earlier⟩
    refine ⟨(handle, activity), List.find?_eq_some_iff_append.2 ⟨has, front, back, split, ?_⟩, rfl⟩
    simpa using earlier

/-- Nothing is found exactly when no card has the property. -/
theorem findHandle?_eq_none_iff_entries :
    carousel.findHandle? matching = none ↔
      ∀ entry ∈ carousel.entries, matching entry.2 = false := by
  rw [findHandle?_eq_none_iff, activities, List.forall_mem_map]

variable {carousel} {appId : String} {earlier back : List (Handle × Activity)}
  {last : Handle × Activity}

/-- Whether there is a last card of a group, and which one that is. -/
theorem exists_last_of_group (carousel : Carousel) (appId : String) :
    (∀ entry ∈ carousel.entries, inGroup appId entry.2 = false) ∨
      ∃ earlier last back, carousel.entries = earlier ++ last :: back ∧
        inGroup appId last.2 = true ∧ ∀ entry ∈ back, inGroup appId entry.2 = false := by
  cases search : carousel.entries.reverse.find? fun entry => inGroup appId entry.2 with
  | none =>
      left
      intro entry member
      simpa using List.find?_eq_none.1 search entry (List.mem_reverse.2 member)
  | some last =>
      right
      obtain ⟨member, behind, before, split, others⟩ := List.find?_eq_some_iff_append.1 search
      refine ⟨before.reverse, last, behind.reverse, ?_, member, ?_⟩
      · rw [← List.reverse_reverse carousel.entries, split]
        simp
      · intro entry within
        simpa using others entry (List.mem_reverse.1 within)

/-- A group without cards has no end. -/
theorem groupEnd?_eq_none (groupless : ∀ entry ∈ carousel.entries, inGroup appId entry.2 = false) :
    carousel.groupEnd? appId = none := by
  rw [groupEnd?, Option.map_eq_none_iff, List.findIdx?_eq_none_iff]
  intro activity member
  obtain ⟨entry, within, rfl⟩ := List.mem_map.1 (List.mem_reverse.1 member)
  exact groupless entry within

end

/-! ### What happens at a place -/

section

variable {carousel : Carousel} (valid : carousel.Valid) {front back : List (Handle × Activity)}
  {handle : Handle} {activity : Activity}

include valid

/-- In a valid carousel each handle of the order has its card. -/
theorem Valid.length_entries : carousel.entries.length = carousel.length := by
  rw [length, ← valid.map_fst_entries, List.length_map]

/-- The end of a group is behind its last card. -/
theorem Valid.groupEnd?_of_split {appId : String} {last : Handle × Activity}
    (split : carousel.entries = front ++ last :: back) (member : inGroup appId last.2 = true)
    (others : ∀ entry ∈ back, inGroup appId entry.2 = false) :
    carousel.groupEnd? appId = some (front.length + 1) := by
  have none : (back.map (·.2)).reverse.findIdx? (inGroup appId) = none := by
    rw [List.findIdx?_eq_none_iff]
    intro activity within
    obtain ⟨entry, inBack, rfl⟩ := List.mem_map.1 (List.mem_reverse.1 within)
    exact others entry inBack
  have behind : carousel.activities.reverse.findIdx? (inGroup appId) = some back.length := by
    rw [activities, split, List.map_append, List.map_cons, List.reverse_append, List.reverse_cons,
      List.append_assoc, List.findIdx?_append, none]
    simp [List.findIdx?_cons, member]
  have all : carousel.length = front.length + (back.length + 1) := by
    rw [← valid.length_entries, split, List.length_append, List.length_cons]
  rw [groupEnd?, behind, Option.map_some, all]
  congr 1
  omega

/-- No other card has the handle of a card. -/
theorem Valid.apart_of_split (split : carousel.entries = front ++ (handle, activity) :: back) :
    ∀ entry ∈ front ++ back, entry.1 ≠ handle := by
  have distinct := valid.order_nodup
  rw [← valid.map_fst_entries, split, List.map_append, List.map_cons, List.nodup_middle,
    List.nodup_cons, ← List.map_append] at distinct
  intro entry member same
  exact distinct.1 (List.mem_map.2 ⟨entry, member, same⟩)

/-- In a valid carousel the handle of an entry finds the card of that entry. -/
theorem Valid.get?_of_split (split : carousel.entries = front ++ (handle, activity) :: back) :
    carousel.get? handle = some activity := by
  rw [← valid.mem_entries_iff, split]
  exact List.mem_append_right front List.mem_cons_self

/-- A changed card keeps its place. -/
theorem Valid.entries_modify_of_split
    (split : carousel.entries = front ++ (handle, activity) :: back)
    (change : Activity → Activity) :
    (carousel.modify handle change).entries = front ++ (handle, change activity) :: back := by
  have apart := valid.apart_of_split split
  have others (part : List (Handle × Activity)) (within : part ⊆ front ++ back) :
      (part.map fun entry => if entry.1 = handle then (entry.1, change entry.2) else entry) =
        part := by
    refine (List.map_congr_left fun entry member => ?_).trans (List.map_id part)
    rw [if_neg (apart entry (within member)), id]
  rw [entries_modify, split, List.map_append, List.map_cons, if_pos rfl,
    others front (List.subset_append_left ..), others back (List.subset_append_right ..)]

/-- A new card stands where the strip was parted. -/
theorem Valid.entries_insert_of_split (split : carousel.entries = front ++ back)
    (activity : Activity) :
    (carousel.insert front.length activity).entries =
      front ++ (carousel.nextHandle, activity) :: back := by
  rw [valid.entries_insert, split, List.take_left, List.drop_left]

/-- Without a card the parts on both sides of it are left. -/
theorem Valid.entries_erase_of_split
    (split : carousel.entries = front ++ (handle, activity) :: back) :
    (carousel.erase handle).entries = front ++ back := by
  have apart := valid.apart_of_split split
  have others (part : List (Handle × Activity)) (within : part ⊆ front ++ back) :
      (part.filter fun entry => entry.1 ≠ handle) = part := by
    rw [List.filter_eq_self]
    intro entry member
    simpa using apart entry (within member)
  rw [entries_erase, split, List.filter_append, List.filter_cons_of_neg (by simp),
    others front (List.subset_append_left ..), others back (List.subset_append_right ..)]

end

end TaskSwitcher.Carousel
