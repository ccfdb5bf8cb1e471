import TaskSwitcher.Carousel.Lemmas

/-!
# Cards without their pictures

The outline of a card leaves out whether its picture is there and which picture it waits for. Cards are
looked up, ordered and changed by what their outlines show: everything that is asked of a strip can be asked
of its outline, and each operation does to the outline what it does to the strip.
-/

namespace TaskSwitcher

/-! ### Arenas with all values changed -/

namespace Slot

variable {α : Type} (slot : Slot α) (version : UInt32) {change view other : α → α}
  (agree : ∀ value, view (change value) = other (view value))

include agree

/-- The view of a changed slot is the viewed slot, changed as the view says. -/
theorem change_change : (slot.change change).change view = (slot.change view).change other := by
  have content : (slot.content.map change).map view = (slot.content.map view).map other := by
    cases slot.content with
    | none => rfl
    | some value => exact congrArg some (agree value)
  exact congrArg (Slot.mk slot.version) content

/-- A slot of another version is passed over on both sides, so the view goes through here as well. -/
theorem change_changeAt :
    (slot.changeAt version change).change view = (slot.change view).changeAt version other := by
  unfold changeAt
  have version_change : (slot.change view).version = slot.version := rfl
  rw [version_change]
  split
  · exact slot.change_change agree
  · rfl

end Slot

namespace Arena

variable {α : Type} (arena : Arena α) (handle : Handle) (value : α) (view : α → α)

/-- A view of all values kills no handle and revives none. -/
theorem contains_map : (arena.map view).contains handle = arena.contains handle := by
  rw [contains, get?_map, Option.isSome_map, contains]

/-- The handle given out next hangs on versions and free slots, which a view leaves alone. -/
theorem next_map : (arena.map view).next = arena.next := by
  unfold next map
  cases arena.free with
  | nil => simp
  | cons slot free =>
      have version : ((arena.slots.map (·.change view))[slot]?.map Slot.version) =
          arena.slots[slot]?.map Slot.version := by
        rw [List.getElem?_map, Option.map_map]
        rfl
      simp only [version]

/-- Viewing commutes with inserting: the same slot is taken on both sides. -/
theorem map_insert : (arena.insert value).map view = (arena.map view).insert (view value) := by
  have same := arena.next_map view
  unfold insert
  rw [same]
  cases freed : arena.free with
  | nil => simp [map, freed, Slot.change]
  | cons slot free => simp [map, freed, Slot.change, List.map_set]

/-- Viewing commutes with removing: the same slot is freed on both sides. -/
theorem map_remove : (arena.remove handle).map view = (arena.map view).remove handle := by
  unfold remove
  rw [contains_map]
  split
  · simp [map, Slot.change, List.map_set]
  · rfl

/-- A change of one value is, through the view, the change that the view shows. -/
theorem map_modify {change other : α → α} (agree : ∀ value, view (change value) = other (view value)) :
    (arena.modify handle change).map view = (arena.map view).modify handle other := by
  have slots : (arena.slots.modify handle.slot (·.changeAt handle.version change)).map
      (·.change view) =
      (arena.slots.map (·.change view)).modify handle.slot (·.changeAt handle.version other) := by
    refine List.ext_getElem? fun position => ?_
    rw [List.getElem?_map, List.getElem?_modify, List.getElem?_modify, List.getElem?_map]
    cases arena.slots[position]? with
    | none => rfl
    | some slot =>
        by_cases here : handle.slot = position
        · simpa [here] using slot.change_changeAt handle.version agree
        · simp [here]
  exact congrArg (Arena.mk · arena.free) slots

/-- A change of what the view leaves out is not seen. -/
theorem map_modify_of_hidden {change : α → α} (hidden : ∀ value, view (change value) = view value) :
    (arena.modify handle change).map view = arena.map view := by
  have unchanged : (fun slot : Slot α => slot.changeAt handle.version id) = id := by
    funext slot
    simp [Slot.changeAt, Slot.change]
  have agree (value : α) : view (change value) = id (view value) := hidden value
  rw [arena.map_modify handle view agree, modify, unchanged, List.modify_id]

/-- A change of all values that the view lets through can be made before the view or after it. -/
theorem map_map_comm {change : α → α} (agree : ∀ value, view (change value) = change (view value)) :
    (arena.map change).map view = (arena.map view).map change := by
  simp [map, Function.comp_def, Slot.change_change _ agree]

end Arena

/-! ### The outline of a card -/

/-- The phase with nothing said about a picture. -/
def Phase.outline : Phase → Phase
  | launching startupId startedAt => launching startupId startedAt
  | running window _ => running window none

namespace Activity

/-- The card with nothing said about its picture. -/
def outline (activity : Activity) : Activity :=
  { activity with hasThumbnail := false, phase := activity.phase.outline }

variable (activity : Activity)

@[simp] theorem window?_outline : activity.outline.window? = activity.window? := by
  obtain ⟨_, _, _, _, _, _, _, _, phase⟩ := activity
  cases phase <;> rfl

@[simp] theorem startupId?_outline : activity.outline.startupId? = activity.startupId? := by
  obtain ⟨_, _, _, _, _, _, _, _, phase⟩ := activity
  cases phase <;> rfl

@[simp] theorem isRunning_outline : activity.outline.isRunning = activity.isRunning := by
  rw [isRunning, window?_outline, isRunning]

@[simp] theorem thumbnailSize_outline : activity.outline.thumbnailSize = activity.thumbnailSize :=
  rfl

@[simp] theorem launchExpired_outline (now timeout : Nat) :
    activity.outline.launchExpired now timeout = activity.launchExpired now timeout := by
  obtain ⟨_, _, _, _, _, _, _, _, phase⟩ := activity
  cases phase <;> rfl

@[simp] theorem outline_awaiting (request : Option ThumbnailRequest) :
    (activity.awaiting request).outline = activity.outline := by
  obtain ⟨_, _, _, _, _, _, _, _, phase⟩ := activity
  cases phase <;> rfl

@[simp] theorem outline_receive (request : ThumbnailRequest) :
    (activity.receive request).outline = activity.outline := by
  unfold receive
  split
  · exact activity.outline_awaiting none
  · rfl

/-- How large a picture a card asks for does not depend on the picture that it waits for. -/
theorem thumbnailSize_awaiting (request : Option ThumbnailRequest) :
    (activity.awaiting request).thumbnailSize = activity.thumbnailSize := by
  rw [← thumbnailSize_outline, outline_awaiting, thumbnailSize_outline]

/-- What can be seen on the outline is shared by cards with the same outline. -/
theorem of_outline_eq {motive : Activity → Prop}
    (seen : ∀ activity, motive activity.outline ↔ motive activity) {first second : Activity}
    (same : first.outline = second.outline) (holds : motive second) : motive first := by
  rw [← seen, same, seen]
  exact holds

/-- Cards with the same outline wait for the window of one launch or show one window. -/
theorem phase_cases_of_outline_eq {first second : Activity} (same : first.outline = second.outline) :
    (∃ startupId startedAt, first.phase = .launching startupId startedAt ∧
      second.phase = .launching startupId startedAt) ∨
      ∃ window pending other, first.phase = .running window pending ∧
        second.phase = .running window other := by
  have phases : first.phase.outline = second.phase.outline := congrArg phase same
  cases one : first.phase with
  | launching startupId startedAt =>
      cases two : second.phase with
      | launching otherId otherStart =>
          rw [one, two] at phases
          cases phases
          exact .inl ⟨startupId, startedAt, rfl, rfl⟩
      | running window pending =>
          rw [one, two] at phases
          cases phases
  | running window pending =>
      cases two : second.phase with
      | launching startupId startedAt =>
          rw [one, two] at phases
          cases phases
      | running otherWindow other =>
          rw [one, two] at phases
          cases phases
          exact .inr ⟨window, pending, other, rfl, rfl⟩

end Activity

/-! ### The outline of a strip -/

namespace Carousel

/-- The strip with nothing said about the pictures of its cards. -/
def outline (carousel : Carousel) : Carousel :=
  carousel.mapActivities Activity.outline

variable (carousel : Carousel) (handle : Handle) (position : Nat) (activity : Activity)

/-! #### What can be asked -/

/-- A handle finds the outline of the card that it finds in the strip. -/
theorem get?_outline : carousel.outline.get? handle = (carousel.get? handle).map Activity.outline :=
  carousel.get?_mapActivities handle Activity.outline

/-- With one outline, a handle finds a card in both strips or in neither, and then cards with one outline. -/
theorem get?_cases_of_outline_eq {first second : Carousel} (same : first.outline = second.outline)
    (handle : Handle) :
    (first.get? handle = none ∧ second.get? handle = none) ∨
      ∃ one two, first.get? handle = some one ∧ second.get? handle = some two ∧
        one.outline = two.outline := by
  have found : (first.get? handle).map Activity.outline =
      (second.get? handle).map Activity.outline := by
    rw [← get?_outline, same, get?_outline]
  cases one : first.get? handle with
  | none =>
      rw [one, Option.map_none, eq_comm, Option.map_eq_none_iff] at found
      exact .inl ⟨rfl, found⟩
  | some activity =>
      rw [one, Option.map_some, eq_comm, Option.map_eq_some_iff] at found
      obtain ⟨other, present, outlined⟩ := found
      exact .inr ⟨activity, other, rfl, present, outlined.symm⟩

@[simp] theorem contains_outline : carousel.outline.contains handle = carousel.contains handle :=
  carousel.contains_mapActivities handle Activity.outline

@[simp] theorem nextHandle_outline : carousel.outline.nextHandle = carousel.nextHandle :=
  carousel.arena.next_map Activity.outline

@[simp] theorem resolve?_outline (reference : ActivityRef) :
    carousel.outline.resolve? reference = carousel.resolve? reference := by
  cases reference with
  | id handle => simp only [resolve?, contains_outline]
  | page index => rfl

/-- A search for something that shows on outlines finds the same handle in the outline. -/
theorem findHandle?_outline {matching : Activity → Bool}
    (blind : ∀ activity, matching activity.outline = matching activity) :
    carousel.outline.findHandle? matching = carousel.findHandle? matching := by
  rw [findHandle?, outline, entries_mapActivities, List.find?_map, Option.map_map, findHandle?]
  have asked : (fun entry : Handle × Activity => matching entry.2) ∘
      (fun entry : Handle × Activity => (entry.1, entry.2.outline)) =
      fun entry => matching entry.2 := funext fun entry => blind entry.2
  rw [asked]
  rfl

@[simp] theorem findByWindow?_outline (window : WindowId) :
    carousel.outline.findByWindow? window = carousel.findByWindow? window :=
  carousel.findHandle?_outline fun activity => by rw [activity.window?_outline]

@[simp] theorem findByAppInfo?_outline (appInfo : AppInfo) :
    carousel.outline.findByAppInfo? appInfo = carousel.findByAppInfo? appInfo :=
  carousel.findHandle?_outline fun _ => rfl

@[simp] theorem findByStartupId?_outline (startupId : StartupId) :
    carousel.outline.findByStartupId? startupId = carousel.findByStartupId? startupId :=
  carousel.findHandle?_outline fun activity => by rw [activity.startupId?_outline]

@[simp] theorem groupEnd?_outline (appId : String) :
    carousel.outline.groupEnd? appId = carousel.groupEnd? appId := by
  have activities : carousel.outline.activities = carousel.activities.map Activity.outline := by
    rw [Carousel.activities, outline, entries_mapActivities, List.map_map, Carousel.activities,
      List.map_map]
    rfl
  rw [groupEnd?, activities, ← List.map_reverse, List.findIdx?_map]
  rfl

/-! #### What can be done -/

/-- The signal that the strip is empty, or no longer, goes by the order of the handles alone. -/
theorem outline_noteOccupancy : carousel.noteOccupancy.outline = carousel.outline.noteOccupancy := by
  unfold noteOccupancy
  have same : carousel.outline.occupied = carousel.occupied := rfl
  rw [same]
  split
  · next noted =>
      have alsoNoted : carousel.occupied = carousel.outline.hasActivities := noted
      rw [if_pos alsoNoted]
  · next changed =>
      have alsoChanged : ¬ carousel.occupied = carousel.outline.hasActivities := changed
      rw [if_neg alsoChanged]
      rfl

/-- A new card has the same place and the same handle in the outline. -/
theorem outline_insert :
    (carousel.insert position activity).outline =
      carousel.outline.insert position activity.outline := by
  rw [insert, outline_noteOccupancy, insert, nextHandle_outline]
  exact congrArg (fun arena => noteOccupancy { carousel with
      arena
      order := carousel.order.take position ++ carousel.nextHandle :: carousel.order.drop position })
    (carousel.arena.map_insert activity Activity.outline)

/-- A card that leaves the strip leaves its outline. -/
theorem outline_erase : (carousel.erase handle).outline = carousel.outline.erase handle := by
  unfold erase
  rw [contains_outline]
  split
  · rw [outline_noteOccupancy]
    exact congrArg (fun arena => noteOccupancy { carousel with
        arena
        order := carousel.order.filter (· ≠ handle)
        focused := withoutReference handle carousel.focused
        scrollTarget := withoutReference handle carousel.scrollTarget
        keyFocus := withoutReference handle carousel.keyFocus })
      (carousel.arena.map_remove handle Activity.outline)
  · rfl

/-- A change of one card that its outline shows can be made on the outline. -/
theorem outline_modify {change : Activity → Activity}
    (agree : ∀ activity, (change activity).outline = change activity.outline) :
    (carousel.modify handle change).outline = carousel.outline.modify handle change :=
  congrArg (fun arena => { carousel with arena })
    (carousel.arena.map_modify handle Activity.outline agree)

/-- A change of a picture does not show. -/
theorem outline_modify_of_hidden {change : Activity → Activity}
    (hidden : ∀ activity, (change activity).outline = activity.outline) :
    (carousel.modify handle change).outline = carousel.outline :=
  congrArg (fun arena => { carousel with arena })
    (carousel.arena.map_modify_of_hidden handle Activity.outline hidden)

/-- A change of all cards that their outlines show can be made on the outline. -/
theorem outline_mapActivities {change : Activity → Activity}
    (agree : ∀ activity, (change activity).outline = change activity.outline) :
    (carousel.mapActivities change).outline = carousel.outline.mapActivities change :=
  congrArg (fun arena => { carousel with arena })
    (carousel.arena.map_map_comm Activity.outline agree)

/-- The outline keeps the focus. -/
theorem outline_focus : (carousel.focus handle).outline = carousel.outline.focus handle := by
  unfold focus
  rw [contains_outline]
  split <;> rfl

/-- The outline is scrolled with the strip. -/
theorem outline_scrollTo : (carousel.scrollTo handle).outline = carousel.outline.scrollTo handle := by
  unfold scrollTo
  rw [contains_outline]
  split <;> rfl

/-- The outline sends the signal to scroll with the strip. -/
theorem outline_scrollOnly :
    (carousel.scrollOnly handle).outline = carousel.outline.scrollOnly handle := by
  unfold scrollOnly
  rw [contains_outline]
  split <;> rfl

/-- The outline sends the signal to grab the focus with the strip. -/
theorem outline_grabFocus :
    (carousel.grabFocus handle).outline = carousel.outline.grabFocus handle := by
  unfold grabFocus
  rw [contains_outline]
  split <;> rfl

/-! ### Changes that pictures have no part in -/

/-- What shows of the changed strip depends on what shows of the strip alone. -/
def Blind (change : Carousel → Carousel) : Prop :=
  ∀ first second, first.outline = second.outline → (change first).outline = (change second).outline

namespace Blind

variable {change : Carousel → Carousel}

/-- What can be done on the outline instead depends on the outline alone. -/
theorem of_commutes (commutes : ∀ carousel, (change carousel).outline = change carousel.outline) :
    Blind change := by
  intro first second same
  rw [commutes, same, commutes]

/-- Putting a card into the strip looks at no picture. -/
theorem insert : Blind (·.insert position activity) := by
  intro first second same
  rw [outline_insert, same, outline_insert]

/-- Taking a card off the strip looks at no picture. -/
theorem erase : Blind (·.erase handle) :=
  .of_commutes fun carousel => carousel.outline_erase handle

/-- A change of one card is blind when its outline shows what it does. -/
theorem modify {change : Activity → Activity}
    (agree : ∀ activity, (change activity).outline = change activity.outline) :
    Blind (·.modify handle change) :=
  .of_commutes fun carousel => carousel.outline_modify handle agree

/-- Fitting the cards into another area looks at no picture. -/
theorem area (area : Size) : Blind (·.mapActivities (·.withArea area)) :=
  .of_commutes fun carousel => carousel.outline_mapActivities fun _ => rfl

/-- Moving the focus and scrolling there looks at no picture. -/
theorem focus : Blind fun carousel => (carousel.focus handle).scrollTo handle := by
  refine .of_commutes fun carousel => ?_
  rw [outline_scrollTo, outline_focus]

/-- The signal to scroll looks at no picture. -/
theorem scrollOnly : Blind (·.scrollOnly handle) :=
  .of_commutes fun carousel => carousel.outline_scrollOnly handle

/-- The signal to grab the focus looks at no picture. -/
theorem grabFocus : Blind (·.grabFocus handle) :=
  .of_commutes fun carousel => carousel.outline_grabFocus handle

end Blind

end Carousel

end TaskSwitcher
