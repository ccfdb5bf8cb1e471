import Mathlib.Data.List.Perm.Basic
import TaskSwitcher.Proofs.Carousel.Validity

/-!
# Who is on the strip

The roster of a carousel says what each card stands for: a window, or a launch that waits for one. Most
changes of a carousel are steady: they keep it valid and leave the roster alone. The others add a card,
take one away, or give a splash its window; what these do to the windows shown is stated up to order.
-/

namespace TaskSwitcher

/-- What a card stands for. -/
inductive Occupant where
  | window (id : WindowId)
  | launch (startupId : StartupId)
deriving DecidableEq

/-- The window that an occupant is, if it is one. -/
def Occupant.window? : Occupant → Option WindowId
  | window id => some id
  | launch _ => none

namespace Activity

variable (activity : Activity)

/-- What the card stands for. -/
def occupant : Occupant :=
  match activity.phase with
  | .launching startupId _ => .launch startupId
  | .running window _ => .window window

/-- The window of a card can be read off what the card stands for. -/
theorem window?_occupant : activity.occupant.window? = activity.window? := by
  unfold occupant window?
  cases activity.phase <;> rfl

/-- Only a splash can wait too long. -/
theorem window?_of_launchExpired {now timeout : Nat}
    (expired : activity.launchExpired now timeout = true) : activity.window? = none := by
  unfold launchExpired at expired
  unfold window?
  cases phase : activity.phase with
  | launching startupId startedAt => rfl
  | running window pending => simp [phase] at expired

@[simp] theorem occupant_showing (window : Window) :
    (activity.showing window).occupant = activity.occupant :=
  rfl

@[simp] theorem occupant_withArea (area : Size) :
    (activity.withArea area).occupant = activity.occupant :=
  rfl

@[simp] theorem occupant_withFullscreen (fullscreen : Bool) :
    (activity.withFullscreen fullscreen).occupant = activity.occupant :=
  rfl

@[simp] theorem occupant_withAllocation (size : Size) :
    (activity.withAllocation size).occupant = activity.occupant :=
  rfl

@[simp] theorem occupant_awaiting (request : Option ThumbnailRequest) :
    (activity.awaiting request).occupant = activity.occupant := by
  unfold awaiting occupant
  cases given : activity.phase <;> simp [given]

@[simp] theorem occupant_receive (request : ThumbnailRequest) :
    (activity.receive request).occupant = activity.occupant := by
  unfold receive
  split
  · exact activity.occupant_awaiting none
  · rfl

@[simp] theorem window?_awaiting (request : Option ThumbnailRequest) :
    (activity.awaiting request).window? = activity.window? := by
  rw [← window?_occupant, occupant_awaiting, window?_occupant]

@[simp] theorem window?_receive (request : ThumbnailRequest) :
    (activity.receive request).window? = activity.window? := by
  rw [← window?_occupant, occupant_receive, window?_occupant]

end Activity

namespace Carousel

/-- The handles in their order, each with what its card stands for. -/
def roster (carousel : Carousel) : List (Handle × Occupant) :=
  carousel.entries.map fun entry => (entry.1, entry.2.occupant)

/-- The windows shown, in the order of their cards. -/
def windows (carousel : Carousel) : List WindowId :=
  carousel.activities.filterMap Activity.window?

section

variable (carousel : Carousel) (handle : Handle) (id : WindowId)

/-- The windows shown can be read off the roster. -/
theorem windows_eq_roster :
    carousel.windows = carousel.roster.filterMap fun entry => entry.2.window? := by
  simp only [windows, activities, roster, List.filterMap_map, Function.comp_def,
    Activity.window?_occupant]

/-- A window is shown when some card of the strip has it. -/
theorem mem_windows :
    id ∈ carousel.windows ↔
      ∃ handle activity, (handle, activity) ∈ carousel.entries ∧ activity.window? = some id := by
  simp only [windows, List.mem_filterMap, mem_activities]
  constructor
  · rintro ⟨activity, ⟨handle, member⟩, shows⟩
    exact ⟨handle, activity, member, shows⟩
  · rintro ⟨handle, activity, member, shows⟩
    exact ⟨activity, ⟨handle, member⟩, shows⟩

/-- The search by window fails exactly for the windows that are not shown. -/
theorem findByWindow?_eq_none_iff : carousel.findByWindow? id = none ↔ id ∉ carousel.windows := by
  simp [findByWindow?, findHandle?_eq_none_iff, windows]

/-- The card that the search by window finds has that window. -/
theorem exists_of_findByWindow?_eq_some (found : carousel.findByWindow? id = some handle) :
    ∃ activity, (handle, activity) ∈ carousel.entries ∧ activity.window? = some id := by
  obtain ⟨activity, member, shows⟩ := carousel.exists_of_findHandle?_eq_some handle found
  exact ⟨activity, member, by simpa using shows⟩

end

/-! ### Steady changes -/

/-- `after` comes from `before` by a change that keeps it valid and leaves the roster alone. -/
structure Steady (before after : Carousel) : Prop where
  valid : before.Valid → after.Valid
  roster_eq : after.roster = before.roster

namespace Steady

variable {before middle after : Carousel} (carousel : Carousel) (handle : Handle)
  {change : Activity → Activity}

/-- Doing nothing is steady. -/
theorem refl : Steady carousel carousel :=
  ⟨id, rfl⟩

/-- Steady changes one after the other are steady. -/
theorem trans (first : Steady before middle) (second : Steady middle after) :
    Steady before after :=
  ⟨second.valid ∘ first.valid, second.roster_eq.trans first.roster_eq⟩

/-- A steady change shows the same windows in the same order. -/
theorem windows_eq (steady : Steady before after) : after.windows = before.windows := by
  rw [windows_eq_roster, windows_eq_roster, steady.roster_eq]

/-- Changing a card is steady if the card goes on standing for the same. -/
theorem modify (keeps : ∀ activity, (change activity).occupant = activity.occupant) :
    Steady carousel (carousel.modify handle change) where
  valid valid := valid.modify handle change
  roster_eq := by
    simp only [roster, entries_modify, List.map_map]
    refine List.map_congr_left fun entry _ => ?_
    by_cases changed : entry.1 = handle <;> simp [changed, keeps]

/-- A change of all cards is steady when no card comes to stand for something else. -/
theorem mapActivities (keeps : ∀ activity, (change activity).occupant = activity.occupant) :
    Steady carousel (carousel.mapActivities change) where
  valid valid := valid.mapActivities change
  roster_eq := by simp [roster, keeps]

/-- Moving the references and asking for the noted changes does not touch the strip. -/
theorem of_same_strip (valid : before.Valid → after.Valid) (arena : after.arena = before.arena)
    (order : after.order = before.order) : Steady before after :=
  ⟨valid, by rw [roster, entries_eq_of_same_strip arena order, roster]⟩

/-- Moving the focus is steady. -/
theorem focus : Steady carousel (carousel.focus handle) :=
  of_same_strip (·.focus handle) (arena_focus ..) (order_focus ..)

/-- Scrolling is steady. -/
theorem scrollTo : Steady carousel (carousel.scrollTo handle) :=
  of_same_strip (·.scrollTo handle) (arena_scrollTo ..) (order_scrollTo ..)

/-- The signal to scroll is steady. -/
theorem scrollOnly : Steady carousel (carousel.scrollOnly handle) :=
  of_same_strip (·.scrollOnly handle) (arena_scrollOnly ..) (order_scrollOnly ..)

/-- The signal to grab the focus is steady. -/
theorem grabFocus : Steady carousel (carousel.grabFocus handle) :=
  of_same_strip (·.grabFocus handle) (arena_grabFocus ..) (order_grabFocus ..)

/-- Handing over the waiting signals is steady. -/
theorem drain : Steady carousel carousel.drain :=
  of_same_strip Valid.drain rfl rfl

end Steady

/-! ### Changes of the roster -/

section

variable {carousel : Carousel} (handle : Handle)

/-- A handle whose card is given something else to stand for stands for that from now on. -/
theorem roster_modify {change : Activity → Activity} {occupant : Occupant}
    (given : ∀ activity, (change activity).occupant = occupant) :
    (carousel.modify handle change).roster =
      carousel.roster.map fun entry => if entry.1 = handle then (handle, occupant) else entry := by
  simp only [roster, entries_modify, List.map_map]
  refine List.map_congr_left fun entry _ => ?_
  by_cases changed : entry.1 = handle <;> simp [changed, given]

/-- Erasing a card drops its entry from the roster and keeps the others in their order. -/
theorem roster_erase :
    (carousel.erase handle).roster = carousel.roster.filter fun entry => entry.1 ≠ handle := by
  simp only [roster, entries_erase, List.filter_map, Function.comp_def]

variable (valid : carousel.Valid)

include valid

/-- In a valid carousel the roster tells exactly what the card with each handle stands for. -/
theorem Valid.mem_roster_iff (occupant : Occupant) :
    (handle, occupant) ∈ carousel.roster ↔
      ∃ activity, carousel.get? handle = some activity ∧ activity.occupant = occupant := by
  simp only [roster, List.mem_map, Prod.mk.injEq]
  constructor
  · rintro ⟨entry, member, rfl, rfl⟩
    exact ⟨entry.2, (valid.mem_entries_iff ..).1 member, rfl⟩
  · rintro ⟨activity, found, rfl⟩
    exact ⟨(handle, activity), (valid.mem_entries_iff ..).2 found, rfl, rfl⟩

omit handle in
/-- In a valid carousel the roster goes through the handles in their order. -/
theorem Valid.map_fst_roster : carousel.roster.map (·.1) = carousel.order := by
  rw [← valid.map_fst_entries, roster, List.map_map]
  rfl

omit handle in
/-- A new card has its entry at its position, under the handle given out next. -/
theorem Valid.roster_insert (position : Nat) (activity : Activity) :
    (carousel.insert position activity).roster =
      carousel.roster.take position ++
        (carousel.nextHandle, activity.occupant) :: carousel.roster.drop position := by
  simp only [roster, valid.entries_insert, List.map_append, List.map_cons, List.map_take,
    List.map_drop]

end

/-! ### Changes of the windows shown -/

section

variable {carousel : Carousel} (valid : carousel.Valid) {handle : Handle} {activity : Activity}

include valid

/-- A new card adds its window to those shown. -/
theorem Valid.windows_insert (position : Nat) :
    (carousel.insert position activity).windows.Perm
      (activity.window?.toList ++ carousel.windows) := by
  have entries : (carousel.insert position activity).entries.Perm
      ((carousel.nextHandle, activity) :: carousel.entries) := by
    rw [valid.entries_insert]
    refine List.perm_middle.trans (List.Perm.cons _ ?_)
    rw [List.take_append_drop]
  refine ((entries.map (·.2)).filterMap Activity.window?).trans ?_
  cases shows : activity.window? <;> simp [windows, activities, shows]

/-- A card and the cards that its removal leaves are all the cards there are. -/
theorem Valid.entries_perm (found : carousel.get? handle = some activity) :
    carousel.entries.Perm ((handle, activity) :: (carousel.erase handle).entries) := by
  have member := (valid.mem_entries_iff handle activity).2 found
  have distinct := valid.order_nodup
  rw [← valid.map_fst_entries] at distinct
  rw [entries_erase]
  generalize carousel.entries = entries at member distinct
  induction entries with
  | nil => cases member
  | cons first rest inductionHypothesis =>
      rw [List.map_cons, List.nodup_cons] at distinct
      rcases List.mem_cons.1 member with rfl | later
      · have others : rest.filter (fun entry => entry.1 ≠ handle) = rest := by
          refine List.filter_eq_self.2 fun entry within => ?_
          have apart : entry.1 ≠ handle := fun same =>
            distinct.1 (List.mem_map.2 ⟨entry, within, same⟩)
          simpa using apart
        rw [List.filter_cons_of_neg (by simp), others]
      · have apart : first.1 ≠ handle := fun same =>
          distinct.1 (List.mem_map.2 ⟨(handle, activity), later, same.symm⟩)
        rw [List.filter_cons_of_pos (by simpa using apart)]
        exact ((inductionHypothesis later distinct.2).cons first).trans (List.Perm.swap ..)

/-- Removing a card takes its window from those shown. -/
theorem Valid.windows_perm (found : carousel.get? handle = some activity) :
    carousel.windows.Perm (activity.window?.toList ++ (carousel.erase handle).windows) := by
  refine (((valid.entries_perm found).map (·.2)).filterMap Activity.window?).trans ?_
  cases shows : activity.window? <;> simp [windows, activities, shows]

omit valid in
/-- Changing a card makes no difference to the other cards. -/
theorem entries_erase_modify (carousel : Carousel) (handle : Handle)
    (change : Activity → Activity) :
    ((carousel.modify handle change).erase handle).entries = (carousel.erase handle).entries := by
  simp only [entries_erase, entries_modify, List.filter_map]
  have sameTest : ((fun entry : Handle × Activity => decide (entry.1 ≠ handle)) ∘ fun entry =>
      if entry.1 = handle then (entry.1, change entry.2) else entry) =
      fun entry => decide (entry.1 ≠ handle) := by
    funext entry
    by_cases changed : entry.1 = handle <;> simp [changed]
  rw [sameTest]
  refine (List.map_congr_left fun entry member => ?_).trans (List.map_id _)
  have apart : entry.1 ≠ handle := by simpa using (List.mem_filter.1 member).2
  simp [apart]

/-- A changed card shows what it shows now; the windows of all other cards stay. -/
theorem Valid.windows_modify (change : Activity → Activity)
    (found : carousel.get? handle = some activity) :
    (carousel.modify handle change).windows.Perm
      ((change activity).window?.toList ++ (carousel.erase handle).windows) := by
  have present : (carousel.modify handle change).get? handle = some (change activity) := by
    simp [found]
  have others : ((carousel.modify handle change).erase handle).windows =
      (carousel.erase handle).windows := by
    rw [windows, windows, activities, activities, entries_erase_modify]
  exact others ▸ (valid.modify handle change).windows_perm present

end

/-! ### The card of a window -/

/-- The window of the card with this handle. -/
def windowOf? (carousel : Carousel) (handle : Handle) : Option WindowId :=
  (carousel.get? handle).bind Activity.window?

/-- A handle has a window when it finds a card with this window. -/
theorem windowOf?_eq_some_iff (carousel : Carousel) (handle : Handle) (id : WindowId) :
    carousel.windowOf? handle = some id ↔
      ∃ activity, carousel.get? handle = some activity ∧ activity.window? = some id :=
  Option.bind_eq_some_iff

/-- The handle that the search by window finds has that window. -/
theorem windowOf?_of_findByWindow? {carousel : Carousel} {handle : Handle} {id : WindowId}
    (search : carousel.findByWindow? id = some handle) : carousel.windowOf? handle = some id := by
  obtain ⟨activity, member, shows⟩ := exists_of_findByWindow?_eq_some _ _ _ search
  have found := ((carousel.mem_entries ..).1 member).2
  exact (windowOf?_eq_some_iff ..).2 ⟨activity, found, shows⟩

section

variable {carousel : Carousel} (valid : carousel.Valid)

include valid

/-- In a valid carousel the windows shown are the windows of the handles. -/
theorem Valid.mem_windows_iff (id : WindowId) :
    id ∈ carousel.windows ↔ ∃ handle, carousel.windowOf? handle = some id := by
  simp only [mem_windows, windowOf?_eq_some_iff, valid.mem_entries_iff]

variable (distinct : carousel.windows.Nodup)

include distinct

/-- Where the windows shown are distinct, two cards never show the same one. -/
theorem Valid.eq_of_windowOf?_eq {first second : Handle} {id : WindowId}
    (firstShows : carousel.windowOf? first = some id)
    (secondShows : carousel.windowOf? second = some id) : first = second := by
  obtain ⟨card, found, window⟩ := (windowOf?_eq_some_iff ..).1 firstShows
  by_contra different
  -- The second card is still there without the first, and shows the same window.
  have left : (carousel.erase first).windowOf? second = some id := by
    rwa [windowOf?, get?_erase, if_neg (Ne.symm different)]
  have again := ((valid.erase first).mem_windows_iff id).2 ⟨second, left⟩
  have once := (valid.windows_perm found).nodup_iff.1 distinct
  rw [window] at once
  exact (List.nodup_cons.1 once).1 again

/-- Looking for the card of a window finds the only one. -/
theorem Valid.findByWindow?_eq_some_iff (id : WindowId) (handle : Handle) :
    carousel.findByWindow? id = some handle ↔ carousel.windowOf? handle = some id := by
  refine ⟨windowOf?_of_findByWindow?, fun shows => ?_⟩
  cases search : carousel.findByWindow? id with
  | none =>
      rw [findByWindow?_eq_none_iff, valid.mem_windows_iff] at search
      exact absurd ⟨handle, shows⟩ search
  | some found =>
      rw [valid.eq_of_windowOf?_eq distinct (windowOf?_of_findByWindow? search) shows]

end

/-- The carousel is valid and shows no window twice. -/
structure Proper (carousel : Carousel) : Prop where
  valid : carousel.Valid
  distinct : carousel.windows.Nodup

/-- Nothing is shown twice on the empty strip. -/
theorem proper_empty : ({} : Carousel).Proper :=
  ⟨valid_empty, List.nodup_nil⟩

/-! ### Exactly these windows -/

/-- The carousel is valid and shows the listed windows, each as often as it is listed, and no others. -/
structure Shows (carousel : Carousel) (shown : List WindowId) : Prop where
  valid : carousel.Valid
  perm : carousel.windows.Perm shown

/-- A valid carousel shows the windows that it shows. -/
theorem Valid.shows {carousel : Carousel} (valid : carousel.Valid) :
    carousel.Shows carousel.windows :=
  ⟨valid, .refl _⟩

namespace Shows

variable {carousel after : Carousel} {shown : List WindowId} (shows : carousel.Shows shown)
  {handle : Handle} {activity : Activity}

include shows

/-- A steady change shows what was shown. -/
theorem steady (steady : Steady carousel after) : after.Shows shown :=
  ⟨steady.valid shows.valid, steady.windows_eq ▸ shows.perm⟩

/-- A new card adds its window, if it has one, to what is shown. -/
theorem insert (position : Nat) (activity : Activity) :
    (carousel.insert position activity).Shows (activity.window?.toList ++ shown) :=
  ⟨shows.valid.insert position activity,
    (shows.valid.windows_insert position).trans (shows.perm.append_left _)⟩

/-- Removing a card takes away the window it shows, and nothing if it is a splash. -/
theorem erase (found : carousel.get? handle = some activity) :
    (carousel.erase handle).Shows (shown.diff activity.window?.toList) := by
  refine ⟨shows.valid.erase handle, ?_⟩
  have split := shows.perm.symm.trans (shows.valid.windows_perm found)
  cases showing : activity.window? with
  | none => simpa [showing] using split.symm
  | some id =>
      rw [showing] at split
      simpa using (split.erase id).symm

/-- A splash that is given a window adds it to those shown. -/
theorem bind {id : WindowId} (change : Activity → Activity)
    (found : carousel.get? handle = some activity) (splash : activity.window? = none)
    (bound : (change activity).window? = some id) :
    (carousel.modify handle change).Shows (id :: shown) := by
  refine ⟨shows.valid.modify handle change, (shows.valid.windows_modify change found).trans ?_⟩
  have others := shows.valid.windows_perm found
  rw [splash] at others
  rw [bound]
  exact (others.symm.trans shows.perm).cons id

end Shows

end Carousel

end TaskSwitcher
